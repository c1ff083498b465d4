import E203.Csr.File
import E203.Decode.Csr
import E203.Exec.Trap
import E203.Exec.Write
import E203.Fetch.Operands
import E203.Isa.RV32I

/-! # CSR instructions read, modify and write

A CSR instruction in the IR writes nothing until it commits.  When it commits, the destination gets
the old value of the CSR and the CSR with its number the new one; all other CSRs are as in the same
cycle without the write.  Through the extension interface this is so only when a set or clear does not
depend on the old value: the word that is written there is made with the answer of the CSR file, which
is zero.

* `Exu.CsrAt`: the IR holds a CSR instruction; what it reads and writes.
* `CoreCsr.ReadModifyWrite`: what the instruction has to do; `csr_access`: when it does.
-/

namespace E203
set_option autoImplicit false

namespace Exu

/-- The IR holds a CSR instruction, fetched without error, with its operand register. -/
structure CsrAt (s : State) (i : In) (fn : Isa.CsrFn) (dst src : BitVec 5) (imm : Bool)
    (idx : BitVec 12) : Prop where
  word : Isa.decode i.iIr = some (.csr fn dst src imm idx)
  buserr : i.iBuserr = false
  misalgn : i.iMisalgn = false
  rs1idx : imm = false → src ≠ 0#5 → i.iRs1idx = src

section
variable {s : State} {i : In} {fn : Isa.CsrFn} {dst src : BitVec 5} {imm : Bool}
  {idx : BitVec 12}

theorem CsrAt.wires (h : CsrAt s i fn dst src imm idx) :
    Decode.CsrWires (dec s i) fn dst src imm idx :=
  Decode.csrWires h.word

theorem CsrAt.op_eq (h : CsrAt s i fn dst src imm idx) : Alu.op (alu s i) = .csr := by
  have hil : (alu s i).iIlegl = false := h.wires.legal
  have hbe : (alu s i).iBuserr = false := h.buserr
  have hmis : (alu s i).iMisalgn = false := h.misalgn
  have hgrp : (alu s i).iInfo.grp = GRP_CSR := h.wires.grp
  rw [Alu.op, Alu.ifuExcpOp, hil, hbe, hmis, hgrp]
  rfl

theorem CsrAt.ops (h : CsrAt s i fn dst src imm idx) :
    Alu.csrOp (alu s i) = true ∧ Alu.ifuExcpOp (alu s i) = false ∧ Alu.aluOp (alu s i) = false ∧
      Alu.aguOp (alu s i) = false ∧ Alu.bjpOp (alu s i) = false ∧ Alu.mdvOp (alu s i) = false := by
  obtain ⟨h1, h2, h3, h4, h5, h6⟩ := Alu.op_eq (alu s i)
  rw [h.op_eq] at h1 h2 h3 h4 h5 h6
  exact ⟨h5, h1, h2, h3, h4, h6⟩

theorem CsrAt.info (h : CsrAt s i fn dst src imm idx) :
    (Alu.csr (alu s i)).csrIInfo = Decode.decInfo (dec s i) := by
  change gate (Alu.csrOp (alu s i)) _ = _
  rw [h.ops.1]
  rfl

theorem CsrAt.csrIdx_eq (h : CsrAt s i fn dst src imm idx) : csrIdx s i = idx := by
  rw [csrIdx, Csrctrl.csrIdx, h.info, h.wires.csrIdx]

theorem CsrAt.bits (h : CsrAt s i fn dst src imm idx) :
    Csrctrl.csrrw (Alu.csr (alu s i)) = decide (fn = .rw) ∧
      Csrctrl.csrrs (Alu.csr (alu s i)) = decide (fn = .rs) ∧
      Csrctrl.csrrc (Alu.csr (alu s i)) = decide (fn = .rc) ∧
      Csrctrl.rs1is0 (Alu.csr (alu s i)) = (src == 0#5) := by
  rw [Csrctrl.csrrw, Csrctrl.csrrs, Csrctrl.csrrc, Csrctrl.rs1is0, h.info]
  exact ⟨h.wires.csrrw, h.wires.csrrs, h.wires.csrrc, h.wires.rs1is0⟩

theorem CsrAt.csrWrEn_eq (h : CsrAt s i fn dst src imm idx) :
    csrWrEn s i = ((alu s i).iValid && fn.writes src) := by
  obtain ⟨hrw, hrs, hrc, h0⟩ := h.bits
  rw [csrWrEn, Csrctrl.csrWrEn, csrIValid_eq h.ops.1, hrw, hrs, hrc, h0, Isa.CsrFn.writes, bne]
  cases fn <;> rfl

theorem CsrAt.csrRdEn_eq (h : CsrAt s i fn dst src imm idx)
    (hread : fn = .rw → dst ≠ 0#5) :
    Csrctrl.csrRdEn (Alu.csr (alu s i)) = (alu s i).iValid := by
  obtain ⟨hrw, hrs, hrc, -⟩ := h.bits
  have hrd : (Alu.csr (alu s i)).csrIRdwen = !(dst == 0#5) := by
    change (Alu.csrOp (alu s i) && Decode.decRdwen i.iIr) = _
    rw [h.ops.1, Bool.true_and]
    exact h.wires.rdwen
  rw [Csrctrl.csrRdEn, csrIValid_eq h.ops.1, hrw, hrs, hrc, hrd]
  cases fn
  case rw => simp [hread rfl]
  all_goals simp

theorem CsrAt.csrOp1_eq (h : CsrAt s i fn dst src imm idx) :
    Csrctrl.csrOp1 (Alu.csr (alu s i)) = Isa.csrOperand s.rf.rfR imm src := by
  rw [Csrctrl.csrOp1, Csrctrl.rs1imm, Csrctrl.zimm, h.info, h.wires.rs1imm, h.wires.zimm,
    Isa.csrOperand]
  cases himm : imm
  · have hs1 : (Alu.csr (alu s i)).csrIRs1 = (alu s i).iRs1 := by
      change gate (Alu.csrOp (alu s i)) _ = _
      rw [h.ops.1]
      rfl
    rw [if_neg Bool.false_ne_true, if_neg Bool.false_ne_true, hs1]
    exact iRs1_eq h.wires.rs1idx (h.rs1idx himm)
  · rw [if_pos rfl, if_pos rfl]
    exact (BitVec.setWidth_eq_append (by omega)).symm

theorem CsrAt.wbckCsrDat_eq (h : CsrAt s i fn dst src imm idx) :
    Csrctrl.wbckCsrDat (Alu.csr (alu s i)) =
      fn.next i.readCsrDat (Isa.csrOperand s.rf.rfR imm src) := by
  obtain ⟨hrw, hrs, hrc, -⟩ := h.bits
  have hdat : (Alu.csr (alu s i)).readCsrDat = i.readCsrDat := rfl
  rw [Csrctrl.wbckCsrDat, hrw, hrs, hrc, h.csrOp1_eq, hdat]
  cases fn
  · simp [Isa.CsrFn.next]
  · simp [Isa.CsrFn.next, BitVec.or_comm]
  · simp [Isa.CsrFn.next, BitVec.and_comm]

/-! ### The commit -/

/-- A CSR instruction that commits has been accepted by everything it needs. -/
structure CsrCommit (s : State) (i : In) : Prop where
  valid : (alu s i).iValid = true
  oValid : Csrctrl.csrOValid (Alu.csr (alu s i)) = true
  oReady : aluOReady s i = true
  noLongp : longpWbckOValid s i = false

theorem CsrAt.commit (h : CsrAt s i fn dst src imm idx) (hcmt : cmtEna s i = true) :
    CsrCommit s i := by
  obtain ⟨hcsr, hexcp, halu, hagu, hbjp, hmdv⟩ := h.ops
  rw [cmtEna, Commit.cmtEna, aluCmtValid, Alu.cmtOValid, Bool.and_eq_true, Bool.and_eq_true,
    Bool.and_eq_true] at hcmt
  obtain ⟨⟨⟨-, hov⟩, hwb⟩, hready⟩ := hcmt
  have hvalid : Csrctrl.csrOValid (Alu.csr (alu s i)) = true := by
    simpa [Alu.oValid, hcsr, hexcp, halu, hagu, hbjp, hmdv] using hov
  have hi : (alu s i).iValid = true := by
    rw [Csrctrl.csrOValid, csrIValid_eq hcsr, Bool.and_eq_true] at hvalid
    exact hvalid.1
  have hgrp : (disp s i).dispIInfo.grp = GRP_CSR := h.wires.grp
  have hempty : oitfEmpty s = true := by
    have hd : Disp.dispOAluValid (disp s i) = true := hi
    have hcond := ((Bool.and_eq_true _ _).mp hd).1
    simp only [Disp.dispCondition, Bool.and_eq_true, Disp.dispCsr, hgrp, beq_self_eq_true,
      if_true] at hcond
    exact hcond.1.1.1.1
  refine ⟨hi, hvalid, ?_, (Exu.noLongp hempty).2.1⟩
  rw [aluOReady, Alu.oReady, hwb, Bool.and_true]
  exact hready

theorem CsrAt.rf_eq (h : CsrAt s i fn dst src imm idx) (hcmt : cmtEna s i = true) :
    (step s i).rf =
      if dst = 0#5 then s.rf
      else Function.update s.rf dst (Csrctrl.csrOWbckWdat (Alu.csr (alu s i))) := by
  obtain ⟨hcsr, hexcp, halu, hagu, hbjp, hmdv⟩ := h.ops
  have hwen : (alu s i).iRdwen = !(dst == 0#5) := h.wires.rdwen
  have hidx : Decode.decRdidx i.iIr = dst := h.wires.rdidx
  have hneed : Alu.oNeedWbck s.alu (alu s i) = !(dst == 0#5) := by
    have hilgl : Csrctrl.csrOWbckErr (Alu.csr (alu s i)) = false := rfl
    simp [Alu.oNeedWbck, Alu.wbckORdwen, hwen, Alu.iLongpipe, Alu.mdvILongpipe, Alu.wbckOErr, hcsr,
      hexcp, halu, hagu, hbjp, hilgl]
  have hdat : Alu.wbckOWdat s.alu (alu s i) = Csrctrl.csrOWbckWdat (Alu.csr (alu s i)) := by
    simp [Alu.wbckOWdat, hcsr, hexcp, halu, hagu, hbjp, hmdv]
  rw [step_rf, (h.commit hcmt).noLongp, cmtWrites, hcmt, hneed, hidx, hdat]
  by_cases h0 : dst = 0#5
  · rw [h0]
    rfl
  · rw [beq_false_of_ne h0, if_neg h0]
    rfl

/-- The number belongs to the extension interface. -/
def isExt (idx : BitVec 12) : Bool := idx.extractLsb' 8 4 == 0xE#4

theorem CsrAt.selEai_eq (h : CsrAt s i fn dst src imm idx) :
    Csrctrl.selEai (Alu.csr (alu s i)) = isExt idx := by
  have hidx : Csrctrl.csrIdx (Alu.csr (alu s i)) = idx := h.csrIdx_eq
  rw [Csrctrl.selEai, Csrctrl.csrSelEai, hidx]
  exact Bool.and_true _

/-- A committing instruction goes to the CSR file or to the extension interface. -/
theorem CsrAt.enables (h : CsrAt s i fn dst src imm idx) (hcmt : cmtEna s i = true) :
    csrEna s i = !isExt idx ∧ eaiCsrValid s i = isExt idx ∧
      (isExt idx = true → i.eaiCsrReady = true) := by
  obtain ⟨hi, hov, hor, -⟩ := h.commit hcmt
  have hcsr := h.ops.1
  refine ⟨?_, ?_, fun hext => ?_⟩
  · rw [csrEna, Csrctrl.csrEna, hov, hcsr, hor, h.selEai_eq]
    rfl
  · rw [eaiCsrValid, Csrctrl.eaiCsrValid, csrIValid_eq hcsr, hi, hcsr, hor, h.selEai_eq,
      Bool.and_true, Bool.and_true, Bool.and_true]
  · rw [Csrctrl.csrOValid, Csrctrl.addiCondi, h.selEai_eq, hext, Bool.and_eq_true] at hov
    exact hov.2

end
end Exu

/-! ## With the CSR file -/

namespace CoreCsr
section
variable (s : State) (i : In)

def csrs (s : State) : Csrs := ⟨s.csr, s.core.exu.dbg, s.dscratchR⟩

/-- The CSRs after the same cycle without the write of a CSR instruction. -/
def quiet : Csrs where
  csr := Csr.step s.csr (csrIn s i).quiet
  dbg := DebugCsr.step s.core.exu.dbg (dbgQuiet (Exu.dbgCsr s.core.exu (exuIn s i)))
  dscratchR := s.dscratchR

/-- The value of CSR `n`, whether it is accessible or not. -/
def Csrs.value (c : Csrs) (hart : BitVec 1) (dbgIrqR : Bool) (n : BitVec 12) : BitVec 32 :=
  valueAt (c.regs hart dbgIrqR true) n

/-- The debug CSRs are accessible in debug mode. -/
def accessible (n : BitVec 12) : Bool :=
  Exu.dbgMode s.core.exu || !(n == 0x7b0#12 || n == 0x7b1#12 || n == 0x7b2#12)

/-- What a CSR instruction finds under the number `n`; the extension interface answers for itself. -/
def old (n : BitVec 12) : BitVec 32 :=
  if Exu.isExt n then i.eaiCsrRdata
  else gate (accessible s n) ((csrs s).value i.coreMhartid i.dbgIrqR n)

/-- The write that the extension interface takes in this cycle. -/
def extWrite : Option (BitVec 32 × BitVec 32) :=
  if eaiCsrValid s i && i.eaiCsrReady && eaiCsrWr s i then some (eaiCsrAddr s i, eaiCsrWdata s i)
  else none

/-- What a CSR instruction does in the cycle of its commit. -/
structure ReadModifyWrite (fn : Isa.CsrFn) (dst src : BitVec 5) (imm : Bool) (idx : BitVec 12) :
    Prop where
  /-- The destination, and no other register, receives the old value. -/
  rd : (step s i).core.exu.rf =
    if dst = 0#5 then s.core.exu.rf else Function.update s.core.exu.rf dst (old s i idx)
  /-- The CSR receives the new value in its writable bits, and no other CSR changes. -/
  csr : ∀ hart dbgIrqR n, (csrs (step s i)).value hart dbgIrqR n =
    if n = idx ∧ fn.writes src = true ∧ accessible s idx = true then
      Csr.legal (fn.next (old s i idx) (Isa.csrOperand s.core.exu.rf.rfR imm src)) n
        ((quiet s i).value hart dbgIrqR n)
    else (quiet s i).value hart dbgIrqR n
  /-- The extension interface takes the new value, if the number is its own. -/
  ext : extWrite s i =
    if Exu.isExt idx = true ∧ fn.writes src = true then
      some (idx.setWidth 32, fn.next (old s i idx) (Isa.csrOperand s.core.exu.rf.rfR imm src))
    else none

end

section
variable {s : State} {i : In} {fn : Isa.CsrFn} {dst src : BitVec 5} {imm : Bool} {idx : BitVec 12}

/-! ### Reading -/

/-- The read port answers for the accessible registers. -/
theorem valueAt_visible (c : Csrs) (hart : BitVec 1) (dbgIrqR visible : Bool) (n : BitVec 12) :
    valueAt (c.regs hart dbgIrqR visible) n =
      gate (visible || !(n == 0x7b0#12 || n == 0x7b1#12 || n == 0x7b2#12)) (c.value hart dbgIrqR n) := by
  by_cases h0 : n = 0x7b0#12
  · subst h0
    cases visible <;> rfl
  by_cases h1 : n = 0x7b1#12
  · subst h1
    cases visible <;> rfl
  by_cases h2 : n = 0x7b2#12
  · subst h2
    cases visible <;> rfl
  have hnone : ∀ b, (dbgRegs c dbgIrqR b).lookup n = none := by
    intro b
    simp [dbgRegs, List.lookup_cons, beq_false_of_ne h0, beq_false_of_ne h1, beq_false_of_ne h2]
  have hall : ∀ b, valueAt (c.regs hart dbgIrqR b) n = valueAt (Csr.regs c.csr hart) n := by
    intro b
    rw [valueAt, Csrs.regs, List.lookup_append, hnone, Option.or_none]
    rfl
  rw [beq_false_of_ne h0, beq_false_of_ne h1, beq_false_of_ne h2, Csrs.value, hall, hall]
  cases visible <;> rfl

theorem readCsrDat_at (h : Exu.CsrAt s.core.exu (exuIn s i) fn dst src imm idx)
    (hi : (Exu.alu s.core.exu (exuIn s i)).iValid = true) (hread : fn = .rw → dst ≠ 0#5) :
    (exuIn s i).readCsrDat =
      gate (accessible s idx) ((csrs s).value i.coreMhartid i.dbgIrqR idx) := by
  have hidx : Exu.csrIdx s.core.exu (exuInPre s i) = idx := h.csrIdx_eq
  have hen : (rd s i).csrRdEn = true := (h.csrRdEn_eq hread).trans hi
  change Csr.readCsrDat (csrs s).csr (Exu.csrIdx s.core.exu (exuInPre s i)) (rd s i) = _
  rw [hidx, readCsrDat_eq (csrs s) idx (rd s i) i.dbgIrqR rfl rfl rfl, hen, valueAt_visible]
  rfl

theorem isExt_of_mem {n : BitVec 12} (hn : n ∈ numbers) : Exu.isExt n = false := by
  have hall : numbers.all (fun n => !Exu.isExt n) = true := rfl
  exact (Bool.not_eq_true' _).mp (List.all_eq_true.mp hall n hn)

/-- No register of the CSR file has a number of the extension interface. -/
theorem value_of_ext (c : Csrs) (hart : BitVec 1) (dbgIrqR : Bool) (hext : Exu.isExt idx = true) :
    c.value hart dbgIrqR idx = 0#32 := by
  have hnone : (c.regs hart dbgIrqR true).lookup idx = none := by
    rw [List.lookup_eq_none_iff]
    intro p hp
    have hmem : p.1 ∈ numbers := map_fst_regs c hart dbgIrqR true ▸ List.mem_map_of_mem hp
    refine bne_iff_ne.mpr fun heq => ?_
    rw [heq, isExt_of_mem hmem] at hext
    cases hext
  rw [Csrs.value, valueAt, hnone]
  rfl

/-! ### Writing -/

theorem csrs_step :
    csrs (step s i) =
      ⟨Csr.step s.csr (csrIn s i),
        DebugCsr.step s.core.exu.dbg (Exu.dbgCsr s.core.exu (exuIn s i)),
        dfflr (wrDscratchEna s i) (csrIn s i).wbckCsrDat s.dscratchR⟩ := rfl

/-- Without a committing write everything is as without the instruction. -/
theorem quiet_of_no_write
    (hno : Exu.csrWriteCmt s.core.exu (exuIn s i) = false) :
    csrs (step s i) = quiet s i ∧ extWrite s i = none := by
  have hne : Exu.csrWriteCmt s.core.exu (exuIn s i) ≠ true := fun h => Bool.false_ne_true (hno.symm.trans h)
  have hwen : Csr.wbckCsrWen (csrIn s i) = false := by
    by_contra hwen
    obtain ⟨hwr, hena⟩ := (Bool.and_eq_true _ _).mp (Bool.not_eq_false _ ▸ hwen)
    exact hne (Exu.csrWriteCmt_of_wen hwr (.inl hena))
  have hdbg : ∀ n ∈ [0x7b0#12, 0x7b1#12, 0x7b2#12], Csr.wrDbgEna (csrIn s i) n = false := by
    have hext : ∀ n ∈ [0x7b0#12, 0x7b1#12, 0x7b2#12], n.extractLsb' 8 4 ≠ 0xE#4 := by decide
    intro n hn
    by_contra hw
    exact hne (Exu.csrWriteCmt_of_dbg (hext n hn) (Bool.not_eq_false _ ▸ hw))
  have h0 : (Exu.dbgCsr s.core.exu (exuIn s i)).wrDcsrEna = false := hdbg 0x7b0#12 (by decide)
  have h1 : (Exu.dbgCsr s.core.exu (exuIn s i)).wrDpcEna = false := hdbg 0x7b1#12 (by decide)
  have h2 : wrDscratchEna s i = false := hdbg 0x7b2#12 (by decide)
  refine ⟨?_, ?_⟩
  · rw [csrs_step, quiet, Csr.step_of_not_wen hwen, dbgQuiet_eq h0 h1, h2]
    rfl
  · refine if_neg fun hw => hne ?_
    rw [Bool.and_eq_true, Bool.and_eq_true] at hw
    exact Exu.csrWriteCmt_of_wen hw.2 (.inr hw.1)

/-- A register that is not there cannot be written. -/
theorem legal_of_not_mem {n : BitVec 12} (hn : n ∉ numbers) (x v : BitVec 32) :
    Csr.legal x n v = v := by
  have hkeys : (Csr.written x v).map Prod.fst ⊆ numbers := by
    change [0x300#12, 0x304#12, 0x305#12, 0x341#12, 0x340#12, 0x342#12, 0x343#12, 0xB00#12, 0xB80#12,
      0xB02#12, 0xB82#12, 0xBFF#12, 0xBFE#12, 0xBFD#12, 0xBF0#12, 0x7b0#12, 0x7b1#12, 0x7b2#12] ⊆ _
    simp [numbers]
  have hnone : (Csr.written x v).lookup n = none := by
    rw [List.lookup_eq_none_iff]
    intro p hp
    refine bne_iff_ne.mpr fun heq => hn ?_
    rw [heq]
    exact hkeys (List.mem_map_of_mem hp)
  rw [Csr.legal, hnone]
  rfl

/-- What the write leaves under the number `n`. -/
def put (x : BitVec 32) (idx : BitVec 12) (acc : Bool) (n : BitVec 12) (v : BitVec 32) : BitVec 32 :=
  if n = idx ∧ acc = true then Csr.legal x idx v else v

/-- A write through the list of registers is a write to the value of each number. -/
theorem value_put {c c' : Csrs} {x : BitVec 32} {acc : Bool} {hart : BitVec 1} {dbgIrqR : Bool}
    (h : c'.regs hart dbgIrqR true =
      (c.regs hart dbgIrqR true).map fun p => (p.1, put x idx acc p.1 p.2)) (n : BitVec 12) :
    c'.value hart dbgIrqR n = put x idx acc n (c.value hart dbgIrqR n) := by
  rw [Csrs.value, Csrs.value, valueAt, valueAt, h, lookup_map]
  cases hl : (c.regs hart dbgIrqR true).lookup n with
  | some v => rfl
  | none =>
    have hn : n ∉ numbers := by
      intro hmem
      rw [← map_fst_regs c hart dbgIrqR true, List.mem_map] at hmem
      obtain ⟨p, hp, rfl⟩ := hmem
      rw [List.lookup_eq_none_iff] at hl
      exact bne_iff_ne.mp (hl p hp) rfl
    rw [put]
    split
    next heq => exact (heq.1 ▸ legal_of_not_mem hn x 0#32).symm
    next => rfl

/-- A committing CSR instruction that writes. -/
structure Writing (s : State) (i : In) (idx : BitVec 12) : Prop where
  wrEn : Exu.csrWrEn s.core.exu (exuIn s i) = true
  idx : Exu.csrIdx s.core.exu (exuIn s i) = idx
  ena : (csrIn s i).csrEna = true
  cmt : Exu.csrWriteCmt s.core.exu (exuIn s i) = true

theorem writing_of_commit (h : Exu.CsrAt s.core.exu (exuIn s i) fn dst src imm idx)
    (hcmt : Exu.cmtEna s.core.exu (exuIn s i) = true) (hw : fn.writes src = true)
    (hext : Exu.isExt idx = false) : Writing s i idx := by
  have hwr : Exu.csrWrEn s.core.exu (exuIn s i) = true := by
    rw [h.csrWrEn_eq, (h.commit hcmt).valid, hw]
    rfl
  refine ⟨hwr, h.csrIdx_eq, (h.enables hcmt).1.trans (by rw [hext]; rfl), ?_⟩
  rw [Exu.csrWriteCmt, h.ops.1, hwr, hcmt]
  rfl

/-- No trap, debug entry or return beside the write. -/
theorem Writing.alone (h : Writing s i idx) :
    (Exu.trapTaken s.core.exu (exuIn s i) = false ∧ Exu.dbgEntryTaken s.core.exu (exuIn s i) = false) ∧
      Exu.cmtMretEna s.core.exu (exuIn s i) = false ∧
        Exu.cmtDretEna s.core.exu (exuIn s i) = false := by
  have hone := Exu.at_most_one (s := s.core.exu) (i := exuIn s i)
  rw [← Bool.or_eq_false_iff, ← Bool.or_eq_false_iff]
  rw [h.cmt] at hone
  revert hone
  cases Exu.trapTaken s.core.exu (exuIn s i) || Exu.dbgEntryTaken s.core.exu (exuIn s i) <;>
    cases Exu.cmtMretEna s.core.exu (exuIn s i) || Exu.cmtDretEna s.core.exu (exuIn s i) <;> decide

theorem Writing.file (h : Writing s i idx) : Csr.Writes (csrIn s i) idx := by
  obtain ⟨⟨htrap, -⟩, hmret, -⟩ := h.alone
  have hepc : (csrIn s i).cmtEpcEna = false := by
    change (_ && Exu.trapTaken s.core.exu (exuIn s i)) = false
    rw [htrap, Bool.and_false]
  have hbad : (csrIn s i).cmtBadaddrEna = false := by
    change ((csrIn s i).cmtEpcEna && _) = false
    rw [hepc, Bool.false_and]
  exact ⟨h.wrEn, h.ena, h.idx, hepc, hmret, hepc, hepc, hbad⟩

/-- The file has no debug CSR. -/
theorem not_debug_of_mem {c : Csr.State} {hart : BitVec 1} {p : BitVec 12 × BitVec 32}
    (hp : p ∈ Csr.regs c hart) : (p.1 == 0x7b0#12 || p.1 == 0x7b1#12 || p.1 == 0x7b2#12) = false := by
  have hkeys : ∀ n ∈ numbers.take 21, (n == 0x7b0#12 || n == 0x7b1#12 || n == 0x7b2#12) = false := by
    simp [numbers]
  have hmem : p.1 ∈ (Csr.regs c hart).map Prod.fst := List.mem_map_of_mem hp
  exact hkeys _ hmem

theorem debug_of_mem {c : Csrs} {dbgIrqR : Bool} {p : BitVec 12 × BitVec 32}
    (hp : p ∈ dbgRegs c dbgIrqR true) :
    (p.1 == 0x7b0#12 || p.1 == 0x7b1#12 || p.1 == 0x7b2#12) = true := by
  have hkeys : ∀ n ∈ numbers.drop 21, (n == 0x7b0#12 || n == 0x7b1#12 || n == 0x7b2#12) = true := by
    simp [numbers]
  have hmem : p.1 ∈ (dbgRegs c dbgIrqR true).map Prod.fst := List.mem_map_of_mem hp
  exact hkeys _ hmem

theorem Writing.file_regs (h : Writing s i idx) (hart : BitVec 1) :
    Csr.regs (csrs (step s i)).csr hart = (Csr.regs (quiet s i).csr hart).map fun p =>
      (p.1, put (csrIn s i).wbckCsrDat idx (accessible s idx) p.1 p.2) := by
  rw [csrs_step]
  refine (h.file.regs_step hart).trans (List.map_congr_left fun p hp => ?_)
  rw [put]
  by_cases hp' : p.1 = idx
  · have hacc : accessible s idx = true := by
      rw [accessible, ← hp', not_debug_of_mem hp, Bool.not_false, Bool.or_true]
    rw [if_pos hp', if_pos ⟨hp', hacc⟩]
  · rw [if_neg hp', if_neg fun hand => hp' hand.1]

theorem Writing.debug_regs (h : Writing s i idx) (hd : Exu.dbgMode s.core.exu = true) (dbgIrqR : Bool) :
    dbgRegs (csrs (step s i)) dbgIrqR true = (dbgRegs (quiet s i) dbgIrqR true).map fun p =>
      (p.1, put (csrIn s i).wbckCsrDat idx (accessible s idx) p.1 p.2) := by
  obtain ⟨⟨-, hentry⟩, -, hdret⟩ := h.alone
  have hdcause : (Exu.dbgCsr s.core.exu (exuIn s i)).cmtDcauseEna = false := by
    change (Exu.dbgEntryTaken s.core.exu (exuIn s i) || Exu.cmtDretEna s.core.exu (exuIn s i)) = false
    rw [hentry, hdret]
    rfl
  have hdbg : DbgWrites (Exu.dbgCsr s.core.exu (exuIn s i)) (csrIn s i).wbckCsrDat idx := by
    refine ⟨?_, ?_, rfl, hentry, hdcause⟩
    · change (Exu.dbgMode s.core.exu && _ && _) = _
      rw [hd, h.wrEn, h.idx]
      rfl
    · change (Exu.dbgMode s.core.exu && _ && _) = _
      rw [hd, h.wrEn, h.idx]
      rfl
  have hscr : wrDscratchEna s i = (idx == 0x7b2#12) := by
    change (Exu.dbgMode s.core.exu && Exu.csrWrEn s.core.exu (exuIn s i) && _ == _) = _
    rw [hd, h.wrEn]
    exact congrArg (· == 0x7b2#12) h.idx
  rw [csrs_step, hscr]
  refine (hdbg.regs_step _ (quiet s i).csr s.dscratchR dbgIrqR).trans
    (List.map_congr_left fun p _ => ?_)
  rw [put, accessible, hd, Bool.true_or]
  simp only [and_true]

/-- Outside debug mode the debug CSRs are not written. -/
theorem debug_regs_of_not (hd : Exu.dbgMode s.core.exu = false) (x : BitVec 32) (dbgIrqR : Bool) :
    dbgRegs (csrs (step s i)) dbgIrqR true = (dbgRegs (quiet s i) dbgIrqR true).map fun p =>
      (p.1, put x idx (accessible s idx) p.1 p.2) := by
  have hno : ∀ n : BitVec 12, Csr.wrDbgEna (csrIn s i) n = false := by
    intro n
    change (Exu.dbgMode s.core.exu && _ && _) = false
    rw [hd]
    rfl
  have h0 : (Exu.dbgCsr s.core.exu (exuIn s i)).wrDcsrEna = false := hno 0x7b0#12
  have h1 : (Exu.dbgCsr s.core.exu (exuIn s i)).wrDpcEna = false := hno 0x7b1#12
  have h2 : wrDscratchEna s i = false := hno 0x7b2#12
  have hkeep : dbgRegs (csrs (step s i)) dbgIrqR true = dbgRegs (quiet s i) dbgIrqR true := by
    rw [csrs_step, quiet, dbgQuiet_eq h0 h1, h2]
    rfl
  rw [hkeep]
  refine (List.map_id' _).symm.trans (List.map_congr_left fun p hp => ?_)
  rw [put, if_neg]
  rintro ⟨hp', hacc⟩
  rw [accessible, hd, ← hp', debug_of_mem hp] at hacc
  cases hacc

/-- The write of a committing instruction to the CSR file or to a debug CSR. -/
theorem csrs_write (h : Exu.CsrAt s.core.exu (exuIn s i) fn dst src imm idx)
    (hcmt : Exu.cmtEna s.core.exu (exuIn s i) = true) (hw : fn.writes src = true)
    (hext : Exu.isExt idx = false) (hart : BitVec 1) (dbgIrqR : Bool) :
    (csrs (step s i)).regs hart dbgIrqR true =
      ((quiet s i).regs hart dbgIrqR true).map fun p =>
        (p.1, put (csrIn s i).wbckCsrDat idx (accessible s idx) p.1 p.2) := by
  have hwriting := writing_of_commit h hcmt hw hext
  rw [Csrs.regs, Csrs.regs, List.map_append, hwriting.file_regs hart]
  refine congrArg _ ?_
  cases hd : Exu.dbgMode s.core.exu with
  | true => exact hwriting.debug_regs hd dbgIrqR
  | false => exact debug_regs_of_not hd _ dbgIrqR

/-! ### The whole instruction -/

/-- What is written is made with the answer of the CSR file. -/
theorem next_at (h : Exu.CsrAt s.core.exu (exuIn s i) fn dst src imm idx)
    (hi : (Exu.alu s.core.exu (exuIn s i)).iValid = true) (hext : Exu.isExt idx = false)
    (x : BitVec 32) : fn.next (exuIn s i).readCsrDat x = fn.next (old s i idx) x := by
  have hold : old s i idx = gate (accessible s idx) ((csrs s).value i.coreMhartid i.dbgIrqR idx) := by
    rw [old, hext]
    rfl
  cases fn
  case rw => rfl
  all_goals rw [readCsrDat_at h hi (by rintro ⟨⟩), hold]

/-- The extension CSRs are not in the file, which answers zero. -/
theorem next_ext (h : Exu.CsrAt s.core.exu (exuIn s i) fn dst src imm idx)
    (hi : (Exu.alu s.core.exu (exuIn s i)).iValid = true) (hext : Exu.isExt idx = true)
    (x : BitVec 32) : fn.next (exuIn s i).readCsrDat x = fn.next 0#32 x := by
  cases fn
  case rw => rfl
  all_goals
    rw [readCsrDat_at h hi (by rintro ⟨⟩), value_of_ext _ _ _ hext]
    cases accessible s idx <;> rfl

/-- Setting or clearing bits makes the same word of zero and of `v` if every bit of `v` is in the
operand. -/
theorem next_zero_iff (v x : BitVec 32) (hfn : fn ≠ .rw) :
    fn.next 0#32 x = fn.next v x ↔ v &&& ~~~x = 0#32 := by
  cases fn
  case rw => exact absurd rfl hfn
  case rs =>
    rw [Isa.CsrFn.next, Isa.CsrFn.next, BitVec.zero_or]
    constructor
    · intro h
      rw [h]
      ext k hk
      simp only [BitVec.getElem_and, BitVec.getElem_not, BitVec.getElem_or, BitVec.getElem_zero]
      cases v[k] <;> simp
    · intro h
      ext k hk
      have hk' := congrArg (fun w : BitVec 32 => w[k]) h
      simp only [BitVec.getElem_and, BitVec.getElem_not, BitVec.getElem_zero] at hk'
      rw [BitVec.getElem_or]
      revert hk'
      cases v[k] <;> cases x[k] <;> decide
  case rc =>
    rw [Isa.CsrFn.next, Isa.CsrFn.next, BitVec.zero_and]
    exact eq_comm

theorem extWrite_at (h : Exu.CsrAt s.core.exu (exuIn s i) fn dst src imm idx)
    (hcmt : Exu.cmtEna s.core.exu (exuIn s i) = true) :
    extWrite s i =
      if Exu.isExt idx = true ∧ fn.writes src = true then
        some (idx.setWidth 32,
          fn.next (exuIn s i).readCsrDat (Isa.csrOperand s.core.exu.rf.rfR imm src))
      else none := by
  obtain ⟨-, hvalid, hready⟩ := h.enables hcmt
  have hv : eaiCsrValid s i = Exu.isExt idx := hvalid
  have hwr : eaiCsrWr s i = fn.writes src := by
    rw [eaiCsrWr, h.csrWrEn_eq, (h.commit hcmt).valid, Bool.true_and]
  have haddr : eaiCsrAddr s i = idx.setWidth 32 := by rw [eaiCsrAddr, h.csrIdx_eq]
  have hdat : eaiCsrWdata s i =
      fn.next (exuIn s i).readCsrDat (Isa.csrOperand s.core.exu.rf.rfR imm src) := h.wbckCsrDat_eq
  rw [extWrite, hv, hwr, haddr, hdat]
  cases hext : Exu.isExt idx with
  | false => rfl
  | true =>
    have hr : i.eaiCsrReady = true := hready hext
    rw [hr, Bool.and_true, Bool.true_and]
    simp only [true_and]

/-- An access to the extension interface writes nothing here. -/
theorem csrs_step_ext (h : Exu.CsrAt s.core.exu (exuIn s i) fn dst src imm idx)
    (hcmt : Exu.cmtEna s.core.exu (exuIn s i) = true) (hext : Exu.isExt idx = true) :
    csrs (step s i) = quiet s i := by
  have hena : (csrIn s i).csrEna = false := (h.enables hcmt).1.trans (by rw [hext]; rfl)
  have hwen : Csr.wbckCsrWen (csrIn s i) = false := by rw [Csr.wbckCsrWen, hena, Bool.and_false]
  have hdbg : ∀ n ∈ [0x7b0#12, 0x7b1#12, 0x7b2#12], Csr.wrDbgEna (csrIn s i) n = false := by
    intro n hn
    have hmem : n ∈ numbers := List.mem_of_mem_drop (i := 21) hn
    have hidx : (csrIn s i).csrIdx = idx := h.csrIdx_eq
    have hne : idx ≠ n := by
      rintro rfl
      exact Bool.false_ne_true ((isExt_of_mem hmem).symm.trans hext)
    rw [Csr.wrDbgEna, hidx, beq_false_of_ne hne, Bool.and_false]
  have h0 : (Exu.dbgCsr s.core.exu (exuIn s i)).wrDcsrEna = false := hdbg 0x7b0#12 (by decide)
  have h1 : (Exu.dbgCsr s.core.exu (exuIn s i)).wrDpcEna = false := hdbg 0x7b1#12 (by decide)
  have h2 : wrDscratchEna s i = false := hdbg 0x7b2#12 (by decide)
  rw [csrs_step, quiet, Csr.step_of_not_wen hwen, dbgQuiet_eq h0 h1, h2]
  rfl

theorem value_step (h : Exu.CsrAt s.core.exu (exuIn s i) fn dst src imm idx)
    (hcmt : Exu.cmtEna s.core.exu (exuIn s i) = true) (hart : BitVec 1) (dbgIrqR : Bool)
    (n : BitVec 12) :
    (csrs (step s i)).value hart dbgIrqR n =
      if n = idx ∧ fn.writes src = true ∧ accessible s idx = true then
        Csr.legal (fn.next (old s i idx) (Isa.csrOperand s.core.exu.rf.rfR imm src)) n
          ((quiet s i).value hart dbgIrqR n)
      else (quiet s i).value hart dbgIrqR n := by
  have hi := (h.commit hcmt).valid
  have hwr : Exu.csrWrEn s.core.exu (exuIn s i) = fn.writes src := by
    rw [h.csrWrEn_eq, hi, Bool.true_and]
  cases hw : fn.writes src with
  | false =>
    have hno : Exu.csrWriteCmt s.core.exu (exuIn s i) = false := by
      rw [Exu.csrWriteCmt, hwr, hw, Bool.and_false, Bool.false_and]
    rw [(quiet_of_no_write hno).1, if_neg fun hand => Bool.false_ne_true hand.2.1]
  | true =>
    cases hext : Exu.isExt idx with
    | true =>
      have hmem : idx ∉ numbers := by
        intro hmem
        exact Bool.false_ne_true ((isExt_of_mem hmem).symm.trans hext)
      have hstep : csrs (step s i) = quiet s i := csrs_step_ext h hcmt hext
      rw [hstep]
      split
      next hand => rw [hand.1, legal_of_not_mem hmem]
      next => rfl
    | false =>
      have hdat : (csrIn s i).wbckCsrDat =
          fn.next (old s i idx) (Isa.csrOperand s.core.exu.rf.rfR imm src) :=
        h.wbckCsrDat_eq.trans (next_at h hi hext _)
      rw [value_put (csrs_write h hcmt hw hext hart dbgIrqR) n, put, hdat]
      simp only [true_and]
      split
      next hand => rw [hand.1]
      next => rfl

/-- A committing CSR instruction is an atomic read-modify-write, but for a set or clear through the
extension interface that depends on the old value. -/
theorem readModifyWrite_iff (h : Exu.CsrAt s.core.exu (exuIn s i) fn dst src imm idx)
    (hcmt : Exu.cmtEna s.core.exu (exuIn s i) = true) :
    ReadModifyWrite s i fn dst src imm idx ↔
      Exu.isExt idx = false ∨ fn = .rw ∨ src = 0#5 ∨
        old s i idx &&& ~~~Isa.csrOperand s.core.exu.rf.rfR imm src = 0#32 := by
  have hi := (h.commit hcmt).valid
  have hrd : (step s i).core.exu.rf =
      if dst = 0#5 then s.core.exu.rf else Function.update s.core.exu.rf dst (old s i idx) := by
    refine (h.rf_eq hcmt).trans ?_
    by_cases h0 : dst = 0#5
    · rw [if_pos h0, if_pos h0]
    · have hdat : Csrctrl.csrOWbckWdat (Alu.csr (Exu.alu s.core.exu (exuIn s i))) = old s i idx := by
        rw [Csrctrl.csrOWbckWdat, h.selEai_eq, old]
        cases hext : Exu.isExt idx
        · exact readCsrDat_at h hi fun _ => h0
        · rfl
      rw [if_neg h0, if_neg h0, hdat]
  have hext := extWrite_at h hcmt
  have hcsr := value_step h hcmt
  constructor
  · intro hall
    by_contra hno
    rw [not_or, not_or, not_or, Bool.not_eq_false] at hno
    obtain ⟨he, hfn, hsrc, hbits⟩ := hno
    have hw : fn.writes src = true := by
      rw [Isa.CsrFn.writes, bne_iff_ne.mpr hsrc, Bool.or_true]
    have heq := hext.symm.trans hall.ext
    rw [if_pos ⟨he, hw⟩, if_pos ⟨he, hw⟩, Option.some.injEq, Prod.mk.injEq, next_ext h hi he] at heq
    exact hbits ((next_zero_iff _ _ hfn).mp heq.2)
  · intro hcond
    refine ⟨hrd, hcsr, hext.trans ?_⟩
    by_cases hew : Exu.isExt idx = true ∧ fn.writes src = true
    · obtain ⟨he, hw⟩ := hew
      rw [if_pos ⟨he, hw⟩, if_pos ⟨he, hw⟩, next_ext h hi he]
      by_cases hfn : fn = .rw
      · rw [hfn]
        rfl
      · have hsrc : src ≠ 0#5 := by
          rintro rfl
          rw [Isa.CsrFn.writes, decide_eq_false hfn] at hw
          cases hw
        have hbits : old s i idx &&& ~~~Isa.csrOperand s.core.exu.rf.rfR imm src = 0#32 := by
          obtain hc | hc | hc | hc := hcond
          · exact absurd (hc.symm.trans he) Bool.false_ne_true
          · exact absurd hc hfn
          · exact absurd hc hsrc
          · exact hc
        rw [(next_zero_iff _ _ hfn).mpr hbits]
    · rw [if_neg hew, if_neg hew]

/-- The IR of the core holds a CSR instruction, fetched without error. -/
theorem csrAt_run {inp : ℕ → In} {s0 : State} (h0 : IsReset s0) (t : ℕ)
    (hv : (run inp s0 t).core.ifu.irValidR = true)
    (hword : Isa.decode (run inp s0 t).core.ifu.ifuIrR = some (.csr fn dst src imm idx))
    (herr : (run inp s0 t).core.ifu.ifuErrR = false) :
    Exu.CsrAt (run inp s0 t).core.exu (exuIn (run inp s0 t) (inp t)) fn dst src imm idx := by
  have hidx : Ifetch.Indexed (run inp s0 t).core.ifu := by
    rw [run_core]
    exact Core.indexed_run h0.1 t
  refine ⟨hword, herr, rfl, fun himm hsrc => ?_⟩
  have hw := Decode.csrWires (d := Exu.dec (run inp s0 t).core.exu (exuIn (run inp s0 t) (inp t)))
    hword
  have hen : Decode.decRs1en (run inp s0 t).core.ifu.ifuIrR = true :=
    (hw.rs1en himm).trans (by rw [beq_false_of_ne hsrc]; rfl)
  exact (hidx.rs1 hv hen).trans hw.rs1idx

/-- In every run a CSR instruction writes no CSR before it commits; in the cycle of its commit it
leaves the IR, and it is an atomic read-modify-write if and only if it is not a set or clear through
the extension interface that has to keep a bit of the old value. -/
theorem csr_access {inp : ℕ → In} {s0 : State} (h0 : IsReset s0) (t : ℕ)
    (hv : (run inp s0 t).core.ifu.irValidR = true)
    (hword : Isa.decode (run inp s0 t).core.ifu.ifuIrR = some (.csr fn dst src imm idx))
    (herr : (run inp s0 t).core.ifu.ifuErrR = false) :
    (Exu.cmtEna (run inp s0 t).core.exu (exuIn (run inp s0 t) (inp t)) = false →
      csrs (run inp s0 (t + 1)) = quiet (run inp s0 t) (inp t) ∧
        extWrite (run inp s0 t) (inp t) = none) ∧
      (Exu.cmtEna (run inp s0 t).core.exu (exuIn (run inp s0 t) (inp t)) = true →
        Exu.iHsked (run inp s0 t).core.exu (exuIn (run inp s0 t) (inp t)) = true ∧
          (ReadModifyWrite (run inp s0 t) (inp t) fn dst src imm idx ↔
            Exu.isExt idx = false ∨ fn = .rw ∨ src = 0#5 ∨
              old (run inp s0 t) (inp t) idx &&&
                ~~~Isa.csrOperand (run inp s0 t).core.exu.rf.rfR imm src = 0#32)) := by
  have h := csrAt_run h0 t hv hword herr
  refine ⟨fun hno => ?_, fun hcmt => ⟨?_, readModifyWrite_iff h hcmt⟩⟩
  · have hw : Exu.csrWriteCmt (run inp s0 t).core.exu (exuIn (run inp s0 t) (inp t)) = false := by
      rw [Exu.csrWriteCmt, hno, Bool.and_false]
    exact quiet_of_no_write hw
  · have hsteady : Core.Steady (run inp s0 t).core := by
      rw [run_core]
      exact Core.Steady.run h0.1 t
    exact hsteady.iHsked_of_cmtEna hcmt

end

/-! ### Runs -/

/-- After reset with all registers zero. -/
def zeroState : State := ⟨Core.zeroState, Csr.State.reset, 0#32⟩

theorem isReset_zeroState : IsReset zeroState := ⟨Core.State.isReset_reset _, rfl, rfl⟩

/-- After reset with `256 * n` in register `n`. -/
def scaledState : State := ⟨Core.scaledState, Csr.State.reset, 0#32⟩

theorem isReset_scaledState : IsReset scaledState := ⟨Core.State.isReset_reset _, rfl, rfl⟩

/-- The instruction `w` is fetched; the extension CSRs read as 2. -/
def fetched (w : BitVec 32) (t : ℕ) : In :=
  { toFromLsu := Core.In.quiet.toFromLsu
    dbgIrqR := false
    extIrqR := false
    sftIrqR := false
    tmrIrqR := false
    coreMhartid := 0#1
    eaiCsrReady := true
    eaiCsrRdata := 2#32
    pcRtvec := 0x80000000#32
    ifuReqReady := true
    ifuRspValid := t == 2
    ifuRspErr := false
    ifuRspInstr := w }

/-- `CSRRW x1, mscratch, x2` with `0x200` in `x2`. -/
theorem csr_access_mscratch :
    ReadModifyWrite (run (fetched 0x340110f3#32) scaledState 3) (fetched 0x340110f3#32 3) .rw 1#5 2#5
        false 0x340#12 ∧
      ((csrs (step (run (fetched 0x340110f3#32) scaledState 3) (fetched 0x340110f3#32 3))).value 0#1
        false 0x340#12) = 0x200#32 :=
  ⟨((@csr_access _ _ _ _ _ (fetched 0x340110f3#32) _ isReset_scaledState 3 (by decide +kernel)
    (by decide +kernel) (by decide +kernel)).2 (by decide +kernel)).2.mpr (.inl rfl), by decide +kernel⟩

/-- `CSRRSI x1, 0xE00, 1` writes 1 where the CSR holds 2. -/
theorem extension_set_loses_bits :
    IsReset zeroState ∧
      Isa.decode (run (fetched 0xe000e0f3#32) zeroState 3).core.ifu.ifuIrR =
        some (.csr .rs 1#5 1#5 true 0xe00#12) ∧
      Exu.cmtEna (run (fetched 0xe000e0f3#32) zeroState 3).core.exu
        (exuIn (run (fetched 0xe000e0f3#32) zeroState 3) (fetched 0xe000e0f3#32 3)) = true ∧
      extWrite (run (fetched 0xe000e0f3#32) zeroState 3) (fetched 0xe000e0f3#32 3) =
        some (0xe00#32, 1#32) ∧
      ¬ReadModifyWrite (run (fetched 0xe000e0f3#32) zeroState 3) (fetched 0xe000e0f3#32 3) .rs 1#5
        1#5 true 0xe00#12 := by
  refine ⟨isReset_zeroState, by decide +kernel, by decide +kernel, by decide +kernel, fun h => ?_⟩
  exact absurd h.ext (by decide +kernel)

end CoreCsr
end E203
