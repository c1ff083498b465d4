import E203.Branch.Compare
import E203.Decode.Control
import E203.Decode.Groups
import E203.Rtl.Exu

/-! # Resolution of control transfers in the execute stage

* `flushPc_eq_add`: whenever a flush is raised, whatever raised it, the precomputed flush PC is the
  sum of the two flush operands.
* `CtrlAt`: the IR holds a control transfer; `CtrlAt.branchslv` is what the branch-resolution module
  is told about it.
* `CtrlAt.commit_flush`: the flush in the cycle in which the control transfer commits.
-/

namespace E203.Exu
set_option autoImplicit false

section
variable (s : State) (i : In)

def branchslv : Branchslv.In := Commit.branchslv s.excp (cmtCtl s i) (aluCmt s i)

end

section
variable {s : State} {i : In}

/-! ## The flush bus -/

/-- A branch-group bit of the commit interface, on an instruction of the group. -/
theorem gate_bjpOp_info (h : Alu.bjpOp (alu s i) = true) :
    (Alu.bjp (alu s i)).bjpIInfo = Decode.bjpInfoBus (dec s i) := by
  have hgrp : (Decode.decInfo (dec s i)).grp = GRP_BJP :=
    beq_iff_eq.mp ((Bool.and_eq_true _ _ ▸ h).2)
  have hinfo := (Decode.decInfo_of_grp_bjp hgrp).2
  rw [← hinfo]
  simp [Alu.bjp, h]
  rfl

/-- What the branch-resolution module is told about the instruction in the IR. -/
theorem branchslv_flags :
    (branchslv s i).cmtIBjp = (Alu.bjpOp (alu s i) && Decode.decBjp i.iIr) ∧
      (branchslv s i).cmtIFencei = (Alu.bjpOp (alu s i) && Decode.rv32FenceI i.iIr) ∧
      (branchslv s i).cmtIMret = (Alu.bjpOp (alu s i) && Decode.rv32Mret i.iIr) ∧
      (branchslv s i).cmtIDret = (Alu.bjpOp (alu s i) && Decode.rv32Dret i.iIr) ∧
      (branchslv s i).cmtIBjpPrdt = (Alu.bjpOp (alu s i) && i.iPrdtTaken) := by
  cases h : Alu.bjpOp (alu s i)
  · simp [branchslv, Commit.branchslv, aluCmt, Alu.cmt, h]
  · have hbit : ∀ n, (Alu.bjp (alu s i)).bjpIInfo.getLsbD n =
        (Decode.bjpInfoBus (dec s i)).getLsbD n := by
      intro n
      rw [gate_bjpOp_info h]
    have hjump := (hbit 4).trans (Decode.bus_getLsbD _ _ _ (k := 0) (by omega))
    have hprdt := (hbit 5).trans (Decode.bus_getLsbD _ _ _ (k := 1) (by omega))
    have hbxx := (hbit 12).trans (Decode.bus_getLsbD _ _ _ (k := 8) (by omega))
    have hmret := (hbit 13).trans (Decode.bus_getLsbD _ _ _ (k := 9) (by omega))
    have hdret := (hbit 14).trans (Decode.bus_getLsbD _ _ _ (k := 10) (by omega))
    have hfencei := (hbit 16).trans (Decode.bus_getLsbD _ _ _ (k := 12) (by omega))
    have hor : Decode.decBjp i.iIr =
        (Decode.decBxx i.iIr || (Decode.decJal i.iIr || Decode.decJalr i.iIr)) := Bool.or_comm _ _
    have hop : ∀ b : Bool, (Alu.bjpOp (alu s i) && b) = b := by simp [h]
    refine ⟨?_, ?_, ?_, ?_, ?_⟩
    · exact (hop _).trans ((congrArg₂ (· || ·) hbxx hjump).trans hor.symm)
    · exact (hop _).trans hfencei
    · exact (hop _).trans hmret
    · exact (hop _).trans hdret
    · exact (hop _).trans hprdt

/-- The kinds of control transfers exclude each other. -/
theorem branchslv_exclusive :
    ((branchslv s i).cmtIFencei = true →
        (branchslv s i).cmtIBjp = false ∧ (branchslv s i).cmtIMret = false ∧
          (branchslv s i).cmtIDret = false) ∧
      ((branchslv s i).cmtIMret = true →
        (branchslv s i).cmtIBjp = false ∧ (branchslv s i).cmtIDret = false) ∧
      ((branchslv s i).cmtIDret = true → (branchslv s i).cmtIBjp = false) := by
  obtain ⟨hbjp, hfencei, hmret, hdret, -⟩ := branchslv_flags (s := s) (i := i)
  rw [hbjp, hfencei, hmret, hdret]
  refine ⟨fun h => ?_, fun h => ?_, fun h => ?_⟩
  · simp [Decode.fenceI_disjoint (Bool.and_eq_true _ _ ▸ h).2]
  · simp [Decode.mret_disjoint (Bool.and_eq_true _ _ ▸ h).2]
  · simp [Decode.dret_disjoint (Bool.and_eq_true _ _ ▸ h).2]

theorem brchmisFlushPc_eq_add (hneed : Branchslv.brchmisNeedFlush (branchslv s i) = true) :
    Branchslv.brchmisFlushPc (branchslv s i) =
      Branchslv.brchmisFlushAddOp1 (branchslv s i) +
        Branchslv.brchmisFlushAddOp2 (branchslv s i) := by
  obtain ⟨hfencei, hmret, hdret⟩ := branchslv_exclusive (s := s) (i := i)
  unfold Branchslv.brchmisNeedFlush at hneed
  unfold Branchslv.brchmisFlushPc Branchslv.brchmisFlushAddOp1 Branchslv.brchmisFlushAddOp2
  cases hf : (branchslv s i).cmtIFencei
  case true => simp [hfencei hf]
  case false =>
    cases hm : (branchslv s i).cmtIMret
    case true => simp [hmret hm]
    case false =>
      cases hd : (branchslv s i).cmtIDret
      case true => simp [hdret hd]
      case false =>
        have hbjp : (branchslv s i).cmtIBjp = true := by
          simp only [hf, hm, hd, Bool.or_false, Bool.and_eq_true] at hneed
          exact hneed.1
        cases hp : (branchslv s i).cmtIBjpPrdt <;> simp [hbjp]

theorem excpirqFlushPc_eq_add (e : Excp.State) (c : Excp.Ctl) (a : Excp.Alu) (v : Bool) :
    Excp.excpirqFlushPc e c a v =
      Excp.excpirqFlushAddOp1 e c a v + Excp.excpirqFlushAddOp2 e c a v := by
  unfold Excp.excpirqFlushPc Excp.excpirqFlushAddOp1 Excp.excpirqFlushAddOp2
  split_ifs <;> simp

/-- The two encodings of the flush target agree whenever a flush is raised. -/
theorem flushPc_eq_add (h : pipeFlushReq s i = true) :
    pipeFlushPc s i = pipeFlushAddOp1 s i + pipeFlushAddOp2 s i := by
  unfold pipeFlushReq Commit.pipeFlushReq at h
  unfold pipeFlushPc pipeFlushAddOp1 pipeFlushAddOp2 Commit.pipeFlushPc Commit.pipeFlushAddOp1
    Commit.pipeFlushAddOp2
  cases hexc : Commit.excpirqFlushReq s.excp (cmtCtl s i) (aluCmt s i) (aluCmtValid s i)
  case true => exact excpirqFlushPc_eq_add _ _ _ _
  case false =>
    have hbr : Commit.aluBrchmisFlushReq s.excp (cmtCtl s i) (aluCmt s i) (aluCmtValid s i) = true := by
      simpa [hexc] using h
    have hneed : Branchslv.brchmisNeedFlush (branchslv s i) = true :=
      (Bool.and_eq_true _ _ ▸ (Bool.and_eq_true _ _ ▸ hbr).1).2
    exact brchmisFlushPc_eq_add hneed

end

/-! ## Operands -/

section
variable {s : State} {i : In} {r : BitVec 5}

theorem iRs1_eq (hidx : Decode.decRs1idx i.iIr = r) (hr : r ≠ 0#5 → i.iRs1idx = r) :
    (alu s i).iRs1 = s.rf.rfR r := by
  have hx0 : Decode.decRs1x0 i.iIr = (r == 0#5) := by rw [Decode.decRs1x0, hidx]
  have hop : (alu s i).iRs1 = gate (!(r == 0#5)) (s.rf.rfR i.iRs1idx) := by
    rw [← hx0]
    exact Disp.dispORs1_eq (disp s i)
  by_cases h0 : r = 0#5
  · rw [hop, h0]
    rfl
  · rw [hop, hr h0, beq_false_of_ne h0]
    rfl

theorem iRs2_eq (hidx : Decode.decRs2idx i.iIr = r) (hr : r ≠ 0#5 → i.iRs2idx = r) :
    (alu s i).iRs2 = s.rf.rfR r := by
  have hx0 : Decode.decRs2x0 i.iIr = (r == 0#5) := by rw [Decode.decRs2x0, hidx]
  have hop : (alu s i).iRs2 = gate (!(r == 0#5)) (s.rf.rfR i.iRs2idx) := by
    rw [← hx0]
    exact Disp.dispORs2_eq (disp s i)
  by_cases h0 : r = 0#5
  · rw [hop, h0]
    rfl
  · rw [hop, hr h0, beq_false_of_ne h0]
    rfl

end

/-! ## A control transfer in the IR -/

/-- The IR holds the control transfer `c`, fetched without error, with its operand registers. -/
structure CtrlAt (s : State) (i : In) (c : Isa.Ctrl) : Prop where
  word : Isa.Ctrl.decode i.iIr = some c
  buserr : i.iBuserr = false
  misalgn : i.iMisalgn = false
  rs1idx : c.op.isBranch = true → c.op.rs1 ≠ 0#5 → i.iRs1idx = c.op.rs1
  rs2idx : c.op.isBranch = true → c.op.rs2 ≠ 0#5 → i.iRs2idx = c.op.rs2
  /-- `DRET` exists in debug mode only. -/
  dret : c.op = .dret → dbgMode s = true

/-- The architectural state the execute stage sees. -/
def ctrlState (s : State) (i : In) : Isa.CtrlState where
  pc := i.iPc
  reg := s.rf.rfR
  mepc := i.csrEpcR
  dpc := s.dbg.dpcR

section
variable {s : State} {i : In} {c : Isa.Ctrl}

theorem CtrlAt.wires (h : CtrlAt s i c) : CtrlWires (dec s i) c := Decode.ctrlWires h.word

theorem CtrlAt.info (h : CtrlAt s i c) :
    (alu s i).iInfo = Decode.bus (dec s i) GRP_BJP (c.op.bits i.iPrdtTaken) :=
  h.wires.info h.dret

theorem CtrlAt.ifuExcpOp (h : CtrlAt s i c) : Alu.ifuExcpOp (alu s i) = false := by
  have hlegal : (alu s i).iIlegl = false := h.wires.legal h.dret
  have hbuserr : (alu s i).iBuserr = false := h.buserr
  have hmisalgn : (alu s i).iMisalgn = false := h.misalgn
  rw [Alu.ifuExcpOp, hlegal, hbuserr, hmisalgn]
  rfl

theorem CtrlAt.ops (h : CtrlAt s i c) :
    Alu.bjpOp (alu s i) = true ∧ Alu.aluOp (alu s i) = false ∧ Alu.aguOp (alu s i) = false ∧
      Alu.csrOp (alu s i) = false ∧ Alu.mdvOp (alu s i) = false := by
  have hgrp : (alu s i).iInfo.grp = GRP_BJP := by rw [h.info, Decode.bus_grp]
  rw [Alu.bjpOp, Alu.aluOp, Alu.aguOp, Alu.csrOp, Alu.mdvOp, h.ifuExcpOp, hgrp]
  decide

theorem CtrlAt.rs1 (h : CtrlAt s i c) (hb : c.op.isBranch = true) :
    (Alu.bjp (alu s i)).bjpIRs1 = s.rf.rfR c.op.rs1 := by
  have hsel : (Alu.bjp (alu s i)).bjpIRs1 = (alu s i).iRs1 := by simp [Alu.bjp, h.ops.1]
  rw [hsel]
  exact iRs1_eq (h.wires.rs1 hb) (h.rs1idx hb)

theorem CtrlAt.rs2 (h : CtrlAt s i c) (hb : c.op.isBranch = true) :
    (Alu.bjp (alu s i)).bjpIRs2 = s.rf.rfR c.op.rs2 := by
  have hsel : (Alu.bjp (alu s i)).bjpIRs2 = (alu s i).iRs2 := by simp [Alu.bjp, h.ops.1]
  rw [hsel]
  exact iRs2_eq (h.wires.rs2 hb) (h.rs2idx hb)

theorem CtrlAt.bit (h : CtrlAt s i c) {k : ℕ} (hk : k < 28) :
    (Alu.bjp (alu s i)).bjpIInfo.getLsbD (k + 4) = (c.op.bits i.iPrdtTaken).getD k false := by
  have hinfo : (Alu.bjp (alu s i)).bjpIInfo = (alu s i).iInfo := by simp [Alu.bjp, h.ops.1]
  rw [hinfo, h.info]
  exact Decode.bus_getLsbD _ _ _ hk

theorem CtrlAt.cmpRes (h : CtrlAt s i c) {k : Isa.Cond} (hk : c.op.isCond k = true) :
    Alu.bjpReqAluCmpRes s.alu (alu s i) =
      k.holds (s.rf.rfR c.op.rs1) (s.rf.rfR c.op.rs2) := by
  obtain ⟨hbjp, halu, hagu, -, hmdv⟩ := h.ops
  have hb : c.op.isBranch = true := by
    cases hop : c.op <;> simp [hop, Isa.CtrlOp.isCond, Isa.CtrlOp.isBranch] at hk ⊢
  have hbits : c.op.bits i.iPrdtTaken =
      [false, i.iPrdtTaken, decide (k = .eq), decide (k = .ne), decide (k = .lt), decide (k = .ge),
        decide (k = .ltu), decide (k = .geu), true, false, false, false, false] := by
    cases hop : c.op
    case branch k' r1 r2 o =>
      obtain rfl : k' = k := by simpa [hop, Isa.CtrlOp.isCond] using hk
      rfl
    all_goals simp [hop, Isa.CtrlOp.isBranch] at hb
  have hreq : Bjp.req (Alu.bjp (alu s i)) =
      AluDpath.cmpReq k (s.rf.rfR c.op.rs1) (s.rf.rfR c.op.rs2) := by
    have hbit := fun {n : ℕ} (hn : n < 28) => hbits ▸ h.bit hn
    have hjump : Bjp.wbckLink (Alu.bjp (alu s i)) = false := hbit (n := 0) (by omega)
    unfold Bjp.req AluDpath.cmpReq
    rw [hjump, h.rs1 hb, h.rs2 hb]
    congr 1
    · exact hbit (n := 2) (by omega)
    · exact hbit (n := 3) (by omega)
    · exact hbit (n := 4) (by omega)
    · exact hbit (n := 5) (by omega)
    · exact hbit (n := 6) (by omega)
    · exact hbit (n := 7) (by omega)
  have hmux : AluDpath.mux (Alu.dpath s.alu (alu s i)) = Bjp.req (Alu.bjp (alu s i)) :=
    AluDpath.mux_bjp (by simp [Alu.dpath, halu]) hbjp hagu
  exact AluDpath.cmpRes_eq (hmux.trans hreq) hmdv

/-! ## The commit -/

/-- What the branch-resolution module is told about the control transfer. -/
theorem CtrlAt.branchslv (h : CtrlAt s i c) :
    (branchslv s i).cmtIBjp = (c.op.isBranch || c.op.isJal || c.op.isJalr) ∧
      (branchslv s i).cmtIFencei = decide (c.op = .fencei) ∧
      (branchslv s i).cmtIMret = decide (c.op = .mret) ∧
      (branchslv s i).cmtIDret = decide (c.op = .dret) ∧
      (branchslv s i).cmtIBjpPrdt = i.iPrdtTaken ∧ (branchslv s i).cmtIRv32 = c.rv32 ∧
      ((branchslv s i).cmtIBjp = true → (branchslv s i).cmtIBjpRslv = c.taken (ctrlState s i)) := by
  have hop : ∀ b : Bool, (Alu.bjpOp (alu s i) && b) = b := by simp [h.ops.1]
  have hjump : Bjp.jump (Alu.bjp (alu s i)) = (c.op.isJal || c.op.isJalr) :=
    h.bit (k := 0) (by omega)
  have hbxx : Bjp.bxx (Alu.bjp (alu s i)) = c.op.isBranch := h.bit (k := 8) (by omega)
  have hbjp : (Exu.branchslv s i).cmtIBjp = (c.op.isBranch || c.op.isJal || c.op.isJalr) := by
    rw [Bool.or_assoc]
    exact (hop _).trans (congrArg₂ (· || ·) hbxx hjump)
  refine ⟨hbjp, ?_, ?_, ?_, ?_, ?_, ?_⟩
  · exact (hop _).trans (h.bit (k := 12) (by omega))
  · exact (hop _).trans (h.bit (k := 9) (by omega))
  · exact (hop _).trans (h.bit (k := 10) (by omega))
  · exact (hop _).trans (h.bit (k := 1) (by omega))
  · have hrv32 : (Exu.branchslv s i).cmtIRv32 = (alu s i).iInfo.rv32 := rfl
    rw [hrv32, h.info, Decode.bus_rv32]
    exact h.wires.rv32
  · intro hb
    have hrslv : (Exu.branchslv s i).cmtIBjpRslv =
        if (c.op.isJal || c.op.isJalr) then true else Alu.bjpReqAluCmpRes s.alu (alu s i) :=
      (hop _).trans (hjump ▸ rfl)
    rw [hrslv, Isa.Ctrl.taken]
    rw [hbjp] at hb
    cases hc : c.op
    case branch k r1 r2 o =>
      have hk := h.cmpRes (k := k) (by simp [hc, Isa.CtrlOp.isCond])
      rw [hc] at hk
      exact hk
    case jal | jalr => rfl
    all_goals simp [hc, Isa.CtrlOp.isBranch, Isa.CtrlOp.isJal, Isa.CtrlOp.isJalr] at hb

/-- Without a request from outside the ALU and without an exception of its own, an instruction
raises no exception flush. -/
theorem excpirqFlushReq_eq_false {e : Excp.State} {x : Excp.Ctl} {a : Excp.Alu} {v : Bool}
    (hraw : Excp.nonaluExcpirqFlushReqRaw e x = false) (hneed : Excp.aluNeedFlush x a = false)
    (hebrk : a.aluExcpIEbreak = false) : Excp.excpirqFlushReq e x a v = false := by
  simp only [Excp.nonaluExcpirqFlushReqRaw, Bool.or_eq_false_iff] at hraw
  obtain ⟨⟨hlongp, hdbg⟩, hirq⟩ := hraw
  have hentry : Excp.dbgEntryReq e x a v = false := by
    cases hmask : Excp.dbgEntryMask x
    case true => simp [Excp.dbgEntryReq, hmask]
    case false =>
      simp only [Excp.nonaluDbgEntryReqRaw, hmask, Bool.not_false, Bool.true_and,
        Bool.or_eq_false_iff] at hdbg
      simp [Excp.dbgEntryReq, Excp.dbgIrqReq, Excp.dbgHaltReq, Excp.dbgStepReq, Excp.dbgTrigReq,
        Excp.dbgEbrkReq, Excp.aluEbreakmFlushReq, Excp.aluExcpIEbreak4dbg,
        Excp.aluDbgtrigFlushReq, hdbg, hebrk]
  simp [Excp.excpirqFlushReq, Excp.longpExcpFlushReq, Excp.dbgEntryFlushReq, Excp.irqFlushReq,
    Excp.aluExcpFlushReq, hlongp, hirq, hentry, hneed]

/-- A control transfer commits only when nothing from outside the ALU asks for a flush; then it
takes no exception, and the flush is the one of the branch-resolution module. -/
theorem CtrlAt.commit_flush (h : CtrlAt s i c) (hcmt : cmtEna s i = true) :
    Commit.excpirqFlushReq s.excp (cmtCtl s i) (aluCmt s i) (aluCmtValid s i) = false ∧
      pipeFlushReq s i = Branchslv.brchmisNeedFlush (Exu.branchslv s i) := by
  obtain ⟨hbjp, hfencei, hmret, hdret, -⟩ := h.branchslv
  obtain ⟨-, halu, hagu, hcsr, -⟩ := h.ops
  have hand : aluCmtValid s i = true ∧ aluCmtReady s i = true := Bool.and_eq_true _ _ ▸ hcmt
  have hready : Branchslv.cmtIReady (Exu.branchslv s i) = true :=
    (Bool.and_eq_true _ _ ▸ hand.2).2
  have hbranch : Branchslv.cmtIIsBranch (Exu.branchslv s i) = true := by
    rw [Branchslv.cmtIIsBranch, hbjp, hfencei, hmret, hdret]
    cases c.op <;> rfl
  have hraw : Excp.nonaluExcpirqFlushReqRaw s.excp (cmtCtl s i).toCtl = false := by
    rw [Branchslv.cmtIReady, hbranch, Bool.not_true, Bool.false_or, Bool.and_eq_true,
      Bool.not_eq_true'] at hready
    exact hready.2
  have hneed : Excp.aluNeedFlush (cmtCtl s i).toCtl (aluCmt s i).toAlu = false := by
    have hilegl : (alu s i).iIlegl = false := h.wires.legal h.dret
    have hbe : (alu s i).iBuserr = false := h.buserr
    have hmis : (alu s i).iMisalgn = false := h.misalgn
    simp [Excp.aluNeedFlush, Excp.aluExcpIEbreak4excp, aluCmt, Alu.cmt, halu, hagu, hcsr, hilegl,
      hbe, hmis]
  have hebrk : (aluCmt s i).aluExcpIEbreak = false := by simp [aluCmt, Alu.cmt, halu]
  have hexc : Commit.excpirqFlushReq s.excp (cmtCtl s i) (aluCmt s i) (aluCmtValid s i) = false :=
    excpirqFlushReq_eq_false hraw hneed hebrk
  refine ⟨hexc, ?_⟩
  have hbr : Commit.aluBrchmisFlushReq s.excp (cmtCtl s i) (aluCmt s i) (aluCmtValid s i) =
      Branchslv.brchmisNeedFlush (Exu.branchslv s i) := by
    have hraw' : (Exu.branchslv s i).nonaluExcpirqFlushReqRaw = false := hraw
    change Branchslv.brchmisFlushReq (Exu.branchslv s i) (aluCmtValid s i) = _
    rw [Branchslv.brchmisFlushReq, Branchslv.brchmisFlushReqPre, hand.1, hraw', Bool.true_and,
      Bool.not_false, Bool.and_true]
  rw [pipeFlushReq, Commit.pipeFlushReq, hexc, hbr, Bool.false_or]

/-- Where the flush goes. -/
theorem CtrlAt.flushPc (h : CtrlAt s i c) (hcmt : cmtEna s i = true) :
    pipeFlushPc s i = Branchslv.brchmisFlushPc (Exu.branchslv s i) := by
  rw [pipeFlushPc, Commit.pipeFlushPc, (h.commit_flush hcmt).1]
  rfl

end
end E203.Exu
