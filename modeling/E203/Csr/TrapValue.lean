import E203.Csr.Access

/-! # What the trap of an illegal instruction writes

* `Isa.instrBits`: the bits of an instruction.
* `Exu.trap_of_illegalTrap`: the PC, the cause and the value of the trap.
* `CoreCsr.wordAt`: the instruction that the IR was loaded with; the upper half of the IR is older when
  that instruction is compressed (`ifuIrR_eq`).
* `trap_values_iff`: the traps of two runs.
-/

namespace E203
set_option autoImplicit false

namespace Isa

/-- A compressed instruction has 16 bits. -/
def compressed (w : BitVec 32) : Bool := !(w.extractLsb' 0 2 == 3#2)

/-- The bits of an instruction, zero-extended. -/
def instrBits (w : BitVec 32) : BitVec 32 := if compressed w then 0#16 ++ w.extractLsb' 0 16 else w

end Isa

/-! ## The trap -/

namespace Exu
section
variable (s : State) (i : In)

/-- The exception of an illegal instruction that was fetched without error is taken outside debug
mode. -/
def illegalTrap : Bool :=
  !dbgMode s &&
    Excp.aluExcpFlushReq s.excp (cmtCtl s i).toCtl (aluCmt s i).toAlu (aluCmtValid s i) &&
    Decode.decIlegl (dec s i) && !i.iBuserr && !i.iMisalgn

end

section
variable {s : State} {i : In}

theorem trap_of_illegalTrap (h : illegalTrap s i = true) :
    dbgMode s = false ∧ trapTaken s i = true ∧
      Excp.trap (cmtCtl s i).toCtl (aluCmt s i).toAlu = ⟨i.iPc, 2#32, i.iIr⟩ := by
  simp only [illegalTrap, Bool.and_eq_true, Bool.not_eq_true'] at h
  obtain ⟨⟨⟨⟨hdbg, hreq⟩, hilegl⟩, hbuserr⟩, hmisalgn⟩ := h
  have hexcp : Alu.ifuExcpOp (alu s i) = true := by
    change (Decode.decIlegl (dec s i) || i.iBuserr || i.iMisalgn) = true
    rw [hilegl, Bool.true_or, Bool.true_or]
  have hoff : Alu.aluOp (alu s i) = false ∧ Alu.aguOp (alu s i) = false := by
    rw [Alu.aluOp, Alu.aguOp, hexcp]
    exact ⟨rfl, rfl⟩
  refine ⟨hdbg, ?_, ?_⟩
  · rw [trapTaken, Excp.trapTaken, Excp.excpTakenEna_eq, Excp.allExcpFlushReq, hreq, Bool.or_true,
      Bool.true_or]
  · -- the exception of the instruction is taken, so nothing of higher priority is pending
    have hpending : Excp.irqReq (cmtCtl s i).toCtl = false ∧
        Excp.longpNeedFlush (cmtCtl s i).toCtl = false := by
      simp only [Excp.aluExcpFlushReq, Bool.and_eq_true, Bool.not_eq_true'] at hreq
      exact ⟨hreq.1.1.2, hreq.2⟩
    have hebrk : Excp.aluExcpIEbreak4excp (cmtCtl s i).toCtl (aluCmt s i).toAlu = false := by
      simp [Excp.aluExcpIEbreak4excp, aluCmt, Alu.cmt, hoff.1]
    have hfetch : (aluCmt s i).aluExcpIIfuMisalgn = false ∧ (aluCmt s i).aluExcpIIfuBuserr = false ∧
        (aluCmt s i).aluExcpIIfuIlegl = true := by
      refine ⟨hmisalgn, hbuserr, ?_⟩
      change (Decode.decIlegl (dec s i) || _) = true
      rw [hilegl, Bool.true_or]
    have hldst : (aluCmt s i).aluExcpILd = false ∧ (aluCmt s i).aluExcpIStamo = false := by
      simp [aluCmt, Alu.cmt, hoff.2]
    rw [Excp.trap, hpending.1, hpending.2, if_neg Bool.false_ne_true, if_neg Bool.false_ne_true]
    simp only [Excp.aluTrap, hebrk, hfetch, hldst, Bool.or_self, Bool.false_and, Bool.false_eq_true,
      if_false, if_true, Excp.Trap.mk.injEq]
    exact ⟨rfl, by decide, rfl⟩

end
end Exu

/-! ## The word in the IR -/

namespace CoreCsr
section
variable (inp : ℕ → In) (s : State)

def ifuInAt (t : ℕ) : Ifetch.In := Core.ifuIn (run inp s t).core (coreIn (run inp s t) (inp t))

/-- The instruction that the IR was loaded with last. -/
def wordAt : ℕ → BitVec 32
  | 0 => 0#32
  | t + 1 =>
    if Ifetch.irValidSet (run inp s t).core.ifu (ifuInAt inp s t) then (inp t).ifuRspInstr
    else wordAt t

/-- The upper half of the IR. -/
def upperAt (t : ℕ) : BitVec 16 := (run inp s t).core.ifu.ifuIrR.extractLsb' 16 16

/-- An illegal instruction traps in cycle `t`. -/
def IllegalTrapAt (t : ℕ) : Prop :=
  Exu.illegalTrap (run inp s t).core.exu (exuIn (run inp s t) (inp t)) = true

instance (t : ℕ) : Decidable (IllegalTrapAt inp s t) := inferInstanceAs (Decidable (_ = true))

def pcAt (t : ℕ) : BitVec 32 := (run inp s t).core.ifu.ifuPcR

end

section
variable {inp : ℕ → In} {s : State}

/-- The lower half of the IR is of the instruction loaded last, the upper half only if that has 32
bits. -/
theorem ifuIrR_eq (h0 : IsReset s) (t : ℕ) :
    (run inp s t).core.ifu.ifuIrR = upperAt inp s t ++ (wordAt inp s t).extractLsb' 0 16 ∧
      (Decode.decRv32 (wordAt inp s t) = true → (run inp s t).core.ifu.ifuIrR = wordAt inp s t) := by
  induction t with
  | zero =>
    have hir : (run inp s 0).core.ifu.ifuIrR = 0#32 := by
      change s.core.ifu.ifuIrR = _
      rw [h0.1.1]
      rfl
    have hword : wordAt inp s 0 = 0#32 := rfl
    rw [upperAt, hir, hword]
    exact ⟨by decide, fun h => absurd h (by decide)⟩
  | succ t ih =>
    have hstep : (run inp s (t + 1)).core.ifu =
        Ifetch.step (run inp s t).core.ifu (ifuInAt inp s t) := rfl
    cases hset : Ifetch.irValidSet (run inp s t).core.ifu (ifuInAt inp s t)
    · have hir : (run inp s (t + 1)).core.ifu.ifuIrR = (run inp s t).core.ifu.ifuIrR := by
        rw [hstep]
        exact (Ifetch.step_ifuIrR_of_not_set hset).1
      rw [upperAt, wordAt, hset, if_neg Bool.false_ne_true, hir]
      exact ih
    · rw [wordAt, hset, if_pos rfl]
      have hir : (run inp s (t + 1)).core.ifu.ifuIrR =
          dfflr (Decode.decRv32 (inp t).ifuRspInstr) ((inp t).ifuRspInstr.extractLsb' 16 16)
            (upperAt inp s t) ++ (inp t).ifuRspInstr.extractLsb' 0 16 := by
        have hhi : Ifetch.irHiEna (run inp s t).core.ifu (ifuInAt inp s t) =
            Decode.decRv32 (inp t).ifuRspInstr := by
          rw [Ifetch.irHiEna, hset, Bool.true_and]
          rfl
        rw [hstep, ← hhi]
        simp only [Ifetch.step, hset]
        rfl
      constructor
      · rw [upperAt, hir, BitVec.extractLsb'_append_eq_left]
      · intro hrv
        rw [hir, hrv]
        exact Lib.append_parts (a := 16) (b := 16) _

/-- What the trap writes. -/
theorem trap_written (h0 : IsReset s) {t : ℕ} (h : IllegalTrapAt inp s t) :
    (run inp s (t + 1)).csr.epcR = (pcAt inp s t).extractLsb' 1 31 ++ 0#1 ∧
      (run inp s (t + 1)).csr.causeR = 2#32 ∧
      (run inp s (t + 1)).csr.badaddrR = (run inp s t).core.ifu.ifuIrR := by
  obtain ⟨hdbg, htaken, htrap⟩ := Exu.trap_of_illegalTrap h
  have hsteady : Core.Steady (run inp s t).core := by
    rw [run_core]
    exact Core.Steady.run h0.1 t
  have hw : Csr.Trapped (run inp s t).csr ⟨pcAt inp s t, 2#32, (run inp s t).core.ifu.ifuIrR⟩
      (run inp s (t + 1)).csr := by
    have hcommit := (hsteady.trapCommit (i := coreIn (run inp s t) (inp t)) (run inp s t).csr).trapped
      htaken hdbg
    exact htrap ▸ hcommit
  have hcause : (2#32).extractLsb' 31 1 ++ 0#27 ++ (2#32).extractLsb' 0 4 = 2#32 := by decide
  exact ⟨hw.epc, hw.cause.trans hcause, hw.tval⟩

/-! ## Two runs -/

/-- The traps of cycle `t₁` in one run and of cycle `t₂` in another write the same, and for a compressed
instruction its 16 bits. -/
structure SameTrapValues (inp₁ inp₂ : ℕ → In) (s₁ s₂ : State) (t₁ t₂ : ℕ) : Prop where
  epc : (run inp₁ s₁ (t₁ + 1)).csr.epcR = (run inp₂ s₂ (t₂ + 1)).csr.epcR
  cause : (run inp₁ s₁ (t₁ + 1)).csr.causeR = (run inp₂ s₂ (t₂ + 1)).csr.causeR
  tval : (run inp₁ s₁ (t₁ + 1)).csr.badaddrR = (run inp₂ s₂ (t₂ + 1)).csr.badaddrR
  compressed : Isa.compressed (wordAt inp₁ s₁ t₁) = true →
    (run inp₁ s₁ (t₁ + 1)).csr.badaddrR = Isa.instrBits (wordAt inp₁ s₁ t₁)

theorem compressed_of_bits {v w : BitVec 32} (h : Isa.instrBits v = Isa.instrBits w) :
    Isa.compressed v = Isa.compressed w ∧ v.extractLsb' 0 16 = w.extractLsb' 0 16 ∧
      (Isa.compressed v = false → v = w) := by
  have hlow : ∀ x : BitVec 32, (Isa.instrBits x).extractLsb' 0 16 = x.extractLsb' 0 16 := by
    intro x
    rw [Isa.instrBits]
    split
    · rw [BitVec.extractLsb'_append_eq_right]
    · rfl
  have hlow' : v.extractLsb' 0 16 = w.extractLsb' 0 16 := by rw [← hlow v, ← hlow w, h]
  have hbits : ∀ x : BitVec 32, x.extractLsb' 0 2 = (x.extractLsb' 0 16).extractLsb' 0 2 :=
    fun x => Lib.extractLsb'_of_extractLsb' (a := 0) (b := 0) rfl (by decide)
  have hcomp : Isa.compressed v = Isa.compressed w := by
    rw [Isa.compressed, Isa.compressed, hbits v, hbits w, hlow']
  refine ⟨hcomp, hlow', fun hno => ?_⟩
  rw [Isa.instrBits, Isa.instrBits, ← hcomp, hno, if_neg Bool.false_ne_true,
    if_neg Bool.false_ne_true] at h
  exact h

/-- Two traps of the same illegal instruction at the same PC write the same values, the 16 bits of a
compressed instruction, exactly if the upper half of the IR is of the instruction, or agrees in both
runs and is zero for a compressed one. -/
theorem trap_values_iff {inp₁ inp₂ : ℕ → In} {s₁ s₂ : State} (h₁ : IsReset s₁) (h₂ : IsReset s₂)
    {t₁ t₂ : ℕ} (htrap₁ : IllegalTrapAt inp₁ s₁ t₁) (htrap₂ : IllegalTrapAt inp₂ s₂ t₂)
    (hpc : pcAt inp₁ s₁ t₁ = pcAt inp₂ s₂ t₂)
    (hbits : Isa.instrBits (wordAt inp₁ s₁ t₁) = Isa.instrBits (wordAt inp₂ s₂ t₂)) :
    SameTrapValues inp₁ inp₂ s₁ s₂ t₁ t₂ ↔
      Decode.decRv32 (wordAt inp₁ s₁ t₁) = true ∨
        (upperAt inp₁ s₁ t₁ = upperAt inp₂ s₂ t₂ ∧
          (Isa.compressed (wordAt inp₁ s₁ t₁) = true → upperAt inp₁ s₁ t₁ = 0#16)) := by
  obtain ⟨hepc₁, hcause₁, htval₁⟩ := trap_written h₁ htrap₁
  obtain ⟨hepc₂, hcause₂, htval₂⟩ := trap_written h₂ htrap₂
  obtain ⟨hir₁, hwide₁⟩ := @ifuIrR_eq inp₁ _ h₁ t₁
  obtain ⟨hir₂, hwide₂⟩ := @ifuIrR_eq inp₂ _ h₂ t₂
  obtain ⟨hcomp, hlow, hfull⟩ := compressed_of_bits hbits
  constructor
  · intro h
    refine .inr ⟨?_, fun hc => ?_⟩
    · have htval := h.tval
      rw [htval₁, htval₂] at htval
      exact congrArg (BitVec.extractLsb' 16 16) htval
    · have hval := h.compressed hc
      rw [htval₁, Isa.instrBits, if_pos hc] at hval
      rw [upperAt, hval, BitVec.extractLsb'_append_eq_left]
  · intro h
    have hboth : (run inp₁ s₁ t₁).core.ifu.ifuIrR = (run inp₂ s₂ t₂).core.ifu.ifuIrR ∧
        (Isa.compressed (wordAt inp₁ s₁ t₁) = true →
          (run inp₁ s₁ t₁).core.ifu.ifuIrR = Isa.instrBits (wordAt inp₁ s₁ t₁)) := by
      obtain hrv | ⟨hupper, hzero⟩ := h
      · have hno : Isa.compressed (wordAt inp₁ s₁ t₁) = false := by
          rw [Isa.compressed, Bool.not_eq_false']
          have hlow2 : (Decode.opcode (wordAt inp₁ s₁ t₁)).extractLsb' 0 2 =
              (wordAt inp₁ s₁ t₁).extractLsb' 0 2 :=
            (Lib.extractLsb'_of_extractLsb' (a := 0) (b := 0) rfl (by decide)).symm
          rw [← hlow2]
          exact ((Bool.and_eq_true _ _).mp hrv).2
        have hword := hfull hno
        refine ⟨?_, fun hc => absurd (hno.symm.trans hc) Bool.false_ne_true⟩
        rw [hwide₁ hrv, hwide₂ (hword ▸ hrv), hword]
      · refine ⟨?_, fun hc => ?_⟩
        · rw [hir₁, hir₂, hupper, hlow]
        · rw [hir₁, hzero hc, Isa.instrBits, if_pos hc]
    exact ⟨by rw [hepc₁, hepc₂, hpc], hcause₁.trans hcause₂.symm, by rw [htval₁, htval₂, hboth.1],
      fun hc => htval₁.trans (hboth.2 hc)⟩

/-- What the instructions see: the registers, the CSRs, the debug CSRs. -/
def arch (s : State) : Regfile × Csr.State × DebugCsr.State × BitVec 32 :=
  (s.core.exu.rf, s.csr, s.core.exu.dbg, s.dscratchR)

/-- The word `w`, and then the illegal compressed instruction `0x0000`. -/
def wordThenZero (w : BitVec 32) (t : ℕ) : In :=
  { fetched w t with
    ifuRspValid := t == 2 || t == 3
    ifuRspInstr := if t = 2 then w else 0#32 }

/-- `ADDI x0, x0, 0` in one run, `ADDI x1, x1, 0` in the other. -/
theorem trap_values_iff_addi :
    SameTrapValues (wordThenZero 0x00000013#32) (wordThenZero 0x00008093#32) zeroState zeroState
      4 4 :=
  (trap_values_iff isReset_zeroState isReset_zeroState (by decide +kernel) (by decide +kernel)
    (by decide +kernel) (by decide +kernel)).mpr (.inr ⟨by decide +kernel, fun _ => by decide +kernel⟩)

/-- `ADDI x0, x0, 0` and `ADDI x0, x0, 1` leave the same registers and different upper halves. -/
theorem trap_value_of_older_instruction :
    ¬∀ (inp₁ inp₂ : ℕ → In) (t₁ t₂ : ℕ), IllegalTrapAt inp₁ zeroState t₁ →
      IllegalTrapAt inp₂ zeroState t₂ → pcAt inp₁ zeroState t₁ = pcAt inp₂ zeroState t₂ →
      Isa.instrBits (wordAt inp₁ zeroState t₁) = Isa.instrBits (wordAt inp₂ zeroState t₂) →
      arch (run inp₁ zeroState t₁) = arch (run inp₂ zeroState t₂) →
      SameTrapValues inp₁ inp₂ zeroState zeroState t₁ t₂ := by
  intro h
  have harch : arch (run (wordThenZero 0x00000013#32) zeroState 4) =
      arch (run (wordThenZero 0x00100013#32) zeroState 4) := by
    have hrf : (run (wordThenZero 0x00000013#32) zeroState 4).core.exu.rf =
        (run (wordThenZero 0x00100013#32) zeroState 4).core.exu.rf := by
      funext n
      revert n
      decide +kernel
    rw [arch, hrf]
    have hrest : (run (wordThenZero 0x00000013#32) zeroState 4).csr =
          (run (wordThenZero 0x00100013#32) zeroState 4).csr ∧
        (run (wordThenZero 0x00000013#32) zeroState 4).core.exu.dbg =
          (run (wordThenZero 0x00100013#32) zeroState 4).core.exu.dbg ∧
        (run (wordThenZero 0x00000013#32) zeroState 4).dscratchR =
          (run (wordThenZero 0x00100013#32) zeroState 4).dscratchR := by
      decide +kernel
    rw [hrest.1, hrest.2.1, hrest.2.2]
    rfl
  have hsame := h (wordThenZero 0x00000013#32) (wordThenZero 0x00100013#32) 4 4 (by decide +kernel)
    (by decide +kernel) (by decide +kernel) (by decide +kernel) harch
  exact absurd hsame.tval (by decide +kernel)

end
end CoreCsr
end E203
