import E203.Fetch.CoreRun

/-! # The operand indexes beside the IR

The fetch stage decodes the register indexes of an instruction when it puts it into the IR; the
execute stage decodes the rest from the IR.  An enabled index stays that of the instruction in the
IR, although the first one is lent to the branch predictor.
-/

namespace E203
set_option autoImplicit false

namespace Decode

section
attribute [local simp] rv32 rv16Rs1en rv16Rs2en rv16Rden rv16Rs1idx rv16Rs2idx rv16Rdidx
  rv16NeedCrRs1 rv16NeedCrRs2 rv16NeedCrRd rv16NeedCiRs1 rv16NeedCiRs2 rv16NeedCiRd rv16NeedCssRs1
  rv16NeedCssRs2 rv16NeedCssRd rv16NeedCiwRss1 rv16NeedCiwRss2 rv16NeedCiwRdd rv16NeedClRss1
  rv16NeedClRss2 rv16NeedClRdd rv16NeedCsRss1 rv16NeedCsRss2 rv16NeedCsRdd rv16NeedCbRss1
  rv16NeedCbRss2 rv16NeedCbRdd rv16NeedCjRss1 rv16NeedCjRss2 rv16NeedCjRdd rv16CrRs1 rv16CrRs2
  rv16CrRd rv16CiRs1 rv16CiRs2 rv16CiRd rv16CssRs2 rv16CiwRdd rv16ClRss1 rv16ClRdd rv16CsRss1
  rv16CsRss2 rv16CsRdd rv16CbRss1 rv16CbRdd rv16CjRdd rv16FormatCr rv16FormatCi rv16FormatCss
  rv16FormatCiw rv16FormatCl rv16FormatCs rv16FormatCb rv16FormatCj

attribute [local simp] rv16Addi4spn rv16Lw rv16Sw rv16Addi rv16Jal rv16Li rv16LuiAddi16sp
  rv16Miscalu rv16J rv16Beqz rv16Bnez rv16Slli rv16Lwsp rv16JalrMvAdd rv16Swsp rv16Srli rv16Srai
  rv16Andi rv16Lui rv16Subxororand rv16Jr rv16Mv rv16Jalr opcode opcode10_00 opcode10_01
  opcode10_10 opcode10_11 rv16Func3 rv16Func3_000 rv16Func3_001 rv16Func3_010 rv16Func3_011
  rv16Func3_100 rv16Func3_101 rv16Func3_110 rv16Func3_111 rv32Rd rv16Rd rv16Rs1 rv16Rs2 rv16Rdd
  rv16Rss1 rv16Rss2 rv16Rs1X0 rv16Rs2X0 rv16RdX0 rv32RdX0 rv32RdX2

/-- The registers of a 16-bit instruction are read from the low half of the word. -/
theorem rv16_congr {w w' : BitVec 32} (h : w.extractLsb' 0 16 = w'.extractLsb' 0 16) :
    rv32 w = rv32 w' ∧ rv16Rs1en w = rv16Rs1en w' ∧ rv16Rs2en w = rv16Rs2en w' ∧
      rv16Rden w = rv16Rden w' ∧ rv16Rs1idx w = rv16Rs1idx w' ∧ rv16Rs2idx w = rv16Rs2idx w' ∧
      rv16Rdidx w = rv16Rdidx w' := by
  have hfield : ∀ a k, a + k ≤ 16 → w.extractLsb' a k = w'.extractLsb' a k :=
    fun _ _ => Lib.extractLsb'_eq_of_low h
  have hbit : w[12] = w'[12] := by
    have hone := hfield 12 1 (by decide)
    rw [Lib.extractLsb'_one, Lib.extractLsb'_one] at hone
    have hmsb := congrArg BitVec.msb hone
    simpa using hmsb
  refine ⟨?_, ?_, ?_, ?_, ?_, ?_, ?_⟩
  all_goals simp (disch := omega) [hfield, hbit]

end

/-- Words of which the second holds as much of the first as its length asks for. -/
theorem regs_congr {w w' : BitVec 32} (hlo : w.extractLsb' 0 16 = w'.extractLsb' 0 16)
    (hall : rv32 w = true → w' = w) :
    decRs1en w' = decRs1en w ∧ decRs2en w' = decRs2en w ∧ decRdwen w' = decRdwen w ∧
      decRs1idx w' = decRs1idx w ∧ decRs2idx w' = decRs2idx w ∧ decRdidx w' = decRdidx w := by
  obtain ⟨hrv32, hen1, hen2, hend, hidx1, hidx2, hidxd⟩ := rv16_congr hlo
  cases hlen : rv32 w
  · simp [decRs1en, decRs2en, decRdwen, decRs1idx, decRs2idx, decRdidx, ← hrv32, hlen, hen1, hen2,
      hend, hidx1, hidx2, hidxd]
  · rw [hall hlen]
    exact ⟨rfl, rfl, rfl, rfl, rfl, rfl⟩

/-- Register `x0` is no operand. -/
theorem decRs1idx_ne_zero {w : BitVec 32} (h : decRs1en w = true) : decRs1idx w ≠ 0#5 := by
  rw [decRs1en] at h
  rw [decRs1idx]
  split_ifs at h ⊢
  · simp only [rv32NeedRs1, rv32Rs1X0, Bool.and_eq_true, Bool.not_eq_true', beq_eq_false_iff_ne] at h
    exact h.1
  · simpa using ((Bool.and_eq_true _ _).mp h).2

theorem decRs2idx_ne_zero {w : BitVec 32} (h : decRs2en w = true) : decRs2idx w ≠ 0#5 := by
  rw [decRs2en] at h
  rw [decRs2idx]
  split_ifs at h ⊢
  · simp only [rv32NeedRs2, rv32Rs2X0, Bool.and_eq_true, Bool.not_eq_true', beq_eq_false_iff_ne] at h
    exact h.1
  · simpa using ((Bool.and_eq_true _ _).mp h).2

end Decode

namespace Ifetch

/-- The enabled operand indexes are those of the instruction in the IR. -/
structure Indexed (s : State) : Prop where
  rs1 : s.irValidR = true → Decode.decRs1en s.ifuIrR = true →
    s.irRs1idxR = Decode.decRs1idx s.ifuIrR
  rs2 : s.irValidR = true → Decode.decRs2en s.ifuIrR = true →
    s.irRs2idxR = Decode.decRs2idx s.ifuIrR

section
variable {s : State} {i : In}

theorem Indexed.of_reset : Indexed State.reset where
  rs1 h := by cases h
  rs2 h := by cases h

theorem Indexed.step (h : Indexed s) (hdec : i.dec2ifuRs1en = Decode.decRs1en s.ifuIrR) :
    Indexed (step s i) := by
  cases hset : irValidSet s i
  case true =>
    obtain ⟨hlo, hall⟩ := step_ifuIrR hset
    obtain ⟨hen1, hen2, -, hidx1, hidx2, -⟩ := Decode.regs_congr hlo.symm hall
    constructor
    · intro _ hen
      rw [hidx1]
      exact step_irRs1idxR hset (hen1.symm.trans hen)
    · intro _ hen
      rw [hidx2]
      exact step_irRs2idxR hset (hen2.symm.trans hen)
  case false =>
    have hir : (Ifetch.step s i).ifuIrR = s.ifuIrR := (step_ifuIrR_of_not_set hset).1
    have hv := step_irValidR (s := s) (i := i)
    rw [hset, Bool.false_or] at hv
    have hold : (Ifetch.step s i).irValidR = true →
        s.irValidR = true ∧ irValidClr s i = false := by
      intro hnew
      rw [hv] at hnew
      simpa using hnew
    constructor
    · intro hnew hen
      obtain ⟨hvalid, hclr⟩ := hold hnew
      rw [hir] at hen ⊢
      have hkeep : bpu2rfRs1Ena s i = false := bpu2rfRs1Ena_eq_false hvalid hclr (hdec.trans hen)
      have hsame : (Ifetch.step s i).irRs1idxR = s.irRs1idxR := by
        simp [Ifetch.step, irRs1idxEna, hset, hkeep]
      rw [hsame, h.rs1 hvalid hen]
    · intro hnew hen
      obtain ⟨hvalid, -⟩ := hold hnew
      rw [hir] at hen ⊢
      have hsame : (Ifetch.step s i).irRs2idxR = s.irRs2idxR := by
        simp [Ifetch.step, irRs2idxEna, hset]
      rw [hsame, h.rs2 hvalid hen]

end
end Ifetch

namespace Core

theorem indexed_run {s : State} {inp : ℕ → In} (h0 : IsReset s) (t : ℕ) :
    Ifetch.Indexed (run inp s t).ifu := by
  induction t with
  | zero =>
    change Ifetch.Indexed s.ifu
    rw [h0.1]
    exact .of_reset
  | succ t ih => exact ih.step rfl

end Core
end E203
