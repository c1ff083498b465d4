import E203.Muldiv.Unit
import E203.Lib.NonRestoring

/-! # One cycle of the divider

What each state of the divider drives onto the adder and loads into the shared buffers, for a
division instruction that is neither a special case nor answered back-to-back.

* `DivCycle`: the operands of a division are presented, no flush, no shortcut.
* `part_step`: the non-restoring iteration, shared by state `0TH` and state `EXEC`: the 34-bit adder
  result is the next partial remainder and the two buffers shift left by one.
* `step_0th`, `step_exec`, `step_exec_last`, `step_chck`, `step_quot_corr`, `step_remd_corr`: the
  registers after the clock edge, state by state.
-/

namespace E203.Muldiv
open Lib
set_option autoImplicit false

/-- A cycle in which the division `op` of `a` by `b` is presented and has to be computed. -/
structure DivCycle (op : MulDivOp) (a b : BitVec 32) (e : Env) (u : Unit) : Prop
    extends Cycle op a b e u where
  isDiv : op.isDiv = true
  notSpecial : specialCases (e.ports u) = false

section
variable {op : MulDivOp} {a b : BitVec 32} {e : Env} {u : Unit} (h : DivCycle op a b e u)
include h

/-! ## Operands -/

theorem DivCycle.iOpDiv : iOpDiv (e.ports u) = true := by
  have hdiv := h.isDiv
  obtain ⟨_, _, _, _, h5, h6, h7, h8⟩ := h.bits
  simp only [Muldiv.iOpDiv, Env.ports, h5, h6, h7, h8]
  cases op <;> first | rfl | exact absurd hdiv (by decide)

theorem DivCycle.iOpMul : iOpMul (e.ports u) = false := by
  have hdiv := h.isDiv
  obtain ⟨h1, h2, h3, h4, _, _, _, _⟩ := h.bits
  simp only [Muldiv.iOpMul, Env.ports, h1, h2, h3, h4]
  cases op <;> first | rfl | exact absurd hdiv (by decide)

theorem DivCycle.divRs1Sign : divRs1Sign (e.ports u) = (op.rs1Signed && a.getLsbD 31) := by
  have hdiv := h.isDiv
  simp only [Muldiv.divRs1Sign, Env.ports, h.bits.divu, h.bits.remu, h.rs1]
  cases op <;> first | rfl | exact absurd hdiv (by decide)

theorem DivCycle.divRs2Sign : divRs2Sign (e.ports u) = (op.rs2Signed && b.getLsbD 31) := by
  have hdiv := h.isDiv
  simp only [Muldiv.divRs2Sign, Env.ports, h.bits.divu, h.bits.remu, h.rs2]
  cases op <;> first | rfl | exact absurd hdiv (by decide)

theorem DivCycle.divisor_eq : divisor (e.ports u) = BitVec.ofInt 34 (opVal op.rs2Signed b) := by
  have hsign := h.divRs2Sign
  unfold divisor
  rw [hsign, show (e.ports u).rs2 = b from h.rs2, fill_append_eq]

theorem DivCycle.divisor_sign :
    (divisor (e.ports u)).getLsbD 33 = decide (opVal op.rs2Signed b < 0) := by
  have hr := opVal_range op.rs2Signed b
  rw [h.divisor_eq, ofInt_sign (by omega) (by omega)]

theorem DivCycle.dividend_eq : dividend (e.ports u) = BitVec.ofInt 66 (opVal op.rs1Signed a) := by
  have hsign := h.divRs1Sign
  have hr := opVal_range op.rs1Signed a
  have h33 : BitVec.ofBool (op.rs1Signed && a.getLsbD 31) ++ a =
      BitVec.ofInt 33 (opVal op.rs1Signed a) := by
    rw [← fill_append_eq op.rs1Signed a 1]
    cases (op.rs1Signed && a.getLsbD 31) <;> rfl
  have hneg : (op.rs1Signed && a.getLsbD 31) = decide (opVal op.rs1Signed a < 0) := by
    have hbit : (BitVec.ofBool (op.rs1Signed && a.getLsbD 31) ++ a).getLsbD 32 =
        (op.rs1Signed && a.getLsbD 31) := by
      rw [BitVec.getLsbD_append]
      simp
    rw [← hbit, h33, ofInt_sign (by omega) (by omega)]
  unfold dividend
  rw [hsign, show (e.ports u).rs1 = a from h.rs1, h33, fill_eq_ofInt, ofInt_append]
  congr 1
  by_cases hn : opVal op.rs1Signed a < 0
  · rw [hneg, decide_eq_true hn, Bool.toNat_true]
    omega
  · rw [hneg, decide_eq_false hn, Bool.toNat_false]
    omega

theorem DivCycle.dividend_sign :
    (dividend (e.ports u)).getLsbD 65 = decide (opVal op.rs1Signed a < 0) := by
  have hr := opVal_range op.rs1Signed a
  rw [h.dividend_eq, ofInt_sign (by omega) (by omega)]

theorem DivCycle.quot0cycl :
    quot0cycl (e.ports u) =
      PartDiv.digitBit (opVal op.rs2Signed b) (opVal op.rs1Signed a / 2 ^ 32) := by
  have hr := opVal_range op.rs1Signed a
  have hiff : opVal op.rs1Signed a / 2 ^ 32 < 0 ↔ opVal op.rs1Signed a < 0 := by omega
  unfold Muldiv.quot0cycl PartDiv.digitBit
  rw [h.dividend_sign, h.divisor_sign]
  simp only [hiff]
  by_cases hn : opVal op.rs1Signed a < 0 <;> by_cases hd : opVal op.rs2Signed b < 0 <;>
    simp [hn, hd]

end

/-! ## The adder -/

/-- The low 34 bits of the adder for a pair of zero-extended 34-bit operands. -/
theorem res_low {e : Env} {u : Unit} (hreq : e.muldivReqAlu = true) {x y : ℤ} {c : Bool}
    (hop1 : (aluReq (e.ports u) u.mdv).op1 = 0#1 ++ BitVec.ofInt 34 x)
    (hop2 : (aluReq (e.ports u) u.mdv).op2 = 0#1 ++ BitVec.ofInt 34 y)
    (hadd : (aluReq (e.ports u) u.mdv).add = !c) (hsub : (aluReq (e.ports u) u.mdv).sub = c) :
    (e.res u).extractLsb' 0 34 = BitVec.ofInt 34 (if c then x - y else x + y) := by
  unfold Env.res
  cases c
  · rw [AluDpath.adderRes_muldiv_add (i := e.dpathIn u) hreq hadd hsub]
    simp only [Env.dpathIn, hop1, hop2, zeroExtend_append, ← BitVec.ofInt_add]
    rw [ofInt_extract (by omega), ofInt_eq_ofInt_iff]
    simp only [Bool.false_eq_true, if_false]
    omega
  · rw [AluDpath.adderRes_muldiv_sub (i := e.dpathIn u) hreq hsub]
    simp only [Env.dpathIn, hop1, hop2, zeroExtend_append, ← ofInt_sub]
    rw [ofInt_extract (by omega), ofInt_eq_ofInt_iff]
    simp only [if_true]
    omega

/-! ## The iteration -/

section
variable {op : MulDivOp} {a b : BitVec 32} {e : Env} {u : Unit} (h : DivCycle op a b e u)
include h

theorem DivCycle.aluReq_exe (hsta : u.mdv.sta = .zeroTh ∨ u.mdv.sta = .exec) :
    aluReq (e.ports u) u.mdv =
      { op1 := 0#1 ++ divExeAluOp1 (e.ports u) u.mdv, op2 := 0#1 ++ divisor (e.ports u)
        add := !prevQuot (e.ports u) u.mdv, sub := prevQuot (e.ports u) u.mdv } := by
  rcases hsta with hsta | hsta <;>
    simp [aluReq, reqAluSel1, reqAluSel2, reqAluSel3, reqAluSel4, reqAluSel5, h.iOpMul, h.iOpDiv,
      hsta, divExeAluOp2, divExeAluAdd, divExeAluSub]

/-- One iteration: `v` is the shifted partial remainder, `r` the remainder whose sign chooses the
digit, and `X` the low register. -/
structure Iter (op : MulDivOp) (b : BitVec 32) (e : Env) (u : Unit) (v r X : ℤ) : Prop where
  sta : u.mdv.sta = .zeroTh ∨ u.mdv.sta = .exec
  op1 : divExeAluOp1 (e.ports u) u.mdv = BitVec.ofInt 34 v
  prev : prevQuot (e.ports u) u.mdv = PartDiv.digitBit (opVal op.rs2Signed b) r
  low : (if cycle0th u.mdv then (dividendLsft1 (e.ports u)).extractLsb' 0 33
    else (e.ports u).sbf1R) = BitVec.ofInt 33 X

section
variable {v r X : ℤ} (it : Iter op b e u v r X)
include it

theorem DivCycle.exe_res :
    divExeAluRes (e.res u) =
      BitVec.ofInt 34 (v - PartDiv.digit (opVal op.rs2Signed b) r * opVal op.rs2Signed b) := by
  have hreq := h.aluReq_exe it.sta
  have hlow := res_low (e := e) (u := u) h.req (x := v) (y := opVal op.rs2Signed b)
    (c := PartDiv.digitBit (opVal op.rs2Signed b) r)
    (by rw [hreq]; simp only [it.op1]) (by rw [hreq]; simp only [h.divisor_eq])
    (by rw [hreq]; simp only [it.prev]) (by rw [hreq]; simp only [it.prev])
  unfold divExeAluRes
  rw [hlow, PartDiv.digit_eq]
  cases PartDiv.digitBit (opVal op.rs2Signed b) r
  · simp only [Bool.false_eq_true, if_false, Bool.toNat_false]
    congr 1
    omega
  · simp only [if_true, Bool.toNat_true]
    congr 1
    omega

variable {r' : ℤ} (hr' : r' = v - PartDiv.digit (opVal op.rs2Signed b) r * opVal op.rs2Signed b)
  (hlo : -2 ^ 32 ≤ r') (hhi : r' < 2 ^ 32)
include hr'

theorem DivCycle.exePartRemd :
    divExePartRemd (e.ports u) u.mdv (e.res u) = BitVec.ofInt 67 (r' * 2 ^ 33 + X % 2 ^ 33) := by
  unfold divExePartRemd
  rw [h.exe_res it, ← hr', it.low, ofInt_append]

include hlo hhi

theorem DivCycle.currentQuot :
    currentQuot (e.ports u) (e.res u) = PartDiv.digitBit (opVal op.rs2Signed b) r' := by
  unfold Muldiv.currentQuot PartDiv.digitBit
  rw [h.exe_res it, ← hr', h.divisor_sign, ofInt_sign (by omega) (by omega)]
  by_cases hn : r' < 0 <;> by_cases hd : opVal op.rs2Signed b < 0 <;> simp [hn, hd]

theorem DivCycle.exePartRemdLsft1 :
    divExePartRemdLsft1 (e.ports u) u.mdv (e.res u) =
      BitVec.ofInt 68 ((r' * 2 ^ 33 + X % 2 ^ 33) * 2 +
        (PartDiv.digitBit (opVal op.rs2Signed b) r').toNat) := by
  have hbit : ((PartDiv.digitBit (opVal op.rs2Signed b) r').toNat : ℤ) % 2 ^ 1 =
      (PartDiv.digitBit (opVal op.rs2Signed b) r').toNat := by
    cases PartDiv.digitBit (opVal op.rs2Signed b) r' <;> rfl
  unfold divExePartRemdLsft1
  rw [h.exePartRemd it hr', h.currentQuot it hr' hlo hhi, ofBool_eq_ofInt, ofInt_append, hbit,
    pow_one]

theorem DivCycle.partRemd_shift :
    BitVec.ofBool ((divExeAluRes (e.res u)).getLsbD 32) ++
        (divExePartRemdLsft1 (e.ports u) u.mdv (e.res u)).extractLsb' 33 33 =
      BitVec.ofInt 34 (2 * r' + X % 2 ^ 33 / 2 ^ 32) := by
  have htop : BitVec.ofBool ((divExeAluRes (e.res u)).getLsbD 32) = BitVec.ofInt 1 (r' / 2 ^ 32) := by
    rw [h.exe_res it, ← hr', ofInt_getLsbD (by omega), ofBool_eq_ofInt, ofInt_eq_ofInt_iff]
    by_cases hb : r' / 2 ^ 32 % 2 = 1
    · rw [decide_eq_true hb, Bool.toNat_true]
      omega
    · rw [decide_eq_false hb, Bool.toNat_false]
      omega
  have hbit : 0 ≤ ((PartDiv.digitBit (opVal op.rs2Signed b) r').toNat : ℤ) ∧
      ((PartDiv.digitBit (opVal op.rs2Signed b) r').toNat : ℤ) ≤ 1 := by
    cases PartDiv.digitBit (opVal op.rs2Signed b) r' <;> decide
  rw [htop, h.exePartRemdLsft1 it hr' hlo hhi, ofInt_extract (by omega), ofInt_append,
    ofInt_eq_ofInt_iff]
  generalize ((PartDiv.digitBit (opVal op.rs2Signed b) r').toNat : ℤ) = q at hbit ⊢
  omega

theorem DivCycle.partQuot_shift :
    (divExePartRemdLsft1 (e.ports u) u.mdv (e.res u)).extractLsb' 0 33 =
      BitVec.ofInt 33 (2 * X + (PartDiv.digitBit (opVal op.rs2Signed b) r').toNat) := by
  rw [h.exePartRemdLsft1 it hr' hlo hhi, ofInt_extract (by omega), ofInt_eq_ofInt_iff]
  generalize ((PartDiv.digitBit (opVal op.rs2Signed b) r').toNat : ℤ) = q
  omega

end

end

/-! ## The registers, state by state -/

section
attribute [local simp] Unit.step Muldiv.step AluDpath.Sbf.step sbfWr flushedSet flushedClr oHsked
  staNxt state0thExitEna stateExecExitEna stateRemdChckExitEna stateQuotCorrExitEna
  stateRemdCorrExitEna stateExecNxt stateRemdChckNxt stateQuotCorrNxt stateRemdCorrNxt iValidNb2b
  execCntInc execCntSet execCntNxt stateExecEnterEna execLastCycle divExecLastCycle cycle32nd
  partRemdEna partQuotEna partPrdtHiEna partPrdtLoEna divExeCntSet divExeCntInc mulExeCntSet
  mulExeCntInc partRemdNxt partQuotNxt corrctPhase

variable {op : MulDivOp} {a b : BitVec 32} {e : Env} {u : Unit} (h : DivCycle op a b e u)
include h

theorem DivCycle.oValid_eq :
    oValid (e.ports u) u.mdv (e.res u) =
      (u.mdv.sta == .remdChck && !divNeedCorrct (e.ports u) (e.res u) ||
        u.mdv.sta == .remdCorr) := by
  simp [oValid, wbckCondi, h.back2back, h.notSpecial, h.iOpDiv, h.ports_valid]

/-- State `0TH`: the first iteration is loaded and the counter starts at one. -/
theorem DivCycle.step_0th (hsta : u.mdv.sta = .zeroTh) :
    ∃ p, u.step e =
      { mdv :=
          { flushedR := u.mdv.flushedR, sta := .exec, execCntR := 1#6, partPrdtSft1R := p
            partRemdSft1R := (divExeAluRes (e.res u)).getLsbD 32 }
        sbf :=
          { sbf0 := (divExePartRemdLsft1 (e.ports u) u.mdv (e.res u)).extractLsb' 33 33
            sbf1 := (divExePartRemdLsft1 (e.ports u) u.mdv (e.res u)).extractLsb' 0 33 } } := by
  have hov := h.oValid_eq
  refine ⟨(u.step e).mdv.partPrdtSft1R, ?_⟩
  simp [h.req, hov, hsta, h.ports_flush, h.ports_valid, h.back2back, h.notSpecial, h.iOpDiv, h.iOpMul]

/-- State `EXEC` before the last cycle: one more iteration, the counter goes up. -/
theorem DivCycle.step_exec (hsta : u.mdv.sta = .exec) (hcnt : u.mdv.execCntR ≠ 32#6) :
    ∃ p, u.step e =
      { mdv :=
          { flushedR := u.mdv.flushedR, sta := .exec, execCntR := u.mdv.execCntR + 1#6
            partPrdtSft1R := p, partRemdSft1R := (divExeAluRes (e.res u)).getLsbD 32 }
        sbf :=
          { sbf0 := (divExePartRemdLsft1 (e.ports u) u.mdv (e.res u)).extractLsb' 33 33
            sbf1 := (divExePartRemdLsft1 (e.ports u) u.mdv (e.res u)).extractLsb' 0 33 } } := by
  have hov := h.oValid_eq
  refine ⟨(u.step e).mdv.partPrdtSft1R, ?_⟩
  simp [h.req, hov, hsta, hcnt, h.ports_flush, h.iOpDiv, h.iOpMul]

/-- State `EXEC` in the last cycle: the remainder is loaded unshifted, the quotient shifted with a
last digit that is always one. -/
theorem DivCycle.step_exec_last (hsta : u.mdv.sta = .exec) (hcnt : u.mdv.execCntR = 32#6) :
    ∃ p q, u.step e =
      { mdv :=
          { flushedR := u.mdv.flushedR, sta := .remdChck, execCntR := u.mdv.execCntR
            partPrdtSft1R := p, partRemdSft1R := q }
        sbf :=
          { sbf0 := divRemd (e.ports u) u.mdv (e.res u)
            sbf1 := divQuot (e.ports u) u.mdv (e.res u) } } := by
  have hov := h.oValid_eq
  refine ⟨(u.step e).mdv.partPrdtSft1R, (u.step e).mdv.partRemdSft1R, ?_⟩
  simp [h.req, hov, hsta, hcnt, h.ports_flush, h.iOpDiv, h.iOpMul]

/-- State `REMD_CHCK` with a correction needed. -/
theorem DivCycle.step_chck (hsta : u.mdv.sta = .remdChck)
    (hcor : divNeedCorrct (e.ports u) (e.res u) = true) :
    u.step e = { u with mdv := { u.mdv with sta := .quotCorr } } := by
  have hov := h.oValid_eq
  simp [h.req, hov, hsta, hcor, h.ports_flush, h.iOpMul]

/-- State `REMD_CHCK` without a correction waits for the response to be taken. -/
theorem DivCycle.step_chck_wait (hsta : u.mdv.sta = .remdChck)
    (hcor : divNeedCorrct (e.ports u) (e.res u) = false) (hready : e.oReady = false) :
    u.step e = u := by
  have hov := h.oValid_eq
  have hr : (e.ports u).oReady = false := hready
  simp [h.req, hov, hsta, hcor, h.ports_flush, h.iOpMul, hr]
  rw [← hsta]

/-- With the response taken, the buffers keep what they hold. -/
theorem DivCycle.step_chck_last (hsta : u.mdv.sta = .remdChck)
    (hcor : divNeedCorrct (e.ports u) (e.res u) = false) (hready : e.oReady = true) :
    (u.step e).mdv.sta = .zeroTh ∧ (u.step e).sbf = u.sbf := by
  have hov := h.oValid_eq
  have hr : (e.ports u).oReady = true := hready
  simp [h.req, hov, hsta, hcor, h.ports_flush, h.iOpMul, hr]

/-- State `QUOT_CORR`: the quotient is corrected. -/
theorem DivCycle.step_quot_corr (hsta : u.mdv.sta = .quotCorr) :
    u.step e =
      { mdv := { u.mdv with sta := .remdCorr }
        sbf :=
          { sbf0 := u.sbf.sbf0
            sbf1 := (divQuotCorrAluRes (e.res u)).extractLsb' 0 33 } } := by
  have hov := h.oValid_eq
  simp [h.req, hov, hsta, h.ports_flush, h.iOpMul]

/-- State `REMD_CORR` waits for the response to be taken. -/
theorem DivCycle.step_remd_corr_wait (hsta : u.mdv.sta = .remdCorr) (hready : e.oReady = false) :
    u.step e = u := by
  have hov := h.oValid_eq
  have hr : (e.ports u).oReady = false := hready
  simp [h.req, hov, hsta, h.ports_flush, h.iOpMul, hr]
  rw [← hsta]
/-- With the response taken, the corrected remainder is kept, too. -/
theorem DivCycle.step_remd_corr_last (hsta : u.mdv.sta = .remdCorr) (hready : e.oReady = true) :
    (u.step e).mdv.sta = .zeroTh ∧
      (u.step e).sbf =
        { sbf0 := (divRemdCorrAluRes (e.res u)).extractLsb' 0 33, sbf1 := u.sbf.sbf1 } := by
  have hov := h.oValid_eq
  have hr : (e.ports u).oReady = true := hready
  simp [h.req, hov, hsta, h.ports_flush, h.iOpMul, hr]

end

end E203.Muldiv
