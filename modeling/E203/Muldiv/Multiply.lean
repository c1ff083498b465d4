import E203.Muldiv.Unit
import E203.Lib.Booth

/-! # The multiplier computes the RV32M product

The two shared buffers and the bit shifted out before are the long register of the Booth recurrence
(`Lib.Booth.run`): `sbf_0` its high part, `sbf_1` its low part.  State `0TH` is the first step, on a
register that holds the multiplier alone; the exec states do the other sixteen.  In the last of them
the low half of the product lies in `sbf_1` and the adder computes the high half.
-/

namespace E203.Muldiv
open Lib
set_option autoImplicit false

/-- A cycle in which the multiplication `op` of `a` and `b` is presented and has to be computed. -/
structure MulCycle (op : MulDivOp) (a b : BitVec 32) (e : Env) (u : Unit) : Prop
    extends Cycle op a b e u where
  isMul : op.isDiv = false

/-! ## Operands -/

section
variable (op : MulDivOp) (a : BitVec 32)

/-- The sign the multiplier is extended with. -/
def mulSign : Bool := op.rs1Signed && a.getLsbD 31

/-- The 33-bit multiplier as the register holds it. -/
def mulPattern : ℤ := a.toNat + 2 ^ 32 * (mulSign op a).toNat

theorem mulPattern_range : 0 ≤ mulPattern op a ∧ mulPattern op a < 2 ^ 33 := by
  have hlt := a.isLt
  have hbit : ((mulSign op a).toNat : ℤ) ≤ 1 := by cases mulSign op a <;> decide
  unfold mulPattern
  omega

theorem bitAt_mulPattern : Booth.bitAt (mulPattern op a / 4 ^ 16) 0 = mulSign op a := by
  have hlt := a.isLt
  have hdiv : mulPattern op a / 4 ^ 16 = (mulSign op a).toNat := by
    have hbit : ((mulSign op a).toNat : ℤ) ≤ 1 := by cases mulSign op a <;> decide
    unfold mulPattern
    omega
  rw [hdiv]
  cases mulSign op a <;> decide

/-- The multiplier read in two's complement. -/
theorem opVal_eq_mulPattern :
    opVal op.rs1Signed a =
      mulPattern op a - 2 * 4 ^ 16 * (Booth.bitAt (mulPattern op a / 4 ^ 16) 0).toNat := by
  have hmsb : a.getLsbD 31 = a.msb := by rw [BitVec.msb_eq_getLsbD_last]
  rw [bitAt_mulPattern]
  unfold mulPattern mulSign
  rw [hmsb]
  cases op.rs1Signed
  · have hval : opVal false a = a.toNat := rfl
    rw [hval, Bool.false_and, Bool.toNat_false]
    omega
  · have hval : opVal true a = a.toInt := rfl
    rw [hval, BitVec.toInt_eq_msb_cond, Bool.true_and]
    cases a.msb
    · rw [Bool.toNat_false, if_neg Bool.false_ne_true]
      omega
    · rw [Bool.toNat_true, if_pos rfl]
      omega

/-- The register holding `{mul_rs1_sign,muldiv_i_rs1}`. -/
theorem mulPattern_bus : BitVec.ofBool (mulSign op a) ++ a = BitVec.ofInt 33 (mulPattern op a) := by
  have hlt := a.isLt
  have ha : BitVec.ofBool (mulSign op a) ++ a =
      BitVec.ofBool (mulSign op a) ++ BitVec.ofInt 32 (a.toNat : ℤ) :=
    congrArg _ (eq_ofInt_toNat a)
  rw [ha, ofBool_eq_ofInt, ofInt_append]
  congr 1
  unfold mulPattern
  omega

end

section
variable {op : MulDivOp} {a b : BitVec 32} {e : Env} {u : Unit} (h : MulCycle op a b e u)
include h

theorem MulCycle.iOpMul : iOpMul (e.ports u) = true := by
  have hmul := h.isMul
  obtain ⟨h1, h2, h3, h4, _, _, _, _⟩ := h.bits
  simp only [Muldiv.iOpMul, Env.ports, h1, h2, h3, h4]
  cases op <;> first | rfl | exact absurd hmul (by decide)

theorem MulCycle.iOpDiv : iOpDiv (e.ports u) = false := by
  have hmul := h.isMul
  obtain ⟨_, _, _, _, h5, h6, h7, h8⟩ := h.bits
  simp only [Muldiv.iOpDiv, Env.ports, h5, h6, h7, h8]
  cases op <;> first | rfl | exact absurd hmul (by decide)

theorem MulCycle.notSpecial : specialCases (e.ports u) = false := by
  simp [specialCases, divSpecialCases, h.iOpDiv]

theorem MulCycle.mulRs1Sign : mulRs1Sign (e.ports u) = mulSign op a := by
  have hmul := h.isMul
  simp only [Muldiv.mulRs1Sign, mulSign, Env.ports, h.bits.mulhu, h.rs1]
  cases op <;> first | rfl | exact absurd hmul (by decide)

theorem MulCycle.mulRs2Sign : mulRs2Sign (e.ports u) = (op.rs2Signed && b.getLsbD 31) := by
  have hmul := h.isMul
  simp only [Muldiv.mulRs2Sign, Env.ports, h.bits.mulhu, h.bits.mulhsu, h.rs2]
  cases op <;> first | rfl | exact absurd hmul (by decide)

/-! ## One partial product -/

/-- The multiplicand and its double on the 35-bit adder operand. -/
theorem MulCycle.mulExeAluOp2_eq {hi mid lo : Bool}
    (hcode : boothCode (e.ports u) u.mdv =
      BitVec.ofBool hi ++ BitVec.ofBool mid ++ BitVec.ofBool lo) :
    mulExeAluOp2 (e.ports u) u.mdv =
        BitVec.ofInt 35 ((if hi then -1 else 1) * Booth.digit hi mid lo * opVal op.rs2Signed b) ∧
      mulExeAluSub (e.ports u) u.mdv = hi := by
  have hrs2 : (e.ports u).rs2 = b := h.rs2
  have hone : BitVec.fill 3 (op.rs2Signed && b.getLsbD 31) ++ b =
      BitVec.ofInt 35 (opVal op.rs2Signed b) := fill_append_eq op.rs2Signed b 3
  have htwo : BitVec.fill 2 (op.rs2Signed && b.getLsbD 31) ++ b ++ BitVec.ofBool false =
      BitVec.ofInt 35 (opVal op.rs2Signed b * 2) := by
    have hz : BitVec.ofBool false = BitVec.ofInt 1 0 := rfl
    rw [fill_append_eq op.rs2Signed b 2, hz, ofInt_append, ofInt_eq_ofInt_iff]
    omega
  have hzero : (0#35 : BitVec 35) = BitVec.ofInt 35 0 := rfl
  unfold mulExeAluOp2 mulExeAluSub boothSelSub boothSelOne boothSelTwo boothSelZero
  rw [hcode, h.mulRs2Sign, hrs2, hone, htwo]
  cases hi <;> cases mid <;> cases lo <;>
    refine ⟨?_, by decide⟩ <;> simp [Booth.digit, mul_comm]

/-- The adder computes the partial product plus the digit times the multiplicand. -/
theorem MulCycle.booth_sum {hi mid lo : Bool} {v : ℤ}
    (hcode : boothCode (e.ports u) u.mdv =
      BitVec.ofBool hi ++ BitVec.ofBool mid ++ BitVec.ofBool lo)
    (hop1 : mulExeAluOp1 (e.ports u) u.mdv = BitVec.ofInt 35 v) :
    e.res u = BitVec.ofInt 35 (v + Booth.digit hi mid lo * opVal op.rs2Signed b) := by
  obtain ⟨hop2, hsub⟩ := h.mulExeAluOp2_eq hcode
  have hreq : aluReq (e.ports u) u.mdv =
      { op1 := mulExeAluOp1 (e.ports u) u.mdv, op2 := mulExeAluOp2 (e.ports u) u.mdv
        add := !mulExeAluSub (e.ports u) u.mdv, sub := mulExeAluSub (e.ports u) u.mdv } := by
    simp [aluReq, reqAluSel1, reqAluSel2, reqAluSel3, reqAluSel4, reqAluSel5, h.iOpMul, h.iOpDiv,
      mulExeAluAdd, mulExeAluSub]
  unfold Env.res
  cases hi
  · rw [AluDpath.adderRes_muldiv_add (i := e.dpathIn u) h.req (by simp [Env.dpathIn, hreq, hsub])
      (by simp [Env.dpathIn, hreq, hsub])]
    simp only [Env.dpathIn, hreq, hop1, hop2, ← BitVec.ofInt_add]
    simp
  · rw [AluDpath.adderRes_muldiv_sub (i := e.dpathIn u) h.req (by simp [Env.dpathIn, hreq, hsub])]
    simp only [Env.dpathIn, hreq, hop1, hop2, ← ofInt_sub]
    congr 1
    simp only [if_true]
    ring

end

/-! ## The registers, state by state -/

section
attribute [local simp] Unit.step Muldiv.step AluDpath.Sbf.step sbfWr flushedSet flushedClr oHsked
  staNxt state0thExitEna stateExecExitEna stateRemdChckExitEna stateQuotCorrExitEna
  stateRemdCorrExitEna stateExecNxt iValidNb2b execCntInc execCntSet execCntNxt stateExecEnterEna
  execLastCycle mulExecLastCycle cycle16th partRemdEna partQuotEna partPrdtHiEna partPrdtLoEna
  divExeCntSet divExeCntInc mulExeCntSet mulExeCntInc

variable {op : MulDivOp} {a b : BitVec 32} {e : Env} {u : Unit} (h : MulCycle op a b e u)
include h

theorem MulCycle.oValid_0th (hsta : u.mdv.sta = .zeroTh) :
    oValid (e.ports u) u.mdv (e.res u) = false := by
  simp [oValid, wbckCondi, h.back2back, h.notSpecial, hsta]

theorem MulCycle.oValid_exec (hsta : u.mdv.sta = .exec) :
    oValid (e.ports u) u.mdv (e.res u) = decide (u.mdv.execCntR = 16#6) := by
  simp [oValid, wbckCondi, h.back2back, h.notSpecial, hsta, h.iOpDiv, h.iOpMul, h.ports_valid,
    beq_eq_decide]

theorem MulCycle.step_0th (hsta : u.mdv.sta = .zeroTh) :
    ∃ q, u.step e =
      { mdv :=
          { flushedR := u.mdv.flushedR, sta := .exec, execCntR := 1#6
            partPrdtSft1R := partPrdtSft1Nxt (e.ports u) u.mdv, partRemdSft1R := q }
        sbf :=
          { sbf0 := partPrdtHiNxt (e.res u)
            sbf1 := partPrdtLoNxt (e.ports u) u.mdv (e.res u) } } := by
  have hov := h.oValid_0th hsta
  refine ⟨(u.step e).mdv.partRemdSft1R, ?_⟩
  simp [h.req, hov, hsta, h.ports_flush, h.ports_valid, h.back2back, h.notSpecial, h.iOpDiv,
    h.iOpMul]

theorem MulCycle.step_exec (hsta : u.mdv.sta = .exec) (hcnt : u.mdv.execCntR ≠ 16#6) :
    ∃ q, u.step e =
      { mdv :=
          { flushedR := u.mdv.flushedR, sta := .exec, execCntR := u.mdv.execCntR + 1#6
            partPrdtSft1R := partPrdtSft1Nxt (e.ports u) u.mdv, partRemdSft1R := q }
        sbf :=
          { sbf0 := partPrdtHiNxt (e.res u)
            sbf1 := partPrdtLoNxt (e.ports u) u.mdv (e.res u) } } := by
  have hov := h.oValid_exec hsta
  rw [decide_eq_false hcnt] at hov
  have hne : (u.mdv.execCntR == 16#6) = false := by simpa using hcnt
  refine ⟨(u.step e).mdv.partRemdSft1R, ?_⟩
  simp [h.req, hov, hsta, hne, h.ports_flush, h.iOpDiv, h.iOpMul]

theorem MulCycle.step_wait (hsta : u.mdv.sta = .exec) (hcnt : u.mdv.execCntR = 16#6)
    (hready : e.oReady = false) : u.step e = u := by
  have hr : (e.ports u).oReady = false := hready
  simp [h.req, hsta, hcnt, h.ports_flush, h.iOpDiv, h.iOpMul, hr]
  rw [← hsta, ← hcnt]
theorem MulCycle.step_last (hsta : u.mdv.sta = .exec) (hcnt : u.mdv.execCntR = 16#6)
    (hready : e.oReady = true) :
    (u.step e).mdv.sta = .zeroTh ∧
      (u.step e).sbf.sbf1 = partPrdtLoNxt (e.ports u) u.mdv (e.res u) ∧
      (u.step e).mdv.partPrdtSft1R = partPrdtSft1Nxt (e.ports u) u.mdv := by
  have hov := h.oValid_exec hsta
  have hr : (e.ports u).oReady = true := hready
  simp [h.req, hov, hsta, hcnt, h.ports_flush, h.iOpDiv, h.iOpMul, hr]

end

/-! ## The iterations -/

section
variable (op : MulDivOp) (a b : BitVec 32)

/-- The long register after `k` steps. -/
def mulAcc (k : ℕ) : Booth.Acc := Booth.run 33 (mulPattern op a) (opVal op.rs2Signed b) k

/-- The registers in state `EXEC` with the counter at `k`. -/
structure MulInv (k : ℕ) (u : Unit) : Prop where
  sta : u.mdv.sta = .exec
  cnt : u.mdv.execCntR = BitVec.ofNat 6 k
  hi : u.sbf.sbf0 = BitVec.ofInt 33 ((mulAcc op a b k).acc / 2 ^ 33)
  lo : u.sbf.sbf1 = BitVec.ofInt 33 (mulAcc op a b k).acc
  prev : u.mdv.partPrdtSft1R = (mulAcc op a b k).prev

/-- What step `k + 1` of the recurrence reads, wherever the hardware takes it from. -/
structure MulIter (k : ℕ) (e : Env) (u : Unit) : Prop where
  code : boothCode (e.ports u) u.mdv =
    BitVec.ofBool (Booth.bitAt (mulAcc op a b k).acc 1) ++
      BitVec.ofBool (Booth.bitAt (mulAcc op a b k).acc 0) ++ BitVec.ofBool (mulAcc op a b k).prev
  op1 : mulExeAluOp1 (e.ports u) u.mdv = BitVec.ofInt 35 ((mulAcc op a b k).acc / 2 ^ 33)
  low : (if cycle0th u.mdv then
      BitVec.ofBool (mulRs1Sign (e.ports u)) ++ (e.ports u).rs1.extractLsb' 2 30
    else (e.ports u).sbf1R.extractLsb' 2 31) = BitVec.ofInt 31 ((mulAcc op a b k).acc / 4)
  sft1 : partPrdtSft1Nxt (e.ports u) u.mdv = Booth.bitAt (mulAcc op a b k).acc 1

end

/-- The two lowest bits of a bus. -/
theorem low_two_bits {w : ℕ} (hw : 2 ≤ w) (z : ℤ) :
    (BitVec.ofInt w z).extractLsb' 0 2 =
      BitVec.ofBool (Booth.bitAt z 1) ++ BitVec.ofBool (Booth.bitAt z 0) := by
  have h0 := Booth.toNat_bitAt z 0
  have h1 := Booth.toNat_bitAt z 1
  rw [ofBool_eq_ofInt, ofBool_eq_ofInt, ofInt_append, ofInt_extract (by omega), h0, h1,
    ofInt_eq_ofInt_iff]
  omega

theorem cnt_ne_last {k : ℕ} (hk : k ≤ 15) : BitVec.ofNat 6 k ≠ 16#6 := by
  intro heq
  have := congrArg BitVec.toNat heq
  simp at this
  omega

section
variable {op : MulDivOp} {a b : BitVec 32} {e : Env} {u : Unit}

theorem mulAcc_high_range (op : MulDivOp) (a b : BitVec 32) (k : ℕ) :
    -2 ^ 32 ≤ (mulAcc op a b k).acc / 2 ^ 33 ∧ (mulAcc op a b k).acc / 2 ^ 33 < 2 ^ 32 := by
  have hX := mulPattern_range op a
  have hy := opVal_range op.rs2Signed b
  exact Booth.run_high_range hX.1 hX.2 (by norm_num) (by omega) k

variable (h : MulCycle op a b e u)
include h

/-- The loaded registers hold the next state of the recurrence. -/
theorem MulCycle.iter_next {k : ℕ} (it : MulIter op a b k e u) :
    partPrdtHiNxt (e.res u) = BitVec.ofInt 33 ((mulAcc op a b (k + 1)).acc / 2 ^ 33) ∧
      partPrdtLoNxt (e.ports u) u.mdv (e.res u) = BitVec.ofInt 33 (mulAcc op a b (k + 1)).acc ∧
      partPrdtSft1Nxt (e.ports u) u.mdv = (mulAcc op a b (k + 1)).prev := by
  have hsum := h.booth_sum it.code it.op1
  have hhi := Booth.step_high 33 (opVal op.rs2Signed b) (mulAcc op a b k)
  have hlo := Booth.step_low 31 (opVal op.rs2Signed b) (mulAcc op a b k)
  refine ⟨?_, ?_, it.sft1⟩
  · unfold partPrdtHiNxt
    rw [hsum, ofInt_extract (by omega)]
    exact congrArg (BitVec.ofInt 33) hhi.symm
  · unfold partPrdtLoNxt
    rw [it.low, hsum, ofInt_extract (by omega), ofInt_append, pow_zero, Int.ediv_one]
    exact congrArg (BitVec.ofInt 33) hlo.symm

/-- State `0TH` is the first step, on the multiplier alone. -/
theorem MulCycle.iter_0th (hsta : u.mdv.sta = .zeroTh) : MulIter op a b 0 e u := by
  have hcyc : cycle0th u.mdv = true := by simp [cycle0th, hsta]
  have hrs1 : (e.ports u).rs1 = a := h.rs1
  have hX := mulPattern_range op a
  have hacc : (mulAcc op a b 0).acc = mulPattern op a := rfl
  have hprev : (mulAcc op a b 0).prev = false := rfl
  have hbus := mulPattern_bus op a
  have hlow : a.extractLsb' 0 2 = (BitVec.ofBool (mulSign op a) ++ a).extractLsb' 0 2 := by
    rw [BitVec.extractLsb'_append_eq_of_add_le (by omega)]
  refine ⟨?_, ?_, ?_, ?_⟩
  · unfold boothCode
    rw [if_pos hcyc, hrs1, hlow, hbus, low_two_bits (by omega), hacc, hprev]
  · have hz : (mulAcc op a b 0).acc / 2 ^ 33 = 0 := Int.ediv_eq_zero_of_lt hX.1 hX.2
    unfold mulExeAluOp1
    rw [if_pos hcyc, hz]
    rfl
  · have happ : BitVec.ofBool (mulSign op a) ++ a.extractLsb' 2 30 =
        (BitVec.ofBool (mulSign op a) ++ a).extractLsb' 2 31 := by
      rw [eq_ofInt_toNat a, ofBool_eq_ofInt, ofInt_extract (by omega), ofInt_append, ofInt_append,
        ofInt_extract (by omega), ofInt_eq_ofInt_iff]
      have hlt := a.isLt
      omega
    rw [if_pos hcyc, h.mulRs1Sign, hrs1, happ, hbus, ofInt_extract (by omega), hacc]
    rfl
  · have hbit : a.getLsbD 1 = (BitVec.ofBool (mulSign op a) ++ a).getLsbD 1 := by
      rw [BitVec.getLsbD_append]
      rfl
    unfold partPrdtSft1Nxt
    rw [if_pos hcyc, hrs1, hbit, hbus, ofInt_getLsbD (by omega), hacc]
    rfl

omit h in
/-- The exec states before the last one take the digit from the low buffer. -/
theorem iter_mul_exec (e : Env) {k : ℕ} (hk : k ≤ 15) (inv : MulInv op a b k u) :
    MulIter op a b k e u := by
  have hcyc : cycle0th u.mdv = false := by simp [cycle0th, inv.sta]
  have h16 : cycle16th u.mdv = false := by
    simpa [cycle16th, inv.cnt] using cnt_ne_last hk
  have hsbf0 : (e.ports u).sbf0R = u.sbf.sbf0 := rfl
  have hsbf1 : (e.ports u).sbf1R = u.sbf.sbf1 := rfl
  have hrange := mulAcc_high_range op a b k
  refine ⟨?_, ?_, ?_, ?_⟩
  · unfold boothCode
    simp only [hcyc, h16, Bool.false_eq_true, if_false]
    rw [hsbf1, inv.lo, inv.prev, low_two_bits (by omega)]
  · unfold mulExeAluOp1
    simp only [hcyc, Bool.false_eq_true, if_false]
    rw [hsbf0, inv.hi, ofInt_sign (by omega) (by omega), fill_eq_ofInt, ofInt_append,
      ofInt_eq_ofInt_iff]
    by_cases hneg : (mulAcc op a b k).acc / 2 ^ 33 < 0
    · rw [decide_eq_true hneg, Bool.toNat_true]
      omega
    · rw [decide_eq_false hneg, Bool.toNat_false]
      omega
  · simp only [hcyc, Bool.false_eq_true, if_false]
    rw [hsbf1, inv.lo, ofInt_extract (by omega)]
    rfl
  · unfold partPrdtSft1Nxt
    simp only [hcyc, Bool.false_eq_true, if_false]
    rw [hsbf1, inv.lo, ofInt_getLsbD (by omega)]
    rfl

theorem MulCycle.inv_init (hsta : u.mdv.sta = .zeroTh) : MulInv op a b 1 (u.step e) := by
  obtain ⟨q, hstep⟩ := h.step_0th hsta
  obtain ⟨hhi, hlo, hprev⟩ := h.iter_next (h.iter_0th hsta)
  rw [hstep]
  exact ⟨rfl, rfl, hhi, hlo, hprev⟩

theorem MulCycle.inv_succ {k : ℕ} (hk : k ≤ 15) (inv : MulInv op a b k u) :
    MulInv op a b (k + 1) (u.step e) := by
  have hcnt : u.mdv.execCntR ≠ 16#6 := inv.cnt ▸ cnt_ne_last hk
  obtain ⟨q, hstep⟩ := h.step_exec inv.sta hcnt
  obtain ⟨hhi, hlo, hprev⟩ := h.iter_next (iter_mul_exec e hk inv)
  rw [hstep]
  refine ⟨rfl, ?_, hhi, hlo, hprev⟩
  rw [inv.cnt]
  apply BitVec.eq_of_toNat_eq
  simp

/-! ## The response -/

/-- The last cycle: the low half is in the buffer and the adder gives the high half. -/
theorem MulCycle.last_sum (inv : MulInv op a b 16 u) :
    e.res u = BitVec.ofInt 35 (product op a b / 2 ^ 32) := by
  have hX := mulPattern_range op a
  have hsign := bitAt_mulPattern op a
  have hhigh := Booth.run_high (n := 16) (y := opVal op.rs2Signed b) hX.1 (by omega)
    (opVal_eq_mulPattern op a)
  obtain ⟨hacc, _⟩ := Booth.run_acc (n := 16) (mulPattern op a) (opVal op.rs2Signed b) (le_refl 16)
  obtain ⟨hs, _⟩ := Booth.recoded_sign hX.1 (by omega) (opVal_eq_mulPattern op a)
  have hsbf0 : (e.ports u).sbf0R = u.sbf.sbf0 := rfl
  have hsbf1 : (e.ports u).sbf1R = u.sbf.sbf1 := rfl
  have hrange := mulAcc_high_range op a b 16
  have hcyc : cycle0th u.mdv = false := by simp [cycle0th, inv.sta]
  have h16 : cycle16th u.mdv = true := by simp [cycle16th, inv.cnt]
  have hcode : boothCode (e.ports u) u.mdv =
      BitVec.ofBool (mulSign op a) ++ BitVec.ofBool (mulSign op a) ++
        BitVec.ofBool (mulAcc op a b 16).prev := by
    have hmid : u.sbf.sbf1.extractLsb' 0 1 = BitVec.ofBool (mulSign op a) := by
      rw [inv.lo, ofInt_extract (by omega), ofBool_eq_ofInt, ofInt_eq_ofInt_iff, ← hsign, ← hs,
        pow_zero, Int.ediv_one]
      have hpar : (mulAcc op a b 16).acc =
          2 * (opVal op.rs2Signed b * Booth.recoded (mulPattern op a) 16) +
            mulPattern op a / 4 ^ 16 := by
        have : (mulAcc op a b 16).acc = _ := hacc
        rw [this]
        ring
      rw [hpar]
      omega
    unfold boothCode
    simp only [hcyc, h16, Bool.false_eq_true, if_false, if_true]
    rw [hsbf1, hmid, h.mulRs1Sign, inv.prev]
  have hop1 : mulExeAluOp1 (e.ports u) u.mdv =
      BitVec.ofInt 35 ((mulAcc op a b 16).acc / 2 ^ 33) := by
    unfold mulExeAluOp1
    simp only [hcyc, Bool.false_eq_true, if_false]
    rw [hsbf0, inv.hi, ofInt_sign (by omega) (by omega), fill_eq_ofInt, ofInt_append,
      ofInt_eq_ofInt_iff]
    by_cases hneg : (mulAcc op a b 16).acc / 2 ^ 33 < 0
    · rw [decide_eq_true hneg, Bool.toNat_true]
      omega
    · rw [decide_eq_false hneg, Bool.toNat_false]
      omega
  rw [h.booth_sum hcode hop1, ← hsign]
  exact congrArg (BitVec.ofInt 35) hhigh

omit h in
/-- The low half of the product, below the digit shifted out last. -/
theorem MulInv.low (inv : MulInv op a b 16 u) :
    u.sbf.sbf1.extractLsb' 1 32 = BitVec.ofInt 32 (product op a b) := by
  have hX := mulPattern_range op a
  have hlow := Booth.run_low (n := 16) (y := opVal op.rs2Signed b) hX.1 (by omega)
    (opVal_eq_mulPattern op a)
  rw [inv.lo, ofInt_extract (by omega), ofInt_eq_ofInt_iff]
  exact hlow

theorem MulCycle.wdat_eq (inv : MulInv op a b 16 u) : u.oWbckWdat e = rv32m op a b := by
  have hmulbit : (e.ports u).info.mul = decide (op = .mul) := h.bits.mul
  have hsbf1 : (e.ports u).sbf1R = u.sbf.sbf1 := rfl
  have hwd : u.oWbckWdat e = mulRes (e.ports u) (e.res u) := by
    simp [Unit.oWbckWdat, Muldiv.oWbckWdat, resSelB2b, resSelSpl, resSelDiv, resSelMul,
      h.back2back, h.notSpecial, h.iOpDiv, h.iOpMul]
  have hhi : (e.res u).extractLsb' 0 32 = BitVec.ofInt 32 (product op a b / 2 ^ 32) := by
    rw [h.last_sum inv, ofInt_extract (by omega), pow_zero, Int.ediv_one]
  have hmul := h.isMul
  rw [hwd]
  unfold mulRes
  rw [hmulbit, hsbf1, inv.low, hhi]
  cases op <;> first | rfl | exact absurd hmul (by decide)

end

/-! ## Whole multiplications -/

section
variable {op : MulDivOp} {a b : BitVec 32} {env : ℕ → Env} {u : Unit}

/-- The run through state `EXEC`. -/
theorem Started.mul_run (hs : Started op a b env u) (hmul : op.isDiv = false) {k : ℕ}
    (hk1 : 1 ≤ k) (hk : k ≤ 16) : Pending env u k ∧ MulInv op a b k (unitAt env u k) := by
  induction k, hk1 using Nat.le_induction with
  | base =>
    have h : MulCycle op a b (env 0) (unitAt env u 0) := ⟨hs.cycle pending_zero, hmul⟩
    have hov : (unitAt env u 0).oValid (env 0) = false := h.oValid_0th hs.sta
    exact ⟨pending_zero.succ (by simp [hov]), h.inv_init hs.sta⟩
  | succ k hk1 ih =>
    obtain ⟨hp, inv⟩ := ih (by omega)
    have h : MulCycle op a b (env k) (unitAt env u k) := ⟨hs.cycle hp, hmul⟩
    have hov : (unitAt env u k).oValid (env k) = false := by
      have := h.oValid_exec inv.sta
      rw [inv.cnt, decide_eq_false (cnt_ne_last (by omega))] at this
      exact this
    exact ⟨hp.succ (by simp [hov]), h.inv_succ (by omega) inv⟩

theorem Started.mulCycle (hs : Started op a b env u) (hmul : op.isDiv = false) {t : ℕ}
    (ht : Pending env u t) : MulCycle op a b (env t) (unitAt env u t) := ⟨hs.cycle ht, hmul⟩

theorem Started.mul_not_valid (hs : Started op a b env u) (hmul : op.isDiv = false) {t : ℕ}
    (ht : t < 16) : (unitAt env u t).oValid (env t) = false := by
  rcases Nat.eq_zero_or_pos t with h0 | hpos
  · subst h0
    exact (hs.mulCycle hmul pending_zero).oValid_0th hs.sta
  · obtain ⟨hp, inv⟩ := hs.mul_run hmul hpos (by omega)
    have hov := (hs.mulCycle hmul hp).oValid_exec inv.sta
    rw [inv.cnt, decide_eq_false (cnt_ne_last (by omega))] at hov
    exact hov

/-- The response is given in cycle 16 and stays. -/
theorem Started.mul_response (hs : Started op a b env u) (hmul : op.isDiv = false) {t : ℕ}
    (ht : 16 ≤ t) (hp : Pending env u t) :
    (unitAt env u t).oValid (env t) = true ∧
      (unitAt env u t).oWbckWdat (env t) = rv32m op a b := by
  obtain ⟨_, inv⟩ := hs.mul_run hmul (k := 16) (by omega) (by omega)
  have hvalid : ∀ j ≥ 16, Pending env u j → unitAt env u j = unitAt env u 16 →
      (unitAt env u j).oValid (env j) = true := by
    intro j _ hj heq
    have inv' : MulInv op a b 16 (unitAt env u j) := heq ▸ inv
    have hov := (hs.mulCycle hmul hj).oValid_exec inv'.sta
    rw [inv'.cnt] at hov
    exact hov
  have hwait : ∀ j ≥ 16, Pending env u j → unitAt env u j = unitAt env u 16 →
      (env j).oReady = false → (unitAt env u j).step (env j) = unitAt env u j := by
    intro j _ hj heq hready
    have inv' : MulInv op a b 16 (unitAt env u j) := heq ▸ inv
    exact (hs.mulCycle hmul hj).step_wait inv'.sta inv'.cnt hready
  have heq := unitAt_eq_of_wait hvalid hwait ht hp
  exact ⟨hvalid t ht hp heq, (hs.mulCycle hmul hp).wdat_eq (heq ▸ inv)⟩

/-- The state of the multiplier in cycle `t` of an operation. -/
def multiplySta (t : ℕ) : Sta := if t = 0 then .zeroTh else .exec

/-- **Multiply correctness.**  A multiplication started in state `0TH` runs sixteen exec cycles
without a response, and from cycle 16 on, until the response is taken, gives a valid response with
the RV32M result. -/
theorem multiply_correct (hs : Started op a b env u) (hmul : op.isDiv = false) :
    (∀ t ≤ 16, Pending env u t ∧ (unitAt env u t).mdv.sta = multiplySta t) ∧
      (∀ t < 16, (unitAt env u t).oValid (env t) = false) ∧
      ∀ t ≥ 16, Pending env u t →
        (unitAt env u t).oValid (env t) = true ∧
          (unitAt env u t).oWbckWdat (env t) = rv32m op a b := by
  refine ⟨fun t ht => ?_, fun t ht => hs.mul_not_valid hmul ht,
    fun t ht hp => hs.mul_response hmul ht hp⟩
  rcases Nat.eq_zero_or_pos t with h0 | hpos
  · subst h0
    exact ⟨pending_zero, hs.sta⟩
  · obtain ⟨hp, inv⟩ := hs.mul_run hmul hpos ht
    exact ⟨hp, by rw [inv.sta, multiplySta, if_neg (by omega)]⟩

/-- `MULHSU` of -1 by the largest unsigned number, with the buffers and the counter full of ones at
the start and the response left waiting for ten cycles. -/
theorem multiply_correct_mulhsu :
    (unitAt (fun _ => holdEnv .mulhsu (BitVec.ofInt 32 (-1)) 0xffffffff#32)
      ⟨⟨false, .zeroTh, 63#6, true, true⟩, ⟨BitVec.allOnes 33, BitVec.allOnes 33⟩⟩ 26).oWbckWdat
        (holdEnv .mulhsu (BitVec.ofInt 32 (-1)) 0xffffffff#32) = 0xffffffff#32 := by
  obtain ⟨_, _, hres⟩ :=
    multiply_correct (u := ⟨⟨false, .zeroTh, 63#6, true, true⟩,
      ⟨BitVec.allOnes 33, BitVec.allOnes 33⟩⟩)
      (started_holdEnv .mulhsu (BitVec.ofInt 32 (-1)) 0xffffffff#32 rfl) rfl
  rw [(hres 26 (by omega) (pending_holdEnv _ _ _ _ _)).2]
  decide

end

end E203.Muldiv
