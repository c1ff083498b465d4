import E203.Isa.Control
import E203.Isa.RV32MA

/-! # Comparisons on the shared datapath

A branch compares through the exclusive-or unit or through the 35-bit adder, whose bit 32 is the sign
of the difference of the extended operands.
-/

namespace E203.AluDpath
set_option autoImplicit false

/-- What a branch drives onto the datapath mux. -/
def cmpReq (k : Isa.Cond) (a b : BitVec 32) : Req where
  op1 := a
  op2 := b
  cmpEq := decide (k = .eq)
  cmpNe := decide (k = .ne)
  cmpLt := decide (k = .lt)
  cmpGt := decide (k = .ge)
  cmpLtu := decide (k = .ltu)
  cmpGtu := decide (k = .geu)

@[simp] theorem Req.gated_true (r : Req) : r.gated true = r := rfl
@[simp] theorem Req.gated_false (r : Req) : r.gated false = {} := rfl

theorem Req.union_empty (r : Req) : r.union {} = r := by
  simp [Req.union]

theorem Req.empty_union (r : Req) : Req.union {} r = r := by
  simp [Req.union]

theorem mux_bjp {d : In} (ha : d.aluReqAlu = false) (hb : d.bjpReqAlu = true)
    (hg : d.aguReqAlu = false) : mux d = d.bjpReq := by
  rw [mux, ha, hb, hg, Req.gated_false, Req.gated_true, Req.gated_false, Req.empty_union,
    Req.union_empty]

section
variable {d : In} {k : Isa.Cond} {a b : BitVec 32}

/-- Bit 32 of the difference of two extended operands is its sign. -/
theorem sign_opVal_sub (signed : Bool) :
    (BitVec.ofInt 35 (opVal signed a - opVal signed b)).getLsbD 32 =
      decide (opVal signed a < opVal signed b) := by
  have ha := opVal_range signed a
  have hb := opVal_range signed b
  rw [Lib.ofInt_getLsbD (by omega)]
  have hiff : (opVal signed a - opVal signed b) / 2 ^ 32 % 2 = 1 ↔
      opVal signed a < opVal signed b := by
    cases signed
    · have h0a : 0 ≤ opVal false a := Int.natCast_nonneg _
      have h0b : 0 ≤ opVal false b := Int.natCast_nonneg _
      omega
    · have h1a : opVal true a < 2 ^ 31 := BitVec.toInt_lt
      have h1b : opVal true b < 2 ^ 31 := BitVec.toInt_lt
      omega
  rw [decide_eq_decide.mpr hiff]

/-- A subtraction extends its operands as signed or as unsigned numbers. -/
theorem adderRes_of_sub {signed : Bool} (hmdv : d.muldivReqAlu = false) (hsub : adderSub d = true)
    (huns : opUnsigned d = !signed) :
    adderRes d = BitVec.ofInt 35 (opVal signed (miscOp1 d) - opVal signed (miscOp2 d)) := by
  have h1 : adderOp1 d = BitVec.ofInt 35 (opVal signed (miscOp1 d)) := by
    rw [← fill_append_eq]
    simp [adderOp1, hmdv, miscAdderOp1, huns]
  have h2 : adderOp2 d = BitVec.ofInt 35 (opVal signed (miscOp2 d)) := by
    rw [← fill_append_eq]
    simp [adderOp2, hmdv, miscAdderOp2, huns]
  rw [Lib.ofInt_sub, ← h1, ← h2, ← Lib.add_not_add_one]
  simp [adderRes, adderIn1, adderIn2, adderCin, adderAddsub, hsub]

/-- An ordering comparison subtracts its operands, extended as the condition reads them. -/
theorem adderRes_cmp (hm : mux d = cmpReq k a b) (hmdv : d.muldivReqAlu = false)
    (hk : k ≠ .eq ∧ k ≠ .ne) :
    adderRes d = BitVec.ofInt 35 (opVal (k = .lt ∨ k = .ge) a - opVal (k = .lt ∨ k = .ge) b) := by
  have hsub : adderSub d = true := by
    cases k <;> simp [adderSub, hmdv, hm, cmpReq] at hk ⊢
  have huns : opUnsigned d = !decide (k = .lt ∨ k = .ge) := by
    cases k <;> simp [opUnsigned, hm, cmpReq] at hk ⊢
  rw [adderRes_of_sub hmdv hsub huns, miscOp1, miscOp2, hm]
  rfl

theorem neq_cmp (hm : mux d = cmpReq k a b) (hk : k = .eq ∨ k = .ne) : neq d = (a != b) := by
  have hxor : xorerRes d = a ^^^ b := by
    obtain rfl | rfl := hk
    all_goals simp [xorerRes, xorerOp, miscOp1, miscOp2, hm, cmpReq]
  rw [neq, hxor, Bool.eq_iff_iff, bne_iff_ne, bne_iff_ne, ne_eq, BitVec.xor_eq_zero_iff]

/-- The branch condition, read off the flag of the exclusive-or unit and the sign of the
difference. -/
def cmpFlags (k : Isa.Cond) (neq lt : Bool) : Bool :=
  match k with
  | .eq => !neq
  | .ne => neq
  | .lt | .ltu => lt
  | .ge | .geu => !lt

theorem cmpRes_flags (hm : mux d = cmpReq k a b) :
    cmpRes d = cmpFlags k (neq d) ((adderRes d).getLsbD 32) := by
  cases k
  all_goals
    simp [cmpRes, cmpResEq, cmpResNe, cmpResLt, cmpResGt, cmpResLtu, cmpResGtu, hm, cmpReq,
      op1GtOp2, cmpFlags]

theorem cmpRes_eq (hm : mux d = cmpReq k a b) (hmdv : d.muldivReqAlu = false) :
    cmpRes d = k.holds a b := by
  rw [cmpRes_flags hm]
  have hneq := neq_cmp hm
  have hsign := fun hk => congrArg (fun x => BitVec.getLsbD x 32) (adderRes_cmp hm hmdv hk)
  simp only [sign_opVal_sub] at hsign
  cases k
  case eq => simp [cmpFlags, hneq (.inl rfl), Isa.Cond.holds, bne]
  case ne => exact hneq (.inr rfl)
  case lt => exact (hsign (by decide)).trans BitVec.slt_eq_decide.symm
  case ge => exact congrArg (!·) ((hsign (by decide)).trans BitVec.slt_eq_decide.symm)
  case ltu =>
    refine (hsign (by decide)).trans ?_
    simp [Isa.Cond.holds, opVal, BitVec.ult_eq_decide]
  case geu =>
    refine congrArg (!·) ((hsign (by decide)).trans ?_)
    simp [opVal, BitVec.ult_eq_decide]

end
end E203.AluDpath
