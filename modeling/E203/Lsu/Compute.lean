import E203.Branch.Compare
import E203.Isa.RV32MA

/-! # Addresses and atomic operations on the shared datapath

The address-generation unit adds its two operands for an address, and asks for one of the results of
the datapath in the cycle in which it computes an atomic operation.
-/

namespace E203.AluDpath
set_option autoImplicit false

def addReq (a b : BitVec 32) : Req where
  op1 := a
  op2 := b
  add := true

def amoReq (op : AmoOp) (a b : BitVec 32) : Req where
  op1 := a
  op2 := b
  add := decide (op = .add)
  mvop2 := decide (op = .swap)
  and := decide (op = .and)
  or := decide (op = .or)
  xor := decide (op = .xor)
  max := decide (op = .max)
  min := decide (op = .min)
  maxu := decide (op = .maxu)
  minu := decide (op = .minu)

theorem mux_agu {d : In} (ha : d.aluReqAlu = false) (hb : d.bjpReqAlu = false)
    (hg : d.aguReqAlu = true) : mux d = d.aguReq := by
  rw [mux, ha, hb, hg, Req.gated_false, Req.gated_false, Req.gated_true, Req.empty_union,
    Req.empty_union]

section
variable {d : In} {op : AmoOp} {a b : BitVec 32}

/-- The low part of the sum of two extended words. -/
theorem extractLsb'_append_add (x y : BitVec 3) :
    (x ++ a + (y ++ b)).extractLsb' 0 32 = a + b := by
  apply BitVec.eq_of_toNat_eq
  simp only [BitVec.extractLsb'_toNat, BitVec.toNat_add, BitVec.toNat_append, Nat.shiftRight_zero]
  rw [Nat.mod_mod_of_dvd _ (by decide), ← Nat.shiftLeft_add_eq_or_of_lt a.isLt,
    ← Nat.shiftLeft_add_eq_or_of_lt b.isLt, Nat.shiftLeft_eq, Nat.shiftLeft_eq]
  omega

theorem adderRes_of_add (hadd : (mux d).add = true) (hsub : adderSub d = false)
    (hmdv : d.muldivReqAlu = false) :
    (adderRes d).extractLsb' 0 32 = miscOp1 d + miscOp2 d := by
  have hres : adderRes d = miscAdderOp1 d + miscAdderOp2 d := by
    simp [adderRes, adderIn1, adderIn2, adderCin, adderAddsub, adderAdd, adderOp1, adderOp2, hsub,
      hmdv, hadd]
  rw [hres]
  exact extractLsb'_append_add _ _

theorem dpathRes_add (hm : mux d = addReq a b) (hmdv : d.muldivReqAlu = false) :
    dpathRes d = a + b := by
  have hadd : (mux d).add = true := by rw [hm]; rfl
  have hsub : adderSub d = false := by simp [adderSub, hm, hmdv, addReq]
  have hsum := adderRes_of_add hadd hsub hmdv
  rw [miscOp1, miscOp2, hm] at hsum
  simp only [dpathRes, opSlttu, hm, addReq, gate_false, gate_true, Bool.or_false,
    BitVec.zero_or, BitVec.or_zero]
  exact hsum

/-- The comparison behind a maximum or a minimum. -/
theorem op1GtOp2_amo (hm : mux d = amoReq op a b) (hmdv : d.muldivReqAlu = false)
    (hop : op = .max ∨ op = .min ∨ op = .maxu ∨ op = .minu) :
    op1GtOp2 d = !decide (opVal op.signed a < opVal op.signed b) := by
  have hsub : adderSub d = true := by
    obtain rfl | rfl | rfl | rfl := hop <;> simp [adderSub, hmdv, hm, amoReq]
  have huns : opUnsigned d = !op.signed := by
    obtain rfl | rfl | rfl | rfl := hop <;> simp [opUnsigned, hm, amoReq, AmoOp.signed]
  have hres := adderRes_of_sub hmdv hsub huns
  rw [miscOp1, miscOp2, hm] at hres
  rw [op1GtOp2, hres]
  exact congrArg (!·) (sign_opVal_sub op.signed)

/-- The datapath computes the atomic operation. -/
theorem dpathRes_amo (hm : mux d = amoReq op a b) (hmdv : d.muldivReqAlu = false) :
    dpathRes d = rv32a op a b := by
  have hgt := op1GtOp2_amo hm hmdv
  cases op
  case add =>
    exact dpathRes_add hm hmdv
  case swap | and | or | xor =>
    simp [dpathRes, opSlttu, hm, amoReq, rv32a, mvop2Res, anderRes, orerRes, xorerRes, xorerOp,
      miscOp1, miscOp2]
  case max | min | maxu | minu =>
    have hcmp := hgt (by simp)
    simp only [dpathRes, opSlttu, hm, amoReq, maxminRes, maxminSelOp1, hcmp, miscOp1, miscOp2, rv32a]
    split <;> simp_all

end
end E203.AluDpath
