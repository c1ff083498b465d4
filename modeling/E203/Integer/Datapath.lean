import E203.Isa.RV32I
import E203.Lsu.Compute

/-! # Integer computations on the shared datapath

`dpathRes_fn`: when the regular ALU drives one of its request lines, the result is the value of that
function of its operands.  A right shift is a left shift of the reversed word; the arithmetic one
then fills the positions that the mask leaves open with the sign.
-/

namespace E203.AluDpath
set_option autoImplicit false

/-- What the regular ALU drives for an integer function. -/
def fnReq (fn : Isa.AluFn) (a b : BitVec 32) : Req where
  op1 := a
  op2 := b
  add := decide (fn = .add)
  sub := decide (fn = .sub)
  or := decide (fn = .or)
  xor := decide (fn = .xor)
  and := decide (fn = .and)
  sll := decide (fn = .sll)
  srl := decide (fn = .srl)
  sra := decide (fn = .sra)
  slt := decide (fn = .slt)
  sltu := decide (fn = .sltu)

/-- What it drives to hand its second operand through. -/
def mvReq (a b : BitVec 32) : Req where
  op1 := a
  op2 := b
  mvop2 := true

theorem mux_alu {d : In} (ha : d.aluReqAlu = true) (hb : d.bjpReqAlu = false)
    (hg : d.aguReqAlu = false) : mux d = d.aluReq := by
  rw [mux, ha, hb, hg, Req.gated_true, Req.gated_false, Req.gated_false, Req.union_empty,
    Req.union_empty]

section
variable {d : In} {fn : Isa.AluFn} {a b : BitVec 32}

theorem dpathRes_mv (hm : mux d = mvReq a b) : dpathRes d = b := by
  simp [dpathRes, opSlttu, hm, mvReq, mvop2Res, miscOp2]

/-! ## The adder -/

theorem dpathRes_sub (hm : mux d = fnReq .sub a b) (hmdv : d.muldivReqAlu = false) :
    dpathRes d = a - b := by
  have hsub : adderSub d = true := by simp [adderSub, hmdv, hm, fnReq]
  have huns : opUnsigned d = !true := by simp [opUnsigned, hm, fnReq]
  have hres : adderRes d = BitVec.ofInt 35 (a.toInt - b.toInt) := by
    rw [adderRes_of_sub hmdv hsub huns, miscOp1, miscOp2, hm]
    rfl
  have hlow : (adderRes d).extractLsb' 0 32 = a - b := by
    rw [hres, Lib.ofInt_extract (by omega), pow_zero, Int.ediv_one, Lib.ofInt_sub, BitVec.ofInt_toInt,
      BitVec.ofInt_toInt]
  simp only [dpathRes, opSlttu, hm, fnReq]
  simpa using hlow

/-- The sign of the difference is the comparison. -/
theorem dpathRes_slt (signed : Bool) (hfn : fn = if signed then .slt else .sltu)
    (hm : mux d = fnReq fn a b) (hmdv : d.muldivReqAlu = false) :
    dpathRes d = if opVal signed a < opVal signed b then 1#32 else 0#32 := by
  have hsub : adderSub d = true := by cases signed <;> simp [adderSub, hmdv, hm, fnReq, hfn]
  have huns : opUnsigned d = !signed := by cases signed <;> simp [opUnsigned, hm, fnReq, hfn]
  have hres := adderRes_of_sub hmdv hsub huns
  rw [miscOp1, miscOp2, hm] at hres
  have hsign : (adderRes d).getLsbD 32 = decide (opVal signed a < opVal signed b) := by
    rw [hres]
    exact sign_opVal_sub signed
  have hop : opSlttu d = true := by cases signed <;> simp [opSlttu, hm, fnReq, hfn]
  have hval : slttuRes d = if opVal signed a < opVal signed b then 1#32 else 0#32 := by
    rw [slttuRes, hop, hsign, Bool.true_and]
    simp only [decide_eq_true_eq]
  rw [← hval, dpathRes, hop, hm]
  cases signed <;> simp [fnReq, hfn]

/-! ## The shifter -/

/-- Shifting left between two reversals shifts right. -/
theorem reverse_shiftLeft_reverse (x : BitVec 32) (k : BitVec 5) :
    (x.reverse <<< k).reverse = x >>> k := by
  apply BitVec.eq_of_getLsbD_eq
  intro n hn
  rw [BitVec.getLsbD_reverse, BitVec.getMsbD_eq_getLsbD, BitVec.shiftLeft_eq', BitVec.ushiftRight_eq',
    BitVec.getLsbD_shiftLeft, BitVec.getLsbD_reverse, BitVec.getMsbD_eq_getLsbD,
    BitVec.getLsbD_ushiftRight]
  by_cases hk : k.toNat + n < 32
  · have hidx : 32 - 1 - (32 - 1 - n - k.toNat) = k.toNat + n := by omega
    have hge : ¬32 - 1 - n < k.toNat := by omega
    have hlt : 32 - 1 - n < 32 ∧ 32 - 1 - n - k.toNat < 32 := by omega
    rw [hidx, decide_eq_true hn, decide_eq_true hlt.1, decide_eq_true hlt.2, decide_eq_false hge]
    simp only [Bool.not_false, Bool.true_and]
  · have hout : x.getLsbD (k.toNat + n) = false := BitVec.getLsbD_of_ge _ _ (by omega)
    have hlt : 32 - 1 - n < k.toNat := by omega
    rw [hout, decide_eq_true hlt]
    simp only [Bool.not_true, Bool.and_false, Bool.false_and]

/-- The word below the mask and the sign above it. -/
theorem sshiftRight_eq_mask (x : BitVec 32) (k : BitVec 5) :
    (x >>> k &&& (BitVec.allOnes 32 >>> k)) |||
      (BitVec.fill 32 (x.getLsbD 31) &&& ~~~(BitVec.allOnes 32 >>> k)) = x.sshiftRight' k := by
  have hmsb : x.getLsbD 31 = x.msb := by rw [BitVec.msb_eq_getLsbD_last]
  apply BitVec.eq_of_getLsbD_eq
  intro n hn
  have hmask : (BitVec.allOnes 32 >>> k).getLsbD n = decide (k.toNat + n < 32) := by
    rw [BitVec.ushiftRight_eq', BitVec.getLsbD_ushiftRight, BitVec.getLsbD_allOnes]
  rw [BitVec.getLsbD_or, BitVec.getLsbD_and, BitVec.getLsbD_and, BitVec.getLsbD_not, hmask,
    BitVec.getLsbD_fill, BitVec.ushiftRight_eq', BitVec.getLsbD_ushiftRight, BitVec.sshiftRight_eq',
    BitVec.getLsbD_sshiftRight, hmsb]
  by_cases hk : k.toNat + n < 32
  · simp [hn, hk]
  · simp [hn, hk]

/-- The shifter reads the operands of the regular ALU. -/
theorem shifter_of_alu (hm : mux d = fnReq fn a b) (ha : d.aluReq.op1 = a) (hb : d.aluReq.op2 = b)
    (hfn : fn = .sll ∨ fn = .srl ∨ fn = .sra) :
    shifterRes d = (if fn = .sll then a else a.reverse) <<< b.extractLsb' 0 5 ∧
      shifterIn2 d = b.extractLsb' 0 5 := by
  have hop : opShift d = true := by
    obtain rfl | rfl | rfl := hfn <;> simp [opShift, hm, fnReq]
  have hin2 : shifterIn2 d = b.extractLsb' 0 5 := by rw [shifterIn2, hop, hb, gate_true]
  have hin1 : shifterIn1 d = if fn = .sll then a else a.reverse := by
    rw [shifterIn1, hop, ha, hm, gate_true]
    obtain rfl | rfl | rfl := hfn <;> rfl
  exact ⟨by rw [shifterRes, hin1, hin2], hin2⟩

/-- The datapath computes the integer function. -/
theorem dpathRes_fn (hm : mux d = fnReq fn a b) (hmdv : d.muldivReqAlu = false)
    (ha : d.aluReq.op1 = a) (hb : d.aluReq.op2 = b) : dpathRes d = fn.eval a b := by
  cases fn
  case add => exact dpathRes_add hm hmdv
  case sub => exact dpathRes_sub hm hmdv
  case slt =>
    rw [dpathRes_slt true rfl hm hmdv, Isa.AluFn.eval, BitVec.slt_eq_decide]
    simp only [decide_eq_true_eq]
    rfl
  case sltu =>
    rw [dpathRes_slt false rfl hm hmdv, Isa.AluFn.eval, BitVec.ult_eq_decide]
    simp [opVal]
  case xor | or | and =>
    simp [dpathRes, opSlttu, hm, fnReq, Isa.AluFn.eval, anderRes, orerRes, xorerRes, xorerOp, miscOp1,
      miscOp2]
  case sll =>
    have hres := (shifter_of_alu hm ha hb (by simp)).1
    simp only [dpathRes, opSlttu, hm, fnReq, sllRes, hres]
    simp [Isa.AluFn.eval]
  case srl =>
    have hres := (shifter_of_alu hm ha hb (by simp)).1
    have hsrl : srlRes d = a >>> b.extractLsb' 0 5 := by
      rw [srlRes, hres, if_neg (by decide), reverse_shiftLeft_reverse]
    simp only [dpathRes, opSlttu, hm, fnReq, hsrl]
    simp [Isa.AluFn.eval]
  case sra =>
    obtain ⟨hres, hin2⟩ := shifter_of_alu hm ha hb (by simp)
    have hsrl : srlRes d = a >>> b.extractLsb' 0 5 := by
      rw [srlRes, hres, if_neg (by decide), reverse_shiftLeft_reverse]
    have hsra : sraRes d = a.sshiftRight' (b.extractLsb' 0 5) := by
      rw [sraRes, effMask, hsrl, hin2, ha, sshiftRight_eq_mask]
    simp only [dpathRes, opSlttu, hm, fnReq, hsra]
    simp [Isa.AluFn.eval]

end
end E203.AluDpath
