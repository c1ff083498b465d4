import E203.Rtl.AluMuldiv
import E203.Lib.BitVecArith

/-! # The RV32M and RV32A instructions

The multiplication and division instructions of the ISA over 32-bit registers, stated on integers:
`rv32m op rs1 rs2` is the value written to `rd`.  `DecInfo.OpIs` ties an instruction to the one-hot
group of the decode-information bus that selects it.  `rv32a op m rs2` is the word an atomic operation
writes back to the memory when it has read `m`.
-/

namespace E203
set_option autoImplicit false

/-- The instructions of the M extension. -/
inductive MulDivOp
  | mul | mulh | mulhsu | mulhu | div | divu | rem | remu
deriving DecidableEq, Repr

/-- The integer a register holds, read as signed or as unsigned. -/
def opVal (signed : Bool) (x : BitVec 32) : ℤ := if signed then x.toInt else x.toNat

namespace MulDivOp

/-- Does the instruction read `rs1` as a signed number? -/
def rs1Signed : MulDivOp → Bool
  | mul | mulh | mulhsu | div | rem => true
  | mulhu | divu | remu => false

/-- Does the instruction read `rs2` as a signed number? -/
def rs2Signed : MulDivOp → Bool
  | mul | mulh | div | rem => true
  | mulhsu | mulhu | divu | remu => false

def isDiv : MulDivOp → Bool
  | div | divu | rem | remu => true
  | _ => false

/-- The quotient instructions among the divisions. -/
def isQuot : MulDivOp → Bool
  | div | divu => true
  | _ => false

/-- The pairs of instructions of which the second may be answered with a result of the first. -/
def fuses : MulDivOp → MulDivOp → Bool
  | mulh, mul | mulhsu, mul | mulhu, mul | div, rem | rem, div | divu, remu | remu, divu => true
  | _, _ => false

end MulDivOp

/-- The full product of the operands, each extended as the instruction reads it. -/
def product (op : MulDivOp) (rs1 rs2 : BitVec 32) : ℤ :=
  opVal op.rs1Signed rs1 * opVal op.rs2Signed rs2

/-- Division truncating toward zero; a zero divisor gives all ones, the signed overflow the most
negative number. -/
def quotient (op : MulDivOp) (rs1 rs2 : BitVec 32) : BitVec 32 :=
  if rs2 = 0#32 then BitVec.allOnes 32
  else if op.rs1Signed ∧ rs1 = 0x80000000#32 ∧ rs2 = BitVec.allOnes 32 then 0x80000000#32
  else BitVec.ofInt 32 ((opVal op.rs1Signed rs1).tdiv (opVal op.rs2Signed rs2))

/-- The remainder with the dividend's sign; a zero divisor gives the dividend, the signed overflow
zero. -/
def remainder (op : MulDivOp) (rs1 rs2 : BitVec 32) : BitVec 32 :=
  if rs2 = 0#32 then rs1
  else if op.rs1Signed ∧ rs1 = 0x80000000#32 ∧ rs2 = BitVec.allOnes 32 then 0#32
  else BitVec.ofInt 32 ((opVal op.rs1Signed rs1).tmod (opVal op.rs2Signed rs2))

/-- The value an instruction of the M extension writes to `rd`. -/
def rv32m (op : MulDivOp) (rs1 rs2 : BitVec 32) : BitVec 32 :=
  match op with
  | .mul => BitVec.ofInt 32 (product op rs1 rs2)
  | .mulh | .mulhsu | .mulhu => BitVec.ofInt 32 (product op rs1 rs2 / 2 ^ 32)
  | .div | .divu => quotient op rs1 rs2
  | .rem | .remu => remainder op rs1 rs2

example : rv32m .div (BitVec.ofInt 32 (-20)) 6#32 = BitVec.ofInt 32 (-3) := by decide
example : rv32m .mulhsu (BitVec.ofInt 32 (-1)) 0xffffffff#32 = 0xffffffff#32 := by decide

/-! ## Operand ranges -/

theorem opVal_range (signed : Bool) (x : BitVec 32) :
    -2 ^ 31 ≤ opVal signed x ∧ opVal signed x < 2 ^ 32 := by
  have hlt := x.isLt
  have h1 := BitVec.le_toInt x
  have h2 := BitVec.toInt_lt (x := x)
  unfold opVal
  split <;> omega

theorem opVal_abs_lt (signed : Bool) (x : BitVec 32) : |opVal signed x| < 2 ^ 32 := by
  have h := opVal_range signed x
  rw [abs_lt]
  omega

theorem opVal_eq_zero_iff (signed : Bool) (x : BitVec 32) : opVal signed x = 0 ↔ x = 0#32 := by
  unfold opVal
  cases signed
  · simp [← BitVec.toNat_inj]
  · simp [← BitVec.toInt_inj]

/-- An operand extended by copies of its sign. -/
theorem fill_append_eq (signed : Bool) (x : BitVec 32) (k : ℕ) :
    BitVec.fill k (signed && x.getLsbD 31) ++ x = BitVec.ofInt (k + 32) (opVal signed x) := by
  have hmsb : x.getLsbD 31 = x.msb := by rw [BitVec.msb_eq_getLsbD_last]
  have hlt := x.isLt
  rw [Lib.fill_eq_ofInt, show BitVec.ofInt k _ ++ x = BitVec.ofInt k _ ++ BitVec.ofInt 32 (x.toNat : ℤ)
    from congrArg _ (Lib.eq_ofInt_toNat x), Lib.ofInt_append]
  congr 1
  cases signed
  · have hval : opVal false x = x.toNat := rfl
    rw [hval, Bool.false_and, Bool.toNat_false]
    omega
  · have hval : opVal true x = x.toInt := rfl
    rw [hval, Bool.true_and, hmsb, BitVec.toInt_eq_msb_cond]
    cases x.msb
    · rw [Bool.toNat_false, if_neg Bool.false_ne_true]
      omega
    · rw [Bool.toNat_true, if_pos rfl]
      omega

/-! ## The decode-information group -/

/-- The position of the instruction's bit in the group. -/
def MulDivOp.idx : MulDivOp → ℕ
  | mul => 0 | mulh => 1 | mulhsu => 2 | mulhu => 3 | div => 4 | divu => 5 | rem => 6 | remu => 7

/-- The decode-information bus selects exactly the instruction `op` of the group. -/
def DecInfo.OpIs (info : DecInfo) (op : MulDivOp) : Prop :=
  info.extractLsb' 4 8 = 1#8 <<< op.idx

instance (info : DecInfo) (op : MulDivOp) : Decidable (info.OpIs op) := by
  unfold DecInfo.OpIs; infer_instance

/-- Each bit of the group is set exactly for its instruction. -/
structure DecInfo.OpBits (info : DecInfo) (op : MulDivOp) : Prop where
  mul : info.mul = decide (op = .mul)
  mulh : info.mulh = decide (op = .mulh)
  mulhsu : info.mulhsu = decide (op = .mulhsu)
  mulhu : info.mulhu = decide (op = .mulhu)
  div : info.div = decide (op = .div)
  divu : info.divu = decide (op = .divu)
  rem : info.rem = decide (op = .rem)
  remu : info.remu = decide (op = .remu)

theorem DecInfo.OpIs.bits {info : DecInfo} {op : MulDivOp} (h : info.OpIs op) :
    info.OpBits op := by
  have hbit : ∀ k < 8, info.getLsbD (4 + k) = (1#8 <<< op.idx).getLsbD k := by
    intro k hk
    rw [← h, BitVec.getLsbD_extractLsb']
    simp [hk]
  have h0 := hbit 0 (by omega)
  have h1 := hbit 1 (by omega)
  have h2 := hbit 2 (by omega)
  have h3 := hbit 3 (by omega)
  have h4 := hbit 4 (by omega)
  have h5 := hbit 5 (by omega)
  have h6 := hbit 6 (by omega)
  have h7 := hbit 7 (by omega)
  constructor
  · exact h0.trans (by cases op <;> rfl)
  · exact h1.trans (by cases op <;> rfl)
  · exact h2.trans (by cases op <;> rfl)
  · exact h3.trans (by cases op <;> rfl)
  · exact h4.trans (by cases op <;> rfl)
  · exact h5.trans (by cases op <;> rfl)
  · exact h6.trans (by cases op <;> rfl)
  · exact h7.trans (by cases op <;> rfl)

/-! ## The atomic memory operations -/

inductive AmoOp
  | swap | add | and | or | xor | max | min | maxu | minu
deriving DecidableEq, Repr

namespace AmoOp

def funct5 : AmoOp → BitVec 5
  | swap => 0b00001#5
  | add => 0b00000#5
  | and => 0b01100#5
  | or => 0b01000#5
  | xor => 0b00100#5
  | max => 0b10100#5
  | min => 0b10000#5
  | maxu => 0b11100#5
  | minu => 0b11000#5

/-- Does the comparison read signed numbers? -/
def signed : AmoOp → Bool
  | maxu | minu => false
  | _ => true

end AmoOp

def rv32a (op : AmoOp) (m rs2 : BitVec 32) : BitVec 32 :=
  match op with
  | .swap => rs2
  | .add => m + rs2
  | .and => m &&& rs2
  | .or => m ||| rs2
  | .xor => m ^^^ rs2
  | .max | .maxu => if opVal op.signed m < opVal op.signed rs2 then rs2 else m
  | .min | .minu => if opVal op.signed m < opVal op.signed rs2 then m else rs2

example : rv32a .min 1#32 (BitVec.ofInt 32 (-1)) = BitVec.ofInt 32 (-1) := by decide
example : rv32a .minu 1#32 (BitVec.ofInt 32 (-1)) = 1#32 := by decide

end E203
