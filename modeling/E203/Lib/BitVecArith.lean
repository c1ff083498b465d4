import Mathlib.Algebra.Order.Ring.Int
import Mathlib.Tactic.Ring
import Mathlib.Tactic.Linarith

/-! # Buses as residues of integers

A bus of width `w` that carries the integer `z` is `BitVec.ofInt w z`.  The lemmas below push the
bus operations of a datapath (concatenation, part select, bit select, complement, increment)
through `BitVec.ofInt`, so that what an iterative datapath computes becomes integer arithmetic with
floor division by powers of two.
-/

namespace E203.Lib
set_option autoImplicit false

/-! ## Residues -/

theorem ofInt_eq_ofInt_iff {w : ℕ} {x y : ℤ} :
    BitVec.ofInt w x = BitVec.ofInt w y ↔ x % 2 ^ w = y % 2 ^ w := by
  rw [← BitVec.toNat_inj, BitVec.toNat_ofInt, BitVec.toNat_ofInt]
  have hx : 0 ≤ x % ((2 ^ w : ℕ) : ℤ) := Int.emod_nonneg _ (by positivity)
  have hy : 0 ≤ y % ((2 ^ w : ℕ) : ℤ) := Int.emod_nonneg _ (by positivity)
  have hcast : ((2 ^ w : ℕ) : ℤ) = 2 ^ w := by push_cast; rfl
  rw [hcast] at hx hy ⊢
  omega

theorem toNat_ofInt_cast (w : ℕ) (x : ℤ) : ((BitVec.ofInt w x).toNat : ℤ) = x % 2 ^ w := by
  have hcast : ((2 ^ w : ℕ) : ℤ) = 2 ^ w := by push_cast; rfl
  rw [BitVec.toNat_ofInt, ← hcast]
  exact Int.toNat_of_nonneg (Int.emod_nonneg _ (by positivity))

theorem eq_ofInt_of_toNat {w : ℕ} {x : BitVec w} {z : ℤ} (h : (x.toNat : ℤ) = z % 2 ^ w) :
    x = BitVec.ofInt w z := by
  apply BitVec.eq_of_toNat_eq
  have hz := toNat_ofInt_cast w z
  omega

theorem eq_ofInt_toNat {w : ℕ} (x : BitVec w) : x = BitVec.ofInt w (x.toNat : ℤ) := by
  rw [BitVec.ofInt_natCast, BitVec.ofNat_toNat, BitVec.setWidth_eq]

theorem toInt_ofInt_of_range {w : ℕ} {z : ℤ} (hw : 0 < w) (h1 : -2 ^ (w - 1) ≤ z)
    (h2 : z < 2 ^ (w - 1)) : (BitVec.ofInt w z).toInt = z :=
  BitVec.toInt_ofInt_eq_self hw h1 h2

/-! ## Bus operations -/

theorem ofInt_sub (w : ℕ) (x y : ℤ) :
    BitVec.ofInt w (x - y) = BitVec.ofInt w x - BitVec.ofInt w y := by
  rw [Int.sub_eq_add_neg, BitVec.ofInt_add, BitVec.ofInt_neg, BitVec.sub_eq_add_neg]

/-- The complement-and-carry form of a subtraction. -/
theorem add_not_add_one {w : ℕ} (x y : BitVec w) : x + ~~~y + 1#w = x - y := by
  rw [BitVec.sub_eq_add_neg, BitVec.neg_eq_not_add, BitVec.add_assoc]

/-- Concatenation: `{x, y}`. -/
theorem ofInt_append (a b : ℕ) (x y : ℤ) :
    BitVec.ofInt a x ++ BitVec.ofInt b y = BitVec.ofInt (a + b) (x * 2 ^ b + y % 2 ^ b) := by
  apply eq_ofInt_of_toNat
  have hb : (0 : ℤ) < 2 ^ b := by positivity
  have hy0 : 0 ≤ y % 2 ^ b := Int.emod_nonneg _ (by omega)
  have hy1 : y % 2 ^ b < 2 ^ b := Int.emod_lt_of_pos _ hb
  have happ : ((BitVec.ofInt a x ++ BitVec.ofInt b y).toNat : ℤ) =
      (BitVec.ofInt a x).toNat * 2 ^ b + (BitVec.ofInt b y).toNat := by
    rw [BitVec.toNat_append, Nat.shiftLeft_eq, Nat.mul_comm,
      ← Nat.two_pow_add_eq_or_of_lt (BitVec.isLt _), Nat.mul_comm]
    push_cast
    ring
  rw [happ, toNat_ofInt_cast, toNat_ofInt_cast, pow_add, mul_comm (2 ^ a : ℤ) (2 ^ b),
    Int.emod_def (x * 2 ^ b + y % 2 ^ b), ← Int.ediv_ediv_of_nonneg (by omega)]
  have hdiv : (x * 2 ^ b + y % 2 ^ b) / 2 ^ b = x := by
    rw [Int.add_comm, Int.add_mul_ediv_right _ _ (by omega), Int.ediv_eq_zero_of_lt hy0 hy1]
    omega
  rw [hdiv, Int.emod_def x]
  ring

/-- Part select: `x[s + l - 1 : s]`. -/
theorem ofInt_extract {w s l : ℕ} (h : s + l ≤ w) (z : ℤ) :
    (BitVec.ofInt w z).extractLsb' s l = BitVec.ofInt l (z / 2 ^ s) := by
  apply eq_ofInt_of_toNat
  have hs : (0 : ℤ) < 2 ^ s := by positivity
  rw [BitVec.extractLsb'_toNat, Nat.shiftRight_eq_div_pow]
  push_cast
  rw [toNat_ofInt_cast]
  have hw : (2 ^ w : ℤ) = 2 ^ s * (2 ^ l * 2 ^ (w - s - l)) := by
    rw [← pow_add, ← pow_add]; congr 1; omega
  have hmod : z % 2 ^ w = z - 2 ^ s * (2 ^ l * 2 ^ (w - s - l)) * (z / 2 ^ w) := by
    rw [Int.emod_def, hw]
  have hdiv : z % 2 ^ w / 2 ^ s = z / 2 ^ s + 2 ^ l * -(2 ^ (w - s - l) * (z / 2 ^ w)) := by
    rw [hmod]
    have hrw : z - 2 ^ s * (2 ^ l * 2 ^ (w - s - l)) * (z / 2 ^ w) =
        z + 2 ^ s * (2 ^ l * -(2 ^ (w - s - l) * (z / 2 ^ w))) := by ring
    rw [hrw, Int.add_mul_ediv_left _ _ (by omega)]
  rw [hdiv, Int.add_mul_emod_self_left]

theorem ofInt_getLsbD {w k : ℕ} (h : k < w) (z : ℤ) :
    (BitVec.ofInt w z).getLsbD k = decide (z / 2 ^ k % 2 = 1) := by
  have hex := ofInt_extract (w := w) (s := k) (l := 1) (by omega) z
  have hbit : ((BitVec.ofInt w z).extractLsb' k 1).getLsbD 0 = (BitVec.ofInt w z).getLsbD k := by
    simp
  rw [← hbit, hex, BitVec.getLsbD, BitVec.toNat_ofInt, Nat.testBit_zero]
  have hcast : ((2 ^ 1 : ℕ) : ℤ) = 2 := by norm_num
  rw [hcast]
  rcases Int.emod_two_eq (z / 2 ^ k) with h2 | h2 <;> simp [h2]

/-- The sign bit of a bus that is wide enough for the integer it carries. -/
theorem ofInt_sign {w : ℕ} {z : ℤ} (h1 : -2 ^ w ≤ z) (h2 : z < 2 ^ w) :
    (BitVec.ofInt (w + 1) z).getLsbD w = decide (z < 0) := by
  rw [ofInt_getLsbD (Nat.lt_succ_self w)]
  by_cases hz : z < 0
  · have hd : z / 2 ^ w = -1 := by
      apply Int.ediv_eq_neg_one_of_neg_of_le <;> omega
    simp [hd, hz]
  · have hd : z / 2 ^ w = 0 := Int.ediv_eq_zero_of_lt (by omega) h2
    simp [hd, hz]

/-- Sign extension by one bit. -/
theorem sign_append (w : ℕ) (x : BitVec (w + 1)) :
    BitVec.ofBool (x.getLsbD w) ++ x = BitVec.ofInt (1 + (w + 1)) x.toInt := by
  have hmsb : x.getLsbD w = x.msb := by rw [BitVec.msb_eq_getLsbD_last]; rfl
  have hlt := x.isLt
  have hpow : (2 : ℤ) ^ (1 + (w + 1)) = 2 * 2 ^ (w + 1) := by rw [pow_add]; norm_num
  have hbits : ∀ b : Bool, BitVec.ofBool b ++ x =
      BitVec.ofInt (1 + (w + 1)) (b.toNat * 2 ^ (w + 1) + x.toNat) := by
    intro b
    have h1 : BitVec.ofBool b = BitVec.ofInt 1 b.toNat := by cases b <;> rfl
    have hx : (x.toNat : ℤ) % 2 ^ (w + 1) = x.toNat := Int.emod_eq_of_lt (by omega) (by exact_mod_cast hlt)
    rw [h1, show BitVec.ofInt 1 _ ++ x = BitVec.ofInt 1 _ ++ BitVec.ofInt (w + 1) (x.toNat : ℤ)
      from congrArg _ (eq_ofInt_toNat x), ofInt_append, hx]
  rw [hbits, hmsb, BitVec.toInt_eq_msb_cond, ofInt_eq_ofInt_iff, hpow]
  have hcast : ((2 ^ (w + 1) : ℕ) : ℤ) = 2 ^ (w + 1) := by push_cast; rfl
  cases x.msb
  · rw [Bool.toNat_false, if_neg Bool.false_ne_true]
    congr 1
    ring
  · rw [Bool.toNat_true, if_pos rfl, hcast, ← Int.add_mul_emod_self_right (x.toNat - 2 ^ (w + 1)) 1]
    congr 1
    ring

theorem ofBool_eq_ofInt (b : Bool) : BitVec.ofBool b = BitVec.ofInt 1 b.toNat := by
  cases b <;> rfl

theorem fill_eq_ofInt (w : ℕ) (b : Bool) : BitVec.fill w b = BitVec.ofInt w (-(b.toNat : ℤ)) := by
  cases b <;> simp [BitVec.fill, BitVec.ofInt_neg]

/-- A bus with a zero bit above it, seen through its low part. -/
theorem zeroExtend_append (w : ℕ) (z : ℤ) :
    (0#1 ++ BitVec.ofInt w z) = BitVec.ofInt (1 + w) (z % 2 ^ w) := by
  have h0 : (0#1 : BitVec 1) = BitVec.ofInt 1 0 := rfl
  rw [h0, ofInt_append]
  congr 1
  ring

/-- The bit at the top of a register that has been shifted left by `j`: the next bit of what was
shifted in above the `j` fresh low bits. -/
theorem shifted_top_bit {w j : ℕ} (hj : j ≤ w) {n B : ℤ} (h0 : 0 ≤ B) (h1 : B < 2 ^ j) :
    (n * 2 ^ j + B) % 2 ^ (w + 1) / 2 ^ w = n / 2 ^ (w - j) % 2 := by
  have hw : (0 : ℤ) < 2 ^ w := by positivity
  have hj0 : (0 : ℤ) < 2 ^ j := by positivity
  have htop : ∀ x : ℤ, x % 2 ^ (w + 1) / 2 ^ w = x / 2 ^ w % 2 := by
    intro x
    have hx : x % 2 ^ (w + 1) = x + 2 ^ w * (-(2 * (x / 2 ^ (w + 1)))) := by
      rw [Int.emod_def, pow_succ]; ring
    have hdd : x / 2 ^ (w + 1) = x / 2 ^ w / 2 := by
      rw [pow_succ, Int.ediv_ediv_of_nonneg (by positivity)]
    rw [hx, Int.add_mul_ediv_left _ _ (by omega), hdd]
    omega
  have hsplit : (2 : ℤ) ^ w = 2 ^ j * 2 ^ (w - j) := by rw [← pow_add]; congr 1; omega
  have hdiv : (n * 2 ^ j + B) / 2 ^ j = n := by
    rw [Int.add_comm, Int.add_mul_ediv_right _ _ (by omega), Int.ediv_eq_zero_of_lt h0 h1]
    omega
  rw [htop, hsplit, ← Int.ediv_ediv_of_nonneg (by omega), hdiv]

/-! ## Fields and sign extension -/

theorem extractLsb'_one {n : ℕ} (x : BitVec n) (k : ℕ) :
    x.extractLsb' k 1 = BitVec.ofBool (x.getLsbD k) := by
  ext j hj
  obtain rfl : j = 0 := by omega
  simp

/-- The highest bit of a field, taken apart. -/
theorem extractLsb'_succ_append {n m : ℕ} (w : BitVec n) (z : BitVec m) (a k : ℕ) :
    w.extractLsb' a (k + 1) ++ z =
      (BitVec.ofBool (w.getLsbD (a + k)) ++ (w.extractLsb' a k ++ z)).cast (by omega) := by
  apply BitVec.eq_of_getLsbD_eq
  intro j hj
  rw [BitVec.getLsbD_cast, BitVec.getLsbD_append, BitVec.getLsbD_append, BitVec.getLsbD_append]
  obtain hz | hz | hz : j < m ∨ (m ≤ j ∧ j < k + m) ∨ j = k + m := by omega
  · simp [hz, show j < k + m by omega]
  · have hlt : ¬j < m ∧ j - m < k + 1 ∧ j - m < k := by omega
    simp [hz.2, hlt]
  · subst hz
    simp

theorem append_parts {a b : ℕ} (w : BitVec (a + b)) : w.extractLsb' b a ++ w.extractLsb' 0 b = w := by
  ext k hk
  rw [BitVec.getElem_append]
  split
  · simp [BitVec.getLsbD_eq_getElem hk]
  · simp only [BitVec.getElem_extractLsb']
    rw [← BitVec.getLsbD_eq_getElem]
    congr 1
    omega

theorem append_append_parts {c a b : ℕ} (x : BitVec c) (w : BitVec (a + b)) :
    (x ++ w.extractLsb' b a ++ w.extractLsb' 0 b).toNat = (x ++ w).toNat := by
  rw [BitVec.append_assoc, BitVec.toNat_cast, append_parts]

theorem extractLsb'_of_extractLsb' {n m : ℕ} {x : BitVec n} {y : BitVec m} {a : ℕ}
    (h : x.extractLsb' a m = y) {b k : ℕ} (hk : b + k ≤ m) :
    x.extractLsb' (a + b) k = y.extractLsb' b k := by
  subst h
  ext j hj
  have hbj : b + j < m := by omega
  simp [hbj, Nat.add_assoc]

/-- Words that agree in their low part agree in every field of it. -/
theorem extractLsb'_eq_of_low {n m : ℕ} {x y : BitVec n}
    (h : x.extractLsb' 0 m = y.extractLsb' 0 m) {a k : ℕ} (hk : a + k ≤ m) :
    x.extractLsb' a k = y.extractLsb' a k := by
  have hx := extractLsb'_of_extractLsb' (a := 0) h hk
  have hy := extractLsb'_of_extractLsb' (a := 0) (x := y) rfl hk
  rw [Nat.zero_add] at hx hy
  rw [hx, ← hy]

theorem msb_ofBool_append {n : ℕ} (b : Bool) (y : BitVec n) : (BitVec.ofBool b ++ y).msb = b := by
  rw [BitVec.msb_append]
  simp

/-- Extension written with zeros. -/
theorem zero_append_eq_setWidth {n k : ℕ} (x : BitVec n) : 0#k ++ x = x.setWidth (k + n) := by
  rw [BitVec.setWidth_eq_append (by omega)]
  apply BitVec.eq_of_toNat_eq
  simp

/-- Sign extension written with copies of the sign. -/
theorem fill_append_msb {n k : ℕ} (x : BitVec n) :
    BitVec.fill k x.msb ++ x = x.signExtend (k + n) := by
  apply BitVec.eq_of_getLsbD_eq
  intro j hj
  rw [BitVec.getLsbD_append, BitVec.getLsbD_signExtend]
  by_cases hjn : j < n
  · simp [hjn, hj]
  · have hjk : j - n < k := by omega
    simp [hjn, hj, hjk]

theorem fill_ofBool_append {n k : ℕ} (b : Bool) (y : BitVec n) :
    BitVec.fill k b ++ (BitVec.ofBool b ++ y) =
      (BitVec.ofBool b ++ y).signExtend (k + (1 + n)) := by
  rw [← fill_append_msb, msb_ofBool_append]

end E203.Lib
