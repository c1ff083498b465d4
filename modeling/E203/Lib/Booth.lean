import Mathlib.Algebra.Order.Ring.Int
import Mathlib.Tactic.Ring
import Mathlib.Tactic.Linarith

/-! # Radix-4 Booth multiplication

The multiplier `X` of `2 * n + 1` bits lies in the low part of one long shift register, the partial
product in its high part.  Every step looks at the two lowest bits and the bit shifted out before,
adds the chosen multiple of the multiplicand `y` to the high part and shifts the register right by
two.

* `digit`: the Booth digit in `{-2, ..., 2}` of three adjacent bits.
* `Acc.step`, `run`: the iteration on the long register.
* `recoded X k`: the value of the `k` digits recoded so far.
* `run_acc`: the register after `k` steps is the recoded product above the bits still to come.
-/

namespace E203.Lib.Booth
set_option autoImplicit false

/-- Bit `k` of an integer in two's complement. -/
def bitAt (z : ℤ) (k : ℕ) : Bool := decide (z / 2 ^ k % 2 = 1)

theorem toNat_bitAt (z : ℤ) (k : ℕ) : ((bitAt z k).toNat : ℤ) = z / 2 ^ k % 2 := by
  unfold bitAt
  rcases Int.emod_two_eq (z / 2 ^ k) with h | h <;> simp [h]

/-- The Booth digit of three adjacent bits, highest first. -/
def digit (hi mid lo : Bool) : ℤ := mid.toNat + lo.toNat - 2 * hi.toNat

theorem digit_range (hi mid lo : Bool) : -2 ≤ digit hi mid lo ∧ digit hi mid lo ≤ 2 := by
  cases hi <;> cases mid <;> cases lo <;> decide

/-- The long register and the bit shifted out before. -/
structure Acc where
  acc : ℤ
  prev : Bool

/-- The digit the register asks for. -/
def Acc.digit (p : Acc) : ℤ := Booth.digit (bitAt p.acc 1) (bitAt p.acc 0) p.prev

/-- One step; the partial product starts at bit `m` of the register. -/
def Acc.step (m : ℕ) (y : ℤ) (p : Acc) : Acc where
  acc := (p.acc + p.digit * y * 2 ^ m) / 4
  prev := bitAt p.acc 1

/-- The register after `k` steps. -/
def run (m : ℕ) (X y : ℤ) : ℕ → Acc
  | 0 => ⟨X, false⟩
  | k + 1 => (run m X y k).step m y

/-- The bit below digit `k`. -/
def lookback (X : ℤ) : ℕ → Bool
  | 0 => false
  | k + 1 => bitAt (X / 4 ^ k) 1

/-- The value of the first `k` digits. -/
def recoded (X : ℤ) (k : ℕ) : ℤ := X % 4 ^ k - 4 ^ k * (lookback X k).toNat

theorem emod_four_pow_succ (X : ℤ) (k : ℕ) :
    X % 4 ^ (k + 1) = X % 4 ^ k + 4 ^ k * (X / 4 ^ k % 4) := by
  have hdd : X / 4 ^ (k + 1) = X / 4 ^ k / 4 := by
    rw [pow_succ, Int.ediv_ediv_of_nonneg (by positivity)]
  rw [Int.emod_def X (4 ^ (k + 1)), Int.emod_def X (4 ^ k), hdd, pow_succ, Int.emod_def _ 4]
  ring

theorem recoded_succ (X : ℤ) (k : ℕ) :
    recoded X (k + 1) =
      recoded X k +
        digit (bitAt (X / 4 ^ k) 1) (bitAt (X / 4 ^ k) 0) (lookback X k) * 4 ^ k := by
  have h0 := toNat_bitAt (X / 4 ^ k) 0
  have h1 := toNat_bitAt (X / 4 ^ k) 1
  rw [pow_zero, Int.ediv_one] at h0
  rw [pow_one] at h1
  have hfour : X / 4 ^ k % 4 = X / 4 ^ k % 2 + 2 * (X / 4 ^ k / 2 % 2) := by omega
  simp only [recoded, lookback, digit]
  rw [emod_four_pow_succ, hfour, h0, h1, pow_succ]
  ring

/-- After `k` steps the register holds the product by the recoded digits, shifted up, above the
multiplier bits still to come. -/
theorem run_acc {n : ℕ} (X y : ℤ) {k : ℕ} (hk : k ≤ n) :
    (run (2 * n + 1) X y k).acc = y * recoded X k * 2 ^ (2 * (n - k) + 1) + X / 4 ^ k ∧
      (run (2 * n + 1) X y k).prev = lookback X k := by
  induction k with
  | zero =>
    simp [run, recoded, lookback]
  | succ k ih =>
    obtain ⟨hacc, hprev⟩ := ih (by omega)
    -- two more places remain free below the partial product
    have hexp : 2 * (n - k) + 1 = 2 + (2 * (n - (k + 1)) + 1) := by omega
    have hpow : (2 : ℤ) ^ (2 * (n - k) + 1) = 4 * 2 ^ (2 * (n - (k + 1)) + 1) := by
      rw [hexp, pow_add]; norm_num
    have hsplit : (2 : ℤ) ^ (2 * n + 1) = 4 ^ k * 2 ^ (2 * (n - k) + 1) := by
      rw [show (4 : ℤ) = 2 ^ 2 by norm_num, ← pow_mul, ← pow_add]
      congr 1
      omega
    have hbit : ∀ j < 2, bitAt (run (2 * n + 1) X y k).acc j = bitAt (X / 4 ^ k) j := by
      intro j hj
      have hfour : (run (2 * n + 1) X y k).acc =
          X / 4 ^ k + 4 * (y * recoded X k * 2 ^ (2 * (n - (k + 1)) + 1)) := by
        rw [hacc, hpow]; ring
      unfold bitAt
      rw [hfour]
      generalize y * recoded X k * 2 ^ (2 * (n - (k + 1)) + 1) = c
      have hj' : j = 0 ∨ j = 1 := by omega
      rcases hj' with rfl | rfl
      · rw [pow_zero, Int.ediv_one, Int.ediv_one, decide_eq_decide]
        omega
      · rw [pow_one, decide_eq_decide]
        omega
    have hdig : (run (2 * n + 1) X y k).digit =
        digit (bitAt (X / 4 ^ k) 1) (bitAt (X / 4 ^ k) 0) (lookback X k) := by
      rw [Acc.digit, hbit 1 (by omega), hbit 0 (by omega), hprev]
    have hdd : X / 4 ^ (k + 1) = X / 4 ^ k / 4 := by
      rw [pow_succ, Int.ediv_ediv_of_nonneg (by positivity)]
    refine ⟨?_, hbit 1 (by omega)⟩
    have hsum : (run (2 * n + 1) X y k).acc +
        (run (2 * n + 1) X y k).digit * y * 2 ^ (2 * n + 1) =
          X / 4 ^ k + 4 * (y * recoded X (k + 1) * 2 ^ (2 * (n - (k + 1)) + 1)) := by
      rw [hacc, hdig, hsplit, recoded_succ, hpow]
      ring
    simp only [run, Acc.step]
    rw [hsum, Int.add_mul_ediv_left _ _ (by norm_num), hdd]
    ring

/-! ## The two halves of the register -/

/-- The high part takes one adder step and an arithmetic shift. -/
theorem step_high (m : ℕ) (y : ℤ) (p : Acc) :
    (p.step m y).acc / 2 ^ m = (p.acc / 2 ^ m + p.digit * y) / 4 := by
  have hm : (0 : ℤ) < 2 ^ m := by positivity
  simp only [Acc.step]
  rw [Int.ediv_ediv_of_nonneg (by norm_num), mul_comm (4 : ℤ), ← Int.ediv_ediv_of_nonneg (by omega),
    Int.add_mul_ediv_right _ _ (by omega)]

/-- The low part takes the two lowest bits of the sum on top of what it held. -/
theorem step_low (m : ℕ) (y : ℤ) (p : Acc) :
    (p.step (m + 2) y).acc =
      (p.acc / 2 ^ (m + 2) + p.digit * y) * 2 ^ m + p.acc / 4 % 2 ^ m := by
  have hm : (0 : ℤ) < 2 ^ m := by positivity
  have hpow : (2 : ℤ) ^ (m + 2) = 4 * 2 ^ m := by rw [pow_add]; ring
  simp only [Acc.step]
  rw [hpow, ← Int.ediv_ediv_of_nonneg (by norm_num), Int.emod_def]
  have hsum : p.acc + p.digit * y * (4 * 2 ^ m) = p.acc + 4 * (p.digit * y * 2 ^ m) := by ring
  rw [hsum, Int.add_mul_ediv_left _ _ (by norm_num)]
  ring

/-- The high part stays within the multiplicand's range. -/
theorem run_high_range {m : ℕ} {X y B : ℤ} (hX0 : 0 ≤ X) (hX1 : X < 2 ^ m) (hB : 0 < B)
    (hy : -B ≤ y ∧ y ≤ B) (k : ℕ) :
    -B ≤ (run m X y k).acc / 2 ^ m ∧ (run m X y k).acc / 2 ^ m < B := by
  induction k with
  | zero =>
    have h0 : (run m X y 0).acc / 2 ^ m = 0 := Int.ediv_eq_zero_of_lt hX0 hX1
    omega
  | succ k ih =>
    have hd := digit_range (bitAt (run m X y k).acc 1) (bitAt (run m X y k).acc 0) (run m X y k).prev
    have hdy : -2 * B ≤ (run m X y k).digit * y ∧ (run m X y k).digit * y ≤ 2 * B := by
      unfold Acc.digit
      generalize digit _ _ _ = d at hd
      have hcases : d = -2 ∨ d = -1 ∨ d = 0 ∨ d = 1 ∨ d = 2 := by omega
      rcases hcases with rfl | rfl | rfl | rfl | rfl <;> omega
    simp only [run]
    rw [step_high]
    omega

/-! ## The product -/

section
variable {n : ℕ} {X y x : ℤ} (hX0 : 0 ≤ X) (hX1 : X < 2 * 4 ^ n)
  (hx : x = X - 2 * 4 ^ n * (bitAt (X / 4 ^ n) 0).toNat)
include hX0 hX1 hx

/-- The multiplier in two's complement is the recoded prefix and a last digit at its sign. -/
theorem recoded_sign :
    X / 4 ^ n = (bitAt (X / 4 ^ n) 0).toNat ∧
      x = recoded X n +
        4 ^ n * digit (bitAt (X / 4 ^ n) 0) (bitAt (X / 4 ^ n) 0) (lookback X n) := by
  have h4 : (0 : ℤ) < 4 ^ n := by positivity
  have hlo : 0 ≤ X / 4 ^ n := Int.ediv_nonneg hX0 (by omega)
  have hhi : X / 4 ^ n < 2 := Int.ediv_lt_of_lt_mul h4 (by omega)
  have hbit := toNat_bitAt (X / 4 ^ n) 0
  rw [pow_zero, Int.ediv_one] at hbit
  have hs : X / 4 ^ n = (bitAt (X / 4 ^ n) 0).toNat := by omega
  refine ⟨hs, ?_⟩
  have hmod : X % 4 ^ n = X - 4 ^ n * (bitAt (X / 4 ^ n) 0).toNat := by rw [Int.emod_def, ← hs]
  rw [hx, recoded, digit, hmod]
  ring

/-- The low half of the product. -/
theorem run_low :
    (run (2 * n + 1) X y n).acc / 2 % 4 ^ n = x * y % 4 ^ n := by
  obtain ⟨hs, hval⟩ := recoded_sign hX0 hX1 hx
  obtain ⟨hacc, _⟩ := run_acc (n := n) X y (le_refl n)
  have hbit : ((bitAt (X / 4 ^ n) 0).toNat : ℤ) ≤ 1 := by cases bitAt (X / 4 ^ n) 0 <;> decide
  have hhalf : (run (2 * n + 1) X y n).acc / 2 = y * recoded X n := by
    rw [hacc, Nat.sub_self, hs]
    generalize y * recoded X n = c
    omega
  rw [hhalf, hval, show (recoded X n + 4 ^ n * digit (bitAt (X / 4 ^ n) 0) (bitAt (X / 4 ^ n) 0)
    (lookback X n)) * y = y * recoded X n + 4 ^ n * (digit (bitAt (X / 4 ^ n) 0)
    (bitAt (X / 4 ^ n) 0) (lookback X n) * y) by ring, Int.add_mul_emod_self_left]

/-- The high half of the product is the last sum, whose digit reads the sign twice. -/
theorem run_high :
    (run (2 * n + 1) X y n).acc / 2 ^ (2 * n + 1) +
        digit (bitAt (X / 4 ^ n) 0) (bitAt (X / 4 ^ n) 0) (run (2 * n + 1) X y n).prev * y =
      x * y / 4 ^ n := by
  have h4 : (0 : ℤ) < 4 ^ n := by positivity
  obtain ⟨hs, hval⟩ := recoded_sign hX0 hX1 hx
  obtain ⟨hacc, hprev⟩ := run_acc (n := n) X y (le_refl n)
  have hbit : ((bitAt (X / 4 ^ n) 0).toNat : ℤ) ≤ 1 := by cases bitAt (X / 4 ^ n) 0 <;> decide
  have hhalf : (run (2 * n + 1) X y n).acc / 2 = y * recoded X n := by
    rw [hacc, Nat.sub_self, hs]
    generalize y * recoded X n = c
    omega
  have hpow : (2 : ℤ) ^ (2 * n + 1) = 2 * 4 ^ n := by
    rw [pow_succ, pow_mul]; norm_num; ring
  rw [hprev, hpow, ← Int.ediv_ediv_of_nonneg (by norm_num), hhalf, hval,
    show (recoded X n + 4 ^ n * digit (bitAt (X / 4 ^ n) 0) (bitAt (X / 4 ^ n) 0)
    (lookback X n)) * y = y * recoded X n + 4 ^ n * (digit (bitAt (X / 4 ^ n) 0)
    (bitAt (X / 4 ^ n) 0) (lookback X n) * y) by ring, Int.add_mul_ediv_left _ _ (by omega)]

end

end E203.Lib.Booth
