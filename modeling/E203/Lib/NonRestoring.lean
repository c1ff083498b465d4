import Mathlib.Algebra.Order.Ring.Int
import Mathlib.Tactic.Ring
import Mathlib.Tactic.Linarith

/-! # Non-restoring signed division

The recurrence keeps a signed partial remainder and a quotient with digits `1` and `-1`.  Every
step shifts one dividend bit into the remainder and then subtracts the divisor when the remainder
has the divisor's sign and adds it otherwise; the remainder is never restored.

* `PartDiv.step`: one step of the recurrence; `PartDiv.start`: the step on the sign alone.
* `PartDiv.Divides d n p`: the state `p` is a division of `n` by `d` with a remainder in
  `[-|d|, |d|)`, kept by every step.
* `PartDiv.correct`: the correction that turns the last state into the division truncating toward
  zero, needed exactly when `PartDiv.NeedCorrct` holds.
-/

namespace E203.Lib
set_option autoImplicit false

/-- A partial remainder and a quotient over the digits `1` and `-1`. -/
@[ext] structure PartDiv where
  remd : ℤ
  quot : ℤ

namespace PartDiv

/-- The quotient digit chosen for a remainder: `1` when it has the divisor's sign. -/
def digit (d r : ℤ) : ℤ := if r < 0 ↔ d < 0 then 1 else -1

/-- One step: shift in the dividend bit `b`, then subtract the digit times the divisor. -/
def step (d b : ℤ) (p : PartDiv) : PartDiv where
  remd := 2 * p.remd + b - digit d p.remd * d
  quot := 2 * p.quot + digit d p.remd

/-- The first step, taken on the sign extension `s` of the dividend. -/
def start (d s : ℤ) : PartDiv where
  remd := s - digit d s * d
  quot := digit d s

/-- The state divides `n` by `d`, with a remainder at most one divisor away from zero. -/
structure Divides (d n : ℤ) (p : PartDiv) : Prop where
  eq : n = d * p.quot + p.remd
  lower : -|d| ≤ p.remd
  upper : p.remd < |d|

theorem digit_cases (d r : ℤ) :
    (digit d r = 1 ∧ (r < 0 ↔ d < 0)) ∨ (digit d r = -1 ∧ ¬ (r < 0 ↔ d < 0)) := by
  unfold digit
  by_cases h : r < 0 ↔ d < 0
  · exact .inl ⟨if_pos h, h⟩
  · exact .inr ⟨if_neg h, h⟩

theorem start_divides {d s : ℤ} (hd : d ≠ 0) (hs : s = 0 ∨ s = -1) : Divides d s (start d s) := by
  have habs := abs_cases d
  rcases digit_cases d s with ⟨hq, hsgn⟩ | ⟨hq, hsgn⟩
  · refine ⟨?_, ?_, ?_⟩ <;> simp only [start, hq] <;> omega
  · refine ⟨?_, ?_, ?_⟩ <;> simp only [start, hq] <;> omega

theorem step_divides {d n b : ℤ} {p : PartDiv} (hb : b = 0 ∨ b = 1) (h : Divides d n p) :
    Divides d (2 * n + b) (step d b p) := by
  obtain ⟨heq, hlo, hhi⟩ := h
  have habs := abs_cases d
  rcases digit_cases d p.remd with ⟨hq, hsgn⟩ | ⟨hq, hsgn⟩
  · refine ⟨?_, ?_, ?_⟩ <;> simp only [step, hq]
    · rw [heq]; ring
    · omega
    · omega
  · refine ⟨?_, ?_, ?_⟩ <;> simp only [step, hq]
    · rw [heq]; ring
    · omega
    · omega

/-! ## The final correction -/

/-- The remainder has not the dividend's sign, or is a whole divisor. -/
def NeedCorrct (d n r : ℤ) : Prop := (¬ (r < 0 ↔ n < 0) ∧ r ≠ 0) ∨ r + d = 0 ∨ r = d

instance (d n r : ℤ) : Decidable (NeedCorrct d n r) := by unfold NeedCorrct; infer_instance

/-- One divisor back into the remainder, and the quotient changed to match. -/
def correct (d : ℤ) (p : PartDiv) : PartDiv :=
  if p.remd < 0 ↔ d < 0 then ⟨p.remd - d, p.quot + 1⟩ else ⟨p.remd + d, p.quot - 1⟩

/-- The division truncating toward zero, from its defining properties. -/
theorem eq_tdiv_tmod {d n q r : ℤ} (hd : d ≠ 0) (heq : n = d * q + r) (hlo : -|d| < r)
    (hhi : r < |d|) (hsgn : r = 0 ∨ (r < 0 ↔ n < 0)) : q = n.tdiv d ∧ r = n.tmod d := by
  rw [Int.abs_eq_natAbs] at hlo hhi
  rcases Int.le_total 0 n with hn | hn
  · have h := (Int.tdiv_tmod_unique (q := q) (r := r) hn hd).mpr ⟨by omega, by omega, hhi⟩
    exact ⟨h.1.symm, h.2.symm⟩
  · have hr : r ≤ 0 := by
      rcases hsgn with h0 | h0
      · omega
      · by_contra hpos
        have hn0 : n = 0 := by omega
        have hmul : d * q = -r := by omega
        have hdvd : d ∣ r := ⟨-q, by rw [mul_neg, hmul, neg_neg]⟩
        have := Int.natAbs_dvd_natAbs.mpr hdvd
        have := Nat.le_of_dvd (by omega) this
        omega
    have h := (Int.tdiv_tmod_unique' (q := q) (r := r) hn hd).mpr ⟨by omega, hlo, hr⟩
    exact ⟨h.1.symm, h.2.symm⟩

theorem divides_of_correct {d n : ℤ} {p : PartDiv} (hd : d ≠ 0) (h : Divides d n p)
    (hc : NeedCorrct d n p.remd) :
    (correct d p).quot = n.tdiv d ∧ (correct d p).remd = n.tmod d := by
  obtain ⟨heq, hlo, hhi⟩ := h
  have habs := abs_cases d
  unfold NeedCorrct at hc
  unfold correct
  split
  · exact eq_tdiv_tmod hd (by rw [heq]; ring) (by dsimp only; omega) (by dsimp only; omega)
      (by dsimp only; omega)
  · exact eq_tdiv_tmod hd (by rw [heq]; ring) (by dsimp only; omega) (by dsimp only; omega)
      (by dsimp only; omega)

theorem divides_of_not_needCorrct {d n : ℤ} {p : PartDiv} (hd : d ≠ 0) (h : Divides d n p)
    (hc : ¬ NeedCorrct d n p.remd) : p.quot = n.tdiv d ∧ p.remd = n.tmod d := by
  obtain ⟨heq, hlo, hhi⟩ := h
  have habs := abs_cases d
  unfold NeedCorrct at hc
  exact eq_tdiv_tmod hd heq (by omega) hhi (by omega)

/-! ## The whole recurrence -/

/-- The state after the sign step and `k` steps on a dividend of `w` bits and a sign. -/
def run (w : ℕ) (d n : ℤ) : ℕ → PartDiv
  | 0 => start d (n / 2 ^ w)
  | k + 1 => step d (n / 2 ^ (w - 1 - k) % 2) (run w d n k)

/-- The digit chosen for a remainder, as the bit a quotient register holds. -/
def digitBit (d r : ℤ) : Bool := decide (r < 0 ↔ d < 0)

theorem digit_eq (d r : ℤ) : digit d r = 2 * ((digitBit d r).toNat : ℤ) - 1 := by
  unfold digit digitBit
  by_cases h : r < 0 ↔ d < 0 <;> simp [h]

/-- The quotient register after the sign step and `k` steps: one bit for each digit. -/
def quotBits (w : ℕ) (d n : ℤ) : ℕ → ℤ
  | 0 => (digitBit d (n / 2 ^ w)).toNat
  | k + 1 => 2 * quotBits w d n k + (digitBit d (run w d n k).remd).toNat

theorem quotBits_nonneg (w : ℕ) (d n : ℤ) (k : ℕ) : 0 ≤ quotBits w d n k := by
  induction k with
  | zero => simp [quotBits]
  | succ k ih => simp only [quotBits]; omega

theorem quotBits_lt (w : ℕ) (d n : ℤ) (k : ℕ) : quotBits w d n k < 2 ^ (k + 1) := by
  have hbit : ∀ b : Bool, (b.toNat : ℤ) ≤ 1 := by decide
  induction k with
  | zero => have := hbit (digitBit d (n / 2 ^ w)); simp only [quotBits]; omega
  | succ k ih =>
    have := hbit (digitBit d (run w d n k).remd)
    simp only [quotBits]
    rw [pow_succ]
    omega

/-- The digits `1` and `-1` in the register stand for an odd quotient. -/
theorem run_quot (w : ℕ) (d n : ℤ) (k : ℕ) :
    (run w d n k).quot = 2 * quotBits w d n k + 1 - 2 ^ (k + 1) := by
  induction k with
  | zero => simp only [run, start, quotBits, digit_eq]; ring
  | succ k ih =>
    simp only [run, step, quotBits, digit_eq, ih]
    ring

theorem ediv_two_pow_sub (w k : ℕ) (n : ℤ) (hk : k < w) :
    n / 2 ^ (w - (k + 1)) = 2 * (n / 2 ^ (w - k)) + n / 2 ^ (w - 1 - k) % 2 := by
  have he : w - k = (w - 1 - k) + 1 := by omega
  have he' : w - (k + 1) = w - 1 - k := by omega
  have hdiv : n / 2 ^ (w - k) = n / 2 ^ (w - 1 - k) / 2 := by
    rw [he, pow_succ, Int.ediv_ediv_of_nonneg (by positivity)]
  rw [hdiv, he']
  omega

theorem run_divides {w : ℕ} {d n : ℤ} (hd : d ≠ 0) (h1 : -2 ^ w ≤ n) (h2 : n < 2 ^ w) {k : ℕ}
    (hk : k ≤ w) : Divides d (n / 2 ^ (w - k)) (run w d n k) := by
  induction k with
  | zero =>
    rw [Nat.sub_zero]
    refine start_divides hd ?_
    rcases lt_or_ge n 0 with hn | hn
    · exact .inr (Int.ediv_eq_neg_one_of_neg_of_le hn (by omega))
    · exact .inl (Int.ediv_eq_zero_of_lt hn h2)
  | succ k ih =>
    rw [ediv_two_pow_sub w k n (by omega)]
    exact step_divides (by omega) (ih (by omega))

end PartDiv

end E203.Lib
