import Mathlib.Data.Nat.Count
import Mathlib.Order.Basic

/-! # Counters

A register that counts events and may be overwritten.

* `append_add_one`: a counter in two halves, with the carry between them.
* `tally put counts v`: the counter after each cycle.
* `tally_eq_iff`: two counters agree throughout a run exactly if they count in the same cycles.
-/

namespace E203.Lib
set_option autoImplicit false

section
variable {a b : ℕ}

theorem toNat_append_eq (h : BitVec a) (l : BitVec b) :
    (h ++ l).toNat = h.toNat * 2 ^ b + l.toNat := by
  rw [BitVec.toNat_append, ← Nat.shiftLeft_add_eq_or_of_lt l.isLt, Nat.shiftLeft_eq]

/-- The lower half wraps around into the upper one. -/
theorem append_add_one (h : BitVec a) (l : BitVec b) :
    (h ++ l) + 1#(a + b) = (if l = BitVec.allOnes b then h + 1#a else h) ++ (l + 1#b) := by
  have hone : ∀ (w : ℕ) (x : BitVec w), (x + 1#w).toNat = (x.toNat + 1) % 2 ^ w := by
    intro w x
    rw [BitVec.toNat_add, BitVec.toNat_ofNat, Nat.add_mod_mod]
  apply BitVec.eq_of_toNat_eq
  rw [hone, toNat_append_eq, toNat_append_eq, hone]
  by_cases hl : l = BitVec.allOnes b
  · have hpos := Nat.two_pow_pos b
    have hmax : l.toNat + 1 = 2 ^ b := by
      rw [hl, BitVec.toNat_allOnes]
      omega
    rw [if_pos hl, hone, Nat.add_assoc, hmax, Nat.mod_self, Nat.add_zero, ← Nat.succ_mul, pow_add,
      Nat.mul_mod_mul_right]
  · have hlt : l.toNat + 1 < 2 ^ b := by
      have hne : l.toNat ≠ 2 ^ b - 1 := fun h =>
        hl (BitVec.eq_of_toNat_eq (by rw [BitVec.toNat_allOnes, h]))
      have := l.isLt
      omega
    have hsum : h.toNat * 2 ^ b + (l.toNat + 1) < 2 ^ (a + b) := by
      have hh : h.toNat * 2 ^ b + 2 ^ b ≤ 2 ^ (a + b) := by
        rw [← Nat.succ_mul, pow_add]
        exact Nat.mul_le_mul_right _ h.isLt
      omega
    rw [if_neg hl, Nat.mod_eq_of_lt hlt, Nat.add_assoc, Nat.mod_eq_of_lt hsum]

end

section
variable {w : ℕ} (put : ℕ → BitVec w → BitVec w) (c : ℕ → Prop) [DecidablePred c] (v : BitVec w)

/-- The counter: it counts the cycles with `c`, and `put t` is what is written in cycle `t`. -/
def tally : ℕ → BitVec w
  | 0 => v
  | t + 1 => put t (if c t then tally t + 1#w else tally t)

variable {put c v}

theorem tally_eq_iff {d : ℕ → Prop} [DecidablePred d] (hw : 0 < w)
    (hput : ∀ t, ¬(c t ↔ d t) → ∀ x, put t x = x) :
    (∀ t, tally put c v t = tally put d v t) ↔ ∀ t, c t ↔ d t := by
  have hne : ∀ x : BitVec w, x + 1#w ≠ x := by
    intro x hx
    have hzero : 1#w = 0#w := by
      calc 1#w = x + 1#w - x := by rw [BitVec.add_comm, BitVec.add_sub_cancel]
        _ = 0#w := by rw [hx, BitVec.sub_self]
    have hnat := congrArg BitVec.toNat hzero
    rw [BitVec.toNat_ofNat, BitVec.toNat_ofNat, Nat.zero_mod,
      Nat.mod_eq_of_lt (Nat.one_lt_two_pow (Nat.pos_iff_ne_zero.mp hw))] at hnat
    exact absurd hnat Nat.one_ne_zero
  constructor
  · intro h t
    by_contra hno
    have hnext := h (t + 1)
    rw [tally, tally, hput t hno, hput t hno, h t] at hnext
    by_cases hc : c t
    · have hd : ¬d t := fun hd => hno ⟨fun _ => hd, fun _ => hc⟩
      rw [if_pos hc, if_neg hd] at hnext
      exact hne _ hnext
    · have hd : d t := by
        by_contra hd
        exact hno ⟨fun hc' => absurd hc' hc, fun hd' => absurd hd' hd⟩
      rw [if_neg hc, if_pos hd] at hnext
      exact hne _ hnext.symm
  · intro h t
    induction t with
    | zero => rfl
    | succ t ih => rw [tally, tally, ih, if_congr (h t) rfl rfl]

end
end E203.Lib
