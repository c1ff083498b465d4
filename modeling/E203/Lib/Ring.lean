import Mathlib.Order.Basic
import Mathlib.Logic.Function.Basic

/-! # Ring buffers

A list kept in `n` cells from a head on, wrapping at the end.  Nothing here names a circuit.

* `slot n head i`: the cell `i` places after `head`.
* `InRing cells head l`: the cells hold `l`; `InRing.push`, `InRing.pop`.
-/

namespace E203.Lib
set_option autoImplicit false

/-- The cell `i` places after `head`; it wraps at most once. -/
def slot (n head i : ℕ) : ℕ := if head + i < n then head + i else head + i - n

section
variable {n head i j : ℕ}

theorem slot_lt (hh : head < n) (hi : i ≤ n) : slot n head i < n := by
  unfold slot
  split <;> omega

theorem slot_zero (hh : head < n) : slot n head 0 = head := if_pos hh

theorem slot_inj (hi : i < n) (hj : j < n) (h : slot n head i = slot n head j) :
    i = j := by
  unfold slot at h
  split at h <;> split at h <;> omega

/-- Advancing the head shortens the way to a cell. -/
theorem slot_next (hh : head < n) (hi : i < n) : slot n (slot n head 1) i = slot n head (i + 1) := by
  unfold slot
  split <;> split <;> split <;> omega

theorem slot_succ (hh : head < n) (hi : i < n) : slot n (slot n head i) 1 = slot n head (i + 1) := by
  unfold slot
  split <;> split <;> split <;> omega

variable {α : Type*} {cells : Fin n → α} {l : List α} {x : α}

/-- The cells from `head` on hold `l`. -/
structure InRing (cells : Fin n → α) (head : ℕ) (l : List α) : Prop where
  head_lt : head < n
  length_le : l.length ≤ n
  get : ∀ k (hk : k < l.length), cells ⟨slot n head k, slot_lt head_lt (by omega)⟩ = l[k]

theorem InRing.nil (hh : head < n) (cells : Fin n → α) : InRing cells head [] where
  head_lt := hh
  length_le := Nat.zero_le n
  get k hk := absurd hk (Nat.not_lt_zero k)

theorem InRing.head_eq (h : InRing cells head (x :: l)) : cells ⟨head, h.head_lt⟩ = x := by
  have h0 := h.get 0 (Nat.zero_lt_succ _)
  simp only [slot_zero h.head_lt] at h0
  exact h0

theorem InRing.pop (h : InRing cells head (x :: l)) : InRing cells (slot n head 1) l := by
  have hlen : l.length + 1 ≤ n := h.length_le
  have hh := h.head_lt
  refine ⟨slot_lt hh (by omega), by omega, fun k hk => ?_⟩
  have hk' := h.get (k + 1) (Nat.succ_lt_succ hk)
  simp only [slot_next hh (show k < n by omega)]
  exact hk'

theorem InRing.push (h : InRing cells head l) (hroom : l.length < n) (x : α) :
    InRing (fun c => if c.val = slot n head l.length then x else cells c) head (l ++ [x]) := by
  have hh := h.head_lt
  refine ⟨hh, by rw [List.length_append]; exact hroom, fun k hk => ?_⟩
  rw [List.length_append, List.length_singleton] at hk
  obtain hlt | rfl := Nat.lt_succ_iff_lt_or_eq.mp hk
  · have hne : slot n head k ≠ slot n head l.length := fun heq =>
      absurd (slot_inj (by omega) hroom heq) (Nat.ne_of_lt hlt)
    rw [if_neg hne, List.getElem_append_left hlt]
    exact h.get k hlt
  · rw [if_pos rfl]
    simp

end
end E203.Lib
