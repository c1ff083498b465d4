import E203.Rtl.Defines
import Mathlib.Data.List.Basic

/-! # Selection by a one-hot indication

* `oneHot`: the indication of a single target; `any_oneHot`, `foldl_oneHot`: the OR of what the
  indicated targets drive is what that target drives.
-/

namespace E203
set_option autoImplicit false

/-- A single target is indicated. -/
def oneHot {ι : Type*} [DecidableEq ι] (k : ι) : ι → Bool := fun j => decide (j = k)

section
variable {ι : Type*} [DecidableEq ι] {targets : List ι} {k : ι}

theorem any_oneHot (hk : k ∈ targets) (f : ι → Bool) :
    (targets.any fun j => f j && oneHot k j) = f k := by
  cases hf : f k
  · rw [List.any_eq_false]
    intro j _
    by_cases hj : j = k
    · rw [hj, hf]
      simp
    · simp [oneHot, hj]
  · rw [List.any_eq_true]
    exact ⟨k, hk, by simp [hf, oneHot]⟩

theorem foldl_oneHot {w : ℕ} (f : ι → BitVec w) (acc : BitVec w) :
    targets.foldl (fun acc j => acc ||| gate (oneHot k j) (f j)) acc =
      acc ||| if k ∈ targets then f k else 0#w := by
  induction targets generalizing acc with
  | nil => simp
  | cons j targets ih =>
    rw [List.foldl_cons, ih]
    by_cases hj : j = k
    · subst hj
      have hone : oneHot j j = true := decide_eq_true rfl
      rw [hone, gate_true, if_pos List.mem_cons_self, BitVec.or_assoc]
      by_cases hmem : j ∈ targets
      · rw [if_pos hmem, BitVec.or_self]
      · rw [if_neg hmem, BitVec.or_zero]
    · have hzero : oneHot k j = false := decide_eq_false hj
      have hmem : k ∈ j :: targets ↔ k ∈ targets := by
        rw [List.mem_cons]
        exact or_iff_right fun heq => hj heq.symm
      rw [hzero, gate_false, BitVec.or_zero]
      simp only [hmem]

/-- What the indicated target emits, where each of the targets may. -/
theorem flatMap_oneHot {α : Type*} (hk : k ∈ targets) (hnd : targets.Nodup) (b : Bool) (f : ι → α) :
    (targets.flatMap fun j => if oneHot k j && b then [f j] else []) = if b then [f k] else [] := by
  induction targets with
  | nil => cases hk
  | cons j targets ih =>
    obtain ⟨hj, hnd⟩ := List.nodup_cons.mp hnd
    rw [List.flatMap_cons]
    by_cases hjk : j = k
    · subst hjk
      have hrest : (targets.flatMap fun i => if oneHot j i && b then [f i] else []) = [] := by
        rw [List.flatMap_eq_nil_iff]
        intro i hi
        have hne : oneHot j i = false := decide_eq_false fun heq => hj (heq ▸ hi)
        rw [hne]
        rfl
      rw [hrest, List.append_nil, oneHot, decide_eq_true rfl, Bool.true_and]
    · have hmem : k ∈ targets := by
        obtain heq | hmem := List.mem_cons.mp hk
        · exact absurd heq.symm hjk
        · exact hmem
      have hne : oneHot k j = false := decide_eq_false hjk
      rw [ih hmem hnd, hne]
      rfl

/-- Each target emits once at most, under its own name. -/
theorem count_flatMap {α : Type*} (hk : k ∈ targets) (hnd : targets.Nodup) (b : ι → Bool) (f : ι → α) :
    ((targets.flatMap fun j => if b j then [(j, f j)] else []).map Prod.fst).count k = (b k).toNat := by
  have hcount : ∀ j, ((if b j then [(j, f j)] else []).map Prod.fst).count k =
      if j = k then (b j).toNat else 0 := by
    intro j
    cases b j
    · exact (ite_self 0).symm
    · change [j].count k = _
      rw [List.count_singleton]
      by_cases hjk : j = k
      · rw [hjk, if_pos rfl, beq_self_eq_true, if_pos rfl]
        rfl
      · rw [if_neg hjk, beq_false_of_ne hjk, if_neg Bool.false_ne_true]
  induction targets with
  | nil => cases hk
  | cons j targets ih =>
    obtain ⟨hj, hnd⟩ := List.nodup_cons.mp hnd
    rw [List.flatMap_cons, List.map_append, List.count_append, hcount]
    by_cases hjk : j = k
    · subst hjk
      have hrest : j ∉ (targets.flatMap fun j => if b j then [(j, f j)] else []).map Prod.fst := by
        intro hmem
        obtain ⟨x, hx, hfst⟩ := List.mem_map.mp hmem
        obtain ⟨i, hi, hxi⟩ := List.mem_flatMap.mp hx
        split at hxi
        · rw [List.mem_singleton.mp hxi] at hfst
          exact hj (hfst ▸ hi)
        · cases hxi
      rw [if_pos rfl, List.count_eq_zero_of_not_mem hrest, Nat.add_zero]
    · rw [if_neg hjk, Nat.zero_add]
      exact ih ((List.mem_cons.mp hk).resolve_left fun heq => hjk heq.symm) hnd

end

end E203
