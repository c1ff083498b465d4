import Mathlib.Order.Lattice
import Mathlib.Data.List.Basic
import Mathlib.Algebra.GroupWithZero.Nat

/-! # Knockout trees

A comparison tree selects an entry in rounds: neighbours are compared in pairs and the left one goes
on unless the right one has the strictly larger key.

* `FirstMax key xs w`: `w` is the first entry of `xs` with the largest key.
* `FirstMax.of_round`: one round keeps it; `firstMax_rounds` is the whole tree.
-/

namespace E203.Lib
set_option autoImplicit false

section
variable {α κ : Type*} [LinearOrder κ] (key : α → κ)

/-- One round. -/
def round : List α → List α
  | a :: b :: rest => (if key a < key b then b else a) :: round rest
  | rest => rest

/-- The entries left after `n` rounds. -/
def rounds (n : ℕ) (xs : List α) : List α := (round key)^[n] xs

def FirstMax (xs : List α) (w : α) : Prop :=
  ∃ before after, xs = before ++ w :: after ∧
    (∀ a ∈ before, key a < key w) ∧ ∀ a ∈ after, key a ≤ key w

variable {xs : List α} {a b w : α}

section
variable {key}

theorem FirstMax.mem (h : FirstMax key xs w) : w ∈ xs := by
  obtain ⟨before, after, rfl, -, -⟩ := h
  exact List.mem_append_right _ List.mem_cons_self

theorem FirstMax.le (h : FirstMax key xs w) (ha : a ∈ xs) : key a ≤ key w := by
  obtain ⟨before, after, rfl, hbefore, hafter⟩ := h
  rw [List.mem_append, List.mem_cons] at ha
  obtain ha | rfl | ha := ha
  · exact (hbefore a ha).le
  · exact le_refl _
  · exact hafter a ha

/-- An entry that loses against the winner may stand before it. -/
theorem FirstMax.cons (h : FirstMax key xs w) (ha : key a < key w) : FirstMax key (a :: xs) w := by
  obtain ⟨before, after, rfl, hbefore, hafter⟩ := h
  refine ⟨a :: before, after, rfl, ?_, hafter⟩
  intro c hc
  obtain rfl | hc := List.mem_cons.mp hc
  · exact ha
  · exact hbefore c hc

theorem firstMax_singleton (a : α) : FirstMax key [a] a :=
  ⟨[], [], rfl, fun _ h => absurd h List.not_mem_nil, fun _ h => absurd h List.not_mem_nil⟩

/-- The winner is the first entry or has a larger key than it. -/
theorem FirstMax.eq_or_lt (h : FirstMax key (a :: xs) w) : w = a ∨ key a < key w := by
  obtain ⟨before, after, heq, hbefore, -⟩ := h
  cases before with
  | nil => exact .inl (List.cons.inj heq).1.symm
  | cons c before =>
    obtain ⟨rfl, -⟩ := List.cons.inj heq
    exact .inr (hbefore a List.mem_cons_self)

end

/-- Every entry meets one that goes on and that it does not beat. -/
theorem exists_le_of_mem_round : ∀ {xs : List α} {a : α}, a ∈ xs →
    ∃ c ∈ round key xs, key a ≤ key c
  | [], _, h => absurd h List.not_mem_nil
  | [_], a, h => ⟨a, h, le_refl _⟩
  | b :: c :: rest, a, h => by
    have hnext : (if key b < key c then c else b) ∈ round key (b :: c :: rest) :=
      List.mem_cons_self
    rw [List.mem_cons, List.mem_cons] at h
    obtain rfl | rfl | h := h
    · refine ⟨_, hnext, ?_⟩
      split
      · exact le_of_lt ‹_›
      · exact le_refl _
    · refine ⟨_, hnext, ?_⟩
      split
      · exact le_refl _
      · exact not_lt.mp ‹_›
    · obtain ⟨d, hd, hle⟩ := exists_le_of_mem_round h
      exact ⟨d, List.mem_cons_of_mem _ hd, hle⟩

variable {key} in
/-- The winner of what one round leaves is the winner of the entries before it. -/
theorem FirstMax.of_round : ∀ {xs : List α} {w : α},
    FirstMax key (round key xs) w → FirstMax key xs w
  | [], _, h => h
  | [_], _, h => h
  | a :: b :: rest, w, h => by
    obtain ⟨before, after, heq, hbefore, hafter⟩ := h
    cases before with
    | nil =>
      -- the winner of the first pair wins
      obtain ⟨hw, rfl⟩ := List.cons.inj heq
      have hrest : ∀ c ∈ rest, key c ≤ key w := by
        intro c hc
        obtain ⟨d, hd, hle⟩ := exists_le_of_mem_round key hc
        exact hle.trans (hafter d hd)
      by_cases hlt : key a < key b
      · rw [if_pos hlt] at hw
        subst hw
        exact ⟨[a], rest, rfl, fun c hc => by rwa [List.mem_singleton.mp hc], hrest⟩
      · rw [if_neg hlt] at hw
        subst hw
        refine ⟨[], b :: rest, rfl, fun c hc => absurd hc List.not_mem_nil, ?_⟩
        intro c hc
        obtain rfl | hc := List.mem_cons.mp hc
        · exact not_lt.mp hlt
        · exact hrest c hc
    | cons c before =>
      -- the winner comes later and beats whoever won the first pair
      obtain ⟨rfl, htail⟩ := List.cons.inj heq
      have hwin := hbefore _ List.mem_cons_self
      have hlater : FirstMax key rest w := FirstMax.of_round
        ⟨before, after, htail, fun d hd => hbefore d (List.mem_cons_of_mem _ hd), hafter⟩
      split at hwin
      · rename_i hlt
        exact (hlater.cons hwin).cons (hlt.trans hwin)
      · rename_i hge
        exact (hlater.cons ((not_lt.mp hge).trans_lt hwin)).cons hwin

theorem length_round : ∀ xs : List α, (round key xs).length = (xs.length + 1) / 2
  | [] => by simp [round]
  | [_] => by simp [round]
  | _ :: _ :: rest => by
    rw [round, List.length_cons, length_round rest, List.length_cons, List.length_cons]
    omega

theorem length_rounds : ∀ (n : ℕ) (xs : List α), xs.length = 2 ^ n →
    (rounds key n xs).length = 1
  | 0, _, h => h
  | n + 1, xs, h => by
    have hnext : (round key xs).length = 2 ^ n := by
      rw [length_round, h, Nat.pow_succ]
      omega
    exact length_rounds n (round key xs) hnext

variable {key} in
theorem FirstMax.of_rounds : ∀ (n : ℕ) {xs : List α},
    FirstMax key (rounds key n xs) w → FirstMax key xs w
  | 0, _, h => h
  | n + 1, _, h => (FirstMax.of_rounds n h).of_round

/-- The tree over `2 ^ n` entries selects the first one with the largest key. -/
theorem firstMax_rounds (n : ℕ) (xs : List α) (hlen : xs.length = 2 ^ n) :
    ∃ w, rounds key n xs = [w] ∧ FirstMax key xs w := by
  obtain ⟨w, hw⟩ := List.length_eq_one_iff.mp (length_rounds key n xs hlen)
  refine ⟨w, hw, FirstMax.of_rounds n ?_⟩
  rw [hw]
  exact firstMax_singleton w

theorem round_map {β : Type*} (f : β → α) : ∀ xs : List β,
    round key (xs.map f) = (round (fun b => key (f b)) xs).map f
  | [] => rfl
  | [_] => rfl
  | a :: b :: rest => by
    rw [List.map_cons, List.map_cons, round, round_map f rest, round, List.map_cons]
    split <;> rfl

/-- What is selected depends on the keys alone. -/
theorem rounds_map {β : Type*} (f : β → α) : ∀ (n : ℕ) (xs : List β),
    rounds key n (xs.map f) = (rounds (fun b => key (f b)) n xs).map f
  | 0, _ => rfl
  | n + 1, xs => by
    have hnext := rounds_map f n (round (fun b => key (f b)) xs)
    rw [← round_map] at hnext
    exact hnext

variable {key} in
/-- Over the entries of the indices below `n`: the winner is that of an index, and those before it have
smaller keys. -/
theorem FirstMax.of_range {n : ℕ} {f : ℕ → α} (h : FirstMax key ((List.range n).map f) w) :
    ∃ k, k < n ∧ w = f k ∧ (∀ m, m < k → key (f m) < key (f k)) ∧
      ∀ m, m < n → key (f m) ≤ key (f k) := by
  have hle : ∀ m, m < n → key (f m) ≤ key w := fun m hm =>
    h.le (List.mem_map_of_mem (List.mem_range.mpr hm))
  obtain ⟨before, after, heq, hbefore, -⟩ := h
  have hlen := congrArg List.length heq
  rw [List.length_map, List.length_range, List.length_append, List.length_cons] at hlen
  have hget : ∀ m, m < n → (before ++ w :: after)[m]? = some (f m) := by
    intro m hm
    rw [← heq, List.getElem?_map, List.getElem?_range hm]
    rfl
  have hw : w = f before.length := by
    have hlast := hget before.length (by omega)
    rw [List.getElem?_append_right (Nat.le_refl _), Nat.sub_self, List.getElem?_cons_zero] at hlast
    exact Option.some.inj hlast
  refine ⟨before.length, by omega, hw, fun m hm => ?_, fun m hm => ?_⟩
  · have hm' := hget m (by omega)
    rw [List.getElem?_append_left hm] at hm'
    rw [← hw]
    exact hbefore _ (List.mem_of_getElem? hm')
  · rw [← hw]
    exact hle m hm

end

end E203.Lib
