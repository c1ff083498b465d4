import E203.Lib.Machine
import Mathlib.Data.List.Forall2

/-! # Responses from several sources

Commands are sent to several sources, each of which responds to its own commands in order.  Nothing here
names a circuit.

* `Answers ans cmds rsps`: the responses so far answer the first commands, one after the other.
* `answers_of_each`: if the responses are taken from the sources in the order of the commands, they
  answer the commands in order.
-/

namespace E203.Lib
set_option autoImplicit false

section
variable {ι C R : Type*}

def Answers (ans : C → R → Prop) (cmds : List C) (rsps : List R) : Prop :=
  List.Forall₂ ans (cmds.take rsps.length) rsps

/-- What was sent to, or came from, one source. -/
def ofSource {α : Type*} [DecidableEq ι] (j : ι) (l : List (ι × α)) : List α :=
  (l.filter fun x => decide (x.1 = j)).map Prod.snd

variable [DecidableEq ι] {α : Type*} {j k : ι} {l : List (ι × α)} {x : α}

theorem ofSource_cons : ofSource j ((k, x) :: l) = if k = j then x :: ofSource j l else ofSource j l := by
  rw [ofSource, List.filter_cons]
  by_cases hk : k = j
  · simp only [hk, decide_true, if_true, List.map_cons]
    rfl
  · simp only [hk, decide_false, Bool.false_eq_true, if_false]
    rfl

theorem length_ofSource : (ofSource j l).length = (l.map Prod.fst).count j := by
  induction l with
  | nil => rfl
  | cons y l ih =>
    obtain ⟨k, x⟩ := y
    rw [ofSource_cons, List.map_cons, List.count_cons]
    by_cases hk : k = j
    · simp [hk, ih]
    · simp [hk, ih]

theorem ofSource_append (l' : List (ι × α)) : ofSource j (l ++ l') = ofSource j l ++ ofSource j l' := by
  rw [ofSource, List.filter_append, List.map_append]
  rfl

/-- At most one event, which is of one source. -/
theorem ofSource_ite (b : Bool) : ofSource j (if b then [(k, x)] else []) =
    if b && decide (k = j) then [x] else [] := by
  cases b with
  | false => rfl
  | true =>
    rw [if_pos rfl, Bool.true_and, ofSource_cons]
    by_cases hk : k = j
    · rw [if_pos hk, decide_eq_true hk, if_pos rfl]
      rfl
    · rw [if_neg hk, decide_eq_false hk, if_neg Bool.false_ne_true]
      rfl

theorem emitted_ofSource {ev : ℕ → List (ι × α)} {a t : ℕ} :
    emitted (fun t => ofSource j (ev t)) a t = ofSource j (emitted ev a t) := by
  simp only [ofSource, emitted, List.filter_flatMap, List.map_flatMap]

theorem answers_of_each {ans : C → R → Prop} {cmds : List (ι × C)} {rsps : List (ι × R)}
    (hpre : rsps.map Prod.fst <+: cmds.map Prod.fst)
    (h : ∀ j, Answers ans (ofSource j cmds) (ofSource j rsps)) :
    Answers ans (cmds.map Prod.snd) (rsps.map Prod.snd) := by
  induction rsps generalizing cmds with
  | nil =>
    rw [Answers, List.map_nil, List.length_nil, List.take_zero]
    exact .nil
  | cons y rsps ih =>
    obtain ⟨j, r⟩ := y
    obtain _ | ⟨⟨k, c⟩, cmds⟩ := cmds
    · exact absurd (List.prefix_nil.mp hpre) (List.cons_ne_nil _ _)
    · obtain ⟨hjk, hpre'⟩ := List.cons_prefix_cons.mp hpre
      have hk : j = k := hjk
      subst hk
      have hj := h j
      rw [Answers, ofSource_cons, ofSource_cons, if_pos rfl, if_pos rfl, List.length_cons,
        List.take_succ_cons, List.forall₂_cons] at hj
      obtain ⟨hans, hrest⟩ := hj
      refine List.forall₂_cons.mpr ⟨hans, ih hpre' fun i => ?_⟩
      by_cases hij : j = i
      · rw [← hij]
        exact hrest
      · have hi := h i
        rw [Answers, ofSource_cons, ofSource_cons, if_neg hij, if_neg hij] at hi
        exact hi

end
end E203.Lib
