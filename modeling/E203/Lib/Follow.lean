import E203.Lib.InOrder

/-! # A specification that follows a log

The instructions of a log of `Lib.InOrder` carry labels, and a specification machine with a control
state and a register file takes one step for each.  A label fits when the specification does with it
what the log's instruction does, whatever its late result will be and whatever the registers hold that
it does not read.

* `Entry.Fits`: one instruction, from control state to control state.
* `Linked`: a log of which every entry fits; kept by `Linked.append` and `Linked.complete`.
* `Linked.run`: the specification accepts a linked log and ends with its register file.
-/

namespace E203.Lib.InOrder
set_option autoImplicit false

def Result.toOption {V : Type*} : Result V → Option V
  | .value v => some v
  | _ => none

structure Entry (L R V : Type*) where
  label : L
  instr : Instr R V

section
variable {L R V : Type*}

/-- The log without its labels. -/
def instrs (log : List (Entry L R V)) : List (Instr R V) := log.map Entry.instr

/-- What the specification sees: the labels, with the results. -/
def labels (log : List (Entry L R V)) : List (L × Option V) :=
  log.map fun e => (e.label, e.instr.result.toOption)

/-- The oldest outstanding instruction gets its result. -/
def finish (r : Result V) : List (Entry L R V) → List (Entry L R V)
  | [] => []
  | e :: log =>
    match e.instr.result with
    | .outstanding => { e with instr := { e.instr with result := r } } :: log
    | _ => e :: finish r log

theorem instrs_append {log log' : List (Entry L R V)} :
    instrs (log ++ log') = instrs log ++ instrs log' := List.map_append

theorem instrs_finish {log : List (Entry L R V)} {r : Result V} :
    instrs (finish r log) = complete r (instrs log) := by
  induction log with
  | nil => rfl
  | cons e log ih =>
    change instrs (finish r (e :: log)) = complete r (e.instr :: instrs log)
    rw [finish, complete]
    cases e.instr.result
    case outstanding => rfl
    all_goals exact congrArg (e.instr :: ·) ih

theorem labels_finish {log : List (Entry L R V)} {r : Result V} :
    (labels (finish r log)).map Prod.fst = (labels log).map Prod.fst := by
  induction log with
  | nil => rfl
  | cons e log ih =>
    cases hq : e.instr.result <;> simp only [finish, hq]
    case outstanding => rfl
    all_goals exact congrArg (e.label :: ·) ih

/-- The results that the instruction may still get. -/
def Instr.MayGet (q : Instr R V) (r : Result V) : Prop := q.result ≠ .outstanding → r = q.result

end

section
variable {L R V C S : Type*} [DecidableEq R] (mk : C → (R → V) → S)
  (step : S → L × Option V → Option S)

/-- The specification goes from `c` to `c'` with the entry. -/
def Entry.Fits (c : C) (e : Entry L R V) (c' : C) : Prop :=
  ∀ r, e.instr.MayGet r → ∀ ρ, (∀ p ∈ e.instr.reads, ρ p.1 = p.2) →
    step (mk c ρ) (e.label, r.toOption) =
      some (mk c' (Instr.exec ρ { e.instr with result := r }))

def Linked (c : C) : List (Entry L R V) → C → Prop
  | [], c' => c = c'
  | e :: log, c' => ∃ c₁, e.Fits mk step c c₁ ∧ Linked c₁ log c'

variable {mk step} {c c₁ c' : C} {e : Entry L R V} {log : List (Entry L R V)} {r : Result V}
  {ρ : R → V}

theorem Linked.append (h : Linked mk step c log c₁) (he : e.Fits mk step c₁ c') :
    Linked mk step c (log ++ [e]) c' := by
  induction log generalizing c with
  | nil =>
    obtain rfl := h
    exact ⟨c', he, rfl⟩
  | cons e' log ih =>
    obtain ⟨c₂, hfits, hlog⟩ := h
    exact ⟨c₂, hfits, ih hlog⟩

/-- A late result is one that the specification was ready for. -/
theorem Entry.Fits.finish (h : e.Fits mk step c c') (hr : e.instr.MayGet r) (hlate : r ≠ .outstanding) :
    (Entry.mk e.label { e.instr with result := r }).Fits mk step c c' := by
  intro r' hget ρ hreads
  obtain rfl := hget hlate
  exact h r' hr ρ hreads

theorem Linked.finish (h : Linked mk step c log c') (hlate : r ≠ .outstanding) :
    Linked mk step c (finish r log) c' := by
  induction log generalizing c with
  | nil => exact h
  | cons e log ih =>
    obtain ⟨c₂, hfits, hlog⟩ := h
    cases hq : e.instr.result <;> simp only [InOrder.finish, hq]
    case outstanding => exact ⟨c₂, hfits.finish (fun hno => absurd hq hno) hlate, hlog⟩
    all_goals exact ⟨c₂, hfits, ih hlog⟩

/-- The specification accepts the log and ends with its register file. -/
theorem Linked.run (h : Linked mk step c log c') (hreads : Reads ρ (instrs log)) :
    (labels log).foldlM step (mk c ρ) = some (mk c' (InOrder.run ρ (instrs log))) := by
  induction log generalizing c ρ with
  | nil =>
    obtain rfl := h
    rfl
  | cons e log ih =>
    obtain ⟨c₂, hfits, hlog⟩ := h
    obtain ⟨hhead, htail⟩ := hreads
    have hstep := hfits e.instr.result (fun _ => rfl) ρ hhead
    change ((step (mk c ρ) (e.label, e.instr.result.toOption)).bind fun s =>
      (labels log).foldlM step s) = _
    rw [hstep]
    exact ih hlog htail

/-- An entry without registers changes the control state only. -/
theorem Sim.idle {ρ₀ : R → V} {log : List (Instr R V)} (h : Sim ρ₀ ρ log) :
    Sim ρ₀ ρ (log ++ [⟨[], none, .nothing⟩]) := by
  have hidle : (⟨[], none, .nothing⟩ : Instr R V).exec ρ = ρ := rfl
  have hfree : ∀ x, (⟨[], none, .nothing⟩ : Instr R V).Avoids x := fun x =>
    ⟨fun p hp => absurd hp List.not_mem_nil, (Option.some_ne_none x).symm⟩
  have hnext := h.commit (fun p hp => absurd hp List.not_mem_nil) fun x _ => hfree x
  rwa [hidle] at hnext

end
end E203.Lib.InOrder
