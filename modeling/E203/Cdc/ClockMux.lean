import E203.Rtl.Gfcm

/-! # The two enables of the clock mux

The request for one clock waits for the last stage of the other clock's register, but the enable is
taken a stage earlier.  A one that has not come to the last stage is therefore not waited for, and the
other clock's request can enter beside it.

* `Open`: the first two stages, from the request on its way to the enable.
* `Crosses`: a request enters beside one that is not waited for.
* `shut_step`: without such an event one of the registers has its first two stages clear.
* `enables_of_open`: after such an event at most one edge of each clock turns both enables on.
-/

namespace E203.Gfcm
set_option autoImplicit false

/-! ## The stages of a register -/

section
variable (r : BitVec SYNC_LEVEL) (x : Bool)

theorem shift_zero : (shift r x).getLsbD 0 = x := by
  rw [shift, BitVec.getLsbD_append, if_pos Nat.one_pos, BitVec.getLsbD_ofBool]
  rfl

theorem shift_one : (shift r x).getLsbD 1 = r.getLsbD 0 := by
  rw [shift, BitVec.getLsbD_append, if_neg (Nat.lt_irrefl 1), BitVec.getLsbD_extractLsb']
  rfl

end

/-- A register holds a one in its first two stages: its clock is on, or will be at its next edge. -/
def Open (r : BitVec SYNC_LEVEL) : Bool := r.getLsbD 0 || r.getLsbD 1

/-- With `rise`, its own edge, a one in the second stage leaves for the last. -/
def Stays (r : BitVec SYNC_LEVEL) (rise : Bool) : Bool := r.getLsbD 0 || (r.getLsbD 1 && !rise)

/-- A clock takes its request in while the other's register holds a one that stays in its first two
stages. -/
def Crosses (e : Event) (s : State) : Prop :=
  (e.clk0 ∧ clk0SyncIn s e ∧ Stays s.clk1SyncR e.clk1) ∨
  (e.clk1 ∧ clk1SyncIn s e ∧ Stays s.clk0SyncR e.clk0)

instance (e : Event) (s : State) : Decidable (Crosses e s) := inferInstanceAs (Decidable (_ ∨ _))

/-- None of the events, one after the other from `s`, lets a request cross. -/
def Clean : State → List Event → Prop
  | _, [] => True
  | s, e :: es => ¬Crosses e s ∧ Clean (step e s) es

instance decidableClean : (s : State) → (es : List Event) → Decidable (Clean s es)
  | _, [] => inferInstanceAs (Decidable True)
  | s, e :: es =>
    have := decidableClean (step e s) es
    inferInstanceAs (Decidable (¬Crosses e s ∧ Clean (step e s) es))

/-- One of the two registers is shut. -/
def Shut (s : State) : Prop := Open s.clk0SyncR = false ∨ Open s.clk1SyncR = false

theorem Shut.enables {s : State} (h : Shut s) : ¬(clk0GateEn s ∧ clk1GateEn s) := by
  rintro ⟨h0, h1⟩
  rw [clk0GateEn] at h0
  rw [clk1GateEn] at h1
  rcases h with h | h
  · rw [Open, h0, Bool.or_true] at h
    exact Bool.noConfusion h
  · rw [Open, h1, Bool.or_true] at h
    exact Bool.noConfusion h

/-- What the first two stages hold after an event: what stayed, or the request that entered. -/
theorem open_step (r : BitVec SYNC_LEVEL) (rise x : Bool) :
    Open (if rise then shift r x else r) = (Stays r rise || (rise && x)) := by
  cases rise with
  | false => simp [Open, Stays]
  | true =>
    rw [if_pos rfl, Open, Stays, shift_zero, shift_one, Bool.not_true, Bool.and_false, Bool.or_false,
      Bool.true_and, Bool.or_comm]

theorem not_both_requests (s : State) (e : Event) : ¬(clk0SyncIn s e ∧ clk1SyncIn s e) := by
  cases hsel : e.sel1 <;> simp [clk0SyncIn, clk1SyncIn, clk0Sel, clk1Sel, hsel]

theorem stays_of_shut {r : BitVec SYNC_LEVEL} (h : Open r = false) (rise : Bool) :
    Stays r rise = false := by
  obtain ⟨h0, h1⟩ := Bool.or_eq_false_iff.mp h
  rw [Stays, h0, h1]
  rfl

theorem shut_step {s : State} {e : Event} (h : Shut s) (hno : ¬Crosses e s) : Shut (step e s) := by
  have hreq := not_both_requests s e
  have h0 : Open (step e s).clk0SyncR = _ := open_step s.clk0SyncR e.clk0 (clk0SyncIn s e)
  have h1 : Open (step e s).clk1SyncR = _ := open_step s.clk1SyncR e.clk1 (clk1SyncIn s e)
  rw [Shut, h0, h1]
  rw [Crosses] at hno
  -- a register that was shut opens only by its own request, and then the other's ones have left
  rcases h with h | h
  · rw [stays_of_shut h] at hno ⊢
    grind
  · rw [stays_of_shut h] at hno ⊢
    grind

theorem shut_run {s : State} {es : List Event} (h : Shut s) (hes : Clean s es) :
    Shut (es.foldl (fun s e => step e s) s) := by
  induction es generalizing s with
  | nil => exact h
  | cons e es ih => exact ih (shut_step h hes.1) hes.2

/-! ## A request that crosses -/

/-- An edge of one clock alone. -/
def edge0 : Event := ⟨false, true, false⟩
def edge1 : Event := ⟨false, false, true⟩

/-- With both registers open, at most one edge of each clock turns both enables on. -/
theorem enables_of_open {s : State} (h0 : Open s.clk0SyncR) (h1 : Open s.clk1SyncR) :
    ∃ es : List Event, clk0GateEn (es.foldl (fun s e => step e s) s) ∧
      clk1GateEn (es.foldl (fun s e => step e s) s) := by
  rw [Open] at h0 h1
  cases hen0 : s.clk0SyncR.getLsbD 1 with
  | true =>
    cases hen1 : s.clk1SyncR.getLsbD 1 with
    | true => exact ⟨[], hen0, hen1⟩
    | false =>
      rw [hen1, Bool.or_false] at h1
      exact ⟨[edge1], hen0, (shift_one _ _).trans h1⟩
  | false =>
    rw [hen0, Bool.or_false] at h0
    cases hen1 : s.clk1SyncR.getLsbD 1 with
    | true => exact ⟨[edge0], (shift_one _ _).trans h0, hen1⟩
    | false =>
      rw [hen1, Bool.or_false] at h1
      exact ⟨[edge0, edge1], (shift_one _ _).trans h0, (shift_one _ _).trans h1⟩

theorem open_of_crosses {s : State} {e : Event} (h : Crosses e s) :
    Open (step e s).clk0SyncR ∧ Open (step e s).clk1SyncR := by
  have h0 : Open (step e s).clk0SyncR = _ := open_step s.clk0SyncR e.clk0 (clk0SyncIn s e)
  have h1 : Open (step e s).clk1SyncR = _ := open_step s.clk1SyncR e.clk1 (clk1SyncIn s e)
  rw [h0, h1]
  rcases h with ⟨hclk, hin, hstays⟩ | ⟨hclk, hin, hstays⟩
  · rw [hclk] at *
    simp [hin, hstays]
  · rw [hclk] at *
    simp [hin, hstays]

theorem run_append (es es' : List Event) :
    run (es ++ es') = es'.foldl (fun s e => step e s) (run es) := by
  rw [run, List.foldl_append, run]

/-! ## Over every run -/

/-- In a run none of whose events lets a request cross, the two enables are never on together; and an
event that lets one cross, after whatever run, has a continuation that turns both on. -/
theorem enables_exclusive (es : List Event) :
    (Clean reset es → ¬(clk0GateEn (run es) ∧ clk1GateEn (run es))) ∧
    ∀ e, Crosses e (run es) →
      ∃ es', clk0GateEn (run (es ++ e :: es')) ∧ clk1GateEn (run (es ++ e :: es')) := by
  constructor
  · intro hes
    have hreset : Shut reset := .inl rfl
    exact (shut_run hreset hes).enables
  · intro e hcross
    obtain ⟨h0, h1⟩ := open_of_crosses hcross
    obtain ⟨es', hboth⟩ := enables_of_open h0 h1
    refine ⟨es', ?_⟩
    rw [run_append]
    exact hboth

/-- The select input changes back and forth, each time after the clock that was left has stopped. -/
def switchAndBack : List Event :=
  [⟨false, true, false⟩, ⟨false, true, false⟩, ⟨false, true, true⟩, ⟨true, true, true⟩,
   ⟨true, true, false⟩, ⟨true, true, false⟩, ⟨true, false, true⟩, ⟨true, true, true⟩,
   ⟨false, false, true⟩, ⟨false, true, true⟩, ⟨false, true, true⟩, ⟨false, true, true⟩]

theorem enables_exclusive_switchAndBack :
    Clean reset switchAndBack ∧
      ¬(clk0GateEn (run switchAndBack) ∧ clk1GateEn (run switchAndBack)) ∧
      Crosses ⟨true, false, true⟩ (run [edge0]) ∧
      ∃ es', clk0GateEn (run ([edge0] ++ ⟨true, false, true⟩ :: es')) ∧
        clk1GateEn (run ([edge0] ++ ⟨true, false, true⟩ :: es')) :=
  ⟨by decide +kernel, (enables_exclusive switchAndBack).1 (by decide +kernel), by decide +kernel,
    (enables_exclusive [edge0]).2 ⟨true, false, true⟩ (by decide +kernel)⟩

/-- The select input changes one edge after reset: both requests are on their way, and an edge of each
clock turns both enables on. -/
theorem early_select_opens_both :
    ¬∀ es, ¬(clk0GateEn (run es) ∧ clk1GateEn (run es)) := by
  intro h
  exact h [⟨false, true, false⟩, ⟨true, false, true⟩, ⟨true, true, false⟩, ⟨true, false, true⟩]
    (by decide +kernel)

end E203.Gfcm
