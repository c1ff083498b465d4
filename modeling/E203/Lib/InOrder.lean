import Mathlib.Logic.Function.Basic
import Mathlib.Data.List.Basic

/-! # In-order execution with late results

A machine executes instructions over a register file in program order, but the results of some of
them arrive later.  A log lists the instructions with what they read and what they wrote.

* `run ρ log`: the register file after executing the log, one instruction after another.
* `Reads ρ log`: every instruction read what the ones before it leave.
* `complete r log`: the oldest outstanding instruction gets its result.
* `Guarded log`: no instruction touches the destination of an outstanding one before it.
* `Sim`: the relation between a machine and its log, kept by `Sim.commit` and `Sim.retire`.
-/

namespace E203.Lib.InOrder
set_option autoImplicit false

/-- What an instruction has to write. -/
inductive Result (V : Type*)
  | outstanding
  | nothing
  | value (v : V)

/-- An instruction: the registers it read with the values it got, the register it writes. -/
structure Instr (R V : Type*) where
  reads : List (R × V)
  dest : Option R
  result : Result V

/-! ## Logs -/

section
variable {R V : Type*}

/-- The instruction neither reads nor writes `x`. -/
def Instr.Avoids (q : Instr R V) (x : R) : Prop := (∀ p ∈ q.reads, p.1 ≠ x) ∧ q.dest ≠ some x

def Guarded : List (Instr R V) → Prop
  | [] => True
  | q :: log =>
    (∀ x, q.result = .outstanding → q.dest = some x → ∀ q' ∈ log, q'.Avoids x) ∧ Guarded log

/-- The destinations of the outstanding instructions, oldest first. -/
def pending : List (Instr R V) → List (Option R)
  | [] => []
  | q :: log =>
    match q.result with
    | .outstanding => q.dest :: pending log
    | _ => pending log

/-- The oldest outstanding instruction gets its result. -/
def complete (r : Result V) : List (Instr R V) → List (Instr R V)
  | [] => []
  | q :: log =>
    match q.result with
    | .outstanding => { q with result := r } :: log
    | _ => q :: complete r log

variable {log : List (Instr R V)} {q : Instr R V} {r : Result V} {x : R}

theorem pending_append (hq : q.result ≠ .outstanding) : pending (log ++ [q]) = pending log := by
  induction log with
  | nil =>
    cases hr : q.result with
    | outstanding => exact absurd hr hq
    | nothing => simp [pending, hr]
    | value v => simp [pending, hr]
  | cons q' log ih =>
    cases hr : q'.result <;> simp [pending, hr, ih]

theorem pending_append_outstanding (hq : q.result = .outstanding) :
    pending (log ++ [q]) = pending log ++ [q.dest] := by
  induction log with
  | nil => simp [pending, hq]
  | cons q' log ih => cases hr : q'.result <;> simp [pending, hr, ih]

theorem Guarded.append (h : Guarded log) (hq : ∀ x, some x ∈ pending log → q.Avoids x) :
    Guarded (log ++ [q]) := by
  induction log with
  | nil => simp [Guarded]
  | cons q' log ih =>
    obtain ⟨hhead, htail⟩ := h
    constructor
    · intro x hout hdest q'' hmem
      obtain hmem | hmem := List.mem_append.mp hmem
      · exact hhead x hout hdest q'' hmem
      · rw [List.mem_singleton.mp hmem]
        exact hq x (by simp [pending, hout, hdest])
    · refine ih htail fun x hx => hq x ?_
      cases hr : q'.result <;> simp [pending, hr, hx]

theorem pending_complete (hr : r ≠ .outstanding) :
    pending (complete r log) = (pending log).tail := by
  induction log with
  | nil => rfl
  | cons q log ih =>
    cases hq : q.result with
    | outstanding => cases r <;> simp_all [pending, complete]
    | nothing => simp [pending, complete, hq, ih]
    | value v => simp [pending, complete, hq, ih]

theorem avoids_complete (h : ∀ q ∈ log, q.Avoids x) : ∀ q ∈ complete r log, q.Avoids x := by
  induction log with
  | nil => exact h
  | cons q log ih =>
    intro q' hq'
    have htail := ih fun q'' hq'' => h q'' (List.mem_cons_of_mem _ hq'')
    cases hq : q.result <;> simp only [complete, hq, List.mem_cons] at hq'
    case outstanding =>
      obtain rfl | hmem := hq'
      · exact h q List.mem_cons_self
      · exact h q' (List.mem_cons_of_mem _ hmem)
    all_goals
      obtain rfl | hmem := hq'
      · exact h q' List.mem_cons_self
      · exact htail q' hmem

theorem Guarded.complete (h : Guarded log) (hr : r ≠ .outstanding) :
    Guarded (complete r log) := by
  induction log with
  | nil => trivial
  | cons q log ih =>
    obtain ⟨hhead, htail⟩ := h
    cases hq : q.result <;> simp only [InOrder.complete, hq]
    case outstanding => exact ⟨fun x hout => absurd hout hr, htail⟩
    all_goals exact ⟨fun x hout hdest => avoids_complete (hhead x hout hdest), ih htail⟩

end

/-! ## Register files -/

section
variable {R V : Type*} [DecidableEq R]

/-- Executing an instruction; an outstanding one writes nothing yet. -/
def Instr.exec (ρ : R → V) (q : Instr R V) : R → V :=
  match q.dest, q.result with
  | some x, .value v => Function.update ρ x v
  | _, _ => ρ

def run (ρ : R → V) (log : List (Instr R V)) : R → V := log.foldl Instr.exec ρ

def Reads (ρ : R → V) : List (Instr R V) → Prop
  | [] => True
  | q :: log => (∀ p ∈ q.reads, ρ p.1 = p.2) ∧ Reads (q.exec ρ) log

/-- Writing the result of an instruction with destination `d`. -/
def writeBack (ρ : R → V) (d : Option R) (r : Result V) : R → V := (Instr.mk [] d r).exec ρ

variable {ρ : R → V} {log : List (Instr R V)} {q : Instr R V} {r : Result V} {x : R} {v : V}

theorem run_append : run ρ (log ++ [q]) = q.exec (run ρ log) := by simp [run, List.foldl_append]

theorem reads_append :
    Reads ρ (log ++ [q]) ↔ Reads ρ log ∧ ∀ p ∈ q.reads, run ρ log p.1 = p.2 := by
  induction log generalizing ρ with
  | nil => simp [Reads, run]
  | cons q' log ih =>
    simp only [List.cons_append, Reads, ih, and_assoc]
    rfl

/-! ## A late result -/

theorem exec_update (h : q.Avoids x) :
    q.exec (Function.update ρ x v) = Function.update (q.exec ρ) x v := by
  have hdest := h.2
  unfold Instr.exec
  split
  · next y w hy hw =>
    rw [hy] at hdest
    exact Function.update_comm (fun hxy => hdest (by rw [hxy])) _ _ _
  · rfl

/-- Writing a register that the log does not touch may come before or after it. -/
theorem run_update (h : ∀ q ∈ log, q.Avoids x) :
    run (Function.update ρ x v) log = Function.update (run ρ log) x v := by
  induction log generalizing ρ with
  | nil => rfl
  | cons q log ih =>
    change run (q.exec (Function.update ρ x v)) log = Function.update (run (q.exec ρ) log) x v
    rw [exec_update (h q List.mem_cons_self), ih fun q' hq' => h q' (List.mem_cons_of_mem _ hq')]

theorem reads_update (h : ∀ q ∈ log, q.Avoids x) (hreads : Reads ρ log) :
    Reads (Function.update ρ x v) log := by
  induction log generalizing ρ with
  | nil => trivial
  | cons q log ih =>
    obtain ⟨hhead, htail⟩ := hreads
    have hq := h q List.mem_cons_self
    constructor
    · intro p hp
      rw [Function.update_of_ne (hq.1 p hp)]
      exact hhead p hp
    · rw [exec_update hq]
      exact ih (fun q' hq' => h q' (List.mem_cons_of_mem _ hq')) htail

/-- The late result of the oldest outstanding instruction is written as if in order. -/
theorem run_complete (h : Guarded log) {d : Option R} (hd : (pending log).head? = some d) :
    run ρ (complete r log) = writeBack (run ρ log) d r := by
  induction log generalizing ρ with
  | nil => cases hd
  | cons q log ih =>
    obtain ⟨hhead, htail⟩ := h
    cases hq : q.result with
    | outstanding =>
      obtain rfl : q.dest = d := by simpa [pending, hq] using hd
      simp only [complete, hq]
      have hold : q.exec ρ = ρ := by simp [Instr.exec, hq]
      change run (Instr.exec ρ { q with result := r }) log = writeBack (run (q.exec ρ) log) q.dest r
      rw [hold]
      cases hdest : q.dest with
      | none => simp [writeBack, Instr.exec]
      | some x =>
        cases r with
        | value v => simpa [writeBack, Instr.exec, hdest] using run_update (hhead x hq hdest)
        | outstanding => simp [writeBack, Instr.exec]
        | nothing => simp [writeBack, Instr.exec]
    | nothing => simpa [complete, hq, run] using ih htail (by simpa [pending, hq] using hd)
    | value v => simpa [complete, hq, run] using ih htail (by simpa [pending, hq] using hd)

theorem reads_complete (h : Guarded log) (hreads : Reads ρ log) : Reads ρ (complete r log) := by
  induction log generalizing ρ with
  | nil => trivial
  | cons q log ih =>
    obtain ⟨hhead, htail⟩ := h
    obtain ⟨hread, hrest⟩ := hreads
    cases hq : q.result with
    | outstanding =>
      simp only [complete, hq]
      have hold : q.exec ρ = ρ := by simp [Instr.exec, hq]
      rw [hold] at hrest
      refine ⟨hread, ?_⟩
      cases hdest : q.dest with
      | none => simpa [Instr.exec, hdest] using hrest
      | some x =>
        cases r with
        | value v => simpa [Instr.exec, hdest] using reads_update (hhead x hq hdest) hrest
        | outstanding => simpa [Instr.exec, hdest] using hrest
        | nothing => simpa [Instr.exec, hdest] using hrest
    | nothing =>
      simp only [complete, hq]
      exact ⟨hread, ih htail hrest⟩
    | value v =>
      simp only [complete, hq]
      exact ⟨hread, ih htail hrest⟩

/-! ## The machine and its log -/

/-- The register file `ρ` of the machine is that of executing the log from `ρ₀` in order. -/
structure Sim (ρ₀ ρ : R → V) (log : List (Instr R V)) : Prop where
  run : ρ = run ρ₀ log
  reads : Reads ρ₀ log
  guarded : Guarded log

variable {ρ₀ : R → V}

theorem Sim.init : Sim ρ₀ ρ₀ ([] : List (Instr R V)) := ⟨rfl, trivial, trivial⟩

/-- An instruction that touches no pending destination is appended. -/
theorem Sim.commit (h : Sim ρ₀ ρ log) (hread : ∀ p ∈ q.reads, ρ p.1 = p.2)
    (hq : ∀ x, some x ∈ pending log → q.Avoids x) : Sim ρ₀ (q.exec ρ) (log ++ [q]) where
  run := by rw [run_append, ← h.run]
  reads := by
    rw [reads_append, ← h.run]
    exact ⟨h.reads, hread⟩
  guarded := h.guarded.append hq

/-- The result of the oldest outstanding instruction is written back. -/
theorem Sim.retire (h : Sim ρ₀ ρ log) {d : Option R} (hd : (pending log).head? = some d)
    (hr : r ≠ .outstanding) : Sim ρ₀ (writeBack ρ d r) (complete r log) where
  run := by rw [run_complete h.guarded hd, ← h.run]
  reads := reads_complete h.guarded h.reads
  guarded := h.guarded.complete hr

end
end E203.Lib.InOrder
