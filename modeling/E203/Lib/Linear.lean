import E203.Lib.Machine

/-! # Linearizable objects

An object has a state; a command changes it and allows some responses.  A circuit that accepts commands
and gives responses later serves them one at a time, in the order it accepted them.  Nothing here
names a circuit.

* `Serves`: some commands are executed one after another and answered, the rest are pending.
* `Serves.accept`, `Serves.respond`: one more command, one more response; `Serves.convert`: through a
  converter.
* `Serves.of_cycles`: the run of a circuit whose every cycle is such a step.
* `Sole`: the one pending command of a master, with the state that it will find; `Sole.cycle`: a cycle
  answers it or leaves it.
-/

namespace E203.Lib
set_option autoImplicit false

/-- What a command does to the state, and which responses it allows. -/
structure Object (M C R : Type*) where
  exec : C → M → M
  answer : C → M → R → Prop

variable {M C R : Type*} (o : Object M C R)

/-- `Serves m cmds rsps m' pend`: from the state `m` the first of the commands get the responses
`rsps`, which leaves the state `m'` and the commands `pend`. -/
inductive Serves : M → List C → List R → M → List C → Prop
  | done (m : M) (pend : List C) : Serves m pend [] m pend
  | serve {c : C} {r : R} {m m' : M} {cmds pend : List C} {rsps : List R} (hr : o.answer c m r)
      (hrest : Serves (o.exec c m) cmds rsps m' pend) : Serves m (c :: cmds) (r :: rsps) m' pend

variable {o} {m m' : M} {cmds pend acc : List C} {rsps : List R} {c : C} {r : R}

theorem Serves.accept (h : Serves o m cmds rsps m' pend) :
    Serves o m (cmds ++ acc) rsps m' (pend ++ acc) := by
  induction h with
  | done m pend => exact .done m (pend ++ acc)
  | serve hr _ ih => exact .serve hr ih

theorem Serves.respond (h : Serves o m cmds rsps m' (c :: pend)) (hr : o.answer c m' r) :
    Serves o m cmds (rsps ++ [r]) (o.exec c m') pend := by
  generalize hl : c :: pend = l at h
  induction h with
  | done m l =>
    subst hl
    exact .serve hr (.done _ _)
  | serve hr' _ ih => exact .serve hr' (ih hr hl)

/-- Nothing is lost, duplicated or reordered. -/
theorem Serves.length (h : Serves o m cmds rsps m' pend) :
    cmds.length = rsps.length + pend.length := by
  induction h with
  | done m l => exact (Nat.zero_add _).symm
  | serve _ _ ih => simp only [List.length_cons, ih, Nat.succ_add]

/-- What is pending are the commands after those that are answered. -/
theorem Serves.drop (h : Serves o m cmds rsps m' pend) : cmds.drop rsps.length = pend := by
  induction h with
  | done m l => rfl
  | serve _ _ ih => exact ih

/-- An object that is served through another one, with the commands and the responses converted. -/
theorem Serves.convert {C' R' : Type*} {o' : Object M C' R'} {f : C' → C} {g : C' → R → R'}
    (hexec : ∀ c m, o.exec (f c) m = o'.exec c m)
    (hans : ∀ c m r, o.answer (f c) m r → o'.answer c m (g c r)) {cmds : List C'}
    (h : Serves o m (cmds.map f) rsps m' pend) :
    ∃ pend', pend = pend'.map f ∧ Serves o' m cmds (List.zipWith g cmds rsps) m' pend' := by
  generalize hl : cmds.map f = l at h
  induction h generalizing cmds with
  | done m l =>
    rw [List.zipWith_nil_right]
    exact ⟨cmds, hl.symm, .done m cmds⟩
  | serve hr _ ih =>
    obtain _ | ⟨c, cmds⟩ := cmds
    · exact absurd hl.symm (List.cons_ne_nil _ _)
    · obtain ⟨rfl, htail⟩ := List.cons.inj hl
      obtain ⟨pend', hpend, hrest⟩ := ih htail
      rw [hexec] at hrest
      exact ⟨pend', hpend, .serve (hans c _ _ hr) hrest⟩

/-- The oldest pending command is offered one response; nothing else is offered. -/
def Offers (o : Object M C R) (m : M) : List C → List R → Prop
  | [], off => off = []
  | c :: _, off => ∃ r, off = [r] ∧ o.answer c m r

/-- What a cycle does to the state that the answered commands leave and to the pending commands: it
may answer the first of them, and accepts some. -/
inductive Cycle (o : Object M C R) (m : M) (pend acc : List C) : List R → M → List C → Prop
  | wait : Cycle o m pend acc [] m (pend ++ acc)
  | answer {c : C} {r : R} {rest : List C} (hp : pend = c :: rest) (hr : o.answer c m r) :
      Cycle o m pend acc [r] (o.exec c m) (rest ++ acc)

/-- A relation kept by every cycle holds in every run, between the circuit and what is served. -/
theorem Serves.of_cycles {σ : Type*} {st : ℕ → σ} {acc : ℕ → List C} {rsp : ℕ → List R}
    {Rel : σ → M → List C → Prop} (h0 : Rel (st 0) m [])
    (hcycle : ∀ t m pend, Rel (st t) m pend →
      ∃ m' pend', Cycle o m pend (acc t) (rsp t) m' pend' ∧ Rel (st (t + 1)) m' pend') (t : ℕ) :
    ∃ m' pend, Serves o m (emitted acc 0 t) (emitted rsp 0 t) m' pend ∧ Rel (st t) m' pend := by
  induction t with
  | zero =>
    rw [emitted_self, emitted_self]
    exact ⟨m, [], .done m [], h0⟩
  | succ t ih =>
    obtain ⟨m₁, pend, hserved, hrel⟩ := ih
    obtain ⟨m₂, pend', hc, hrel'⟩ := hcycle t m₁ pend hrel
    refine ⟨m₂, pend', ?_, hrel'⟩
    rw [emitted_succ (Nat.zero_le t), emitted_succ (Nat.zero_le t)]
    generalize rsp t = out at hc ⊢
    cases hc with
    | wait =>
      rw [List.append_nil]
      exact hserved.accept
    | answer hp hr =>
      subst hp
      exact Serves.respond hserved.accept hr

/-! ## One master among several -/

/-- The state that some commands leave. -/
def execAll (o : Object M C R) (cmds : List C) (m : M) : M := cmds.foldl (fun m c => o.exec c m) m

theorem execAll_append (l₁ l₂ : List C) (m : M) :
    execAll o (l₁ ++ l₂) m = execAll o l₂ (execAll o l₁ m) := List.foldl_append

/-- Of the pending commands of one master there is this one, or none, with the state that it will
find. -/
def Sole (o : Object M C R) (mine : C → Prop) (m : M) (pend : List C) : Option (C × M) → Prop
  | none => ∀ d ∈ pend, ¬mine d
  | some (c, m₁) => mine c ∧ ∃ pre post, pend = pre ++ c :: post ∧ execAll o pre m = m₁ ∧
      ∀ d ∈ pre ++ post, ¬mine d

section
variable {mine : C → Prop} {own : R → Prop} {x : Option (C × M)} {pend' : List C}

theorem Sole.append (h : Sole o mine m pend x) (hacc : ∀ d ∈ acc, ¬mine d) :
    Sole o mine m (pend ++ acc) x := by
  cases x with
  | none =>
    intro d hd
    exact (List.mem_append.mp hd).elim (h d) (hacc d)
  | some x =>
    obtain ⟨hc, pre, post, rfl, hm, hother⟩ := h
    refine ⟨hc, pre, post ++ acc, by rw [List.append_assoc, List.cons_append], hm, fun d hd => ?_⟩
    rw [← List.append_assoc] at hd
    exact (List.mem_append.mp hd).elim (hother d) (hacc d)

/-- A command that is accepted finds what all before it leave. -/
theorem Sole.accept (h : Sole o mine m pend none) (hc : mine c) (hacc : ∀ d ∈ acc, ¬mine d) :
    Sole o mine m (pend ++ c :: acc) (some (c, execAll o pend m)) := by
  refine ⟨hc, pend, acc, rfl, rfl, fun d hd => ?_⟩
  exact (List.mem_append.mp hd).elim (h d) (hacc d)

/-- The oldest command is the master's when the response is. -/
theorem Sole.head (h : Sole o mine m (c :: pend) x) (hc : mine c) :
    x = some (c, m) ∧ Sole o mine (o.exec c m) pend none := by
  cases x with
  | none => exact absurd hc (h c (List.mem_cons_self ..))
  | some x =>
    obtain ⟨c', m₁⟩ := x
    obtain ⟨-, pre, post, hp, hm, hother⟩ := h
    obtain _ | ⟨d, pre⟩ := pre
    · obtain ⟨rfl, rfl⟩ := List.cons.inj hp
      obtain rfl : m = m₁ := hm
      exact ⟨rfl, fun d hd => hother d hd⟩
    · obtain ⟨rfl, rfl⟩ := List.cons.inj hp
      exact absurd hc (hother c (List.mem_cons_self ..))

theorem Sole.tail (h : Sole o mine m (c :: pend) x) (hc : ¬mine c) :
    Sole o mine (o.exec c m) pend x := by
  cases x with
  | none => exact fun d hd => h d (List.mem_cons_of_mem c hd)
  | some x =>
    obtain ⟨hx, pre, post, hp, hm, hother⟩ := h
    obtain _ | ⟨d, pre⟩ := pre
    · obtain ⟨rfl, rfl⟩ := List.cons.inj hp
      exact absurd hx hc
    · obtain ⟨rfl, rfl⟩ := List.cons.inj hp
      exact ⟨hx, pre, post, rfl, hm, fun d hd => hother d (List.mem_cons_of_mem c hd)⟩

/-- A cycle answers the command of the master, or leaves it where it is. -/
theorem Sole.cycle (h : Sole o mine m pend x) (hc : Cycle o m pend acc rsps m' pend')
    (hown : ∀ c m r, o.answer c m r → (own r ↔ mine c)) :
    ∃ rest, pend' = rest ++ acc ∧ execAll o rest m' = execAll o pend m ∧
      (Sole o mine m' rest x ∧ (∀ r ∈ rsps, ¬own r) ∨
        Sole o mine m' rest none ∧ ∃ c m₁ r, x = some (c, m₁) ∧ rsps = [r] ∧ own r) := by
  cases hc with
  | wait => exact ⟨pend, rfl, rfl, .inl ⟨h, fun r hr => absurd hr (List.not_mem_nil)⟩⟩
  | @answer c r rest hp hr =>
    subst hp
    refine ⟨rest, rfl, rfl, ?_⟩
    by_cases hmine : mine c
    · obtain ⟨hx, hrest⟩ := h.head hmine
      exact .inr ⟨hrest, c, m, r, hx, rfl, (hown c m r hr).mpr hmine⟩
    · refine .inl ⟨h.tail hmine, fun r' hr' => ?_⟩
      rw [List.mem_singleton.mp hr']
      exact fun hr'' => hmine ((hown c m r hr).mp hr'')

/-- What is offered to the master answers its command. -/
theorem Sole.offer {off : List R} (h : Sole o mine m pend x) (hoff : Offers o m pend off)
    (hown : ∀ c m r, o.answer c m r → (own r ↔ mine c)) (hr : r ∈ off) (hmine : own r) :
    ∃ c, x = some (c, m) ∧ o.answer c m r := by
  obtain _ | ⟨c, pend⟩ := pend
  · rw [hoff] at hr
    exact absurd hr (List.not_mem_nil)
  · obtain ⟨r', hoff, hans⟩ := hoff
    rw [hoff, List.mem_singleton] at hr
    rw [← hr] at hans
    exact ⟨c, (h.head ((hown c m r hans).mp hmine)).1, hans⟩

end

/-! ## Runs -/

/-- In every cycle, the responses so far answer the first of the commands accepted so far, and the next
command is offered its response. -/
def Linearizes (o : Object M C R) (m : M) (acc : ℕ → List C) (off rsp : ℕ → List R) : Prop :=
  ∀ t, ∃ m' pend, Serves o m (emitted acc 0 t) (emitted rsp 0 t) m' pend ∧ Offers o m' pend (off t)

/-- If what is offered to a port is taken at some time, every accepted command gets its response. -/
theorem Linearizes.eventually {Q : Type*} {acc : ℕ → List C} {off rsp : ℕ → List R}
    (h : Linearizes o m acc off rsp) (port : C → Q) (ready : ℕ → Q → Prop)
    (htake : ∀ t c m' r, off t = [r] → o.answer c m' r → ready t (port c) → rsp t ≠ [])
    (hfair : ∀ q t, ∃ u, t ≤ u ∧ ready u q) (t : ℕ) :
    ∃ u, t ≤ u ∧ (emitted acc 0 t).length ≤ (emitted rsp 0 u).length := by
  have hmono : ∀ (ev : ℕ → List R) {a b : ℕ}, a ≤ b →
      (emitted ev 0 a).length ≤ (emitted ev 0 b).length := by
    intro ev a b hab
    rw [emitted_append (Nat.zero_le a) hab, List.length_append]
    exact Nat.le_add_right _ _
  have hall : ∀ n, n ≤ (emitted acc 0 t).length → ∃ u, t ≤ u ∧ n ≤ (emitted rsp 0 u).length := by
    intro n
    induction n with
    | zero => exact fun _ => ⟨t, Nat.le_refl t, Nat.zero_le _⟩
    | succ n ih =>
      intro hn
      obtain ⟨u, htu, hu⟩ := ih (by omega)
      -- the command that waits for response `n`, whatever is accepted after it
      obtain ⟨c, hc⟩ : ∃ c, (emitted acc 0 t)[n]? = some c := ⟨_, List.getElem?_eq_getElem hn⟩
      obtain ⟨v, huv, hv⟩ := hfair (port c) u
      refine ⟨v + 1, by omega, ?_⟩
      have hlen := hmono rsp huv
      rw [emitted_succ (Nat.zero_le v), List.length_append]
      obtain ⟨m', pend, hserves, hoff⟩ := h v
      by_contra hless
      have hnv : (emitted rsp 0 v).length = n := by omega
      have hnone : rsp v = [] := List.length_eq_zero_iff.mp (by omega)
      have hhead : pend.head? = some c := by
        rw [← hserves.drop, hnv, List.head?_drop, emitted_append (Nat.zero_le t) (Nat.le_trans htu huv),
          List.getElem?_append_left hn]
        exact hc
      obtain _ | ⟨c', rest⟩ := pend
      · cases hhead
      · obtain rfl : c' = c := Option.some.inj hhead
        obtain ⟨r, hr, hans⟩ := hoff
        exact htake v c' m' r hr hans hv hnone
  exact hall _ (Nat.le_refl _)

end E203.Lib
