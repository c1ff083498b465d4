import Mathlib.Order.Basic

/-! # Synchronous machines and their runs

A synchronous circuit is a step function: the inputs sampled in a cycle and the register state
before the clock edge give the register state after it.  Nothing here names a circuit.

* `stateAt step inp s t`: the state after `t` cycles of the input stream `inp`, from `s`.
* `invariant_stateAt`: what holds at the start and is kept by every cycle holds throughout.
* `emitted ev a t`: what the cycles from `a` to `t` emit, in order.
* `Since p q`: what has held since an event, one cycle at a time.
* `exists_run`: a relation that each cycle continues gives a run of what it relates to.
* `exists_last`, `exists_meeting`: what ends does so in one step, and progress from a state that waits
  for an event.
-/

namespace E203.Lib
set_option autoImplicit false

section Runs
variable {ι σ : Type*} (step : ι → σ → σ)

/-- The register state after `t` cycles of the input stream `inp`. -/
def stateAt (inp : ℕ → ι) (s : σ) : ℕ → σ
  | 0 => s
  | t + 1 => step (inp t) (stateAt inp s t)

@[simp] theorem stateAt_zero (inp : ℕ → ι) (s : σ) : stateAt step inp s 0 = s := rfl

/-- An invariant along one input stream: it holds at the start and every cycle before `n`
keeps it. -/
theorem invariant_stateAt {inp : ℕ → ι} {s : σ} {I : ℕ → σ → Prop} (n : ℕ) (h0 : I 0 s)
    (hstep : ∀ t < n, I t (stateAt step inp s t) → I (t + 1) (stateAt step inp s (t + 1))) :
    I n (stateAt step inp s n) := by
  induction n with
  | zero => exact h0
  | succ n ih =>
    have hn := ih (fun t ht => hstep t (Nat.lt_succ_of_lt ht))
    exact hstep n (Nat.lt_succ_self n) hn

end Runs

/-! ## What a run emits -/

section Emitted
variable {α : Type*} (ev : ℕ → List α)

/-- What is emitted in the cycles from `a` on, before `t`. -/
def emitted (a t : ℕ) : List α := (List.range' a (t - a)).flatMap ev

variable {ev} {a t : ℕ}

theorem emitted_self : emitted ev a a = [] := by
  rw [emitted, Nat.sub_self]
  rfl

theorem emitted_succ (h : a ≤ t) : emitted ev a (t + 1) = emitted ev a t ++ ev t := by
  have hlen : t + 1 - a = t - a + 1 := by omega
  have hlast : a + (t - a) = t := by omega
  rw [emitted, hlen, List.range'_1_concat, List.flatMap_append, hlast, List.flatMap_singleton]
  rfl

theorem emitted_append {b c : ℕ} (hab : a ≤ b) (hbc : b ≤ c) :
    emitted ev a c = emitted ev a b ++ emitted ev b c := by
  induction hbc with
  | refl => rw [emitted_self, List.append_nil]
  | step hbc ih => rw [emitted_succ (Nat.le_trans hab hbc), ih, emitted_succ hbc, List.append_assoc]

theorem emitted_map {β : Type*} (f : α → β) :
    emitted (fun t => (ev t).map f) a t = (emitted ev a t).map f := by
  rw [emitted, emitted, List.map_flatMap]

theorem mem_emitted {x : α} (h : a ≤ t) :
    x ∈ emitted ev a t ↔ ∃ u, a ≤ u ∧ u < t ∧ x ∈ ev u := by
  simp only [emitted, List.mem_flatMap, List.mem_range'_1, Nat.add_sub_cancel' h, and_assoc]

/-- The last thing emitted before `t`, `d` if there is none. -/
def lastEmitted (ev : ℕ → List α) (d : α) (t : ℕ) : α := (emitted ev 0 t).getLast?.getD d

theorem lastEmitted_succ (d : α) (t : ℕ) :
    lastEmitted ev d (t + 1) = (ev t).getLast?.getD (lastEmitted ev d t) := by
  rw [lastEmitted, emitted_succ (Nat.zero_le t), List.getLast?_append, lastEmitted]
  cases (ev t).getLast? <;> simp

end Emitted

/-! ## What has held since an event -/

/-- `p` was the case before `t`, and `q` has been in every cycle since. -/
def Since (p q : ℕ → Prop) (t : ℕ) : Prop := ∃ u, u < t ∧ p u ∧ ∀ v, u < v → v < t → q v

theorem not_since_zero {p q : ℕ → Prop} : ¬Since p q 0 := by
  rintro ⟨u, hu, -⟩
  exact absurd hu (Nat.not_lt_zero u)

theorem since_succ {p q : ℕ → Prop} {t : ℕ} : Since p q (t + 1) ↔ p t ∨ (Since p q t ∧ q t) := by
  constructor
  · rintro ⟨u, hu, hp, hq⟩
    obtain hlt | rfl := Nat.lt_succ_iff_lt_or_eq.mp hu
    · exact .inr ⟨⟨u, hlt, hp, fun v h1 h2 => hq v h1 (by omega)⟩, hq t hlt (by omega)⟩
    · exact .inl hp
  · rintro (hp | ⟨⟨u, hu, hp, hq⟩, ht⟩)
    · exact ⟨t, by omega, hp, fun v h1 h2 => by omega⟩
    · refine ⟨u, by omega, hp, fun v h1 h2 => ?_⟩
      obtain hlt | rfl := Nat.lt_succ_iff_lt_or_eq.mp h2
      · exact hq v h1 hlt
      · exact ht

/-- What holds at `a` and not at `b` ends in between. -/
theorem exists_last {p : ℕ → Prop} {a b : ℕ} (hab : a ≤ b) (ha : p a) (hb : ¬p b) :
    ∃ v, a ≤ v ∧ v < b ∧ p v ∧ ¬p (v + 1) := by
  by_contra hno
  have hall : ∀ n, a + n ≤ b → p (a + n) := by
    intro n
    induction n with
    | zero => exact fun _ => ha
    | succ n ih =>
      intro hn
      by_contra hnext
      exact hno ⟨a + n, by omega, by omega, ih (by omega), hnext⟩
  have hpb := hall (b - a) (by omega)
  rw [Nat.add_sub_cancel' hab] at hpb
  exact hb hpb

/-- What stays until an event that comes meets it. -/
theorem exists_meeting {p e : ℕ → Prop} {t : ℕ} (hp : p t)
    (hstay : ∀ u, t ≤ u → p u → ¬e u → p (u + 1)) (he : ∃ u, t ≤ u ∧ e u) :
    ∃ u, t ≤ u ∧ p u ∧ e u := by
  classical
  by_contra hno
  have hall : ∀ n, p (t + n) := by
    intro n
    induction n with
    | zero => exact hp
    | succ n ih => exact hstay _ (Nat.le_add_right t n) ih fun hev => hno ⟨_, by omega, ih, hev⟩
  obtain ⟨u, hu, hev⟩ := he
  have hpu := hall (u - t)
  rw [Nat.add_sub_cancel' hu] at hpu
  exact hno ⟨u, hu, hpu, hev⟩

/-- A count that goes up with an event that comes again and again, and stays otherwise, gets to `K`. -/
theorem count_up {A : ℕ → ℕ → Prop} {e : ℕ → Prop} {K t : ℕ} (he : ∀ u, ∃ v, u ≤ v ∧ e v)
    (hstay : ∀ k u, t ≤ u → k < K → A k u → ¬e u → A k (u + 1))
    (hup : ∀ k u, t ≤ u → k < K → A k u → e u → A (k + 1) (u + 1)) {k u : ℕ} (htu : t ≤ u)
    (hk : k ≤ K) (h : A k u) : ∃ v, u ≤ v ∧ A K v := by
  obtain ⟨n, hn⟩ := Nat.exists_eq_add_of_le hk
  induction n generalizing k u with
  | zero =>
    obtain rfl : K = k := hn
    exact ⟨u, Nat.le_refl u, h⟩
  | succ n ih =>
    obtain ⟨v, huv, hv, hev⟩ := exists_meeting h
      (fun w huw => hstay k w (Nat.le_trans htu huw) (by omega)) (he u)
    obtain ⟨w, hvw, hw⟩ := ih (by omega) (by omega) (hup k v (by omega) (by omega) hv hev) (by omega)
    exact ⟨w, by omega, hw⟩

/-- Where every cycle can be followed, there is a run that follows all of them. -/
theorem exists_run {σ : Type*} {I : ℕ → σ → Prop} {R : ℕ → σ → σ → Prop} {x₀ : σ} (h0 : I 0 x₀)
    (hstep : ∀ t x, I t x → ∃ y, R t x y ∧ I (t + 1) y) :
    ∃ f : ℕ → σ, f 0 = x₀ ∧ ∀ t, I t (f t) ∧ R t (f t) (f (t + 1)) := by
  let f : (t : ℕ) → {x : σ // I t x} := fun t =>
    Nat.rec ⟨x₀, h0⟩ (fun t x => ⟨(hstep t x.1 x.2).choose, (hstep t x.1 x.2).choose_spec.2⟩) t
  exact ⟨fun t => (f t).1, rfl, fun t => ⟨(f t).2, (hstep t (f t).1 (f t).2).choose_spec.1⟩⟩

end E203.Lib
