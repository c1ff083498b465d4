import E203.Lib.Machine
import Mathlib.Data.Nat.Find

/-! # Channels

A channel takes entries in and hands them out again in order.  In each cycle it accepts some entries
and delivers some; what it has accepted and not delivered is pending.  Nothing here names a circuit.

* `Conserves`: one cycle appends what it accepts to what is pending and delivers from the front.
* `Conserves.emitted_eq`: over a run nothing is lost, duplicated or reordered.
* `Conserves.trans`: two channels in a row.
* `Conserves.zip_eq`: deliveries to the owners of the entries.
* `backlog`: what is accepted and not delivered, from the events alone; `conserves_of_cycle`.
* `Passes`: at most so many entries are pending.
* `answered`: a single pending entry waits for its answer and is delivered once.
-/

namespace E203.Lib
set_option autoImplicit false

section
variable {α : Type*}

/-- What is accepted and delivered in each cycle, and what is pending before it. -/
structure Conserves (acc del pend : ℕ → List α) : Prop where
  start : pend 0 = []
  cycle : ∀ t, pend t ++ acc t = del t ++ pend (t + 1)

variable {acc del pend : ℕ → List α} {t : ℕ}

theorem Conserves.emitted_eq (h : Conserves acc del pend) (t : ℕ) :
    emitted acc 0 t = emitted del 0 t ++ pend t := by
  induction t with
  | zero =>
    rw [emitted_self, emitted_self, h.start]
    rfl
  | succ t ih =>
    rw [emitted_succ (Nat.zero_le t), emitted_succ (Nat.zero_le t), ih, List.append_assoc, h.cycle,
      List.append_assoc]

/-- What has been delivered is what was accepted first. -/
theorem Conserves.isPrefix (h : Conserves acc del pend) (t : ℕ) :
    emitted del 0 t <+: emitted acc 0 t := by
  rw [h.emitted_eq t]
  exact List.prefix_append _ _

/-- The entries of one kind are conserved, too. -/
theorem Conserves.filter (h : Conserves acc del pend) (p : α → Bool) :
    Conserves (fun t => (acc t).filter p) (fun t => (del t).filter p)
      fun t => (pend t).filter p where
  start := by rw [h.start, List.filter_nil]
  cycle t := by rw [← List.filter_append, ← List.filter_append, h.cycle]

/-- Two channels in a row are a channel. -/
theorem Conserves.trans {mid pend' : ℕ → List α} (h : Conserves acc mid pend)
    (h' : Conserves mid del pend') : Conserves acc del fun t => pend' t ++ pend t where
  start := by rw [h.start, h'.start, List.append_nil]
  cycle t := by rw [List.append_assoc, h.cycle, ← List.append_assoc, h'.cycle, List.append_assoc]

/-- Each delivery goes to the owner of the oldest entry: the `k`-th one to the `k`-th owner. -/
theorem Conserves.zip_eq {β : Type*} {own : ℕ → List α} {ans : ℕ → List β} {out : ℕ → List (α × β)}
    (h : Conserves own (fun t => (out t).map Prod.fst) pend) (hans : ∀ t, (out t).map Prod.snd = ans t)
    (t : ℕ) : emitted out 0 t = (emitted own 0 t).zip (emitted ans 0 t) := by
  have hsnd : ans = fun t => (out t).map Prod.snd := funext fun t => (hans t).symm
  rw [h.emitted_eq t, hsnd, emitted_map, emitted_map]
  induction emitted out 0 t with
  | nil => simp
  | cons x out ih =>
    rw [List.map_cons, List.map_cons, List.cons_append, List.zip_cons_cons, ← ih]

/-- What waits before cycle `t`, where each delivery is for the oldest entry. -/
def backlog {β : Type*} (acc : ℕ → List α) (del : ℕ → List β) (t : ℕ) : List α :=
  (emitted acc 0 t).drop (emitted del 0 t).length

/-- What is pending is what waits. -/
theorem Conserves.backlog_eq (h : Conserves acc del pend) (t : ℕ) : backlog acc del t = pend t := by
  rw [backlog, h.emitted_eq, List.drop_left]

/-- What every cycle can continue, accepting at the end and delivering from the front, is what waits. -/
theorem conserves_of_cycle {I : ℕ → List α → Prop} (h0 : I 0 [])
    (hcycle : ∀ t l, I t l → ∃ l', I (t + 1) l' ∧ l ++ acc t = del t ++ l') :
    Conserves acc del (backlog acc del) ∧ ∀ t, I t (backlog acc del t) := by
  obtain ⟨pend, hzero, hrun⟩ := exists_run (R := fun t l l' => l ++ acc t = del t ++ l') h0
    fun t l hl => by
      obtain ⟨l', hl', heq⟩ := hcycle t l hl
      exact ⟨l', heq, hl'⟩
  have hcon : Conserves acc del pend := ⟨hzero, fun t => (hrun t).2⟩
  have hpend : backlog acc del = pend := funext hcon.backlog_eq
  rw [hpend]
  exact ⟨hcon, fun t => (hrun t).1⟩

/-- No more is delivered than accepted. -/
theorem Conserves.length_le (h : Conserves acc del pend) (t : ℕ) :
    (emitted del 0 t).length ≤ (emitted acc 0 t).length := (h.isPrefix t).length_le

/-- What has passed is what entered first, but for at most `cap` entries. -/
def Passes (cap : ℕ) (enter leave : ℕ → List α) (t : ℕ) : Prop :=
  ∃ pend, emitted enter 0 t = emitted leave 0 t ++ pend ∧ pend.length ≤ cap

theorem Passes.length_le {cap : ℕ} {enter leave : ℕ → List α} (h : Passes cap enter leave t) :
    (emitted leave 0 t).length ≤ (emitted enter 0 t).length := by
  obtain ⟨pend, heq, -⟩ := h
  rw [heq, List.length_append]
  exact Nat.le_add_right _ _

theorem Passes.map {β : Type*} {cap : ℕ} {enter leave : ℕ → List α} (h : Passes cap enter leave t)
    (f : α → β) : Passes cap (fun t => (enter t).map f) (fun t => (leave t).map f) t := by
  obtain ⟨pend, heq, hcap⟩ := h
  refine ⟨pend.map f, ?_, ?_⟩
  · rw [emitted_map, emitted_map, heq, List.map_append]
  · rw [List.length_map]
    exact hcap

theorem backlog_succ {β : Type*} {out : ℕ → List β}
    (hle : (emitted out 0 t).length ≤ (emitted acc 0 t).length) :
    backlog acc out (t + 1) = (backlog acc out t ++ acc t).drop (out t).length := by
  rw [backlog, backlog, emitted_succ (Nat.zero_le t), emitted_succ (Nat.zero_le t),
    List.length_append, ← List.drop_drop, List.drop_append_of_le_length hle]

theorem backlog_ne_nil {β : Type*} {out : ℕ → List β}
    (h : (emitted out 0 t).length < (emitted acc 0 t).length) : backlog acc out t ≠ [] := by
  intro hnil
  have hlen := congrArg List.length hnil
  rw [backlog, List.length_drop, List.length_nil] at hlen
  omega

theorem zipWith_append_left {β γ : Type*} (f : α → β → γ) {l : List α} (l' : List α) {r : List β}
    (h : r.length ≤ l.length) : List.zipWith f (l ++ l') r = List.zipWith f l r := by
  induction r generalizing l with
  | nil => rw [List.zipWith_nil_right, List.zipWith_nil_right]
  | cons y r ih =>
    obtain _ | ⟨x, l⟩ := l
    · exact absurd h (Nat.not_succ_le_zero _)
    · rw [List.cons_append, List.zipWith_cons_cons, List.zipWith_cons_cons,
        ih (Nat.le_of_succ_le_succ h)]

/-- Each answer goes with the oldest entry that waits, and so the `k`-th one with the `k`-th entry. -/
theorem emitted_zipWith {β γ : Type*} {ans : ℕ → List β} {out : ℕ → List γ} {f : α → β → γ}
    (hlen : ∀ t, (ans t).length ≤ (backlog acc ans t).length)
    (hout : ∀ t, out t = List.zipWith f (backlog acc ans t) (ans t)) (t : ℕ) :
    (emitted ans 0 t).length ≤ (emitted acc 0 t).length ∧
      emitted out 0 t = List.zipWith f (emitted acc 0 t) (emitted ans 0 t) := by
  induction t with
  | zero => exact ⟨Nat.le_refl _, rfl⟩
  | succ t ih =>
    obtain ⟨hle, hemit⟩ := ih
    have hroom := hlen t
    have hpair := hout t
    rw [backlog] at hpair hroom
    rw [emitted_succ (Nat.zero_le t), emitted_succ (Nat.zero_le t), emitted_succ (Nat.zero_le t),
      hemit, hpair]
    have hsplit : emitted acc 0 t = (emitted acc 0 t).take (emitted ans 0 t).length ++
        (emitted acc 0 t).drop (emitted ans 0 t).length := (List.take_append_drop _ _).symm
    generalize (emitted acc 0 t).drop (emitted ans 0 t).length = late at hsplit hroom ⊢
    have hearly : ((emitted acc 0 t).take (emitted ans 0 t).length).length =
        (emitted ans 0 t).length := List.length_take_of_le hle
    generalize (emitted acc 0 t).take (emitted ans 0 t).length = early at hsplit hearly
    rw [hsplit]
    constructor
    · rw [List.length_append, List.length_append, List.length_append]
      omega
    · rw [List.append_assoc, List.zipWith_append hearly, zipWith_append_left f _ (Nat.le_of_eq hearly.symm),
        zipWith_append_left f _ hroom]

/-- With room for one entry, what is accepted is delivered in the first cycle with an answer. -/
theorem answered (h : Conserves acc del pend) {x : α} {ans : ℕ → Prop} (hx : pend (t + 1) = [x])
    (hone : ∀ u, pend u = [x] → ¬ans u → acc u = [] ∧ del u = [])
    (hans : ∀ u, pend u = [x] → ans u → del u = [x]) (hev : ∃ u, t < u ∧ ans u) :
    ∃ u, t < u ∧ del u = [x] ∧ ∀ v, t < v → v < u → acc v = [] ∧ del v = [] := by
  classical
  have hstay : ∀ n, (∀ v, t < v → v < t + 1 + n → ¬ans v) → pend (t + 1 + n) = [x] := by
    intro n
    induction n with
    | zero => exact fun _ => hx
    | succ n ih =>
      intro hno
      have hn := ih fun v h1 h2 => hno v h1 (by omega)
      obtain ⟨hacc, hdel⟩ := hone _ hn (hno _ (by omega) (by omega))
      have hcyc := h.cycle (t + 1 + n)
      rw [hacc, hdel, hn] at hcyc
      exact hcyc.symm
  obtain ⟨htu, hu⟩ := Nat.find_spec hev
  have hmin : ∀ v, t < v → v < Nat.find hev → ¬ans v := fun v htv hv hav =>
    Nat.find_min hev hv ⟨htv, hav⟩
  obtain ⟨n, hn⟩ := Nat.exists_eq_add_of_le (show t + 1 ≤ Nat.find hev from htu)
  refine ⟨Nat.find hev, htu, ?_, fun v htv hv => ?_⟩
  · refine hans _ ?_ hu
    rw [hn]
    exact hstay n fun v h1 h2 => hmin v h1 (by omega)
  · obtain ⟨k, rfl⟩ := Nat.exists_eq_add_of_le (show t + 1 ≤ v from htv)
    have hk := hstay k fun w h1 h2 => hmin w h1 (by omega)
    exact hone _ hk (hmin _ htv hv)

end
end E203.Lib
