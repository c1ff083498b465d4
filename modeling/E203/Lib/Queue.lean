import E203.Lib.Channel

/-! # Bounded queues

What a buffer between a valid/ready pair on each side does, as seen at its handshakes.  Nothing here
names a circuit.

* `Offer`, `Answer`: what the two neighbours drive in a cycle, and what the buffer drives.
* `contents cap flow inp`: a queue of at most `cap` entries; with `flow` a full one that pops accepts.
* `Behaves inp out cap flow q`: the buffer is that queue; `Behaves.of_contents`.
* `Bypasses inp out cap q`: a queue whose first word may also come straight from the input.
* `Conserves.eventually`: what is accepted is delivered if the channel does not stay blocked.
-/

namespace E203.Lib
set_option autoImplicit false

section
variable {α : Type*} {acc del pend : ℕ → List α}

/-- Everything accepted is delivered when no entry stays pending without a delivery. -/
theorem Conserves.eventually (h : Conserves acc del pend)
    (hlive : ∀ t, pend t ≠ [] → ∃ u, t ≤ u ∧ del u ≠ []) (t : ℕ) :
    ∃ u, t ≤ u ∧ emitted acc 0 t <+: emitted del 0 u := by
  have hall : ∀ n u, t ≤ u → (emitted acc 0 t).length ≤ (emitted del 0 u).length + n →
      ∃ v, u ≤ v ∧ (emitted acc 0 t).length ≤ (emitted del 0 v).length := by
    intro n
    induction n with
    | zero => exact fun u _ hu => ⟨u, Nat.le_refl u, hu⟩
    | succ n ih =>
      intro u htu hu
      by_cases hdone : (emitted acc 0 t).length ≤ (emitted del 0 u).length
      · exact ⟨u, Nat.le_refl u, hdone⟩
      · -- an entry is pending, so one is delivered at some `v`
        have hpend : pend u ≠ [] := by
          intro hnil
          have heq := h.emitted_eq u
          rw [hnil, List.append_nil, emitted_append (Nat.zero_le t) htu] at heq
          rw [← heq, List.length_append] at hdone
          omega
        obtain ⟨v, huv, hv⟩ := hlive u hpend
        have hlen : (emitted del 0 u).length + 1 ≤ (emitted del 0 (v + 1)).length := by
          have hpos := List.length_pos_iff.mpr hv
          rw [emitted_succ (Nat.zero_le v), emitted_append (Nat.zero_le u) huv, List.length_append,
            List.length_append]
          omega
        obtain ⟨w, hvw, hw⟩ := ih (v + 1) (by omega) (by omega)
        exact ⟨w, by omega, hw⟩
  obtain ⟨u, htu, hu⟩ := hall _ t (Nat.le_refl t) (Nat.le_add_left _ _)
  refine ⟨u, htu, ?_⟩
  have hacc : emitted acc 0 t <+: emitted acc 0 u := by
    rw [emitted_append (Nat.zero_le t) htu]
    exact List.prefix_append _ _
  exact List.prefix_of_prefix_length_le hacc (h.isPrefix u) hu

/-- It does not stay blocked if the oldest entry at some time meets what it waits for. -/
theorem Conserves.eventually_of_head (h : Conserves acc del pend) {ans : ℕ → α → Prop}
    (hdel : ∀ t x, (pend t).head? = some x → ans t x → del t ≠ [])
    (hans : ∀ t x, (pend t).head? = some x → ∃ u, t ≤ u ∧ ans u x) (t : ℕ) :
    ∃ u, t ≤ u ∧ emitted acc 0 t <+: emitted del 0 u := by
  refine h.eventually (fun t ht => ?_) t
  by_contra hno
  have hnone : ∀ u, t ≤ u → del u = [] := fun u htu =>
    Classical.byContradiction fun hd => hno ⟨u, htu, hd⟩
  obtain ⟨x, hx⟩ := Option.isSome_iff_exists.mp (List.isSome_head?.mpr ht)
  have hstay : ∀ n, (pend (t + n)).head? = some x := by
    intro n
    induction n with
    | zero => exact hx
    | succ n ih =>
      have hcyc := h.cycle (t + n)
      rw [hnone _ (Nat.le_add_right t n), List.nil_append] at hcyc
      rw [← Nat.add_assoc, ← hcyc, List.head?_append, ih]
      rfl
  obtain ⟨u, htu, hu⟩ := hans t x hx
  obtain ⟨n, rfl⟩ := Nat.exists_eq_add_of_le htu
  exact hdel _ x (hstay n) hu (hnone _ htu)

/-- It does not stay blocked if it delivers whenever the output is ready. -/
theorem Conserves.eventually_of_ready (h : Conserves acc del pend) {rdy : ℕ → Prop}
    (hdel : ∀ t, pend t ≠ [] → rdy t → del t ≠ []) (hready : ∀ t, ∃ u, t ≤ u ∧ rdy u) (t : ℕ) :
    ∃ u, t ≤ u ∧ emitted acc 0 t <+: emitted del 0 u := by
  refine h.eventually_of_head (fun t x hx => hdel t fun hnil => ?_) (fun t _ _ => hready t) t
  rw [hnil] at hx
  cases hx

end

/-! ## Buffers -/

/-- What the neighbours of a buffer drive in a cycle. -/
structure Offer (α : Type*) where
  iVld : Bool
  iDat : α
  oRdy : Bool
deriving DecidableEq

/-- What a buffer drives in a cycle. -/
structure Answer (α : Type*) where
  iRdy : Bool
  oVld : Bool
  oDat : α
deriving DecidableEq

section
variable {α : Type*} (inp : ℕ → Offer α) (out : ℕ → Answer α)

def accepted (t : ℕ) : List α := if (inp t).iVld && (out t).iRdy then [(inp t).iDat] else []
def delivered (t : ℕ) : List α := if (out t).oVld && (inp t).oRdy then [(out t).oDat] else []

/-- The buffer is a queue for at most `cap` entries, with the contents `q`. -/
structure Behaves (cap : ℕ) (flow : Bool) (q : ℕ → List α) : Prop where
  conserves : Conserves (accepted inp out) (delivered inp out) q
  room : ∀ t, (q t).length ≤ cap
  valid : ∀ t, (out t).oVld = true ↔ q t ≠ []
  data : ∀ t, (out t).oVld = true → (q t).head? = some (out t).oDat
  ready : ∀ t, (out t).iRdy = false ↔ (q t).length = cap ∧ ¬(flow = true ∧ (inp t).oRdy = true)

/-- Seen from outside there is a queue, and nothing stays in it for ever. -/
def IsQueue (cap : ℕ) (flow : Bool) : Prop :=
  ∃ q, Behaves inp out cap flow q ∧
    (∀ t, emitted (accepted inp out) 0 t = emitted (delivered inp out) 0 t ++ q t) ∧
    ((∀ t, ∃ u, t ≤ u ∧ (inp u).oRdy = true) → ∀ t, ∃ u, t ≤ u ∧
      emitted (accepted inp out) 0 t <+: emitted (delivered inp out) 0 u)

variable {inp out} {cap : ℕ} {flow : Bool} {q : ℕ → List α}

/-- Every accepted entry is delivered if the output is ready again and again. -/
theorem Behaves.eventually (h : Behaves inp out cap flow q)
    (hready : ∀ t, ∃ u, t ≤ u ∧ (inp u).oRdy = true) (t : ℕ) :
    ∃ u, t ≤ u ∧ emitted (accepted inp out) 0 t <+: emitted (delivered inp out) 0 u := by
  refine h.conserves.eventually_of_ready (fun u hu hrdy => ?_) hready t
  rw [delivered, (h.valid u).mpr hu, hrdy]
  exact List.cons_ne_nil _ _

theorem Behaves.isQueue (h : Behaves inp out cap flow q) : IsQueue inp out cap flow :=
  ⟨q, h, h.conserves.emitted_eq, h.eventually⟩

end

/-! ## The queue itself -/

section
variable {α : Type*} (cap : ℕ) (flow : Bool) (inp : ℕ → Offer α)

/-- Whether a queue with the entries `l` accepts. -/
def accepts (l : List α) (oRdy : Bool) : Bool := decide (l.length < cap) || (flow && oRdy)

def contents : ℕ → List α
  | 0 => []
  | t + 1 =>
    (if (inp t).oRdy then (contents t).tail else contents t) ++
      if (inp t).iVld && accepts cap flow (contents t) (inp t).oRdy then [(inp t).iDat] else []

variable {cap flow inp}

theorem length_ite_le (c : Prop) [Decidable c] (x : α) : (if c then [x] else []).length ≤ 1 := by
  split
  · exact Nat.le_refl 1
  · exact Nat.zero_le 1

theorem length_contents_le (hcap : 0 < cap) (t : ℕ) : (contents cap flow inp t).length ≤ cap := by
  induction t with
  | zero => exact Nat.zero_le cap
  | succ t ih =>
    rw [contents, accepts, List.length_append]
    generalize contents cap flow inp t = l at ih ⊢
    by_cases hlt : l.length < cap
    · have hpop : (if (inp t).oRdy then l.tail else l).length ≤ l.length := by
        split
        · rw [List.length_tail]
          omega
        · exact Nat.le_refl _
      exact Nat.le_trans (Nat.add_le_add hpop (length_ite_le _ _)) hlt
    · rw [decide_eq_false hlt, Bool.false_or]
      cases (inp t).oRdy
      · simp only [Bool.and_false, Bool.false_eq_true, if_false, List.length_nil]
        omega
      · have hpop : l.tail.length + 1 ≤ cap := by
          rw [List.length_tail]
          omega
        exact Nat.le_trans (Nat.add_le_add_left (length_ite_le _ _) _) hpop

/-- A buffer whose outputs are those of the queue. -/
theorem Behaves.of_contents {out : ℕ → Answer α} (hcap : 0 < cap)
    (hvld : ∀ t, (out t).oVld = !(contents cap flow inp t).isEmpty)
    (hdat : ∀ t x l, contents cap flow inp t = x :: l → (out t).oDat = x)
    (hrdy : ∀ t, (out t).iRdy = accepts cap flow (contents cap flow inp t) (inp t).oRdy) :
    Behaves inp out cap flow (contents cap flow inp) where
  conserves := by
    refine ⟨rfl, fun t => ?_⟩
    have hdel : delivered inp out t =
        if (inp t).oRdy then (contents cap flow inp t).take 1 else [] := by
      rw [delivered, hvld]
      cases hl : contents cap flow inp t with
      | nil => simp
      | cons x l =>
        rw [hdat t x l hl]
        simp
    rw [hdel, contents, accepted, hrdy, ← List.append_assoc]
    cases (inp t).oRdy
    · rfl
    · cases contents cap flow inp t <;> rfl
  room := length_contents_le hcap
  valid t := by
    rw [hvld]
    cases contents cap flow inp t <;> simp
  data t ht := by
    rw [hvld] at ht
    cases hl : contents cap flow inp t with
    | nil =>
      rw [hl] at ht
      cases ht
    | cons x l =>
      rw [hdat t x l hl]
      rfl
  ready t := by
    have hle : (contents cap flow inp t).length ≤ cap := length_contents_le hcap t
    rw [hrdy, accepts, Bool.or_eq_false_iff, decide_eq_false_iff_not, Bool.and_eq_false_iff]
    constructor
    · rintro ⟨hfull, hflow⟩
      refine ⟨by omega, fun hboth => ?_⟩
      obtain hf | hr := hflow
      · exact absurd (hf.symm.trans hboth.1) Bool.false_ne_true
      · exact absurd (hr.symm.trans hboth.2) Bool.false_ne_true
    · rintro ⟨hfull, hflow⟩
      refine ⟨by omega, ?_⟩
      cases hf : flow
      · exact .inl rfl
      · exact .inr (Bool.eq_false_iff.mpr fun hr => hflow ⟨hf, hr⟩)

end
/-! ## The queue with a bypass -/

section
variable {α : Type*}

/-- The output comes from the queue `q`, or from the input while `q` is empty. -/
structure Bypasses (inp : ℕ → Offer α) (out : ℕ → Answer α) (cap : ℕ) (q : ℕ → List α) : Prop where
  conserves : Conserves (accepted inp out) (delivered inp out) q
  room : ∀ t, (q t).length ≤ cap
  valid : ∀ t, (out t).oVld = true ↔ q t ≠ [] ∨ (inp t).iVld = true
  data : ∀ t, (out t).oVld = true → (q t ++ [(inp t).iDat]).head? = some (out t).oDat
  ready : ∀ t, (out t).iRdy = false ↔ (q t).length = cap

variable (cap : ℕ) (inp : ℕ → Offer α)

/-- The contents: what enters may leave in the same cycle. -/
def bypContents : ℕ → List α
  | 0 => []
  | t + 1 =>
    let l := bypContents t ++
      if (inp t).iVld && accepts cap false (bypContents t) (inp t).oRdy then [(inp t).iDat] else []
    if (inp t).oRdy then l.tail else l

variable {cap inp}

theorem length_bypContents_le (t : ℕ) : (bypContents cap inp t).length ≤ cap := by
  induction t with
  | zero => exact Nat.zero_le cap
  | succ t ih =>
    rw [bypContents, accepts, Bool.false_and, Bool.or_false]
    generalize bypContents cap inp t = l at ih ⊢
    have hall : (l ++ if (inp t).iVld && decide (l.length < cap) then [(inp t).iDat] else []).length
        ≤ cap := by
      rw [List.length_append]
      by_cases hlt : l.length < cap
      · exact Nat.le_trans (Nat.add_le_add_left (length_ite_le _ _) _) hlt
      · rw [decide_eq_false hlt, Bool.and_false]
        exact ih
    split
    · rw [List.length_tail]
      omega
    · exact hall

theorem Bypasses.of_contents {out : ℕ → Answer α} (hcap : 0 < cap)
    (hvld : ∀ t, (out t).oVld = (!(bypContents cap inp t).isEmpty || (inp t).iVld))
    (hdat : ∀ t, (bypContents cap inp t ++ [(inp t).iDat]).head? = some (out t).oDat)
    (hrdy : ∀ t, (out t).iRdy = accepts cap false (bypContents cap inp t) (inp t).oRdy) :
    Bypasses inp out cap (bypContents cap inp) where
  conserves := by
    refine ⟨rfl, fun t => ?_⟩
    have hcon : bypContents cap inp (t + 1) =
        if (inp t).oRdy then (bypContents cap inp t ++ accepted inp out t).tail
        else bypContents cap inp t ++ accepted inp out t := by
      rw [bypContents, accepted, hrdy]
    have hdel : delivered inp out t =
        if (inp t).oRdy then (bypContents cap inp t ++ accepted inp out t).take 1 else [] := by
      have hd := hdat t
      rw [delivered, accepted, hvld, hrdy, accepts]
      generalize bypContents cap inp t = l at hd ⊢
      obtain _ | ⟨x, l⟩ := l
      · have hx : (inp t).iDat = (out t).oDat := Option.some.inj hd
        have hlt : ([] : List α).length < cap := hcap
        rw [decide_eq_true hlt, hx]
        cases (inp t).iVld <;> cases (inp t).oRdy <;> rfl
      · have hx : x = (out t).oDat := Option.some.inj hd
        rw [← hx]
        cases (inp t).oRdy <;> rfl
    rw [hcon, hdel]
    cases (inp t).oRdy
    · rfl
    · cases bypContents cap inp t ++ accepted inp out t <;> rfl
  room := length_bypContents_le
  valid t := by
    rw [hvld]
    cases bypContents cap inp t <;> simp
  data t _ := hdat t
  ready t := by
    have hle : (bypContents cap inp t).length ≤ cap := length_bypContents_le t
    rw [hrdy, accepts, Bool.false_and, Bool.or_false, decide_eq_false_iff_not]
    omega

/-- Every accepted entry is delivered if the output is ready again and again. -/
theorem Bypasses.eventually {out : ℕ → Answer α} {q : ℕ → List α} (h : Bypasses inp out cap q)
    (hready : ∀ t, ∃ u, t ≤ u ∧ (inp u).oRdy = true) (t : ℕ) :
    ∃ u, t ≤ u ∧ emitted (accepted inp out) 0 t <+: emitted (delivered inp out) 0 u := by
  refine h.conserves.eventually_of_ready (fun u hu hrdy => ?_) hready t
  rw [delivered, (h.valid u).mpr (.inl hu), hrdy]
  exact List.cons_ne_nil _ _

end
end E203.Lib
