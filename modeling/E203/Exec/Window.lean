import E203.Lib.Channel
import E203.Lib.Ring
import E203.Rtl.ExuOitf
import E203.Rtl.ExuOitfDepth
import Mathlib.Algebra.GroupWithZero.Nat

/-! # The outstanding instructions are a window

The entries from the retire pointer to the allocate pointer are the outstanding instructions, in the
order of their allocation.  The wrap flags differ when the window goes round the end.

* `Window s l`: the FIFO holds the payloads `l`, the oldest first.
* `Window.retire`, `Window.allocate`: the two halves of a cycle; `step_eq`: a cycle is both.
* `exact_window`: over a run.
-/

namespace E203.OitfDepth
set_option autoImplicit false

open Lib (slot InRing)

section
variable {DEPTH W : ℕ} {s : State DEPTH W} {l : List Payload} {p : Payload}

/-! ## A cycle retires and allocates -/

def ptrNxt (DEPTH : ℕ) (ptr : BitVec W) : BitVec W :=
  if isLast DEPTH ptr then BitVec.ofNat W 0 else ptr + BitVec.ofNat W 1

/-- The oldest entry leaves. -/
def State.retire (s : State DEPTH W) : State DEPTH W where
  alcPtrR := s.alcPtrR
  alcPtrFlgR := s.alcPtrFlgR
  retPtrR := ptrNxt DEPTH s.retPtrR
  retPtrFlgR := s.retPtrFlgR ^^ isLast DEPTH s.retPtrR
  entry k := if (retPtr s).toNat == k.val then ⟨false, (s.entry k).payloadR⟩ else s.entry k

/-- An entry is allocated. -/
def State.allocate (s : State DEPTH W) (p : Payload) : State DEPTH W where
  alcPtrR := ptrNxt DEPTH s.alcPtrR
  alcPtrFlgR := s.alcPtrFlgR ^^ isLast DEPTH s.alcPtrR
  retPtrR := s.retPtrR
  retPtrFlgR := s.retPtrFlgR
  entry k := if (alcPtr s).toNat == k.val then ⟨true, p⟩ else s.entry k

theorem flg_eq (flg last ena : Bool) :
    dfflr (last && ena) (!flg) flg = if ena then flg ^^ last else flg := by
  cases flg <;> cases last <;> cases ena <;> rfl

theorem entry_eq (set clr : Bool) (e : Entry) (p : Payload) :
    Entry.mk (dfflr (set || clr) (set || !clr) e.vldR) (dfflr set p e.payloadR) =
      if set then ⟨true, p⟩ else if clr then ⟨false, e.payloadR⟩ else e := by
  cases set <;> cases clr <;> rfl

theorem step_eq (i : In) (s : State DEPTH W) : step i s =
    let r := if i.retEna then s.retire else s
    if i.disEna then r.allocate (dispPayload i) else r := by
  have hentry : (step i s).entry = fun k => if vldSet s i k then ⟨true, dispPayload i⟩
      else if vldClr s i k then ⟨false, (s.entry k).payloadR⟩ else s.entry k :=
    funext fun k => entry_eq _ _ _ _
  have hstep : step i s = ⟨(step i s).alcPtrR, (step i s).alcPtrFlgR, (step i s).retPtrR,
      (step i s).retPtrFlgR, (step i s).entry⟩ := rfl
  rw [hstep, hentry]
  simp only [step, alcPtrFlgEna, retPtrFlgEna, flg_eq, alcPtrNxt, retPtrNxt, vldSet, vldClr]
  obtain ⟨dis, ret, _⟩ := i
  cases dis <;> cases ret <;> simp [State.retire, State.allocate, ptrNxt, alcPtr, retPtr]

/-! ## The pointers -/

theorem ptrNxt_toNat (hW : DEPTH ≤ 2 ^ W) {ptr : BitVec W} (h : ptr.toNat < DEPTH) :
    (ptrNxt DEPTH ptr).toNat = slot DEPTH ptr.toNat 1 := by
  rw [ptrNxt, isLast, slot]
  by_cases hlast : ptr.toNat = DEPTH - 1
  · have hwrap : ¬ptr.toNat + 1 < DEPTH := by omega
    rw [if_pos (beq_iff_eq.mpr hlast), if_neg hwrap, BitVec.toNat_ofNat, Nat.zero_mod]
    omega
  · have hnext : ptr.toNat + 1 < DEPTH := by omega
    have hne : ¬(ptr.toNat == DEPTH - 1) = true := fun heq => hlast (beq_iff_eq.mp heq)
    rw [if_neg hne, if_pos hnext, BitVec.toNat_add, BitVec.toNat_ofNat, Nat.add_mod_mod]
    exact Nat.mod_eq_of_lt (Nat.lt_of_lt_of_le hnext hW)

theorem retPtr_retire (hW : DEPTH ≤ 2 ^ W) (h : (retPtr s).toNat < DEPTH) :
    (retPtr s.retire).toNat = slot DEPTH (retPtr s).toNat 1 := by
  unfold retPtr at h ⊢
  by_cases hD : 1 < DEPTH
  · rw [if_pos hD] at h
    rw [if_pos hD, if_pos hD]
    exact ptrNxt_toNat hW h
  · rw [if_neg hD] at h
    rw [if_neg hD, if_neg hD, BitVec.toNat_ofNat, Nat.zero_mod, slot]
    split <;> omega

theorem alcPtr_allocate (hW : DEPTH ≤ 2 ^ W) (h : (alcPtr s).toNat < DEPTH) (p : Payload) :
    (alcPtr (s.allocate p)).toNat = slot DEPTH (alcPtr s).toNat 1 := by
  unfold alcPtr at h ⊢
  by_cases hD : 1 < DEPTH
  · rw [if_pos hD] at h
    rw [if_pos hD, if_pos hD]
    exact ptrNxt_toNat hW h
  · rw [if_neg hD] at h
    rw [if_neg hD, if_neg hD, BitVec.toNat_ofNat, Nat.zero_mod, slot]
    split <;> omega

/-! ## The window -/

/-- The valid entries are those from the retire pointer on, as many as `l` is long. -/
structure Window (s : State DEPTH W) (l : List Payload) : Prop where
  ring : InRing (fun k => (s.entry k).payloadR) (retPtr s).toNat l
  alc : (alcPtr s).toNat = slot DEPTH (retPtr s).toNat l.length
  vld : ∀ k : Fin DEPTH, (s.entry k).vldR = true ↔
    ∃ j, j < l.length ∧ k.val = slot DEPTH (retPtr s).toNat j
  flg : 1 < DEPTH → (s.retPtrFlgR = s.alcPtrFlgR ↔ (retPtr s).toNat + l.length < DEPTH)

theorem Window.of_reset (hpos : 0 < DEPTH) (h : IsReset s) : Window s [] := by
  have hret : (retPtr s).toNat = 0 := by
    rw [retPtr, h.retPtr, ite_self, BitVec.toNat_ofNat, Nat.zero_mod]
  refine ⟨?_, ?_, fun k => ?_, fun _ => ?_⟩
  · rw [hret]
    exact .nil hpos _
  · rw [hret, List.length_nil, Lib.slot_zero hpos, alcPtr, h.alcPtr, ite_self, BitVec.toNat_ofNat,
      Nat.zero_mod]
  · rw [h.vld k]
    constructor
    · exact fun hf => Bool.noConfusion hf
    · rintro ⟨j, hj, -⟩
      exact absurd hj (Nat.not_lt_zero j)
  · rw [h.retPtrFlg, h.alcPtrFlg, hret]
    exact iff_of_true rfl hpos

theorem Window.retire (hW : DEPTH ≤ 2 ^ W) (h : Window s (p :: l)) : Window s.retire l := by
  have hhead := h.ring.head_lt
  have hlen : l.length + 1 ≤ DEPTH := h.ring.length_le
  have hret := retPtr_retire hW hhead
  refine ⟨?_, ?_, fun k => ?_, fun hD => ?_⟩
  · rw [hret]
    have hcells : (fun k => (s.retire.entry k).payloadR) = fun k => (s.entry k).payloadR := by
      funext k
      simp only [State.retire]
      split <;> rfl
    rw [hcells]
    exact h.ring.pop
  · rw [hret, Lib.slot_next hhead (by omega)]
    exact h.alc
  · have hvld : (s.retire.entry k).vldR = true ↔
        k.val ≠ (retPtr s).toNat ∧ (s.entry k).vldR = true := by
      simp only [State.retire]
      by_cases hk : (retPtr s).toNat = k.val
      · simp [hk]
      · simp [hk, Ne.symm hk]
    rw [hvld, h.vld k, hret]
    constructor
    · rintro ⟨hne, j, hj, hk⟩
      obtain _ | j := j
      · exact absurd (hk.trans (Lib.slot_zero hhead)) hne
      · have hj' : j < l.length := Nat.lt_of_succ_lt_succ hj
        exact ⟨j, hj', by rw [Lib.slot_next hhead (by omega)]; exact hk⟩
    · rintro ⟨j, hj, hk⟩
      rw [Lib.slot_next hhead (by omega)] at hk
      refine ⟨fun heq => ?_, j + 1, Nat.succ_lt_succ hj, hk⟩
      have hzero : slot DEPTH (retPtr s).toNat (j + 1) = slot DEPTH (retPtr s).toNat 0 :=
        hk.symm.trans (heq.trans (Lib.slot_zero hhead).symm)
      exact absurd (Lib.slot_inj (by omega) (by omega) hzero) (Nat.succ_ne_zero j)
  · have hflg := h.flg hD
    have hptr : retPtr s = s.retPtrR := if_pos hD
    have hnew : (s.retire.retPtrFlgR = s.retire.alcPtrFlgR) =
        ((s.retPtrFlgR ^^ isLast DEPTH s.retPtrR) = s.alcPtrFlgR) := rfl
    rw [hret, hnew, isLast, ← hptr]
    rw [List.length_cons] at hflg
    rw [slot]
    by_cases hlast : (retPtr s).toNat = DEPTH - 1
    · have hwrap : ¬(retPtr s).toNat + 1 < DEPTH := by omega
      have hdiff : ¬s.retPtrFlgR = s.alcPtrFlgR := fun heq => by
        have := hflg.mp heq
        omega
      rw [if_neg hwrap, beq_iff_eq.mpr hlast]
      refine iff_of_true ?_ (by omega)
      cases hr : s.retPtrFlgR <;> cases ha : s.alcPtrFlgR <;> simp_all
    · have hnext : (retPtr s).toNat + 1 < DEPTH := by omega
      rw [if_pos hnext, beq_eq_false_iff_ne.mpr hlast, Bool.xor_false, hflg]
      omega

theorem Window.allocate (hW : DEPTH ≤ 2 ^ W) (h : Window s l) (hroom : l.length < DEPTH) (p : Payload) :
    Window (s.allocate p) (l ++ [p]) := by
  have hhead := h.ring.head_lt
  have hret : retPtr (s.allocate p) = retPtr s := rfl
  have halc : (alcPtr s).toNat < DEPTH := by
    rw [h.alc]
    exact Lib.slot_lt hhead (Nat.le_of_lt hroom)
  have hlen : (l ++ [p]).length = l.length + 1 := by rw [List.length_append, List.length_singleton]
  refine ⟨?_, ?_, fun k => ?_, fun hD => ?_⟩
  · have hcells : (fun k => ((s.allocate p).entry k).payloadR) = fun k : Fin DEPTH =>
        if k.val = slot DEPTH (retPtr s).toNat l.length then p else (s.entry k).payloadR := by
      funext k
      simp only [State.allocate, h.alc, beq_iff_eq]
      by_cases hk : k.val = slot DEPTH (retPtr s).toNat l.length
      · rw [if_pos hk.symm, if_pos hk]
      · rw [if_neg (Ne.symm hk), if_neg hk]
    rw [hret, hcells]
    exact h.ring.push hroom p
  · rw [alcPtr_allocate hW halc, hret, h.alc, Lib.slot_succ hhead hroom, hlen]
  · have hvld : ((s.allocate p).entry k).vldR = true ↔
        k.val = slot DEPTH (retPtr s).toNat l.length ∨ (s.entry k).vldR = true := by
      simp only [State.allocate, h.alc, beq_iff_eq]
      by_cases hk : k.val = slot DEPTH (retPtr s).toNat l.length
      · rw [if_pos hk.symm]
        exact iff_of_true rfl (.inl hk)
      · rw [if_neg (Ne.symm hk), or_iff_right hk]
    rw [hvld, h.vld k, hret, hlen]
    constructor
    · rintro (hk | ⟨j, hj, hk⟩)
      · exact ⟨_, Nat.lt_succ_self _, hk⟩
      · exact ⟨j, Nat.lt_succ_of_lt hj, hk⟩
    · rintro ⟨j, hj, hk⟩
      obtain hlt | rfl := Nat.lt_succ_iff_lt_or_eq.mp hj
      · exact .inr ⟨j, hlt, hk⟩
      · exact .inl hk
  · have hflg := h.flg hD
    have hptr : alcPtr s = s.alcPtrR := if_pos hD
    have hnew : ((s.allocate p).retPtrFlgR = (s.allocate p).alcPtrFlgR) =
        (s.retPtrFlgR = (s.alcPtrFlgR ^^ isLast DEPTH s.alcPtrR)) := rfl
    rw [hret, hnew, isLast, ← hptr, h.alc, hlen]
    have hslot := h.alc
    rw [slot] at hslot ⊢
    by_cases hlast : (if (retPtr s).toNat + l.length < DEPTH then (retPtr s).toNat + l.length
        else (retPtr s).toNat + l.length - DEPTH) = DEPTH - 1
    · have hsame : s.retPtrFlgR = s.alcPtrFlgR := hflg.mpr (by split at hlast <;> omega)
      rw [beq_iff_eq.mpr hlast, hsame]
      refine iff_of_false ?_ (by split at hlast <;> omega)
      cases s.alcPtrFlgR <;> decide
    · rw [beq_eq_false_iff_ne.mpr hlast, Bool.xor_false, hflg]
      split at hlast <;> omega

/-! ## What the FIFO shows -/

theorem Window.vld0_eq (h : Window s l) (hD : ¬1 < DEPTH) : vld0 s = !l.isEmpty := by
  have hhead := h.ring.head_lt
  have hpos : 0 < DEPTH := by omega
  have hvld := h.vld ⟨0, hpos⟩
  rw [vld0, dif_pos hpos]
  cases l with
  | nil =>
    refine Bool.eq_false_iff.mpr fun hv => ?_
    obtain ⟨j, hj, -⟩ := hvld.mp hv
    exact absurd hj (Nat.not_lt_zero j)
  | cons p l =>
    refine hvld.mpr ⟨0, Nat.zero_lt_succ _, ?_⟩
    rw [Lib.slot_zero hhead]
    change 0 = _
    omega

theorem Window.ptr_eq (h : Window s l) (hD : 1 < DEPTH) :
    (s.retPtrR == s.alcPtrR) = decide (l.length = 0 ∨ l.length = DEPTH) := by
  have halc := h.alc
  have hhead := h.ring.head_lt
  have hlen := h.ring.length_le
  have hr : retPtr s = s.retPtrR := if_pos hD
  have ha : alcPtr s = s.alcPtrR := if_pos hD
  rw [hr, ha] at halc
  rw [hr] at hhead
  rw [Bool.eq_iff_iff, beq_iff_eq, decide_eq_true_iff, ← BitVec.toNat_inj, halc, slot]
  split <;> omega

theorem Window.empty_iff (h : Window s l) : oitfEmpty s = true ↔ l = [] := by
  rw [oitfEmpty]
  by_cases hD : 1 < DEPTH
  · have hflg := h.flg hD
    have hhead := h.ring.head_lt
    rw [if_pos hD, h.ptr_eq hD, Bool.and_eq_true, decide_eq_true_iff, beq_iff_eq, hflg,
      ← List.length_eq_zero_iff]
    omega
  · rw [if_neg hD, h.vld0_eq hD, Bool.not_not, List.isEmpty_iff]

theorem Window.ready_iff (h : Window s l) : disReady s = true ↔ l.length < DEPTH := by
  have hhead := h.ring.head_lt
  have hlen := h.ring.length_le
  rw [disReady, oitfFull]
  by_cases hD : 1 < DEPTH
  · have hflg := h.flg hD
    rw [if_pos hD, h.ptr_eq hD, Bool.not_eq_true', Bool.and_eq_false_iff, decide_eq_false_iff_not,
      Bool.not_eq_false', beq_iff_eq, hflg]
    omega
  · rw [if_neg hD, h.vld0_eq hD, Bool.not_not, List.isEmpty_iff, ← List.length_eq_zero_iff]
    omega

/-- The oldest entry is retired. -/
theorem Window.retPayload_eq (h : Window s (p :: l)) : retPayload s = p := by
  rw [retPayload, dif_pos h.ring.head_lt]
  exact h.ring.head_eq

/-- A match is an outstanding instruction that writes the register. -/
theorem Window.match_iff (h : Window s l) (o : Operand) : oitfrdMatch s o = true ↔
    o.en = true ∧ ∃ p ∈ l, p.rdwen = true ∧ p.rdfpu = o.fpu ∧ p.rdidx = o.idx := by
  have hlen := h.ring.length_le
  rw [oitfrdMatch, List.any_eq_true]
  simp only [Entry.rdMatch, Bool.and_eq_true, beq_iff_eq]
  constructor
  · rintro ⟨k, -, ⟨⟨⟨hv, hw⟩, hen⟩, hf⟩, hi⟩
    obtain ⟨j, hj, hk⟩ := (h.vld k).mp hv
    have hget := h.ring.get j hj
    have hkj : k = ⟨slot DEPTH (retPtr s).toNat j, Lib.slot_lt h.ring.head_lt (by omega)⟩ :=
      Fin.ext hk
    rw [← hkj] at hget
    rw [hget] at hw hf hi
    exact ⟨hen, _, List.getElem_mem hj, hw, hf, hi⟩
  · rintro ⟨hen, p, hp, hw, hf, hi⟩
    obtain ⟨j, hj, rfl⟩ := List.getElem_of_mem hp
    have hget := h.ring.get j hj
    refine ⟨⟨slot DEPTH (retPtr s).toNat j, Lib.slot_lt h.ring.head_lt (by omega)⟩,
      List.mem_finRange _, ?_⟩
    rw [hget]
    exact ⟨⟨⟨⟨(h.vld _).mpr ⟨j, hj, rfl⟩, hw⟩, hen⟩, hf⟩, hi⟩

/-! ## Runs -/

variable (inp : ℕ → In) (s : State DEPTH W)

def run : ℕ → State DEPTH W := Lib.stateAt step inp s

/-- What is allocated in a cycle, and what is retired. -/
def allocatedAt (t : ℕ) : List Payload := if (inp t).disEna then [dispPayload (inp t)] else []
def retiredAt (t : ℕ) : List Payload := if (inp t).retEna then [retPayload (run inp s t)] else []

/-- The instructions allocated and not retired before cycle `t`, the oldest first. -/
def outstanding : ℕ → List Payload := Lib.backlog (allocatedAt inp) (retiredAt inp s)

/-- Allocations only while ready, retirements only while not empty. -/
def Legal : Prop := ∀ t, ((inp t).disEna = true → disReady (run inp s t) = true) ∧
  ((inp t).retEna = true → oitfEmpty (run inp s t) = false)

variable {inp s} {t : ℕ}

theorem Window.step {i : In} {σ : State DEPTH W} (hW : DEPTH ≤ 2 ^ W) (h : Window σ l)
    (hdis : i.disEna = true → disReady σ = true) (hret : i.retEna = true → oitfEmpty σ = false) :
    ∃ l', Window (step i σ) l' ∧ l ++ (if i.disEna then [dispPayload i] else []) =
      (if i.retEna then [retPayload σ] else []) ++ l' := by
  rw [step_eq]
  -- what the retirement leaves has room where the FIFO was ready
  obtain ⟨r, l₁, hr, hr₁, hl₁, hle⟩ : ∃ r l₁, (if i.retEna then σ.retire else σ) = r ∧ Window r l₁ ∧
      l = (if i.retEna then [retPayload σ] else []) ++ l₁ ∧ l₁.length ≤ l.length := by
    by_cases hre : i.retEna = true
    · have hne : l ≠ [] := fun hnil =>
        Bool.noConfusion ((hret hre).symm.trans (h.empty_iff.mpr hnil))
      obtain ⟨p, l₁, rfl⟩ := List.exists_cons_of_ne_nil hne
      refine ⟨_, l₁, if_pos hre, h.retire hW, ?_, Nat.le_succ _⟩
      rw [if_pos hre, h.retPayload_eq]
      rfl
    · exact ⟨_, l, if_neg hre, h, by rw [if_neg hre]; rfl, Nat.le_refl _⟩
  simp only [hr]
  by_cases hd : i.disEna = true
  · have hroom := h.ready_iff.mp (hdis hd)
    rw [if_pos hd, if_pos hd]
    refine ⟨l₁ ++ [dispPayload i], hr₁.allocate hW (Nat.lt_of_le_of_lt hle hroom) _, ?_⟩
    rw [← List.append_assoc, ← hl₁]
  · rw [if_neg hd, if_neg hd, List.append_nil]
    exact ⟨l₁, hr₁, hl₁⟩

theorem Window.run (hpos : 0 < DEPTH) (hW : DEPTH ≤ 2 ^ W) (h0 : IsReset s) (hlegal : Legal inp s)
    (t : ℕ) : Window (run inp s t) (outstanding inp s t) ∧ Lib.emitted (allocatedAt inp) 0 t =
      Lib.emitted (retiredAt inp s) 0 t ++ outstanding inp s t := by
  obtain ⟨l, hl, heq⟩ : ∃ l, Window (OitfDepth.run inp s t) l ∧ Lib.emitted (allocatedAt inp) 0 t =
      Lib.emitted (retiredAt inp s) 0 t ++ l := by
    induction t with
    | zero => exact ⟨[], Window.of_reset hpos h0, rfl⟩
    | succ t ih =>
      obtain ⟨l, hl, heq⟩ := ih
      obtain ⟨l', hl', hcyc⟩ := hl.step hW (hlegal t).1 (hlegal t).2
      refine ⟨l', hl', ?_⟩
      rw [Lib.emitted_succ (Nat.zero_le t), Lib.emitted_succ (Nat.zero_le t), heq, List.append_assoc,
        List.append_assoc]
      exact congrArg _ hcyc
  have hout : outstanding inp s t = l := by rw [outstanding, Lib.backlog, heq, List.drop_left]
  rw [hout]
  exact ⟨hl, heq⟩

/-- For every depth that the tag can number, and every legal run: the valid entries are the window from
the retire pointer to the allocate pointer, as long as there are outstanding instructions; empty and
ready are exact; instructions retire in the order of their allocation, with what they were allocated
with; and a match output tells whether an outstanding instruction writes the register. -/
theorem exact_window (hpos : 0 < DEPTH) (hW : DEPTH ≤ 2 ^ W) (h0 : IsReset s) (hlegal : Legal inp s)
    (t : ℕ) :
    (∀ k : Fin DEPTH, ((OitfDepth.run inp s t).entry k).vldR = true ↔
      ∃ j, j < (outstanding inp s t).length ∧
        k.val = slot DEPTH (retPtr (OitfDepth.run inp s t)).toNat j) ∧
    (disPtr (OitfDepth.run inp s t)).toNat =
      slot DEPTH (retPtr (OitfDepth.run inp s t)).toNat (outstanding inp s t).length ∧
    (outstanding inp s t).length ≤ DEPTH ∧
    (oitfEmpty (OitfDepth.run inp s t) = true ↔ outstanding inp s t = []) ∧
    (disReady (OitfDepth.run inp s t) = true ↔ (outstanding inp s t).length < DEPTH) ∧
    Lib.emitted (allocatedAt inp) 0 t =
      Lib.emitted (retiredAt inp s) 0 t ++ outstanding inp s t ∧
    ∀ x : Bool × Operand,
      x ∈ [(oitfrdMatchDisprs1 (OitfDepth.run inp s t) (inp t), (inp t).dispIRs1),
        (oitfrdMatchDisprs2 (OitfDepth.run inp s t) (inp t), (inp t).dispIRs2),
        (oitfrdMatchDisprs3 (OitfDepth.run inp s t) (inp t), (inp t).dispIRs3),
        (oitfrdMatchDisprd (OitfDepth.run inp s t) (inp t), (inp t).dispIRd)] →
      (x.1 = true ↔ x.2.en = true ∧ ∃ p ∈ outstanding inp s t,
        p.rdwen = true ∧ p.rdfpu = x.2.fpu ∧ p.rdidx = x.2.idx) := by
  obtain ⟨h, heq⟩ := Window.run hpos hW h0 hlegal t
  refine ⟨h.vld, h.alc, h.ring.length_le, h.empty_iff, h.ready_iff, heq, fun x hx => ?_⟩
  simp only [List.mem_cons, List.not_mem_nil, or_false] at hx
  obtain rfl | rfl | rfl | rfl := hx <;> exact h.match_iff _

/-- Three instructions are allocated in three cycles, and the first two retired in cycles 1 and 4. -/
def threeOfThree (t : ℕ) : In :=
  ⟨t < 3, t == 1 || t == 4, ⟨true, false, 2#5⟩, ⟨false, false, 0#5⟩, ⟨false, false, 0#5⟩,
    ⟨true, false, BitVec.ofNat 5 t⟩, BitVec.ofNat 32 (4 * t)⟩

theorem exact_window_threeOfThree :
    let s : State 3 2 := ⟨0#2, false, 0#2, false, fun _ => ⟨false, ⟨0#5, 0#32, false, false⟩⟩⟩
    Lib.emitted (allocatedAt threeOfThree) 0 9 =
        Lib.emitted (retiredAt threeOfThree s) 0 9 ++ outstanding threeOfThree s 9 ∧
      (oitfrdMatchDisprs1 (OitfDepth.run threeOfThree s 9) (threeOfThree 9) = true ↔
        (threeOfThree 9).dispIRs1.en = true ∧ ∃ p ∈ outstanding threeOfThree s 9, p.rdwen = true ∧
          p.rdfpu = (threeOfThree 9).dispIRs1.fpu ∧ p.rdidx = (threeOfThree 9).dispIRs1.idx) := by
  intro s
  have hlegal : Legal threeOfThree s
    | 0 | 1 | 2 | 3 | 4 => by decide +kernel
    | t + 5 => by
      have hdis : (threeOfThree (t + 5)).disEna = false := by simp [threeOfThree]
      have hret : (threeOfThree (t + 5)).retEna = false := by simp [threeOfThree]
      rw [hdis, hret]
      exact ⟨fun h => Bool.noConfusion h, fun h => Bool.noConfusion h⟩
  have h := exact_window (by decide) (by decide) ⟨rfl, rfl, rfl, rfl, fun _ => rfl⟩ hlegal 9
  exact ⟨h.2.2.2.2.2.1, h.2.2.2.2.2.2 _ List.mem_cons_self⟩

end
/-! ## The two entries of the core -/

/-- The FIFO of the core, which has no floating-point unit. -/
def ofOitf (s : Oitf.State) : State 2 1 :=
  ⟨s.alcPtrR, s.alcPtrFlgR, s.retPtrR, s.retPtrFlgR, fun k =>
    ⟨(s.entry (BitVec.ofNat 1 k)).vldR, (s.entry (BitVec.ofNat 1 k)).rdidxR,
      (s.entry (BitVec.ofNat 1 k)).pcR, (s.entry (BitVec.ofNat 1 k)).rdwenR, false⟩⟩

def ofDisp (d : Oitf.Disp) (disEna retEna : Bool) : In :=
  ⟨disEna, retEna, ⟨d.dispIRs1en, false, d.dispIRs1idx⟩, ⟨d.dispIRs2en, false, d.dispIRs2idx⟩,
    ⟨false, false, 0#5⟩, ⟨d.dispIRdwen, false, d.dispIRdidx⟩, d.dispIPc⟩

theorem isLast_two (p : BitVec 1) : isLast 2 p = (p == 1#1) := by
  revert p
  decide

theorem ptr_two (p : BitVec 1) (k : Fin 2) : (p.toNat == k.val) = (p == BitVec.ofNat 1 k) := by
  revert p k
  decide

theorem step_ofOitf (s : Oitf.State) (d : Oitf.Disp) (disEna retEna : Bool) :
    step (ofDisp d disEna retEna) (ofOitf s) = ofOitf (Oitf.step s d disEna retEna) := by
  have hset : ∀ k, vldSet (ofOitf s) (ofDisp d disEna retEna) k =
      Oitf.vldSet s disEna (BitVec.ofNat 1 k) := fun k => by
    rw [vldSet, ptr_two]
    rfl
  have hclr : ∀ k, vldClr (ofOitf s) (ofDisp d disEna retEna) k =
      Oitf.vldClr s retEna (BitVec.ofNat 1 k) := fun k => by
    rw [vldClr, ptr_two]
    rfl
  simp only [step, hset, hclr, alcPtrFlgEna, retPtrFlgEna, alcPtrNxt, retPtrNxt, isLast_two]
  simp only [ofOitf, Oitf.step, State.mk.injEq]
  refine ⟨rfl, rfl, rfl, rfl, funext fun k => ?_⟩
  cases Oitf.vldSet s disEna (BitVec.ofNat 1 k) <;> rfl

theorem oitfrdMatch_ofOitf (s : Oitf.State) (en : Bool) (idx : BitVec 5) :
    oitfrdMatch (ofOitf s) ⟨en, false, idx⟩ = Oitf.oitfrdMatch s en idx := by
  simp [oitfrdMatch, List.finRange_succ, Entry.rdMatch, Oitf.oitfrdMatch, Oitf.Entry.rdMatch, ofOitf]

end E203.OitfDepth
