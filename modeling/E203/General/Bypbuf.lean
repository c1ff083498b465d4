import E203.General.Fifo

/-! # The bypass buffer is a queue with a bypass

The FIFO inside holds what is not bypassed.  A word passes from the input to the output in one cycle
only while the FIFO is empty, and then the FIFO has room, so that the input handshake takes place, too.

* `FifoBypbuf.Has.step`: what enters may leave in the same cycle.
* `FifoBypbuf.refines_bypassed_queue`: for every depth.
-/

namespace E203.FifoBypbuf
set_option autoImplicit false

section
variable {DP DW : ℕ} {b : FifoBypbuf DP DW} {l : List (BitVec DW)} {iVld oRdy : Bool}

theorem iRdy_eq (h : b.fifo.Has l) : b.iRdy oRdy = Lib.accepts DP false l oRdy := by
  rw [iRdy, h.iRdy_eq, Lib.accepts]
  simp

theorem byp_eq (h : b.fifo.Has l) : b.byp iVld oRdy = (iVld && oRdy && l.isEmpty) := by
  rw [byp, h.oVld_eq, Bool.not_not]

theorem Has.step (h : b.fifo.Has l) (iVld oRdy : Bool) (iDat : BitVec DW) :
    (b.step iVld oRdy iDat).fifo.Has
      (let all := l ++ if iVld && Lib.accepts DP false l oRdy then [iDat] else []
      if oRdy then all.tail else all) := by
  have hnext := h.step true (b.fifoIVld iVld oRdy) oRdy iDat
  have hrdy : b.fifo.iRdy true oRdy = Lib.accepts DP false l oRdy := iRdy_eq h
  rw [hrdy] at hnext
  have hpos := h.pos
  have heq : ((if oRdy then l.tail else l) ++
      if (iVld && !(iVld && oRdy && l.isEmpty)) && Lib.accepts DP false l oRdy then [iDat] else []) =
      (let all := l ++ if iVld && Lib.accepts DP false l oRdy then [iDat] else []
      if oRdy then all.tail else all) := by
    obtain _ | ⟨x, l⟩ := l
    · have hroom : Lib.accepts DP false ([] : List (BitVec DW)) oRdy = true := by
        rw [Lib.accepts, List.length_nil, decide_eq_true hpos]
        rfl
      rw [hroom]
      cases iVld <;> cases oRdy <;> rfl
    · cases oRdy <;> simp
  rw [← heq, ← byp_eq h]
  exact hnext

/-! ## Runs -/

variable (inp : ℕ → Lib.Offer (BitVec DW)) (b : FifoBypbuf DP DW)

def run : ℕ → FifoBypbuf DP DW := Lib.stateAt (fun i b => b.step i.iVld i.oRdy i.iDat) inp b

def answer (t : ℕ) : Lib.Answer (BitVec DW) where
  iRdy := (run inp b t).iRdy (inp t).oRdy
  oVld := (run inp b t).oVld (inp t).iVld
  oDat := (run inp b t).oDat (inp t).iDat

variable {inp b}

theorem has_run (hDP : 0 < DP) (h : b.fifo.IsReset) (t : ℕ) :
    (run inp b t).fifo.Has (Lib.bypContents DP inp t) := by
  induction t with
  | zero => exact Fifo.Has.of_reset hDP h
  | succ t ih => exact Has.step ih (inp t).iVld (inp t).oRdy (inp t).iDat

/-- A bypassed word is accepted, and the FIFO neither takes nor gives one. -/
theorem not_stored_of_byp (h : b.fifo.Has l) (hbyp : b.byp iVld oRdy = true) :
    b.iRdy oRdy = true ∧ b.fifo.wen true (b.fifoIVld iVld oRdy) oRdy = false ∧
      b.fifo.ren oRdy = false := by
  have hvld : b.fifoIVld iVld oRdy = false := by rw [fifoIVld, hbyp, Bool.not_true, Bool.and_false]
  rw [byp_eq h, Bool.and_eq_true] at hbyp
  obtain ⟨-, hnil⟩ := hbyp
  rw [List.isEmpty_iff] at hnil
  subst hnil
  refine ⟨?_, ?_, ?_⟩
  · rw [iRdy_eq h, Lib.accepts, List.length_nil, decide_eq_true h.pos]
    rfl
  · rw [Fifo.wen, hvld]
    rfl
  · rw [h.ren_eq]
    rfl

/-- For every depth the output words are the accepted input words, a word is not both bypassed and
stored, and none leaves whose input handshake is refused. -/
theorem refines_bypassed_queue (hDP : 0 < DP) (inp : ℕ → Lib.Offer (BitVec DW)) (h : b.fifo.IsReset) :
    ∃ q, Lib.Bypasses inp (answer inp b) DP q ∧
      (∀ t, Lib.emitted (Lib.accepted inp (answer inp b)) 0 t =
        Lib.emitted (Lib.delivered inp (answer inp b)) 0 t ++ q t) ∧
      ((∀ t, ∃ u, t ≤ u ∧ (inp u).oRdy = true) → ∀ t, ∃ u, t ≤ u ∧
        Lib.emitted (Lib.accepted inp (answer inp b)) 0 t <+:
          Lib.emitted (Lib.delivered inp (answer inp b)) 0 u) ∧
      (∀ t, (run inp b t).byp (inp t).iVld (inp t).oRdy = true →
        (answer inp b t).iRdy = true ∧
        (run inp b t).fifo.wen true ((run inp b t).fifoIVld (inp t).iVld (inp t).oRdy) (inp t).oRdy = false ∧
        (run inp b t).fifo.ren (inp t).oRdy = false) ∧
      ∀ t, q t = [] → (answer inp b t).oVld = true → (inp t).oRdy = true →
        (inp t).iVld = true ∧ (answer inp b t).iRdy = true := by
  have hrun : ∀ t, (run inp b t).fifo.Has (Lib.bypContents DP inp t) := has_run hDP h
  have hbyp : Lib.Bypasses inp (answer inp b) DP (Lib.bypContents DP inp) := by
    apply Lib.Bypasses.of_contents hDP
    · intro t
      change (run inp b t).oVld (inp t).iVld = _
      rw [oVld, (hrun t).oVld_eq]
    · intro t
      change _ = some ((run inp b t).oDat (inp t).iDat)
      have ht := hrun t
      rw [oDat, ht.oVld_eq]
      generalize Lib.bypContents DP inp t = l at ht ⊢
      cases l with
      | nil => rfl
      | cons x l =>
        rw [ht.oDat_eq]
        rfl
    · exact fun t => iRdy_eq (hrun t)
  refine ⟨_, hbyp, hbyp.conserves.emitted_eq, hbyp.eventually,
    fun t => not_stored_of_byp (hrun t), ?_⟩
  intro t hnil hvld hrdy
  have hin : (inp t).iVld = true := by
    obtain hne | hin := (hbyp.valid t).mp hvld
    · exact absurd hnil hne
    · exact hin
  have hb : (run inp b t).byp (inp t).iVld (inp t).oRdy = true := by
    rw [byp_eq (hrun t), hnil, hin, hrdy]
    rfl
  exact ⟨hin, (not_stored_of_byp (hrun t) hb).1⟩

/-- Two entries; the output is ready in every third cycle. -/
theorem refines_bypassed_queue_two :
    ∃ q, Lib.Bypasses (fun t => ⟨true, BitVec.ofNat 8 t, t % 3 == 0⟩)
      (answer (fun t => ⟨true, BitVec.ofNat 8 t, t % 3 == 0⟩) ⟨Fifo.reset 2 8⟩) 2 q :=
  (refines_bypassed_queue (b := ⟨Fifo.reset 2 8⟩) (by decide) _ ⟨rfl, rfl, rfl⟩).imp fun _ h => h.1

end
end E203.FifoBypbuf
