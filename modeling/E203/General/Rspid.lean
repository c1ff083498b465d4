import E203.General.Fifo

/-! # The identifier FIFO and its bypass

* `RspidFifo.Has`: the identifiers of the outstanding commands.
* `RspidFifo.Has.step_bypass`: a command enters; its response, or that of an older command, leaves.
-/

namespace E203.RspidFifo
set_option autoImplicit false

section
variable {OUTS W : ℕ} {s : RspidFifo OUTS W} {l : List (BitVec W)} {cutReady oRdy : Bool}

def Has : RspidFifo OUTS W → List (BitVec W) → Prop
  | dp1 s, l => OUTS = 1 ∧ s.Has l
  | dpGt1 s, l => 1 < OUTS ∧ s.Has l

theorem Has.of_reset (h : s.IsReset) : s.Has [] := by
  cases s with
  | dp1 s => exact h
  | dpGt1 s => exact ⟨h.1, Fifo.Has.of_reset (Nat.lt_trans Nat.zero_lt_one h.1) h.2⟩

theorem Has.pos (h : s.Has l) : 0 < OUTS := by
  cases s with
  | dp1 s =>
    rw [h.1]
    exact Nat.zero_lt_one
  | dpGt1 s => exact h.2.pos

theorem Has.oVld_eq (h : s.Has l) : s.oVld = !l.isEmpty := by
  cases s with
  | dp1 s => exact PipeStage.Has.oVld_eq h.2
  | dpGt1 s => exact h.2.oVld_eq

theorem Has.oDat_eq {x : BitVec W} (h : s.Has (x :: l)) : s.oDat = x := by
  cases s with
  | dp1 s =>
    obtain _ | _ := l
    · exact h.2.2
    · exact h.2.elim
  | dpGt1 s => exact h.2.oDat_eq

theorem Has.iRdy_eq (h : s.Has l) :
    s.iRdy cutReady oRdy = Lib.accepts OUTS (decide (OUTS = 1) && !cutReady) l oRdy := by
  cases s with
  | dp1 s =>
    obtain ⟨rfl, h⟩ := h
    exact PipeStage.Has.iRdy_eq h cutReady oRdy
  | dpGt1 s => exact h.2.iRdy_eq

theorem Has.step (h : s.Has l) (cutReady iVld oRdy : Bool) (iDat : BitVec W) :
    (s.step cutReady iVld oRdy iDat).Has
      ((if oRdy then l.tail else l) ++ if iVld && s.iRdy cutReady oRdy then [iDat] else []) := by
  cases s with
  | dp1 s => exact ⟨h.1, PipeStage.Has.step h.2 cutReady iVld oRdy iDat⟩
  | dpGt1 s => exact ⟨h.1, Fifo.Has.step h.2 cutReady iVld oRdy iDat⟩

/-- While the bypass is on there is room, so that it does not matter for the ready output. -/
theorem Has.iRdy_of_bypass (h : s.Has l) {byp ren : Bool} (hbyp : byp = true → l = []) :
    s.iRdy cutReady (ren && !byp) = s.iRdy cutReady ren := by
  rw [h.iRdy_eq, h.iRdy_eq]
  cases hb : byp
  · rw [Bool.not_false, Bool.and_true]
  · rw [hbyp hb, Lib.accepts, Lib.accepts, List.length_nil, decide_eq_true h.pos]
    rfl

/-- A command enters and a response leaves; a response to the command that enters bypasses the FIFO. -/
theorem Has.step_bypass (h : s.Has l) {byp wen ren : Bool} (d : BitVec W)
    (hroom : wen = true → s.iRdy cutReady ren = true) (hren : ren = true → l = [] → byp = true)
    (hbyp : byp = true → l = [] ∧ wen = true ∧ ren = true) :
    (s.step cutReady (wen && !byp) (ren && !byp) d).Has
      (if ren then (l ++ if wen then [d] else []).tail else l ++ if wen then [d] else []) := by
  have hnext := h.step cutReady (wen && !byp) (ren && !byp) d
  rw [h.iRdy_of_bypass fun hb => (hbyp hb).1] at hnext
  have hpush : ((wen && !byp) && s.iRdy cutReady ren) = (wen && !byp) := by
    cases hw : wen
    · rfl
    · rw [hroom hw, Bool.and_true]
  rw [hpush] at hnext
  cases byp with
  | true =>
    obtain ⟨rfl, rfl, rfl⟩ := hbyp rfl
    exact hnext
  | false =>
    rw [Bool.not_false, Bool.and_true, Bool.and_true] at hnext ⊢
    cases ren with
    | false => exact hnext
    | true =>
      obtain _ | ⟨x, l⟩ := l
      · exact absurd (hren rfl rfl) Bool.false_ne_true
      · exact hnext

end
end E203.RspidFifo
