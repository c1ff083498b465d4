import E203.General.OneHot
import E203.Icb.Arbt

/-! # The splitter keeps the target of the outstanding command

* `Splt.cmdReady_of_empty`, `Splt.cmdReady_of_full` and others: the wires without and with an
  outstanding command.
* `Splt.step_empty`, `Splt.step_full`: the clock edge.
-/

namespace E203
set_option autoImplicit false

namespace Splt
section
variable {ι : Type*} [DecidableEq ι] {targets : List ι} {s : State ι} {indic : ι → Bool} {k : ι}
  {cv rr : Bool} {cr rv : ι → Bool}

/-! ## The selections -/

theorem iIcbRspValid_of_port (hk : k ∈ targets) (hport : oIcbRspPortId s indic = oneHot k) :
    iIcbRspValid targets s indic rv = rv k := by
  rw [iIcbRspValid, hport, any_oneHot hk]

theorem selBit_of_port (hk : k ∈ targets) (hport : oIcbRspPortId s indic = oneHot k)
    (f : ι → Bool) : selBit targets s indic f = f k := by
  rw [selBit, hport]
  have hcomm : (fun j => oneHot k j && f j) = fun j => f j && oneHot k j :=
    funext fun j => Bool.and_comm _ _
  rw [hcomm, any_oneHot hk]

theorem selBus_of_port {w : ℕ} (hk : k ∈ targets) (hport : oIcbRspPortId s indic = oneHot k)
    (f : ι → BitVec w) : selBus targets s indic f = f k := by
  rw [selBus, hport, foldl_oneHot, if_pos hk, BitVec.zero_or]

/-! ## Without an outstanding command -/

omit [DecidableEq ι] in
theorem port_of_empty (h : s.rspid.Has []) : oIcbRspPortId s indic = indic := by
  have hv : s.rspid.vldR = false := h
  simp [oIcbRspPortId, rspidFifoEmpty, PipeStage.oVld, hv]

omit [DecidableEq ι] in
theorem no_diff_of_empty (h : s.rspid.Has []) : cmdDiffBranch targets s indic = false := by
  have hv : s.rspid.vldR = false := h
  simp [cmdDiffBranch, rspidFifoEmpty, PipeStage.oVld, hv]

omit [DecidableEq ι] in
theorem cmdValid_of_empty (h : s.rspid.Has []) (j : ι) :
    oIcbCmdValid targets s indic cv j = (indic j && cv) := by
  have hfull : rspidFifoFull s = false := h
  simp [oIcbCmdValid, iIcbCmdValidPre, no_diff_of_empty h, hfull]

theorem cmdReady_of_empty (h : s.rspid.Has []) (hk : k ∈ targets) :
    iIcbCmdReady targets s (oneHot k) cr = cr k := by
  have hfull : rspidFifoFull s = false := h
  have hcomm : (fun j => oneHot k j && cr j) = fun j => cr j && oneHot k j :=
    funext fun j => Bool.and_comm _ _
  rw [iIcbCmdReady, selOApbCmdReady, hcomm, any_oneHot hk, no_diff_of_empty h, hfull]
  simp

/-- A command whose response does not come at once enters the stage. -/
theorem step_empty (h : s.rspid.Has []) (hk : k ∈ targets) (hresp : rv k = true → cv = true ∧ cr k = true) :
    (step targets s (oneHot k) cv cr rv true).rspid.Has
      (if cv && cr k && !rv k then [oneHot k] else []) := by
  have hwen : rspidFifoWen targets s (oneHot k) cv cr = (cv && cr k) := by
    rw [rspidFifoWen, cmdReady_of_empty h hk]
  have hren : rspidFifoRen targets s (oneHot k) rv true = rv k := by
    rw [rspidFifoRen, iIcbRspValid_of_port hk (port_of_empty h), Bool.and_true]
  have hempty : rspidFifoEmpty s = true := by
    have hv : s.rspid.vldR = false := h
    simp [rspidFifoEmpty, PipeStage.oVld, hv]
  have hbyp : rspidFifoBypass targets s (oneHot k) cv cr rv true = rv k := by
    rw [rspidFifoBypass, hempty, hwen, hren, Bool.true_and]
    cases hv : rv k
    · exact Bool.and_false _
    · rw [(hresp hv).1, (hresp hv).2]
      rfl
  have hnext := h.step true ((cv && cr k) && !rv k) (rv k && !rv k) (oneHot k)
  have hset : s.rspid.vldSet true ((cv && cr k) && !rv k) (rv k && !rv k) =
      ((cv && cr k) && !rv k) := by
    have hv : s.rspid.vldR = false := h
    simp [PipeStage.vldSet, PipeStage.iRdy, hv]
  rw [hset, List.tail_nil, ite_self, List.nil_append] at hnext
  rw [step, hwen, hren, hbyp]
  exact hnext

omit [DecidableEq ι] in
theorem step_idle (h : s.rspid.Has []) (hno : rspidFifoRen targets s indic rv rr = false) :
    (step targets s indic false cr rv rr).rspid.Has [] := by
  have hnext := h.step true false false indic
  have hwen : rspidFifoWen targets s indic false cr = false := rfl
  simp only [step, hwen, hno, Bool.false_and]
  exact hnext

/-! ## With an outstanding command -/

variable {x : ι → Bool}

omit [DecidableEq ι] in
theorem port_of_full (h : s.rspid.Has [x]) : oIcbRspPortId s indic = x := by
  obtain ⟨hv, hd⟩ := h
  simp [oIcbRspPortId, rspidFifoEmpty, PipeStage.oVld, PipeStage.oDat, hv, hd]

omit [DecidableEq ι] in
theorem cmdReady_of_full (h : s.rspid.Has [x]) : iIcbCmdReady targets s indic cr = false := by
  have hfull : rspidFifoFull s = true := h.1
  simp [iIcbCmdReady, hfull]

/-- The command leaves the stage with its response. -/
theorem step_full (h : s.rspid.Has [oneHot k]) (hk : k ∈ targets) :
    (step targets s indic cv cr rv true).rspid.Has (if rv k then [] else [oneHot k]) := by
  have hwen : rspidFifoWen targets s indic cv cr = false := by
    rw [rspidFifoWen, cmdReady_of_full h, Bool.and_false]
  have hren : rspidFifoRen targets s indic rv true = rv k := by
    rw [rspidFifoRen, iIcbRspValid_of_port hk (port_of_full h), Bool.and_true]
  have hbyp : rspidFifoBypass targets s indic cv cr rv true = false := by
    rw [rspidFifoBypass, hwen, Bool.and_false, Bool.false_and]
  have hnext := h.step true false (rv k) indic
  have hset : s.rspid.vldSet true false (rv k) = false := rfl
  rw [hset, if_neg Bool.false_ne_true, List.append_nil, List.tail_cons] at hnext
  simp only [step, hwen, hren, hbyp, Bool.not_false, Bool.and_true]
  exact hnext

end
end Splt
end E203
