import E203.Fetch.CoreRun
import E203.Rtl.CoreLsu

/-! # The outstanding command of the load/store unit

* `LsuCtrl.Ok`: the arbiter and the split stage hold the same command.
* `step_accept`, `step_keep`: what a clock edge does with and without an accepted command.
* `Ok.hsked_iff`: a response is taken for the command that is held.
-/

namespace E203.LsuCtrl
set_option autoImplicit false

/-- The arbiter remembers its port for as long as the split stage remembers the command. -/
structure Ok (s : State) : Prop where
  vld : s.rspidVldR = s.spltVldR
  port : s.rspidVldR = true → s.rspidDatR = 1#1

section
variable {s : State} {i : In} {c : Cmd} {trap mret : Bool}

theorem Ok.of_reset (h : IsReset s) : Ok s where
  vld := h.rspid.trans h.splt.symm
  port hv := absurd (h.rspid.symm.trans hv) Bool.false_ne_true

theorem Ok.port_eq (h : Ok s) (hv : s.spltVldR = true) : oIcbRspPortId s = 1#1 := by
  rw [← h.vld] at hv
  rw [oIcbRspPortId, if_pos hv, h.port hv]

/-- No response is taken when nothing is outstanding. -/
theorem hsked_of_empty (h : s.spltVldR = false) : arbtIcbRspHsked s i = false := by
  simp [arbtIcbRspHsked, arbtIcbRspValid, spltRdat, h, Splt.zero]

theorem preValid_of_empty (h : s.spltVldR = false) (b : Bus) : preAguIcbRspValid s b = false := by
  simp [preAguIcbRspValid, arbtIcbRspValid, spltRdat, h, Splt.zero]

theorem Ok.rspReady_eq (h : Ok s) (hv : s.spltVldR = true) :
    arbtIcbRspReady s i = preAguIcbRspReady s i := by
  rw [arbtIcbRspReady, h.port_eq hv, h.vld, hv]
  rfl

theorem Ok.preValid_eq (h : Ok s) (b : Bus) : preAguIcbRspValid s b = arbtIcbRspValid s b := by
  cases hv : s.spltVldR
  · rw [preValid_of_empty hv]
    simp [arbtIcbRspValid, spltRdat, hv, Splt.zero]
  · rw [preAguIcbRspValid, h.port_eq hv, h.vld, hv]
    simp

/-- A response that goes back to the address-generation unit is taken at once. -/
theorem Ok.hsked_iff (h : Ok s) (hv : s.spltVldR = true) (hback : s.spltDatR.usr.back2agu = true)
    (hready : i.aguIcbRspReady = true) :
    arbtIcbRspHsked s i = aguIcbRspValid s i.toBus := by
  have husr : (preAguIcbRspUsr s).back2agu = true := by
    rw [preAguIcbRspUsr, spltRdat, if_pos hv, hback]
  rw [arbtIcbRspHsked, h.rspReady_eq hv, preAguIcbRspReady, husr, if_pos rfl, hready,
    aguIcbRspValid, h.preValid_eq, husr]

theorem Ok.aguIcbCmdReady_eq (h : Ok s) :
    aguIcbCmdReady s i = ((!s.spltVldR || arbtIcbRspHsked s i) && allIcbCmdReady i) := by
  rw [aguIcbCmdReady, arbtIcbCmdReady, arbtIcbCmdAddiCondi, spltFifoIReady, rspidFifoIReady, h.vld]
  cases s.spltVldR <;> cases arbtIcbRspHsked s i <;> cases allIcbCmdReady i <;> rfl

/-- A command is accepted when both sides are ready. -/
theorem spltFifoWen_eq : spltFifoWen s i c = (c.valid && aguIcbCmdReady s i) := by
  rw [spltFifoWen, arbtIcbCmdValid, aguIcbCmdReady]
  cases c.valid <;> cases rspidFifoIReady s i <;> cases arbtIcbCmdReady s i <;> rfl

theorem flag_eq (e n q : Bool) : dfflr (e || n) (e || !n) q = (e || (q && !n)) := by
  cases e <;> cases n <;> cases q <;> rfl

theorem step_spltVldR : (step s i c trap mret).spltVldR =
    (spltFifoWen s i c || (s.spltVldR && !arbtIcbRspHsked s i)) := by
  change dfflr (_ || _) (_ || !_) _ = _
  rw [flag_eq]
  cases s.spltVldR <;> cases arbtIcbRspHsked s i <;> rfl

theorem step_rspidVldR : (step s i c trap mret).rspidVldR =
    (spltFifoWen s i c || (s.rspidVldR && !arbtIcbRspHsked s i)) := by
  change dfflr (_ || _) (_ || !_) _ = _
  rw [flag_eq]
  cases s.rspidVldR <;> cases arbtIcbRspHsked s i <;> rfl

theorem Ok.step (h : Ok s) : Ok (step s i c trap mret) where
  vld := by rw [step_rspidVldR, step_spltVldR, h.vld]
  port := by
    intro hv
    rw [step_rspidVldR] at hv
    change dfflr (spltFifoWen s i c) (iArbtIndicId c) s.rspidDatR = 1#1
    cases hw : spltFifoWen s i c
    · rw [hw, Bool.false_or, Bool.and_eq_true] at hv
      exact h.port hv.1
    · rw [spltFifoWen_eq, Bool.and_eq_true] at hw
      rw [dfflr_true, iArbtIndicId, hw.1]
      rfl

theorem step_accept (h : spltFifoWen s i c = true) :
    (step s i c trap mret).spltVldR = true ∧
      (step s i c trap mret).spltDatR = spltFifoWdat s c := by
  constructor
  · rw [step_spltVldR, h, Bool.true_or]
  · change dfflr (spltFifoWen s i c) _ _ = _
    rw [h, dfflr_true]

theorem step_keep (h : spltFifoWen s i c = false) :
    (step s i c trap mret).spltVldR = (s.spltVldR && !arbtIcbRspHsked s i) ∧
      (step s i c trap mret).spltDatR = s.spltDatR := by
  constructor
  · rw [step_spltVldR, h, Bool.false_or]
  · change dfflr (spltFifoWen s i c) _ _ = _
    rw [h, dfflr_false]

end
end E203.LsuCtrl

namespace E203.CoreLsu
section
variable {inp : ℕ → In} {s : State}

theorem lsuOk_step {i : In} (h : LsuCtrl.Ok s.lsu) : LsuCtrl.Ok (step s i).lsu := by
  rw [step]
  split
  · exact h.step
  · exact h

theorem lsuOk_run (h0 : IsReset s) (t : ℕ) : LsuCtrl.Ok (run inp s t).lsu := by
  induction t with
  | zero => exact .of_reset h0.2
  | succ t ih => exact lsuOk_step ih

end
/-- After reset, with the register file `rf`. -/
def State.reset (rf : Regfile) : State where
  core := Core.State.reset rf
  lsu := ⟨false, 0#1, false, .zero, false, 0#32⟩

theorem State.isReset_reset (rf : Regfile) : IsReset (State.reset rf) :=
  ⟨Core.State.isReset_reset rf, rfl, rfl, rfl, rfl⟩

/-- Nothing happens outside; every target is ready for a command. -/
def In.quiet : In where
  biu := ⟨true, false, false, 0#32⟩
  dtcm := ⟨true, false, false, 0#32⟩
  itcm := ⟨true, false, false, 0#32⟩
  toFromCsr := Core.In.quiet.toFromCsr
  pcRtvec := 0x80000000#32
  ifuReqReady := true
  ifuRspValid := false
  ifuRspErr := false
  ifuRspInstr := 0#32
  coreCgstop := false

end E203.CoreLsu
