import E203.Fetch.Stage
import E203.Rtl.Core

/-! # Runs of the core

* `Core.Startup`: what the first cycles establish and every cycle keeps.
* `Core.exists_loadedAt`: a valid IR was loaded in an earlier cycle of the run.
-/

namespace E203
set_option autoImplicit false

namespace Exu
section
variable {s : State} {i : In}

/-- With nothing dispatched and the address-generation unit idle, the ALU offers nothing. -/
theorem aluOValid_eq_false (hiv : (alu s i).iValid = false) (hagu : s.alu.agu.icbStateR = .idle) :
    Alu.oValid s.alu (alu s i) = false := by
  simp [Alu.oValid, hiv, Alu.aguOValid, Lsuagu.aguOValid, Lsuagu.icbStaIsLast, Lsuagu.icbStaIsWbck,
    hagu, Alu.agu, Alu.mdvOValid, Muldiv.oValid, Alu.mdv, Csrctrl.csrOValid, Alu.csr]

/-- Without outstanding instructions, a valid PC or an instruction offered, nothing flushes. -/
theorem pipeFlushReq_eq_false (hempty : oitfEmpty s = true) (hpc : i.iPcVld = false)
    (hv : aluCmtValid s i = false) : pipeFlushReq s i = false := by
  have hlongp : (cmtCtl s i).longpExcpIValid = false := by
    simp [cmtCtl, longpExcpOValid, Longpwbck.longpExcpOValid, Longpwbck.wbckIValid,
      Longpwbck.wbckSelLsu, Longpwbck.wbckReady4lsu, longpwbck, hempty]
  have hpcvld : (aluCmt s i).aluExcpIPcVld = false := hpc
  simp [pipeFlushReq, Commit.pipeFlushReq, Commit.excpirqFlushReq, Excp.excpirqFlushReq,
    Excp.longpExcpFlushReq, Excp.longpNeedFlush, Excp.dbgEntryFlushReq, Excp.irqFlushReq,
    Excp.aluExcpFlushReq, Commit.aluBrchmisFlushReq, Branchslv.brchmisFlushReq,
    Branchslv.brchmisFlushReqPre, hlongp, hpcvld, hv]

theorem IsReset.oitfEmpty (h : IsReset s) : oitfEmpty s = true := by
  obtain ⟨h1, h2, h3, h4, -⟩ := h.1
  simp [Exu.oitfEmpty, Oitf.oitfEmpty, h1, h2, h3, h4]

end
end Exu

namespace Core
section
variable {s : State} {i : In}

theorem IsReset.pipeFlushReq (h : IsReset s) : Exu.pipeFlushReq s.exu (exuIn s i) = false := by
  obtain ⟨hifu, hexu⟩ := h
  have hagu : s.exu.alu.agu.icbStateR = .idle := by
    rw [hexu.2.2.1]
    rfl
  have hiv : (Exu.alu s.exu (exuIn s i)).iValid = false := by
    simp [Exu.alu, Disp.dispOAluValid, Exu.disp, exuIn, toExu, hifu, Ifetch.State.reset]
  have hoValid := Exu.aluOValid_eq_false hiv hagu
  apply Exu.pipeFlushReq_eq_false hexu.oitfEmpty
  · simp [exuIn, toExu, hifu, Ifetch.State.reset]
  · simp [Exu.aluCmtValid, Alu.cmtOValid, hoValid]

/-- What holds from the first cycle on. -/
structure Startup (s : State) : Prop where
  kept : Ifetch.PcKept s.ifu
  even : Isa.evenPc s.ifu.pcR = s.ifu.pcR
  started : Ifetch.Started s.ifu
  first : s.ifu.resetFlagR = true → IsReset s

theorem Startup.of_reset (h : IsReset s) : Startup s where
  kept := by
    intro _
    rw [h.1]
    rfl
  even := by
    rw [h.1]
    decide
  started := by
    rw [h.1]
    exact .of_reset
  first _ := h

theorem Startup.step (h : Startup s) : Startup (step s i) where
  kept := h.kept.step
  even := Ifetch.evenPc_step_pcR h.even
  started := h.started.step fun hfirst => (h.first hfirst).pipeFlushReq
  first hf := by cases hf

theorem Startup.run {inp : ℕ → In} (h0 : IsReset s) (t : ℕ) : Startup (run inp s t) :=
  Lib.invariant_stateAt _ (I := fun _ => Startup) t (.of_reset h0) (fun _ _ hu => hu.step)

/-- An instruction goes into the IR only after the reset request. -/
theorem Startup.resetReqR (h : Startup s) (hrsp : RspOutstanding i s)
    (hset : Ifetch.irValidSet s.ifu (ifuIn s i) = true) : s.ifu.resetReqR = false := by
  have hout : s.ifu.outFlagR = true := hrsp (Ifetch.irValidSet_iff.mp hset).1
  cases hreq : s.ifu.resetReqR
  · rfl
  · rw [h.started.reset hreq] at hout
    cases hout

/-- In cycle `t` the IR holds what was loaded in cycle `t₀`. -/
def LoadedAt (inp : ℕ → In) (s : State) (t₀ t : ℕ) : Prop :=
  Ifetch.Loaded (run inp s t₀).ifu (ifuIn (run inp s t₀) (inp t₀)) (run inp s t).ifu

/-- An instruction that stays in the IR is still the one that was loaded. -/
theorem LoadedAt.next {inp : ℕ → In} {t₀ t : ℕ} (h : LoadedAt inp s t₀ t)
    (hv : (run inp s t).ifu.irValidR = true)
    (hset : Ifetch.irValidSet (run inp s t).ifu (ifuIn (run inp s t) (inp t)) = false)
    (hv' : (run inp s (t + 1)).ifu.irValidR = true) : LoadedAt inp s t₀ (t + 1) :=
  h.step hv hset hv' rfl

/-- The instruction in the IR was loaded there in an earlier cycle. -/
theorem exists_loadedAt {inp : ℕ → In} (h0 : IsReset s) {t : ℕ}
    (hv : (run inp s t).ifu.irValidR = true) : ∃ t₀ < t, LoadedAt inp s t₀ t := by
  induction t with
  | zero =>
    have hreset : s.ifu.irValidR = false := by
      rw [h0.1]
      rfl
    exact absurd (hreset.symm.trans hv) Bool.false_ne_true
  | succ t ih =>
    cases hset : Ifetch.irValidSet (run inp s t).ifu (ifuIn (run inp s t) (inp t))
    · have hold : (run inp s t).ifu.irValidR = true := by
        have hnext := hv
        change (Ifetch.step (run inp s t).ifu (ifuIn (run inp s t) (inp t))).irValidR = true at hnext
        rw [Ifetch.step_irValidR, hset, Bool.false_or, Bool.and_eq_true] at hnext
        exact hnext.1
      obtain ⟨t₀, hlt, hload⟩ := ih hold
      exact ⟨t₀, by omega, hload.next hold hset hv⟩
    · exact ⟨t, by omega, .of_set hset⟩

end

/-! ## A quiet environment -/

/-- Nothing is pending outside, every request is accepted at once, the reset vector is
`0x80000000`. -/
def In.quiet : In where
  lsuOValid := false
  lsuOWbckWdat := 0#32
  lsuOWbckItag := 0#1
  lsuOWbckErr := false
  lsuOCmtBuserr := false
  lsuOCmtBadaddr := 0#32
  lsuOCmtLd := false
  lsuOCmtSt := false
  aguIcbCmdReady := true
  aguIcbRspValid := false
  aguIcbRspErr := false
  aguIcbRspRdata := 0#32
  dbgIrqR := false
  extIrqR := false
  sftIrqR := false
  tmrIrqR := false
  statusMieR := false
  mtieR := false
  msieR := false
  meieR := false
  csrMtvecR := 0#32
  csrEpcR := 0#32
  uMode := false
  sMode := false
  hMode := false
  mMode := true
  mdvNob2b := false
  readCsrDat := 0#32
  eaiCsrReady := true
  eaiCsrRdata := 0#32
  pcRtvec := 0x80000000#32
  ifuReqReady := true
  ifuRspValid := false
  ifuRspErr := false
  ifuRspInstr := 0#32

/-- The state after reset with the register file `rf`. -/
def State.reset (rf : Regfile) : State where
  ifu := Ifetch.State.reset
  exu :=
    { rf := rf
      oitf := ⟨0#1, false, 0#1, false, fun _ => ⟨false, false, 0#5, 0#32⟩⟩
      alu := ⟨Muldiv.State.reset, ⟨0#33, 0#33⟩, Lsuagu.State.reset⟩
      excp := Excp.State.reset
      dbg := DebugCsr.State.reset }

theorem State.isReset_reset (rf : Regfile) : IsReset (State.reset rf) :=
  ⟨rfl, ⟨rfl, rfl, rfl, rfl, fun _ => rfl⟩, rfl, rfl, rfl, rfl⟩

/-- After reset with all registers zero. -/
def zeroState : State := State.reset fun _ => 0#32

/-- Register `n` holds `256 * n`. -/
def scaledState : State := State.reset fun n => 0#19 ++ n ++ 0#8

end Core
end E203
