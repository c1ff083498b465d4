import E203.Exec.Atomic
import E203.Fetch.CoreRun

/-! # What every reachable state of the core satisfies

`Core.Steady`: the FIFO's pointers agree with its valid bits, a pending single step is not in debug
mode, and while the state machine of the address-generation unit runs, the IR holds the atomic
operation that it executes and nothing else is under way.
-/

namespace E203
set_option autoImplicit false

/-! ## The execute stage -/

namespace Lsuagu

/-- The successor of a state of an atomic operation under way. -/
def amoNext (rspValid cmdReady : Bool) : Sta → Sta
  | .idle => .idle
  | .first => if rspValid then .amoalu else .first
  | .amoalu => .amordy
  | .amordy => .wait2nd
  | .wait2nd => if cmdReady then .second else .wait2nd
  | .second => if rspValid then .wbck else .second
  | .wbck => .idle

end Lsuagu

namespace Exu
section
variable {s : State} {i : In}

/-- Only loads and stores are allocated, and only when there is room. -/
theorem oitfEna_disReady (h : oitfEna s i = true) :
    Oitf.disReady s.oitf = true ∧ Alu.aguOp (alu s i) = true ∧
      Lsuagu.aguILongpipe s.alu.agu (Alu.agu s.alu (alu s i)) (Alu.dpathRes s.alu (alu s i)) =
        true := by
  rw [oitfEna, Disp.dispOitfEna, Bool.and_eq_true, Bool.and_eq_true] at h
  obtain ⟨⟨hvalid, -⟩, hlong⟩ := h
  have hagu : Lsuagu.aguILongpipe s.alu.agu (Alu.agu s.alu (alu s i))
      (Alu.dpathRes s.alu (alu s i)) = true ∧ Alu.aguOp (alu s i) = true := by
    simpa [Alu.iLongpipe, Alu.mdvILongpipe] using hlong
  refine ⟨?_, hagu.2, hagu.1⟩
  have hgrp : Disp.dispAluLongpPrdt (disp s i) = true :=
    ((Bool.and_eq_true _ _).mp hagu.2).2
  have hcond : Disp.dispCondition (disp s i) = true := ((Bool.and_eq_true _ _).mp hvalid).1
  rw [Disp.dispCondition, hgrp, if_pos rfl, Bool.and_eq_true] at hcond
  exact hcond.2

theorem oitf_step (h : s.oitf.Ok) : (step s i).oitf.Ok := by
  refine h.step (fun hdis => ?_) fun hret => ?_
  · simpa [Oitf.disReady] using (oitfEna_disReady hdis).1
  · cases hempty : Oitf.oitfEmpty s.oitf
    · rfl
    · rw [(noLongp hempty).2.2] at hret
      cases hret

/-- Nothing allocated, nothing retired. -/
theorem oitfEmpty_step (hempty : oitfEmpty s = true) (hena : oitfEna s i = false) :
    oitfEmpty (step s i) = true := by
  have hret := (noLongp (i := i) hempty).2.2
  have hsame : (step s i).oitf.retPtrR = s.oitf.retPtrR ∧ (step s i).oitf.alcPtrR = s.oitf.alcPtrR ∧
      (step s i).oitf.retPtrFlgR = s.oitf.retPtrFlgR ∧
      (step s i).oitf.alcPtrFlgR = s.oitf.alcPtrFlgR := by
    simp [step, Oitf.step, hena, hret, Oitf.retPtrFlgEna, Oitf.alcPtrFlgEna]
  rw [oitfEmpty, Oitf.oitfEmpty, hsame.1, hsame.2.1, hsame.2.2.1, hsame.2.2.2]
  exact hempty

/-! ### The single step -/

theorem step_stepReqR :
    (step s i).excp.stepReqR =
      (Excp.stepReqSet s.excp (cmtCtl s i).toCtl (aluCmt s i).toAlu pipeFlushAck (aluCmtValid s i)
          (cmtEna s i) ||
        (s.excp.stepReqR &&
          !Excp.stepReqClr s.excp (cmtCtl s i).toCtl (aluCmt s i).toAlu pipeFlushAck
            (aluCmtValid s i))) := Ifetch.flag_eq _ _ _

theorem stepReqR_dbgMode (h : s.excp.stepReqR = true → dbgMode s = false)
    (hreq : (step s i).excp.stepReqR = true) : dbgMode (step s i) = false := by
  rw [step_stepReqR] at hreq
  cases htaken : Excp.dbgEntryTakenEna s.excp (cmtCtl s i).toCtl (aluCmt s i).toAlu pipeFlushAck
      (aluCmtValid s i)
  case true => simp [Excp.stepReqSet, Excp.stepReqClr, htaken] at hreq
  case false =>
    have hold : dbgMode s = false := by
      rw [Bool.or_eq_true, Bool.and_eq_true] at hreq
      obtain hset | ⟨hold, -⟩ := hreq
      · simp only [Excp.stepReqSet, Bool.and_eq_true, Bool.not_eq_true'] at hset
        exact hset.1.1.1
      · exact h hold
    have hcause : (dbgCsr s i).cmtDcause = 0#3 := by
      simp [dbgCsr, Excp.cmtDcause, htaken]
    cases hena : (dbgCsr s i).cmtDcauseEna
    · have hsame : (step s i).dbg.dcauseR = s.dbg.dcauseR := by
        simp [step, DebugCsr.step, hena]
      rw [dbgMode, DebugCsr.dbgMode, hsame]
      exact hold
    · have hzero : (step s i).dbg.dcauseR = 0#3 := by
        simp [step, DebugCsr.step, hena, hcause]
      simp [dbgMode, DebugCsr.dbgMode, hzero]

theorem requests_of_not_cmt (hcmt : cmtEna s i = false) (hstep : s.excp.stepReqR = false)
    (hhalt : s.excp.wfiHaltReqR = false) :
    (step s i).excp.stepReqR = false ∧ (step s i).excp.wfiHaltReqR = false := by
  constructor
  · rw [step_stepReqR]
    simp [Excp.stepReqSet, hcmt, hstep]
  · have hset : Excp.wfiHaltReqSet (cmtCtl s i).toCtl (aluCmt s i).toAlu (cmtEna s i) = false := by
      simp [Excp.wfiHaltReqSet, hcmt]
    change dfflr (Excp.wfiHaltReqSet (cmtCtl s i).toCtl (aluCmt s i).toAlu (cmtEna s i) || _)
      (Excp.wfiHaltReqSet (cmtCtl s i).toCtl (aluCmt s i).toAlu (cmtEna s i) && _) _ = false
    rw [hset, hhalt, Bool.false_and]
    unfold dfflr
    split <;> rfl

/-! ### The start of an atomic operation -/

/-- The state machine leaves its idle state in this cycle. -/
def AmoStart (s : State) (i : In) : Prop :=
  Lsuagu.stateIdleExitEna s.alu.agu (Alu.agu s.alu (alu s i)) (Alu.dpathRes s.alu (alu s i))
    (Alu.aguOp (alu s i) && aluOReady s i) (flushPulse s i) = true

theorem icbStateR_step (hidle : s.alu.agu.icbStateR = .idle)
    (hbusy : (step s i).alu.agu.icbStateR ≠ .idle) : AmoStart s i := by
  by_contra hno
  apply hbusy
  have hno' := Bool.not_eq_true _ ▸ hno
  simp [step, Alu.step, Lsuagu.step, Lsuagu.icbStateNxt, hno', hidle, Lsuagu.state1stExitEna,
    Lsuagu.stateAmoaluExitEna, Lsuagu.stateAmordyExitEna, Lsuagu.stateWait2ndExitEna,
    Lsuagu.state2ndExitEna, Lsuagu.stateWbckExitEna, Lsuagu.icbStaIs1st, Lsuagu.icbStaIsAmoalu,
    Lsuagu.icbStaIsAmordy, Lsuagu.icbStaIsWait2nd, Lsuagu.icbStaIs2nd, Lsuagu.icbStaIsWbck]

/-- What holds in the cycle in which an atomic operation starts. -/
structure Starts (s : State) (i : In) : Prop where
  idle : s.alu.agu.icbStateR = .idle
  valid : i.iValid = true
  word : Decode.isAmo i.iIr = true
  agu : Alu.aguOp (alu s i) = true
  buserr : i.iBuserr = false
  empty : oitfEmpty s = true
  halt : s.excp.wfiHaltReqR = false
  noFlushReq : flushReq s i = false
  noFlush : pipeFlushReq s i = false
  algnamo : Lsuagu.aguIAlgnamo s.alu.agu (Alu.agu s.alu (alu s i))
    (Alu.dpathRes s.alu (alu s i)) = true
  noLdst : Lsuagu.aguILoad s.alu.agu (Alu.agu s.alu (alu s i)) = false ∧
    Lsuagu.aguIStore s.alu.agu (Alu.agu s.alu (alu s i)) = false

theorem AmoStart.starts (h : AmoStart s i) : Starts s i := by
  have hand := h
  simp only [AmoStart, Lsuagu.stateIdleExitEna, Lsuagu.stateIdleToExit, Bool.and_eq_true,
    Bool.not_eq_true'] at hand
  obtain ⟨⟨⟨hidle, halgn, hempty⟩, hcmd⟩, hflush⟩ := hand
  have hidle' : s.alu.agu.icbStateR = .idle := by simpa [Lsuagu.icbStaIsIdle] using hidle
  have hamo : Lsuagu.aguIAmo s.alu.agu (Alu.agu s.alu (alu s i)) = true :=
    ((Bool.and_eq_true _ _).mp halgn).2
  simp only [Lsuagu.aguIAmo, Bool.and_eq_true, Bool.not_eq_true'] at hamo
  obtain ⟨hbit, hblock⟩ := hamo
  have hagu : Alu.aguOp (alu s i) = true := by
    cases hop : Alu.aguOp (alu s i)
    · simp [Alu.agu, hop] at hbit
    · rfl
  have hgrp : (Decode.decInfo (dec s i)).grp = GRP_AGU :=
    beq_iff_eq.mp ((Bool.and_eq_true _ _).mp hagu).2
  have hinfo : (Alu.agu s.alu (alu s i)).aguIInfo = Decode.aguInfoBus (dec s i) := by
    rw [← (Decode.decInfo_of_grp_agu hgrp).2]
    simp only [Alu.agu, hagu, gate_true]
    rfl
  obtain ⟨hld, hst, -, hword⟩ := Decode.aguInfoBus_bits (d := dec s i)
  rw [hinfo, hword] at hbit
  obtain ⟨hld', hst', -⟩ := Decode.isAmo_exclusive hbit
  have hload : Lsuagu.aguILoad s.alu.agu (Alu.agu s.alu (alu s i)) = false := by
    rw [Lsuagu.aguILoad, hinfo, hld, show Decode.isLoad (dec s i).instr = false from hld']
    rfl
  have hstore : Lsuagu.aguIStore s.alu.agu (Alu.agu s.alu (alu s i)) = false := by
    rw [Lsuagu.aguIStore, hinfo, hst, show Decode.isStore (dec s i).instr = false from hst']
    rfl
  have hexcp : Alu.ifuExcpOp (alu s i) = false := by
    simpa using ((Bool.and_eq_true _ _).mp hagu).1
  have hbuserr : i.iBuserr = false := by
    simp only [Alu.ifuExcpOp, Bool.or_eq_false_iff] at hexcp
    exact hexcp.1.2
  have hvalid : (Alu.agu s.alu (alu s i)).aguIValid = true := by
    have hv := ((Bool.and_eq_true _ _).mp hcmd).1
    cases hvv : (Alu.agu s.alu (alu s i)).aguIValid
    · simp [Lsuagu.aguIcbCmdValid, Lsuagu.aguIAlgnldst, hload, hstore, hvv, Lsuagu.icbStaIsWait2nd,
        hidle'] at hv
    · rfl
  have hdisp : Disp.dispOAluValid (disp s i) = true := ((Bool.and_eq_true _ _).mp hvalid).1
  obtain ⟨hcond, hiv⟩ := (Bool.and_eq_true _ _).mp hdisp
  have hhalt : s.excp.wfiHaltReqR = false := by
    simp only [Disp.dispCondition, Bool.and_eq_true, Bool.not_eq_true'] at hcond
    exact hcond.1.1.2
  have hnoflush : flushReq s i = false := by
    have hreq : (Alu.agu s.alu (alu s i)).flushReq = false := by
      simpa [Lsuagu.flushBlock, hidle] using hblock
    exact hreq
  exact ⟨hidle', hiv, hbit, hagu, hbuserr, hempty, hhalt, hnoflush, hflush, halgn, hload, hstore⟩

/-- Where the atomic operation stands decides which unit the ALU's arbiter selects. -/
theorem aguOp_exclusive (h : Alu.aguOp (alu s i) = true) :
    Alu.ifuExcpOp (alu s i) = false ∧ Alu.aluOp (alu s i) = false ∧ Alu.bjpOp (alu s i) = false ∧
      Alu.csrOp (alu s i) = false ∧ Alu.mdvOp (alu s i) = false := by
  obtain ⟨hexcp, hgrp⟩ := (Bool.and_eq_true _ _).mp h
  have hexcp' : Alu.ifuExcpOp (alu s i) = false := by simpa using hexcp
  have hgrp' : (alu s i).iInfo.grp = GRP_AGU := beq_iff_eq.mp hgrp
  rw [Alu.aluOp, Alu.bjpOp, Alu.csrOp, Alu.mdvOp, hexcp', hgrp']
  decide

/-- An aligned atomic operation does not commit before its state machine has run. -/
theorem not_cmt_of_algnamo (hidle : s.alu.agu.icbStateR = .idle) (hagu : Alu.aguOp (alu s i) = true)
    (halgnamo : Lsuagu.aguIAlgnamo s.alu.agu (Alu.agu s.alu (alu s i))
      (Alu.dpathRes s.alu (alu s i)) = true)
    (hnoLdst : Lsuagu.aguILoad s.alu.agu (Alu.agu s.alu (alu s i)) = false ∧
      Lsuagu.aguIStore s.alu.agu (Alu.agu s.alu (alu s i)) = false) :
    aluCmtValid s i = false ∧ cmtEna s i = false := by
  obtain ⟨hexcp, halu, hbjp, hcsr, hmdv⟩ := aguOp_exclusive hagu
  simp only [Lsuagu.aguIAlgnamo, Bool.and_eq_true, Bool.not_eq_true'] at halgnamo
  have hov : Alu.oValid s.alu (alu s i) = false := by
    simp [Alu.oValid, hexcp, halu, hbjp, hcsr, hmdv, Alu.aguOValid, Lsuagu.aguOValid,
      Lsuagu.icbStaIsLast, Lsuagu.icbStaIsWbck, hidle, Lsuagu.aguIAlgnldst,
      Lsuagu.aguIUnalgnldst, Lsuagu.aguIUnalgnamo, hnoLdst, halgnamo.1]
  have hv : aluCmtValid s i = false := by simp [aluCmtValid, Alu.cmtOValid, hov]
  exact ⟨hv, by simp [cmtEna, Commit.cmtEna, hv]⟩

theorem Starts.not_cmt (h : Starts s i) : aluCmtValid s i = false ∧ cmtEna s i = false :=
  not_cmt_of_algnamo h.idle h.agu h.algnamo h.noLdst

theorem Starts.iReady_eq (h : Starts s i) : iReady s i = false := by
  obtain ⟨hexcp, halu, hbjp, hcsr, hmdv⟩ := aguOp_exclusive h.agu
  have hagu : aluIReady s i = false := by
    simp [aluIReady, Alu.iReady, Alu.aguIReady, Lsuagu.aguIReady, h.algnamo,
      Lsuagu.stateLastExitEna, Lsuagu.stateWbckExitEna, Lsuagu.icbStaIsWbck, h.idle, hexcp, halu,
      hbjp, hcsr, hmdv]
  simp [iReady, Disp.dispIReady, hagu]

theorem Starts.oitfEna_eq (h : Starts s i) : oitfEna s i = false := by
  cases hena : oitfEna s i
  · rfl
  · have hlong := (oitfEna_disReady hena).2.2
    simp [Lsuagu.aguILongpipe, Lsuagu.aguIAlgnldst, h.noLdst] at hlong

/-- An address is taken over as misaligned only for an operation that does not start. -/
theorem step_unalgnFlgR (h : s.alu.agu.unalgnFlgR = false) :
    (step s i).alu.agu.unalgnFlgR = false := by
  have hset : Lsuagu.unalgnFlgSet s.alu.agu (Alu.agu s.alu (alu s i)) (Alu.dpathRes s.alu (alu s i))
      (Alu.aguOp (alu s i) && aluOReady s i) (flushPulse s i) = false := by
    by_contra hset
    have hand := Bool.not_eq_false _ ▸ hset
    obtain ⟨haddr, hstart⟩ := (Bool.and_eq_true _ _).mp hand
    have hs : Starts s i := AmoStart.starts hstart
    have halgn := hs.algnamo
    simp [Lsuagu.aguIAlgnamo, Lsuagu.aguAddrUnalgn, Lsuagu.icbStaIsIdle, hs.idle, haddr] at halgn
  change dfflr (Lsuagu.unalgnFlgSet s.alu.agu _ _ _ _ || _)
    (Lsuagu.unalgnFlgSet s.alu.agu _ _ _ _ || _) s.alu.agu.unalgnFlgR = false
  simp [hset, h, Lsuagu.unalgnFlgClr]

/-! ### An atomic operation that goes on -/

/-- Only the bus holds it up. -/
theorem AmoRun.step_icbStateR (h : AmoRun s i) :
    (step s i).alu.agu.icbStateR =
      Lsuagu.amoNext i.aguIcbRspValid i.aguIcbCmdReady s.alu.agu.icbStateR := by
  have hready : (Alu.aguOp (alu s i) && aluOReady s i) = true := by
    rw [h.ops.2.1, h.ready.2]
    rfl
  have hrsp : (Alu.agu s.alu (alu s i)).aguIcbRspValid = i.aguIcbRspValid := rfl
  have hcmd : (Alu.agu s.alu (alu s i)).aguIcbCmdReady = i.aguIcbCmdReady := rfl
  have hbusy := h.busy
  change Lsuagu.icbStateNxt s.alu.agu _ _ (Alu.aguOp (alu s i) && aluOReady s i)
    (flushPulse s i) = _
  rw [hready, h.flushPulse_eq]
  cases hsta : s.alu.agu.icbStateR
  case idle => exact absurd hsta hbusy
  all_goals
    simp [Lsuagu.icbStateNxt, Lsuagu.stateIdleExitEna, Lsuagu.state1stExitEna,
      Lsuagu.stateAmoaluExitEna, Lsuagu.stateAmordyExitEna, Lsuagu.stateWait2ndExitEna,
      Lsuagu.state2ndExitEna, Lsuagu.stateWbckExitEna, Lsuagu.icbStaIsIdle, Lsuagu.icbStaIs1st,
      Lsuagu.icbStaIsAmoalu, Lsuagu.icbStaIsAmordy, Lsuagu.icbStaIsWait2nd, Lsuagu.icbStaIs2nd,
      Lsuagu.icbStaIsWbck, Lsuagu.aguIcbRspHsked, Lsuagu.aguIcbRspReady, Lsuagu.amoNext, hsta, hrsp,
      hcmd]

theorem AmoRun.icbStateR_step (h : AmoRun s i) (hbusy : (step s i).alu.agu.icbStateR ≠ .idle) :
    s.alu.agu.icbStateR ≠ .wbck := by
  intro hlast
  apply hbusy
  rw [h.step_icbStateR, hlast]
  rfl

theorem AmoRun.oitfEna_eq (h : AmoRun s i) : oitfEna s i = false := by
  cases hena : oitfEna s i
  · rfl
  · have hlong := (oitfEna_disReady hena).2.2
    rw [Lsuagu.aguILongpipe, (h.agu _).2.1] at hlong
    cases hlong

end
end Exu

/-! ## The core -/

namespace Core

/-- What every reachable state satisfies. -/
structure Steady (s : State) : Prop where
  oitf : s.exu.oitf.Ok
  step : s.exu.excp.stepReqR = true → Exu.dbgMode s.exu = false
  unalgn : s.exu.alu.agu.unalgnFlgR = false
  /-- While an atomic operation runs it is in the IR, alone. -/
  amo : s.exu.alu.agu.icbStateR ≠ .idle →
    s.ifu.irValidR = true ∧ Decode.isAmo s.ifu.ifuIrR = true ∧ s.ifu.ifuErrR = false ∧
      Exu.oitfEmpty s.exu = true ∧ s.exu.excp.wfiHaltReqR = false ∧ s.exu.excp.stepReqR = false

section
variable {s : State} {i : In}

theorem Steady.of_reset (h : IsReset s) : Steady s := by
  obtain ⟨-, hoitf, -, hagu, hexcp, -⟩ := h
  refine ⟨.of_reset hoitf, ?_, ?_, ?_⟩
  · rw [hexcp]
    intro hreq
    cases hreq
  · rw [hagu]
    rfl
  · rw [hagu]
    intro hbusy
    exact absurd rfl hbusy

theorem Steady.amoRun (h : Steady s) (i : In) (hbusy : s.exu.alu.agu.icbStateR ≠ .idle) :
    Exu.AmoRun s.exu (exuIn s i) := by
  obtain ⟨hv, hword, herr, hempty, hhalt, hreq⟩ := h.amo hbusy
  exact ⟨hbusy, hv, hword, herr, rfl, hempty, h.oitf, hhalt, hreq, h.unalgn⟩

/-- What the IR holds stays there in a cycle without handshake and flush. -/
theorem step_ifu_of_stay (hv : s.ifu.irValidR = true)
    (hready : Exu.iReady s.exu (exuIn s i) = false)
    (hflush : Exu.pipeFlushReq s.exu (exuIn s i) = false) :
    (step s i).ifu.irValidR = true ∧ (step s i).ifu.ifuIrR = s.ifu.ifuIrR ∧
      (step s i).ifu.ifuErrR = s.ifu.ifuErrR := by
  obtain ⟨hset, hstay⟩ := Ifetch.irValidSet_of_stay (j := ifuIn s i) hv hready hflush
  obtain ⟨hir, herr⟩ := Ifetch.step_ifuIrR_of_not_set hset
  exact ⟨hstay, hir, herr⟩

theorem Steady.amo_step (h : Steady s)
    (hbusy : (Core.step s i).exu.alu.agu.icbStateR ≠ .idle) :
    s.ifu.irValidR = true ∧ Decode.isAmo s.ifu.ifuIrR = true ∧ s.ifu.ifuErrR = false ∧
      Exu.oitfEmpty s.exu = true ∧ s.exu.excp.wfiHaltReqR = false ∧
      s.exu.excp.stepReqR = false ∧ Exu.iReady s.exu (exuIn s i) = false ∧
      Exu.pipeFlushReq s.exu (exuIn s i) = false ∧ Exu.cmtEna s.exu (exuIn s i) = false ∧
      Exu.oitfEna s.exu (exuIn s i) = false := by
  cases hst : decide (s.exu.alu.agu.icbStateR = .idle)
  case false =>
    have hrun := h.amoRun i (of_decide_eq_false hst)
    have hlast := hrun.icbStateR_step hbusy
    obtain ⟨hv, hword, herr, hempty, hhalt, hreq⟩ := h.amo (of_decide_eq_false hst)
    refine ⟨hv, hword, herr, hempty, hhalt, hreq, ?_, ?_, ?_, hrun.oitfEna_eq⟩
    · simp [hrun.iReady_eq, hlast]
    · simp [hrun.pipeFlushReq_eq, hlast]
    · simp [hrun.cmt.2, hlast]
  case true =>
    have hs : Exu.Starts s.exu (exuIn s i) :=
      (Exu.icbStateR_step (of_decide_eq_true hst) hbusy).starts
    have hreq : s.exu.excp.stepReqR = false := by
      cases hreq : s.exu.excp.stepReqR
      · rfl
      · have hraw := hs.noFlushReq
        have hdbg : (Exu.cmtCtl s.exu (exuIn s i)).dbgMode = false := h.step hreq
        simp [Exu.flushReq, Commit.flushReq, Excp.nonaluExcpirqFlushReqRaw,
          Excp.nonaluDbgEntryReqRaw, Excp.dbgEntryMask, hdbg, hreq] at hraw
    exact ⟨hs.valid, hs.word, hs.buserr, hs.empty, hs.halt, hreq, hs.iReady_eq, hs.noFlush,
      hs.not_cmt.2, hs.oitfEna_eq⟩

theorem Steady.next (h : Steady s) (i : In) : Steady (Core.step s i) := by
  refine ⟨Exu.oitf_step h.oitf, Exu.stepReqR_dbgMode h.step, Exu.step_unalgnFlgR h.unalgn, ?_⟩
  intro hbusy
  obtain ⟨hv, hword, herr, hempty, hhalt, hreq, hready, hflush, hcmt, hena⟩ := h.amo_step hbusy
  obtain ⟨hv', hir, herr'⟩ := step_ifu_of_stay hv hready hflush
  obtain ⟨hreq', hhalt'⟩ := Exu.requests_of_not_cmt hcmt hreq hhalt
  exact ⟨hv', hir ▸ hword, herr'.trans herr, Exu.oitfEmpty_step hempty hena, hhalt', hreq'⟩

theorem Steady.run {inp : ℕ → In} (h0 : IsReset s) (t : ℕ) : Steady (run inp s t) :=
  Lib.invariant_stateAt _ (I := fun _ => Steady) t (.of_reset h0) (fun _ _ hu => hu.next _)

end
end Core
end E203
