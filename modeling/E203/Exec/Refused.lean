import E203.Exec.Handoff

/-! # Blocking without a taker

The commit of an instruction is refused while an event is pending, so that the event can be taken.

* `Exu.Refused`: the instruction would commit were it not for the pending events.
* `Core.refused_iff_taken`: then some event is taken in that cycle, unless the core is asked to halt
  while it steps.
-/

namespace E203
set_option autoImplicit false

namespace Exu

/-- The inputs without the events of the outside. -/
def In.calm (i : In) : In :=
  { i with
    dbgIrqR := false
    extIrqR := false
    sftIrqR := false
    tmrIrqR := false
    lsuOValid := false }

/-- The state without a pending step or halt. -/
def State.calm (s : State) : State :=
  { s with
    excp := { s.excp with stepReqR := false }
    dbg := { s.dbg with haltR := false } }

/-- Only pending events keep the instruction from committing. -/
def Refused (s : State) (i : In) : Prop :=
  i.iValid = true ∧ cmtEna s i = false ∧ cmtEna s.calm i.calm = true

section
variable {s : State} {i : In}

theorem flushReq_calm : flushReq s.calm i.calm = false := by
  have hlongp : longpExcpOValid s.calm i.calm = false := by
    simp [longpExcpOValid, Longpwbck.longpExcpOValid, Longpwbck.wbckIValid, Longpwbck.wbckSelLsu,
      longpwbck, In.calm]
  have hlongp' : Excp.longpNeedFlush (cmtCtl s.calm i.calm).toCtl = false := hlongp
  have hirq : Excp.irqReq (cmtCtl s.calm i.calm).toCtl = false := by
    simp [Excp.irqReq, Excp.irqReqRaw, cmtCtl, In.calm]
  have hdbg : Excp.nonaluDbgEntryReqRaw s.calm.excp (cmtCtl s.calm i.calm).toCtl = false := by
    simp [Excp.nonaluDbgEntryReqRaw, cmtCtl, In.calm, State.calm]
  rw [flushReq, Commit.flushReq, Excp.nonaluExcpirqFlushReqRaw, hlongp', hirq, hdbg]
  rfl

/-- The ALU sees the events through the flush only. -/
theorem alu_calm (hreq : flushReq s i = false) : alu s.calm i.calm = alu s i := by
  have hcalm : alu s.calm i.calm = { alu s i with flushReq := flushReq s.calm i.calm } := rfl
  rw [hcalm, flushReq_calm, ← hreq]
  rfl

/-- Without events, an empty FIFO and a valid PC are all the commit stage asks for. -/
theorem aluCmtReady_of_no_event (hempty : oitfEmpty s = true) (hpc : i.iPcVld = true)
    (hreq : flushReq s i = false) (hwait : (cmtCtl s i).amoWait = false) :
    aluCmtReady s i = true := by
  have hraw : Excp.nonaluExcpirqFlushReqRaw s.excp (cmtCtl s i).toCtl = false := hreq
  have hand := hraw
  rw [Excp.nonaluExcpirqFlushReqRaw_eq hwait] at hand
  simp only [Bool.or_eq_false_iff] at hand
  obtain ⟨⟨hlongp, hdbg, -⟩, hirq⟩ := hand
  have hempty' : (cmtCtl s i).oitfEmpty = true := hempty
  have hack : (cmtCtl s i).pipeFlushAck = true := rfl
  have hpc' : (aluCmt s i).aluExcpIPcVld = true := hpc
  have hexcp : Excp.aluExcpIReady s.excp (cmtCtl s i).toCtl (aluCmt s i).toAlu
      (cmtCtl s i).pipeFlushAck = true := by
    simp [Excp.aluExcpIReady, Excp.aluExcpIReady4dbg, Excp.aluExcpIReady4nondbg, hempty', hack,
      hpc', hlongp, hdbg, hirq]
  have hbr : Branchslv.cmtIReady (branchslv s i) = true := by
    have hraw' : (branchslv s i).nonaluExcpirqFlushReqRaw = false := hraw
    have hack' : (branchslv s i).brchmisFlushAck = true := rfl
    simp [Branchslv.cmtIReady, Branchslv.brchmisFlushAckPre, hraw', hack']
  exact (Bool.and_eq_true _ _).mpr ⟨hexcp, hbr⟩

/-- A refused instruction is held up by a flush from outside the ALU. -/
theorem Refused.flushReq (h : Refused s i) (hempty : oitfEmpty s = true) (hpc : i.iPcVld = true)
    (hwait : (cmtCtl s i).amoWait = false) : Exu.flushReq s i = true := by
  by_contra hreq
  rw [Bool.not_eq_true] at hreq
  obtain ⟨-, hno, hcalm⟩ := h
  have hwbck : aluWbckOReady s i = true := by
    simp [aluWbckOReady, Wbck.aluWbckIReady, Wbck.wbckReady4alu, Wbck.rfWbckOReady,
      (noLongp hempty).2.1]
  have hvalid : Alu.oValid s.alu (alu s i) = true := by
    have hand := ((Bool.and_eq_true _ _).mp hcalm).1
    rw [aluCmtValid, Alu.cmtOValid, alu_calm hreq, Bool.and_eq_true, Bool.and_eq_true] at hand
    exact hand.1.2
  have hready := aluCmtReady_of_no_event hempty hpc hreq hwait
  have hcmt : cmtEna s i = true := by
    have hready' : Commit.aluCmtIReady s.excp (cmtCtl s i) (aluCmt s i) = true := hready
    simp [cmtEna, Commit.cmtEna, aluCmtValid, Alu.cmtOValid, Alu.oNeedCmt, hvalid, hwbck, hready']
  rw [hcmt] at hno
  cases hno

theorem Refused.no_breakpoint (h : Refused s i) (hempty : oitfEmpty s = true)
    (hpc : i.iPcVld = true) :
    Excp.aluEbreakmFlushReq (cmtCtl s i).toCtl (aluCmt s i).toAlu (aluCmtValid s i) = false := by
  by_contra hbrk
  obtain ⟨hvalid, hebrk⟩ := (Bool.and_eq_true _ _).mp (Bool.not_eq_false _ ▸ hbrk)
  have hlongp : Excp.longpNeedFlush (cmtCtl s i).toCtl = false := (noLongp hempty).1
  have hempty' : (cmtCtl s i).oitfEmpty = true := hempty
  have hack : (cmtCtl s i).pipeFlushAck = true := rfl
  have hpc' : (aluCmt s i).aluExcpIPcVld = true := hpc
  have hbjp : Alu.bjpOp (alu s i) = false := by
    have halu : Alu.aluOp (alu s i) = true := by
      simp only [Excp.aluExcpIEbreak4dbg, Bool.and_eq_true] at hebrk
      exact ((Bool.and_eq_true _ _).mp hebrk.1.1.1).1
    obtain ⟨-, halu', -, hbjp, -⟩ := Alu.op_eq (alu s i)
    rw [hbjp, of_decide_eq_true (halu'.symm.trans halu)]
    rfl
  have hbr : Branchslv.cmtIReady (branchslv s i) = true := by
    rw [Branchslv.cmtIReady, cmtIIsBranch_of_not_bjp hbjp]
    rfl
  have hexcp : Excp.aluExcpIReady s.excp (cmtCtl s i).toCtl (aluCmt s i).toAlu
      (cmtCtl s i).pipeFlushAck = true := by
    simp [Excp.aluExcpIReady, Excp.aluEbreakmFlushReqNovld, hebrk, Excp.aluExcpIReady4dbg, hempty',
      hack, hpc', hlongp]
  have hready : Commit.aluCmtIReady s.excp (cmtCtl s i) (aluCmt s i) = true :=
    (Bool.and_eq_true _ _).mpr ⟨hexcp, hbr⟩
  have hcmt : cmtEna s i = true := (Bool.and_eq_true _ _).mpr ⟨hvalid, hready⟩
  rw [h.2.1] at hcmt
  cases hcmt

/-- A long-pipe exception, a debug entry or an interrupt is taken. -/
def EventTaken (s : State) (i : In) : Prop :=
  Excp.longpExcpFlushReq (cmtCtl s i).toCtl = true ∨
    Excp.dbgEntryFlushReq s.excp (cmtCtl s i).toCtl (aluCmt s i).toAlu (aluCmtValid s i) = true ∨
    Excp.irqFlushReq s.excp (cmtCtl s i).toCtl (aluCmt s i).toAlu (aluCmtValid s i) = true

theorem Refused.taken_iff (h : Refused s i) (hempty : oitfEmpty s = true)
    (hamo : amoWait s = false) (hpc : i.iPcVld = true) :
    EventTaken s i ↔ Excp.haltStep s.excp (cmtCtl s i).toCtl = false := by
  have hwait : (cmtCtl s i).amoWait = false := hamo
  have hlongp : Excp.longpNeedFlush (cmtCtl s i).toCtl = false := (noLongp hempty).1
  have hempty' : (cmtCtl s i).oitfEmpty = true := hempty
  have hpc' : (aluCmt s i).aluExcpIPcVld = true := hpc
  have hraw : Excp.nonaluExcpirqFlushReqRaw s.excp (cmtCtl s i).toCtl = true :=
    h.flushReq hempty hpc hwait
  rw [Excp.nonaluExcpirqFlushReqRaw_eq hwait, hlongp, Bool.false_or, Bool.or_eq_true,
    Bool.or_eq_true] at hraw
  have hentry := Excp.dbgEntryReq_eq (s := s.excp) (c := (cmtCtl s i).toCtl)
    (a := (aluCmt s i).toAlu) (v := aluCmtValid s i)
  rw [h.no_breakpoint hempty hpc, Bool.and_false, Bool.or_false] at hentry
  simp only [EventTaken, Excp.longpExcpFlushReq, Excp.dbgEntryFlushReq, Excp.irqFlushReq, hlongp,
    hempty', hpc', hentry]
  cases hhalt : Excp.haltStep s.excp (cmtCtl s i).toCtl
  case true =>
    obtain ⟨hdbg, hirq⟩ := Excp.haltStep_exclusive hhalt
    simp [hdbg, hirq]
  case false =>
    cases hdbg : Excp.nonaluDbgEntryReq s.excp (cmtCtl s i).toCtl
    case true => simp
    case false =>
      have hirq : Excp.irqReq (cmtCtl s i).toCtl = true := by
        simpa [hdbg, hhalt] using hraw
      simp [hirq]

end
end Exu

/-! ## Runs of the core -/

namespace Core

/-- An instruction refused in a run is refused for an event that is taken, in exactly the cycles in
which the core is not asked to halt while it steps. -/
theorem refused_iff_taken (inp : ℕ → In) (s : State) (t : ℕ)
    (hrefused : Exu.Refused (run inp s t).exu (exuIn (run inp s t) (inp t)))
    (hempty : Exu.oitfEmpty (run inp s t).exu = true)
    (hamo : Exu.amoWait (run inp s t).exu = false)
    (hpc : (run inp s t).ifu.irPcVldR = true) :
    Exu.EventTaken (run inp s t).exu (exuIn (run inp s t) (inp t)) ↔
      Excp.haltStep (run inp s t).exu.excp
        (Exu.cmtCtl (run inp s t).exu (exuIn (run inp s t) (inp t))).toCtl = false :=
  hrefused.taken_iff hempty hamo hpc

/-- The first instruction of the run is refused for the debug interrupt, which is taken. -/
theorem refused_iff_taken_dbgIrq :
    Exu.EventTaken (run (haltStepInp 0x0000006f#32) zeroState 3).exu
      (exuIn (run (haltStepInp 0x0000006f#32) zeroState 3) (haltStepInp 0x0000006f#32 3)) := by
  refine (refused_iff_taken (haltStepInp 0x0000006f#32) zeroState 3 ⟨?_, ?_, ?_⟩ ?_ ?_ ?_).mpr ?_
  all_goals decide +kernel

/-- The jump that comes after the `DRET` is refused and nothing is taken. -/
theorem haltStepInp_blocks_jump :
    IsReset zeroState ∧
      ¬(Exu.Refused (run (haltStepInp 0x0000006f#32) zeroState 9).exu
            (exuIn (run (haltStepInp 0x0000006f#32) zeroState 9) (haltStepInp 0x0000006f#32 9)) →
          Exu.oitfEmpty (run (haltStepInp 0x0000006f#32) zeroState 9).exu = true →
          Exu.amoWait (run (haltStepInp 0x0000006f#32) zeroState 9).exu = false →
          (run (haltStepInp 0x0000006f#32) zeroState 9).ifu.irPcVldR = true →
          Exu.longpWbckOValid (run (haltStepInp 0x0000006f#32) zeroState 9).exu
            (exuIn (run (haltStepInp 0x0000006f#32) zeroState 9)
              (haltStepInp 0x0000006f#32 9)) = false →
          Exu.EventTaken (run (haltStepInp 0x0000006f#32) zeroState 9).exu
            (exuIn (run (haltStepInp 0x0000006f#32) zeroState 9)
              (haltStepInp 0x0000006f#32 9))) := by
  refine ⟨State.isReset_reset _, fun htaken => ?_⟩
  obtain h | h | h := htaken ⟨by decide +kernel, by decide +kernel, by decide +kernel⟩
    (by decide +kernel) (by decide +kernel) (by decide +kernel) (by decide +kernel)
  all_goals
    revert h
    decide +kernel

/-- It does not leave the IR. -/
example :
    (run (haltStepInp 0x0000006f#32) zeroState 9).ifu.irValidR = true ∧
      (run (haltStepInp 0x0000006f#32) zeroState 12).ifu.irValidR = true := by
  decide +kernel

end Core
end E203
