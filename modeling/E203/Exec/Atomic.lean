import E203.Decode.Memory
import E203.Exec.Oitf
import E203.Rtl.Exu

/-! # An atomic operation under way

* `AmoRun`: the state machine of the address-generation unit has started, and the IR holds the atomic
  operation that it executes.
* `AmoRun.dispatched`, `AmoRun.noEntry`, ...: while it runs nothing else can happen in the stage.
* `AmoRun.cmtEna_eq`, `AmoRun.iReady_eq`: it commits and leaves the IR in its last state.
-/

namespace E203.Exu
set_option autoImplicit false

/-- An atomic operation is under way, and the IR still holds it. -/
structure AmoRun (s : State) (i : In) : Prop where
  busy : s.alu.agu.icbStateR ≠ .idle
  valid : i.iValid = true
  word : Decode.isAmo i.iIr = true
  buserr : i.iBuserr = false
  misalgn : i.iMisalgn = false
  empty : oitfEmpty s = true
  oitf : s.oitf.Ok
  halt : s.excp.wfiHaltReqR = false
  stepReq : s.excp.stepReqR = false
  algn : s.alu.agu.unalgnFlgR = false

section
variable {s : State} {i : In}

/-! ## The units -/

theorem iInfo_of_isAmo (h : Decode.isAmo i.iIr = true) :
    (alu s i).iInfo = Decode.aguInfoBus (dec s i) := by
  have hinfo := (Decode.decInfo_of_isAmo (d := dec s i) h).1
  exact hinfo

theorem ops_of_isAmo (hword : Decode.isAmo i.iIr = true) (hbuserr : i.iBuserr = false)
    (hmisalgn : i.iMisalgn = false) :
    Alu.ifuExcpOp (alu s i) = false ∧ Alu.aguOp (alu s i) = true ∧ Alu.aluOp (alu s i) = false ∧
      Alu.bjpOp (alu s i) = false ∧ Alu.csrOp (alu s i) = false ∧
      Alu.mdvOp (alu s i) = false := by
  have hexcp : Alu.ifuExcpOp (alu s i) = false := by
    have hlegal : (alu s i).iIlegl = false := (Decode.decInfo_of_isAmo (d := dec s i) hword).2
    have hbuserr' : (alu s i).iBuserr = false := hbuserr
    have hmisalgn' : (alu s i).iMisalgn = false := hmisalgn
    rw [Alu.ifuExcpOp, hlegal, hbuserr', hmisalgn']
    rfl
  have hgrp : (alu s i).iInfo.grp = GRP_AGU := by
    rw [iInfo_of_isAmo hword, Decode.aguInfoBus, Decode.bus_grp]
  rw [Alu.aguOp, Alu.aluOp, Alu.bjpOp, Alu.csrOp, Alu.mdvOp, hexcp, hgrp]
  decide

theorem AmoRun.ops (h : AmoRun s i) :
    Alu.ifuExcpOp (alu s i) = false ∧ Alu.aguOp (alu s i) = true ∧ Alu.aluOp (alu s i) = false ∧
      Alu.bjpOp (alu s i) = false ∧ Alu.csrOp (alu s i) = false ∧
      Alu.mdvOp (alu s i) = false := ops_of_isAmo h.word h.buserr h.misalgn

theorem AmoRun.dispatched (h : AmoRun s i) : (alu s i).iValid = true := by
  have hgrp : (disp s i).dispIInfo.grp = GRP_AGU := by
    have hinfo : (disp s i).dispIInfo = Decode.aguInfoBus (dec s i) := iInfo_of_isAmo (s := s) h.word
    rw [hinfo, Decode.aguInfoBus, Decode.bus_grp]
  have hno := h.oitf.oitfrdMatch_of_empty h.empty
  have hdep : Disp.dep (disp s i) = false := by
    simp [Disp.dep, Disp.rawDep, Disp.wawDep, disp, Oitf.oitfrdMatchDisprs1,
      Oitf.oitfrdMatchDisprs2, Oitf.oitfrdMatchDisprd, hno]
  have hready : (disp s i).dispOitfReady = true := Oitf.State.Ok.disReady_of_empty h.empty
  have hhalt : (disp s i).wfiHaltExuReq = false := h.halt
  have hvalid : (disp s i).dispIValid = true := h.valid
  have hcsr : Disp.dispCsr (disp s i) = false := by
    rw [Disp.dispCsr, hgrp]
    rfl
  have hfence : Disp.dispFenceFencei (disp s i) = false := by
    rw [Disp.dispFenceFencei, hgrp]
    rfl
  change Disp.dispOAluValid (disp s i) = true
  simp [Disp.dispOAluValid, Disp.dispCondition, hcsr, hfence, hdep, hready, hhalt, hvalid]

theorem AmoRun.agu (h : AmoRun s i) (res : BitVec 32) :
    Lsuagu.aguIAlgnamo s.alu.agu (Alu.agu s.alu (alu s i)) res = true ∧
      Lsuagu.aguIAlgnldst s.alu.agu (Alu.agu s.alu (alu s i)) res = false ∧
      Lsuagu.aguOCmtMisalgn s.alu.agu (Alu.agu s.alu (alu s i)) res = false ∧
      Lsuagu.aguIAmo s.alu.agu (Alu.agu s.alu (alu s i)) = true := by
  have hinfo : (Alu.agu s.alu (alu s i)).aguIInfo = Decode.aguInfoBus (dec s i) := by
    rw [← iInfo_of_isAmo h.word]
    simp [Alu.agu, h.ops.2.1]
  obtain ⟨hld, hst, -, hamo⟩ := Decode.aguInfoBus_bits (d := dec s i)
  obtain ⟨hld', hst', -⟩ := Decode.isAmo_exclusive h.word
  have hblock : Lsuagu.flushBlock s.alu.agu (Alu.agu s.alu (alu s i)) = false := by
    simp [Lsuagu.flushBlock, Lsuagu.icbStaIsIdle, h.busy]
  have hload : Lsuagu.aguILoad s.alu.agu (Alu.agu s.alu (alu s i)) = false := by
    rw [Lsuagu.aguILoad, hinfo, hld, hblock]
    exact congrArg (· && true) hld'
  have hstore : Lsuagu.aguIStore s.alu.agu (Alu.agu s.alu (alu s i)) = false := by
    rw [Lsuagu.aguIStore, hinfo, hst, hblock]
    exact congrArg (· && true) hst'
  have hamo' : Lsuagu.aguIAmo s.alu.agu (Alu.agu s.alu (alu s i)) = true := by
    rw [Lsuagu.aguIAmo, hinfo, hamo, hblock]
    exact congrArg (· && true) h.word
  have halgn : Lsuagu.aguAddrUnalgn s.alu.agu (Alu.agu s.alu (alu s i)) res = false := by
    simp [Lsuagu.aguAddrUnalgn, Lsuagu.icbStaIsIdle, h.busy, h.algn]
  refine ⟨?_, ?_, ?_, hamo'⟩
  · simp [Lsuagu.aguIAlgnamo, halgn, hamo']
  · simp [Lsuagu.aguIAlgnldst, hload, hstore]
  · simp [Lsuagu.aguOCmtMisalgn, Lsuagu.aguIUnalgnamo, Lsuagu.aguIUnalgnldst, halgn]

/-! ## Nothing interrupts it -/

/-- An empty FIFO retires nothing. -/
theorem noLongp (h : oitfEmpty s = true) :
    longpExcpOValid s i = false ∧ longpWbckOValid s i = false ∧ oitfRetEna s i = false := by
  have hsel : Longpwbck.wbckSelLsu (longpwbck s i) = false := by
    simp [Longpwbck.wbckSelLsu, Longpwbck.wbckReady4lsu, longpwbck, h]
  simp [longpExcpOValid, longpWbckOValid, oitfRetEna, Longpwbck.longpExcpOValid,
    Longpwbck.longpWbckOValid, Longpwbck.oitfRetEna, Longpwbck.wbckIValid, hsel]

theorem AmoRun.amoWait (h : AmoRun s i) : (cmtCtl s i).amoWait = true := by
  change Lsuagu.amoWait s.alu.agu = true
  simp [Lsuagu.amoWait, Lsuagu.icbStaIsIdle, h.busy]

theorem AmoRun.noRequest (h : AmoRun s i) :
    Excp.longpNeedFlush (cmtCtl s i).toCtl = false ∧ Excp.irqReq (cmtCtl s i).toCtl = false ∧
      Excp.nonaluDbgEntryReq s.excp (cmtCtl s i).toCtl = false := by
  have hwait := h.amoWait
  have hlongp : (cmtCtl s i).longpExcpIValid = false := (noLongp h.empty).1
  refine ⟨hlongp, ?_, ?_⟩
  · simp [Excp.irqReq, Excp.irqMask, hwait]
  · simp [Excp.nonaluDbgEntryReq, Excp.dbgStepReq, hwait, h.stepReq]

theorem AmoRun.noEntry (h : AmoRun s i) (v : Bool) :
    Excp.dbgEntryReq s.excp (cmtCtl s i).toCtl (aluCmt s i).toAlu v = false := by
  have hebrk : (aluCmt s i).aluExcpIEbreak = false := by simp [aluCmt, Alu.cmt, h.ops.2.2.1]
  simp [Excp.dbgEntryReq, h.amoWait, Excp.dbgStepReq, h.stepReq, Excp.dbgEbrkReq,
    Excp.aluEbreakmFlushReq, Excp.aluExcpIEbreak4dbg, hebrk]

/-! ## The commit -/

/-- Its only exception is the bus error of one of its accesses. -/
theorem AmoRun.aluNeedFlush (h : AmoRun s i) :
    Excp.aluNeedFlush (cmtCtl s i).toCtl (aluCmt s i).toAlu = s.alu.agu.leftoverErrR := by
  obtain ⟨-, hagu, halu, -, hcsr, -⟩ := h.ops
  obtain ⟨hamo, -, hmis, -⟩ := h.agu (Alu.dpathRes s.alu (alu s i))
  have hlegal : (alu s i).iIlegl = false := (Decode.decInfo_of_isAmo (d := dec s i) h.word).2
  have hbuserr : (alu s i).iBuserr = false := h.buserr
  have hmisalgn : (alu s i).iMisalgn = false := h.misalgn
  simp [Excp.aluNeedFlush, Excp.aluExcpIEbreak4excp, aluCmt, Alu.cmt, hagu, halu, hcsr, hmis,
    hlegal, hbuserr, hmisalgn, Lsuagu.aguOCmtBuserr, hamo]

theorem AmoRun.noBranch (h : AmoRun s i) :
    Branchslv.cmtIIsBranch (Commit.branchslv s.excp (cmtCtl s i) (aluCmt s i)) = false ∧
      Branchslv.brchmisNeedFlush (Commit.branchslv s.excp (cmtCtl s i) (aluCmt s i)) = false := by
  have hbjp := h.ops.2.2.2.1
  simp [Branchslv.cmtIIsBranch, Branchslv.brchmisNeedFlush, Commit.branchslv, aluCmt, Alu.cmt, hbjp]

/-- The stages after the ALU are ready. -/
theorem AmoRun.ready (h : AmoRun s i) : aluCmtReady s i = true ∧ aluOReady s i = true := by
  obtain ⟨hlongp, hirq, hdbg⟩ := h.noRequest
  have hebrk : (aluCmt s i).aluExcpIEbreak = false := by simp [aluCmt, Alu.cmt, h.ops.2.2.1]
  have hempty : (cmtCtl s i).oitfEmpty = true := h.empty
  have hack : (cmtCtl s i).pipeFlushAck = true := rfl
  have hcmt : aluCmtReady s i = true := by
    simp [aluCmtReady, Commit.aluCmtIReady, Excp.aluExcpIReady, Excp.aluEbreakmFlushReqNovld,
      Excp.aluExcpIEbreak4dbg, Excp.aluDbgtrigFlushReqNovld, Excp.aluExcpIReady4nondbg, hebrk,
      hlongp, hirq, hdbg, hempty, hack, Branchslv.cmtIReady, h.noBranch]
  have hwbck : aluWbckOReady s i = true := by
    simp [aluWbckOReady, Wbck.aluWbckIReady, Wbck.wbckReady4alu, Wbck.rfWbckOReady,
      (noLongp h.empty).2.1]
  refine ⟨hcmt, ?_⟩
  simp [aluOReady, Alu.oReady, hcmt, hwbck]

theorem AmoRun.oValid (h : AmoRun s i) :
    Alu.oValid s.alu (alu s i) = decide (s.alu.agu.icbStateR = .wbck) := by
  obtain ⟨hexcp, hagu, halu, hbjp, hcsr, hmdv⟩ := h.ops
  obtain ⟨hamo, hldst, hmis, -⟩ := h.agu (Alu.dpathRes s.alu (alu s i))
  simp only [Lsuagu.aguOCmtMisalgn, Bool.or_eq_false_iff] at hmis
  simp [Alu.oValid, hexcp, hagu, halu, hbjp, hcsr, hmdv, Alu.aguOValid, Lsuagu.aguOValid,
    Lsuagu.icbStaIsLast, Lsuagu.icbStaIsWbck, hldst, hmis.1, hmis.2]

theorem AmoRun.cmt (h : AmoRun s i) :
    aluCmtValid s i = decide (s.alu.agu.icbStateR = .wbck) ∧
      cmtEna s i = decide (s.alu.agu.icbStateR = .wbck) := by
  have hwbck : aluWbckOReady s i = true := by
    simp [aluWbckOReady, Wbck.aluWbckIReady, Wbck.wbckReady4alu, Wbck.rfWbckOReady,
      (noLongp h.empty).2.1]
  have hv : aluCmtValid s i = decide (s.alu.agu.icbStateR = .wbck) := by
    simp [aluCmtValid, Alu.cmtOValid, Alu.oNeedCmt, h.oValid, hwbck]
  have hready : Commit.aluCmtIReady s.excp (cmtCtl s i) (aluCmt s i) = true := h.ready.1
  exact ⟨hv, by rw [cmtEna, Commit.cmtEna, hv, hready, Bool.and_true]⟩

/-- A flush comes only from the commit, for a bus error. -/
theorem AmoRun.pipeFlushReq_eq (h : AmoRun s i) :
    pipeFlushReq s i = (decide (s.alu.agu.icbStateR = .wbck) && s.alu.agu.leftoverErrR) := by
  obtain ⟨hlongp, hirq, -⟩ := h.noRequest
  have hempty : (cmtCtl s i).oitfEmpty = true := h.empty
  simp [pipeFlushReq, Commit.pipeFlushReq, Commit.excpirqFlushReq, Excp.excpirqFlushReq,
    Excp.longpExcpFlushReq, Excp.dbgEntryFlushReq, Excp.irqFlushReq, Excp.aluExcpFlushReq, hlongp,
    hirq, h.noEntry, hempty, h.aluNeedFlush, Commit.aluBrchmisFlushReq, Branchslv.brchmisFlushReq,
    Branchslv.brchmisFlushReqPre, h.noBranch.2, h.cmt.1]

theorem AmoRun.flushPulse_eq (h : AmoRun s i) :
    flushPulse s i = (decide (s.alu.agu.icbStateR = .wbck) && s.alu.agu.leftoverErrR) := by
  rw [← h.pipeFlushReq_eq]
  rfl

theorem AmoRun.iReady_eq (h : AmoRun s i) :
    iReady s i = decide (s.alu.agu.icbStateR = .wbck) := by
  obtain ⟨-, hagu, halu, hbjp, hcsr, hmdv⟩ := h.ops
  obtain ⟨hamo, -⟩ := h.agu (Alu.dpathRes s.alu (alu s i))
  have hdisp : Disp.dispCondition (disp s i) = true :=
    ((Bool.and_eq_true _ _).mp (h.dispatched : Disp.dispOAluValid (disp s i) = true)).1
  simp [iReady, Disp.dispIReady, hdisp, aluIReady, Alu.iReady, Alu.aguIReady, Lsuagu.aguIReady,
    hamo, hagu, halu, hbjp, hcsr, hmdv, Lsuagu.stateLastExitEna, Lsuagu.stateWbckExitEna,
    Lsuagu.icbStaIsWbck, h.ready.2, h.ops.1]

end
end E203.Exu
