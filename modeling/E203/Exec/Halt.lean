import E203.Exec.Events

/-! # The WFI halt request and flushes

A committed WFI asks for a halt until an interrupt or a debug entry.  An older load or store may still
be outstanding then, and its bus error flushes the pipeline without touching the request.

* `Core.LateBusError`: this happens.
* `Core.halt_flush_exclusive`: halt and flush exclude each other, and a flush ends the request, exactly
  when it does not happen.
-/

namespace E203
set_option autoImplicit false

namespace Exu
section
variable {s : State} {i : In}

/-! ## While a halt request is pending -/

theorem aluCmtValid_of_halt (hhalt : s.excp.wfiHaltReqR = true)
    (hidle : s.alu.agu.icbStateR = .idle) : aluCmtValid s i = false := by
  have hreq : (disp s i).wfiHaltExuReq = true := hhalt
  have hiv : (alu s i).iValid = false := by
    change Disp.dispOAluValid (disp s i) = false
    simp [Disp.dispOAluValid, Disp.dispCondition, hreq]
  simp [aluCmtValid, Alu.cmtOValid, aluOValid_eq_false hiv hidle]

theorem pipeFlushReq_of_not_valid (hv : aluCmtValid s i = false) :
    pipeFlushReq s i =
      (longpExcpOValid s i ||
        Excp.dbgEntryFlushReq s.excp (cmtCtl s i).toCtl (aluCmt s i).toAlu false ||
        Excp.irqFlushReq s.excp (cmtCtl s i).toCtl (aluCmt s i).toAlu false) := by
  rw [pipeFlushReq, Commit.pipeFlushReq, Commit.excpirqFlushReq, hv]
  simp [Excp.excpirqFlushReq, Excp.longpExcpFlushReq, Excp.aluExcpFlushReq, Excp.longpNeedFlush,
    Commit.aluBrchmisFlushReq, Branchslv.brchmisFlushReq, Branchslv.brchmisFlushReqPre]
  rfl

theorem dbgEntryReq_of_not_valid :
    Excp.dbgEntryReq s.excp (cmtCtl s i).toCtl (aluCmt s i).toAlu false =
      Excp.nonaluDbgEntryReq s.excp (cmtCtl s i).toCtl := by
  rw [Excp.dbgEntryReq_eq]
  simp [Excp.aluEbreakmFlushReq]

/-- An interrupt that is taken also wakes the core up. -/
theorem wfiIrqReq_of_irqReq (c : Excp.Ctl) (h : Excp.irqReq c = true) :
    Excp.wfiIrqReq c = true := by
  simp only [Excp.irqReq, Excp.irqMask, Bool.and_eq_true, Bool.not_eq_true',
    Bool.or_eq_false_iff] at h
  simp [Excp.wfiIrqReq, Excp.wfiIrqMask, h]

/-! ## A WFI that commits -/

theorem wfi_word (h : (aluCmt s i).aluExcpIWfi = true) :
    Alu.aluOp (alu s i) = true ∧ Decode.rv32Wfi i.iIr = true ∧
      (alu s i).iInfo = Decode.aluInfoBus (dec s i) := by
  obtain ⟨halu, hbit⟩ := (Bool.and_eq_true _ _).mp h
  have hgrp : (Decode.decInfo (dec s i)).grp = GRP_ALU :=
    beq_iff_eq.mp ((Bool.and_eq_true _ _).mp halu).2
  have hinfo : (alu s i).iInfo = gate (Decode.aluOp i.iIr) (Decode.aluInfoBus (dec s i)) :=
    Decode.decInfo_of_grp_alu hgrp
  have hwfi : (Alu.rglr (alu s i)).aluIInfo = (alu s i).iInfo := by
    rw [Alu.rglr, halu]
    rfl
  rw [Rglr.aluOCmtWfi, Rglr.wfi, hwfi, hinfo] at hbit
  cases hop : Decode.aluOp i.iIr
  · simp [hop] at hbit
  · rw [hop, gate_true] at hbit hinfo
    rw [Decode.aluInfoBus_bits.2.2] at hbit
    exact ⟨halu, hbit, hinfo⟩

theorem wfi_plain (h : (aluCmt s i).aluExcpIWfi = true) :
    Excp.aluNeedFlush (cmtCtl s i).toCtl (aluCmt s i).toAlu = false ∧
      (aluCmt s i).aluExcpIEbreak = false ∧ Alu.bjpOp (alu s i) = false := by
  obtain ⟨halu, hwfi, hinfo⟩ := wfi_word h
  obtain ⟨hexcp, halu', hagu, hbjp, hcsr, -⟩ := Alu.op_eq (alu s i)
  have hop : Alu.op (alu s i) = .alu := of_decide_eq_true (halu'.symm.trans halu)
  simp only [hop, reduceCtorEq, decide_false] at hexcp hagu hbjp hcsr
  have hbits : (Alu.rglr (alu s i)).aluIInfo = Decode.aluInfoBus (dec s i) := by
    rw [Alu.rglr, halu, hinfo]
    rfl
  obtain ⟨hecall, hebreak, -⟩ := Decode.aluInfoBus_bits (d := dec s i)
  obtain ⟨hno, hno', hno''⟩ := Decode.wfi_disjoint hwfi
  have hebrk : (aluCmt s i).aluExcpIEbreak = false := by
    have hbit : Rglr.aluOCmtEbreak (Alu.rglr (alu s i)) = false := by
      rw [Rglr.aluOCmtEbreak, Rglr.ebreak, hbits, hebreak]
      exact Bool.or_eq_false_iff.mpr ⟨hno', hno''⟩
    simp [aluCmt, Alu.cmt, hbit]
  have hecall' : (aluCmt s i).aluExcpIEcall = false := by
    have hbit : Rglr.aluOCmtEcall (Alu.rglr (alu s i)) = false := by
      rw [Rglr.aluOCmtEcall, Rglr.ecall, hbits, hecall]
      exact hno
    simp [aluCmt, Alu.cmt, hbit]
  simp only [Alu.ifuExcpOp, Bool.or_eq_false_iff] at hexcp
  refine ⟨?_, hebrk, hbjp⟩
  rw [Excp.aluNeedFlush, Excp.aluExcpIEbreak4excp, hebrk, hecall']
  simp [aluCmt, Alu.cmt, hagu, hexcp, hcsr]

/-- No flush in the cycle in which a WFI commits. -/
theorem pipeFlushReq_of_wfi (h : (aluCmt s i).aluExcpIWfi = true) (hcmt : cmtEna s i = true) :
    pipeFlushReq s i = false := by
  obtain ⟨hneed, hebrk, hbjp⟩ := wfi_plain h
  have hready := ((Bool.and_eq_true _ _).mp ((Bool.and_eq_true _ _).mp hcmt).2).1
  have hebrk' : Excp.aluExcpIEbreak4dbg (cmtCtl s i).toCtl (aluCmt s i).toAlu = false := by
    simp [Excp.aluExcpIEbreak4dbg, hebrk]
  obtain ⟨hirq, hdbg, hlongp, -⟩ := Excp.events_of_ready hready hebrk'
  have hexcp : Commit.excpirqFlushReq s.excp (cmtCtl s i) (aluCmt s i) (aluCmtValid s i) =
      false := by
    rw [Commit.excpirqFlushReq, Excp.excpirqFlushReq_of_no_event hirq hdbg hlongp, hneed]
    · simp
    · simp [Excp.aluEbreakmFlushReq, hebrk']
  rw [pipeFlushReq, Commit.pipeFlushReq, hexcp]
  simp [Commit.aluBrchmisFlushReq, Branchslv.brchmisFlushReq, Branchslv.brchmisFlushReqPre,
    Branchslv.brchmisNeedFlush, Commit.branchslv, aluCmt, Alu.cmt, hbjp]

/-! ## The next halt request -/

theorem step_wfiHaltReqR :
    (step s i).excp.wfiHaltReqR =
      (!Excp.wfiHaltReqClr s.excp (cmtCtl s i).toCtl (aluCmt s i).toAlu (aluCmtValid s i) &&
        (Excp.wfiHaltReqSet (cmtCtl s i).toCtl (aluCmt s i).toAlu (cmtEna s i) ||
          s.excp.wfiHaltReqR)) := by
  change dfflr (Excp.wfiHaltReqSet _ _ (cmtEna s i) || Excp.wfiHaltReqClr _ _ _ (aluCmtValid s i))
    (Excp.wfiHaltReqSet _ _ (cmtEna s i) && !Excp.wfiHaltReqClr _ _ _ (aluCmtValid s i)) _ = _
  cases Excp.wfiHaltReqSet (cmtCtl s i).toCtl (aluCmt s i).toAlu (cmtEna s i) <;>
    cases Excp.wfiHaltReqClr s.excp (cmtCtl s i).toCtl (aluCmt s i).toAlu (aluCmtValid s i) <;>
    simp

/-- With a request pending, only the clear ends it. -/
theorem step_wfiHaltReqR_of_halt (hhalt : s.excp.wfiHaltReqR = true) :
    (step s i).excp.wfiHaltReqR =
      !Excp.wfiHaltReqClr s.excp (cmtCtl s i).toCtl (aluCmt s i).toAlu (aluCmtValid s i) := by
  rw [step_wfiHaltReqR, hhalt, Bool.or_true, Bool.and_true]

/-- Without one, a flush starts none. -/
theorem step_wfiHaltReqR_of_flush (hhalt : s.excp.wfiHaltReqR = false)
    (hflush : pipeFlushReq s i = true) : (step s i).excp.wfiHaltReqR = false := by
  have hset : Excp.wfiHaltReqSet (cmtCtl s i).toCtl (aluCmt s i).toAlu (cmtEna s i) = false := by
    cases hset : Excp.wfiHaltReqSet (cmtCtl s i).toCtl (aluCmt s i).toAlu (cmtEna s i)
    · rfl
    · simp only [Excp.wfiHaltReqSet, Bool.and_eq_true] at hset
      rw [pipeFlushReq_of_wfi hset.1.1 hset.1.2] at hflush
      cases hflush
  rw [step_wfiHaltReqR, hset, hhalt, Bool.or_false, Bool.and_false]

end
end Exu

/-! ## Runs of the core -/

namespace Core

/-- The bus error of an older load or store comes back while the halt request of a WFI is pending and
neither an interrupt nor a debug entry ends it. -/
def LateBusError (s : State) (i : In) : Prop :=
  s.exu.excp.wfiHaltReqR = true ∧ Exu.longpExcpOValid s.exu (exuIn s i) = true ∧
    Excp.wfiIrqReq (Exu.cmtCtl s.exu (exuIn s i)).toCtl = false ∧
    Excp.nonaluDbgEntryReq s.exu.excp (Exu.cmtCtl s.exu (exuIn s i)).toCtl = false

section
variable {s : State} {i : In}

/-- One cycle: halt and flush exclude each other and a flush ends the halt request, exactly without a
late bus error. -/
theorem Steady.halt_flush (h : Steady s) :
    (¬(Exu.wfiHaltIfuReq s.exu (exuIn s i) = true ∧ Exu.pipeFlushReq s.exu (exuIn s i) = true) ∧
      (Exu.pipeFlushReq s.exu (exuIn s i) = true →
        (Core.step s i).exu.excp.wfiHaltReqR = false)) ↔ ¬LateBusError s i := by
  cases hhalt : s.exu.excp.wfiHaltReqR
  case false =>
    have hno : Exu.wfiHaltIfuReq s.exu (exuIn s i) = false := by
      simp [Exu.wfiHaltIfuReq, Excp.wfiHaltIfuReq, hhalt]
    have hnext : Exu.pipeFlushReq s.exu (exuIn s i) = true →
        (Core.step s i).exu.excp.wfiHaltReqR = false := Exu.step_wfiHaltReqR_of_flush hhalt
    simpa [LateBusError, hhalt, hno] using hnext
  case true =>
    have hidle : s.exu.alu.agu.icbStateR = .idle := by
      by_contra hbusy
      rw [(h.amo hbusy).2.2.2.2.1] at hhalt
      cases hhalt
    have hv := Exu.aluCmtValid_of_halt (i := exuIn s i) hhalt hidle
    have hclr : Excp.wfiHaltReqClr s.exu.excp (Exu.cmtCtl s.exu (exuIn s i)).toCtl
          (Exu.aluCmt s.exu (exuIn s i)).toAlu (Exu.aluCmtValid s.exu (exuIn s i)) =
        (Excp.wfiIrqReq (Exu.cmtCtl s.exu (exuIn s i)).toCtl ||
          Excp.nonaluDbgEntryReq s.exu.excp (Exu.cmtCtl s.exu (exuIn s i)).toCtl) := by
      rw [Excp.wfiHaltReqClr, Excp.wfiFlagClr, hv, Exu.dbgEntryReq_of_not_valid]
    have hifu : Exu.wfiHaltIfuReq s.exu (exuIn s i) =
        !(Excp.wfiIrqReq (Exu.cmtCtl s.exu (exuIn s i)).toCtl ||
          Excp.nonaluDbgEntryReq s.exu.excp (Exu.cmtCtl s.exu (exuIn s i)).toCtl) := by
      rw [Exu.wfiHaltIfuReq, Excp.wfiHaltIfuReq, hclr, hhalt, Bool.true_and]
    have hnext : (Core.step s i).exu.excp.wfiHaltReqR = _ := Exu.step_wfiHaltReqR_of_halt hhalt
    rw [hclr] at hnext
    rw [hifu, hnext, Exu.pipeFlushReq_of_not_valid hv]
    cases hwake : Excp.wfiIrqReq (Exu.cmtCtl s.exu (exuIn s i)).toCtl
    case true => simp [LateBusError, hwake]
    case false =>
      cases hdbg : Excp.nonaluDbgEntryReq s.exu.excp (Exu.cmtCtl s.exu (exuIn s i)).toCtl
      case true => simp [LateBusError, hdbg]
      case false =>
        have hirq : Excp.irqReq (Exu.cmtCtl s.exu (exuIn s i)).toCtl = false := by
          by_contra hirq
          rw [Exu.wfiIrqReq_of_irqReq _ (Bool.not_eq_false _ ▸ hirq)] at hwake
          cases hwake
        simp [LateBusError, hhalt, hwake, hdbg, Excp.dbgEntryFlushReq, Excp.irqFlushReq, hirq,
          Exu.dbgEntryReq_of_not_valid]

/-- Halt and flush are mutually exclusive, and a flush ends the halt request, in exactly the cycles
without a late bus error. -/
theorem halt_flush_exclusive {inp : ℕ → In} (h0 : IsReset s) (t : ℕ) :
    (¬(Exu.wfiHaltIfuReq (run inp s t).exu (exuIn (run inp s t) (inp t)) = true ∧
          Exu.pipeFlushReq (run inp s t).exu (exuIn (run inp s t) (inp t)) = true) ∧
        (Exu.flushPulse (run inp s t).exu (exuIn (run inp s t) (inp t)) = true →
          (run inp s (t + 1)).exu.excp.wfiHaltReqR = false)) ↔
      ¬LateBusError (run inp s t) (inp t) :=
  (Steady.run h0 t).halt_flush

end

/-- A load, then `WFI`; the load's bus error comes back four cycles later. -/
def lateBusError (t : ℕ) : In :=
  { In.quiet with
    ifuRspValid := t == 2 || t == 3
    ifuRspInstr := if t = 2 then 0x00002083#32 else 0x10500073#32
    lsuOValid := t == 6
    lsuOWbckErr := true
    lsuOCmtBuserr := true
    lsuOCmtLd := true }

theorem halt_flush_exclusive_lateBusError :
    ¬(Exu.wfiHaltIfuReq (run lateBusError zeroState 5).exu
            (exuIn (run lateBusError zeroState 5) (lateBusError 5)) = true ∧
          Exu.pipeFlushReq (run lateBusError zeroState 5).exu
            (exuIn (run lateBusError zeroState 5) (lateBusError 5)) = true) := by
  have hno : ¬LateBusError (run lateBusError zeroState 5) (lateBusError 5) := by
    intro hlate
    have hlongp : Exu.longpExcpOValid (run lateBusError zeroState 5).exu
        (exuIn (run lateBusError zeroState 5) (lateBusError 5)) = false := by decide +kernel
    rw [hlate.2.1] at hlongp
    cases hlongp
  exact ((halt_flush_exclusive (State.isReset_reset _) 5).mpr hno).1

/-- The flush of the bus error comes during the halt and leaves the request standing. -/
theorem lateBusError_halted :
    IsReset zeroState ∧
      (∀ t, RspOutstanding (lateBusError t) (run lateBusError zeroState t)) ∧
      Exu.wfiHaltIfuReq (run lateBusError zeroState 6).exu
          (exuIn (run lateBusError zeroState 6) (lateBusError 6)) = true ∧
      Exu.pipeFlushReq (run lateBusError zeroState 6).exu
          (exuIn (run lateBusError zeroState 6) (lateBusError 6)) = true ∧
      (run lateBusError zeroState 7).exu.excp.wfiHaltReqR = true := by
  refine ⟨State.isReset_reset _, fun t hv => ?_, by decide +kernel, by decide +kernel,
    by decide +kernel⟩
  have ht : t = 2 ∨ t = 3 := by simpa [lateBusError] using hv
  clear hv
  obtain rfl | rfl := ht
  all_goals decide +kernel

/-- The halt goes on behind the flush, and nothing comes into the IR. -/
example :
    Exu.wfiHaltIfuReq (run lateBusError zeroState 8).exu
        (exuIn (run lateBusError zeroState 8) (lateBusError 8)) = true ∧
      (run lateBusError zeroState 8).ifu.irValidR = false := by
  decide +kernel

end Core
end E203
