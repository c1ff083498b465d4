import E203.Branch.Resolve
import E203.Exec.Steady

/-! # Pending events and the commit of an instruction

* `Excp.haltStep`: the one combination of pending debug events that the flush of the ALU takes into
  account and the debug entry does not.
* `Alu.op`: the unit that an instruction goes to.
* `Exu.aluCmtReady_of_plain`: what an instruction waits for before it commits.
-/

namespace E203
set_option autoImplicit false

/-! ## The exception unit -/

namespace Excp

/-- A halt request while stepping, and nothing of higher priority. -/
def haltStep (s : State) (c : Ctl) : Bool :=
  !c.dbgMode && c.dbgHaltR && c.dbgStepR && !c.dbgIrqR && !s.stepReqR

section
variable {s : State} {c : Ctl} {a : Alu} {v : Bool}

theorem nonaluDbgEntryReqRaw_eq (hamo : c.amoWait = false) :
    nonaluDbgEntryReqRaw s c = (nonaluDbgEntryReq s c || haltStep s c) := by
  simp only [nonaluDbgEntryReqRaw, nonaluDbgEntryReq, nonaluDbgIrqReq, nonaluDbgHaltReq,
    dbgStepReq, dbgEntryMask, haltStep, hamo]
  cases c.dbgMode <;> cases c.dbgIrqR <;> cases c.dbgHaltR <;> cases s.stepReqR <;>
    cases c.dbgStepR <;> rfl

theorem nonaluExcpirqFlushReqRaw_eq (hamo : c.amoWait = false) :
    nonaluExcpirqFlushReqRaw s c =
      (longpNeedFlush c || (nonaluDbgEntryReq s c || haltStep s c) || irqReq c) := by
  rw [nonaluExcpirqFlushReqRaw, nonaluDbgEntryReqRaw_eq hamo]

theorem haltStep_exclusive (h : haltStep s c = true) :
    nonaluDbgEntryReq s c = false ∧ irqReq c = false := by
  simp only [haltStep, Bool.and_eq_true, Bool.not_eq_true'] at h
  obtain ⟨⟨⟨⟨-, -⟩, hstep⟩, hirq⟩, hreq⟩ := h
  constructor
  · simp [nonaluDbgEntryReq, nonaluDbgIrqReq, nonaluDbgHaltReq, dbgStepReq, hstep, hirq, hreq]
  · simp [irqReq, irqMask, hstep]

/-- The offered instruction adds its own breakpoint to the reasons to enter debug mode. -/
theorem dbgEntryReq_eq :
    dbgEntryReq s c a v =
      (nonaluDbgEntryReq s c || (!c.dbgMode && !s.stepReqR && aluEbreakmFlushReq c a v)) := by
  simp only [dbgEntryReq, nonaluDbgEntryReq, nonaluDbgIrqReq, nonaluDbgHaltReq, dbgIrqReq,
    dbgHaltReq, dbgTrigReq, dbgEbrkReq, dbgStepReq, dbgEntryMask, aluDbgtrigFlushReq]
  cases aluEbreakmFlushReq c a v <;> cases c.dbgMode <;> cases c.dbgIrqR <;>
    cases s.stepReqR <;> cases c.amoWait <;> simp

/-- An instruction other than a breakpoint commits only when no event is pending. -/
theorem events_of_ready {ack : Bool} (hready : aluExcpIReady s c a ack = true)
    (hebrk : aluExcpIEbreak4dbg c a = false) :
    irqReq c = false ∧ nonaluDbgEntryReq s c = false ∧ longpNeedFlush c = false ∧
      (aluNeedFlush c a = true → c.oitfEmpty = true) := by
  have hnondbg : aluExcpIReady4nondbg s c a ack = true := by
    simpa [aluExcpIReady, aluEbreakmFlushReqNovld, hebrk, aluDbgtrigFlushReqNovld] using hready
  cases hneed : aluNeedFlush c a <;>
    simp only [aluExcpIReady4nondbg, hneed, Bool.and_eq_true, Bool.not_eq_true', ite_true,
      Bool.false_eq_true, ite_false] at hnondbg <;> simp [hnondbg]

theorem excpirqFlushReq_of_no_event (hirq : irqReq c = false)
    (hdbg : nonaluDbgEntryReq s c = false) (hlongp : longpNeedFlush c = false)
    (hebrk : aluEbreakmFlushReq c a v = false) :
    excpirqFlushReq s c a v = (v && aluNeedFlush c a && c.oitfEmpty) := by
  have hentry : dbgEntryReq s c a v = false := by
    rw [dbgEntryReq_eq, hdbg, hebrk]
    simp
  simp [excpirqFlushReq, longpExcpFlushReq, dbgEntryFlushReq, irqFlushReq, aluExcpFlushReq, hirq,
    hlongp, hentry]

end
end Excp

/-! ## The unit of an instruction -/

namespace Alu

/-- Where an instruction goes. -/
inductive Op
  | excp | alu | agu | bjp | csr | mdv | none
deriving DecidableEq

def op (i : In) : Op :=
  if ifuExcpOp i then .excp
  else if i.iInfo.grp = GRP_ALU then .alu
  else if i.iInfo.grp = GRP_AGU then .agu
  else if i.iInfo.grp = GRP_BJP then .bjp
  else if i.iInfo.grp = GRP_CSR then .csr
  else if i.iInfo.grp = GRP_MULDIV then .mdv
  else .none

theorem op_eq (i : In) :
    ifuExcpOp i = decide (op i = .excp) ∧ aluOp i = decide (op i = .alu) ∧
      aguOp i = decide (op i = .agu) ∧ bjpOp i = decide (op i = .bjp) ∧
      csrOp i = decide (op i = .csr) ∧ mdvOp i = decide (op i = .mdv) := by
  rw [aluOp, aguOp, bjpOp, csrOp, mdvOp, op]
  cases ifuExcpOp i
  · generalize i.iInfo.grp = g
    revert g
    decide
  · simp

end Alu

/-! ## The commit handshake -/

namespace Exu
section
variable {s : State} {i : In}

theorem cmtIIsBranch_of_not_bjp (hbjp : Alu.bjpOp (alu s i) = false) :
    Branchslv.cmtIIsBranch (branchslv s i) = false := by
  obtain ⟨hb, hf, hm, hd, -⟩ := branchslv_flags (s := s) (i := i)
  rw [Branchslv.cmtIIsBranch, hb, hf, hm, hd, hbjp]
  rfl

/-- An instruction that neither branches nor takes an exception waits for the pending events only. -/
theorem aluCmtReady_of_plain
    (hneed : Excp.aluNeedFlush (cmtCtl s i).toCtl (aluCmt s i).toAlu = false)
    (hebrk : (aluCmt s i).aluExcpIEbreak = false)
    (hbr : Branchslv.cmtIIsBranch (branchslv s i) = false) :
    aluCmtReady s i =
      (!Excp.irqReq (cmtCtl s i).toCtl && !Excp.nonaluDbgEntryReq s.excp (cmtCtl s i).toCtl &&
        !longpExcpOValid s i) := by
  have hebrk' : Excp.aluExcpIEbreak4dbg (cmtCtl s i).toCtl (aluCmt s i).toAlu = false := by
    rw [Excp.aluExcpIEbreak4dbg, hebrk]
    rfl
  have hbr' : Branchslv.cmtIReady (branchslv s i) = true := by
    rw [Branchslv.cmtIReady, hbr]
    rfl
  change (Excp.aluExcpIReady _ _ _ _ && Branchslv.cmtIReady (branchslv s i)) = _
  rw [hbr', Bool.and_true, Excp.aluExcpIReady, Excp.aluEbreakmFlushReqNovld, hebrk',
    Excp.aluExcpIReady4nondbg, hneed]
  rfl

end
end Exu
end E203
