import E203.Rtl.Defines

/-! # Commit: exceptions, interrupts, debug entry and branch resolution

`e203_exu_excp.v`, `e203_exu_branchslv.v` and their composition `e203_exu_commit.v`.

The ready signals of the commit stage must not depend on the valid signal of the ALU, so the ports of
`Excp` come in two groups: `Excp.Ctl`, known without the ALU, and `Excp.Alu`, the instruction the ALU
offers; `aluExcpIValid` is an argument of its own.
-/

namespace E203
set_option autoImplicit false

/-! ## Exceptions -/

namespace Excp

structure State where
  wfiFlagR : Bool
  wfiHaltReqR : Bool
  stepReqR : Bool
deriving DecidableEq

def State.reset : State where
  wfiFlagR := false
  wfiHaltReqR := false
  stepReqR := false

/-- The ports that do not come from the ALU's commit interface. -/
structure Ctl where
  wfiHaltIfuAck : Bool
  wfiHaltExuAck : Bool
  amoWait : Bool
  longpExcpIValid : Bool
  longpExcpILd : Bool
  longpExcpISt : Bool
  longpExcpIBuserr : Bool
  longpExcpIInsterr : Bool
  longpExcpIBadaddr : BitVec 32
  longpExcpIPc : BitVec 32
  csrMtvecR : BitVec 32
  dbgIrqR : Bool
  extIrqR : Bool
  sftIrqR : Bool
  tmrIrqR : Bool
  statusMieR : Bool
  mtieR : Bool
  msieR : Bool
  meieR : Bool
  dbgMode : Bool
  dbgHaltR : Bool
  dbgStepR : Bool
  dbgEbreakmR : Bool
  oitfEmpty : Bool
  uMode : Bool
  sMode : Bool
  hMode : Bool
  mMode : Bool
deriving DecidableEq

/-- The instruction the ALU offers for commit. -/
structure Alu where
  aluExcpILd : Bool
  aluExcpIStamo : Bool
  aluExcpIMisalgn : Bool
  aluExcpIBuserr : Bool
  aluExcpIEcall : Bool
  aluExcpIEbreak : Bool
  aluExcpIWfi : Bool
  aluExcpIIfuMisalgn : Bool
  aluExcpIIfuBuserr : Bool
  aluExcpIIfuIlegl : Bool
  aluExcpIBadaddr : BitVec 32
  aluExcpIPc : BitVec 32
  aluExcpIInstr : BitVec 32
  aluExcpIPcVld : Bool
deriving DecidableEq

section
variable (s : State) (c : Ctl)

/-! ### Requests that do not depend on the ALU -/

def longpNeedFlush : Bool := c.longpExcpIValid

/-- Interrupts are masked in debug mode, while single-stepping and while an atomic operation runs. -/
def irqMask : Bool := c.dbgMode || c.dbgStepR || !c.statusMieR || c.amoWait
def wfiIrqMask : Bool := c.dbgMode || c.dbgStepR
def irqReqRaw : Bool :=
  (c.extIrqR && c.meieR) || (c.sftIrqR && c.msieR) || (c.tmrIrqR && c.mtieR)
def irqReq : Bool := !irqMask c && irqReqRaw c
def wfiIrqReq : Bool := !wfiIrqMask c && irqReqRaw c
def irqReqActive : Bool := if s.wfiFlagR then wfiIrqReq c else irqReq c

def dbgStepReq : Bool := s.stepReqR
def nonaluDbgIrqReq : Bool := c.dbgIrqR && !s.stepReqR
/-- The step has the higher priority and preempts the halt. -/
def nonaluDbgHaltReq : Bool := c.dbgHaltR && !c.dbgIrqR && !s.stepReqR && !c.dbgStepR

def dbgEntryMask : Bool := c.dbgMode

def nonaluDbgEntryReq : Bool :=
  !dbgEntryMask c &&
    ((nonaluDbgIrqReq s c && !c.amoWait) || (nonaluDbgHaltReq s c && !c.amoWait) || dbgStepReq s)

/-- The over-approximation that the flush of the ALU uses. -/
def nonaluDbgEntryReqRaw : Bool :=
  !dbgEntryMask c && (c.dbgIrqR || c.dbgHaltR || s.stepReqR)

def nonaluExcpirqFlushReqRaw : Bool :=
  longpNeedFlush c || nonaluDbgEntryReqRaw s c || irqReq c

def excpActive : Bool := irqReqActive s c || nonaluDbgEntryReqRaw s c

/-! ### Exceptions of the offered instruction -/

variable (a : Alu)

def aluExcpIEbreak4excp : Bool := a.aluExcpIEbreak && (!c.dbgEbreakmR || c.dbgMode)

def aluNeedFlush : Bool :=
  a.aluExcpIMisalgn || a.aluExcpIBuserr || aluExcpIEbreak4excp c a || a.aluExcpIEcall ||
    a.aluExcpIIfuMisalgn || a.aluExcpIIfuBuserr || a.aluExcpIIfuIlegl

def aluExcpIEbreak4dbg : Bool :=
  a.aluExcpIEbreak && !aluNeedFlush c a && c.dbgEbreakmR && !c.dbgMode

/-- The hardware triggers are not supported. -/
def aluDbgtrigFlushReqNovld : Bool := false
def aluDbgtrigFlushReq : Bool := false
def aluEbreakmFlushReqNovld : Bool := aluExcpIEbreak4dbg c a

variable (excpirqFlushAck : Bool)

def aluExcpIReady4dbg : Bool :=
  excpirqFlushAck && c.oitfEmpty && a.aluExcpIPcVld && !longpNeedFlush c

def aluExcpIReady4nondbg : Bool :=
  if aluNeedFlush c a then
    excpirqFlushAck && c.oitfEmpty && !irqReq c && !nonaluDbgEntryReq s c && !longpNeedFlush c
  else !irqReq c && !nonaluDbgEntryReq s c && !longpNeedFlush c

def aluExcpIReady : Bool :=
  if aluEbreakmFlushReqNovld c a || aluDbgtrigFlushReqNovld then
    aluExcpIReady4dbg c a excpirqFlushAck
  else aluExcpIReady4nondbg s c a excpirqFlushAck

def longpExcpIReady : Bool := excpirqFlushAck

/-! ### Flush requests -/

variable (aluExcpIValid : Bool)

def aluEbreakmFlushReq : Bool := aluExcpIValid && aluExcpIEbreak4dbg c a
def dbgTrigReq : Bool := aluDbgtrigFlushReq && !s.stepReqR
def dbgEbrkReq : Bool := aluEbreakmFlushReq c a aluExcpIValid && !aluDbgtrigFlushReq && !s.stepReqR
def dbgIrqReq : Bool :=
  c.dbgIrqR && !aluEbreakmFlushReq c a aluExcpIValid && !aluDbgtrigFlushReq && !s.stepReqR
def dbgHaltReq : Bool :=
  c.dbgHaltR && !c.dbgIrqR && !aluEbreakmFlushReq c a aluExcpIValid && !aluDbgtrigFlushReq &&
    !s.stepReqR && !c.dbgStepR

def dbgEntryReq : Bool :=
  !dbgEntryMask c &&
    ((dbgIrqReq s c a aluExcpIValid && !c.amoWait) ||
      (dbgHaltReq s c a aluExcpIValid && !c.amoWait) || dbgStepReq s ||
      (dbgTrigReq s && !c.amoWait) || dbgEbrkReq s c a aluExcpIValid)

/-- A long-pipe exception does not wait for a valid PC. -/
def longpExcpFlushReq : Bool := longpNeedFlush c

/-- Debug entry and interrupts wait for the PC of the next instruction to commit. -/
def dbgEntryFlushReq : Bool :=
  dbgEntryReq s c a aluExcpIValid && c.oitfEmpty && a.aluExcpIPcVld && !longpNeedFlush c

def irqFlushReq : Bool :=
  irqReq c && c.oitfEmpty && a.aluExcpIPcVld && !dbgEntryReq s c a aluExcpIValid &&
    !longpNeedFlush c

def aluExcpFlushReq : Bool :=
  aluExcpIValid && aluNeedFlush c a && c.oitfEmpty && !irqReq c &&
    !dbgEntryReq s c a aluExcpIValid && !longpNeedFlush c

def excpirqFlushReq : Bool :=
  longpExcpFlushReq c || dbgEntryFlushReq s c a aluExcpIValid || irqFlushReq s c a aluExcpIValid ||
    aluExcpFlushReq s c a aluExcpIValid

def allExcpFlushReq : Bool := longpExcpFlushReq c || aluExcpFlushReq s c a aluExcpIValid

def excpirqFlushAddOp1 : BitVec 32 :=
  if dbgEntryFlushReq s c a aluExcpIValid then 0x800#32
  else if allExcpFlushReq s c a aluExcpIValid && c.dbgMode then 0x808#32
  else c.csrMtvecR

def excpirqFlushAddOp2 : BitVec 32 :=
  if dbgEntryFlushReq s c a aluExcpIValid then 0x0#32
  else if allExcpFlushReq s c a aluExcpIValid && c.dbgMode then 0x0#32
  else 0#32

def excpirqFlushPc : BitVec 32 :=
  if dbgEntryFlushReq s c a aluExcpIValid then 0x800#32
  else if allExcpFlushReq s c a aluExcpIValid && c.dbgMode then 0x808#32
  else c.csrMtvecR

def excpirqTakenEna : Bool := excpirqFlushReq s c a aluExcpIValid && excpirqFlushAck
def excpTakenEna : Bool :=
  allExcpFlushReq s c a aluExcpIValid && excpirqTakenEna s c a excpirqFlushAck aluExcpIValid
def irqTakenEna : Bool :=
  irqFlushReq s c a aluExcpIValid && excpirqTakenEna s c a excpirqFlushAck aluExcpIValid
def dbgEntryTakenEna : Bool :=
  dbgEntryFlushReq s c a aluExcpIValid && excpirqTakenEna s c a excpirqFlushAck aluExcpIValid

/-! ### What is written to the CSRs -/

def irqCause : BitVec 32 :=
  1#1 ++
    (0#27 ++
      (if c.sftIrqR && c.msieR then 3#4
        else if c.tmrIrqR && c.mtieR then 7#4
        else if c.extIrqR && c.meieR then 11#4
        else 0#4))

def excpFlushByAluAgu : Bool :=
  aluExcpFlushReq s c a aluExcpIValid && (a.aluExcpILd || a.aluExcpIStamo) &&
    (a.aluExcpIMisalgn || a.aluExcpIBuserr)

def excpFlushByLongpLdst : Bool :=
  longpExcpFlushReq c && (c.longpExcpILd || c.longpExcpISt) && c.longpExcpIBuserr

def excpCause : BitVec 5 :=
  let alu := aluExcpFlushReq s c a aluExcpIValid
  let longp := longpExcpFlushReq c
  if alu && a.aluExcpIIfuMisalgn then 0#5
  else if alu && a.aluExcpIIfuBuserr then 1#5
  else if alu && a.aluExcpIIfuIlegl then 2#5
  else if alu && aluExcpIEbreak4excp c a then 3#5
  else if alu && a.aluExcpILd && a.aluExcpIMisalgn then 4#5
  else if (longp && c.longpExcpILd && c.longpExcpIBuserr) ||
      (alu && a.aluExcpILd && a.aluExcpIBuserr) then 5#5
  else if alu && a.aluExcpIStamo && a.aluExcpIMisalgn then 6#5
  else if (longp && c.longpExcpISt && c.longpExcpIBuserr) ||
      (alu && a.aluExcpIStamo && a.aluExcpIBuserr) then 7#5
  else if alu && a.aluExcpIEcall && c.uMode then 8#5
  else if alu && a.aluExcpIEcall && c.sMode then 9#5
  else if alu && a.aluExcpIEcall && c.hMode then 10#5
  else if alu && a.aluExcpIEcall && c.mMode then 11#5
  else if longp && c.longpExcpIInsterr then 16#5
  else 0x1F#5

def cmtBadaddr : BitVec 32 :=
  if excpFlushByLongpLdst c then c.longpExcpIBadaddr
  else if excpFlushByAluAgu s c a aluExcpIValid then a.aluExcpIBadaddr
  else if aluExcpFlushReq s c a aluExcpIValid &&
      (aluExcpIEbreak4excp c a || a.aluExcpIIfuMisalgn || a.aluExcpIIfuBuserr) then a.aluExcpIPc
  else if aluExcpFlushReq s c a aluExcpIValid && a.aluExcpIIfuIlegl then a.aluExcpIInstr
  else 0#32

def cmtEpc : BitVec 32 := if c.longpExcpIValid then c.longpExcpIPc else a.aluExcpIPc

def cmtCause : BitVec 32 :=
  if excpTakenEna s c a excpirqFlushAck aluExcpIValid then 0#27 ++ excpCause s c a aluExcpIValid
  else irqCause c

def cmtEpcEna : Bool :=
  !c.dbgMode &&
    (excpTakenEna s c a excpirqFlushAck aluExcpIValid ||
      irqTakenEna s c a excpirqFlushAck aluExcpIValid)
def cmtCauseEna : Bool := cmtEpcEna s c a excpirqFlushAck aluExcpIValid
def cmtStatusEna : Bool := cmtEpcEna s c a excpirqFlushAck aluExcpIValid
def cmtBadaddrEna : Bool :=
  cmtEpcEna s c a excpirqFlushAck aluExcpIValid && excpirqFlushReq s c a aluExcpIValid

def cmtDpc : BitVec 32 := a.aluExcpIPc
def cmtDpcEna : Bool := dbgEntryTakenEna s c a excpirqFlushAck aluExcpIValid

def setDcauseNxt : BitVec 3 :=
  if dbgTrigReq s then 2#3
  else if dbgEbrkReq s c a aluExcpIValid then 1#3
  else if dbgIrqReq s c a aluExcpIValid then 3#3
  else if dbgStepReq s then 4#3
  else if dbgHaltReq s c a aluExcpIValid then 5#3
  else 0#3

def cmtDcauseEna (cmtDretEna : Bool) : Bool :=
  dbgEntryTakenEna s c a excpirqFlushAck aluExcpIValid || cmtDretEna
def cmtDcause : BitVec 3 :=
  if dbgEntryTakenEna s c a excpirqFlushAck aluExcpIValid then setDcauseNxt s c a aluExcpIValid
  else 0#3

/-! ### WFI -/

def wfiFlagClr : Bool := wfiIrqReq c || dbgEntryReq s c a aluExcpIValid
def wfiHaltReqClr : Bool := wfiFlagClr s c a aluExcpIValid

/-- Qualified by the clear, so that the halt and the flush of the fetch stage exclude each other. -/
def wfiHaltIfuReq : Bool := s.wfiHaltReqR && !wfiHaltReqClr s c a aluExcpIValid
def wfiHaltExuReq : Bool := s.wfiHaltReqR

def wfiReqHsked : Bool :=
  wfiHaltIfuReq s c a aluExcpIValid && c.wfiHaltIfuAck && wfiHaltExuReq s && c.wfiHaltExuAck
def wfiFlagSet : Bool := wfiReqHsked s c a aluExcpIValid
def coreWfi : Bool := s.wfiFlagR && !wfiFlagClr s c a aluExcpIValid

variable (cmtEna : Bool)

def wfiHaltReqSet : Bool := a.aluExcpIWfi && cmtEna && !c.dbgMode

def stepReqSet : Bool :=
  !c.dbgMode && c.dbgStepR && cmtEna && !dbgEntryTakenEna s c a excpirqFlushAck aluExcpIValid
def stepReqClr : Bool := dbgEntryTakenEna s c a excpirqFlushAck aluExcpIValid

def step : State where
  wfiFlagR :=
    dfflr (wfiFlagSet s c a aluExcpIValid || wfiFlagClr s c a aluExcpIValid)
      (wfiFlagSet s c a aluExcpIValid && !wfiFlagClr s c a aluExcpIValid) s.wfiFlagR
  wfiHaltReqR :=
    dfflr (wfiHaltReqSet c a cmtEna || wfiHaltReqClr s c a aluExcpIValid)
      (wfiHaltReqSet c a cmtEna && !wfiHaltReqClr s c a aluExcpIValid) s.wfiHaltReqR
  stepReqR :=
    dfflr
      (stepReqSet s c a excpirqFlushAck aluExcpIValid cmtEna ||
        stepReqClr s c a excpirqFlushAck aluExcpIValid)
      (stepReqSet s c a excpirqFlushAck aluExcpIValid cmtEna ||
        !stepReqClr s c a excpirqFlushAck aluExcpIValid) s.stepReqR

end
end Excp

/-! ## Branch resolution -/

namespace Branchslv

/-- The input ports except `cmt_i_valid`. -/
structure In where
  cmtIRv32 : Bool
  cmtIDret : Bool
  cmtIMret : Bool
  cmtIFencei : Bool
  cmtIBjp : Bool
  cmtIBjpPrdt : Bool
  cmtIBjpRslv : Bool
  cmtIPc : BitVec 32
  cmtIImm : BitVec 32
  csrEpcR : BitVec 32
  csrDpcR : BitVec 32
  nonaluExcpirqFlushReqRaw : Bool
  brchmisFlushAck : Bool
deriving DecidableEq

section
variable (i : In)

def brchmisFlushAckPre : Bool := i.brchmisFlushAck && !i.nonaluExcpirqFlushReqRaw

/-- FENCE.I and the returns flush always, branches and jumps when mispredicted. -/
def brchmisNeedFlush : Bool :=
  (i.cmtIBjp && (i.cmtIBjpPrdt ^^ i.cmtIBjpRslv)) || i.cmtIFencei || i.cmtIMret || i.cmtIDret

def cmtIIsBranch : Bool := i.cmtIBjp || i.cmtIFencei || i.cmtIMret || i.cmtIDret

def seqOfst : BitVec 32 := if i.cmtIRv32 then 4#32 else 2#32

def brchmisFlushAddOp1 : BitVec 32 :=
  if i.cmtIDret then i.csrDpcR else if i.cmtIMret then i.csrEpcR else i.cmtIPc

def brchmisFlushAddOp2 : BitVec 32 :=
  if i.cmtIDret then 0#32
  else if i.cmtIMret then 0#32
  else if i.cmtIFencei || i.cmtIBjpPrdt then seqOfst i
  else i.cmtIImm

/-- The precomputed flush PC. -/
def brchmisFlushPc : BitVec 32 :=
  if i.cmtIFencei || (i.cmtIBjp && i.cmtIBjpPrdt) then i.cmtIPc + seqOfst i
  else if i.cmtIBjp && !i.cmtIBjpPrdt then i.cmtIPc + i.cmtIImm
  else if i.cmtIDret then i.csrDpcR
  else i.csrEpcR

def cmtIReady : Bool :=
  !cmtIIsBranch i ||
    ((if brchmisNeedFlush i then brchmisFlushAckPre i else true) && !i.nonaluExcpirqFlushReqRaw)

variable (cmtIValid : Bool)

def brchmisFlushReqPre : Bool := cmtIValid && brchmisNeedFlush i
def brchmisFlushReq : Bool := brchmisFlushReqPre i cmtIValid && !i.nonaluExcpirqFlushReqRaw
def brchmisFlushHsked : Bool := brchmisFlushReq i cmtIValid && i.brchmisFlushAck
def cmtMretEna : Bool := i.cmtIMret && brchmisFlushHsked i cmtIValid
def cmtDretEna : Bool := i.cmtIDret && brchmisFlushHsked i cmtIValid
def cmtFenceiEna : Bool := i.cmtIFencei && brchmisFlushHsked i cmtIValid

end
end Branchslv

/-! ## The commit stage -/

namespace Commit

/-- The instruction the ALU offers: the exception part and the branch part. -/
structure Alu extends Excp.Alu where
  aluCmtIRv32 : Bool
  aluCmtIImm : BitVec 32
  aluCmtIBjp : Bool
  aluCmtIFencei : Bool
  aluCmtIMret : Bool
  aluCmtIDret : Bool
  aluCmtIBjpPrdt : Bool
  aluCmtIBjpRslv : Bool
deriving DecidableEq

/-- The ports that do not come from the ALU. -/
structure Ctl extends Excp.Ctl where
  csrEpcR : BitVec 32
  csrDpcR : BitVec 32
  pipeFlushAck : Bool
deriving DecidableEq

section
variable (s : Excp.State) (c : Ctl)

/-- The flush of the ALU by what does not come from the ALU. -/
def flushReq : Bool := Excp.nonaluExcpirqFlushReqRaw s c.toCtl

variable (a : Alu)

def branchslv : Branchslv.In where
  cmtIRv32 := a.aluCmtIRv32
  cmtIDret := a.aluCmtIDret
  cmtIMret := a.aluCmtIMret
  cmtIFencei := a.aluCmtIFencei
  cmtIBjp := a.aluCmtIBjp
  cmtIBjpPrdt := a.aluCmtIBjpPrdt
  cmtIBjpRslv := a.aluCmtIBjpRslv
  cmtIPc := a.aluExcpIPc
  cmtIImm := a.aluCmtIImm
  csrEpcR := c.csrEpcR
  csrDpcR := c.csrDpcR
  nonaluExcpirqFlushReqRaw := Excp.nonaluExcpirqFlushReqRaw s c.toCtl
  brchmisFlushAck := c.pipeFlushAck

def aluCmtIReady : Bool :=
  Excp.aluExcpIReady s c.toCtl a.toAlu c.pipeFlushAck && Branchslv.cmtIReady (branchslv s c a)

variable (aluCmtIValid : Bool)

def excpirqFlushReq : Bool := Excp.excpirqFlushReq s c.toCtl a.toAlu aluCmtIValid
def aluBrchmisFlushReq : Bool := Branchslv.brchmisFlushReq (branchslv s c a) aluCmtIValid

def pipeFlushReq : Bool := excpirqFlushReq s c a aluCmtIValid || aluBrchmisFlushReq s c a aluCmtIValid

def pipeFlushAddOp1 : BitVec 32 :=
  if excpirqFlushReq s c a aluCmtIValid then
    Excp.excpirqFlushAddOp1 s c.toCtl a.toAlu aluCmtIValid
  else Branchslv.brchmisFlushAddOp1 (branchslv s c a)

def pipeFlushAddOp2 : BitVec 32 :=
  if excpirqFlushReq s c a aluCmtIValid then
    Excp.excpirqFlushAddOp2 s c.toCtl a.toAlu aluCmtIValid
  else Branchslv.brchmisFlushAddOp2 (branchslv s c a)

def pipeFlushPc : BitVec 32 :=
  if excpirqFlushReq s c a aluCmtIValid then Excp.excpirqFlushPc s c.toCtl a.toAlu aluCmtIValid
  else Branchslv.brchmisFlushPc (branchslv s c a)

def cmtEna : Bool := aluCmtIValid && aluCmtIReady s c a
def cmtInstretEna : Bool := cmtEna s c a aluCmtIValid && !aluBrchmisFlushReq s c a aluCmtIValid
def nonflushCmtEna : Bool := cmtEna s c a aluCmtIValid && !pipeFlushReq s c a aluCmtIValid
def flushPulse : Bool := c.pipeFlushAck && pipeFlushReq s c a aluCmtIValid
def cmtDretEna : Bool := Branchslv.cmtDretEna (branchslv s c a) aluCmtIValid
def cmtMretEna : Bool := Branchslv.cmtMretEna (branchslv s c a) aluCmtIValid

def step : Excp.State :=
  Excp.step s c.toCtl a.toAlu c.pipeFlushAck aluCmtIValid (cmtEna s c a aluCmtIValid)

end
end Commit

/-! ## The debug CSRs (`sirv_debug_csr.v`) -/

namespace DebugCsr

/-- `dcsr` and `dpc`, as far as the execute stage reads them. -/
structure State where
  dcauseR : BitVec 3
  haltR : Bool
  stepR : Bool
  ebreakmR : Bool
  dpcR : BitVec 32
deriving DecidableEq

def State.reset : State where
  dcauseR := 0#3
  haltR := false
  stepR := false
  ebreakmR := false
  dpcR := 0#32

/-- The write ports: the CSR instructions and the commit stage. -/
structure In where
  wrDcsrEna : Bool
  wrDpcEna : Bool
  wrCsrNxt : BitVec 32
  cmtDpcEna : Bool
  cmtDpc : BitVec 32
  cmtDcauseEna : Bool
  cmtDcause : BitVec 3
deriving DecidableEq

section
variable (s : State) (i : In)

def dbgMode : Bool := !(s.dcauseR == 0#3)

def dpcNxt : BitVec 32 :=
  (if i.cmtDpcEna then i.cmtDpc.extractLsb' 1 31 else i.wrCsrNxt.extractLsb' 1 31) ++ 0#1

def step : State where
  dcauseR := dfflr i.cmtDcauseEna i.cmtDcause s.dcauseR
  haltR := dfflr i.wrDcsrEna (i.wrCsrNxt.getLsbD 3) s.haltR
  stepR := dfflr i.wrDcsrEna (i.wrCsrNxt.getLsbD 2) s.stepR
  ebreakmR := dfflr i.wrDcsrEna (i.wrCsrNxt.getLsbD 15) s.ebreakmR
  dpcR := dfflr (i.wrDpcEna || i.cmtDpcEna) (dpcNxt i) s.dpcR

end
end DebugCsr
end E203
