import E203.Rtl.ExuAlu
import E203.Rtl.ExuOitf
import E203.Rtl.ExuWbck
import E203.Rtl.IfuIfetch

/-! # The execute stage (`e203_exu.v`)

Register file, decoder, dispatch, outstanding-instruction FIFO, ALU, write-back and commit, connected
as in the source.  The CSR file and the load/store unit are outside: what they answer is an input of
every cycle.  The debug CSRs are inside, since they decide when the stage is in debug mode.

The wires are listed in an order without loops: the FIFO and the long-pipe write-back, the flush
request, the ALU, the commit stage, the handshakes.
-/

namespace E203.Exu
set_option autoImplicit false

structure State where
  rf : Regfile
  oitf : Oitf.State
  alu : Alu.State
  excp : Excp.State
  dbg : DebugCsr.State

/-- What the fetch stage hands over: the IR and what belongs to it. -/
structure FromIfu where
  iValid : Bool
  iIr : BitVec 32
  iPc : BitVec 32
  iPcVld : Bool
  iMisalgn : Bool
  iBuserr : Bool
  iRs1idx : BitVec 5
  iRs2idx : BitVec 5
  iPrdtTaken : Bool
  iMuldivB2b : Bool
deriving DecidableEq

/-- The response of the load/store unit. -/
structure FromLsu where
  lsuOValid : Bool
  lsuOWbckWdat : BitVec 32
  lsuOWbckItag : BitVec 1
  lsuOWbckErr : Bool
  lsuOCmtBuserr : Bool
  lsuOCmtBadaddr : BitVec 32
  lsuOCmtLd : Bool
  lsuOCmtSt : Bool
  aguIcbCmdReady : Bool
  aguIcbRspValid : Bool
  aguIcbRspErr : Bool
  aguIcbRspRdata : BitVec 32
deriving DecidableEq

/-- The CSR file, the interrupts and the extension accelerator. -/
structure FromCsr where
  dbgIrqR : Bool
  extIrqR : Bool
  sftIrqR : Bool
  tmrIrqR : Bool
  statusMieR : Bool
  mtieR : Bool
  msieR : Bool
  meieR : Bool
  csrMtvecR : BitVec 32
  csrEpcR : BitVec 32
  uMode : Bool
  sMode : Bool
  hMode : Bool
  mMode : Bool
  mdvNob2b : Bool
  readCsrDat : BitVec 32
  eaiCsrReady : Bool
  eaiCsrRdata : BitVec 32
deriving DecidableEq

/-- The input ports. -/
structure In extends FromIfu, FromLsu, FromCsr where
  wfiHaltIfuAck : Bool
deriving DecidableEq

/-- Constants of the CSR file and the fetch stage. -/
def csrAccessIlgl : Bool := false
def eaiXsOff : Bool := false
def pipeFlushAck : Bool := Ifetch.pipeFlushAck

section
variable (s : State) (i : In)

def dbgMode : Bool := DebugCsr.dbgMode s.dbg
def oitfEmpty : Bool := Oitf.oitfEmpty s.oitf
def amoWait : Bool := Lsuagu.amoWait s.alu.agu

/-! ## Decode and operands -/

def dec : Decode.In where
  instr := i.iIr
  pc := i.iPc
  prdtTaken := i.iPrdtTaken
  misalgn := i.iMisalgn
  buserr := i.iBuserr
  muldivB2b := i.iMuldivB2b
  dbgMode := dbgMode s

def rfRs1 : BitVec 32 := s.rf.rfR i.iRs1idx
def rfRs2 : BitVec 32 := s.rf.rfR i.iRs2idx

/-- What the dispatch module passes through to the FIFO. -/
def oitfDisp : Oitf.Disp where
  dispIRs1en := Decode.decRs1en i.iIr
  dispIRs2en := Decode.decRs2en i.iIr
  dispIRdwen := Decode.decRdwen i.iIr
  dispIRs1idx := i.iRs1idx
  dispIRs2idx := i.iRs2idx
  dispIRdidx := Decode.decRdidx i.iIr
  dispIPc := i.iPc

def disp : Disp.In where
  wfiHaltExuReq := Excp.wfiHaltExuReq s.excp
  oitfEmpty := oitfEmpty s
  amoWait := amoWait s
  dispIValid := i.iValid
  dispIRs1x0 := Decode.decRs1x0 i.iIr
  dispIRs2x0 := Decode.decRs2x0 i.iIr
  dispIInfo := Decode.decInfo (dec s i)
  dispIRs1 := rfRs1 s i
  dispIRs2 := rfRs2 s i
  dispOitfReady := Oitf.disReady s.oitf
  oitfrdMatchDisprs1 := Oitf.oitfrdMatchDisprs1 s.oitf (oitfDisp i)
  oitfrdMatchDisprs2 := Oitf.oitfrdMatchDisprs2 s.oitf (oitfDisp i)
  oitfrdMatchDisprd := Oitf.oitfrdMatchDisprd s.oitf (oitfDisp i)

/-! ## Long-pipe write-back -/

def longpwbck : Longpwbck.In where
  lsuWbckIValid := i.lsuOValid
  lsuWbckIWdat := i.lsuOWbckWdat
  lsuWbckIItag := i.lsuOWbckItag
  lsuWbckIErr := i.lsuOWbckErr
  lsuCmtIBuserr := i.lsuOCmtBuserr
  lsuCmtIBadaddr := i.lsuOCmtBadaddr
  lsuCmtILd := i.lsuOCmtLd
  lsuCmtISt := i.lsuOCmtSt
  oitfEmpty := oitfEmpty s
  oitfRetPtr := Oitf.retPtr s.oitf
  oitfRetRdidx := Oitf.retRdidx s.oitf
  oitfRetPc := Oitf.retPc s.oitf
  oitfRetRdwen := Oitf.retRdwen s.oitf

def longpExcpOReady : Bool := Excp.longpExcpIReady pipeFlushAck
def longpWbckOValid : Bool := Longpwbck.longpWbckOValid (longpwbck s i) longpExcpOReady
def longpExcpOValid : Bool := Longpwbck.longpExcpOValid (longpwbck s i) Wbck.longpWbckIReady
def oitfRetEna : Bool := Longpwbck.oitfRetEna (longpwbck s i) Wbck.longpWbckIReady longpExcpOReady
def lsuOReady : Bool :=
  Longpwbck.lsuWbckIReady (longpwbck s i) Wbck.longpWbckIReady longpExcpOReady

/-! ## Commit, as far as it does not depend on the ALU -/

def cmtCtl : Commit.Ctl where
  wfiHaltIfuAck := i.wfiHaltIfuAck
  wfiHaltExuAck := Disp.wfiHaltExuAck (disp s i)
  amoWait := amoWait s
  longpExcpIValid := longpExcpOValid s i
  longpExcpILd := Longpwbck.longpExcpOLd (longpwbck s i)
  longpExcpISt := Longpwbck.longpExcpOSt (longpwbck s i)
  longpExcpIBuserr := Longpwbck.longpExcpOBuserr (longpwbck s i)
  longpExcpIInsterr := Longpwbck.longpExcpOInsterr (longpwbck s i)
  longpExcpIBadaddr := Longpwbck.longpExcpOBadaddr (longpwbck s i)
  longpExcpIPc := Longpwbck.longpExcpOPc (longpwbck s i)
  csrMtvecR := i.csrMtvecR
  dbgIrqR := i.dbgIrqR
  extIrqR := i.extIrqR
  sftIrqR := i.sftIrqR
  tmrIrqR := i.tmrIrqR
  statusMieR := i.statusMieR
  mtieR := i.mtieR
  msieR := i.msieR
  meieR := i.meieR
  dbgMode := dbgMode s
  dbgHaltR := s.dbg.haltR
  dbgStepR := s.dbg.stepR
  dbgEbreakmR := s.dbg.ebreakmR
  oitfEmpty := oitfEmpty s
  uMode := i.uMode
  sMode := i.sMode
  hMode := i.hMode
  mMode := i.mMode
  csrEpcR := i.csrEpcR
  csrDpcR := s.dbg.dpcR
  pipeFlushAck := pipeFlushAck

def flushReq : Bool := Commit.flushReq s.excp (cmtCtl s i)

/-! ## The ALU -/

def alu : Alu.In where
  iValid := Disp.dispOAluValid (disp s i)
  iItag := Oitf.disPtr s.oitf
  iRs1 := Disp.dispORs1 (disp s i)
  iRs2 := Disp.dispORs2 (disp s i)
  iImm := Decode.decImm i.iIr
  iInfo := Decode.decInfo (dec s i)
  iPc := i.iPc
  iInstr := i.iIr
  iPcVld := i.iPcVld
  iRdidx := Decode.decRdidx i.iIr
  iRdwen := Decode.decRdwen i.iIr
  iIlegl := Decode.decIlegl (dec s i)
  iBuserr := i.iBuserr
  iMisalgn := i.iMisalgn
  flushReq := flushReq s i
  oitfEmpty := oitfEmpty s
  mdvNob2b := i.mdvNob2b
  csrAccessIlgl := csrAccessIlgl
  readCsrDat := i.readCsrDat
  eaiXsOff := eaiXsOff
  eaiCsrReady := i.eaiCsrReady
  eaiCsrRdata := i.eaiCsrRdata
  aguIcbCmdReady := i.aguIcbCmdReady
  aguIcbRspValid := i.aguIcbRspValid
  aguIcbRspErr := i.aguIcbRspErr
  aguIcbRspRdata := i.aguIcbRspRdata

def aluCmt : Commit.Alu := Alu.cmt s.alu (alu s i)
def aluCmtReady : Bool := Commit.aluCmtIReady s.excp (cmtCtl s i) (aluCmt s i)
def aluWbckOReady : Bool := Wbck.aluWbckIReady (longpWbckOValid s i)
def aluOReady : Bool := Alu.oReady s.alu (alu s i) (aluCmtReady s i) (aluWbckOReady s i)
def aluCmtValid : Bool := Alu.cmtOValid s.alu (alu s i) (aluWbckOReady s i)
def aluWbckOValid : Bool := Alu.wbckOValid s.alu (alu s i) (aluCmtReady s i)

/-! ## Commit and flush -/

def cmtEna : Bool := Commit.cmtEna s.excp (cmtCtl s i) (aluCmt s i) (aluCmtValid s i)
def nonflushCmtEna : Bool :=
  Commit.nonflushCmtEna s.excp (cmtCtl s i) (aluCmt s i) (aluCmtValid s i)
def pipeFlushReq : Bool := Commit.pipeFlushReq s.excp (cmtCtl s i) (aluCmt s i) (aluCmtValid s i)
def pipeFlushAddOp1 : BitVec 32 :=
  Commit.pipeFlushAddOp1 s.excp (cmtCtl s i) (aluCmt s i) (aluCmtValid s i)
def pipeFlushAddOp2 : BitVec 32 :=
  Commit.pipeFlushAddOp2 s.excp (cmtCtl s i) (aluCmt s i) (aluCmtValid s i)
def pipeFlushPc : BitVec 32 :=
  Commit.pipeFlushPc s.excp (cmtCtl s i) (aluCmt s i) (aluCmtValid s i)
def flushPulse : Bool := Commit.flushPulse s.excp (cmtCtl s i) (aluCmt s i) (aluCmtValid s i)
def wfiHaltIfuReq : Bool :=
  Excp.wfiHaltIfuReq s.excp (cmtCtl s i).toCtl (aluCmt s i).toAlu (aluCmtValid s i)

/-! ## The input handshake and the bus command -/

def aluIReady : Bool := Alu.iReady s.alu (alu s i) (aluOReady s i) (flushPulse s i)
def iReady : Bool := Disp.dispIReady (disp s i) (aluIReady s i)
def iHsked : Bool := i.iValid && iReady s i
def oitfEna : Bool :=
  Disp.dispOitfEna (disp s i) (aluIReady s i) (Alu.iLongpipe s.alu (alu s i))
def aguIcbCmdValid : Bool := Alu.aguIcbCmdValid s.alu (alu s i) (aluOReady s i)
def aguIcbCmdHsked : Bool := aguIcbCmdValid s i && i.aguIcbCmdReady

/-! ## Write-back -/

def wbck : Wbck.In where
  aluWbckIValid := aluWbckOValid s i
  aluWbckIWdat := Alu.wbckOWdat s.alu (alu s i)
  aluWbckIRdidx := Alu.wbckORdidx (alu s i)
  longpWbckIValid := longpWbckOValid s i
  longpWbckIWdat := Longpwbck.longpWbckOWdat (longpwbck s i)
  longpWbckIRdidx := Longpwbck.longpWbckORdidx (longpwbck s i)

/-! ## What the fetch stage reads back -/

def toIfu : Ifetch.FromExu where
  oitfEmpty := oitfEmpty s
  rf2ifuX1 := s.rf.rfR 1#5
  rf2ifuRs1 := rfRs1 s i
  dec2ifuRs1en := Decode.decRs1en i.iIr
  dec2ifuRden := Decode.decRdwen i.iIr
  dec2ifuRdidx := Decode.decRdidx i.iIr
  dec2ifuMulhsu := Decode.decMulhsu i.iIr
  dec2ifuDiv := Decode.decDiv i.iIr
  dec2ifuRem := Decode.decRem i.iIr
  dec2ifuDivu := Decode.decDivu i.iIr
  dec2ifuRemu := Decode.decRemu i.iIr

/-! ## The debug CSRs -/

def csrWrEn : Bool := Csrctrl.csrWrEn (Alu.csr (alu s i))
def csrIdx : BitVec 12 := Csrctrl.csrIdx (Alu.csr (alu s i))

/-- `dcsr` is CSR 0x7b0, `dpc` is 0x7b1; they are written in debug mode only. -/
def dbgCsr : DebugCsr.In where
  wrDcsrEna := dbgMode s && csrWrEn s i && csrIdx s i == 0x7b0#12
  wrDpcEna := dbgMode s && csrWrEn s i && csrIdx s i == 0x7b1#12
  wrCsrNxt := Csrctrl.wbckCsrDat (Alu.csr (alu s i))
  cmtDpcEna :=
    Excp.cmtDpcEna s.excp (cmtCtl s i).toCtl (aluCmt s i).toAlu pipeFlushAck (aluCmtValid s i)
  cmtDpc := Excp.cmtDpc (aluCmt s i).toAlu
  cmtDcauseEna :=
    Excp.cmtDcauseEna s.excp (cmtCtl s i).toCtl (aluCmt s i).toAlu pipeFlushAck (aluCmtValid s i)
      (Commit.cmtDretEna s.excp (cmtCtl s i) (aluCmt s i) (aluCmtValid s i))
  cmtDcause :=
    Excp.cmtDcause s.excp (cmtCtl s i).toCtl (aluCmt s i).toAlu pipeFlushAck (aluCmtValid s i)

/-! ## The clock edge -/

def step : State where
  rf :=
    s.rf.step (Wbck.rfWbckOEna (wbck s i)) (Wbck.rfWbckORdidx (wbck s i))
      (Wbck.rfWbckOWdat (wbck s i))
  oitf := Oitf.step s.oitf (oitfDisp i) (oitfEna s i) (oitfRetEna s i)
  alu := Alu.step s.alu (alu s i) (aluOReady s i) (flushPulse s i)
  excp := Commit.step s.excp (cmtCtl s i) (aluCmt s i) (aluCmtValid s i)
  dbg := DebugCsr.step s.dbg (dbgCsr s i)

end

/-- After reset; register file, FIFO payload and shared buffers have no reset. -/
def IsReset (s : State) : Prop :=
  s.oitf.IsReset ∧ s.alu.mdv = Muldiv.State.reset ∧ s.alu.agu = Lsuagu.State.reset ∧
    s.excp = Excp.State.reset ∧ s.dbg = DebugCsr.State.reset

end E203.Exu
