import E203.Rtl.AluLsuagu
import E203.Rtl.AluMuldiv
import E203.Rtl.AluUnits
import E203.Rtl.ExuCommit

/-! # The ALU (`e203_exu_alu.v`)

The incoming instruction goes to one of five units, or to none when its fetch or decoding failed; the
result of the selected unit is offered to the commit and to the write-back stage together.

`In` is the ports known before those two answer.  The multiplier/divider's request and its response
depend on neither the answer nor the flush, so they are read from its ports with both at zero.
-/

namespace E203.Alu
set_option autoImplicit false

structure State where
  mdv : Muldiv.State
  sbf : AluDpath.Sbf
  agu : Lsuagu.State
deriving DecidableEq

/-- The input ports. -/
structure In where
  iValid : Bool
  iItag : BitVec 1
  iRs1 : BitVec 32
  iRs2 : BitVec 32
  iImm : BitVec 32
  iInfo : DecInfo
  iPc : BitVec 32
  iInstr : BitVec 32
  iPcVld : Bool
  iRdidx : BitVec 5
  iRdwen : Bool
  iIlegl : Bool
  iBuserr : Bool
  iMisalgn : Bool
  flushReq : Bool
  oitfEmpty : Bool
  mdvNob2b : Bool
  csrAccessIlgl : Bool
  readCsrDat : BitVec 32
  eaiXsOff : Bool
  eaiCsrReady : Bool
  eaiCsrRdata : BitVec 32
  aguIcbCmdReady : Bool
  aguIcbRspValid : Bool
  aguIcbRspErr : Bool
  aguIcbRspRdata : BitVec 32
deriving DecidableEq

section
variable (s : State) (i : In)

def ifuExcpOp : Bool := i.iIlegl || i.iBuserr || i.iMisalgn
def aluOp : Bool := !ifuExcpOp i && i.iInfo.grp == GRP_ALU
def aguOp : Bool := !ifuExcpOp i && i.iInfo.grp == GRP_AGU
def bjpOp : Bool := !ifuExcpOp i && i.iInfo.grp == GRP_BJP
def csrOp : Bool := !ifuExcpOp i && i.iInfo.grp == GRP_CSR
def mdvOp : Bool := !ifuExcpOp i && i.iInfo.grp == GRP_MULDIV

/-! ## The ports of the units -/

def rglr : Rglr.In where
  aluIRs1 := gate (aluOp i) i.iRs1
  aluIRs2 := gate (aluOp i) i.iRs2
  aluIInfo := gate (aluOp i) i.iInfo
  aluIImm := gate (aluOp i) i.iImm
  aluIPc := gate (aluOp i) i.iPc

def bjp : Bjp.In where
  bjpIRs1 := gate (bjpOp i) i.iRs1
  bjpIRs2 := gate (bjpOp i) i.iRs2
  bjpIInfo := gate (bjpOp i) i.iInfo
  bjpIPc := gate (bjpOp i) i.iPc

def csr : Csrctrl.In where
  csrIValid := i.iValid && csrOp i
  csrIRs1 := gate (csrOp i) i.iRs1
  csrIInfo := gate (csrOp i) i.iInfo
  csrIRdwen := csrOp i && i.iRdwen
  csrAccessIlgl := i.csrAccessIlgl
  readCsrDat := i.readCsrDat
  eaiXsOff := i.eaiXsOff
  eaiCsrReady := i.eaiCsrReady
  eaiCsrRdata := i.eaiCsrRdata

def agu : Lsuagu.In where
  aguIValid := i.iValid && aguOp i
  aguIRs1 := gate (aguOp i) i.iRs1
  aguIRs2 := gate (aguOp i) i.iRs2
  aguIImm := gate (aguOp i) i.iImm
  aguIInfo := gate (aguOp i) i.iInfo
  aguIItag := gate (aguOp i) i.iItag
  flushReq := i.flushReq
  oitfEmpty := i.oitfEmpty
  aguIcbCmdReady := i.aguIcbCmdReady
  aguIcbRspValid := i.aguIcbRspValid
  aguIcbRspErr := i.aguIcbRspErr
  aguIcbRspRdata := i.aguIcbRspRdata
  aguSbf0R := s.sbf.sbf0.extractLsb' 0 32
  aguSbf1R := s.sbf.sbf1.extractLsb' 0 32

def mdv (mdvOReady flushPulse : Bool) : Muldiv.In where
  mdvNob2b := i.mdvNob2b
  iValid := i.iValid && mdvOp i
  rs1 := gate (mdvOp i) i.iRs1
  rs2 := gate (mdvOp i) i.iRs2
  info := gate (mdvOp i) i.iInfo
  flushPulse := flushPulse
  oReady := mdvOReady
  sbf0R := s.sbf.sbf0
  sbf1R := s.sbf.sbf1

/-! ## The shared datapath -/

/-- The regular ALU requests the datapath only to write back, the others always. -/
def dpath : AluDpath.In where
  aluReqAlu := aluOp i && i.iRdwen
  aluReq := Rglr.req (rglr i)
  bjpReqAlu := bjpOp i
  bjpReq := Bjp.req (bjp i)
  aguReqAlu := aguOp i
  aguReq := Lsuagu.req s.agu (agu s i)
  muldivReqAlu := mdvOp i
  muldivReq := Muldiv.aluReq (mdv s i false false) s.mdv

def dpathRes : BitVec 32 := AluDpath.dpathRes (dpath s i)
def muldivReqAluRes : BitVec 35 := AluDpath.adderRes (dpath s i)
def bjpReqAluCmpRes : Bool := AluDpath.cmpRes (dpath s i)

/-! ## The output arbiter -/

def mdvILongpipe : Bool := false
def iLongpipe : Bool :=
  (Lsuagu.aguILongpipe s.agu (agu s i) (dpathRes s i) && aguOp i) || (mdvILongpipe && mdvOp i)

def aguOValid : Bool := Lsuagu.aguOValid s.agu (agu s i) (dpathRes s i)
def mdvOValid : Bool := Muldiv.oValid (mdv s i false false) s.mdv (muldivReqAluRes s i)

def oValid : Bool :=
  (aluOp i && (i.iValid && aluOp i)) || (bjpOp i && (i.iValid && bjpOp i)) ||
    (csrOp i && Csrctrl.csrOValid (csr i)) || (aguOp i && aguOValid s i) ||
    (ifuExcpOp i && (i.iValid && ifuExcpOp i)) || (mdvOp i && mdvOValid s i)

def wbckOWdat : BitVec 32 :=
  gate (aluOp i) (dpathRes s i) ||| gate (bjpOp i) (dpathRes s i) |||
    gate (csrOp i) (Csrctrl.csrOWbckWdat (csr i)) |||
    gate (aguOp i) (Lsuagu.aguOWbckWdat s.agu (agu s i) (dpathRes s i)) |||
    gate (mdvOp i) (Muldiv.oWbckWdat (mdv s i false false) s.mdv (muldivReqAluRes s i)) |||
    gate (ifuExcpOp i) 0#32

def wbckORdidx : BitVec 5 := i.iRdidx
def wbckORdwen : Bool := i.iRdwen

/-- An instruction with a fetch exception is always in error, the multiplier/divider never. -/
def wbckOErr : Bool :=
  (aluOp i && Rglr.aluOWbckErr (rglr i)) || (bjpOp i && Bjp.bjpOWbckErr) ||
    (csrOp i && Csrctrl.csrOWbckErr (csr i)) ||
    (aguOp i && Lsuagu.aguOWbckErr s.agu (agu s i) (dpathRes s i)) || (mdvOp i && false) ||
    (ifuExcpOp i && true)

def oNeedWbck : Bool := wbckORdwen i && !iLongpipe s i && !wbckOErr s i
def oNeedCmt : Bool := true

section
variable (cmtOReady wbckOReady : Bool)

def oReady : Bool :=
  (if oNeedCmt then cmtOReady else true) && (if oNeedWbck s i then wbckOReady else true)

def wbckOValid : Bool := oNeedWbck s i && oValid s i && (if oNeedCmt then cmtOReady else true)
def cmtOValid : Bool := oNeedCmt && oValid s i && (if oNeedWbck s i then wbckOReady else true)

end

def cmt : Commit.Alu where
  aluExcpILd := aguOp i && Lsuagu.aguOCmtLd s.agu (agu s i)
  aluExcpIStamo := aguOp i && Lsuagu.aguOCmtStamo s.agu (agu s i)
  aluExcpIMisalgn := aguOp i && Lsuagu.aguOCmtMisalgn s.agu (agu s i) (dpathRes s i)
  aluExcpIBuserr := aguOp i && Lsuagu.aguOCmtBuserr s.agu (agu s i) (dpathRes s i)
  aluExcpIEcall := aluOp i && Rglr.aluOCmtEcall (rglr i)
  aluExcpIEbreak := aluOp i && Rglr.aluOCmtEbreak (rglr i)
  aluExcpIWfi := aluOp i && Rglr.aluOCmtWfi (rglr i)
  aluExcpIIfuMisalgn := i.iMisalgn
  aluExcpIIfuBuserr := i.iBuserr
  aluExcpIIfuIlegl := i.iIlegl || (csrOp i && i.csrAccessIlgl)
  aluExcpIBadaddr := gate (aguOp i) (Lsuagu.aguOCmtBadaddr (dpathRes s i))
  aluExcpIPc := i.iPc
  aluExcpIInstr := i.iInstr
  aluExcpIPcVld := i.iPcVld
  aluCmtIRv32 := i.iInfo.rv32
  aluCmtIImm := i.iImm
  aluCmtIBjp := bjpOp i && Bjp.bjpOCmtBjp (bjp i)
  aluCmtIFencei := bjpOp i && Bjp.bjpOCmtFencei (bjp i)
  aluCmtIMret := bjpOp i && Bjp.bjpOCmtMret (bjp i)
  aluCmtIDret := bjpOp i && Bjp.bjpOCmtDret (bjp i)
  aluCmtIBjpPrdt := bjpOp i && Bjp.bjpOCmtPrdt (bjp i)
  aluCmtIBjpRslv := bjpOp i && Bjp.bjpOCmtRslv (bjp i) (bjpReqAluCmpRes s i)

/-! ## The input handshake, the bus command and the clock edge -/

variable (oRdy flushPulse : Bool)

def aguIReady : Bool :=
  Lsuagu.aguIReady s.agu (agu s i) (dpathRes s i) (aguOp i && oRdy) flushPulse
def mdvIReady : Bool :=
  Muldiv.iReady (mdv s i (mdvOp i && oRdy) flushPulse) s.mdv (muldivReqAluRes s i)

def iReady : Bool :=
  (aguIReady s i oRdy flushPulse && aguOp i) || (mdvIReady s i oRdy flushPulse && mdvOp i) ||
    ((aluOp i && oRdy) && aluOp i) || ((ifuExcpOp i && oRdy) && ifuExcpOp i) ||
    ((bjpOp i && oRdy) && bjpOp i) || (Csrctrl.csrIReady (csr i) (csrOp i && oRdy) && csrOp i)

def aguIcbCmdValid : Bool :=
  Lsuagu.aguIcbCmdValid s.agu (agu s i) (dpathRes s i) (aguOp i && oRdy)
def aguIcbCmdItag : BitVec 1 := Lsuagu.aguIcbCmdItag (agu s i)

def step : State where
  mdv := Muldiv.step (mdv s i (mdvOp i && oRdy) flushPulse) s.mdv (muldivReqAluRes s i)
  sbf :=
    s.sbf.step (mdvOp i)
      (Muldiv.sbfWr (mdv s i (mdvOp i && oRdy) flushPulse) s.mdv (muldivReqAluRes s i))
      (Lsuagu.sbfWr s.agu (agu s i) (dpathRes s i))
  agu := Lsuagu.step s.agu (agu s i) (dpathRes s i) (aguOp i && oRdy) flushPulse

end
end E203.Alu
