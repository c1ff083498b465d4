import E203.Rtl.GnrlBufs

/-! # The fetch adapter (`e203_ifu_ift2icb.v`)

A fetch request for 32 bits at any halfword becomes none, one or two reads of aligned lanes: 64 bits
wide in the ITCM region, 32 bits wide elsewhere.  A lane that the ITCM still holds up is not read
again.

* `Sta`, `State`, `In`: the state machine, the registers and the ports.
* `ifuReqReady`, `ifuRspValid`, `ifuRspInstr`, `ifuIcbCmdValid`, ...: the wires under their source
  names.
* `step`: one clock edge.
-/

namespace E203
set_option autoImplicit false

namespace Ift2icb

/-- `icb_state_r`: idle, first read issued, waiting to issue the second, second read issued. -/
inductive Sta
  | idle | first | wait2nd | second
deriving DecidableEq

@[simp] theorem Sta.beq_eq (a b : Sta) : (a == b) = decide (a = b) := rfl

structure State where
  icbStateR : Sta
  reqSameCrossHoldupR : Bool
  reqNeed2uopR : Bool
  reqNeed0uopR : Bool
  reqLaneCrossR : Bool
  icbCmd2itcmR : Bool
  icbCmd2biuR : Bool
  icbCmdAddr21R : BitVec 2
  leftoverR : BitVec 16
  leftoverErrR : Bool
  /-- The response buffer: error and instruction. -/
  bypbuf : Bypbuf (Bool × BitVec 32)
deriving DecidableEq

/-- After reset; the address bits, the leftover and the buffer's payload have no reset. -/
def State.IsReset (s : State) : Prop :=
  s.icbStateR = .idle ∧ s.reqSameCrossHoldupR = false ∧ s.reqNeed2uopR = false ∧
    s.reqNeed0uopR = false ∧ s.reqLaneCrossR = false ∧ s.icbCmd2itcmR = false ∧
    s.icbCmd2biuR = false ∧ s.leftoverErrR = false ∧ s.bypbuf.vld = false

/-- The input ports. -/
structure In where
  itcmNohold : Bool
  ifuReqValid : Bool
  ifuReqPc : BitVec 32
  ifuReqSeq : Bool
  ifuReqSeqRv32 : Bool
  ifuReqLastPc : BitVec 32
  ifuRspReady : Bool
  itcmRegionIndic : BitVec 32
  ifu2itcmIcbCmdReady : Bool
  ifu2itcmIcbRspValid : Bool
  ifu2itcmIcbRspErr : Bool
  ifu2itcmIcbRspRdata : BitVec 64
  ifu2biuIcbCmdReady : Bool
  ifu2biuIcbRspValid : Bool
  ifu2biuIcbRspErr : Bool
  ifu2biuIcbRspRdata : BitVec 32
  ifu2itcmHoldup : Bool
deriving DecidableEq

/-- `E203_ITCM_BASE_REGION` is the upper half of the address. -/
def inItcm (region addr : BitVec 32) : Bool := addr.extractLsb' 16 16 == region.extractLsb' 16 16

section
variable (s : State) (i : In)

/-! ### Lanes of the request -/

def ifuReqPc2itcm : Bool := inItcm i.itcmRegionIndic i.ifuReqPc
def ifuReqPc2mem : Bool := !ifuReqPc2itcm i

def ifuReqLaneCross : Bool :=
  (ifuReqPc2itcm i && i.ifuReqPc.extractLsb' 1 2 == 0b11#2) ||
    (ifuReqPc2mem i && i.ifuReqPc.getLsbD 1 == true)

def ifuReqLaneBegin : Bool :=
  (ifuReqPc2itcm i && i.ifuReqPc.extractLsb' 1 2 == 0b00#2) ||
    (ifuReqPc2mem i && i.ifuReqPc.getLsbD 1 == false)

/-- A sequential fetch stays in the lane that was read last, unless it begins a lane that was not
read ahead. -/
def ifuReqLaneSame : Bool := i.ifuReqSeq && if ifuReqLaneBegin i then s.reqLaneCrossR else true

def ifuReqLaneHoldup : Bool := ifuReqPc2itcm i && i.ifu2itcmHoldup && !i.itcmNohold

def reqSameCrossHoldup : Bool := ifuReqLaneSame s i && ifuReqLaneCross i && ifuReqLaneHoldup i
def reqNeed2uop : Bool :=
  (ifuReqLaneSame s i && ifuReqLaneCross i && !ifuReqLaneHoldup i) ||
    (!ifuReqLaneSame s i && ifuReqLaneCross i)
def reqNeed0uop : Bool := ifuReqLaneSame s i && !ifuReqLaneCross i && ifuReqLaneHoldup i

def icbStaIsIdle : Bool := s.icbStateR == .idle
def icbStaIs1st : Bool := s.icbStateR == .first
def icbStaIsWait2nd : Bool := s.icbStateR == .wait2nd
def icbStaIs2nd : Bool := s.icbStateR == .second

/-! ### The response channel -/

def ifuIcbRsp2leftover : Bool := s.reqNeed2uopR && icbStaIs1st s

def ifuIcbRspValid : Bool :=
  (s.icbCmd2itcmR && i.ifu2itcmIcbRspValid) || (s.icbCmd2biuR && i.ifu2biuIcbRspValid)

def ifuIcbRspErr : Bool :=
  (s.icbCmd2itcmR && i.ifu2itcmIcbRspErr) || (s.icbCmd2biuR && i.ifu2biuIcbRspErr)

/-- Without a read the response is generated. -/
def holdupGenFakeRspValid : Bool := icbStaIs1st s && s.reqNeed0uopR
def ifuIcbRsp2irValid : Bool := if ifuIcbRsp2leftover s then false else ifuIcbRspValid s i
def iIfuRspValid : Bool := holdupGenFakeRspValid s || ifuIcbRsp2irValid s i
def iIfuRspReady : Bool := s.bypbuf.iRdy
def iIfuRspHsked : Bool := iIfuRspValid s i && iIfuRspReady s
def ifuIcbRspReady : Bool := if ifuIcbRsp2leftover s then true else iIfuRspReady s
def ifuIcbRspHsked : Bool := ifuIcbRspValid s i && ifuIcbRspReady s

/-- Both memories see the same ready signal. -/
def ifu2itcmIcbRspReady : Bool := ifuIcbRspReady s
def ifu2biuIcbRspReady : Bool := ifuIcbRspReady s

def rspInstrSelLeftover : Bool := (icbStaIs1st s && s.reqSameCrossHoldupR) || icbStaIs2nd s
def rspInstrSelIcbRsp : Bool := !rspInstrSelLeftover s

def ifuIcbRspRdataLsb16 : BitVec 16 :=
  gate s.icbCmd2itcmR (i.ifu2itcmIcbRspRdata.extractLsb' 0 16) |||
    gate s.icbCmd2biuR (i.ifu2biuIcbRspRdata.extractLsb' 0 16)

/-- The lane aligned by the low bits of the PC. -/
def ifu2itcmIcbRspInstr : BitVec 32 :=
  gate (s.icbCmdAddr21R == 0b00#2) (i.ifu2itcmIcbRspRdata.extractLsb' 0 32) |||
    gate (s.icbCmdAddr21R == 0b01#2) (i.ifu2itcmIcbRspRdata.extractLsb' 16 32) |||
    gate (s.icbCmdAddr21R == 0b10#2) (i.ifu2itcmIcbRspRdata.extractLsb' 32 32)

def ifu2biuIcbRspInstr : BitVec 32 := i.ifu2biuIcbRspRdata

def ifuIcbRspInstr : BitVec 32 :=
  gate s.icbCmd2itcmR (ifu2itcmIcbRspInstr s i) ||| gate s.icbCmd2biuR (ifu2biuIcbRspInstr i)

def iIfuRspInstr : BitVec 32 :=
  gate (rspInstrSelLeftover s) (ifuIcbRspRdataLsb16 s i ++ s.leftoverR) |||
    gate (rspInstrSelIcbRsp s) (ifuIcbRspInstr s i)

def iIfuRspErr : Bool :=
  (rspInstrSelLeftover s && (ifuIcbRspErr s i || s.leftoverErrR)) ||
    (rspInstrSelIcbRsp s && ifuIcbRspErr s i)

def ifuRspValid : Bool := s.bypbuf.oVld (iIfuRspValid s i)
def ifuRspErr : Bool := (s.bypbuf.oDat (iIfuRspErr s i, iIfuRspInstr s i)).1
def ifuRspInstr : BitVec 32 := (s.bypbuf.oDat (iIfuRspErr s i, iIfuRspInstr s i)).2

/-! ### The command channel -/

def ifuReqReadyCondi : Bool :=
  icbStaIsIdle s || (!s.reqNeed2uopR && icbStaIs1st s && iIfuRspHsked s i) ||
    (s.reqNeed2uopR && icbStaIs2nd s && iIfuRspHsked s i)

def ifuReqValidPos : Bool := i.ifuReqValid && ifuReqReadyCondi s i

def ifuIcbCmdValid : Bool :=
  (ifuReqValidPos s i && !reqNeed0uop s i) ||
    (s.reqNeed2uopR && ((icbStaIs1st s && ifuIcbRspHsked s i) || icbStaIsWait2nd s))

def holdup2leftoverSel : Bool := reqSameCrossHoldup s i
def icbAddrSel1stnxtalgn : Bool := holdup2leftoverSel s i
def icbAddrSel2ndnxtalgn : Bool := s.reqNeed2uopR && (icbStaIs1st s || icbStaIsWait2nd s)
def icbAddrSelCur : Bool := !icbAddrSel1stnxtalgn s i && !icbAddrSel2ndnxtalgn s

def nxtalgnPlusOffset : BitVec 32 :=
  if icbAddrSel2ndnxtalgn s then 2#32 else if i.ifuReqSeqRv32 then 6#32 else 4#32

/-- The next lane, computed from the flopped PC of the last request. -/
def icbAlgnNxtLaneAddr : BitVec 32 := i.ifuReqLastPc + nxtalgnPlusOffset s i

def ifuIcbCmdAddr : BitVec 32 :=
  gate (icbAddrSel1stnxtalgn s i || icbAddrSel2ndnxtalgn s) (icbAlgnNxtLaneAddr s i) |||
    gate (icbAddrSelCur s i) i.ifuReqPc

def ifuIcbCmd2itcm : Bool := inItcm i.itcmRegionIndic (ifuIcbCmdAddr s i)
def ifuIcbCmd2biu : Bool := !ifuIcbCmd2itcm s i

def ifu2itcmIcbCmdValid : Bool := ifuIcbCmdValid s i && ifuIcbCmd2itcm s i
def ifu2biuIcbCmdValid : Bool := ifuIcbCmdValid s i && ifuIcbCmd2biu s i

def ifuIcbCmdReady : Bool :=
  (ifuIcbCmd2itcm s i && i.ifu2itcmIcbCmdReady) || (ifuIcbCmd2biu s i && i.ifu2biuIcbCmdReady)

def ifuIcbCmdHsked : Bool := ifuIcbCmdValid s i && ifuIcbCmdReady s i
def ifuReqReady : Bool := ifuIcbCmdReady s i && ifuReqReadyCondi s i
def ifuReqHsked : Bool := i.ifuReqValid && ifuReqReady s i

/-! ### The state machine -/

def stateIdleExitEna : Bool := icbStaIsIdle s && ifuReqHsked s i
def state1stExitEna : Bool :=
  icbStaIs1st s && if ifuIcbRsp2leftover s then ifuIcbRspHsked s i else iIfuRspHsked s i
def stateWait2ndExitEna : Bool := icbStaIsWait2nd s && ifuIcbCmdReady s i
def state2ndExitEna : Bool := icbStaIs2nd s && iIfuRspHsked s i

def state1stNxt : Sta :=
  if s.reqNeed2uopR && !ifuIcbCmdReady s i then .wait2nd
  else if s.reqNeed2uopR && ifuIcbCmdReady s i then .second
  else if ifuReqHsked s i then .first
  else .idle

def state2ndNxt : Sta := if ifuReqHsked s i then .first else .idle

/-- `icb_state_nxt` under `icb_state_ena`. -/
def icbStateNxt : Sta :=
  if stateIdleExitEna s i then .first
  else if state1stExitEna s i then state1stNxt s i
  else if stateWait2ndExitEna s i then .second
  else if state2ndExitEna s i then state2ndNxt s i
  else s.icbStateR

/-! ### The leftover buffer -/

def holdup2leftoverEna : Bool := ifuReqHsked s i && holdup2leftoverSel s i
def uop1st2leftoverSel : Bool := ifuIcbRsp2leftover s
def uop1st2leftoverEna : Bool := ifuIcbRspHsked s i && uop1st2leftoverSel s
def leftoverEna : Bool := holdup2leftoverEna s i || uop1st2leftoverEna s i

/-- The upper halfword of the lane. -/
def put2leftoverData : BitVec 16 :=
  gate s.icbCmd2itcmR (i.ifu2itcmIcbRspRdata.extractLsb' 48 16) |||
    gate s.icbCmd2biuR (i.ifu2biuIcbRspRdata.extractLsb' 16 16)

def leftoverErrNxt : Bool :=
  (holdup2leftoverSel s i && false) || (uop1st2leftoverSel s && ifuIcbRspErr s i)

/-! ### The clock edge -/

def step : State where
  icbStateR := icbStateNxt s i
  reqSameCrossHoldupR :=
    dfflr (ifuReqHsked s i) (reqSameCrossHoldup s i) s.reqSameCrossHoldupR
  reqNeed2uopR := dfflr (ifuReqHsked s i) (reqNeed2uop s i) s.reqNeed2uopR
  reqNeed0uopR := dfflr (ifuReqHsked s i) (reqNeed0uop s i) s.reqNeed0uopR
  reqLaneCrossR := dfflr (ifuReqHsked s i) (ifuReqLaneCross i) s.reqLaneCrossR
  icbCmd2itcmR := dfflr (ifuIcbCmdHsked s i) (ifuIcbCmd2itcm s i) s.icbCmd2itcmR
  icbCmd2biuR := dfflr (ifuIcbCmdHsked s i) (ifuIcbCmd2biu s i) s.icbCmd2biuR
  icbCmdAddr21R :=
    dfflr (ifuIcbCmdHsked s i || ifuReqHsked s i) ((ifuIcbCmdAddr s i).extractLsb' 1 2)
      s.icbCmdAddr21R
  leftoverR := dfflr (leftoverEna s i) (put2leftoverData s i) s.leftoverR
  leftoverErrR := dfflr (leftoverEna s i) (leftoverErrNxt s i) s.leftoverErrR
  bypbuf :=
    s.bypbuf.step (iIfuRspValid s i) i.ifuRspReady (iIfuRspErr s i, iIfuRspInstr s i)

end
end Ift2icb
end E203
