import E203.Rtl.DebugModule
import E203.Rtl.GnrlCdc

/-! # The debug transport module (`sirv_jtag_dtm.v`)

A debug-access scan sends a request of the debug bus when it ends, and the next one reads the response
when it begins.

* `Tap`: the states of the JTAG state machine; `tapNxt`: its transitions.
* `State`: the registers on TCK; `busy`, `iDtmRespReady`, ...: the wires under their source names.
* `step`: a period of TCK.
* `Link`: the transport module and the debug module on two clocks, with the two crossings between them
  as `sirv_debug_module.v` connects them.
-/

namespace E203
set_option autoImplicit false

namespace JtagDtm

/-- `jtagStateReg`. -/
inductive Tap
  | testLogicReset | runTestIdle
  | selectDr | captureDr | shiftDr | exit1Dr | pauseDr | exit2Dr | updateDr
  | selectIr | captureIr | shiftIr | exit1Ir | pauseIr | exit2Ir | updateIr
deriving DecidableEq

def tapNxt (jtagTMS : Bool) : Tap → Tap
  | .testLogicReset => if jtagTMS then .testLogicReset else .runTestIdle
  | .runTestIdle => if jtagTMS then .selectDr else .runTestIdle
  | .selectDr => if jtagTMS then .selectIr else .captureDr
  | .captureDr => if jtagTMS then .exit1Dr else .shiftDr
  | .shiftDr => if jtagTMS then .exit1Dr else .shiftDr
  | .exit1Dr => if jtagTMS then .updateDr else .pauseDr
  | .pauseDr => if jtagTMS then .exit2Dr else .pauseDr
  | .exit2Dr => if jtagTMS then .updateDr else .shiftDr
  | .updateDr => if jtagTMS then .selectDr else .runTestIdle
  | .selectIr => if jtagTMS then .testLogicReset else .captureIr
  | .captureIr => if jtagTMS then .exit1Ir else .shiftIr
  | .shiftIr => if jtagTMS then .exit1Ir else .shiftIr
  | .exit1Ir => if jtagTMS then .updateIr else .pauseIr
  | .pauseIr => if jtagTMS then .exit2Ir else .pauseIr
  | .exit2Ir => if jtagTMS then .updateIr else .shiftIr
  | .updateIr => if jtagTMS then .selectDr else .runTestIdle

def REG_IDCODE : BitVec 5 := 0b00001#5
def REG_DEBUG_ACCESS : BitVec 5 := 0b10001#5
def REG_DTM_INFO : BitVec 5 := 0b10000#5

def idcode : BitVec 32 := 0x1#4 ++ 0x0e31#16 ++ 0x489#11 ++ 0x1#1

structure State where
  jtagStateReg : Tap
  irReg : BitVec 5
  shiftReg : BitVec 41
  busyReg : Bool
  skipOpReg : Bool
  downgradeOpReg : Bool
  stickyBusyReg : Bool
  stickyNonzeroRespReg : Bool
  dbusReg : BitVec 41
  dbusValidReg : Bool
deriving DecidableEq

/-- After reset; the shift register has none. -/
def reset (shiftReg : BitVec 41) : State where
  jtagStateReg := .testLogicReset
  irReg := REG_IDCODE
  shiftReg := shiftReg
  busyReg := false
  skipOpReg := false
  downgradeOpReg := false
  stickyBusyReg := false
  stickyNonzeroRespReg := false
  dbusReg := 0#41
  dbusValidReg := false

structure In where
  jtagTDI : Bool
  jtagTMS : Bool
  iDtmReqReady : Bool
  iDtmRespValid : Bool
  iDtmRespBits : BitVec 36

section
variable (s : State) (i : In)

def debugAccess : Bool := s.irReg == REG_DEBUG_ACCESS
def captureDr : Bool := s.jtagStateReg == .captureDr
def updateDr : Bool := s.jtagStateReg == .updateDr

def dbusStatus : BitVec 2 :=
  BitVec.ofBool s.stickyNonzeroRespReg ++ BitVec.ofBool (s.stickyNonzeroRespReg || s.stickyBusyReg)

def dtminfo : BitVec 32 := 0#15 ++ 0#1 ++ 0#3 ++ 0x5#3 ++ dbusStatus s ++ 0x5#4 ++ 0#4

def dbusReset : Bool := s.shiftReg.getLsbD 16

def busy : Bool := (s.busyReg && !i.iDtmRespValid) || s.stickyBusyReg

def nonzeroResp : Bool :=
  (if i.iDtmRespValid then i.iDtmRespBits.extractLsb' 0 2 != 0#2 else false) || s.stickyNonzeroRespReg

/-- The response is taken when a debug-access scan begins. -/
def iDtmRespReady : Bool := captureDr s && debugAccess s && i.iDtmRespValid

def iDtmReqValid : Bool := s.dbusValidReg
def iDtmReqBits : BitVec 41 := s.dbusReg

def busyResponse : BitVec 41 := 0#39 ++ 0b11#2

def nonbusyResponse : BitVec 41 :=
  s.dbusReg.extractLsb' 36 5 ++ i.iDtmRespBits.extractLsb' 2 34 ++ i.iDtmRespBits.extractLsb' 0 2

/-! ### Rising edge of TCK -/

def shiftRegNxt : BitVec 41 :=
  match s.jtagStateReg with
  | .captureIr => 0#40 ++ 1#1
  | .shiftIr => 0#36 ++ BitVec.ofBool i.jtagTDI ++ s.shiftReg.extractLsb' 1 4
  | .captureDr =>
    if s.irReg == REG_IDCODE then 0#9 ++ idcode
    else if s.irReg == REG_DTM_INFO then 0#9 ++ dtminfo s
    else if s.irReg == REG_DEBUG_ACCESS then if busy s i then busyResponse else nonbusyResponse s i
    else 0#41
  | .shiftDr =>
    if s.irReg == REG_IDCODE || s.irReg == REG_DTM_INFO then
      0#9 ++ BitVec.ofBool i.jtagTDI ++ s.shiftReg.extractLsb' 1 31
    else if s.irReg == REG_DEBUG_ACCESS then BitVec.ofBool i.jtagTDI ++ s.shiftReg.extractLsb' 1 40
    else 0#40 ++ BitVec.ofBool i.jtagTDI
  | _ => s.shiftReg

def busyRegNxt : Bool :=
  if iDtmReqValid s then true
  else if i.iDtmRespValid && iDtmRespReady s i then false
  else s.busyReg

def skipOpRegNxt : Bool :=
  if debugAccess s then
    if captureDr s then busy s i else if updateDr s then false else s.skipOpReg
  else s.skipOpReg

def downgradeOpRegNxt : Bool :=
  if debugAccess s then
    if captureDr s then !busy s i && nonzeroResp s i
    else if updateDr s then false
    else s.downgradeOpReg
  else s.downgradeOpReg

/-- Writing `dbusreset` through the other register clears the sticky flags. -/
def stickyClr : Bool := s.irReg == REG_DTM_INFO && updateDr s && dbusReset s

def stickyBusyRegNxt : Bool :=
  if debugAccess s then if captureDr s then busy s i else s.stickyBusyReg
  else if stickyClr s then false
  else s.stickyBusyReg

def stickyNonzeroRespRegNxt : Bool :=
  if debugAccess s then if captureDr s then nonzeroResp s i else s.stickyNonzeroRespReg
  else if stickyClr s then false
  else s.stickyNonzeroRespReg

/-- A scan that ends sends its word, or a NOP, or nothing. -/
def dbusRegNxt : BitVec 41 :=
  if updateDr s && debugAccess s then
    if s.skipOpReg then s.dbusReg else if s.downgradeOpReg then 0#41 else s.shiftReg
  else s.dbusReg

/-- Whatever scan ends, the flag is not cleared then. -/
def dbusValidRegNxt : Bool :=
  if updateDr s then
    if debugAccess s then if s.skipOpReg then s.dbusValidReg else true else s.dbusValidReg
  else if i.iDtmReqReady then false
  else s.dbusValidReg

def posedge : State where
  jtagStateReg := tapNxt i.jtagTMS s.jtagStateReg
  irReg := s.irReg
  shiftReg := shiftRegNxt s i
  busyReg := busyRegNxt s i
  skipOpReg := skipOpRegNxt s i
  downgradeOpReg := downgradeOpRegNxt s i
  stickyBusyReg := stickyBusyRegNxt s i
  stickyNonzeroRespReg := stickyNonzeroRespRegNxt s i
  dbusReg := dbusRegNxt s
  dbusValidReg := dbusValidRegNxt s i

/-! ### Falling edge of TCK -/

def negedge : State :=
  { s with
    irReg :=
      if s.jtagStateReg = .testLogicReset then REG_IDCODE
      else if s.jtagStateReg = .updateIr then s.shiftReg.extractLsb' 0 5
      else s.irReg }

/-- A rising edge and the falling edge behind it.  Only `irReg` changes at the falling edge, and only
the next rising edge reads it. -/
def step : State := negedge (posedge s i)

end
end JtagDtm

/-! ## The two clock domains -/

namespace Link

structure State (DP : ℕ) where
  dtm : JtagDtm.State
  /-- `u_jtag2debug_cdc_tx` and `u_dm2dtm_cdc_rx`. -/
  req : Cdc.State 41 DP DP
  /-- `u_dm2dtm_cdc_tx` and `u_jtag2debug_cdc_rx`. -/
  resp : Cdc.State 36 DP DP
  dm : DebugModule.State

def reset (DP : ℕ) (shiftReg : BitVec 41) : State DP where
  dtm := JtagDtm.reset shiftReg
  req := Cdc.reset 41 DP DP
  resp := Cdc.reset 36 DP DP
  dm := DebugModule.reset

/-- Which clocks rise in an event, and the ports of JTAG and of the system bus. -/
structure In where
  jtagTCK : Bool
  dmClk : Bool
  jtagTDI : Bool
  jtagTMS : Bool
  iIcbCmdValid : Bool
  iIcbCmdAddr : BitVec 12
  iIcbCmdRead : Bool
  iIcbCmdWdata : BitVec 32
  iIcbRspReady : Bool
  undef : BitVec 32

section
variable {DP : ℕ} [NeZero DP] (s : State DP) (i : In)

def dtmIn : JtagDtm.In where
  jtagTDI := i.jtagTDI
  jtagTMS := i.jtagTMS
  iDtmReqReady := CdcTx.iRdy s.req.tx
  iDtmRespValid := CdcRx.oVld s.resp.rx
  iDtmRespBits := CdcRx.oDat s.resp.rx

def dmIn : DebugModule.In where
  iDtmReqValid := CdcRx.oVld s.req.rx
  iDtmReqBits := CdcRx.oDat s.req.rx
  iDtmRespReady := CdcTx.iRdy s.resp.tx
  iIcbCmdValid := i.iIcbCmdValid
  iIcbCmdAddr := i.iIcbCmdAddr
  iIcbCmdRead := i.iIcbCmdRead
  iIcbCmdWdata := i.iIcbCmdWdata
  iIcbRspReady := i.iIcbRspReady
  undef := i.undef

def reqIn : Cdc.In 41 where
  txClk := i.jtagTCK
  rxClk := i.dmClk
  iVld := JtagDtm.iDtmReqValid s.dtm
  iDat := JtagDtm.iDtmReqBits s.dtm
  oRdy := DebugModule.iDtmReqReady (dmIn s i)

def respIn : Cdc.In 36 where
  txClk := i.dmClk
  rxClk := i.jtagTCK
  iVld := DebugModule.iDtmRespValid (dmIn s i)
  iDat := DebugModule.iDtmRespBits s.dm (dmIn s i)
  oRdy := JtagDtm.iDtmRespReady s.dtm (dtmIn s i)

def step (i : In) (s : State DP) : State DP where
  dtm := if i.jtagTCK then JtagDtm.step s.dtm (dtmIn s i) else s.dtm
  req := Cdc.step (reqIn s i) s.req
  resp := Cdc.step (respIn s i) s.resp
  dm := if i.dmClk then DebugModule.step (dmIn s i) s.dm else s.dm

end
end Link
end E203
