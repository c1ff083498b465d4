import E203.Rtl.AluDpath

/-! # The 17-cycle multiplier and 33-cycle divider (`e203_exu_alu_muldiv.v`)

The unit shares the adder and the two 33-bit buffers of the ALU datapath.  Multiplication is
radix-4 Booth, one partial product a cycle; division is non-restoring, one quotient bit a cycle,
followed by a remainder check and, when needed, a quotient and a remainder correction.

* `Sta`: the five states of `muldiv_state_r`; `State`: the registers of the unit.
* `In`: the ports sampled in a cycle, with the shared buffers as `sbf0R` and `sbf1R`.  The adder
  result, which depends on the request the unit itself drives, is the extra argument `res`.
* `aluReq`, `sbfWr`: what the unit drives onto the datapath; `oValid`, `iReady`, `oWbckWdat`: its
  response; `step`: the registers after the clock edge.
-/

namespace E203
set_option autoImplicit false

namespace DecInfo
section
variable (info : DecInfo)

/-! ## `E203_DECINFO_MULDIV_*` -/

def mul : Bool := info.getLsbD 4
def mulh : Bool := info.getLsbD 5
def mulhsu : Bool := info.getLsbD 6
def mulhu : Bool := info.getLsbD 7
def div : Bool := info.getLsbD 8
def divu : Bool := info.getLsbD 9
def rem : Bool := info.getLsbD 10
def remu : Bool := info.getLsbD 11
def b2b : Bool := info.getLsbD 12

end
end DecInfo

namespace Muldiv

/-- `muldiv_state_r`. -/
inductive Sta
  | zeroTh | exec | remdChck | quotCorr | remdCorr
deriving DecidableEq, Repr

@[simp] theorem Sta.beq_eq (a b : Sta) : (a == b) = decide (a = b) := by
  cases a <;> cases b <;> rfl

/-- The registers of the unit. -/
structure State where
  flushedR : Bool
  sta : Sta
  execCntR : BitVec 6
  partPrdtSft1R : Bool
  partRemdSft1R : Bool
deriving DecidableEq, Repr

/-- The registers at reset. -/
def State.reset : State := ⟨false, .zeroTh, 0#6, false, false⟩

/-- The ports sampled in a cycle. -/
structure In where
  mdvNob2b : Bool
  iValid : Bool
  rs1 : BitVec 32
  rs2 : BitVec 32
  info : DecInfo
  flushPulse : Bool
  oReady : Bool
  sbf0R : BitVec 33
  sbf1R : BitVec 33

section
variable (i : In) (s : State) (res : BitVec 35)

/-! ## Decode -/

def iB2b : Bool := i.info.b2b && !s.flushedR && !i.mdvNob2b
def back2backSeq : Bool := iB2b i s

def mulRs1Sign : Bool := if i.info.mulhu then false else i.rs1.getLsbD 31
def mulRs2Sign : Bool := if i.info.mulhsu || i.info.mulhu then false else i.rs2.getLsbD 31

def iOpMul : Bool := i.info.mul || i.info.mulh || i.info.mulhsu || i.info.mulhu
def iOpDiv : Bool := i.info.div || i.info.divu || i.info.rem || i.info.remu

def divRs1Sign : Bool := if i.info.divu || i.info.remu then false else i.rs1.getLsbD 31
def divRs2Sign : Bool := if i.info.divu || i.info.remu then false else i.rs2.getLsbD 31

/-- `{{33{div_rs1_sign}},div_rs1_sign,muldiv_i_rs1}`. -/
def dividend : BitVec 66 :=
  BitVec.fill 33 (divRs1Sign i) ++ (BitVec.ofBool (divRs1Sign i) ++ i.rs1)

/-- `{div_rs2_sign,div_rs2_sign,muldiv_i_rs2}`. -/
def divisor : BitVec 34 := BitVec.fill 2 (divRs2Sign i) ++ i.rs2

/-! ## Special cases of the division -/

def divBy0 : Bool := i.rs2 == 0#32

def divOvf : Bool :=
  (i.info.div || i.info.rem) && i.rs2 == BitVec.allOnes 32 && i.rs1.getLsbD 31 &&
    i.rs1.extractLsb' 0 31 == 0#31

def divBy0Res : BitVec 32 :=
  if i.info.div || i.info.divu then ~~~0#32 else (dividend i).extractLsb' 0 32

def divOvfRes : BitVec 32 := if i.info.div || i.info.divu then BitVec.ofBool true ++ 0#31 else 0#32

def divSpecialCases : Bool := iOpDiv i && (divBy0 i || divOvf i)
def divSpecialRes : BitVec 32 := if divBy0 i then divBy0Res i else divOvfRes i
def specialCases : Bool := divSpecialCases i

/-! ## The counter -/

def cycle0th : Bool := s.sta == .zeroTh
def cycle16th : Bool := s.execCntR == 16#6
def cycle32nd : Bool := s.execCntR == 32#6

def mulExecLastCycle : Bool := cycle16th s
def divExecLastCycle : Bool := cycle32nd s
def execLastCycle : Bool := if iOpMul i then mulExecLastCycle s else divExecLastCycle s

/-! ## The Booth-4 multiplier -/

def boothCode : BitVec 3 :=
  if cycle0th s then i.rs1.extractLsb' 0 2 ++ BitVec.ofBool false
  else if cycle16th s then
    BitVec.ofBool (mulRs1Sign i) ++ i.sbf1R.extractLsb' 0 1 ++ BitVec.ofBool s.partPrdtSft1R
  else i.sbf1R.extractLsb' 0 2 ++ BitVec.ofBool s.partPrdtSft1R

def boothSelZero : Bool := boothCode i s == 0b000#3 || boothCode i s == 0b111#3
def boothSelTwo : Bool := boothCode i s == 0b011#3 || boothCode i s == 0b100#3
def boothSelOne : Bool := !boothSelZero i s && !boothSelTwo i s
def boothSelSub : Bool := (boothCode i s).getLsbD 2

def mulExeAluOp2 : BitVec 35 :=
  gate (boothSelZero i s) 0#35 |||
    gate (boothSelOne i s) (BitVec.fill 3 (mulRs2Sign i) ++ i.rs2) |||
    gate (boothSelTwo i s) (BitVec.fill 2 (mulRs2Sign i) ++ i.rs2 ++ BitVec.ofBool false)

def mulExeAluOp1 : BitVec 35 :=
  if cycle0th s then 0#35 else BitVec.fill 2 (i.sbf0R.getLsbD 32) ++ i.sbf0R

def mulExeAluAdd : Bool := !boothSelSub i s
def mulExeAluSub : Bool := boothSelSub i s

def partPrdtHiNxt : BitVec 33 := res.extractLsb' 2 33

def partPrdtLoNxt : BitVec 33 :=
  res.extractLsb' 0 2 ++
    (if cycle0th s then BitVec.ofBool (mulRs1Sign i) ++ i.rs1.extractLsb' 2 30
      else i.sbf1R.extractLsb' 2 31)

def partPrdtSft1Nxt : Bool := if cycle0th s then i.rs1.getLsbD 1 else i.sbf1R.getLsbD 1

def mulRes : BitVec 32 := if i.info.mul then i.sbf1R.extractLsb' 1 32 else res.extractLsb' 0 32

/-! ## The non-restoring divider -/

def quot0cycl : Bool := if (dividend i).getLsbD 65 ^^ (divisor i).getLsbD 33 then false else true

def dividendLsft1 : BitVec 67 := dividend i ++ BitVec.ofBool (quot0cycl i)

def prevQuot : Bool := if cycle0th s then quot0cycl i else i.sbf1R.getLsbD 0

def divExeAluRes : BitVec 34 := res.extractLsb' 0 34

def divExeAluOp1 : BitVec 34 :=
  if cycle0th s then (dividendLsft1 i).extractLsb' 33 34
  else BitVec.ofBool s.partRemdSft1R ++ i.sbf0R

def divExeAluOp2 : BitVec 34 := divisor i
def divExeAluAdd : Bool := !prevQuot i s
def divExeAluSub : Bool := prevQuot i s

def currentQuot : Bool :=
  if (divExeAluRes res).getLsbD 33 ^^ (divisor i).getLsbD 33 then false else true

def divExePartRemd : BitVec 67 :=
  divExeAluRes res ++ (if cycle0th s then (dividendLsft1 i).extractLsb' 0 33 else i.sbf1R)

def divExePartRemdLsft1 : BitVec 68 :=
  divExePartRemd i s res ++ BitVec.ofBool (currentQuot i res)

def corrctPhase : Bool := s.sta == .remdCorr || s.sta == .quotCorr
def checkPhase : Bool := s.sta == .remdChck

def divQuotCorrAluRes : BitVec 34 := res.extractLsb' 0 34
def divRemdCorrAluRes : BitVec 34 := res.extractLsb' 0 34

def divRemd : BitVec 33 :=
  if checkPhase s then i.sbf0R
  else if corrctPhase s then (divRemdCorrAluRes res).extractLsb' 0 33
  else (divExePartRemd i s res).extractLsb' 33 33

def divQuot : BitVec 33 :=
  if checkPhase s then i.sbf1R
  else if corrctPhase s then i.sbf1R
  else (divExePartRemd i s res).extractLsb' 0 32 ++ BitVec.ofBool true

def partRemdNxt : BitVec 33 :=
  if corrctPhase s then (divRemdCorrAluRes res).extractLsb' 0 33
  else if s.sta == .exec && divExecLastCycle s then divRemd i s res
  else (divExePartRemdLsft1 i s res).extractLsb' 33 33

def partQuotNxt : BitVec 33 :=
  if corrctPhase s then (divQuotCorrAluRes res).extractLsb' 0 33
  else if s.sta == .exec && divExecLastCycle s then divQuot i s res
  else (divExePartRemdLsft1 i s res).extractLsb' 0 33

def divRemdChckAluRes : BitVec 34 := res.extractLsb' 0 34
def divRemdChckAluOp1 : BitVec 34 := BitVec.ofBool (i.sbf0R.getLsbD 32) ++ i.sbf0R
def divRemdChckAluOp2 : BitVec 34 := divisor i

def remdIs0 : Bool := i.sbf0R == 0#33
def remdIsNegDivs : Bool := divRemdChckAluRes res == 0#34
def remdIsDivs : Bool := i.sbf0R == (divisor i).extractLsb' 0 33

def divNeedCorrct : Bool :=
  iOpDiv i &&
    (((i.sbf0R.getLsbD 32 ^^ (dividend i).getLsbD 65) && !remdIs0 i) || remdIsNegDivs res ||
      remdIsDivs i)

def remdIncQuotDec : Bool := i.sbf0R.getLsbD 32 ^^ (divisor i).getLsbD 33

def divQuotCorrAluOp1 : BitVec 34 := BitVec.ofBool (i.sbf1R.getLsbD 32) ++ i.sbf1R
def divQuotCorrAluOp2 : BitVec 34 := 1#34
def divQuotCorrAluAdd : Bool := !remdIncQuotDec i
def divQuotCorrAluSub : Bool := remdIncQuotDec i

def divRemdCorrAluOp1 : BitVec 34 := BitVec.ofBool (i.sbf0R.getLsbD 32) ++ i.sbf0R
def divRemdCorrAluOp2 : BitVec 34 := divisor i
def divRemdCorrAluAdd : Bool := remdIncQuotDec i
def divRemdCorrAluSub : Bool := !remdIncQuotDec i

def divRes : BitVec 32 :=
  if i.info.div || i.info.divu then (divQuot i s res).extractLsb' 0 32
  else (divRemd i s res).extractLsb' 0 32

/-! ## The requests to the datapath -/

def reqAluSel1 : Bool := iOpMul i
def reqAluSel2 : Bool := iOpDiv i && (s.sta == .zeroTh || s.sta == .exec)
def reqAluSel3 : Bool := iOpDiv i && s.sta == .quotCorr
def reqAluSel4 : Bool := iOpDiv i && s.sta == .remdCorr
def reqAluSel5 : Bool := iOpDiv i && s.sta == .remdChck

/-- The adder request, `muldiv_req_alu_*`. -/
def aluReq : AluDpath.MdvReq where
  op1 :=
    gate (reqAluSel1 i) (mulExeAluOp1 i s) |||
      gate (reqAluSel2 i s) (0#1 ++ divExeAluOp1 i s) |||
      gate (reqAluSel3 i s) (0#1 ++ divQuotCorrAluOp1 i) |||
      gate (reqAluSel4 i s) (0#1 ++ divRemdCorrAluOp1 i) |||
      gate (reqAluSel5 i s) (0#1 ++ divRemdChckAluOp1 i)
  op2 :=
    gate (reqAluSel1 i) (mulExeAluOp2 i s) |||
      gate (reqAluSel2 i s) (0#1 ++ divExeAluOp2 i) |||
      gate (reqAluSel3 i s) (0#1 ++ divQuotCorrAluOp2) |||
      gate (reqAluSel4 i s) (0#1 ++ divRemdCorrAluOp2 i) |||
      gate (reqAluSel5 i s) (0#1 ++ divRemdChckAluOp2 i)
  add :=
    reqAluSel1 i && mulExeAluAdd i s || reqAluSel2 i s && divExeAluAdd i s ||
      reqAluSel3 i s && divQuotCorrAluAdd i || reqAluSel4 i s && divRemdCorrAluAdd i ||
      reqAluSel5 i s && true
  sub :=
    reqAluSel1 i && mulExeAluSub i s || reqAluSel2 i s && divExeAluSub i s ||
      reqAluSel3 i s && divQuotCorrAluSub i || reqAluSel4 i s && divRemdCorrAluSub i ||
      reqAluSel5 i s && false

/-! ## The response -/

def back2backMulRes : BitVec 32 := i.sbf1R.extractLsb' 0 31 ++ BitVec.ofBool s.partPrdtSft1R
def back2backMulRem : BitVec 32 := i.sbf0R.extractLsb' 0 32
def back2backMulDiv : BitVec 32 := i.sbf1R.extractLsb' 0 32

def back2backRes : BitVec 32 :=
  gate i.info.mul (back2backMulRes i s) ||| gate (i.info.rem || i.info.remu) (back2backMulRem i) |||
    gate (i.info.div || i.info.divu) (back2backMulDiv i)

def wbckCondi : Bool :=
  if back2backSeq i s || specialCases i then true
  else
    s.sta == .exec && execLastCycle i s && !iOpDiv i ||
      s.sta == .remdChck && !divNeedCorrct i res || s.sta == .remdCorr

def oValid : Bool := wbckCondi i s res && i.iValid

def iReady : Bool := wbckCondi i s res && i.oReady

def oHsked : Bool := oValid i s res && i.oReady

def resSelSpl : Bool := specialCases i
def resSelB2b : Bool := back2backSeq i s && !specialCases i
def resSelDiv : Bool := !back2backSeq i s && !specialCases i && iOpDiv i
def resSelMul : Bool := !back2backSeq i s && !specialCases i && iOpMul i

def oWbckWdat : BitVec 32 :=
  gate (resSelB2b i s) (back2backRes i s) ||| gate (resSelSpl i) (divSpecialRes i) |||
    gate (resSelDiv i s) (divRes i s res) ||| gate (resSelMul i s) (mulRes i res)

/-! ## The state machine -/

def iValidNb2b : Bool := i.iValid && !back2backSeq i s && !specialCases i

def state0thExitEna : Bool := s.sta == .zeroTh && iValidNb2b i s && !i.flushPulse

def stateExecExitEna : Bool :=
  s.sta == .exec &&
    (execLastCycle i s && (if iOpDiv i then true else oHsked i s res) || i.flushPulse)

def stateExecNxt : Sta := if i.flushPulse then .zeroTh else if iOpDiv i then .remdChck else .zeroTh

def stateRemdChckExitEna : Bool :=
  s.sta == .remdChck && ((if divNeedCorrct i res then true else oHsked i s res) || i.flushPulse)

def stateRemdChckNxt : Sta :=
  if i.flushPulse then .zeroTh else if divNeedCorrct i res then .quotCorr else .zeroTh

def stateQuotCorrExitEna : Bool := s.sta == .quotCorr && (i.flushPulse || true)
def stateQuotCorrNxt : Sta := if i.flushPulse then .zeroTh else .remdCorr

def stateRemdCorrExitEna : Bool := s.sta == .remdCorr && (i.flushPulse || oHsked i s res)
def stateRemdCorrNxt : Sta := if i.flushPulse then .zeroTh else .zeroTh

/-- The next state, where an exit is enabled; the five enables exclude each other. -/
def staNxt : Sta :=
  if state0thExitEna i s then .exec
  else if stateExecExitEna i s res then stateExecNxt i
  else if stateRemdChckExitEna i s res then stateRemdChckNxt i res
  else if stateQuotCorrExitEna i s then stateQuotCorrNxt i
  else if stateRemdCorrExitEna i s res then stateRemdCorrNxt i
  else s.sta

def stateExecEnterEna : Bool :=
  (state0thExitEna i s || stateExecExitEna i s res || stateRemdChckExitEna i s res ||
    stateQuotCorrExitEna i s || stateRemdCorrExitEna i s res) && staNxt i s res == .exec

def execCntSet : Bool := stateExecEnterEna i s res
def execCntInc : Bool := s.sta == .exec && !execLastCycle i s
def execCntNxt : BitVec 6 := if execCntSet i s res then 1#6 else s.execCntR + 1#6

def mulExeCntSet : Bool := execCntSet i s res && iOpMul i
def mulExeCntInc : Bool := execCntInc i s && iOpMul i
def partPrdtHiEna : Bool := mulExeCntSet i s res || mulExeCntInc i s || stateExecExitEna i s res
def partPrdtLoEna : Bool := partPrdtHiEna i s res

def divExeCntSet : Bool := execCntSet i s res && iOpDiv i
def divExeCntInc : Bool := execCntInc i s && iOpDiv i

def partRemdEna : Bool :=
  divExeCntSet i s res || divExeCntInc i s || stateExecExitEna i s res ||
    stateRemdCorrExitEna i s res

def partQuotEna : Bool :=
  divExeCntSet i s res || divExeCntInc i s || stateExecExitEna i s res || stateQuotCorrExitEna i s

/-- The write port to the shared buffers, `muldiv_sbf_*`. -/
def sbfWr : AluDpath.SbfWr 33 where
  ena0 := partRemdEna i s res || partPrdtHiEna i s res
  nxt0 := if iOpMul i then partPrdtHiNxt res else partRemdNxt i s res
  ena1 := partQuotEna i s res || partPrdtLoEna i s res
  nxt1 := if iOpMul i then partPrdtLoNxt i s res else partQuotNxt i s res

def flushedSet : Bool := i.flushPulse
def flushedClr : Bool := oHsked i s res && !i.flushPulse

def step : State where
  flushedR := dfflr (flushedSet i || flushedClr i s res) (flushedSet i || !flushedClr i s res)
    s.flushedR
  sta := staNxt i s res
  execCntR := dfflr (execCntInc i s || execCntSet i s res) (execCntNxt i s res) s.execCntR
  partPrdtSft1R := dfflr (partPrdtLoEna i s res) (partPrdtSft1Nxt i s) s.partPrdtSft1R
  partRemdSft1R := dfflr (partRemdEna i s res) ((divExeAluRes res).getLsbD 32) s.partRemdSft1R

end

end Muldiv

end E203
