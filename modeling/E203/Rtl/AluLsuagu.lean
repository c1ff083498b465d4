import E203.Rtl.AluDpath

/-! # The address-generation unit (`e203_exu_alu_lsuagu.v`)

An aligned load or store is handed to the load/store unit in the cycle of its commit and becomes a
long-pipe instruction.  An aligned atomic operation runs the state machine `Sta` to its end: read,
compute, write back to memory, commit.  The unit computes its addresses and the atomic operations on
the shared datapath.

* `req`: the slice of the datapath mux; `res` below is the result that comes back.
* `aguOValid`, `aguIReady`, `aguIcbCmdValid`: the three handshakes.
* `step`: one clock edge; `sbfWr`: the write port to the shared buffers.
-/

namespace E203.Lsuagu
set_option autoImplicit false

/-- `icb_state_r`. -/
inductive Sta
  | idle | first | wait2nd | second | amoalu | amordy | wbck
deriving DecidableEq

@[simp] theorem Sta.beq_eq (a b : Sta) : (a == b) = decide (a = b) := rfl

structure State where
  icbStateR : Sta
  unalgnFlgR : Bool
  leftoverErrR : Bool
deriving DecidableEq

def State.reset : State where
  icbStateR := .idle
  unalgnFlgR := false
  leftoverErrR := false

/-- The input ports known before the commit stage answers; the operands are gated with
`agu_op`. -/
structure In where
  aguIValid : Bool
  aguIRs1 : BitVec 32
  aguIRs2 : BitVec 32
  aguIImm : BitVec 32
  aguIInfo : DecInfo
  aguIItag : BitVec 1
  flushReq : Bool
  oitfEmpty : Bool
  aguIcbCmdReady : Bool
  aguIcbRspValid : Bool
  aguIcbRspErr : Bool
  aguIcbRspRdata : BitVec 32
  aguSbf0R : BitVec 32
  aguSbf1R : BitVec 32
deriving DecidableEq

section
variable (s : State) (i : In)

def icbStaIsIdle : Bool := s.icbStateR == .idle
def icbStaIs1st : Bool := s.icbStateR == .first
def icbStaIsAmoalu : Bool := s.icbStateR == .amoalu
def icbStaIsAmordy : Bool := s.icbStateR == .amordy
def icbStaIsWait2nd : Bool := s.icbStateR == .wait2nd
def icbStaIs2nd : Bool := s.icbStateR == .second
def icbStaIsWbck : Bool := s.icbStateR == .wbck
def icbStaIsLast : Bool := icbStaIsWbck s

/-- A started state machine is run to its end: the atomic operation has touched the memory. -/
def amoWait : Bool := !icbStaIsIdle s

/-! ### The instruction -/

/-- A flush from outside the ALU masks off the instruction that has not started yet. -/
def flushBlock : Bool := i.flushReq && icbStaIsIdle s

def aguILoad : Bool := i.aguIInfo.getLsbD 4 && !flushBlock s i
def aguIStore : Bool := i.aguIInfo.getLsbD 5 && !flushBlock s i
def aguIAmo : Bool := i.aguIInfo.getLsbD 10 && !flushBlock s i
def aguISize : BitVec 2 := i.aguIInfo.extractLsb' 6 2
def aguIUsign : Bool := i.aguIInfo.getLsbD 8
def aguIExcl : Bool := i.aguIInfo.getLsbD 9
def aguIAmoswap : Bool := i.aguIInfo.getLsbD 11
def aguIAmoadd : Bool := i.aguIInfo.getLsbD 12
def aguIAmoand : Bool := i.aguIInfo.getLsbD 13
def aguIAmoor : Bool := i.aguIInfo.getLsbD 14
def aguIAmoxor : Bool := i.aguIInfo.getLsbD 15
def aguIAmomax : Bool := i.aguIInfo.getLsbD 16
def aguIAmomin : Bool := i.aguIInfo.getLsbD 17
def aguIAmomaxu : Bool := i.aguIInfo.getLsbD 18
def aguIAmominu : Bool := i.aguIInfo.getLsbD 19

def aguISizeB : Bool := aguISize i == 0b00#2
def aguISizeHw : Bool := aguISize i == 0b01#2
def aguISizeW : Bool := aguISize i == 0b10#2

def aguIOfst0 : Bool := aguIAmo s i || ((aguILoad s i || aguIStore s i) && aguIExcl i)

/-! ### The datapath request -/

def leftoverR : BitVec 32 := i.aguSbf0R
def leftover1R : BitVec 32 := i.aguSbf1R

def aguAddrGenOp2 : BitVec 32 := if aguIOfst0 s i then 0#32 else i.aguIImm

/-- The later states of an atomic operation that need its address again. -/
def amoAddr : Bool := aguIAmo s i && (icbStaIsWait2nd s || icbStaIs2nd s || icbStaIsWbck s)

def req : AluDpath.Req where
  op1 :=
    if icbStaIsIdle s then i.aguIRs1
    else if icbStaIsAmoalu s then leftoverR i
    else if amoAddr s i then i.aguIRs1
    else 0#32
  op2 :=
    if icbStaIsIdle s then aguAddrGenOp2 s i
    else if icbStaIsAmoalu s then i.aguIRs2
    else if amoAddr s i then aguAddrGenOp2 s i
    else 0#32
  add := (icbStaIsAmoalu s && aguIAmoadd i) || amoAddr s i || icbStaIsIdle s
  mvop2 := icbStaIsAmoalu s && aguIAmoswap i
  and := icbStaIsAmoalu s && aguIAmoand i
  or := icbStaIsAmoalu s && aguIAmoor i
  xor := icbStaIsAmoalu s && aguIAmoxor i
  max := icbStaIsAmoalu s && aguIAmomax i
  min := icbStaIsAmoalu s && aguIAmomin i
  maxu := icbStaIsAmoalu s && aguIAmomaxu i
  minu := icbStaIsAmoalu s && aguIAmominu i

/-! ### Alignment; `res` is the datapath's result -/

variable (res : BitVec 32)

def aguIcbCmdAddr : BitVec 32 := res

def aguIAddrUnalgn : Bool :=
  (aguISizeHw i && (aguIcbCmdAddr res).getLsbD 0) ||
    (aguISizeW i && (aguIcbCmdAddr res).extractLsb' 0 2 != 0#2)

def aguAddrUnalgn : Bool := if icbStaIsIdle s then aguIAddrUnalgn i res else s.unalgnFlgR

def aguIUnalgnldst : Bool :=
  (aguAddrUnalgn s i res && aguILoad s i) || (aguAddrUnalgn s i res && aguIStore s i)

def aguIAlgnldst : Bool :=
  (!aguAddrUnalgn s i res && aguILoad s i) || (!aguAddrUnalgn s i res && aguIStore s i)

def aguIUnalgnamo : Bool := aguAddrUnalgn s i res && aguIAmo s i
def aguIAlgnamo : Bool := !aguAddrUnalgn s i res && aguIAmo s i

/-! ### Outputs to the commit and write-back stages -/

/-- An aligned load or store is a long-pipe instruction. -/
def aguILongpipe : Bool := aguIAlgnldst s i res

def aguOValid : Bool :=
  icbStaIsLast s ||
    (i.aguIValid && (aguIAlgnldst s i res || aguIUnalgnldst s i res || aguIUnalgnamo s i res) &&
      i.aguIcbCmdReady)

def aguOWbckWdat : BitVec 32 := gate (aguIAlgnamo s i res) (leftoverR i)
def aguOCmtBuserr : Bool := aguIAlgnamo s i res && s.leftoverErrR
def aguOCmtBadaddr : BitVec 32 := aguIcbCmdAddr res
def aguOCmtMisalgn : Bool := aguIUnalgnamo s i res || aguIUnalgnldst s i res
def aguOCmtLd : Bool := aguILoad s i && !aguIExcl i
def aguOCmtStamo : Bool := aguIStore s i || aguIAmo s i || aguIExcl i
def aguOWbckErr : Bool := aguOCmtBuserr s i res || aguOCmtMisalgn s i res

/-! ### The bus command -/

def aguIcbCmdRead : Bool :=
  (aguIAlgnldst s i res && aguILoad s i) || (aguIAlgnamo s i res && icbStaIsIdle s)

def algnstWdata : BitVec 32 :=
  gate (aguISizeB i) ((i.aguIRs2.extractLsb' 0 8).replicate 4) |||
    gate (aguISizeHw i) ((i.aguIRs2.extractLsb' 0 16).replicate 2) |||
    gate (aguISizeW i) i.aguIRs2

def algnstWmask : BitVec 4 :=
  gate (aguISizeB i) (0b0001#4 <<< (aguIcbCmdAddr res).extractLsb' 0 2) |||
    gate (aguISizeHw i) (0b0011#4 <<< ((aguIcbCmdAddr res).extractLsb' 1 1 ++ 0#1)) |||
    gate (aguISizeW i) 0b1111#4

def aguIcbCmdWdata : BitVec 32 := if aguIAmo s i then leftover1R i else algnstWdata i

/-- After a bus error of its read an atomic operation writes nothing. -/
def aguIcbCmdWmask : BitVec 4 :=
  if aguIAmo s i then (if s.leftoverErrR then 0x0#4 else 0xF#4) else algnstWmask i res

def aguIcbCmdBack2agu : Bool := aguIAlgnamo s i res
def aguIcbCmdLock : Bool := aguIAlgnamo s i res && icbStaIsIdle s
def aguIcbCmdExcl : Bool := aguIExcl i
def aguIcbCmdItag : BitVec 1 := i.aguIItag

/-! ### The handshakes; `aguOReady` and `flushPulse` come from the commit stage -/

variable (aguOReady flushPulse : Bool)

def aguIcbCmdValid : Bool :=
  (aguIAlgnldst s i res && i.aguIValid && aguOReady) ||
    (aguIAlgnamo s i res && ((icbStaIsIdle s && i.aguIValid && aguOReady) || icbStaIsWait2nd s))

def aguIcbCmdHsked : Bool := aguIcbCmdValid s i res aguOReady && i.aguIcbCmdReady
def aguIcbRspReady : Bool := true
def aguIcbRspHsked : Bool := i.aguIcbRspValid && aguIcbRspReady

/-- The state machine waits for the long pipes to drain. -/
def stateIdleToExit : Bool := aguIAlgnamo s i res && i.oitfEmpty

def stateIdleExitEna : Bool :=
  icbStaIsIdle s && stateIdleToExit s i res && aguIcbCmdHsked s i res aguOReady && !flushPulse
def state1stExitEna : Bool := icbStaIs1st s && (aguIcbRspHsked i || flushPulse)
def stateAmoaluExitEna : Bool := icbStaIsAmoalu s
def stateAmordyExitEna : Bool := icbStaIsAmordy s
def stateWait2ndExitEna : Bool := icbStaIsWait2nd s && (i.aguIcbCmdReady || flushPulse)
def state2ndExitEna : Bool := icbStaIs2nd s && (aguIcbRspHsked i || flushPulse)
def stateWbckExitEna : Bool := icbStaIsWbck s && (aguOReady || flushPulse)
def stateLastExitEna : Bool := stateWbckExitEna s aguOReady flushPulse

def aguIReady : Bool :=
  if aguIAlgnamo s i res then stateLastExitEna s aguOReady flushPulse
  else i.aguIcbCmdReady && aguOReady

/-- `icb_state_nxt` under `icb_state_ena`. -/
def icbStateNxt : Sta :=
  if stateIdleExitEna s i res aguOReady flushPulse then .first
  else if state1stExitEna s i flushPulse then (if flushPulse then .idle else .amoalu)
  else if stateAmoaluExitEna s then (if flushPulse then .idle else .amordy)
  else if stateAmordyExitEna s then (if flushPulse then .idle else .wait2nd)
  else if stateWait2ndExitEna s i flushPulse then (if flushPulse then .idle else .second)
  else if state2ndExitEna s i flushPulse then (if flushPulse then .idle else .wbck)
  else if stateWbckExitEna s aguOReady flushPulse then .idle
  else s.icbStateR

def unalgnFlgSet : Bool := aguIAddrUnalgn i res && stateIdleExitEna s i res aguOReady flushPulse
def unalgnFlgClr : Bool := s.unalgnFlgR && stateLastExitEna s aguOReady flushPulse

/-! ### The leftover buffers and the clock edge -/

def amo1stuop : Bool := icbStaIs1st s && aguIAlgnamo s i res
def amo2nduop : Bool := icbStaIs2nd s && aguIAlgnamo s i res
def leftoverEna : Bool := aguIcbRspHsked i && (amo1stuop s i res || amo2nduop s i res)

def leftoverNxt : BitVec 32 :=
  gate (amo1stuop s i res) i.aguIcbRspRdata ||| gate (amo2nduop s i res) (leftoverR i)

def leftoverErrNxt : Bool :=
  (amo1stuop s i res && i.aguIcbRspErr) ||
    (amo2nduop s i res && (i.aguIcbRspErr || s.leftoverErrR))

def sbfWr : AluDpath.SbfWr 32 where
  ena0 := leftoverEna s i res
  nxt0 := leftoverNxt s i res
  ena1 := icbStaIsAmoalu s
  nxt1 := res

def step : State where
  icbStateR := icbStateNxt s i res aguOReady flushPulse
  unalgnFlgR :=
    dfflr (unalgnFlgSet s i res aguOReady flushPulse || unalgnFlgClr s aguOReady flushPulse)
      (unalgnFlgSet s i res aguOReady flushPulse || !unalgnFlgClr s aguOReady flushPulse)
      s.unalgnFlgR
  leftoverErrR := dfflr (leftoverEna s i res) (leftoverErrNxt s i res) s.leftoverErrR

end
end E203.Lsuagu
