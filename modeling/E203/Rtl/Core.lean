import E203.Lib.Machine
import E203.Rtl.Exu

/-! # The core (`e203_core.v`): the fetch stage and the execute stage

The two stages are connected as in the source.  What is left outside is an input of every cycle: the
fetch adapter behind the request and response channels, the load/store unit, the CSR file.
-/

namespace E203.Core
set_option autoImplicit false

structure State where
  ifu : Ifetch.State
  exu : Exu.State

/-- The input ports. -/
structure In extends Exu.FromLsu, Exu.FromCsr where
  pcRtvec : BitVec 32
  ifuReqReady : Bool
  ifuRspValid : Bool
  ifuRspErr : Bool
  ifuRspInstr : BitVec 32
deriving DecidableEq

section
variable (s : State) (i : In)

/-- The IR and what belongs to it. -/
def toExu : Exu.FromIfu where
  iValid := s.ifu.irValidR
  iIr := s.ifu.ifuIrR
  iPc := s.ifu.ifuPcR
  iPcVld := s.ifu.irPcVldR
  iMisalgn := Ifetch.ifuOMisalgn
  iBuserr := s.ifu.ifuErrR
  iRs1idx := s.ifu.irRs1idxR
  iRs2idx := s.ifu.irRs2idxR
  iPrdtTaken := s.ifu.ifuPrdtTakenR
  iMuldivB2b := s.ifu.ifuMuldivB2bR

def exuIn : Exu.In where
  toFromIfu := toExu s
  toFromLsu := i.toFromLsu
  toFromCsr := i.toFromCsr
  wfiHaltIfuAck := s.ifu.haltAckR

def ifuIn : Ifetch.In where
  toFromExu := Exu.toIfu s.exu (exuIn s i)
  pcRtvec := i.pcRtvec
  ifuReqReady := i.ifuReqReady
  ifuRspValid := i.ifuRspValid
  ifuRspErr := i.ifuRspErr
  ifuRspInstr := i.ifuRspInstr
  ifuOReady := Exu.iReady s.exu (exuIn s i)
  pipeFlushReq := Exu.pipeFlushReq s.exu (exuIn s i)
  pipeFlushPc := Exu.pipeFlushPc s.exu (exuIn s i)
  ifuHaltReq := Exu.wfiHaltIfuReq s.exu (exuIn s i)

def step : State where
  ifu := Ifetch.step s.ifu (ifuIn s i)
  exu := Exu.step s.exu (exuIn s i)

end

def IsReset (s : State) : Prop := s.ifu = Ifetch.State.reset ∧ Exu.IsReset s.exu

def run (inp : ℕ → In) (s : State) (t : ℕ) : State := Lib.stateAt (fun i s => step s i) inp s t

/-- The fetch adapter answers outstanding requests only. -/
def RspOutstanding (i : In) (s : State) : Prop :=
  i.ifuRspValid = true → s.ifu.outFlagR = true

end E203.Core
