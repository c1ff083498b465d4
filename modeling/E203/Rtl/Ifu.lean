import E203.Rtl.IfuIfetch
import E203.Rtl.IfuIft2icb

/-! # The fetch unit (`e203_ifu.v`)

The fetch stage and the fetch adapter, connected as in the source.  The adapter answers a request
without looking at its valid signal, and its response does not depend on the ready signal, so both
are read from its ports with these two at zero.
-/

namespace E203.Ifu
set_option autoImplicit false

structure State where
  ifetch : Ifetch.State
  ift2icb : Ift2icb.State
deriving DecidableEq

/-- The input ports. -/
structure In extends Ifetch.FromExu where
  pcRtvec : BitVec 32
  ifuOReady : Bool
  pipeFlushReq : Bool
  pipeFlushPc : BitVec 32
  ifuHaltReq : Bool
  itcmNohold : Bool
  itcmRegionIndic : BitVec 32
  ifu2itcmIcbCmdReady : Bool
  ifu2itcmIcbRspValid : Bool
  ifu2itcmIcbRspErr : Bool
  ifu2itcmIcbRspRdata : BitVec 64
  ifu2biuIcbCmdReady : Bool
  ifu2biuIcbRspValid : Bool
  ifu2biuIcbRspErr : Bool
  ifu2biuIcbRspRdata : BitVec 32
  ifu2itcmHoldup : Bool
deriving DecidableEq

section
variable (s : State) (i : In)

def ift2icbMem : Ift2icb.In where
  itcmNohold := i.itcmNohold
  ifuReqValid := false
  ifuReqPc := 0#32
  ifuReqSeq := false
  ifuReqSeqRv32 := false
  ifuReqLastPc := 0#32
  ifuRspReady := false
  itcmRegionIndic := i.itcmRegionIndic
  ifu2itcmIcbCmdReady := i.ifu2itcmIcbCmdReady
  ifu2itcmIcbRspValid := i.ifu2itcmIcbRspValid
  ifu2itcmIcbRspErr := i.ifu2itcmIcbRspErr
  ifu2itcmIcbRspRdata := i.ifu2itcmIcbRspRdata
  ifu2biuIcbCmdReady := i.ifu2biuIcbCmdReady
  ifu2biuIcbRspValid := i.ifu2biuIcbRspValid
  ifu2biuIcbRspErr := i.ifu2biuIcbRspErr
  ifu2biuIcbRspRdata := i.ifu2biuIcbRspRdata
  ifu2itcmHoldup := i.ifu2itcmHoldup

def ifuRspValid : Bool := Ift2icb.ifuRspValid s.ift2icb (ift2icbMem i)
def ifuRspErr : Bool := Ift2icb.ifuRspErr s.ift2icb (ift2icbMem i)
def ifuRspInstr : BitVec 32 := Ift2icb.ifuRspInstr s.ift2icb (ift2icbMem i)

def ifetch (ifuReqReady : Bool) : Ifetch.In where
  toFromExu := i.toFromExu
  pcRtvec := i.pcRtvec
  ifuReqReady := ifuReqReady
  ifuRspValid := ifuRspValid s i
  ifuRspErr := ifuRspErr s i
  ifuRspInstr := ifuRspInstr s i
  ifuOReady := i.ifuOReady
  pipeFlushReq := i.pipeFlushReq
  pipeFlushPc := i.pipeFlushPc
  ifuHaltReq := i.ifuHaltReq

def ift2icb (ifuReqValid ifuRspReady : Bool) : Ift2icb.In :=
  { ift2icbMem i with
    ifuReqValid := ifuReqValid
    ifuReqPc := Ifetch.ifuReqPc s.ifetch (ifetch s i false)
    ifuReqSeq := Ifetch.ifuReqSeq s.ifetch (ifetch s i false)
    ifuReqSeqRv32 := Ifetch.ifuReqSeqRv32 (ifetch s i false)
    ifuReqLastPc := Ifetch.ifuReqLastPc s.ifetch
    ifuRspReady := ifuRspReady }

def ifuReqReady : Bool := Ift2icb.ifuReqReady s.ift2icb (ift2icb s i false false)

def ifetchIn : Ifetch.In := ifetch s i (ifuReqReady s i)

def ift2icbIn : Ift2icb.In :=
  ift2icb s i (Ifetch.ifuReqValid s.ifetch (ifetchIn s i))
    (Ifetch.ifuRspReady s.ifetch (ifetchIn s i))

def step : State where
  ifetch := Ifetch.step s.ifetch (ifetchIn s i)
  ift2icb := Ift2icb.step s.ift2icb (ift2icbIn s i)

end

def State.IsReset (s : State) : Prop := s.ifetch = Ifetch.State.reset ∧ s.ift2icb.IsReset

section
variable {s : State} {i : In}

/-! The signals that were read ahead are those of the full ports. -/

theorem ifuRspValid_eq : Ift2icb.ifuRspValid s.ift2icb (ift2icbIn s i) = ifuRspValid s i := by rfl

theorem ifuRspInstr_eq : Ift2icb.ifuRspInstr s.ift2icb (ift2icbIn s i) = ifuRspInstr s i := by rfl

theorem ifuReqReady_eq : Ift2icb.ifuReqReady s.ift2icb (ift2icbIn s i) = ifuReqReady s i := by rfl

theorem ifuReqPc_eq : (ift2icbIn s i).ifuReqPc = Ifetch.ifuReqPc s.ifetch (ifetchIn s i) := by rfl

theorem ifuReqHsked_eq :
    Ift2icb.ifuReqHsked s.ift2icb (ift2icbIn s i) =
      Ifetch.ifuReqHsked s.ifetch (ifetchIn s i) := by rfl

end
end E203.Ifu
