import E203.Lib.Machine
import E203.Rtl.AluLsuagu
import E203.Rtl.DtcmCtrl
import E203.Rtl.ItcmCtrl
import E203.Rtl.LsuCtrl

/-! # The load/store path to the tightly coupled memories

The address-generation unit, the load/store unit and the two memory controllers as `e203_core.v` and
`e203_cpu.v` connect them.  What is left outside is the instruction, the commit and write-back stages,
the bus interface unit, and the other ports of the memories: the external agent and the fetch unit.

The wires are listed in an order without loops: what the memories answer, the ready signals of the
response channel, those of the command channel, and the command.  The ready bit of a memory does not
depend on the valid bit of the load/store unit's command, so it is read from its ports with that at zero.
-/

namespace E203.DataMem
set_option autoImplicit false

structure State where
  agu : Lsuagu.State
  lsu : LsuCtrl.State
  dtcm : DtcmCtrl.State
  itcm : ItcmCtrl.State

structure In where
  aguIValid : Bool
  aguIRs1 : BitVec 32
  aguIRs2 : BitVec 32
  aguIImm : BitVec 32
  aguIInfo : DecInfo
  aguIItag : BitVec 1
  flushReq : Bool
  flushPulse : Bool
  oitfEmpty : Bool
  aguOReady : Bool
  aguSbf0R : BitVec 32
  aguSbf1R : BitVec 32
  commitTrap : Bool
  commitMret : Bool
  lsuOReady : Bool
  biu : LsuCtrl.Icb
  ext2dtcm : IcbMaster DtcmCtrl.ADDR_WIDTH 4
  ext2itcm : IcbMaster ItcmCtrl.ADDR_WIDTH 4
  ifu2itcm : IcbMaster ItcmCtrl.ADDR_WIDTH 8

/-- After reset. -/
structure IsReset (s : State) : Prop where
  agu : s.agu = .reset
  lsu : LsuCtrl.IsReset s.lsu
  dtcm : DtcmCtrl.IsReset s.dtcm
  itcm : ItcmCtrl.IsReset s.itcm

section
variable (s : State) (i : In)

/-! ### The response channel -/

/-- The port of the load/store unit is port 0 of both memories. -/
def rspBus : LsuCtrl.Bus where
  biu := i.biu
  dtcm := ⟨false, DtcmCtrl.arbtBusIcbRspValid s.dtcm 0, (DtcmCtrl.arbtBusIcbRsp s.dtcm).err,
    (DtcmCtrl.arbtBusIcbRsp s.dtcm).rdata⟩
  itcm := ⟨false, ItcmCtrl.busIcbRspValid s.itcm 0, (ItcmCtrl.busIcbRsp s.itcm 0).err,
    (ItcmCtrl.busIcbRsp s.itcm 0).rdata⟩

def lsuInPre : LsuCtrl.In := ⟨rspBus s i, Lsuagu.aguIcbRspReady, i.lsuOReady⟩

def dtcmIcbRspReady : Bool := LsuCtrl.dtcmIcbRspReady s.lsu (lsuInPre s i)
def itcmIcbRspReady : Bool := LsuCtrl.itcmIcbRspReady s.lsu (lsuInPre s i)

/-! ### The ready bits of the command channel -/

def dtcmInPre : DtcmCtrl.In :=
  ⟨⟨false, .zero DtcmCtrl.ADDR_WIDTH 4, dtcmIcbRspReady s i⟩, i.ext2dtcm⟩

def itcmInPre : ItcmCtrl.In :=
  ⟨i.ifu2itcm, ⟨false, .zero ItcmCtrl.ADDR_WIDTH 4, itcmIcbRspReady s i⟩, i.ext2itcm⟩

def dtcmIcbCmdReady : Bool := DtcmCtrl.arbtBusIcbCmdReady s.dtcm (dtcmInPre s i) 0
def itcmIcbCmdReady : Bool := ItcmCtrl.busIcbCmdReady s.itcm (itcmInPre s i) 0

def lsuIn : LsuCtrl.In where
  biu := i.biu
  dtcm := { (rspBus s i).dtcm with cmdReady := dtcmIcbCmdReady s i }
  itcm := { (rspBus s i).itcm with cmdReady := itcmIcbCmdReady s i }
  aguIcbRspReady := Lsuagu.aguIcbRspReady
  lsuOReady := i.lsuOReady

/-! ### The command -/

def aguIn : Lsuagu.In where
  aguIValid := i.aguIValid
  aguIRs1 := i.aguIRs1
  aguIRs2 := i.aguIRs2
  aguIImm := i.aguIImm
  aguIInfo := i.aguIInfo
  aguIItag := i.aguIItag
  flushReq := i.flushReq
  oitfEmpty := i.oitfEmpty
  aguIcbCmdReady := LsuCtrl.aguIcbCmdReady s.lsu (lsuIn s i)
  aguIcbRspValid := LsuCtrl.aguIcbRspValid s.lsu (lsuIn s i).toBus
  aguIcbRspErr := LsuCtrl.aguIcbRspErr s.lsu (lsuIn s i).toBus
  aguIcbRspRdata := LsuCtrl.aguIcbRspRdata s.lsu (lsuIn s i).toBus
  aguSbf0R := i.aguSbf0R
  aguSbf1R := i.aguSbf1R

/-- The result of the datapath; no other unit asks while this one does. -/
def dpathRes : BitVec 32 :=
  AluDpath.dpathRes { aguReqAlu := true, aguReq := Lsuagu.req s.agu (aguIn s i) }

def aguCmd : LsuCtrl.Cmd where
  valid := Lsuagu.aguIcbCmdValid s.agu (aguIn s i) (dpathRes s i) i.aguOReady
  addr := Lsuagu.aguIcbCmdAddr (dpathRes s i)
  read := Lsuagu.aguIcbCmdRead s.agu (aguIn s i) (dpathRes s i)
  wdata := Lsuagu.aguIcbCmdWdata s.agu (aguIn s i)
  wmask := Lsuagu.aguIcbCmdWmask s.agu (aguIn s i) (dpathRes s i)
  lock := Lsuagu.aguIcbCmdLock s.agu (aguIn s i) (dpathRes s i)
  excl := Lsuagu.aguIcbCmdExcl (aguIn s i)
  size := Lsuagu.aguISize (aguIn s i)
  back2agu := Lsuagu.aguIcbCmdBack2agu s.agu (aguIn s i) (dpathRes s i)
  usign := Lsuagu.aguIUsign (aguIn s i)
  itag := Lsuagu.aguIcbCmdItag (aguIn s i)

/-- The command on the ports of the memories; both take the low part of the address. -/
def tcmCmd : IcbCmd 16 4 where
  read := LsuCtrl.arbtIcbCmdRead (aguCmd s i)
  addr := (LsuCtrl.arbtIcbCmdAddr (aguCmd s i)).extractLsb' 0 16
  wdata := LsuCtrl.arbtIcbCmdWdata (aguCmd s i)
  wmask := LsuCtrl.arbtIcbCmdWmaskPos s.lsu (aguCmd s i)

def dtcmIn : DtcmCtrl.In where
  lsu2dtcm :=
    ⟨LsuCtrl.dtcmIcbCmdValid s.lsu (lsuIn s i) (aguCmd s i), tcmCmd s i, dtcmIcbRspReady s i⟩
  ext2dtcm := i.ext2dtcm

def itcmIn : ItcmCtrl.In where
  ifu2itcm := i.ifu2itcm
  lsu2itcm :=
    ⟨LsuCtrl.itcmIcbCmdValid s.lsu (lsuIn s i) (aguCmd s i), tcmCmd s i, itcmIcbRspReady s i⟩
  ext2itcm := i.ext2itcm

def step (i : In) (s : State) : State where
  agu := Lsuagu.step s.agu (aguIn s i) (dpathRes s i) i.aguOReady i.flushPulse
  lsu := LsuCtrl.step s.lsu (lsuIn s i) (aguCmd s i) i.commitTrap i.commitMret
  dtcm := DtcmCtrl.step (dtcmIn s i) s.dtcm
  itcm := ItcmCtrl.step (itcmIn s i) s.itcm

end

/-- The registers after `t` cycles. -/
def run (inp : ℕ → In) (s : State) (t : ℕ) : State := Lib.stateAt step inp s t

end E203.DataMem
