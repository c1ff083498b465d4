import E203.Rtl.GnrlIcbs

/-! # The bus interface unit (`e203_biu.v`)

The load/store unit and the fetch unit share one path: an arbiter, a buffer for the command and one for
the response, and a splitter to the memory interface, the peripherals, and a slave that answers a
fetch from a peripheral with an error.
-/

namespace E203.Biu
set_option autoImplicit false

/-- The slaves, in the order of `buf_icb_splt_indic`. -/
inductive Slave
  | mem | fio | plic | clint | ppi | ifuerr
deriving DecidableEq

def Slave.all : List Slave := [.mem, .fio, .plic, .clint, .ppi, .ifuerr]

structure Cmd extends IcbCmd 32 4 where
  burst : BitVec 2
  beat : BitVec 2
  lock : Bool
  excl : Bool
  size : BitVec 2
deriving DecidableEq

def Cmd.zero : Cmd := ⟨.zero 32 4, 0#2, 0#2, false, false, 0#2⟩

structure Rsp extends IcbRsp 4 where
  exclOk : Bool
deriving DecidableEq

/-- The command in the buffer, with the bit that says it is of the fetch unit. -/
structure BufCmd extends Cmd where
  usr : Bool
deriving DecidableEq

/-- The region inputs: the base and the enable of each peripheral, and `mem_icb_enable`. -/
structure Cfg where
  ppiRegionIndic : BitVec 32
  ppiIcbEnable : Bool
  clintRegionIndic : BitVec 32
  clintIcbEnable : Bool
  plicRegionIndic : BitVec 32
  plicIcbEnable : Bool
  fioRegionIndic : BitVec 32
  fioIcbEnable : Bool
  memIcbEnable : Bool

/-- What `e203_cpu_top.v` drives. -/
def Cfg.e203 : Cfg :=
  ⟨0x10000000#32, true, 0x02000000#32, true, 0x0c000000#32, true, 0xf0000000#32, true, true⟩

structure State where
  arbt : Arbt.State
  /-- `u_sirv_gnrl_cmd_fifo` of the buffer. -/
  cmdFifo : GnrlFifo BufCmd
  /-- `u_sirv_gnrl_rsp_fifo` of the buffer. -/
  rspFifo : GnrlFifo Rsp
  splt : Splt.State Slave

/-- After reset; the data of the buffers has none. -/
structure IsReset (s : State) : Prop where
  rspid : s.arbt.rspid.vldR = false
  cmdFifo : s.cmdFifo.vld = false
  rspFifo : s.rspFifo.vld = false
  splt : s.splt.rspid.vldR = false

structure Master where
  cmdValid : Bool
  cmd : Cmd
  rspReady : Bool
deriving DecidableEq

/-- What a slave drives. -/
structure SlaveIcb where
  cmdReady : Bool
  rspValid : Bool
  rsp : Rsp
deriving DecidableEq

structure In where
  lsu2biu : Master
  ifu2biu : Master
  memIcb : SlaveIcb
  fioIcb : SlaveIcb
  plicIcb : SlaveIcb
  clintIcb : SlaveIcb
  ppiIcb : SlaveIcb

section
variable (cfg : Cfg) (s : State) (i : In)

/-! ### The arbiter and the buffers -/

def arbtBus (p : Fin 2) : Master := if p = 0 then i.lsu2biu else i.ifu2biu
def arbtBusIcbCmdValid (p : Fin 2) : Bool := (arbtBus i p).cmdValid
def arbtBusIcbRspReady (p : Fin 2) : Bool := (arbtBus i p).rspReady

/-- `ifu2biu_icb_cmd_ifu` and `lsu2biu_icb_cmd_ifu`. -/
def arbtBusIcbCmd (p : Fin 2) : BufCmd := ⟨(arbtBus i p).cmd, p == 1⟩

def arbtIcbRspValid : Bool := s.rspFifo.oVld
def arbtIcbRsp : Rsp := s.rspFifo.oDat
def arbtIcbRspReady : Bool := Arbt.oIcbRspReady s.arbt (arbtBusIcbRspReady i)
def arbtBusIcbRspValid (p : Fin 2) : Bool := Arbt.iBusIcbRspValid s.arbt (arbtIcbRspValid s) p

def arbtIcbCmdReady : Bool := s.cmdFifo.iRdy

def arbtIcbCmdValid : Bool :=
  Arbt.oIcbCmdValid true s.arbt (arbtIcbRspValid s) (arbtBusIcbRspReady i) (arbtBusIcbCmdValid i)

def arbtBusIcbCmdReady (p : Fin 2) : Bool :=
  Arbt.iBusIcbCmdReady true s.arbt (arbtIcbRspValid s) (arbtBusIcbRspReady i) (arbtBusIcbCmdValid i)
    (arbtIcbCmdReady s) p

def arbtIcbCmd : BufCmd := Arbt.oIcbCmd (arbtBusIcbCmdValid i) ⟨.zero, false⟩ (arbtBusIcbCmd i)

def bufIcbCmdValid : Bool := s.cmdFifo.oVld
def bufIcbCmd : BufCmd := s.cmdFifo.oDat
def bufIcbCmdIfu : Bool := (bufIcbCmd s).usr
def bufIcbRspReady : Bool := s.rspFifo.iRdy

/-! ### The selection -/

section
variable (addr : BitVec 32)

/-- `E203_PPI_BASE_REGION` and the others: the upper bits of the address. -/
def cmdPpi : Bool :=
  cfg.ppiIcbEnable && addr.extractLsb' 28 4 == cfg.ppiRegionIndic.extractLsb' 28 4

def cmdClint : Bool :=
  cfg.clintIcbEnable && addr.extractLsb' 16 16 == cfg.clintRegionIndic.extractLsb' 16 16

def cmdPlic : Bool :=
  cfg.plicIcbEnable && addr.extractLsb' 24 8 == cfg.plicRegionIndic.extractLsb' 24 8

def cmdFio : Bool :=
  cfg.fioIcbEnable && addr.extractLsb' 28 4 == cfg.fioRegionIndic.extractLsb' 28 4

end

section
variable (c : BufCmd)

def bufIcbSelPpi : Bool := cmdPpi cfg c.addr && !c.usr
def bufIcbSelClint : Bool := cmdClint cfg c.addr && !c.usr
def bufIcbSelPlic : Bool := cmdPlic cfg c.addr && !c.usr
def bufIcbSelFio : Bool := cmdFio cfg c.addr && !c.usr

def bufIcbSelIfuerr : Bool :=
  (cmdPpi cfg c.addr || cmdClint cfg c.addr || cmdPlic cfg c.addr || cmdFio cfg c.addr) && c.usr

def bufIcbSelMem : Bool :=
  cfg.memIcbEnable && !bufIcbSelIfuerr cfg c && !bufIcbSelPpi cfg c && !bufIcbSelClint cfg c &&
    !bufIcbSelPlic cfg c && !bufIcbSelFio cfg c

def bufIcbSpltIndic : Slave → Bool
  | .mem => bufIcbSelMem cfg c
  | .fio => bufIcbSelFio cfg c
  | .plic => bufIcbSelPlic cfg c
  | .clint => bufIcbSelClint cfg c
  | .ppi => bufIcbSelPpi cfg c
  | .ifuerr => bufIcbSelIfuerr cfg c

end

/-! ### The splitter and its slaves -/

def spltIndic : Slave → Bool := bufIcbSpltIndic cfg (bufIcbCmd s)

def spltBusIcbCmdValid (j : Slave) : Bool :=
  Splt.oIcbCmdValid Slave.all s.splt (spltIndic cfg s) (bufIcbCmdValid s) j

/-- The payload of the command; it is not masked. -/
def spltBusIcbCmd (_ : Slave) : Cmd := (bufIcbCmd s).toCmd

def spltBusIcbRspReady (j : Slave) : Bool :=
  Splt.oIcbRspReady s.splt (spltIndic cfg s) (bufIcbRspReady s) j

/-- The error slave is ready when its response is, and answers in the cycle of the command. -/
def ifuerrIcb : SlaveIcb where
  cmdReady := spltBusIcbRspReady cfg s .ifuerr
  rspValid := spltBusIcbCmdValid cfg s .ifuerr
  rsp := ⟨⟨true, 0#32⟩, false⟩

def slave : Slave → SlaveIcb
  | .mem => i.memIcb
  | .fio => i.fioIcb
  | .plic => i.plicIcb
  | .clint => i.clintIcb
  | .ppi => i.ppiIcb
  | .ifuerr => ifuerrIcb cfg s

def spltBusIcbCmdReady (j : Slave) : Bool := (slave cfg s i j).cmdReady
def spltBusIcbRspValid (j : Slave) : Bool := (slave cfg s i j).rspValid

def bufIcbCmdReady : Bool :=
  Splt.iIcbCmdReady Slave.all s.splt (spltIndic cfg s) (spltBusIcbCmdReady cfg s i)

def bufIcbRspValid : Bool :=
  Splt.iIcbRspValid Slave.all s.splt (spltIndic cfg s) (spltBusIcbRspValid cfg s i)

def bufIcbRsp : Rsp where
  err := Splt.selBit Slave.all s.splt (spltIndic cfg s) fun j => (slave cfg s i j).rsp.err
  rdata := Splt.selBus Slave.all s.splt (spltIndic cfg s) fun j => (slave cfg s i j).rsp.rdata
  exclOk := Splt.selBit Slave.all s.splt (spltIndic cfg s) fun j => (slave cfg s i j).rsp.exclOk

def step (i : In) (s : State) : State where
  arbt :=
    Arbt.step true s.arbt (arbtIcbRspValid s) (arbtBusIcbRspReady i) (arbtBusIcbCmdValid i)
      (arbtIcbCmdReady s)
  cmdFifo := s.cmdFifo.step (arbtIcbCmdValid s i) (bufIcbCmdReady cfg s i) (arbtIcbCmd i)
  rspFifo := s.rspFifo.step (bufIcbRspValid cfg s i) (arbtIcbRspReady s i) (bufIcbRsp cfg s i)
  splt :=
    Splt.step Slave.all s.splt (spltIndic cfg s) (bufIcbCmdValid s) (spltBusIcbCmdReady cfg s i)
      (spltBusIcbRspValid cfg s i) (bufIcbRspReady s)

end
end E203.Biu
