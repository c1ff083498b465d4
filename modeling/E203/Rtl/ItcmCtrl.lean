import E203.Rtl.SramCtrl

/-! # The ITCM controller (`e203_itcm_ctrl.v`)

The load/store unit and the external agent, each through a width converter, and the fetch unit share the
SRAM.  The fetch unit comes last.  The hold-up flag tells it that the output of the SRAM still has what
it read last.
-/

namespace E203.ItcmCtrl
set_option autoImplicit false

/-- `E203_ITCM_ADDR_WIDTH`. -/
abbrev ADDR_WIDTH : ℕ := 16

/-- `{sram_icb_cmd_ifu, sram_icb_cmd_read}`. -/
structure Usr where
  ifu : Bool
  read : Bool
deriving DecidableEq

structure State where
  /-- `u_itcm_icb_lsu2itcm_n2w` and `u_itcm_icb_ext2itcm_n2w`. -/
  n2w : Fin 2 → N2w.State
  arbt : Arbt.State
  sram : SramCtrl.State ADDR_WIDTH 8 3 Usr
  ifuHoldupR : Bool

/-- After reset; the data of the buffers and the SRAM have none. -/
structure IsReset (s : State) : Prop where
  n2w : ∀ p, (s.n2w p).fifo.vldR = false
  rspid : s.arbt.rspid.vldR = false
  byp : s.sram.byp.vld = false
  e1 : s.sram.e1.vldR = false
  holdup : s.ifuHoldupR = false

structure In where
  ifu2itcm : IcbMaster ADDR_WIDTH 8
  lsu2itcm : IcbMaster ADDR_WIDTH 4
  ext2itcm : IcbMaster ADDR_WIDTH 4
deriving DecidableEq

section
variable (s : State) (i : In)

def bus (p : Fin 2) : IcbMaster ADDR_WIDTH 4 := if p = 0 then i.lsu2itcm else i.ext2itcm

/-! ### The response channel -/

def sramIcbRspValid : Bool := SramCtrl.iIcbRspValid s.sram
def sramIcbRspRdata : BitVec 64 := SramCtrl.iIcbRspRdata s.sram
def sramIcbRspIfu : Bool := (SramCtrl.iIcbRspUsr s.sram).ifu

def arbtIcbRspValid : Bool := sramIcbRspValid s && !sramIcbRspIfu s
def ifu2itcmIcbRspValid : Bool := sramIcbRspValid s && sramIcbRspIfu s
def ifu2itcmIcbRsp : IcbRsp 8 := ⟨false, sramIcbRspRdata s⟩

/-- The converters pass the valid and ready of the response channel through. -/
def busIcbRspValid (p : Fin 2) : Bool := Arbt.iBusIcbRspValid s.arbt (arbtIcbRspValid s) p
def busIcbRspReady (p : Fin 2) : Bool := (bus i p).rspReady
def busIcbRsp (p : Fin 2) : IcbRsp 4 := ⟨false, N2w.iIcbRspRdata (s.n2w p) (sramIcbRspRdata s)⟩

def arbtIcbRspReady : Bool := Arbt.oIcbRspReady s.arbt (busIcbRspReady i)

def sramIcbRspReady : Bool :=
  if sramIcbRspIfu s then i.ifu2itcm.rspReady else arbtIcbRspReady s i

/-! ### The command channel -/

def arbtBusIcbCmdValid (p : Fin 2) : Bool :=
  N2w.oIcbCmdValid (s.n2w p) (busIcbRspValid s p) (busIcbRspReady i p) (bus i p).cmdValid

def arbtIcbCmdValid : Bool :=
  Arbt.oIcbCmdValid false s.arbt (arbtIcbRspValid s) (busIcbRspReady i) (arbtBusIcbCmdValid s i)

/-- The arbiter's command of the two converters'. -/
def arbtIcbCmd : IcbCmd ADDR_WIDTH 8 :=
  Arbt.oIcbCmd (arbtBusIcbCmdValid s i) (.zero ADDR_WIDTH 8) fun p => N2w.oIcbCmd (bus i p).cmd

def sramReady2ifu : Bool := !arbtIcbCmdValid s i
def sramSelIfu : Bool := sramReady2ifu s i && i.ifu2itcm.cmdValid
def sramSelArbt : Bool := arbtIcbCmdValid s i

def sramIcbCmdReady : Bool := SramCtrl.iIcbCmdReady s.sram
def ifu2itcmIcbCmdReady : Bool := sramReady2ifu s i && sramIcbCmdReady s
def arbtIcbCmdReady : Bool := sramIcbCmdReady s

def arbtBusIcbCmdReady (p : Fin 2) : Bool :=
  Arbt.iBusIcbCmdReady false s.arbt (arbtIcbRspValid s) (busIcbRspReady i)
    (arbtBusIcbCmdValid s i) (arbtIcbCmdReady s) p

def busIcbCmdReady (p : Fin 2) : Bool :=
  N2w.iIcbCmdReady (s.n2w p) (busIcbRspValid s p) (busIcbRspReady i p) (arbtBusIcbCmdReady s i p)

def sramIcbCmdValid : Bool :=
  (sramSelIfu s i && i.ifu2itcm.cmdValid) || (sramSelArbt s i && arbtIcbCmdValid s i)

def sramIcbCmdIfu : Bool := sramSelIfu s i

def sramIcbCmd : UsrCmd ADDR_WIDTH 8 Usr where
  read := (sramSelIfu s i && i.ifu2itcm.cmd.read) || (sramSelArbt s i && (arbtIcbCmd s i).read)
  addr := gate (sramSelIfu s i) i.ifu2itcm.cmd.addr ||| gate (sramSelArbt s i) (arbtIcbCmd s i).addr
  wdata :=
    gate (sramSelIfu s i) i.ifu2itcm.cmd.wdata ||| gate (sramSelArbt s i) (arbtIcbCmd s i).wdata
  wmask :=
    gate (sramSelIfu s i) i.ifu2itcm.cmd.wmask ||| gate (sramSelArbt s i) (arbtIcbCmd s i).wmask
  usr :=
    ⟨sramIcbCmdIfu s i,
      (sramSelIfu s i && i.ifu2itcm.cmd.read) || (sramSelArbt s i && (arbtIcbCmd s i).read)⟩

/-! ### The hold-up flag -/

def itcmRamCs : Bool := SramCtrl.ramCs s.sram (sramIcbCmdValid s i) (sramIcbRspReady s i)
def ifuHoldupSet : Bool := sramIcbCmdIfu s i && itcmRamCs s i
def ifuHoldupClr : Bool := !sramIcbCmdIfu s i && itcmRamCs s i
def ifuHoldupEna : Bool := ifuHoldupSet s i || ifuHoldupClr s i
def ifuHoldupNxt : Bool := ifuHoldupSet s i && !ifuHoldupClr s i
def ifu2itcmHoldup : Bool := s.ifuHoldupR

def step (i : In) (s : State) : State where
  n2w p :=
    N2w.step (s.n2w p) (bus i p).cmd (busIcbRspValid s p) (busIcbRspReady i p) (bus i p).cmdValid
      (arbtBusIcbCmdReady s i p)
  arbt :=
    Arbt.step false s.arbt (arbtIcbRspValid s) (busIcbRspReady i) (arbtBusIcbCmdValid s i)
      (arbtIcbCmdReady s)
  sram := SramCtrl.step s.sram (sramIcbCmdValid s i) (sramIcbCmd s i) (sramIcbRspReady s i)
  ifuHoldupR := dfflr (ifuHoldupEna s i) (ifuHoldupNxt s i) s.ifuHoldupR

end
end E203.ItcmCtrl
