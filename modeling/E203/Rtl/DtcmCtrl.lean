import E203.Rtl.SramCtrl

/-! # The DTCM controller (`e203_dtcm_ctrl.v`)

The load/store unit and the external agent share the SRAM; the load/store unit has priority.
-/

namespace E203.DtcmCtrl
set_option autoImplicit false

/-- `E203_DTCM_ADDR_WIDTH`. -/
abbrev ADDR_WIDTH : ℕ := 16

structure State where
  arbt : Arbt.State
  sram : SramCtrl.State ADDR_WIDTH 4 2 Bool

/-- After reset; the data of the buffers and the SRAM have none. -/
structure IsReset (s : State) : Prop where
  rspid : s.arbt.rspid.vldR = false
  byp : s.sram.byp.vld = false
  e1 : s.sram.e1.vldR = false

structure In where
  lsu2dtcm : IcbMaster ADDR_WIDTH 4
  ext2dtcm : IcbMaster ADDR_WIDTH 4
deriving DecidableEq

section
variable (s : State) (i : In)

def arbtBus (p : Fin 2) : IcbMaster ADDR_WIDTH 4 := if p = 0 then i.lsu2dtcm else i.ext2dtcm
def arbtBusIcbCmdValid (p : Fin 2) : Bool := (arbtBus i p).cmdValid
def arbtBusIcbRspReady (p : Fin 2) : Bool := (arbtBus i p).rspReady

/-! ### The response channel -/

def arbtIcbRspValid : Bool := SramCtrl.iIcbRspValid s.sram
def arbtIcbRspRdata : BitVec 32 := SramCtrl.iIcbRspRdata s.sram
def arbtIcbRspReady : Bool := Arbt.oIcbRspReady s.arbt (arbtBusIcbRspReady i)

def arbtBusIcbRspValid (p : Fin 2) : Bool := Arbt.iBusIcbRspValid s.arbt (arbtIcbRspValid s) p

/-- `sram_icb_rsp_err` is zero. -/
def arbtBusIcbRsp : IcbRsp 4 := ⟨false, arbtIcbRspRdata s⟩

/-! ### The command channel -/

def arbtIcbCmdReady : Bool := SramCtrl.iIcbCmdReady s.sram

def arbtIcbCmdValid : Bool :=
  Arbt.oIcbCmdValid false s.arbt (arbtIcbRspValid s) (arbtBusIcbRspReady i) (arbtBusIcbCmdValid i)

def arbtBusIcbCmdReady (p : Fin 2) : Bool :=
  Arbt.iBusIcbCmdReady false s.arbt (arbtIcbRspValid s) (arbtBusIcbRspReady i)
    (arbtBusIcbCmdValid i) (arbtIcbCmdReady s) p

def arbtIcbCmd : IcbCmd ADDR_WIDTH 4 :=
  Arbt.oIcbCmd (arbtBusIcbCmdValid i) (.zero ADDR_WIDTH 4) fun p => (arbtBus i p).cmd

/-- The command says whether it is a read. -/
def sramIcbCmd : UsrCmd ADDR_WIDTH 4 Bool := ⟨arbtIcbCmd i, (arbtIcbCmd i).read⟩

def step (i : In) (s : State) : State where
  arbt :=
    Arbt.step false s.arbt (arbtIcbRspValid s) (arbtBusIcbRspReady i) (arbtBusIcbCmdValid i)
      (arbtIcbCmdReady s)
  sram := SramCtrl.step s.sram (arbtIcbCmdValid s i) (sramIcbCmd i) (arbtIcbRspReady s i)

end
end E203.DtcmCtrl
