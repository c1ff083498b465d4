import E203.Rtl.GnrlIcbs

/-! # The SRAM and its controller (`sirv_sram_icb_ctrl.v`, `sirv_1cyc_sram_ctrl.v`, `sirv_sim_ram.v`)

Commands pass a bypass buffer and access the SRAM in the cycle in which they enter the stage `e1`; the
response comes in the cycles after it.  The SRAM keeps the address of the last read, so that its output
holds while nothing is written.
-/

namespace E203
set_option autoImplicit false

/-! ## The SRAM -/

/-- `sirv_sim_ram` with words of `MW` bytes. -/
structure SimRam (AW MW : ℕ) where
  memR : BitVec AW → BitVec (8 * MW)
  addrR : BitVec AW

namespace SimRam
section
variable {AW MW : ℕ} (s : SimRam AW MW) (cs we : Bool) (addr : BitVec AW) (wem : BitVec MW)
  (din : BitVec (8 * MW))

def dout : BitVec (8 * MW) := s.memR s.addrR
def ren : Bool := cs && !we

/-- Each byte of the word is written where its bit of `wen` is one. -/
def step : SimRam AW MW where
  memR := if cs && we then Lib.writeWord s.memR addr wem din else s.memR
  addrR := dfflr (ren cs we) addr s.addrR

end
end SimRam

/-! ## The controller -/

/-- A command with what comes back with its response. -/
structure UsrCmd (AW MW : ℕ) (USR : Type*) extends IcbCmd AW MW where
  usr : USR
deriving DecidableEq

namespace SramCtrl

/-- The registers of the controller, and the SRAM. -/
structure State (AW MW AW_LSB : ℕ) (USR : Type*) where
  /-- `u_byp_icb_cmd_buf`. -/
  byp : Bypbuf (UsrCmd AW MW USR)
  /-- `u_e1_stage` of `sirv_1cyc_sram_ctrl`. -/
  e1 : PipeStage USR
  ram : SimRam (AW - AW_LSB) MW

section
variable {AW MW AW_LSB : ℕ} {USR : Type*} (s : State AW MW AW_LSB USR)

def iIcbCmdReady : Bool := s.byp.iRdy
def iIcbRspValid : Bool := s.e1.oVld
def iIcbRspUsr : USR := s.e1.oDat
def iIcbRspRdata : BitVec (8 * MW) := s.ram.dout

variable (iIcbCmdValid : Bool) (c : UsrCmd AW MW USR) (iIcbRspReady : Bool)

def bypIcbCmdValid : Bool := s.byp.oVld iIcbCmdValid
def bypIcbCmd : UsrCmd AW MW USR := s.byp.oDat c

/-- `uop_cmd_ready` of the stage. -/
def bypIcbCmdReady : Bool := s.e1.iRdy false iIcbRspReady

def ramCs : Bool := bypIcbCmdValid s iIcbCmdValid && bypIcbCmdReady s iIcbRspReady
def ramWe : Bool := !(bypIcbCmd s c).read
def ramAddr : BitVec (AW - AW_LSB) := (bypIcbCmd s c).addr.extractLsb' AW_LSB (AW - AW_LSB)

def step : State AW MW AW_LSB USR where
  byp := s.byp.step iIcbCmdValid (bypIcbCmdReady s iIcbRspReady) c
  e1 := s.e1.step false (bypIcbCmdValid s iIcbCmdValid) iIcbRspReady (bypIcbCmd s c).usr
  ram :=
    s.ram.step (ramCs s iIcbCmdValid iIcbRspReady) (ramWe s c) (ramAddr s c) (bypIcbCmd s c).wmask
      (bypIcbCmd s c).wdata

end
end SramCtrl
end E203
