import E203.Rtl.GnrlIcbBuffer
import E203.Rtl.GnrlIcbSplt

/-! # The fabric with one master and eight slaves (`sirv_icb1to8_bus.v`)

A buffer, a decoder of the address, a splitter and a slave of its own for the addresses of no region.  The
ports have no user bits; inside there is one, which is 0.
-/

namespace E203
set_option autoImplicit false

def GnrlIcbCmd.withUsr {AW DW U V : ℕ} (c : GnrlIcbCmd AW DW U) (usr : BitVec V) : GnrlIcbCmd AW DW V :=
  ⟨c.read, c.addr, c.wdata, c.wmask, c.burst, c.beat, c.lock, c.excl, c.size, usr⟩

def GnrlIcbRsp.withUsr {DW U V : ℕ} (r : GnrlIcbRsp DW U) (usr : BitVec V) : GnrlIcbRsp DW V :=
  ⟨r.err, r.exclOk, r.rdata, usr⟩

namespace Icb1to8Bus

structure Params (AW : ℕ) where
  icbFifoCutReady : Bool
  spltFifoCutReady : Bool
  /-- `O0_BASE_ADDR` to `O7_BASE_ADDR` with `O0_BASE_REGION_LSB` to `O7_BASE_REGION_LSB`. -/
  oBaseAddr : Fin 8 → BitVec AW
  oBaseRegionLsb : Fin 8 → ℕ

structure State (ICB_FIFO_DP OUTS AW DW : ℕ) where
  /-- `u_sirv_gnrl_icb_buffer`. -/
  buf : IcbBuffer.State OUTS ICB_FIFO_DP ICB_FIFO_DP AW DW 1
  /-- `u_i_icb_splt`. -/
  splt : RspidFifo OUTS 9

structure IsReset {ICB_FIFO_DP OUTS AW DW : ℕ} (s : State ICB_FIFO_DP OUTS AW DW) : Prop where
  buf : IcbBuffer.IsReset s.buf
  splt : s.splt.IsReset

/-- What the master and the slaves drive, and the enables. -/
structure In (AW DW : ℕ) where
  oIcbEnable : Fin 8 → Bool
  iIcbCmdValid : Bool
  iIcbCmd : GnrlIcbCmd AW DW 0
  iIcbRspReady : Bool
  oIcbCmdReady : Fin 8 → Bool
  oIcbRspValid : Fin 8 → Bool
  oIcbRsp : Fin 8 → GnrlIcbRsp DW 0

/-- The order of the concatenations: `deft` is bit 0 of the buses of the splitter, `o7` is bit 1, and `o0`
is bit 8. -/
def port (j : Fin 9) : Option (Fin 8) := if h : j.val = 0 then none else some ⟨8 - j.val, by omega⟩
def slot : Option (Fin 8) → Fin 9
  | none => 0
  | some k => ⟨8 - k.val, by omega⟩

section
variable {ICB_FIFO_DP OUTS AW DW : ℕ} (P : Params AW) (s : State ICB_FIFO_DP OUTS AW DW) (i : In AW DW)

def bufParams : IcbBuffer.Params := ⟨P.icbFifoCutReady, P.icbFifoCutReady⟩
def spltParams : GnrlSplt.Params := ⟨P.spltFifoCutReady, false, true, true⟩

/-! ### The decoder -/

def bufIcbCmdValid : Bool := IcbBuffer.oIcbCmdValid s.buf i.iIcbCmdValid
def bufIcbCmd : GnrlIcbCmd AW DW 1 := IcbBuffer.oIcbCmd s.buf (i.iIcbCmd.withUsr 0#1)

/-- The upper bits are those of the base. -/
def inRegion (k : Fin 8) (addr : BitVec AW) : Bool :=
  addr.extractLsb' (P.oBaseRegionLsb k) (AW - P.oBaseRegionLsb k) ==
    (P.oBaseAddr k).extractLsb' (P.oBaseRegionLsb k) (AW - P.oBaseRegionLsb k)

def icbCmdO (k : Fin 8) : Bool :=
  bufIcbCmdValid s i && inRegion P k (bufIcbCmd s i).addr && i.oIcbEnable k

/-- Also without a command. -/
def icbCmdDeft : Bool :=
  !icbCmdO P s i 0 && !icbCmdO P s i 1 && !icbCmdO P s i 2 && !icbCmdO P s i 3 && !icbCmdO P s i 4 &&
    !icbCmdO P s i 5 && !icbCmdO P s i 6 && !icbCmdO P s i 7

def bufIcbSpltIndic : BitVec 9 :=
  BitVec.ofBoolListBE [icbCmdO P s i 0, icbCmdO P s i 1, icbCmdO P s i 2, icbCmdO P s i 3,
    icbCmdO P s i 4, icbCmdO P s i 5, icbCmdO P s i 6, icbCmdO P s i 7, icbCmdDeft P s i]

/-! ### The splitter and the default slave -/

def bufIcbRspReady : Bool := IcbBuffer.oIcbRspReady (bufParams P) s.buf i.iIcbRspReady

/-- The response of the default slave. -/
def deftIcbRsp : GnrlIcbRsp DW 0 := ⟨1#1, 0#1, BitVec.ofNat DW 0, 0#0⟩

/-- What the splitter is given, with the wires of the default slave open. -/
def spltBus (deftIcbCmdReady deftIcbRspValid : Bool) : GnrlSplt.In 9 AW DW 1 where
  iIcbSpltIndic := bufIcbSpltIndic P s i
  iIcbCmdValid := bufIcbCmdValid s i
  iIcbCmd := (bufIcbCmd s i).withUsr 0#1
  iIcbRspReady := bufIcbRspReady P s i
  oBusIcbCmdReady j :=
    match port j with
    | none => deftIcbCmdReady
    | some k => i.oIcbCmdReady k
  oBusIcbRspValid j :=
    match port j with
    | none => deftIcbRspValid
    | some k => i.oIcbRspValid k
  oBusIcbRsp j :=
    match port j with
    | none => deftIcbRsp.withUsr 0#1
    | some k => (i.oIcbRsp k).withUsr 0#1

/-- Neither wire of the default slave matters for its ready signal. -/
def deftIcbRspReady : Bool :=
  GnrlSplt.oBusIcbRspReady (spltParams P) s.splt (spltBus P s i false false) (slot none)

def deftIcbCmdReady : Bool := deftIcbRspReady P s i

/-- The response in the cycle of the command closes a loop through the splitter, which `deft_settles`
shows not to matter. -/
def deftIcbCmdValid : Bool :=
  GnrlSplt.oBusIcbCmdValid (spltParams P) s.splt (spltBus P s i (deftIcbCmdReady P s i) false)
    (slot none)

def deftIcbRspValid : Bool := deftIcbCmdValid P s i

def spltIn : GnrlSplt.In 9 AW DW 1 := spltBus P s i (deftIcbCmdReady P s i) (deftIcbRspValid P s i)

/-! ### The buffer and the ports -/

def bufIn : IcbBuffer.In AW DW 1 where
  iIcbCmdValid := i.iIcbCmdValid
  iIcbCmd := i.iIcbCmd.withUsr 0#1
  iIcbRspReady := i.iIcbRspReady
  oIcbCmdReady := GnrlSplt.iIcbCmdReady (spltParams P) s.splt (spltIn P s i)
  oIcbRspValid := GnrlSplt.iIcbRspValid (spltParams P) s.splt (spltIn P s i)
  oIcbRsp := (GnrlSplt.iIcbRsp (spltParams P) s.splt (spltIn P s i)).withUsr 0#1

def iIcbCmdReady : Bool := IcbBuffer.iIcbCmdReady (bufParams P) s.buf (bufIn P s i).oIcbCmdReady
def iIcbRspValid : Bool := IcbBuffer.iIcbRspValid s.buf (bufIn P s i).oIcbRspValid
def iIcbRsp : GnrlIcbRsp DW 0 := (IcbBuffer.iIcbRsp s.buf (bufIn P s i).oIcbRsp).withUsr 0#0

def oIcbCmdValid (k : Fin 8) : Bool :=
  GnrlSplt.oBusIcbCmdValid (spltParams P) s.splt (spltIn P s i) (slot (some k))

def oIcbCmd (k : Fin 8) : GnrlIcbCmd AW DW 0 :=
  (GnrlSplt.oBusIcbCmd (spltParams P) s.splt (spltIn P s i) (slot (some k))).withUsr 0#0

def oIcbRspReady (k : Fin 8) : Bool :=
  GnrlSplt.oBusIcbRspReady (spltParams P) s.splt (spltIn P s i) (slot (some k))

def step (i : In AW DW) (s : State ICB_FIFO_DP OUTS AW DW) : State ICB_FIFO_DP OUTS AW DW where
  buf := IcbBuffer.step (bufParams P) (bufIn P s i) s.buf
  splt := GnrlSplt.step (spltParams P) (spltIn P s i) s.splt

end
end Icb1to8Bus
end E203
