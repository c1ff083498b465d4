import E203.Rtl.Defines

/-! # The debug module (`sirv_debug_module.v`, `sirv_debug_ram.v`, `sirv_debug_rom.v`)

The registers that the debug bus and the system bus share, for one hart with an ID of one bit.  Both
buses are answered in the cycle of the request.

* `DebugRam`, `DebugRom`: the words of the two memories.
* `DebugModule.State`, `DebugModule.In`: the registers and the ports.
* `iDtmReqReady`, `iDtmRespBits`, `iIcbRspRdata`, ...: the wires under their source names.
* `step`: one clock edge.
-/

namespace E203
set_option autoImplicit false

/-! ## The memories -/

namespace DebugRam

/-- `debug_ram_r`. -/
abbrev State := Fin 7 → BitVec 32

structure In where
  ramCs : Bool
  ramRd : Bool
  ramAddr : BitVec 3
  ramWdat : BitVec 32

/-- An index outside of the array reads an undefined value. -/
def ramDout (s : State) (ramAddr : BitVec 3) (undef : BitVec 32) : BitVec 32 :=
  if h : ramAddr.toNat < 7 then s ⟨ramAddr.toNat, h⟩ else undef

def ramWen (i : In) (k : Fin 7) : Bool := i.ramCs && !i.ramRd && i.ramAddr.toNat == k.val

def step (i : In) (s : State) : State := fun k => dfflr (ramWen i k) i.ramWdat (s k)

end DebugRam

namespace DebugRom

/-- `debug_rom`, with the bytes of each word put together. -/
def debugRom : List (BitVec 32) :=
  [0x03c0006f#32, 0x00c0006f#32, 0xfff00413#32, 0x0080006f#32, 0x00000413#32, 0x0ff0000f#32,
    0x41802483#32, 0x40802c23#32, 0xf1402473#32, 0x10802023#32, 0x7b002473#32, 0x00847413#32,
    0x02041a63#32, 0x7b202473#32, 0x7b200073#32, 0x7b241073#32, 0x7b002473#32, 0x1c047413#32,
    0xf4040413#32, 0x00041663#32, 0x40902c23#32, 0x40000067#32, 0xf1402473#32, 0x10802623#32,
    0x7b046073#32, 0x7b002473#32, 0x02047413#32, 0xfe040ce3#32, 0xfe1ff06f#32]

def romDout (romAddr : BitVec 5) (undef : BitVec 32) : BitVec 32 :=
  debugRom.getD romAddr.toNat undef

end DebugRom

/-! ## The module -/

namespace DebugModule

structure State where
  dmHartidR : BitVec 1
  cleardebintR : BitVec 1
  sethaltnotR : BitVec 1
  dmHaltnotR : Bool
  dmDebintR : Bool
  debugRamR : DebugRam.State

def reset : State := ⟨0#1, 0#1, 0#1, false, false, fun _ => 0#32⟩

structure In where
  iDtmReqValid : Bool
  iDtmReqBits : BitVec 41
  iDtmRespReady : Bool
  iIcbCmdValid : Bool
  iIcbCmdAddr : BitVec 12
  iIcbCmdRead : Bool
  iIcbCmdWdata : BitVec 32
  iIcbRspReady : Bool
  /-- What an index outside of the memories reads. -/
  undef : BitVec 32

section
variable (s : State) (i : In)

/-! ### Fields of the request -/

def dtmReqBitsAddr : BitVec 5 := i.iDtmReqBits.extractLsb' 36 5
def dtmReqBitsData : BitVec 34 := i.iDtmReqBits.extractLsb' 2 34
def dtmReqBitsOp : BitVec 2 := i.iDtmReqBits.extractLsb' 0 2

def dtmReqRd : Bool := dtmReqBitsOp i == 1#2
def dtmReqWr : Bool := dtmReqBitsOp i == 2#2

def dtmReqSelDbgram : Bool :=
  (dtmReqBitsAddr i).extractLsb' 3 2 == 0#2 && !((dtmReqBitsAddr i).extractLsb' 0 3 == 0b111#3)
def dtmReqSelDmcontrl : Bool := dtmReqBitsAddr i == 0x10#5
def dtmReqSelDminfo : Bool := dtmReqBitsAddr i == 0x11#5
def dtmReqSelHaltstat : Bool := dtmReqBitsAddr i == 0x1c#5

/-! ### The system bus agent -/

def iIcbRspValid : Bool := i.iIcbCmdValid
def iIcbCmdReady : Bool := i.iIcbRspReady
def iIcbCmdHsked : Bool := i.iIcbCmdValid && iIcbCmdReady i
def icbWrEna : Bool := iIcbCmdHsked i && !i.iIcbCmdRead

def icbSelCleardebint : Bool := i.iIcbCmdAddr == 0x100#12
def icbSelSethaltnot : Bool := i.iIcbCmdAddr == 0x10c#12
def icbSelDbgrom : Bool := i.iIcbCmdAddr.extractLsb' 8 4 == 0x8#4
def icbSelDbgram : Bool := i.iIcbCmdAddr.extractLsb' 8 4 == 0x4#4

def icbWrCleardebintEna : Bool := icbWrEna i && icbSelCleardebint i
def icbWrSethaltnotEna : Bool := icbWrEna i && icbSelSethaltnot i
def icbAccessDbgramEna : Bool := iIcbCmdHsked i && icbSelDbgram i

/-! ### The request handshake -/

/-- The RAM serves the system bus first. -/
def iDtmReqCondi : Bool := if dtmReqSelDbgram i then !icbAccessDbgramEna i else true
def iDtmReqReady : Bool := iDtmReqCondi i && i.iDtmRespReady
def iDtmRespValid : Bool := iDtmReqCondi i && i.iDtmReqValid
def iDtmReqHsked : Bool := i.iDtmReqValid && iDtmReqReady i

def dtmWrDmcontrol : Bool := dtmReqSelDmcontrl i && dtmReqWr i
def dtmWrDbgram : Bool := dtmReqSelDbgram i && dtmReqWr i

def dtmWrInterruptEna : Bool :=
  iDtmReqHsked i && (dtmWrDmcontrol i || dtmWrDbgram i) && (dtmReqBitsData i).getLsbD 33
def dtmWrHaltnotEna : Bool :=
  iDtmReqHsked i && (dtmWrDmcontrol i || dtmWrDbgram i) && !(dtmReqBitsData i).getLsbD 32
def dtmWrHartidEna : Bool := iDtmReqHsked i && dtmWrDmcontrol i
def dtmAccessDbgramEna : Bool := iDtmReqHsked i && dtmReqSelDbgram i

/-! ### The port of the RAM -/

def ramCs : Bool := dtmAccessDbgramEna i || icbAccessDbgramEna i
def ramAddr : BitVec 3 :=
  if dtmAccessDbgramEna i then (dtmReqBitsAddr i).extractLsb' 0 3 else i.iIcbCmdAddr.extractLsb' 2 3
def ramRd : Bool := if dtmAccessDbgramEna i then dtmReqRd i else i.iIcbCmdRead
def ramWdat : BitVec 32 :=
  if dtmAccessDbgramEna i then (dtmReqBitsData i).extractLsb' 0 32 else i.iIcbCmdWdata

def ram : DebugRam.In := ⟨ramCs i, ramRd i, ramAddr i, ramWdat i⟩
def ramDout : BitVec 32 := DebugRam.ramDout s.debugRamR (ramAddr i) i.undef

/-! ### The responses -/

def dminfoR : BitVec 34 := 0#18 ++ 0x6#6 ++ 0#4 ++ 1#1 ++ 0#3 ++ 0x1#2

/-- A bit of each hart; there is one hart. -/
def dmDebintArr : BitVec 2 := 0#1 ++ BitVec.ofBool s.dmDebintR
def dmHaltnotArr : BitVec 2 := 0#1 ++ BitVec.ofBool s.dmHaltnotR

def dmcontrolR : BitVec 34 :=
  BitVec.ofBool ((dmDebintArr s).getLsbD s.dmHartidR.toNat) ++
    BitVec.ofBool ((dmHaltnotArr s).getLsbD s.dmHartidR.toNat) ++ 0#20 ++ (0#9 ++ s.dmHartidR) ++ 0#2

def dtmRespBitsData : BitVec 34 :=
  gate (dtmReqSelDbgram i) ((dmcontrolR s).extractLsb' 32 2 ++ ramDout s i) |||
    gate (dtmReqSelDmcontrl i) (dmcontrolR s) |||
    gate (dtmReqSelDminfo i) dminfoR |||
    gate (dtmReqSelHaltstat i) (0#33 ++ BitVec.ofBool s.dmHaltnotR)

def dtmRespBitsResp : BitVec 2 := 0#2
def iDtmRespBits : BitVec 36 := dtmRespBitsData s i ++ dtmRespBitsResp

def romDout : BitVec 32 := DebugRom.romDout (i.iIcbCmdAddr.extractLsb' 2 5) i.undef

def iIcbRspRdata : BitVec 32 :=
  gate (icbSelCleardebint i) (0#31 ++ s.cleardebintR) |||
    gate (icbSelSethaltnot i) (0#31 ++ s.sethaltnotR) |||
    gate (icbSelDbgrom i) (romDout i) |||
    gate (icbSelDbgram i) (ramDout s i)

/-! ### The bits of the hart -/

def dmHaltnotSet : Bool := icbWrSethaltnotEna i && i.iIcbCmdWdata.extractLsb' 0 1 == 0#1
def dmHaltnotClr : Bool := dtmWrHaltnotEna i && s.dmHartidR == 0#1
def dmDebintSet : Bool := dtmWrInterruptEna i && s.dmHartidR == 0#1
def dmDebintClr : Bool := icbWrCleardebintEna i && i.iIcbCmdWdata.extractLsb' 0 1 == 0#1

/-! ### The clock edge -/

def step (i : In) (s : State) : State where
  dmHartidR := dfflr (dtmWrHartidEna i) ((dtmReqBitsData i).extractLsb' 2 1) s.dmHartidR
  cleardebintR := dfflr (icbWrCleardebintEna i) (i.iIcbCmdWdata.extractLsb' 0 1) s.cleardebintR
  sethaltnotR := dfflr (icbWrSethaltnotEna i) (i.iIcbCmdWdata.extractLsb' 0 1) s.sethaltnotR
  dmHaltnotR :=
    dfflr (dmHaltnotSet i || dmHaltnotClr s i) (dmHaltnotSet i || !dmHaltnotClr s i) s.dmHaltnotR
  dmDebintR :=
    dfflr (dmDebintSet s i || dmDebintClr i) (dmDebintSet s i || !dmDebintClr i) s.dmDebintR
  debugRamR := DebugRam.step (ram i) s.debugRamR

end
end DebugModule
end E203
