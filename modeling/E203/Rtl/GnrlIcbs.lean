import E203.Lib.ByteMem
import E203.Rtl.GnrlBufs

/-! # Arbiter, width converter and splitter of the bus (`sirv_gnrl_icbs.v`)

* `IcbCmd`, `IcbRsp`, `IcbMaster`: the payloads of the two channels, and what a master drives.
* `Arbt`: `sirv_gnrl_icb_arbt` with two ports, the lower one first, one outstanding command, and no
  response in the cycle of the command.
* `N2w`: `sirv_gnrl_icb_n2w` from 32 to 64 bits with one outstanding command.
* `Splt`: `sirv_gnrl_icb_splt` with one outstanding command, `FIFO_CUT_READY`, `ALLOW_0CYCL_RSP` and
  without `ALLOW_DIFF`.
-/

namespace E203
set_option autoImplicit false

/-- A command for `MW` bytes. -/
structure IcbCmd (AW MW : ℕ) where
  read : Bool
  addr : BitVec AW
  wdata : BitVec (8 * MW)
  wmask : BitVec MW
deriving DecidableEq

/-- The zero that the OR of no selected command gives. -/
def IcbCmd.zero (AW MW : ℕ) : IcbCmd AW MW :=
  ⟨false, BitVec.ofNat AW 0, BitVec.ofNat (8 * MW) 0, BitVec.ofNat MW 0⟩

structure IcbRsp (MW : ℕ) where
  err : Bool
  rdata : BitVec (8 * MW)
deriving DecidableEq

/-- What a master drives. -/
structure IcbMaster (AW MW : ℕ) where
  cmdValid : Bool
  cmd : IcbCmd AW MW
  rspReady : Bool
deriving DecidableEq

/-! ## The arbiter -/

namespace Arbt

structure State where
  /-- `u_sirv_gnrl_rspid_fifo`. -/
  rspid : PipeStage (Fin 2)
deriving DecidableEq

section
variable (cutReady : Bool) (s : State)

def rspidFifoEmpty : Bool := !s.rspid.oVld
def oIcbRspPortId : Fin 2 := if rspidFifoEmpty s then 0 else s.rspid.oDat

variable (oIcbRspValid : Bool) (iBusIcbRspReady : Fin 2 → Bool)

def oIcbRspValidPre : Bool := !rspidFifoEmpty s && oIcbRspValid
def iBusIcbRspValid (i : Fin 2) : Bool := oIcbRspValidPre s oIcbRspValid && oIcbRspPortId s == i
def oIcbRspReady : Bool := !rspidFifoEmpty s && iBusIcbRspReady (oIcbRspPortId s)
def rspidFifoRen : Bool := oIcbRspValid && oIcbRspReady s iBusIcbRspReady
def rspidFifoFull : Bool := !s.rspid.iRdy cutReady (rspidFifoRen s oIcbRspValid iBusIcbRspReady)

variable (iBusIcbCmdValid : Fin 2 → Bool) (oIcbCmdReady : Bool)

/-- Port 0 is always granted, port 1 when port 0 does not ask. -/
def iBusIcbCmdGrtVec (i : Fin 2) : Bool := if i = 0 then true else !iBusIcbCmdValid 0
def iBusIcbCmdSel (i : Fin 2) : Bool := iBusIcbCmdGrtVec iBusIcbCmdValid i && iBusIcbCmdValid i
def oIcbCmdValidReal : Bool := iBusIcbCmdValid 0 || iBusIcbCmdValid 1

def oIcbCmdValid : Bool :=
  oIcbCmdValidReal iBusIcbCmdValid && !rspidFifoFull cutReady s oIcbRspValid iBusIcbRspReady

def iBusIcbCmdReady (i : Fin 2) : Bool :=
  iBusIcbCmdGrtVec iBusIcbCmdValid i &&
    (oIcbCmdReady && !rspidFifoFull cutReady s oIcbRspValid iBusIcbRspReady)

/-- The OR of the selected ones; at most one is. -/
def oIcbCmd {α : Type*} (zero : α) (iBusIcbCmd : Fin 2 → α) : α :=
  if iBusIcbCmdSel iBusIcbCmdValid 0 then iBusIcbCmd 0
  else if iBusIcbCmdSel iBusIcbCmdValid 1 then iBusIcbCmd 1
  else zero

def iArbtIndicId : Fin 2 := if iBusIcbCmdSel iBusIcbCmdValid 1 then 1 else 0

def rspidFifoWen : Bool :=
  oIcbCmdValid cutReady s oIcbRspValid iBusIcbRspReady iBusIcbCmdValid && oIcbCmdReady

def step : State where
  rspid :=
    s.rspid.step cutReady
      (rspidFifoWen cutReady s oIcbRspValid iBusIcbRspReady iBusIcbCmdValid oIcbCmdReady)
      (rspidFifoRen s oIcbRspValid iBusIcbRspReady) (iArbtIndicId iBusIcbCmdValid)

end
end Arbt

/-! ## The width converter -/

namespace N2w

structure State where
  /-- `u_sirv_gnrl_n2w_fifo`: which half the response is for. -/
  fifo : PipeStage Bool
deriving DecidableEq

section
variable {AW : ℕ} (s : State) (c : IcbCmd AW 4)

def cmdYLoHi : Bool := c.addr.getLsbD 2

def oIcbCmd : IcbCmd AW 8 where
  read := c.read
  addr := c.addr
  wdata := c.wdata ++ c.wdata
  wmask := if cmdYLoHi c then c.wmask ++ 0#4 else 0#4 ++ c.wmask

def rspYLoHi : Bool := s.fifo.oDat

def iIcbRspRdata (oIcbRspRdata : BitVec 64) : BitVec 32 :=
  if rspYLoHi s then oIcbRspRdata.extractLsb' 32 32 else oIcbRspRdata.extractLsb' 0 32

variable (oIcbRspValid iIcbRspReady iIcbCmdValid oIcbCmdReady : Bool)

def n2wFifoRen : Bool := oIcbRspValid && iIcbRspReady
def n2wFifoFull : Bool := !s.fifo.iRdy false (n2wFifoRen oIcbRspValid iIcbRspReady)
def oIcbCmdValid : Bool := !n2wFifoFull s oIcbRspValid iIcbRspReady && iIcbCmdValid
def iIcbCmdReady : Bool := !n2wFifoFull s oIcbRspValid iIcbRspReady && oIcbCmdReady
def n2wFifoWen : Bool := iIcbCmdValid && iIcbCmdReady s oIcbRspValid iIcbRspReady oIcbCmdReady

def step : State where
  fifo :=
    s.fifo.step false (n2wFifoWen s oIcbRspValid iIcbRspReady iIcbCmdValid oIcbCmdReady)
      (n2wFifoRen oIcbRspValid iIcbRspReady) (cmdYLoHi c)

end
end N2w

/-! ## The splitter -/

namespace Splt

/-- The one-hot indication of the outstanding command. -/
structure State (ι : Type*) where
  rspid : PipeStage (ι → Bool)

section
variable {ι : Type*} (targets : List ι) (s : State ι) (iIcbSpltIndic : ι → Bool)

def rspidFifoEmpty : Bool := !s.rspid.oVld

/-- `CUT_READY`: the stage accepts only while it is empty. -/
def rspidFifoFull : Bool := s.rspid.vldR

/-- A response in the cycle of the command belongs to the command. -/
def oIcbRspPortId : ι → Bool := if rspidFifoEmpty s then iIcbSpltIndic else s.rspid.oDat

def cmdDiffBranch : Bool :=
  !rspidFifoEmpty s && !targets.all fun j => iIcbSpltIndic j == s.rspid.oDat j

variable (iIcbCmdValid : Bool)

def iIcbCmdValidPre : Bool :=
  iIcbCmdValid && !cmdDiffBranch targets s iIcbSpltIndic && !rspidFifoFull s

def oIcbCmdValid (j : ι) : Bool :=
  iIcbSpltIndic j && iIcbCmdValidPre targets s iIcbSpltIndic iIcbCmdValid

variable (oIcbCmdReady oIcbRspValid : ι → Bool) (iIcbRspReady : Bool)

def selOApbCmdReady : Bool := targets.any fun j => iIcbSpltIndic j && oIcbCmdReady j

def iIcbCmdReady : Bool :=
  selOApbCmdReady targets iIcbSpltIndic oIcbCmdReady && !cmdDiffBranch targets s iIcbSpltIndic &&
    !rspidFifoFull s

def iIcbRspValid : Bool := targets.any fun j => oIcbRspValid j && oIcbRspPortId s iIcbSpltIndic j
def oIcbRspReady (j : ι) : Bool := oIcbRspPortId s iIcbSpltIndic j && iIcbRspReady

/-- The OR of the bits of the selected targets. -/
def selBit (f : ι → Bool) : Bool := targets.any fun j => oIcbRspPortId s iIcbSpltIndic j && f j

def selBus {w : ℕ} (f : ι → BitVec w) : BitVec w :=
  targets.foldl (fun acc j => acc ||| gate (oIcbRspPortId s iIcbSpltIndic j) (f j)) (BitVec.ofNat w 0)

def rspidFifoWen : Bool := iIcbCmdValid && iIcbCmdReady targets s iIcbSpltIndic oIcbCmdReady

def rspidFifoRen : Bool := iIcbRspValid targets s iIcbSpltIndic oIcbRspValid && iIcbRspReady

/-- A command with its response in the same cycle does not enter the stage. -/
def rspidFifoBypass : Bool :=
  rspidFifoEmpty s && rspidFifoWen targets s iIcbSpltIndic iIcbCmdValid oIcbCmdReady &&
    rspidFifoRen targets s iIcbSpltIndic oIcbRspValid iIcbRspReady

def step : State ι where
  rspid :=
    s.rspid.step true
      (rspidFifoWen targets s iIcbSpltIndic iIcbCmdValid oIcbCmdReady &&
        !rspidFifoBypass targets s iIcbSpltIndic iIcbCmdValid oIcbCmdReady oIcbRspValid iIcbRspReady)
      (rspidFifoRen targets s iIcbSpltIndic oIcbRspValid iIcbRspReady &&
        !rspidFifoBypass targets s iIcbSpltIndic iIcbCmdValid oIcbCmdReady oIcbRspValid iIcbRspReady)
      iIcbSpltIndic

end
end Splt
end E203
