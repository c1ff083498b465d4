import E203.Rtl.Defines
import Mathlib.Algebra.GroupWithZero.Nat

/-! # Clock-domain crossing (`sirv_gnrl_bufs.v`)

The four-phase transmitter `sirv_gnrl_cdc_tx` and receiver `sirv_gnrl_cdc_rx`, each with its
synchroniser `sirv_gnrl_sync`, and the two connected back to back.  Each side has a clock of its own:
an event of the pair is an edge of the one, of the other, or of both at once, where both sides read
the registers as they were before the edge.
-/

namespace E203
set_option autoImplicit false

/-- The registers `sync_dat` of `sirv_gnrl_sync`. -/
abbrev Sync (DP : ℕ) := Fin DP → Bool

namespace Sync
variable {DP : ℕ}

def step (dinA : Bool) (s : Sync DP) : Sync DP := fun i =>
  if i.val = 0 then dinA else s ⟨i.val - 1, Nat.lt_of_le_of_lt (Nat.sub_le _ _) i.isLt⟩

def dout [NeZero DP] (s : Sync DP) : Bool := s ⟨DP - 1, Nat.sub_lt (Nat.pos_of_neZero DP) Nat.one_pos⟩

end Sync

/-! ## The transmitter -/

namespace CdcTx

structure State (DW DP : ℕ) where
  syncDat : Sync DP
  vldR : Bool
  datR : BitVec DW
  oRdySyncR : Bool
  nrdyR : Bool

def reset (DW DP : ℕ) : State DW DP := ⟨fun _ => false, false, BitVec.ofNat DW 0, false, false⟩

structure In (DW : ℕ) where
  iVld : Bool
  iDat : BitVec DW
  oRdyA : Bool

section
variable {DW DP : ℕ} [NeZero DP] (s : State DW DP)

def oRdySync : Bool := s.syncDat.dout
def oRdyNedge : Bool := !oRdySync s && s.oRdySyncR
def nrdyClr : Bool := oRdyNedge s
def iRdy : Bool := !s.nrdyR || nrdyClr s
def oVld : Bool := s.vldR
def oDat : BitVec DW := s.datR

variable (i : In DW)

def vldSet : Bool := i.iVld && iRdy s
def vldClr : Bool := oVld s && oRdySync s
def nrdySet : Bool := vldSet s i

/-- One edge of the transmitter's clock. -/
def step (i : In DW) (s : State DW DP) : State DW DP where
  syncDat := s.syncDat.step i.oRdyA
  vldR := dfflr (vldSet s i || vldClr s) (vldSet s i || !vldClr s) s.vldR
  datR := dfflr (vldSet s i) i.iDat s.datR
  oRdySyncR := oRdySync s
  nrdyR := dfflr (nrdySet s i || nrdyClr s) (nrdySet s i || !nrdyClr s) s.nrdyR

end
end CdcTx

/-! ## The receiver -/

namespace CdcRx

structure State (DW DP : ℕ) where
  syncDat : Sync DP
  iVldSyncR : Bool
  iRdyR : Bool
  bufDatR : BitVec DW
  bufVldR : Bool

def reset (DW DP : ℕ) : State DW DP := ⟨fun _ => false, false, false, BitVec.ofNat DW 0, false⟩

structure In (DW : ℕ) where
  iVldA : Bool
  iDat : BitVec DW
  oRdy : Bool

section
variable {DW DP : ℕ} [NeZero DP] (s : State DW DP)

def iVldSync : Bool := s.syncDat.dout
def iVldSyncNedge : Bool := !iVldSync s && s.iVldSyncR
def bufRdy : Bool := !s.bufVldR
def iRdySet : Bool := bufRdy s && iVldSync s && !s.iRdyR
def iRdyClr : Bool := iVldSyncNedge s
def iRdy : Bool := s.iRdyR
def bufDatEna : Bool := iRdySet s
def oVld : Bool := s.bufVldR
def oDat : BitVec DW := s.bufDatR
def bufVldSet : Bool := bufDatEna s
def bufVldClr (i : In DW) : Bool := oVld s && i.oRdy

/-- One edge of the receiver's clock. -/
def step (i : In DW) (s : State DW DP) : State DW DP where
  syncDat := s.syncDat.step i.iVldA
  iVldSyncR := iVldSync s
  iRdyR := dfflr (iRdySet s || iRdyClr s) (iRdySet s || !iRdyClr s) s.iRdyR
  bufDatR := dfflr (bufDatEna s) i.iDat s.bufDatR
  bufVldR := dfflr (bufVldSet s || bufVldClr s i) (bufVldSet s || !bufVldClr s i) s.bufVldR

end
end CdcRx

/-! ## Back to back -/

namespace Cdc

structure State (DW TX_DP RX_DP : ℕ) where
  tx : CdcTx.State DW TX_DP
  rx : CdcRx.State DW RX_DP

def reset (DW TX_DP RX_DP : ℕ) : State DW TX_DP RX_DP := ⟨CdcTx.reset DW TX_DP, CdcRx.reset DW RX_DP⟩

/-- Which clocks rise in an event, and the inputs of the two ends. -/
structure In (DW : ℕ) where
  txClk : Bool
  rxClk : Bool
  iVld : Bool
  iDat : BitVec DW
  oRdy : Bool

section
variable {DW TX_DP RX_DP : ℕ} [NeZero TX_DP] [NeZero RX_DP] (s : State DW TX_DP RX_DP) (i : In DW)

def txIn : CdcTx.In DW := ⟨i.iVld, i.iDat, CdcRx.iRdy s.rx⟩
def rxIn : CdcRx.In DW := ⟨CdcTx.oVld s.tx, CdcTx.oDat s.tx, i.oRdy⟩

def step (i : In DW) (s : State DW TX_DP RX_DP) : State DW TX_DP RX_DP where
  tx := if i.txClk then CdcTx.step (txIn s i) s.tx else s.tx
  rx := if i.rxClk then CdcRx.step (rxIn s i) s.rx else s.rx

/-- The words that the transmitter accepts in an event. -/
def accepted : List (BitVec DW) :=
  if i.txClk && CdcTx.vldSet s.tx (txIn s i) then [i.iDat] else []

/-- The words that the receiver hands out in an event. -/
def handedOut : List (BitVec DW) :=
  if i.rxClk && CdcRx.bufVldClr s.rx (rxIn s i) then [CdcRx.oDat s.rx] else []

/-- The receiver samples the data bus. -/
def samples : Bool := i.rxClk && CdcRx.bufDatEna s.rx

/-- The words in flight: the receiver's buffer, and the transmitter's until the receiver has it. -/
def inFlight : List (BitVec DW) :=
  (if s.rx.bufVldR then [s.rx.bufDatR] else []) ++
    if s.tx.vldR && !s.rx.iRdyR then [s.tx.datR] else []

end
end Cdc
end E203
