import E203.Rtl.GnrlIcbs

/-! # The bridge to APB (`sirv_gnrl_icb2apb` in `sirv_gnrl_icbs.v`)

APB has no handshake for the response, so that a FIFO of one entry takes it.
-/

namespace E203.Icb2apb
set_option autoImplicit false

structure State (MW : ℕ) where
  apbEnableR : Bool
  /-- `u_rsp_fifo`. -/
  rspFifo : GnrlFifo (BitVec (8 * MW))
deriving DecidableEq

/-- After reset; the data of the FIFO has none. -/
structure IsReset {MW : ℕ} (s : State MW) : Prop where
  enable : s.apbEnableR = false
  rspFifo : s.rspFifo.vld = false

/-- What the master and the APB slave drive. -/
structure In (AW MW : ℕ) extends IcbMaster AW MW where
  apbPrdata : BitVec (8 * MW)

section
variable {AW MW : ℕ} (s : State MW) (i : In AW MW)

def iIcbRspValid : Bool := s.rspFifo.oVld
def iIcbRsp : IcbRsp MW := ⟨false, s.rspFifo.oDat⟩

/-- A request starts only when the buffer of the response is empty. -/
def apbEnableSet : Bool := !s.apbEnableR && i.cmdValid && !iIcbRspValid s

def apbEnableClr : Bool := s.apbEnableR
def apbEnableEna : Bool := apbEnableSet s i || apbEnableClr s
def apbEnableNxt : Bool := apbEnableSet s i && !apbEnableClr s

def iIcbCmdReady : Bool := s.apbEnableR && !iIcbRspValid s

def apbPaddr : BitVec AW := i.cmd.addr
def apbPwrite : Bool := !i.cmd.read
def apbPselx : Bool := i.cmdValid
def apbPenable : Bool := s.apbEnableR
def apbPwdata : BitVec (8 * MW) := i.cmd.wdata

/-- The ready output of the FIFO is not connected. -/
def step (i : In AW MW) (s : State MW) : State MW where
  apbEnableR := dfflr (apbEnableEna s i) (apbEnableNxt s i) s.apbEnableR
  rspFifo := s.rspFifo.step s.apbEnableR i.rspReady i.apbPrdata

end
end E203.Icb2apb
