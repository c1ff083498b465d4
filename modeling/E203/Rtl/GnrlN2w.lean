import E203.Rtl.GnrlIcbArbt

/-! # The width converter with any number of outstanding commands (`sirv_gnrl_icbs.v`)

`sirv_gnrl_icb_n2w` with `X_W` 32 and `Y_W` 64, the widths that it has a lane select for, for every
`FIFO_OUTS_NUM` and `FIFO_CUT_READY`.
-/

namespace E203.GnrlN2w
set_option autoImplicit false

/-- What the narrow master and the wide slave drive. -/
structure In (AW USR_W : ℕ) where
  iIcbCmdValid : Bool
  iIcbCmd : GnrlIcbCmd AW 32 USR_W
  iIcbRspReady : Bool
  oIcbCmdReady : Bool
  oIcbRspValid : Bool
  oIcbRsp : GnrlIcbRsp 64 USR_W

section
variable {AW USR_W OUTS : ℕ} (cutReady : Bool) (s : RspidFifo OUTS 1) (i : In AW USR_W)
  (c : GnrlIcbCmd AW 32 USR_W) (r : GnrlIcbRsp 64 USR_W)

/-! ### Payloads -/

/-- `i_icb_cmd_addr[2]`. -/
def cmdYLoHi : BitVec 1 := c.addr.extractLsb' 2 1
def rspYLoHi : BitVec 1 := s.oDat

def oIcbCmd : GnrlIcbCmd AW 64 USR_W where
  read := c.read
  addr := c.addr
  wdata := c.wdata ++ c.wdata
  wmask := if cmdYLoHi c = 1#1 then c.wmask ++ 0#4 else 0#4 ++ c.wmask
  burst := c.burst
  beat := c.beat
  lock := c.lock
  excl := c.excl
  size := c.size
  usr := c.usr

def iIcbRsp : GnrlIcbRsp 32 USR_W where
  err := r.err
  exclOk := r.exclOk
  rdata := if rspYLoHi s = 1#1 then r.rdata.extractLsb' 32 32 else r.rdata.extractLsb' 0 32
  usr := r.usr

/-! ### Handshakes -/

def iIcbRspValid : Bool := i.oIcbRspValid
def oIcbRspReady : Bool := i.iIcbRspReady

def n2wFifoRen : Bool := iIcbRspValid i && i.iIcbRspReady
def n2wFifoFull : Bool := !s.iRdy cutReady (n2wFifoRen i)
def oIcbCmdValid : Bool := !n2wFifoFull cutReady s i && i.iIcbCmdValid
def iIcbCmdReady : Bool := !n2wFifoFull cutReady s i && i.oIcbCmdReady
def n2wFifoWen : Bool := i.iIcbCmdValid && iIcbCmdReady cutReady s i

/-- `u_sirv_gnrl_n2w_fifo`; a lane select does not bypass it. -/
def step (i : In AW USR_W) (s : RspidFifo OUTS 1) : RspidFifo OUTS 1 :=
  s.step cutReady (n2wFifoWen cutReady s i) (n2wFifoRen i) (cmdYLoHi i.iIcbCmd)

end
end E203.GnrlN2w
