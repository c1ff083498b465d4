import E203.Rtl.GnrlFifo

/-! # The arbiter for any number of masters (`sirv_gnrl_icbs.v`)

`sirv_gnrl_icb_arbt` with `ARBT_SCHEME` 0 (fixed priority), for every `ARBT_NUM`, `FIFO_OUTS_NUM`,
`FIFO_CUT_READY` and `ALLOW_0CYCL_RSP`.
-/

namespace E203
set_option autoImplicit false

/-- The payload of a command. -/
structure GnrlIcbCmd (AW DW USR_W : ℕ) where
  read : BitVec 1
  addr : BitVec AW
  wdata : BitVec DW
  wmask : BitVec (DW / 8)
  burst : BitVec 2
  beat : BitVec 2
  lock : BitVec 1
  excl : BitVec 1
  size : BitVec 2
  usr : BitVec USR_W
deriving DecidableEq

/-- The payload of a response. -/
structure GnrlIcbRsp (DW USR_W : ℕ) where
  err : BitVec 1
  exclOk : BitVec 1
  rdata : BitVec DW
  usr : BitVec USR_W
deriving DecidableEq

/-- The loops over the ports: the OR of the selected buses. -/
def selBus {N w : ℕ} (sel : Fin N → Bool) (bus : Fin N → BitVec w) : BitVec w :=
  (List.finRange N).foldl (fun acc (j : Fin N) => acc ||| gate (sel j) (bus j)) (BitVec.ofNat w 0)

/-- Bit `id` of a vector; there is none past its end. -/
def atPort {N w : ℕ} (v : Fin N → Bool) (id : BitVec w) : Bool :=
  if h : id.toNat < N then v ⟨id.toNat, h⟩ else false

namespace GnrlArbt

/-- `ARBT_PTR_W`, the masters and the response channel of a cycle. -/
structure In (N AW DW USR_W : ℕ) where
  iBusIcbCmdValid : Fin N → Bool
  iBusIcbCmd : Fin N → GnrlIcbCmd AW DW USR_W
  iBusIcbRspReady : Fin N → Bool
  oIcbCmdReady : Bool
  oIcbRspValid : Bool
  oIcbRsp : GnrlIcbRsp DW USR_W

section
variable {N AW DW USR_W OUTS W : ℕ} (cutReady allow0 : Bool) (s : RspidFifo OUTS W)
  (i : In N AW DW USR_W)

/-! ### The grant -/

def iBusIcbCmdGrtVec (p : Fin N) : Bool :=
  if p.val = 0 then true
  else !(List.finRange N).any fun q => decide (q.val < p.val) && i.iBusIcbCmdValid q

def iBusIcbCmdSel (p : Fin N) : Bool := iBusIcbCmdGrtVec i p && i.iBusIcbCmdValid p

def oIcbCmdValidReal : Bool := (List.finRange N).any i.iBusIcbCmdValid

def selOIcbCmd : GnrlIcbCmd AW DW USR_W where
  read := selBus (iBusIcbCmdSel i) fun p => (i.iBusIcbCmd p).read
  addr := selBus (iBusIcbCmdSel i) fun p => (i.iBusIcbCmd p).addr
  wdata := selBus (iBusIcbCmdSel i) fun p => (i.iBusIcbCmd p).wdata
  wmask := selBus (iBusIcbCmdSel i) fun p => (i.iBusIcbCmd p).wmask
  burst := selBus (iBusIcbCmdSel i) fun p => (i.iBusIcbCmd p).burst
  beat := selBus (iBusIcbCmdSel i) fun p => (i.iBusIcbCmd p).beat
  lock := selBus (iBusIcbCmdSel i) fun p => (i.iBusIcbCmd p).lock
  excl := selBus (iBusIcbCmdSel i) fun p => (i.iBusIcbCmd p).excl
  size := selBus (iBusIcbCmdSel i) fun p => (i.iBusIcbCmd p).size
  usr := selBus (iBusIcbCmdSel i) fun p => (i.iBusIcbCmd p).usr

/-- `i_arbt_indic_id`, which is `rspid_fifo_wdat`. -/
def iArbtIndicId : BitVec W := selBus (iBusIcbCmdSel i) fun p => BitVec.ofNat W p

/-! ### The identifier FIFO -/

def rspidFifoEmpty : Bool := !s.oVld

def oIcbRspPortId : BitVec W :=
  if rspidFifoEmpty s then (if allow0 then iArbtIndicId i else BitVec.ofNat W 0) else s.oDat

def oIcbRspReadyPre : Bool := atPort i.iBusIcbRspReady (oIcbRspPortId allow0 s i)

def oIcbRspValidPre : Bool :=
  if allow0 then i.oIcbRspValid else !rspidFifoEmpty s && i.oIcbRspValid

def manyRspReady : Bool :=
  if allow0 then oIcbRspReadyPre allow0 s i else !rspidFifoEmpty s && oIcbRspReadyPre allow0 s i

def rspidFifoRen : Bool := i.oIcbRspValid && manyRspReady allow0 s i

/-- The FIFO is asked with `rspid_fifo_ren`.  The source masks it with the bypass, which is off while
there is an entry, and without one the FIFO accepts in any case (`rspidFifoFull_eq`). -/
def rspidFifoFull : Bool := !s.iRdy cutReady (rspidFifoRen allow0 s i)

def manyCmdValid : Bool := oIcbCmdValidReal i && !rspidFifoFull cutReady allow0 s i
def oIcbCmdReadyReal : Bool := i.oIcbCmdReady && !rspidFifoFull cutReady allow0 s i
def rspidFifoWen : Bool := manyCmdValid cutReady allow0 s i && i.oIcbCmdReady

def rspidFifoBypass : Bool :=
  allow0 && (rspidFifoEmpty s && rspidFifoWen cutReady allow0 s i && rspidFifoRen allow0 s i)

def rspidFifoIValid : Bool :=
  rspidFifoWen cutReady allow0 s i && !rspidFifoBypass cutReady allow0 s i

def rspidFifoOReady : Bool :=
  rspidFifoRen allow0 s i && !rspidFifoBypass cutReady allow0 s i

/-! ### The ports; with a single master everything passes through -/

def oIcbCmdValid : Bool :=
  if h : N = 1 then i.iBusIcbCmdValid ⟨0, by omega⟩ else manyCmdValid cutReady allow0 s i

def oIcbCmd : GnrlIcbCmd AW DW USR_W :=
  if h : N = 1 then i.iBusIcbCmd ⟨0, by omega⟩ else selOIcbCmd i

def iBusIcbCmdReady (p : Fin N) : Bool :=
  if N = 1 then i.oIcbCmdReady
  else iBusIcbCmdGrtVec i p && oIcbCmdReadyReal cutReady allow0 s i

def oIcbRspReady : Bool :=
  if h : N = 1 then i.iBusIcbRspReady ⟨0, by omega⟩ else manyRspReady allow0 s i

def iBusIcbRspValid (p : Fin N) : Bool :=
  if N = 1 then i.oIcbRspValid
  else oIcbRspValidPre allow0 s i && decide ((oIcbRspPortId allow0 s i).toNat = p.val)

/-- `i_bus_icb_rsp_err` and the others: every master is shown the response. -/
def iBusIcbRsp (_ : Fin N) : GnrlIcbRsp DW USR_W := i.oIcbRsp

/-- With a single master there is no FIFO. -/
def step (i : In N AW DW USR_W) (s : RspidFifo OUTS W) : RspidFifo OUTS W :=
  if N = 1 then s
  else s.step cutReady (rspidFifoIValid cutReady allow0 s i) (rspidFifoOReady cutReady allow0 s i)
    (iArbtIndicId i)

end
end GnrlArbt
end E203
