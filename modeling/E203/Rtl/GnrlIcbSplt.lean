import E203.Rtl.GnrlIcbArbt

/-! # The splitter for any number of targets (`sirv_gnrl_icbs.v`)

`sirv_gnrl_icb_splt` with `SPLT_PTR_1HOT`, for every `SPLT_NUM`, `FIFO_OUTS_NUM`, `FIFO_CUT_READY`,
`ALLOW_DIFF`, `ALLOW_0CYCL_RSP` and `VLD_MSK_PAYLOAD`.
-/

namespace E203.GnrlSplt
set_option autoImplicit false

structure Params where
  cutReady : Bool
  allowDiff : Bool
  allow0cyclRsp : Bool
  vldMskPayload : Bool

/-- What the master and the targets drive. -/
structure In (N AW DW USR_W : ℕ) where
  iIcbSpltIndic : BitVec N
  iIcbCmdValid : Bool
  iIcbCmd : GnrlIcbCmd AW DW USR_W
  iIcbRspReady : Bool
  oBusIcbCmdReady : Fin N → Bool
  oBusIcbRspValid : Fin N → Bool
  oBusIcbRsp : Fin N → GnrlIcbRsp DW USR_W

section
variable {N AW DW USR_W OUTS W : ℕ} (P : Params) (s : RspidFifo OUTS W) (i : In N AW DW USR_W)

def rspidFifoEmpty : Bool := !s.oVld

/-- `i_splt_indic_id`, which is `rspid_fifo_wdat`. -/
def iSpltIndicId : BitVec W := i.iIcbSpltIndic.setWidth W

/-! ### Responses -/

def oIcbRspPortId : BitVec W :=
  if rspidFifoEmpty s then (if P.allow0cyclRsp then iSpltIndicId i else BitVec.ofNat W 0) else s.oDat

def iIcbRspValidPre : Bool :=
  (List.finRange N).any fun j => i.oBusIcbRspValid j && (oIcbRspPortId P s i).getLsbD j

def manyRspValid : Bool :=
  if P.allow0cyclRsp then iIcbRspValidPre P s i else !rspidFifoEmpty s && iIcbRspValidPre P s i

def iIcbRspReadyPre : Bool :=
  if P.allow0cyclRsp then i.iIcbRspReady else !rspidFifoEmpty s && i.iIcbRspReady

/-- The OR of what the selected targets respond. -/
def selIIcbRsp : GnrlIcbRsp DW USR_W where
  err := selBus (fun j : Fin N => (oIcbRspPortId P s i).getLsbD j) fun j => (i.oBusIcbRsp j).err
  exclOk := selBus (fun j : Fin N => (oIcbRspPortId P s i).getLsbD j) fun j => (i.oBusIcbRsp j).exclOk
  rdata := selBus (fun j : Fin N => (oIcbRspPortId P s i).getLsbD j) fun j => (i.oBusIcbRsp j).rdata
  usr := selBus (fun j : Fin N => (oIcbRspPortId P s i).getLsbD j) fun j => (i.oBusIcbRsp j).usr

def rspidFifoRen : Bool := manyRspValid P s i && i.iIcbRspReady

/-! ### Commands -/

/-- As for the arbiter, the mask of the bypass does not matter for the ready output of the FIFO
(`rspidFifoFull_eq`). -/
def rspidFifoFull : Bool := !s.iRdy P.cutReady (rspidFifoRen P s i)

def cmdDiffBranch : Bool := !rspidFifoEmpty s && !decide (iSpltIndicId i = s.oDat)

/-- With `ALLOW_DIFF` a command may go to another target than the outstanding ones. -/
def spltStall : Bool := (!P.allowDiff && cmdDiffBranch s i) || rspidFifoFull P s i

def selOApbCmdReady : Bool :=
  (List.finRange N).any fun j => i.iIcbSpltIndic.getLsbD j && i.oBusIcbCmdReady j

def iIcbCmdValidPre : Bool := i.iIcbCmdValid && !spltStall P s i
def manyCmdReady : Bool := selOApbCmdReady i && !spltStall P s i
def rspidFifoWen : Bool := i.iIcbCmdValid && manyCmdReady P s i

def rspidFifoBypass : Bool :=
  P.allow0cyclRsp && (rspidFifoEmpty s && rspidFifoWen P s i && rspidFifoRen P s i)

def rspidFifoIValid : Bool := rspidFifoWen P s i && !rspidFifoBypass P s i
def rspidFifoOReady : Bool := rspidFifoRen P s i && !rspidFifoBypass P s i

/-! ### The ports; with a single target everything passes through -/

theorem pos_of_single {N : ℕ} (h : N = 1) : 0 < N := by omega

def iIcbCmdReady : Bool :=
  if h : N = 1 then i.oBusIcbCmdReady ⟨0, pos_of_single h⟩ else manyCmdReady P s i

def oBusIcbCmdValid (j : Fin N) : Bool :=
  if N = 1 then i.iIcbCmdValid else i.iIcbSpltIndic.getLsbD j && iIcbCmdValidPre P s i

def gateCmd (b : Bool) (c : GnrlIcbCmd AW DW USR_W) : GnrlIcbCmd AW DW USR_W :=
  ⟨gate b c.read, gate b c.addr, gate b c.wdata, gate b c.wmask, gate b c.burst, gate b c.beat,
    gate b c.lock, gate b c.excl, gate b c.size, gate b c.usr⟩

def oBusIcbCmd (j : Fin N) : GnrlIcbCmd AW DW USR_W :=
  if N = 1 then i.iIcbCmd
  else if P.vldMskPayload then gateCmd (oBusIcbCmdValid P s i j) i.iIcbCmd
  else i.iIcbCmd

def oBusIcbRspReady (j : Fin N) : Bool :=
  if N = 1 then i.iIcbRspReady else (oIcbRspPortId P s i).getLsbD j && iIcbRspReadyPre P s i

def iIcbRspValid : Bool :=
  if h : N = 1 then i.oBusIcbRspValid ⟨0, pos_of_single h⟩ else manyRspValid P s i

def iIcbRsp : GnrlIcbRsp DW USR_W :=
  if h : N = 1 then i.oBusIcbRsp ⟨0, pos_of_single h⟩ else selIIcbRsp P s i

/-- With a single target there is no FIFO. -/
def step (i : In N AW DW USR_W) (s : RspidFifo OUTS W) : RspidFifo OUTS W :=
  if N = 1 then s
  else s.step P.cutReady (rspidFifoIValid P s i) (rspidFifoOReady P s i) (iSpltIndicId i)

end
end E203.GnrlSplt
