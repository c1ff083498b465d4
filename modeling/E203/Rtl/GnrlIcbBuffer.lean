import E203.Rtl.GnrlIcbArbt

/-! # The buffer of the bus (`sirv_gnrl_icb_buffer` in `sirv_gnrl_icbs.v`)

A FIFO for the commands and one for the responses, each of any depth; one without entries passes
everything through.  The net of the outstanding count is declared with a single bit, whatever the width
of its register.
-/

namespace E203
set_option autoImplicit false

/-! ## A FIFO with any number of entries -/

namespace FifoDp
section
variable {DP DW : ℕ} (cutReady msko : Bool) (s : Fifo DP DW) (iVld oRdy : Bool) (iDat : BitVec DW)

/-- `sirv_gnrl_fifo` with `DP` 0 has no registers. -/
def iRdy : Bool := if DP = 0 then oRdy else s.iRdy cutReady oRdy
def oVld : Bool := if DP = 0 then iVld else s.oVld
def oDat : BitVec DW := if DP = 0 then iDat else s.oDat msko

def IsReset (s : Fifo DP DW) : Prop := 0 < DP → s.IsReset

end
end FifoDp

namespace IcbBuffer

/-! ## The packed payloads -/

section
variable {n m : ℕ} (x : BitVec (n + m))

/-- The two sides of a concatenation. -/
def upper : BitVec n := x.extractLsb' m n
def lower : BitVec m := x.extractLsb' 0 m

end

section
variable {AW DW USR_W : ℕ}

/-- `CMD_PACK_W` and `RSP_PACK_W`. -/
abbrev cmdPackW (AW DW USR_W : ℕ) : ℕ := 1 + AW + DW + DW / 8 + 1 + 1 + 2 + 2 + 2 + USR_W
abbrev rspPackW (DW USR_W : ℕ) : ℕ := 1 + 1 + DW + USR_W

def cmdPack (c : GnrlIcbCmd AW DW USR_W) : BitVec (cmdPackW AW DW USR_W) :=
  c.read ++ c.addr ++ c.wdata ++ c.wmask ++ c.lock ++ c.excl ++ c.size ++ c.burst ++ c.beat ++ c.usr

def cmdUnpack (x : BitVec (cmdPackW AW DW USR_W)) : GnrlIcbCmd AW DW USR_W where
  usr := lower x
  beat := lower (upper x)
  burst := lower (upper (upper x))
  size := lower (upper (upper (upper x)))
  excl := lower (upper (upper (upper (upper x))))
  lock := lower (upper (upper (upper (upper (upper x)))))
  wmask := lower (upper (upper (upper (upper (upper (upper x))))))
  wdata := lower (upper (upper (upper (upper (upper (upper (upper x)))))))
  addr := lower (upper (upper (upper (upper (upper (upper (upper (upper x))))))))
  read := upper (upper (upper (upper (upper (upper (upper (upper (upper x))))))))

def rspPack (r : GnrlIcbRsp DW USR_W) : BitVec (rspPackW DW USR_W) :=
  r.err ++ r.exclOk ++ r.rdata ++ r.usr

def rspUnpack (x : BitVec (rspPackW DW USR_W)) : GnrlIcbRsp DW USR_W where
  usr := lower x
  rdata := lower (upper x)
  exclOk := lower (upper (upper x))
  err := upper (upper (upper x))

end

/-! ## The buffer -/

structure Params where
  cmdCutReady : Bool
  rspCutReady : Bool

structure State (OUTS_CNT_W CMD_DP RSP_DP AW DW USR_W : ℕ) where
  /-- `u_sirv_gnrl_cmd_fifo`. -/
  cmdFifo : Fifo CMD_DP (cmdPackW AW DW USR_W)
  /-- `u_sirv_gnrl_rsp_fifo`. -/
  rspFifo : Fifo RSP_DP (rspPackW DW USR_W)
  /-- The register of `outs_cnt_dfflr`. -/
  outsCntDfflr : BitVec OUTS_CNT_W

structure In (AW DW USR_W : ℕ) where
  iIcbCmdValid : Bool
  iIcbCmd : GnrlIcbCmd AW DW USR_W
  iIcbRspReady : Bool
  oIcbCmdReady : Bool
  oIcbRspValid : Bool
  oIcbRsp : GnrlIcbRsp DW USR_W

section
variable {OUTS_CNT_W CMD_DP RSP_DP AW DW USR_W : ℕ} (P : Params)
  (s : State OUTS_CNT_W CMD_DP RSP_DP AW DW USR_W) (i : In AW DW USR_W)

structure IsReset (s : State OUTS_CNT_W CMD_DP RSP_DP AW DW USR_W) : Prop where
  cmdFifo : FifoDp.IsReset s.cmdFifo
  rspFifo : FifoDp.IsReset s.rspFifo
  outsCnt : s.outsCntDfflr = BitVec.ofNat OUTS_CNT_W 0

/-! Each output depends on the inputs of its own channel only. -/

def iIcbCmdReady (oIcbCmdReady : Bool) : Bool := FifoDp.iRdy P.cmdCutReady s.cmdFifo oIcbCmdReady
def oIcbCmdValid (iIcbCmdValid : Bool) : Bool := FifoDp.oVld s.cmdFifo iIcbCmdValid

def oIcbCmd (iIcbCmd : GnrlIcbCmd AW DW USR_W) : GnrlIcbCmd AW DW USR_W :=
  cmdUnpack (FifoDp.oDat false s.cmdFifo (cmdPack iIcbCmd))

def oIcbRspReady (iIcbRspReady : Bool) : Bool := FifoDp.iRdy P.rspCutReady s.rspFifo iIcbRspReady
def iIcbRspValid (oIcbRspValid : Bool) : Bool := FifoDp.oVld s.rspFifo oIcbRspValid

def iIcbRsp (oIcbRsp : GnrlIcbRsp DW USR_W) : GnrlIcbRsp DW USR_W :=
  rspUnpack (FifoDp.oDat false s.rspFifo (rspPack oIcbRsp))

/-! ### The outstanding count -/

def outsCntInc : Bool := i.iIcbCmdValid && iIcbCmdReady P s i.oIcbCmdReady
def outsCntDec : Bool := iIcbRspValid s i.oIcbRspValid && i.iIcbRspReady
def outsCntEna : Bool := outsCntInc P s i ^^ outsCntDec s i

/-- `wire outs_cnt_r`: the lowest bit of the register. -/
def outsCntR : BitVec 1 := s.outsCntDfflr.setWidth 1

def outsCntNxt : BitVec 1 := if outsCntInc P s i then outsCntR s + 1#1 else outsCntR s - 1#1

/-- `outs_cnt_r == {OUTS_CNT_W{1'b0}}`, compared at the wider width. -/
def outsCntIs0 : Bool := (outsCntR s).setWidth (max 1 OUTS_CNT_W) == BitVec.ofNat (max 1 OUTS_CNT_W) 0

def icbBufferActive : Bool := i.iIcbCmdValid || !outsCntIs0 s

def step (i : In AW DW USR_W) (s : State OUTS_CNT_W CMD_DP RSP_DP AW DW USR_W) :
    State OUTS_CNT_W CMD_DP RSP_DP AW DW USR_W where
  cmdFifo := s.cmdFifo.step P.cmdCutReady i.iIcbCmdValid i.oIcbCmdReady (cmdPack i.iIcbCmd)
  rspFifo := s.rspFifo.step P.rspCutReady i.oIcbRspValid i.iIcbRspReady (rspPack i.oIcbRsp)
  outsCntDfflr := dfflr (outsCntEna P s i) ((outsCntNxt P s i).setWidth OUTS_CNT_W) s.outsCntDfflr

end
end IcbBuffer
end E203
