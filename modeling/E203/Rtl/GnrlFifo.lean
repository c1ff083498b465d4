import E203.Rtl.GnrlBufs

/-! # The FIFO and the bypass buffer of any depth (`sirv_gnrl_bufs.v`)

* `Fifo`: `sirv_gnrl_fifo` with `DP` at least 1, for each `CUT_READY` and `MSKO`.
* `FifoBypbuf`: `sirv_gnrl_bypbuf` with `DP` at least 1.
* `RspidFifo`: `u_sirv_gnrl_rspid_fifo` of the bus modules, a stage or a FIFO.
-/

namespace E203
set_option autoImplicit false

structure Fifo (DP DW : ℕ) where
  rptrVecR : BitVec DP
  wptrVecR : BitVec DP
  vecR : BitVec (DP + 1)
  fifoRfR : Fin DP → BitVec DW

namespace Fifo
section
variable {DP DW : ℕ}

/-- After reset: bit 0 of each vector is set (`dfflrs`), the others are not; the words have no reset. -/
structure IsReset (s : Fifo DP DW) : Prop where
  rptr : s.rptrVecR = BitVec.ofNat DP 1
  wptr : s.wptrVecR = BitVec.ofNat DP 1
  vec : s.vecR = BitVec.ofNat (DP + 1) 1

/-- `rptr_vec_nxt` and `wptr_vec_nxt`. -/
def ptrVecNxt (v : BitVec DP) : BitVec DP :=
  if DP = 1 then BitVec.ofNat DP 1
  else if v.getLsbD (DP - 1) then BitVec.ofNat DP 1
  else v <<< 1

variable (cutReady msko : Bool) (s : Fifo DP DW) (iVld oRdy : Bool) (iDat : BitVec DW)

/-- `i_vec` and `o_vec` are both `{1'b0, vec_r[DP:1]}`. -/
def iVec : BitVec (DP + 1) := s.vecR >>> 1
def oVec : BitVec (DP + 1) := s.vecR >>> 1

def oVld : Bool := s.oVec.getLsbD 0
def ren : Bool := s.oVld && oRdy

/-- `CUT_READY` matters for a single entry only: without it, one that pops accepts. -/
def iRdy : Bool :=
  if DP = 1 then
    if cutReady then !s.iVec.getLsbD (DP - 1) else !s.iVec.getLsbD (DP - 1) || s.ren oRdy
  else !s.iVec.getLsbD (DP - 1)

def wen : Bool := iVld && s.iRdy cutReady oRdy

def vecEn : Bool := s.ren oRdy ^^ s.wen cutReady iVld oRdy

def vecNxt : BitVec (DP + 1) :=
  if s.wen cutReady iVld oRdy then s.vecR.setWidth DP ++ 1#1 else s.vecR >>> 1

def fifoRfEn (i : Fin DP) : Bool := s.wen cutReady iVld oRdy && s.wptrVecR.getLsbD i

def muxRdat : BitVec DW :=
  (List.finRange DP).foldl (fun acc (j : Fin DP) => acc ||| gate (s.rptrVecR.getLsbD j) (s.fifoRfR j))
    (BitVec.ofNat DW 0)

def oDat : BitVec DW := if msko then gate s.oVld s.muxRdat else s.muxRdat

def step : Fifo DP DW where
  rptrVecR := dfflr (s.ren oRdy) (ptrVecNxt s.rptrVecR) s.rptrVecR
  wptrVecR := dfflr (s.wen cutReady iVld oRdy) (ptrVecNxt s.wptrVecR) s.wptrVecR
  vecR := dfflr (s.vecEn cutReady iVld oRdy) (s.vecNxt cutReady iVld oRdy) s.vecR
  fifoRfR i := dfflr (s.fifoRfEn cutReady iVld oRdy i) iDat (s.fifoRfR i)

end
end Fifo

/-! ## The bypass buffer -/

/-- `u_bypbuf_fifo`. -/
structure FifoBypbuf (DP DW : ℕ) where
  fifo : Fifo DP DW

namespace FifoBypbuf
section
variable {DP DW : ℕ} (b : FifoBypbuf DP DW) (iVld oRdy : Bool) (iDat : BitVec DW)

/-- `CUT_READY` is 1, so the ready output of the FIFO ignores its ready input. -/
def iRdy : Bool := b.fifo.iRdy true oRdy

/-- The FIFO is bypassed when it is empty and `o_rdy` is high. -/
def byp : Bool := iVld && oRdy && !b.fifo.oVld

def fifoIVld : Bool := iVld && !b.byp iVld oRdy
def oVld : Bool := b.fifo.oVld || iVld

/-- The FIFO goes first. -/
def oDat : BitVec DW := if b.fifo.oVld then b.fifo.oDat false else iDat

def step : FifoBypbuf DP DW where
  fifo := b.fifo.step true (b.fifoIVld iVld oRdy) oRdy iDat

end
end FifoBypbuf

/-! ## The identifiers of the outstanding commands -/

/-- A pipeline stage with `FIFO_OUTS_NUM` 1, otherwise a FIFO. -/
inductive RspidFifo (OUTS W : ℕ)
  | dp1 (s : PipeStage (BitVec W))
  | dpGt1 (s : Fifo OUTS W)

namespace RspidFifo
section
variable {OUTS W : ℕ}

def IsReset : RspidFifo OUTS W → Prop
  | dp1 s => OUTS = 1 ∧ s.vldR = false
  | dpGt1 s => 1 < OUTS ∧ s.IsReset

variable (cutReady iVld oRdy : Bool) (iDat : BitVec W)

def oVld : RspidFifo OUTS W → Bool
  | dp1 s => s.oVld
  | dpGt1 s => s.oVld

def oDat : RspidFifo OUTS W → BitVec W
  | dp1 s => s.oDat
  | dpGt1 s => s.oDat false

def iRdy : RspidFifo OUTS W → Bool
  | dp1 s => s.iRdy cutReady oRdy
  | dpGt1 s => s.iRdy cutReady oRdy

def step : RspidFifo OUTS W → RspidFifo OUTS W
  | dp1 s => dp1 (s.step cutReady iVld oRdy iDat)
  | dpGt1 s => dpGt1 (s.step cutReady iVld oRdy iDat)

end
end RspidFifo
end E203
