import E203.Rtl.Defines

/-! # Buffers of one entry (`sirv_gnrl_bufs.v`)

* `PipeStage`: `sirv_gnrl_pipe_stage`.
* `GnrlFifo`: `sirv_gnrl_fifo`.
* `Bypbuf`: `sirv_gnrl_bypbuf`, a FIFO that is bypassed while it is empty.
-/

namespace E203
set_option autoImplicit false

/-! ## The pipeline stage -/

/-- `sirv_gnrl_pipe_stage` with `DP` 1. -/
structure PipeStage (α : Type*) where
  vldR : Bool
  datR : α
deriving DecidableEq

namespace PipeStage
section
variable {α : Type*} (cutReady : Bool) (s : PipeStage α) (iVld oRdy : Bool) (iDat : α)

def oVld : Bool := s.vldR
def oDat : α := s.datR
def vldClr : Bool := s.oVld && oRdy

/-- Without `CUT_READY` the stage also accepts when it is popping. -/
def iRdy : Bool := if cutReady then !s.vldR else !s.vldR || s.vldClr oRdy

def vldSet : Bool := iVld && s.iRdy cutReady oRdy

def step : PipeStage α where
  vldR :=
    dfflr (s.vldSet cutReady iVld oRdy || s.vldClr oRdy)
      (s.vldSet cutReady iVld oRdy || !s.vldClr oRdy) s.vldR
  datR := dfflr (s.vldSet cutReady iVld oRdy) iDat s.datR

end
end PipeStage

/-! ## The FIFO -/

/-- `sirv_gnrl_fifo` with `DP` 1 and `CUT_READY`. -/
structure GnrlFifo (α : Type*) where
  vld : Bool
  dat : α
deriving DecidableEq

namespace GnrlFifo
section
variable {α : Type*} (b : GnrlFifo α) (iVld oRdy : Bool) (iDat : α)

def iRdy : Bool := !b.vld
def oVld : Bool := b.vld
def oDat : α := b.dat
def wen : Bool := iVld && b.iRdy
def ren : Bool := b.oVld && oRdy

def step : GnrlFifo α where
  vld := dfflr (b.ren oRdy ^^ b.wen iVld) (b.wen iVld) b.vld
  dat := dfflr (b.wen iVld) iDat b.dat

end
end GnrlFifo

/-! ## The bypass buffer -/

/-- `sirv_gnrl_bypbuf` with `DP` 1; the FIFO inside cuts the ready signal. -/
structure Bypbuf (α : Type*) where
  vld : Bool
  dat : α
deriving DecidableEq

namespace Bypbuf
section
variable {α : Type*} (b : Bypbuf α) (iVld oRdy : Bool) (iDat : α)

def iRdy : Bool := !b.vld
def oVld : Bool := b.vld || iVld
def oDat : α := if b.vld then b.dat else iDat

/-- The FIFO is bypassed when it is empty and the output is ready. -/
def byp : Bool := iVld && oRdy && !b.vld
def wen : Bool := (iVld && !b.byp iVld oRdy) && b.iRdy
def ren : Bool := b.vld && oRdy

def step : Bypbuf α where
  vld := dfflr (b.ren oRdy ^^ b.wen iVld oRdy) (b.wen iVld oRdy) b.vld
  dat := dfflr (b.wen iVld oRdy) iDat b.dat

end
end Bypbuf
end E203
