import E203.Rtl.ExuDecode

/-! # The fetch stage (`e203_ifu_litebpu.v`, `e203_ifu_ifetch.v`)

* `Litebpu`: the static branch predictor and the wait conditions of `JALR`.
* `Ifetch.State`: the registers, reset values in `Ifetch.State.reset`.
* `Ifetch.ifuReqValid`, `Ifetch.ifuRspReady`, `Ifetch.pcNxt`, ...: the wires under their source names.
* `Ifetch.step`: one clock edge.

The mini-decoder (`e203_ifu_minidec.v`) is the decoder on the instruction of the response channel.

The fetch interface is the pair of request and response channels of `e203_ifu_ift2icb.v`; the
instruction register is handed to the execute stage through the `ifu_o` signals.
-/

namespace E203
set_option autoImplicit false

/-! ## The static branch predictor -/

namespace Litebpu

/-- The input ports. -/
structure In where
  pc : BitVec 32
  decJal : Bool
  decJalr : Bool
  decBxx : Bool
  decBjpImm : BitVec 32
  decJalrRs1idx : BitVec 5
  oitfEmpty : Bool
  irEmpty : Bool
  irRs1en : Bool
  jalrRs1idxCamIrrdidx : Bool
  decIValid : Bool
  irValidClr : Bool
  rf2bpuX1 : BitVec 32
  rf2bpuRs1 : BitVec 32
deriving DecidableEq

section
variable (i : In)

/-- Jumps always, branches when they go backwards. -/
def prdtTaken : Bool := i.decJal || i.decJalr || (i.decBxx && i.decBjpImm.getLsbD 31)

def decJalrRs1x0 : Bool := i.decJalrRs1idx == 0#5
def decJalrRs1x1 : Bool := i.decJalrRs1idx == 1#5
def decJalrRs1xn : Bool := !decJalrRs1x0 i && !decJalrRs1x1 i

def jalrRs1x1Dep : Bool :=
  i.decIValid && i.decJalr && decJalrRs1x1 i && (!i.oitfEmpty || i.jalrRs1idxCamIrrdidx)

def jalrRs1xnDep : Bool :=
  i.decIValid && i.decJalr && decJalrRs1xn i && (!i.oitfEmpty || !i.irEmpty)

def jalrRs1xnDepIrClr : Bool :=
  (jalrRs1xnDep i && i.oitfEmpty && !i.irEmpty) && (i.irValidClr || !i.irRs1en)

variable (rs1xnRdrfR : Bool)

def rs1xnRdrfSet : Bool :=
  !rs1xnRdrfR && i.decIValid && i.decJalr && decJalrRs1xn i &&
    (!jalrRs1xnDep i || jalrRs1xnDepIrClr i)

def bpu2rfRs1Ena : Bool := rs1xnRdrfSet i rs1xnRdrfR

def bpuWait : Bool := jalrRs1x1Dep i || jalrRs1xnDep i || rs1xnRdrfSet i rs1xnRdrfR

def prdtPcAddOp1 : BitVec 32 :=
  if i.decBxx || i.decJal then i.pc
  else if i.decJalr && decJalrRs1x0 i then 0#32
  else if i.decJalr && decJalrRs1x1 i then i.rf2bpuX1
  else i.rf2bpuRs1

def prdtPcAddOp2 : BitVec 32 := i.decBjpImm

/-- The register `rs1xn_rdrf_r`: the register file was read for a `JALR` in the last cycle. -/
def step : Bool :=
  dfflr (rs1xnRdrfSet i rs1xnRdrfR || rs1xnRdrfR) (rs1xnRdrfSet i rs1xnRdrfR || !rs1xnRdrfR)
    rs1xnRdrfR

end
end Litebpu

/-! ## The fetch stage proper -/

namespace Ifetch

/-- The registers. -/
structure State where
  resetFlagR : Bool
  resetReqR : Bool
  haltAckR : Bool
  dlyFlushR : Bool
  irValidR : Bool
  irPcVldR : Bool
  ifuErrR : Bool
  ifuPrdtTakenR : Bool
  ifuMuldivB2bR : Bool
  ifuIrR : BitVec 32
  irRs1idxR : BitVec 5
  irRs2idxR : BitVec 5
  ifuPcR : BitVec 32
  pcR : BitVec 32
  outFlagR : Bool
  pcNewpendR : Bool
  rs1xnRdrfR : Bool
deriving DecidableEq

def State.reset : State where
  resetFlagR := true
  resetReqR := false
  haltAckR := false
  dlyFlushR := false
  irValidR := false
  irPcVldR := false
  ifuErrR := false
  ifuPrdtTakenR := false
  ifuMuldivB2bR := false
  ifuIrR := 0#32
  irRs1idxR := 0#5
  irRs2idxR := 0#5
  ifuPcR := 0#32
  pcR := 0#32
  outFlagR := false
  pcNewpendR := false
  rs1xnRdrfR := false

/-- What the execute stage tells the fetch stage about the register file and the instruction in the
IR. -/
structure FromExu where
  oitfEmpty : Bool
  rf2ifuX1 : BitVec 32
  rf2ifuRs1 : BitVec 32
  dec2ifuRs1en : Bool
  dec2ifuRden : Bool
  dec2ifuRdidx : BitVec 5
  dec2ifuMulhsu : Bool
  dec2ifuDiv : Bool
  dec2ifuRem : Bool
  dec2ifuDivu : Bool
  dec2ifuRemu : Bool
deriving DecidableEq

/-- The input ports. -/
structure In extends FromExu where
  pcRtvec : BitVec 32
  ifuReqReady : Bool
  ifuRspValid : Bool
  ifuRspErr : Bool
  ifuRspInstr : BitVec 32
  ifuOReady : Bool
  pipeFlushReq : Bool
  pipeFlushPc : BitVec 32
  ifuHaltReq : Bool
deriving DecidableEq

section
variable (s : State) (i : In)

/-! ### Flush and IR flags that need no request -/

/-- Flushes are always accepted. -/
def pipeFlushAck : Bool := true
def pipeFlushHsked : Bool := i.pipeFlushReq && pipeFlushAck
def pipeFlushReqReal : Bool := i.pipeFlushReq || s.dlyFlushR
def ifuIrOHsked : Bool := s.irValidR && i.ifuOReady
def irValidClr : Bool := ifuIrOHsked s i || (pipeFlushHsked i && s.irValidR)
def irPcVldClr : Bool := irValidClr s i
def ifuIrIReady : Bool := !s.irValidR || irValidClr s i

/-! ### Prediction and next PC -/

def irEmpty : Bool := !s.irValidR

def jalrRs1idxCamIrrdidx : Bool :=
  i.dec2ifuRden && Decode.decJalrRs1idx i.ifuRspInstr == i.dec2ifuRdidx && s.irValidR

def bpu : Litebpu.In where
  pc := s.pcR
  decJal := Decode.decJal i.ifuRspInstr
  decJalr := Decode.decJalr i.ifuRspInstr
  decBxx := Decode.decBxx i.ifuRspInstr
  decBjpImm := Decode.decBjpImm i.ifuRspInstr
  decJalrRs1idx := Decode.decJalrRs1idx i.ifuRspInstr
  oitfEmpty := i.oitfEmpty
  irEmpty := irEmpty s
  irRs1en := i.dec2ifuRs1en
  jalrRs1idxCamIrrdidx := jalrRs1idxCamIrrdidx s i
  decIValid := i.ifuRspValid
  irValidClr := irValidClr s i
  rf2bpuX1 := i.rf2ifuX1
  rf2bpuRs1 := i.rf2ifuRs1

def prdtTaken : Bool := Litebpu.prdtTaken (bpu s i)
def bpuWait : Bool := Litebpu.bpuWait (bpu s i) s.rs1xnRdrfR
def bpu2rfRs1Ena : Bool := Litebpu.bpu2rfRs1Ena (bpu s i) s.rs1xnRdrfR

def pcIncrOfst : BitVec 32 := if Decode.decRv32 i.ifuRspInstr then 4#32 else 2#32
def bjpReq : Bool := Decode.decBjp i.ifuRspInstr && prdtTaken s i

/-- There is no replay. -/
def ifetchReplayReq : Bool := false
def ifuRspNeedReplay : Bool := false

def ifuResetReq : Bool := s.resetReqR

def pcAddOp1 : BitVec 32 :=
  if ifetchReplayReq then s.pcR
  else if bjpReq s i then Litebpu.prdtPcAddOp1 (bpu s i)
  else if ifuResetReq s then i.pcRtvec
  else s.pcR

def pcAddOp2 : BitVec 32 :=
  if ifetchReplayReq then 0#32
  else if bjpReq s i then Litebpu.prdtPcAddOp2 (bpu s i)
  else if ifuResetReq s then 0#32
  else pcIncrOfst i

def pcNxtPre : BitVec 32 := pcAddOp1 s i + pcAddOp2 s i

/-- `{x[31:1], 1'b0}`. -/
def halfAlign (x : BitVec 32) : BitVec 32 := x.extractLsb' 1 31 ++ 0#1

def pcNxt : BitVec 32 :=
  if i.pipeFlushReq then halfAlign i.pipeFlushPc
  else if s.dlyFlushR then halfAlign s.pcR
  else halfAlign (pcNxtPre s i)

def ifuReqSeq : Bool :=
  !pipeFlushReqReal s i && !ifuResetReq s && !ifetchReplayReq && !bjpReq s i

def ifuReqSeqRv32 : Bool := Decode.decRv32 i.ifuRspInstr
def ifuReqLastPc : BitVec 32 := s.pcR
def ifuReqPc : BitVec 32 := pcNxt s i

/-! ### The request and response handshakes -/

def ifuNewReq : Bool := !bpuWait s i && !i.ifuHaltReq && !s.resetFlagR && !ifuRspNeedReplay

def ifuReqValidPre : Bool :=
  ifuNewReq s i || ifuResetReq s || pipeFlushReqReal s i || ifetchReplayReq

def ifuRsp2irReady : Bool :=
  if pipeFlushReqReal s i then true else ifuIrIReady s i && i.ifuReqReady && !bpuWait s i

def ifuRspReady : Bool := ifuRsp2irReady s i
def ifuRspHsked : Bool := i.ifuRspValid && ifuRspReady s i
def outFlagClr : Bool := ifuRspHsked s i
def newReqCondi : Bool := !s.outFlagR || outFlagClr s i

/-- No outstanding request, or its response is there; in the WFI case it cannot be expected to be
handshaked. -/
def ifuNoOuts : Bool := !s.outFlagR || i.ifuRspValid

def ifuReqValid : Bool := ifuReqValidPre s i && newReqCondi s i
def ifuReqHsked : Bool := ifuReqValid s i && i.ifuReqReady

def pcEna : Bool := ifuReqHsked s i || pipeFlushHsked i

/-! ### Set conditions of the flags -/

def resetReqSet : Bool := !s.resetReqR && s.resetFlagR
def resetReqClr : Bool := s.resetReqR && ifuReqHsked s i
def haltAckSet : Bool := i.ifuHaltReq && !s.haltAckR && ifuNoOuts s i
def haltAckClr : Bool := s.haltAckR && !i.ifuHaltReq
def dlyFlushSet : Bool := i.pipeFlushReq && !ifuReqHsked s i
def dlyFlushClr : Bool := s.dlyFlushR && ifuReqHsked s i

def irValidSet : Bool := ifuRspHsked s i && !pipeFlushReqReal s i && !ifuRspNeedReplay
def irPcVldSet : Bool :=
  s.pcNewpendR && ifuIrIReady s i && !pipeFlushReqReal s i && !ifuRspNeedReplay

def irHiEna : Bool := irValidSet s i && Decode.decRv32 i.ifuRspInstr
def irRs1idxEna : Bool :=
  (irValidSet s i && Decode.decRs1en i.ifuRspInstr) || bpu2rfRs1Ena s i
def irRs2idxEna : Bool := irValidSet s i && Decode.decRs2en i.ifuRspInstr

/-- The instruction on the response channel may be fused with the one in the IR. -/
def ifuMuldivB2bNxt : Bool :=
  ((Decode.decMul i.ifuRspInstr && i.dec2ifuMulhsu) ||
      (Decode.decDiv i.ifuRspInstr && i.dec2ifuRem) ||
      (Decode.decRem i.ifuRspInstr && i.dec2ifuDiv) ||
      (Decode.decDivu i.ifuRspInstr && i.dec2ifuRemu) ||
      (Decode.decRemu i.ifuRspInstr && i.dec2ifuDivu)) &&
    s.irRs1idxR == Decode.decRs1idx i.ifuRspInstr &&
    s.irRs2idxR == Decode.decRs2idx i.ifuRspInstr &&
    !(s.irRs1idxR == i.dec2ifuRdidx) && !(s.irRs2idxR == i.dec2ifuRdidx)

/-! ### The clock edge -/

def step : State where
  resetFlagR := false
  resetReqR :=
    dfflr (resetReqSet s || resetReqClr s i) (resetReqSet s || !resetReqClr s i) s.resetReqR
  haltAckR :=
    dfflr (haltAckSet s i || haltAckClr s i) (haltAckSet s i || !haltAckClr s i) s.haltAckR
  dlyFlushR :=
    dfflr (dlyFlushSet s i || dlyFlushClr s i) (dlyFlushSet s i || !dlyFlushClr s i) s.dlyFlushR
  irValidR :=
    dfflr (irValidSet s i || irValidClr s i) (irValidSet s i || !irValidClr s i) s.irValidR
  irPcVldR :=
    dfflr (irPcVldSet s i || irPcVldClr s i) (irPcVldSet s i || !irPcVldClr s i) s.irPcVldR
  ifuErrR := dfflr (irValidSet s i) i.ifuRspErr s.ifuErrR
  ifuPrdtTakenR := dfflr (irValidSet s i) (prdtTaken s i) s.ifuPrdtTakenR
  ifuMuldivB2bR := dfflr (irValidSet s i) (ifuMuldivB2bNxt s i) s.ifuMuldivB2bR
  ifuIrR :=
    dfflr (irHiEna s i) (i.ifuRspInstr.extractLsb' 16 16) (s.ifuIrR.extractLsb' 16 16) ++
      dfflr (irValidSet s i) (i.ifuRspInstr.extractLsb' 0 16) (s.ifuIrR.extractLsb' 0 16)
  irRs1idxR := dfflr (irRs1idxEna s i) (Decode.decRs1idx i.ifuRspInstr) s.irRs1idxR
  irRs2idxR := dfflr (irRs2idxEna s i) (Decode.decRs2idx i.ifuRspInstr) s.irRs2idxR
  ifuPcR := dfflr (irPcVldSet s i) s.pcR s.ifuPcR
  pcR := dfflr (pcEna s i) (pcNxt s i) s.pcR
  outFlagR :=
    dfflr (ifuReqHsked s i || ifuRspHsked s i) (ifuReqHsked s i || !ifuRspHsked s i) s.outFlagR
  pcNewpendR := dfflr (pcEna s i || irPcVldSet s i) (pcEna s i || !irPcVldSet s i) s.pcNewpendR
  rs1xnRdrfR := Litebpu.step (bpu s i) s.rs1xnRdrfR

end

/-- `ifu_o_misalgn`: never with 16-bit instructions. -/
def ifuOMisalgn : Bool := false

end Ifetch
end E203
