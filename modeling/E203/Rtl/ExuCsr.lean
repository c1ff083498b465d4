import E203.Rtl.Exu

/-! # The CSR file (`e203_exu_csr.v`)

The machine-mode CSRs.  The debug CSRs are a module of their own (`sirv_debug_csr.v`); their write
enables are generated here and their contents only read.

* `Csr.State`: the registers; `Csr.step`: one clock edge.
* `Csr.readCsrDat`: the read port of the CSR instructions.
* `Exu.csrIn`: the ports as the execute stage drives them.
-/

namespace E203
set_option autoImplicit false

namespace Csr

structure State where
  statusMieR : Bool
  statusMpieR : Bool
  mieR : BitVec 32
  meipR : Bool
  msipR : Bool
  mtipR : Bool
  mtvecR : BitVec 32
  mscratchR : BitVec 32
  mcycleR : BitVec 32
  mcyclehR : BitVec 32
  minstretR : BitVec 32
  minstrethR : BitVec 32
  counterstopR : BitVec 32
  itcmnoholdR : BitVec 32
  mdvnob2bR : BitVec 32
  mcgstopR : BitVec 32
  epcR : BitVec 32
  causeR : BitVec 32
  badaddrR : BitVec 32
deriving DecidableEq

def State.reset : State where
  statusMieR := false
  statusMpieR := false
  mieR := 0#32
  meipR := false
  msipR := false
  mtipR := false
  mtvecR := 0#32
  mscratchR := 0#32
  mcycleR := 0#32
  mcyclehR := 0#32
  minstretR := 0#32
  minstrethR := 0#32
  counterstopR := 0#32
  itcmnoholdR := 0#32
  mdvnob2bR := 0#32
  mcgstopR := 0#32
  epcR := 0#32
  causeR := 0#32
  badaddrR := 0#32

/-- The input ports of the write side. -/
structure In where
  csrEna : Bool
  csrWrEn : Bool
  csrIdx : BitVec 12
  wbckCsrDat : BitVec 32
  extIrqR : Bool
  sftIrqR : Bool
  tmrIrqR : Bool
  dbgMode : Bool
  dbgStopcycle : Bool
  cmtBadaddr : BitVec 32
  cmtBadaddrEna : Bool
  cmtEpc : BitVec 32
  cmtEpcEna : Bool
  cmtCause : BitVec 32
  cmtCauseEna : Bool
  cmtStatusEna : Bool
  cmtInstretEna : Bool
  cmtMretEna : Bool
deriving DecidableEq

section
variable (s : State) (i : In)

/-- `csr_access_ilgl` is constant zero. -/
def wbckCsrWen : Bool := i.csrWrEn && i.csrEna

/-- The write enable of the CSR with number `idx`. -/
def wrEna (idx : BitVec 12) : Bool := (i.csrIdx == idx && i.csrWrEn) && wbckCsrWen i

/-! ## `mstatus` -/

def statusMpieEna : Bool := wrEna i 0x300#12 || i.cmtMretEna || i.cmtStatusEna

/-- A trap saves the enable, a return sets the saved one. -/
def statusMpieNxt : Bool :=
  if i.cmtStatusEna then s.statusMieR
  else if i.cmtMretEna then true
  else if wrEna i 0x300#12 then i.wbckCsrDat.getLsbD 7
  else s.statusMpieR

/-- A trap disables the interrupts, a return restores the saved enable. -/
def statusMieNxt : Bool :=
  if i.cmtStatusEna then false
  else if i.cmtMretEna then s.statusMpieR
  else if wrEna i 0x300#12 then i.wbckCsrDat.getLsbD 3
  else s.statusMieR

/-- The unimplemented extension states read as zero, the previous mode is always machine mode. -/
def statusR : BitVec 32 :=
  0#19 ++ 0b11#2 ++ 0#3 ++ BitVec.ofBool s.statusMpieR ++ 0#3 ++ BitVec.ofBool s.statusMieR ++ 0#3

/-! ## Interrupt enables and pending bits -/

/-- The three machine-level bits of `mie` and `mip`. -/
def irqBits (ext tmr sft : Bool) : BitVec 32 :=
  0#20 ++ BitVec.ofBool ext ++ 0#3 ++ BitVec.ofBool tmr ++ 0#3 ++ BitVec.ofBool sft ++ 0#3

def mieNxt : BitVec 32 :=
  irqBits (i.wbckCsrDat.getLsbD 11) (i.wbckCsrDat.getLsbD 7) (i.wbckCsrDat.getLsbD 3)

def meieR : Bool := s.mieR.getLsbD 11
def mtieR : Bool := s.mieR.getLsbD 7
def msieR : Bool := s.mieR.getLsbD 3

def ipR : BitVec 32 := irqBits s.meipR s.mtipR s.msipR

/-! ## Counters -/

def cyStop : Bool := s.counterstopR.getLsbD 0
def tmStop : Bool := s.counterstopR.getLsbD 1
def irStop : Bool := s.counterstopR.getLsbD 2
def itcmNohold : Bool := s.itcmnoholdR.getLsbD 0
def mdvNob2b : Bool := s.mdvnob2bR.getLsbD 0
def coreCgstop : Bool := s.mcgstopR.getLsbD 0
def tcmCgstop : Bool := s.mcgstopR.getLsbD 1

def stopCycleInDbg : Bool := i.dbgStopcycle && i.dbgMode

def mcycleEna : Bool := wrEna i 0xB00#12 || (!cyStop s && !stopCycleInDbg i && true)
def mcyclehEna : Bool :=
  wrEna i 0xB80#12 || (!cyStop s && !stopCycleInDbg i && s.mcycleR == BitVec.allOnes 32)
def minstretEna : Bool := wrEna i 0xB02#12 || (!irStop s && !stopCycleInDbg i && i.cmtInstretEna)
def minstrethEna : Bool :=
  wrEna i 0xB82#12 ||
    (!irStop s && !stopCycleInDbg i && (i.cmtInstretEna && s.minstretR == BitVec.allOnes 32))

/-- A counter is written or counts. -/
def counterNxt (wr : Bool) (q : BitVec 32) : BitVec 32 := if wr then i.wbckCsrDat else q + 1#32

/-! ## Trap registers -/

def epcEna : Bool := wrEna i 0x341#12 || i.cmtEpcEna
def epcNxt : BitVec 32 :=
  (if i.cmtEpcEna then i.cmtEpc.extractLsb' 1 31 else i.wbckCsrDat.extractLsb' 1 31) ++ 0#1

def causeEna : Bool := wrEna i 0x342#12 || i.cmtCauseEna
def causeNxt : BitVec 32 :=
  (if i.cmtCauseEna then i.cmtCause.extractLsb' 31 1 else i.wbckCsrDat.extractLsb' 31 1) ++ 0#27 ++
    (if i.cmtCauseEna then i.cmtCause.extractLsb' 0 4 else i.wbckCsrDat.extractLsb' 0 4)

def badaddrEna : Bool := wrEna i 0x343#12 || i.cmtBadaddrEna
def badaddrNxt : BitVec 32 := if i.cmtBadaddrEna then i.cmtBadaddr else i.wbckCsrDat

/-! ## The debug CSRs: 0x7b0 is `dcsr`, 0x7b1 `dpc`, 0x7b2 `dscratch` -/

/-- The write enable of the debug CSR with number `idx`; it does not wait for the commit. -/
def wrDbgEna (idx : BitVec 12) : Bool := i.dbgMode && i.csrWrEn && i.csrIdx == idx

/-! ## The clock edge -/

def step : State where
  statusMieR := dfflr (statusMpieEna i) (statusMieNxt s i) s.statusMieR
  statusMpieR := dfflr (statusMpieEna i) (statusMpieNxt s i) s.statusMpieR
  mieR := dfflr (wrEna i 0x304#12) (mieNxt i) s.mieR
  meipR := i.extIrqR
  msipR := i.sftIrqR
  mtipR := i.tmrIrqR
  mtvecR := dfflr (wrEna i 0x305#12) i.wbckCsrDat s.mtvecR
  mscratchR := dfflr (wrEna i 0x340#12) i.wbckCsrDat s.mscratchR
  mcycleR := dfflr (mcycleEna s i) (counterNxt i (wrEna i 0xB00#12) s.mcycleR) s.mcycleR
  mcyclehR := dfflr (mcyclehEna s i) (counterNxt i (wrEna i 0xB80#12) s.mcyclehR) s.mcyclehR
  minstretR := dfflr (minstretEna s i) (counterNxt i (wrEna i 0xB02#12) s.minstretR) s.minstretR
  minstrethR :=
    dfflr (minstrethEna s i) (counterNxt i (wrEna i 0xB82#12) s.minstrethR) s.minstrethR
  counterstopR := dfflr (wrEna i 0xBFF#12) (0#29 ++ i.wbckCsrDat.extractLsb' 0 3) s.counterstopR
  itcmnoholdR := dfflr (wrEna i 0xBFD#12) (0#31 ++ i.wbckCsrDat.extractLsb' 0 1) s.itcmnoholdR
  mdvnob2bR := dfflr (wrEna i 0xBF0#12) (0#31 ++ i.wbckCsrDat.extractLsb' 0 1) s.mdvnob2bR
  mcgstopR := dfflr (wrEna i 0xBFE#12) (0#30 ++ i.wbckCsrDat.extractLsb' 0 2) s.mcgstopR
  epcR := dfflr (epcEna i) (epcNxt i) s.epcR
  causeR := dfflr (causeEna i) (causeNxt i) s.causeR
  badaddrR := dfflr (badaddrEna i) (badaddrNxt i) s.badaddrR

end

/-! ## The read port -/

/-- `misa`: RV32IMAC. -/
def csrMisa : BitVec 32 := 0x40001105#32

/-- What is read besides the registers of the file. -/
structure Rd where
  csrRdEn : Bool
  dbgMode : Bool
  coreMhartid : BitVec 1
  dcsrR : BitVec 32
  dpcR : BitVec 32
  dscratchR : BitVec 32
deriving DecidableEq

/-- `read_csr_dat`; vendor, architecture and implementation read as zero. -/
def readCsrDat (s : State) (idx : BitVec 12) (r : Rd) : BitVec 32 :=
  let rd (n : BitVec 12) (q : BitVec 32) : BitVec 32 := gate (r.csrRdEn && idx == n) q
  rd 0x300 (statusR s) ||| rd 0x304 s.mieR ||| rd 0x305 s.mtvecR ||| rd 0x341 s.epcR |||
    rd 0x340 s.mscratchR ||| rd 0x342 s.causeR ||| rd 0x343 s.badaddrR ||| rd 0x344 (ipR s) |||
    rd 0x301 csrMisa ||| rd 0xF11 0#32 ||| rd 0xF12 0#32 ||| rd 0xF13 0#32 |||
    rd 0xF14 (0#31 ++ r.coreMhartid) ||| rd 0xB00 s.mcycleR ||| rd 0xB80 s.mcyclehR |||
    rd 0xB02 s.minstretR ||| rd 0xB82 s.minstrethR ||| rd 0xBFF s.counterstopR |||
    rd 0xBFE s.mcgstopR ||| rd 0xBFD s.itcmnoholdR ||| rd 0xBF0 s.mdvnob2bR |||
    gate r.dbgMode (rd 0x7b0 r.dcsrR) ||| gate r.dbgMode (rd 0x7b1 r.dpcR) |||
    gate r.dbgMode (rd 0x7b2 r.dscratchR)

end Csr

/-! ## The ports in the execute stage -/

namespace Exu
section
variable (s : State) (i : In)

def csrEna : Bool := Csrctrl.csrEna (Alu.csr (alu s i)) (Alu.csrOp (alu s i) && aluOReady s i)
def eaiCsrValid : Bool :=
  Csrctrl.eaiCsrValid (Alu.csr (alu s i)) (Alu.csrOp (alu s i) && aluOReady s i)
def excpirqFlushReq : Bool := Commit.excpirqFlushReq s.excp (cmtCtl s i) (aluCmt s i) (aluCmtValid s i)
def cmtMretEna : Bool := Commit.cmtMretEna s.excp (cmtCtl s i) (aluCmt s i) (aluCmtValid s i)
def cmtDretEna : Bool := Commit.cmtDretEna s.excp (cmtCtl s i) (aluCmt s i) (aluCmtValid s i)

/-- What the execute stage drives; the debug module stops the counters in debug mode. -/
def csrIn : Csr.In where
  csrEna := csrEna s i
  csrWrEn := csrWrEn s i
  csrIdx := csrIdx s i
  wbckCsrDat := Csrctrl.wbckCsrDat (Alu.csr (alu s i))
  extIrqR := i.extIrqR
  sftIrqR := i.sftIrqR
  tmrIrqR := i.tmrIrqR
  dbgMode := dbgMode s
  dbgStopcycle := true
  cmtBadaddr := Excp.cmtBadaddr s.excp (cmtCtl s i).toCtl (aluCmt s i).toAlu (aluCmtValid s i)
  cmtBadaddrEna :=
    Excp.cmtBadaddrEna s.excp (cmtCtl s i).toCtl (aluCmt s i).toAlu pipeFlushAck (aluCmtValid s i)
  cmtEpc := Excp.cmtEpc (cmtCtl s i).toCtl (aluCmt s i).toAlu
  cmtEpcEna :=
    Excp.cmtEpcEna s.excp (cmtCtl s i).toCtl (aluCmt s i).toAlu pipeFlushAck (aluCmtValid s i)
  cmtCause :=
    Excp.cmtCause s.excp (cmtCtl s i).toCtl (aluCmt s i).toAlu pipeFlushAck (aluCmtValid s i)
  cmtCauseEna :=
    Excp.cmtCauseEna s.excp (cmtCtl s i).toCtl (aluCmt s i).toAlu pipeFlushAck (aluCmtValid s i)
  cmtStatusEna :=
    Excp.cmtStatusEna s.excp (cmtCtl s i).toCtl (aluCmt s i).toAlu pipeFlushAck (aluCmtValid s i)
  cmtInstretEna := Commit.cmtInstretEna s.excp (cmtCtl s i) (aluCmt s i) (aluCmtValid s i)
  cmtMretEna := cmtMretEna s i

end
end Exu
end E203
