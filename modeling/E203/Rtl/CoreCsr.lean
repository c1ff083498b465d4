import E203.Rtl.Core
import E203.Rtl.ExuCsr

/-! # The core with its CSR file (`e203_core.v`, `e203_exu_csr.v`, `sirv_debug_csr.v`)

The CSR file answers the execute stage in the same cycle.  What is left outside is the fetch adapter,
the load/store unit, the interrupt lines and the extension CSR interface.

The CSR number does not depend on what is read, so the read port is driven from the wires with a zero
answer (`exuInPre`).  Besides the debug CSRs that the execute stage needs there is `dscratch`.
-/

namespace E203
set_option autoImplicit false

/-- `dcsr_r`; `ebreakm` is replicated for the other modes. -/
def DebugCsr.dcsrR (s : DebugCsr.State) (dbgIrqR : Bool) : BitVec 32 :=
  0b01#2 ++ 0#14 ++ BitVec.fill 4 s.ebreakmR ++ 0#1 ++ 1#1 ++ 0#1 ++ s.dcauseR ++
    BitVec.ofBool dbgIrqR ++ 0#1 ++ BitVec.ofBool s.haltR ++ BitVec.ofBool s.stepR ++ 0b11#2

namespace CoreCsr

structure State where
  core : Core.State
  csr : Csr.State
  dscratchR : BitVec 32

/-- The input ports. -/
structure In extends Exu.FromLsu where
  dbgIrqR : Bool
  extIrqR : Bool
  sftIrqR : Bool
  tmrIrqR : Bool
  coreMhartid : BitVec 1
  eaiCsrReady : Bool
  eaiCsrRdata : BitVec 32
  pcRtvec : BitVec 32
  ifuReqReady : Bool
  ifuRspValid : Bool
  ifuRspErr : Bool
  ifuRspInstr : BitVec 32
deriving DecidableEq

section
variable (s : State) (i : In)

def coreInOf (dat : BitVec 32) : Core.In where
  toFromLsu := i.toFromLsu
  dbgIrqR := i.dbgIrqR
  extIrqR := i.extIrqR
  sftIrqR := i.sftIrqR
  tmrIrqR := i.tmrIrqR
  statusMieR := s.csr.statusMieR
  mtieR := Csr.mtieR s.csr
  msieR := Csr.msieR s.csr
  meieR := Csr.meieR s.csr
  csrMtvecR := s.csr.mtvecR
  csrEpcR := s.csr.epcR
  uMode := false
  sMode := false
  hMode := false
  mMode := true
  mdvNob2b := Csr.mdvNob2b s.csr
  readCsrDat := dat
  eaiCsrReady := i.eaiCsrReady
  eaiCsrRdata := i.eaiCsrRdata
  pcRtvec := i.pcRtvec
  ifuReqReady := i.ifuReqReady
  ifuRspValid := i.ifuRspValid
  ifuRspErr := i.ifuRspErr
  ifuRspInstr := i.ifuRspInstr

def exuInPre : Exu.In := Core.exuIn s.core (coreInOf s i 0#32)

/-- What the CSR file reads besides its own registers. -/
def rd : Csr.Rd where
  csrRdEn := Csrctrl.csrRdEn (Alu.csr (Exu.alu s.core.exu (exuInPre s i)))
  dbgMode := Exu.dbgMode s.core.exu
  coreMhartid := i.coreMhartid
  dcsrR := DebugCsr.dcsrR s.core.exu.dbg i.dbgIrqR
  dpcR := s.core.exu.dbg.dpcR
  dscratchR := s.dscratchR

def readCsrDat : BitVec 32 :=
  Csr.readCsrDat s.csr (Exu.csrIdx s.core.exu (exuInPre s i)) (rd s i)

def coreIn : Core.In := coreInOf s i (readCsrDat s i)

def exuIn : Exu.In := Core.exuIn s.core (coreIn s i)

def csrIn : Csr.In := Exu.csrIn s.core.exu (exuIn s i)

def wrDscratchEna : Bool := Csr.wrDbgEna (csrIn s i) 0x7b2#12

def step : State where
  core := Core.step s.core (coreIn s i)
  csr := Csr.step s.csr (csrIn s i)
  dscratchR := dfflr (wrDscratchEna s i) (csrIn s i).wbckCsrDat s.dscratchR

/-! ## The extension CSR interface -/

def eaiCsrValid : Bool := Exu.eaiCsrValid s.core.exu (exuIn s i)
def eaiCsrAddr : BitVec 32 := (Exu.csrIdx s.core.exu (exuIn s i)).setWidth 32
def eaiCsrWr : Bool := Exu.csrWrEn s.core.exu (exuIn s i)
def eaiCsrWdata : BitVec 32 := (csrIn s i).wbckCsrDat

end

def IsReset (s : State) : Prop :=
  Core.IsReset s.core ∧ s.csr = Csr.State.reset ∧ s.dscratchR = 0#32

def run (inp : ℕ → In) (s : State) (t : ℕ) : State := Lib.stateAt (fun i s => step s i) inp s t

theorem run_core (inp : ℕ → In) (s : State) (t : ℕ) :
    (run inp s t).core = Core.run (fun u => coreIn (run inp s u) (inp u)) s.core t := by
  induction t with
  | zero => rfl
  | succ t ih =>
    change Core.step (run inp s t).core (coreIn (run inp s t) (inp t)) =
      Core.step (Core.run (fun u => coreIn (run inp s u) (inp u)) s.core t) _
    rw [← ih]

end CoreCsr
end E203
