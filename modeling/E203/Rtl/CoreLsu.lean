import E203.Rtl.Core
import E203.Rtl.LsuCtrl

/-! # The core with its load/store unit (`e203_core.v`, `e203_lsu.v`, `e203_clk_ctrl.v`)

What is left outside is the three targets of the load/store unit, the fetch adapter and the CSR file.

The ready bit that the load/store unit gives the address-generation unit depends on the response it
is answering and not on the command, so the wires it reads are those of the execute stage with that
bit at zero (`exuInPre`).

The registers of the unit see the clock edges that its gate passes (`lsuClkEn`).
-/

namespace E203

def Exu.aguCmd (s : State) (i : In) : LsuCtrl.Cmd where
  valid := aguIcbCmdValid s i
  addr := Lsuagu.aguIcbCmdAddr (Alu.dpathRes s.alu (alu s i))
  read := Lsuagu.aguIcbCmdRead s.alu.agu (Alu.agu s.alu (alu s i)) (Alu.dpathRes s.alu (alu s i))
  wdata := Lsuagu.aguIcbCmdWdata s.alu.agu (Alu.agu s.alu (alu s i))
  wmask := Lsuagu.aguIcbCmdWmask s.alu.agu (Alu.agu s.alu (alu s i)) (Alu.dpathRes s.alu (alu s i))
  lock := Lsuagu.aguIcbCmdLock s.alu.agu (Alu.agu s.alu (alu s i)) (Alu.dpathRes s.alu (alu s i))
  excl := Lsuagu.aguIcbCmdExcl (Alu.agu s.alu (alu s i))
  size := Lsuagu.aguISize (Alu.agu s.alu (alu s i))
  back2agu :=
    Lsuagu.aguIcbCmdBack2agu s.alu.agu (Alu.agu s.alu (alu s i)) (Alu.dpathRes s.alu (alu s i))
  usign := Lsuagu.aguIUsign (Alu.agu s.alu (alu s i))
  itag := Lsuagu.aguIcbCmdItag (Alu.agu s.alu (alu s i))

/-- `commit_trap` and `commit_mret`. -/
def Exu.commitTrap (s : State) (i : In) : Bool :=
  Excp.excpirqTakenEna s.excp (cmtCtl s i).toCtl (aluCmt s i).toAlu pipeFlushAck (aluCmtValid s i)

def Exu.commitMret (s : State) (i : In) : Bool :=
  Commit.cmtMretEna s.excp (cmtCtl s i) (aluCmt s i) (aluCmtValid s i)

namespace CoreLsu
set_option autoImplicit false

structure State where
  core : Core.State
  lsu : LsuCtrl.State

/-- The input ports. -/
structure In extends LsuCtrl.Bus, Exu.FromCsr where
  pcRtvec : BitVec 32
  ifuReqReady : Bool
  ifuRspValid : Bool
  ifuRspErr : Bool
  ifuRspInstr : BitVec 32
  /-- Clock gating is off (a bit of `mcgstop`). -/
  coreCgstop : Bool
deriving DecidableEq

section
variable (s : State) (i : In)

def coreInOf (ready : Bool) : Core.In where
  lsuOValid := LsuCtrl.lsuOValid s.lsu i.toBus
  lsuOWbckWdat := LsuCtrl.lsuOWbckWdat s.lsu i.toBus
  lsuOWbckItag := LsuCtrl.lsuOWbckItag s.lsu
  lsuOWbckErr := LsuCtrl.lsuOWbckErr s.lsu i.toBus
  lsuOCmtBuserr := LsuCtrl.lsuOCmtBuserr s.lsu i.toBus
  lsuOCmtBadaddr := LsuCtrl.lsuOCmtBadaddr s.lsu
  lsuOCmtLd := LsuCtrl.lsuOCmtLd s.lsu
  lsuOCmtSt := LsuCtrl.lsuOCmtSt s.lsu
  aguIcbCmdReady := ready
  aguIcbRspValid := LsuCtrl.aguIcbRspValid s.lsu i.toBus
  aguIcbRspErr := LsuCtrl.aguIcbRspErr s.lsu i.toBus
  aguIcbRspRdata := LsuCtrl.aguIcbRspRdata s.lsu i.toBus
  toFromCsr := i.toFromCsr
  pcRtvec := i.pcRtvec
  ifuReqReady := i.ifuReqReady
  ifuRspValid := i.ifuRspValid
  ifuRspErr := i.ifuRspErr
  ifuRspInstr := i.ifuRspInstr

def exuInPre : Exu.In := Core.exuIn s.core (coreInOf s i false)

def lsuIn : LsuCtrl.In where
  toBus := i.toBus
  aguIcbRspReady := Lsuagu.aguIcbRspReady
  lsuOReady := Exu.lsuOReady s.core.exu (exuInPre s i)

def coreIn : Core.In := coreInOf s i (LsuCtrl.aguIcbCmdReady s.lsu (lsuIn s i))

def exuIn : Exu.In := Core.exuIn s.core (coreIn s i)

def aguCmd : LsuCtrl.Cmd := Exu.aguCmd s.core.exu (exuIn s i)

def cmdHsked : Bool := (aguCmd s i).valid && LsuCtrl.aguIcbCmdReady s.lsu (lsuIn s i)

def rspHsked : Bool := LsuCtrl.arbtIcbRspHsked s.lsu (lsuIn s i)

/-- An event that is taken without an instruction turns the clock on. -/
def excpActive : Bool :=
  Excp.excpActive s.core.exu.excp (Exu.cmtCtl s.core.exu (exuIn s i)).toCtl

def lsuActive : Bool := LsuCtrl.lsuCtrlActive s.lsu (aguCmd s i) || excpActive s i

def lsuClkEn : Bool := i.coreCgstop || lsuActive s i

def step : State where
  core := Core.step s.core (coreIn s i)
  lsu :=
    if lsuClkEn s i then
      LsuCtrl.step s.lsu (lsuIn s i) (aguCmd s i) (Exu.commitTrap s.core.exu (exuIn s i))
        (Exu.commitMret s.core.exu (exuIn s i))
    else s.lsu

end

def IsReset (s : State) : Prop := Core.IsReset s.core ∧ LsuCtrl.IsReset s.lsu

def run (inp : ℕ → In) (s : State) (t : ℕ) : State := Lib.stateAt (fun i s => step s i) inp s t

theorem run_core (inp : ℕ → In) (s : State) (t : ℕ) :
    (run inp s t).core = Core.run (fun u => coreIn (run inp s u) (inp u)) s.core t := by
  induction t with
  | zero => rfl
  | succ t ih =>
    change Core.step (run inp s t).core (coreIn (run inp s t) (inp t)) =
      Core.step (Core.run (fun u => coreIn (run inp s u) (inp u)) s.core t) _
    rw [← ih]

end CoreLsu
end E203
