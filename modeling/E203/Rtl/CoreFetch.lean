import E203.Fetch.UnitRun
import E203.Rtl.CoreLsu

/-! # The core with its load/store unit and its fetch adapter (`e203_core.v`, `e203_ifu.v`)

What is left outside is the memories and the CSR file.

Nothing that the execute stage and the load/store unit give to the fetch stage depends on the fetch
channel, so these wires are those of `CoreLsu` with the channel at zero (`exuInPre`).
-/

namespace E203.CoreFetch
set_option autoImplicit false

/-- The adapter comes with its environment (`Ift2icb.Sys`). -/
structure State where
  base : CoreLsu.State
  adapter : Ift2icb.Sys

/-- The input ports. -/
structure In extends LsuCtrl.Bus, Exu.FromCsr where
  pcRtvec : BitVec 32
  /-- Clock gating is off (a bit of `mcgstop`). -/
  coreCgstop : Bool
  itcmNohold : Bool
  itcmRegionIndic : BitVec 32
  ifu2itcmIcbCmdReady : Bool
  ifu2itcmIcbRspValid : Bool
  ifu2itcmIcbRspErr : Bool
  ifu2itcmIcbRspRdata : BitVec 64
  ifu2biuIcbCmdReady : Bool
  ifu2biuIcbRspValid : Bool
  ifu2biuIcbRspErr : Bool
  ifu2biuIcbRspRdata : BitVec 32
  ifu2itcmHoldup : Bool
deriving DecidableEq

section
variable (s : State) (i : In)

/-- The fetch stage and the adapter. -/
def ifu : Ifu.Sys := ⟨s.base.core.ifu, s.adapter⟩

def baseInPre : CoreLsu.In where
  toBus := i.toBus
  toFromCsr := i.toFromCsr
  pcRtvec := i.pcRtvec
  ifuReqReady := false
  ifuRspValid := false
  ifuRspErr := false
  ifuRspInstr := 0#32
  coreCgstop := i.coreCgstop

def exuInPre : Exu.In := CoreLsu.exuIn s.base (baseInPre i)

def ifuIn : Ifu.In where
  toFromExu := Exu.toIfu s.base.core.exu (exuInPre s i)
  pcRtvec := i.pcRtvec
  ifuOReady := Exu.iReady s.base.core.exu (exuInPre s i)
  pipeFlushReq := Exu.pipeFlushReq s.base.core.exu (exuInPre s i)
  pipeFlushPc := Exu.pipeFlushPc s.base.core.exu (exuInPre s i)
  ifuHaltReq := Exu.wfiHaltIfuReq s.base.core.exu (exuInPre s i)
  itcmNohold := i.itcmNohold
  itcmRegionIndic := i.itcmRegionIndic
  ifu2itcmIcbCmdReady := i.ifu2itcmIcbCmdReady
  ifu2itcmIcbRspValid := i.ifu2itcmIcbRspValid
  ifu2itcmIcbRspErr := i.ifu2itcmIcbRspErr
  ifu2itcmIcbRspRdata := i.ifu2itcmIcbRspRdata
  ifu2biuIcbCmdReady := i.ifu2biuIcbCmdReady
  ifu2biuIcbRspValid := i.ifu2biuIcbRspValid
  ifu2biuIcbRspErr := i.ifu2biuIcbRspErr
  ifu2biuIcbRspRdata := i.ifu2biuIcbRspRdata
  ifu2itcmHoldup := i.ifu2itcmHoldup

def baseIn : CoreLsu.In :=
  { baseInPre i with
    ifuReqReady := Ifu.ifuReqReady (ifu s).regs (ifuIn s i)
    ifuRspValid := Ifu.ifuRspValid (ifu s).regs (ifuIn s i)
    ifuRspErr := Ifu.ifuRspErr (ifu s).regs (ifuIn s i)
    ifuRspInstr := Ifu.ifuRspInstr (ifu s).regs (ifuIn s i) }

def exuIn : Exu.In := CoreLsu.exuIn s.base (baseIn s i)

def step : State where
  base := CoreLsu.step s.base (baseIn s i)
  adapter := Ift2icb.Sys.step (Ifu.ift2icbIn (ifu s).regs (ifuIn s i)) s.adapter

theorem exuIn_eq : exuIn s i = exuInPre s i := by rfl

theorem ifu_step : ifu (step s i) = Ifu.Sys.step (ifuIn s i) (ifu s) := by rfl

end

def IsReset (s : State) : Prop := CoreLsu.IsReset s.base ∧ (ifu s).IsReset

def run (inp : ℕ → In) (s : State) (t : ℕ) : State := Lib.stateAt (fun i s => step s i) inp s t

section
variable (inp : ℕ → In) (s : State)

def baseInAt (t : ℕ) : CoreLsu.In := baseIn (run inp s t) (inp t)

def ifuInAt (t : ℕ) : Ifu.In := ifuIn (run inp s t) (inp t)

theorem run_base (t : ℕ) : (run inp s t).base = CoreLsu.run (baseInAt inp s) s.base t := by
  induction t with
  | zero => rfl
  | succ t ih =>
    change CoreLsu.step (run inp s t).base (baseInAt inp s t) =
      CoreLsu.step (CoreLsu.run (baseInAt inp s) s.base t) (baseInAt inp s t)
    rw [← ih]

theorem run_ifu (t : ℕ) : ifu (run inp s t) = Ifu.run (ifuInAt inp s) (ifu s) t := by
  induction t with
  | zero => rfl
  | succ t ih =>
    change ifu (step (run inp s t) (inp t)) =
      Ifu.Sys.step (ifuInAt inp s t) (Ifu.run (ifuInAt inp s) (ifu s) t)
    rw [ifu_step, ← ih]
    rfl

end
end E203.CoreFetch
