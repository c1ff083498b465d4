import E203.Isa.RV32MA
import E203.Lib.Machine
import Mathlib.Order.Basic

/-! # The multiplier/divider on the shared datapath

`e203_exu_alu.v` connects the unit to the adder and the two shared buffers of the datapath.  A
`Unit` is the registers of both; an `Env` is everything sampled in a cycle from outside, the
requests of the other users of the datapath included.

* `Env.res`: the adder result for the request the unit drives; `Unit.step`: one clock edge.
* `Held op a b e`: the operands `a`, `b` of the instruction `op` are presented, with no flush.
* `Started`: from state `0TH`, not back-to-back, with the operands held until the response.
-/

namespace E203.Muldiv
set_option autoImplicit false

/-- The registers of the unit and the shared buffers. -/
structure Unit where
  mdv : State
  sbf : AluDpath.Sbf
deriving DecidableEq

/-- What the unit and the datapath sample in a cycle. -/
structure Env where
  /-- `mdv_op`: the datapath is granted to the unit. -/
  muldivReqAlu : Bool
  mdvNob2b : Bool
  iValid : Bool
  rs1 : BitVec 32
  rs2 : BitVec 32
  info : DecInfo
  flushPulse : Bool
  oReady : Bool
  /-- The other users of the datapath. -/
  dpath : AluDpath.In
  aguSbf : AluDpath.SbfWr 32

section
variable (e : Env) (u : Unit)

def Env.ports : In where
  mdvNob2b := e.mdvNob2b
  iValid := e.iValid
  rs1 := e.rs1
  rs2 := e.rs2
  info := e.info
  flushPulse := e.flushPulse
  oReady := e.oReady
  sbf0R := u.sbf.sbf0
  sbf1R := u.sbf.sbf1

/-- The request lines of the datapath. -/
def Env.dpathIn : AluDpath.In :=
  { e.dpath with muldivReqAlu := e.muldivReqAlu, muldivReq := aluReq (e.ports u) u.mdv }

def Env.res : BitVec 35 := AluDpath.adderRes (e.dpathIn u)

def Unit.oValid : Bool := Muldiv.oValid (e.ports u) u.mdv (e.res u)

def Unit.oWbckWdat : BitVec 32 := Muldiv.oWbckWdat (e.ports u) u.mdv (e.res u)

/-- The unit and the shared buffers after the clock edge. -/
def Unit.step : Unit where
  mdv := Muldiv.step (e.ports u) u.mdv (e.res u)
  sbf := u.sbf.step e.muldivReqAlu (sbfWr (e.ports u) u.mdv (e.res u)) e.aguSbf

end

def unitAt (env : ℕ → Env) (u : Unit) (t : ℕ) : Unit := Lib.stateAt Unit.step env u t

/-- The response has not been taken before cycle `t`. -/
def Pending (env : ℕ → Env) (u : Unit) (t : ℕ) : Prop :=
  ∀ j < t, ¬ ((unitAt env u j).oValid (env j) = true ∧ (env j).oReady = true)

/-- The instruction and its operands are presented in the cycle, and the pipe is not flushed. -/
structure Held (op : MulDivOp) (a b : BitVec 32) (b2b nob2b : Bool) (e : Env) : Prop where
  req : e.muldivReqAlu = true
  valid : e.iValid = true
  rs1 : e.rs1 = a
  rs2 : e.rs2 = b
  op : e.info.OpIs op
  b2b : e.info.b2b = b2b
  nob2b : e.mdvNob2b = nob2b
  flush : e.flushPulse = false

/-- An operation started in state `0TH`, not answered back-to-back, whose operands are held until
the response is taken.  The buffers and the counter are arbitrary. -/
structure Started (op : MulDivOp) (a b : BitVec 32) (env : ℕ → Env) (u : Unit) : Prop where
  sta : u.mdv.sta = .zeroTh
  notB2b : iB2b ((env 0).ports u) u.mdv = false
  held : ∀ t, Pending env u t → Held op a b (env 0).info.b2b (env 0).mdvNob2b (env t)

section
variable {op : MulDivOp} {a b : BitVec 32} {env : ℕ → Env} {u : Unit}

theorem unitAt_succ (t : ℕ) : unitAt env u (t + 1) = (unitAt env u t).step (env t) := rfl

theorem pending_zero : Pending env u 0 := fun _ h => absurd h (Nat.not_lt_zero _)

theorem Pending.mono {m n : ℕ} (h : Pending env u n) (hmn : m ≤ n) : Pending env u m :=
  fun j hj => h j (Nat.lt_of_lt_of_le hj hmn)

theorem Pending.succ {t : ℕ} (h : Pending env u t)
    (ht : ¬ ((unitAt env u t).oValid (env t) = true ∧ (env t).oReady = true)) :
    Pending env u (t + 1) := fun j hj => by
  rcases Nat.lt_or_ge j t with hlt | hge
  · exact h j hlt
  · have hjt : j = t := by omega
    exact hjt ▸ ht

/-- A response that is valid, and whose registers stand still until it is taken, stays. -/
theorem unitAt_eq_of_wait {m : ℕ}
    (hvalid : ∀ t ≥ m, Pending env u t → unitAt env u t = unitAt env u m →
      (unitAt env u t).oValid (env t) = true)
    (hwait : ∀ t ≥ m, Pending env u t → unitAt env u t = unitAt env u m →
      (env t).oReady = false → (unitAt env u t).step (env t) = unitAt env u t) {t : ℕ}
    (hmt : m ≤ t) (ht : Pending env u t) : unitAt env u t = unitAt env u m := by
  induction t, hmt using Nat.le_induction with
  | base => rfl
  | succ t hmt ih =>
    have hp := ht.mono (Nat.le_succ t)
    have heq := ih hp
    have hready : (env t).oReady = false := by
      have hno := ht t (Nat.lt_succ_self t)
      simpa [hvalid t hmt hp heq] using hno
    rw [unitAt_succ, hwait t hmt hp heq hready, heq]

/-- The flush memory changes on a flush and on a taken response only. -/
theorem flushedR_step {e : Env} (hflush : e.flushPulse = false)
    (hno : ¬ (u.oValid e = true ∧ e.oReady = true)) :
    (u.step e).mdv.flushedR = u.mdv.flushedR := by
  have hf : (e.ports u).flushPulse = false := hflush
  have hh : oHsked (e.ports u) u.mdv (e.res u) = false := by
    unfold Unit.oValid at hno
    simpa [oHsked, Env.ports] using hno
  simp [Unit.step, Muldiv.step, flushedSet, flushedClr, hf, hh]

theorem Started.flushedR (hs : Started op a b env u) {t : ℕ} (ht : Pending env u t) :
    (unitAt env u t).mdv.flushedR = u.mdv.flushedR := by
  induction t with
  | zero => rfl
  | succ t ih =>
    have hp := ht.mono (Nat.le_succ t)
    rw [unitAt_succ, flushedR_step (hs.held t hp).flush (ht t (Nat.lt_succ_self t)), ih hp]

/-- An operation that is not answered back-to-back in its first cycle never is. -/
theorem Started.notB2b_at (hs : Started op a b env u) {t : ℕ} (ht : Pending env u t) :
    iB2b ((env t).ports (unitAt env u t)) (unitAt env u t).mdv = false := by
  have h0 := hs.notB2b
  have hheld := hs.held t ht
  simp only [iB2b, Env.ports] at h0 ⊢
  rw [hheld.b2b, hheld.nob2b, hs.flushedR ht]
  exact h0

end

/-- A cycle in which the instruction is presented, without a flush, and has to be computed. -/
structure Cycle (op : MulDivOp) (a b : BitVec 32) (e : Env) (u : Unit) : Prop where
  req : e.muldivReqAlu = true
  valid : e.iValid = true
  rs1 : e.rs1 = a
  rs2 : e.rs2 = b
  bits : e.info.OpBits op
  flush : e.flushPulse = false
  notB2b : iB2b (e.ports u) u.mdv = false

theorem Started.cycle {op : MulDivOp} {a b : BitVec 32} {env : ℕ → Env} {u : Unit}
    (hs : Started op a b env u) {t : ℕ} (ht : Pending env u t) :
    Cycle op a b (env t) (unitAt env u t) := by
  have hheld := hs.held t ht
  exact ⟨hheld.req, hheld.valid, hheld.rs1, hheld.rs2, hheld.op.bits, hheld.flush,
    hs.notB2b_at ht⟩

section
variable {op : MulDivOp} {a b : BitVec 32} {e : Env} {u : Unit} (h : Cycle op a b e u)
include h

theorem Cycle.back2back : back2backSeq (e.ports u) u.mdv = false := h.notB2b

theorem Cycle.ports_valid : (e.ports u).iValid = true := h.valid

theorem Cycle.ports_flush : (e.ports u).flushPulse = false := h.flush

end

/-! ## Holding the operands for ever -/

/-- The environment that presents an instruction and never takes the response. -/
def holdEnv (op : MulDivOp) (a b : BitVec 32) : Env where
  muldivReqAlu := true
  mdvNob2b := false
  iValid := true
  rs1 := a
  rs2 := b
  info := 1#32 <<< (4 + op.idx)
  flushPulse := false
  oReady := false
  dpath := {}
  aguSbf := ⟨false, 0#32, false, 0#32⟩

theorem holdEnv_held (op : MulDivOp) (a b : BitVec 32) :
    Held op a b false false (holdEnv op a b) := by
  have hop : DecInfo.OpIs (1#32 <<< (4 + op.idx)) op := by cases op <;> decide
  have hb2b : DecInfo.b2b (1#32 <<< (4 + op.idx)) = false := by cases op <;> decide
  exact ⟨rfl, rfl, rfl, rfl, hop, hb2b, rfl, rfl⟩

theorem pending_holdEnv (op : MulDivOp) (a b : BitVec 32) (u : Unit) (t : ℕ) :
    Pending (fun _ => holdEnv op a b) u t := fun _ _ h => Bool.false_ne_true h.2

theorem started_holdEnv (op : MulDivOp) (a b : BitVec 32) {u : Unit} (hsta : u.mdv.sta = .zeroTh) :
    Started op a b (fun _ => holdEnv op a b) u := by
  have hheld := holdEnv_held op a b
  refine ⟨hsta, ?_, fun _ _ => ?_⟩
  · simp [iB2b, Env.ports, hheld.b2b]
  · rw [hheld.b2b, hheld.nob2b]
    exact hheld

end E203.Muldiv
