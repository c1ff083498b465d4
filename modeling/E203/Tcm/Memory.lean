import E203.Tcm.Sram
import Mathlib.Algebra.GroupWithZero.Nat

/-! # The memory that a tightly coupled memory implements

Bytes under the addresses of the commands.  A command of the load/store unit or of the external agent
accesses the aligned four bytes that its address is in, a command of the fetch unit eight.

* `Tcm.memory`: the commands as the ports accept them, and the responses as the ports get them.
* `Tcm.word_access`, `Tcm.lane_access`: what the SRAM does under the commands of the controllers.
-/

namespace E203.Tcm
set_option autoImplicit false
open Lib (ByteMem Holds byte)

/-- A command with the port that gives it. -/
inductive Cmd
  | bus (p : Fin 2) (c : IcbCmd 16 4)
  | ifu (c : IcbCmd 16 8)

/-- A response with the port that gets it. -/
inductive Rsp
  | bus (p : Fin 2) (r : IcbRsp 4)
  | ifu (r : IcbRsp 8)
deriving DecidableEq

/-- The port of the arbiter; the fetch unit does not pass it. -/
def port : Cmd → Option (Fin 2)
  | .bus p _ => some p
  | .ifu _ => none

section
variable {MW : ℕ}

/-- The first byte that a command accesses. -/
def base (c : IcbCmd 16 MW) : ℕ := MW * (c.addr.toNat / MW)

def exec (c : IcbCmd 16 MW) (m : ByteMem) : ByteMem :=
  if c.read then m else m.store (base c) c.wmask c.wdata

/-- A response has no error, and that of a read has the bytes of the memory. -/
def Answer (c : IcbCmd 16 MW) (m : ByteMem) (r : IcbRsp MW) : Prop :=
  r.err = false ∧ (c.read = true → r.rdata = m.load MW (base c))

end

/-- The responses go to the port of the command. -/
def memory : Lib.Object ByteMem Cmd Rsp where
  exec
    | .bus _ c => exec c
    | .ifu c => exec c
  answer
    | .bus p c, m, .bus q r => q = p ∧ Answer c m r
    | .ifu c, m, .ifu r => Answer c m r
    | _, _, _ => False

/-! ## The accesses to the SRAM -/

/-- The word that a command accesses begins at its base. -/
theorem base_eq_lane {MW : ℕ} {USR : Type*} (c : UsrCmd 16 MW USR) {lsb : ℕ} (h : MW = 2 ^ lsb) :
    base c.toIcbCmd = MW * (c.lane lsb).toNat := by
  have hlane : (c.lane lsb).toNat = c.addr.toNat / MW := by
    have hlt : c.addr.toNat / 2 ^ lsb < 2 ^ (16 - lsb) := by
      apply Nat.div_lt_of_lt_mul
      have hpow : 2 ^ 16 ≤ 2 ^ lsb * 2 ^ (16 - lsb) := by
        rw [← Nat.pow_add]
        exact Nat.pow_le_pow_right (by decide) (by omega)
      exact Nat.lt_of_lt_of_le c.addr.isLt hpow
    rw [UsrCmd.lane, BitVec.extractLsb'_toNat, Nat.shiftRight_eq_div_pow, Nat.mod_eq_of_lt hlt]
    exact congrArg (c.addr.toNat / ·) h.symm
  rw [base, hlane]

/-- A command of the width of the SRAM. -/
theorem access_exec {MW lsb : ℕ} {USR : Type*} {c : UsrCmd 16 MW USR}
    {mem : BitVec (16 - lsb) → BitVec (8 * MW)} {m : ByteMem} (h : MW = 2 ^ lsb)
    (hmem : Holds mem m) : Holds (c.access mem) (exec c.toIcbCmd m) := by
  rw [UsrCmd.access, exec]
  cases c.read
  · rw [base_eq_lane c h]
    exact hmem.writeWord _ _ _
  · exact hmem

theorem access_load {MW lsb : ℕ} {USR : Type*} {c : UsrCmd 16 MW USR}
    {mem : BitVec (16 - lsb) → BitVec (8 * MW)} {m : ByteMem} (h : MW = 2 ^ lsb)
    (hmem : Holds mem m) : mem (c.lane lsb) = m.load MW (base c.toIcbCmd) := by
  rw [hmem, base_eq_lane c h]

/-! ## The width converter -/

variable {c : IcbCmd 16 4} {m : ByteMem}

/-- The four bytes are the half of the eight that bit 2 of the address says. -/
theorem base_n2w (c : IcbCmd 16 4) :
    base c = base (N2w.oIcbCmd c) + 4 * (N2w.cmdYLoHi c).toNat := by
  exact ByteMem.half_base c.addr

/-- A store through the converter writes the four bytes and no others. -/
theorem exec_n2w : exec (N2w.oIcbCmd c) m = exec c m := by
  have hread : (N2w.oIcbCmd c).read = c.read := rfl
  rw [exec, exec, hread]
  cases c.read
  · rw [if_neg Bool.false_ne_true, if_neg Bool.false_ne_true, base_n2w]
    exact ByteMem.store_half (N2w.cmdYLoHi c) c.wmask c.wdata
  · rfl

/-- A response through the converter has the four bytes. -/
theorem load_n2w {s : N2w.State} (h : N2w.rspYLoHi s = N2w.cmdYLoHi c) :
    N2w.iIcbRspRdata s (m.load 8 (base (N2w.oIcbCmd c))) = m.load 4 (base c) := by
  rw [N2w.iIcbRspRdata, h, base_n2w]
  exact ByteMem.load_half (N2w.cmdYLoHi c)

end E203.Tcm
