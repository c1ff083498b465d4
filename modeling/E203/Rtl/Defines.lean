import Mathlib.Order.Basic

/-! # Flip-flops, gating and the decode-information bus

What every module of the core shares: the load-enable flip-flops of `sirv_gnrl_dffs.v`, the
`{W{sel}} & bus` gating idiom, and the bit positions of the decode-information bus of
`e203_defines.v` (32-bit core: `XLEN`, the PC and addresses are all 32 bits wide).
-/

namespace E203
set_option autoImplicit false

/-- `sirv_gnrl_dfflr`, `sirv_gnrl_dffl`, `sirv_gnrl_dfflrs`: the next value of a load-enable
flip-flop.  They differ in the reset value only. -/
def dfflr {α : Type*} (lden : Bool) (dnxt qout : α) : α := if lden then dnxt else qout

@[simp] theorem dfflr_true {α : Type*} (d q : α) : dfflr true d q = d := rfl
@[simp] theorem dfflr_false {α : Type*} (d q : α) : dfflr false d q = q := rfl

/-- `{W{sel}} & bus`. -/
def gate {w : ℕ} (sel : Bool) (bus : BitVec w) : BitVec w := if sel then bus else 0#w

@[simp] theorem gate_true {w : ℕ} (x : BitVec w) : gate true x = x := rfl
@[simp] theorem gate_false {w : ℕ} (x : BitVec w) : gate false x = 0#w := rfl

/-! The instances behind the numerals of `Fin 2` and `Fin 8`. -/

instance neZeroTwo : @NeZero ℕ Zero.ofOfNat0 2 := Nat.instNeZeroSucc
instance neZeroEight : @NeZero ℕ Zero.ofOfNat0 8 := Nat.instNeZeroSucc

/-- The decode-information bus, `E203_DECINFO_WIDTH` bits. -/
abbrev DecInfo := BitVec 32

namespace DecInfo
section
variable (info : DecInfo)

def grp : BitVec 3 := info.extractLsb' 0 3

def rv32 : Bool := info.getLsbD 3

end
end DecInfo

/-! ## Groups of the decode-information bus -/

/-- `E203_DECINFO_GRP_ALU`. -/
abbrev GRP_ALU : BitVec 3 := 0#3
/-- `E203_DECINFO_GRP_AGU`. -/
abbrev GRP_AGU : BitVec 3 := 1#3
/-- `E203_DECINFO_GRP_BJP`. -/
abbrev GRP_BJP : BitVec 3 := 2#3
/-- `E203_DECINFO_GRP_CSR`. -/
abbrev GRP_CSR : BitVec 3 := 3#3
/-- `E203_DECINFO_GRP_MULDIV`. -/
abbrev GRP_MULDIV : BitVec 3 := 4#3

end E203
