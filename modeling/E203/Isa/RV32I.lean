import E203.Isa.Encoding
import E203.Lib.ByteMem

/-! # The instructions of RV32I and Zicsr

What an integer computation, a load or store and a control transfer compute from the program counter
and the registers: the value of the destination register, the address, and whether execution goes on
at the target.  `rv32Load` is the word a load brings into its register from a memory of bytes under all
addresses, little-endian, `rv32Store` the memory a store leaves; `CsrFn.next` is what a CSR instruction
writes.
-/

set_option autoImplicit false

namespace E203
open Lib (ByteMem)

/-! ## Loads and stores -/

inductive MemSize
  | byte | half | word
deriving DecidableEq, Repr

namespace MemSize

def code : MemSize → BitVec 2
  | byte => 0b00#2
  | half => 0b01#2
  | word => 0b10#2

def bytes : MemSize → ℕ
  | byte => 1
  | half => 2
  | word => 4

end MemSize

def rv32Load (sz : MemSize) (usign : Bool) (m : ByteMem) (a : ℕ) : BitVec 32 :=
  if usign then (m.load sz.bytes a).setWidth 32 else (m.load sz.bytes a).signExtend 32

def rv32Store (sz : MemSize) (d : BitVec 32) (m : ByteMem) (a : ℕ) : ByteMem :=
  m.store a (BitVec.allOnes sz.bytes) (d.setWidth (8 * sz.bytes))

section
variable {sz : MemSize} {usign : Bool} {d : BitVec 32} {m m' : ByteMem} {a b : ℕ}

/-- A store changes its own bytes. -/
theorem rv32Store_at {k : ℕ} (hk : k < sz.bytes) : rv32Store sz d m a (a + k) = Lib.byte d k := by
  have hbyte : Lib.byte (d.setWidth (8 * sz.bytes)) k = Lib.byte d k := by
    apply BitVec.eq_of_getLsbD_eq
    intro j hj
    have hin : 8 * k + j < 8 * sz.bytes := by omega
    simp only [Lib.byte, BitVec.getLsbD_extractLsb', BitVec.getLsbD_setWidth, hin, decide_true,
      Bool.true_and]
  rw [rv32Store, ByteMem.store_at hk, hbyte, if_pos]
  rw [BitVec.getLsbD_allOnes, decide_eq_true hk]

theorem rv32Store_of_out (h : b < a ∨ a + sz.bytes ≤ b) : rv32Store sz d m a b = m b :=
  ByteMem.store_of_out h

end
end E203

namespace E203.Isa

/-! ## Computations -/

/-- The amount of a shift is in the low five bits. -/
def AluFn.isShift : AluFn → Bool
  | .sll | .srl | .sra => true
  | _ => false

def AluFn.eval (fn : AluFn) (a b : BitVec 32) : BitVec 32 :=
  match fn with
  | .add => a + b
  | .sub => a - b
  | .sll => a <<< b.extractLsb' 0 5
  | .slt => if a.slt b then 1#32 else 0#32
  | .sltu => if a.ult b then 1#32 else 0#32
  | .xor => a ^^^ b
  | .srl => a >>> b.extractLsb' 0 5
  | .sra => a.sshiftRight' (b.extractLsb' 0 5)
  | .or => a ||| b
  | .and => a &&& b

theorem AluFn.eval_shift {fn : AluFn} (hfn : fn.isShift = true) (a : BitVec 32) {b b' : BitVec 32}
    (h : b.extractLsb' 0 5 = b'.extractLsb' 0 5) : fn.eval a b = fn.eval a b' := by
  cases fn
  case sll | srl | sra => rw [eval, eval, h]
  all_goals cases hfn

def Size.code : Size → BitVec 2
  | .byte => 0b00#2
  | .half => 0b01#2
  | .word => 0b10#2

namespace Instr

def dest : Instr → BitVec 5
  | .op _ rd _ _ | .opImm _ rd _ _ | .lui rd _ | .auipc rd _ | .load _ _ rd _ _ | .jal rd _
  | .jalr rd _ _ => rd
  | _ => 0#5

section
variable (pc len : BitVec 32) (reg : BitVec 5 → BitVec 32)

/-- The value of the destination register after an instruction of the length `len`. -/
def value : Instr → Option (BitVec 32)
  | .op fn _ rs1 rs2 => some (fn.eval (reg rs1) (reg rs2))
  | .opImm fn _ rs1 imm => some (fn.eval (reg rs1) imm)
  | .lui _ imm => some imm
  | .auipc _ imm => some (pc + imm)
  | .jal _ _ | .jalr _ _ _ => some (pc + len)
  | _ => none

/-- The effective address of a load or store. -/
def address : Instr → Option (BitVec 32)
  | .load _ _ _ rs1 offset | .store _ rs1 _ offset => some (reg rs1 + offset)
  | _ => none

/-- The outcome of a branch; jumps are always taken. -/
def outcome : Instr → Option Bool
  | .branch cond rs1 rs2 _ => some (cond.holds (reg rs1) (reg rs2))
  | .jal _ _ | .jalr _ _ _ => some true
  | _ => none

end
end Instr

/-- The length in bytes of the instruction that the word starts with. -/
def length (w : BitVec 32) : BitVec 32 := if w.extractLsb' 0 2 = 0b11#2 then 4#32 else 2#32

example : AluFn.eval .sra 0x80000000#32 0x424#32 = 0xf8000000#32 := by decide
example : AluFn.eval .slt 0xffffffff#32 1#32 = 1#32 ∧ AluFn.eval .sltu 0xffffffff#32 1#32 = 0#32 := by
  decide

/-! ## CSR instructions -/

namespace CsrFn

/-- Setting or clearing with `x0`, or with a zero immediate, writes nothing. -/
def writes (fn : CsrFn) (src : BitVec 5) : Bool := decide (fn = .rw) || src != 0#5

/-- The word that is written to a CSR with the value `old`. -/
def next (fn : CsrFn) (old operand : BitVec 32) : BitVec 32 :=
  match fn with
  | .rw => operand
  | .rs => old ||| operand
  | .rc => old &&& ~~~operand

end CsrFn

/-- The operand is a register or the zero-extended immediate. -/
def csrOperand (reg : BitVec 5 → BitVec 32) (imm : Bool) (src : BitVec 5) : BitVec 32 :=
  if imm then src.setWidth 32 else reg src

end E203.Isa
