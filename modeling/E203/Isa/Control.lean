import Mathlib.Order.Basic

/-! # Control-transfer instructions

The branches, jumps, returns and `FENCE.I` of RV32IC with the machine-mode and debug-mode returns:
how an instruction word is read (`Ctrl.decode`) and where execution goes on (`Ctrl.nextPc`).  The
program counter, `mepc` and `dpc` hold multiples of two; `evenPc` clears the low bit.
-/

namespace E203.Isa
set_option autoImplicit false

/-- The condition of a conditional branch. -/
inductive Cond
  | eq | ne | lt | ge | ltu | geu
deriving DecidableEq

def Cond.holds (c : Cond) (a b : BitVec 32) : Bool :=
  match c with
  | eq => a == b
  | ne => a != b
  | lt => a.slt b
  | ge => !a.slt b
  | ltu => a.ult b
  | geu => !a.ult b

/-- What a control-transfer instruction does. -/
inductive CtrlOp
  | branch (cond : Cond) (rs1 rs2 : BitVec 5) (offset : BitVec 32)
  | jal (offset : BitVec 32)
  | jalr (rs1 : BitVec 5) (offset : BitVec 32)
  | mret
  | dret
  | fencei
deriving DecidableEq

/-- A control-transfer instruction in its 32-bit or 16-bit form. -/
structure Ctrl where
  rv32 : Bool
  op : CtrlOp
deriving DecidableEq

/-! ## Instruction words -/

section
variable (w : BitVec 32)

/-- The offset of a conditional branch. -/
def immB : BitVec 32 :=
  (w.extractLsb' 31 1 ++
    (w.extractLsb' 7 1 ++ (w.extractLsb' 25 6 ++ (w.extractLsb' 8 4 ++ 0#1)))).signExtend 32

/-- The offset of `JAL`. -/
def immJ : BitVec 32 :=
  (w.extractLsb' 31 1 ++
    (w.extractLsb' 12 8 ++ (w.extractLsb' 20 1 ++ (w.extractLsb' 21 10 ++ 0#1)))).signExtend 32

/-- The offset of `JALR`. -/
def immI : BitVec 32 := (w.extractLsb' 20 12).signExtend 32

/-- The offset of `C.BEQZ` and `C.BNEZ`. -/
def immCB : BitVec 32 :=
  (w.extractLsb' 12 1 ++
    (w.extractLsb' 5 2 ++
      (w.extractLsb' 2 1 ++ (w.extractLsb' 10 2 ++ (w.extractLsb' 3 2 ++ 0#1))))).signExtend 32

/-- The offset of `C.J` and `C.JAL`. -/
def immCJ : BitVec 32 :=
  (w.extractLsb' 12 1 ++
    (w.extractLsb' 8 1 ++
      (w.extractLsb' 9 2 ++
        (w.extractLsb' 6 1 ++
          (w.extractLsb' 7 1 ++
            (w.extractLsb' 2 1 ++
              (w.extractLsb' 11 1 ++ (w.extractLsb' 3 3 ++ 0#1)))))))).signExtend 32

def Cond.decode (funct3 : BitVec 3) : Option Cond :=
  if funct3 = 0b000#3 then some .eq
  else if funct3 = 0b001#3 then some .ne
  else if funct3 = 0b100#3 then some .lt
  else if funct3 = 0b101#3 then some .ge
  else if funct3 = 0b110#3 then some .ltu
  else if funct3 = 0b111#3 then some .geu
  else none

/-- The 32-bit forms. -/
def CtrlOp.decode32 : Option CtrlOp :=
  if w.extractLsb' 0 7 = 0b1100011#7 then
    (Cond.decode (w.extractLsb' 12 3)).map fun c =>
      .branch c (w.extractLsb' 15 5) (w.extractLsb' 20 5) (immB w)
  else if w.extractLsb' 0 7 = 0b1101111#7 then some (.jal (immJ w))
  else if w.extractLsb' 0 7 = 0b1100111#7 ∧ w.extractLsb' 12 3 = 0b000#3 then
    some (.jalr (w.extractLsb' 15 5) (immI w))
  else if w.extractLsb' 0 7 = 0b0001111#7 ∧ w.extractLsb' 12 3 = 0b001#3 then some .fencei
  else if w = 0x30200073#32 then some .mret
  else if w = 0x7b200073#32 then some .dret
  else none

/-- The 16-bit forms, in the low half of the word. -/
def CtrlOp.decode16 : Option CtrlOp :=
  if w.extractLsb' 0 2 = 0b01#2 ∧
      (w.extractLsb' 13 3 = 0b101#3 ∨ w.extractLsb' 13 3 = 0b001#3) then some (.jal (immCJ w))
  else if w.extractLsb' 0 2 = 0b01#2 ∧ w.extractLsb' 13 3 = 0b110#3 then
    some (.branch .eq (0b01#2 ++ w.extractLsb' 7 3) 0#5 (immCB w))
  else if w.extractLsb' 0 2 = 0b01#2 ∧ w.extractLsb' 13 3 = 0b111#3 then
    some (.branch .ne (0b01#2 ++ w.extractLsb' 7 3) 0#5 (immCB w))
  else if w.extractLsb' 0 2 = 0b10#2 ∧ w.extractLsb' 13 3 = 0b100#3 ∧
      w.extractLsb' 7 5 ≠ 0#5 ∧ w.extractLsb' 2 5 = 0#5 then some (.jalr (w.extractLsb' 7 5) 0#32)
  else none

/-- Words whose two low bits are not set are 16-bit instructions. -/
def Ctrl.decode : Option Ctrl :=
  if w.extractLsb' 0 2 = 0b11#2 then (CtrlOp.decode32 w).map fun op => ⟨true, op⟩
  else (CtrlOp.decode16 w).map fun op => ⟨false, op⟩

end

/-! ## The next program counter -/

def evenPc (x : BitVec 32) : BitVec 32 := x &&& ~~~1#32

/-- What a control transfer depends on. -/
structure CtrlState where
  pc : BitVec 32
  reg : BitVec 5 → BitVec 32
  mepc : BitVec 32
  dpc : BitVec 32

section
variable (c : Ctrl) (σ : CtrlState)

def Ctrl.seqPc : BitVec 32 := σ.pc + if c.rv32 then 4#32 else 2#32

/-- Is the branch or jump taken?  `JAL` and `JALR` always are. -/
def Ctrl.taken : Bool :=
  match c.op with
  | .branch cond rs1 rs2 _ => cond.holds (σ.reg rs1) (σ.reg rs2)
  | .jal _ | .jalr _ _ => true
  | .mret | .dret | .fencei => false

/-- The architectural next program counter. -/
def Ctrl.nextPc : BitVec 32 :=
  match c.op with
  | .branch _ _ _ offset => if c.taken σ then σ.pc + offset else c.seqPc σ
  | .jal offset => σ.pc + offset
  | .jalr rs1 offset => evenPc (σ.reg rs1 + offset)
  | .mret => evenPc σ.mepc
  | .dret => evenPc σ.dpc
  | .fencei => c.seqPc σ

end

example : Ctrl.decode 0xfe000ee3#32 = some ⟨true, .branch .eq 0#5 0#5 (BitVec.ofInt 32 (-4))⟩ := by
  decide
example : Ctrl.decode 0x00008067#32 = some ⟨true, .jalr 1#5 0#32⟩ := by decide
example : Ctrl.decode 0x00008082#32 = some ⟨false, .jalr 1#5 0#32⟩ := by decide
example : Ctrl.decode 0xdeada001#32 = some ⟨false, .jal 0#32⟩ := by decide

end E203.Isa
