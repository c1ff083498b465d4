import E203.Isa.Control
import E203.Isa.RV32MA

/-! # Instruction words

`decode` reads a word as an instruction of RV32IMAC, Zicsr or Zifencei, or as one of `ECALL`,
`EBREAK`, `MRET`, `DRET` and `WFI`; reserved words are `none`.  The 16-bit forms are read as the
32-bit instructions they stand for.  Hints are instructions without an effect.
-/

namespace E203.Isa
set_option autoImplicit false

/-- The operations of the integer computations. -/
inductive AluFn
  | add | sub | sll | slt | sltu | xor | srl | sra | or | and
deriving DecidableEq

inductive Size
  | byte | half | word
deriving DecidableEq

inductive CsrFn
  | rw | rs | rc
deriving DecidableEq

inductive Instr
  | op (fn : AluFn) (rd rs1 rs2 : BitVec 5)
  | opImm (fn : AluFn) (rd rs1 : BitVec 5) (imm : BitVec 32)
  | lui (rd : BitVec 5) (imm : BitVec 32)
  | auipc (rd : BitVec 5) (imm : BitVec 32)
  | load (size : Size) (unsigned : Bool) (rd rs1 : BitVec 5) (offset : BitVec 32)
  | store (size : Size) (rs1 rs2 : BitVec 5) (offset : BitVec 32)
  | branch (cond : Cond) (rs1 rs2 : BitVec 5) (offset : BitVec 32)
  | jal (rd : BitVec 5) (offset : BitVec 32)
  | jalr (rd rs1 : BitVec 5) (offset : BitVec 32)
  | fence
  | fencei
  | mulDiv (fn : MulDivOp) (rd rs1 rs2 : BitVec 5)
  | lr (rd rs1 : BitVec 5)
  | sc (rd rs1 rs2 : BitVec 5)
  | amo (fn : AmoOp) (rd rs1 rs2 : BitVec 5)
  | csr (fn : CsrFn) (rd src : BitVec 5) (imm : Bool) (idx : BitVec 12)
  | ecall
  | ebreak
  | mret
  | dret
  | wfi
deriving DecidableEq

/-! ## The 32-bit forms -/

section
variable (w : BitVec 32)

def opcode : BitVec 7 := w.extractLsb' 0 7
def rd : BitVec 5 := w.extractLsb' 7 5
def funct3 : BitVec 3 := w.extractLsb' 12 3
def rs1 : BitVec 5 := w.extractLsb' 15 5
def rs2 : BitVec 5 := w.extractLsb' 20 5
def funct7 : BitVec 7 := w.extractLsb' 25 7
def funct5 : BitVec 5 := w.extractLsb' 27 5
def funct12 : BitVec 12 := w.extractLsb' 20 12

def immS : BitVec 32 := (w.extractLsb' 25 7 ++ w.extractLsb' 7 5).signExtend 32
def immU : BitVec 32 := w.extractLsb' 12 20 ++ 0#12
def shamt : BitVec 32 := (w.extractLsb' 20 5).setWidth 32

end

def aluFn (f : BitVec 3) : AluFn :=
  if f = 0b000#3 then .add
  else if f = 0b001#3 then .sll
  else if f = 0b010#3 then .slt
  else if f = 0b011#3 then .sltu
  else if f = 0b100#3 then .xor
  else if f = 0b101#3 then .srl
  else if f = 0b110#3 then .or
  else .and

def mulDivFn (f : BitVec 3) : MulDivOp :=
  if f = 0b000#3 then .mul
  else if f = 0b001#3 then .mulh
  else if f = 0b010#3 then .mulhsu
  else if f = 0b011#3 then .mulhu
  else if f = 0b100#3 then .div
  else if f = 0b101#3 then .divu
  else if f = 0b110#3 then .rem
  else .remu

def size (f : BitVec 2) : Option Size :=
  if f = 0b00#2 then some .byte
  else if f = 0b01#2 then some .half
  else if f = 0b10#2 then some .word
  else none

def amoFn (f : BitVec 5) : Option AmoOp :=
  [.swap, .add, .and, .or, .xor, .max, .min, .maxu, .minu].find? fun op => op.funct5 == f

def csrFn (f : BitVec 2) : Option CsrFn :=
  if f = 0b01#2 then some .rw
  else if f = 0b10#2 then some .rs
  else if f = 0b11#2 then some .rc
  else none

section
variable (w : BitVec 32)

def decodeOp : Option Instr :=
  if funct7 w = 0b0000000#7 then some (.op (aluFn (funct3 w)) (rd w) (rs1 w) (rs2 w))
  else if funct7 w = 0b0000001#7 then some (.mulDiv (mulDivFn (funct3 w)) (rd w) (rs1 w) (rs2 w))
  else if funct7 w = 0b0100000#7 ∧ funct3 w = 0b000#3 then some (.op .sub (rd w) (rs1 w) (rs2 w))
  else if funct7 w = 0b0100000#7 ∧ funct3 w = 0b101#3 then some (.op .sra (rd w) (rs1 w) (rs2 w))
  else none

/-- The shifts have a function field above the shift amount. -/
def decodeOpImm : Option Instr :=
  if funct3 w = 0b001#3 then
    if funct7 w = 0b0000000#7 then some (.opImm .sll (rd w) (rs1 w) (shamt w)) else none
  else if funct3 w = 0b101#3 then
    if funct7 w = 0b0000000#7 then some (.opImm .srl (rd w) (rs1 w) (shamt w))
    else if funct7 w = 0b0100000#7 then some (.opImm .sra (rd w) (rs1 w) (shamt w))
    else none
  else some (.opImm (aluFn (funct3 w)) (rd w) (rs1 w) (immI w))

def decodeLoad : Option Instr :=
  if funct3 w = 0b110#3 then none
  else (size ((funct3 w).extractLsb' 0 2)).map fun z =>
    .load z ((funct3 w).getLsbD 2) (rd w) (rs1 w) (immI w)

def decodeStore : Option Instr :=
  if (funct3 w).getLsbD 2 then none
  else (size ((funct3 w).extractLsb' 0 2)).map fun z => .store z (rs1 w) (rs2 w) (immS w)

def decodeAmo : Option Instr :=
  if funct3 w ≠ 0b010#3 then none
  else if funct5 w = 0b00010#5 then if rs2 w = 0#5 then some (.lr (rd w) (rs1 w)) else none
  else if funct5 w = 0b00011#5 then some (.sc (rd w) (rs1 w) (rs2 w))
  else (amoFn (funct5 w)).map fun fn => .amo fn (rd w) (rs1 w) (rs2 w)

def decodeMiscMem : Option Instr :=
  if funct3 w = 0b000#3 then some .fence
  else if funct3 w = 0b001#3 then some .fencei
  else none

def decodeSystem : Option Instr :=
  if funct3 w = 0b000#3 then
    if rd w ≠ 0#5 ∨ rs1 w ≠ 0#5 then none
    else if funct12 w = 0b000000000000#12 then some .ecall
    else if funct12 w = 0b000000000001#12 then some .ebreak
    else if funct12 w = 0b001100000010#12 then some .mret
    else if funct12 w = 0b011110110010#12 then some .dret
    else if funct12 w = 0b000100000101#12 then some .wfi
    else none
  else (csrFn ((funct3 w).extractLsb' 0 2)).map fun fn =>
    .csr fn (rd w) (rs1 w) ((funct3 w).getLsbD 2) (funct12 w)

def decode32 : Option Instr :=
  if opcode w = 0b0110011#7 then decodeOp w
  else if opcode w = 0b0010011#7 then decodeOpImm w
  else if opcode w = 0b0110111#7 then some (.lui (rd w) (immU w))
  else if opcode w = 0b0010111#7 then some (.auipc (rd w) (immU w))
  else if opcode w = 0b0000011#7 then decodeLoad w
  else if opcode w = 0b0100011#7 then decodeStore w
  else if opcode w = 0b1100011#7 then
    (Cond.decode (funct3 w)).map fun c => .branch c (rs1 w) (rs2 w) (immB w)
  else if opcode w = 0b1101111#7 then some (.jal (rd w) (immJ w))
  else if opcode w = 0b1100111#7 then
    if funct3 w = 0b000#3 then some (.jalr (rd w) (rs1 w) (immI w)) else none
  else if opcode w = 0b0001111#7 then decodeMiscMem w
  else if opcode w = 0b0101111#7 then decodeAmo w
  else if opcode w = 0b1110011#7 then decodeSystem w
  else none

/-! ## The 16-bit forms -/

def funct3C : BitVec 3 := w.extractLsb' 13 3
def rdC : BitVec 5 := w.extractLsb' 7 5
def rs2C : BitVec 5 := w.extractLsb' 2 5
/-- Registers `x8` to `x15`. -/
def rdP : BitVec 5 := 0b01#2 ++ w.extractLsb' 2 3
def rs1P : BitVec 5 := 0b01#2 ++ w.extractLsb' 7 3

def immCIW : BitVec 32 :=
  (w.extractLsb' 7 4 ++
    (w.extractLsb' 11 2 ++ (w.extractLsb' 5 1 ++ (w.extractLsb' 6 1 ++ 0#2)))).setWidth 32

def immCL : BitVec 32 :=
  (w.extractLsb' 5 1 ++ (w.extractLsb' 10 3 ++ (w.extractLsb' 6 1 ++ 0#2))).setWidth 32

def immCI : BitVec 32 := (w.extractLsb' 12 1 ++ w.extractLsb' 2 5).signExtend 32

def immCLui : BitVec 32 := (w.extractLsb' 12 1 ++ (w.extractLsb' 2 5 ++ 0#12)).signExtend 32

def immCI16sp : BitVec 32 :=
  (w.extractLsb' 12 1 ++
    (w.extractLsb' 3 2 ++
      (w.extractLsb' 5 1 ++ (w.extractLsb' 2 1 ++ (w.extractLsb' 6 1 ++ 0#4))))).signExtend 32

def immCLwsp : BitVec 32 :=
  (w.extractLsb' 2 2 ++ (w.extractLsb' 12 1 ++ (w.extractLsb' 4 3 ++ 0#2))).setWidth 32

def immCSwsp : BitVec 32 := (w.extractLsb' 7 2 ++ (w.extractLsb' 9 4 ++ 0#2)).setWidth 32

/-- The shift amount has five bits; bit 12 of the word is clear. -/
def shamtC : BitVec 32 := (w.extractLsb' 2 5).setWidth 32

def decodeC0 : Option Instr :=
  if funct3C w = 0b000#3 then
    if w.extractLsb' 5 8 = 0#8 then none else some (.opImm .add (rdP w) 2#5 (immCIW w))
  else if funct3C w = 0b010#3 then some (.load .word false (rdP w) (rs1P w) (immCL w))
  else if funct3C w = 0b110#3 then some (.store .word (rs1P w) (rdP w) (immCL w))
  else none

def decodeCAlu : Option Instr :=
  if w.extractLsb' 10 2 = 0b00#2 then
    if w.getLsbD 12 then none else some (.opImm .srl (rs1P w) (rs1P w) (shamtC w))
  else if w.extractLsb' 10 2 = 0b01#2 then
    if w.getLsbD 12 then none else some (.opImm .sra (rs1P w) (rs1P w) (shamtC w))
  else if w.extractLsb' 10 2 = 0b10#2 then some (.opImm .and (rs1P w) (rs1P w) (immCI w))
  else if w.getLsbD 12 then none
  else if w.extractLsb' 5 2 = 0b00#2 then some (.op .sub (rs1P w) (rs1P w) (rdP w))
  else if w.extractLsb' 5 2 = 0b01#2 then some (.op .xor (rs1P w) (rs1P w) (rdP w))
  else if w.extractLsb' 5 2 = 0b10#2 then some (.op .or (rs1P w) (rs1P w) (rdP w))
  else some (.op .and (rs1P w) (rs1P w) (rdP w))

def decodeC1 : Option Instr :=
  if funct3C w = 0b000#3 then some (.opImm .add (rdC w) (rdC w) (immCI w))
  else if funct3C w = 0b001#3 then some (.jal 1#5 (immCJ w))
  else if funct3C w = 0b010#3 then some (.opImm .add (rdC w) 0#5 (immCI w))
  else if funct3C w = 0b011#3 then
    if w.getLsbD 12 = false ∧ rs2C w = 0#5 then none
    else if rdC w = 2#5 then some (.opImm .add 2#5 2#5 (immCI16sp w))
    else some (.lui (rdC w) (immCLui w))
  else if funct3C w = 0b100#3 then decodeCAlu w
  else if funct3C w = 0b101#3 then some (.jal 0#5 (immCJ w))
  else if funct3C w = 0b110#3 then some (.branch .eq (rs1P w) 0#5 (immCB w))
  else some (.branch .ne (rs1P w) 0#5 (immCB w))

/-- Jumps, moves and additions. -/
def decodeCr : Option Instr :=
  if rs2C w = 0#5 then
    if rdC w = 0#5 then if w.getLsbD 12 then some .ebreak else none
    else some (.jalr (if w.getLsbD 12 then 1#5 else 0#5) (rdC w) 0#32)
  else some (.op .add (rdC w) (if w.getLsbD 12 then rdC w else 0#5) (rs2C w))

def decodeC2 : Option Instr :=
  if funct3C w = 0b000#3 then
    if w.getLsbD 12 then none else some (.opImm .sll (rdC w) (rdC w) (shamtC w))
  else if funct3C w = 0b010#3 then
    if rdC w = 0#5 then none else some (.load .word false (rdC w) 2#5 (immCLwsp w))
  else if funct3C w = 0b100#3 then decodeCr w
  else if funct3C w = 0b110#3 then some (.store .word 2#5 (rs2C w) (immCSwsp w))
  else none

/-- The instruction that the word starts with. -/
def decode : Option Instr :=
  if w.extractLsb' 0 2 = 0b11#2 then decode32 w
  else if w.extractLsb' 0 2 = 0b00#2 then decodeC0 w
  else if w.extractLsb' 0 2 = 0b01#2 then decodeC1 w
  else decodeC2 w

end

example : decode 0x40b50533#32 = some (.op .sub 10#5 10#5 11#5) := by decide
example : decode 0x00007139#32 = some (.opImm .add 2#5 2#5 (BitVec.ofInt 32 (-64))) := by decide
example : decode 0xffffffff#32 = none ∧ decode 0#32 = none := by decide

end E203.Isa
