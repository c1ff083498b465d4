import E203.Rtl.Defines

/-! # The decoder (`e203_exu_decode.v`)

The decoder is used twice: by the execute stage on the instruction register, and by the fetch stage
(`e203_ifu_minidec.v`) on the fetched instruction, with every side input tied to zero.  Each wire of
the source is a definition of the same name; `In` is the input ports, and the wires that depend on
the instruction alone take the instruction.

* `decInfo`: the decode-information bus, the or of the five group buses.
* `decRs1idx`, `decRs1en`, ... : register indexes and enables; `decImm`, `decBjpImm`: immediates.
* `leglOps` and `decIlegl`: what is accepted and what is flagged illegal.
-/

namespace E203.Decode
set_option autoImplicit false

/-- The input ports. -/
structure In where
  instr : BitVec 32
  pc : BitVec 32
  prdtTaken : Bool
  misalgn : Bool
  buserr : Bool
  muldivB2b : Bool
  dbgMode : Bool
deriving DecidableEq

/-! ## Fields of the instruction word -/

section Fields
variable (instr : BitVec 32)

def opcode : BitVec 7 := instr.extractLsb' 0 7
def opcode10_00 : Bool := (opcode instr).extractLsb' 0 2 == 0b00#2
def opcode10_01 : Bool := (opcode instr).extractLsb' 0 2 == 0b01#2
def opcode10_10 : Bool := (opcode instr).extractLsb' 0 2 == 0b10#2
def opcode10_11 : Bool := (opcode instr).extractLsb' 0 2 == 0b11#2

def rv32 : Bool := !(instr.extractLsb' 2 3 == 0b111#3) && opcode10_11 instr

def rv32Rd : BitVec 5 := instr.extractLsb' 7 5
def rv32Func3 : BitVec 3 := instr.extractLsb' 12 3
def rv32Rs1 : BitVec 5 := instr.extractLsb' 15 5
def rv32Rs2 : BitVec 5 := instr.extractLsb' 20 5
def rv32Func7 : BitVec 7 := instr.extractLsb' 25 7

def rv16Rd : BitVec 5 := rv32Rd instr
def rv16Rs1 : BitVec 5 := rv16Rd instr
def rv16Rs2 : BitVec 5 := instr.extractLsb' 2 5
def rv16Rdd : BitVec 5 := 0b01#2 ++ instr.extractLsb' 2 3
def rv16Rss1 : BitVec 5 := 0b01#2 ++ instr.extractLsb' 7 3
def rv16Rss2 : BitVec 5 := rv16Rdd instr
def rv16Func3 : BitVec 3 := instr.extractLsb' 13 3

def opcode42_000 : Bool := (opcode instr).extractLsb' 2 3 == 0b000#3
def opcode42_001 : Bool := (opcode instr).extractLsb' 2 3 == 0b001#3
def opcode42_010 : Bool := (opcode instr).extractLsb' 2 3 == 0b010#3
def opcode42_011 : Bool := (opcode instr).extractLsb' 2 3 == 0b011#3
def opcode42_100 : Bool := (opcode instr).extractLsb' 2 3 == 0b100#3
def opcode42_101 : Bool := (opcode instr).extractLsb' 2 3 == 0b101#3
def opcode42_110 : Bool := (opcode instr).extractLsb' 2 3 == 0b110#3
def opcode42_111 : Bool := (opcode instr).extractLsb' 2 3 == 0b111#3
def opcode65_00 : Bool := (opcode instr).extractLsb' 5 2 == 0b00#2
def opcode65_01 : Bool := (opcode instr).extractLsb' 5 2 == 0b01#2
def opcode65_10 : Bool := (opcode instr).extractLsb' 5 2 == 0b10#2
def opcode65_11 : Bool := (opcode instr).extractLsb' 5 2 == 0b11#2

def rv32Func3_000 : Bool := rv32Func3 instr == 0b000#3
def rv32Func3_001 : Bool := rv32Func3 instr == 0b001#3
def rv32Func3_010 : Bool := rv32Func3 instr == 0b010#3
def rv32Func3_011 : Bool := rv32Func3 instr == 0b011#3
def rv32Func3_100 : Bool := rv32Func3 instr == 0b100#3
def rv32Func3_101 : Bool := rv32Func3 instr == 0b101#3
def rv32Func3_110 : Bool := rv32Func3 instr == 0b110#3
def rv32Func3_111 : Bool := rv32Func3 instr == 0b111#3
def rv16Func3_000 : Bool := rv16Func3 instr == 0b000#3
def rv16Func3_001 : Bool := rv16Func3 instr == 0b001#3
def rv16Func3_010 : Bool := rv16Func3 instr == 0b010#3
def rv16Func3_011 : Bool := rv16Func3 instr == 0b011#3
def rv16Func3_100 : Bool := rv16Func3 instr == 0b100#3
def rv16Func3_101 : Bool := rv16Func3 instr == 0b101#3
def rv16Func3_110 : Bool := rv16Func3 instr == 0b110#3
def rv16Func3_111 : Bool := rv16Func3 instr == 0b111#3

def rv32Func7_0000000 : Bool := rv32Func7 instr == 0b0000000#7
def rv32Func7_0100000 : Bool := rv32Func7 instr == 0b0100000#7
def rv32Func7_0000001 : Bool := rv32Func7 instr == 0b0000001#7
def rv32Func7_1111111 : Bool := rv32Func7 instr == 0b1111111#7

def rv32Rs1X0 : Bool := rv32Rs1 instr == 0#5
def rv32Rs2X0 : Bool := rv32Rs2 instr == 0#5
def rv32RdX0 : Bool := rv32Rd instr == 0#5
def rv32RdX2 : Bool := rv32Rd instr == 2#5
def rv16Rs1X0 : Bool := rv16Rs1 instr == 0#5
def rv16Rs2X0 : Bool := rv16Rs2 instr == 0#5
def rv16RdX0 : Bool := rv16Rd instr == 0#5
def rv16RdX2 : Bool := rv16Rd instr == 2#5
def rv32Rs1X31 : Bool := rv32Rs1 instr == 31#5
def rv32Rs2X31 : Bool := rv32Rs2 instr == 31#5
def rv32RdX31 : Bool := rv32Rd instr == 31#5

/-! ## Major opcodes -/

def rv32Load : Bool := opcode65_00 instr && opcode42_000 instr && opcode10_11 instr
def rv32Store : Bool := opcode65_01 instr && opcode42_000 instr && opcode10_11 instr
def rv32Branch : Bool := opcode65_11 instr && opcode42_000 instr && opcode10_11 instr
def rv32Jalr : Bool := opcode65_11 instr && opcode42_001 instr && opcode10_11 instr
def rv32Miscmem : Bool := opcode65_00 instr && opcode42_011 instr && opcode10_11 instr
def rv32Amo : Bool := opcode65_01 instr && opcode42_011 instr && opcode10_11 instr
def rv32Jal : Bool := opcode65_11 instr && opcode42_011 instr && opcode10_11 instr
def rv32OpImm : Bool := opcode65_00 instr && opcode42_100 instr && opcode10_11 instr
def rv32Op : Bool := opcode65_01 instr && opcode42_100 instr && opcode10_11 instr
def rv32System : Bool := opcode65_11 instr && opcode42_100 instr && opcode10_11 instr
def rv32Auipc : Bool := opcode65_00 instr && opcode42_101 instr && opcode10_11 instr
def rv32Lui : Bool := opcode65_01 instr && opcode42_101 instr && opcode10_11 instr

def rv16Addi4spn : Bool := opcode10_00 instr && rv16Func3_000 instr
def rv16Lw : Bool := opcode10_00 instr && rv16Func3_010 instr
def rv16Sw : Bool := opcode10_00 instr && rv16Func3_110 instr
def rv16Addi : Bool := opcode10_01 instr && rv16Func3_000 instr
def rv16Jal : Bool := opcode10_01 instr && rv16Func3_001 instr
def rv16Li : Bool := opcode10_01 instr && rv16Func3_010 instr
def rv16LuiAddi16sp : Bool := opcode10_01 instr && rv16Func3_011 instr
def rv16Miscalu : Bool := opcode10_01 instr && rv16Func3_100 instr
def rv16J : Bool := opcode10_01 instr && rv16Func3_101 instr
def rv16Beqz : Bool := opcode10_01 instr && rv16Func3_110 instr
def rv16Bnez : Bool := opcode10_01 instr && rv16Func3_111 instr
def rv16Slli : Bool := opcode10_10 instr && rv16Func3_000 instr
def rv16Lwsp : Bool := opcode10_10 instr && rv16Func3_010 instr
def rv16JalrMvAdd : Bool := opcode10_10 instr && rv16Func3_100 instr
def rv16Swsp : Bool := opcode10_10 instr && rv16Func3_110 instr

def rv16LwspIlgl : Bool := rv16Lwsp instr && rv16RdX0 instr
def rv16Nop : Bool := rv16Addi instr && !instr.getLsbD 12 && rv16RdX0 instr && rv16Rs2X0 instr
def rv16Srli : Bool := rv16Miscalu instr && instr.extractLsb' 10 2 == 0b00#2
def rv16Srai : Bool := rv16Miscalu instr && instr.extractLsb' 10 2 == 0b01#2
def rv16Andi : Bool := rv16Miscalu instr && instr.extractLsb' 10 2 == 0b10#2
def rv16Instr12Is0 : Bool := instr.getLsbD 12 == false
def rv16Instr62Is0s : Bool := instr.extractLsb' 2 5 == 0#5
def rv16SxxiShamtLegl : Bool := rv16Instr12Is0 instr && !rv16Instr62Is0s instr
def rv16SxxiShamtIlgl : Bool :=
  (rv16Slli instr || rv16Srli instr || rv16Srai instr) && !rv16SxxiShamtLegl instr
def rv16Addi16sp : Bool := rv16LuiAddi16sp instr && rv32RdX2 instr
def rv16Lui : Bool := rv16LuiAddi16sp instr && !rv32RdX0 instr && !rv32RdX2 instr
def rv16LiIlgl : Bool := rv16Li instr && rv16RdX0 instr
def rv16LuiIlgl : Bool :=
  rv16Lui instr &&
    (rv16RdX0 instr || rv16RdX2 instr || (rv16Instr62Is0s instr && rv16Instr12Is0 instr))
def rv16LiLuiIlgl : Bool := rv16LiIlgl instr || rv16LuiIlgl instr
def rv16Addi4spnIlgl : Bool :=
  rv16Addi4spn instr && (rv16Instr12Is0 instr && rv16RdX0 instr && opcode65_00 instr)
def rv16Addi16spIlgl : Bool := rv16Addi16sp instr && rv16Instr12Is0 instr && rv16Instr62Is0s instr
def rv16Subxororand : Bool := rv16Miscalu instr && instr.extractLsb' 10 3 == 0b011#3
def rv16Sub : Bool := rv16Subxororand instr && instr.extractLsb' 5 2 == 0b00#2
def rv16Xor : Bool := rv16Subxororand instr && instr.extractLsb' 5 2 == 0b01#2
def rv16Or : Bool := rv16Subxororand instr && instr.extractLsb' 5 2 == 0b10#2
def rv16And : Bool := rv16Subxororand instr && instr.extractLsb' 5 2 == 0b11#2
def rv16Jr : Bool :=
  rv16JalrMvAdd instr && !instr.getLsbD 12 && !rv16Rs1X0 instr && rv16Rs2X0 instr
def rv16Mv : Bool :=
  rv16JalrMvAdd instr && !instr.getLsbD 12 && !rv16RdX0 instr && !rv16Rs2X0 instr
def rv16Ebreak : Bool :=
  rv16JalrMvAdd instr && instr.getLsbD 12 && rv16RdX0 instr && rv16Rs2X0 instr
def rv16Jalr : Bool :=
  rv16JalrMvAdd instr && instr.getLsbD 12 && !rv16Rs1X0 instr && rv16Rs2X0 instr
def rv16Add : Bool :=
  rv16JalrMvAdd instr && instr.getLsbD 12 && !rv16RdX0 instr && !rv16Rs2X0 instr

/-! ## Branches and the system group -/

def rv32Beq : Bool := rv32Branch instr && rv32Func3_000 instr
def rv32Bne : Bool := rv32Branch instr && rv32Func3_001 instr
def rv32Blt : Bool := rv32Branch instr && rv32Func3_100 instr
def rv32Bgt : Bool := rv32Branch instr && rv32Func3_101 instr
def rv32Bltu : Bool := rv32Branch instr && rv32Func3_110 instr
def rv32Bgtu : Bool := rv32Branch instr && rv32Func3_111 instr

def rv32Ecall : Bool :=
  rv32System instr && rv32Func3_000 instr && instr.extractLsb' 20 12 == 0b000000000000#12
def rv32Ebreak : Bool :=
  rv32System instr && rv32Func3_000 instr && instr.extractLsb' 20 12 == 0b000000000001#12
def rv32Mret : Bool :=
  rv32System instr && rv32Func3_000 instr && instr.extractLsb' 20 12 == 0b001100000010#12
def rv32Dret : Bool :=
  rv32System instr && rv32Func3_000 instr && instr.extractLsb' 20 12 == 0b011110110010#12
def rv32Wfi : Bool :=
  rv32System instr && rv32Func3_000 instr && instr.extractLsb' 20 12 == 0b000100000101#12
def rv32Csrrw : Bool := rv32System instr && rv32Func3_001 instr
def rv32Csrrs : Bool := rv32System instr && rv32Func3_010 instr
def rv32Csrrc : Bool := rv32System instr && rv32Func3_011 instr
def rv32Csrrwi : Bool := rv32System instr && rv32Func3_101 instr
def rv32Csrrsi : Bool := rv32System instr && rv32Func3_110 instr
def rv32Csrrci : Bool := rv32System instr && rv32Func3_111 instr
def rv32EcallEbreakRetWfi : Bool := rv32System instr && rv32Func3_000 instr
def rv32Csr : Bool := rv32System instr && !rv32Func3_000 instr

def decJal : Bool := rv32Jal instr || rv16Jal instr || rv16J instr
def decJalr : Bool := rv32Jalr instr || rv16Jalr instr || rv16Jr instr
def decBxx : Bool := rv32Branch instr || rv16Beqz instr || rv16Bnez instr
def decBjp : Bool := decJal instr || decJalr instr || decBxx instr
def rv32Fence : Bool := rv32Miscmem instr && rv32Func3_000 instr
def rv32FenceI : Bool := rv32Miscmem instr && rv32Func3_001 instr
def rv32FenceFencei : Bool := rv32Miscmem instr

/-! ## ALU instructions -/

def rv32Addi : Bool := rv32OpImm instr && rv32Func3_000 instr
def rv32Slti : Bool := rv32OpImm instr && rv32Func3_010 instr
def rv32Sltiu : Bool := rv32OpImm instr && rv32Func3_011 instr
def rv32Xori : Bool := rv32OpImm instr && rv32Func3_100 instr
def rv32Ori : Bool := rv32OpImm instr && rv32Func3_110 instr
def rv32Andi : Bool := rv32OpImm instr && rv32Func3_111 instr
def rv32Slli : Bool :=
  rv32OpImm instr && rv32Func3_001 instr && instr.extractLsb' 26 6 == 0b000000#6
def rv32Srli : Bool :=
  rv32OpImm instr && rv32Func3_101 instr && instr.extractLsb' 26 6 == 0b000000#6
def rv32Srai : Bool :=
  rv32OpImm instr && rv32Func3_101 instr && instr.extractLsb' 26 6 == 0b010000#6
def rv32SxxiShamtLegl : Bool := instr.getLsbD 25 == false
def rv32SxxiShamtIlgl : Bool :=
  (rv32Slli instr || rv32Srli instr || rv32Srai instr) && !rv32SxxiShamtLegl instr
def rv32Add : Bool := rv32Op instr && rv32Func3_000 instr && rv32Func7_0000000 instr
def rv32Sub : Bool := rv32Op instr && rv32Func3_000 instr && rv32Func7_0100000 instr
def rv32Sll : Bool := rv32Op instr && rv32Func3_001 instr && rv32Func7_0000000 instr
def rv32Slt : Bool := rv32Op instr && rv32Func3_010 instr && rv32Func7_0000000 instr
def rv32Sltu : Bool := rv32Op instr && rv32Func3_011 instr && rv32Func7_0000000 instr
def rv32Xor : Bool := rv32Op instr && rv32Func3_100 instr && rv32Func7_0000000 instr
def rv32Srl : Bool := rv32Op instr && rv32Func3_101 instr && rv32Func7_0000000 instr
def rv32Sra : Bool := rv32Op instr && rv32Func3_101 instr && rv32Func7_0100000 instr
def rv32Or : Bool := rv32Op instr && rv32Func3_110 instr && rv32Func7_0000000 instr
def rv32And : Bool := rv32Op instr && rv32Func3_111 instr && rv32Func7_0000000 instr
def rv32Nop : Bool :=
  rv32Addi instr && rv32Rs1X0 instr && rv32RdX0 instr && instr.extractLsb' 20 12 == 0#12
def ecallEbreak : Bool := rv32Ecall instr || rv32Ebreak instr || rv16Ebreak instr
def aluOp : Bool :=
  !rv32SxxiShamtIlgl instr && !rv16SxxiShamtIlgl instr && !rv16LiLuiIlgl instr &&
    !rv16Addi4spnIlgl instr && !rv16Addi16spIlgl instr &&
    (rv32OpImm instr || rv32Op instr && !rv32Func7_0000001 instr || rv32Auipc instr ||
      rv32Lui instr || rv16Addi4spn instr || rv16Addi instr || rv16LuiAddi16sp instr ||
      rv16Li instr || rv16Mv instr || rv16Slli instr || rv16Miscalu instr || rv16Add instr ||
      rv16Nop instr || rv32Nop instr || rv32Wfi instr || ecallEbreak instr)

/-! ## Multiplications, divisions, loads, stores and atomics -/

def rv32Mul : Bool := rv32Op instr && rv32Func3_000 instr && rv32Func7_0000001 instr
def rv32Mulh : Bool := rv32Op instr && rv32Func3_001 instr && rv32Func7_0000001 instr
def rv32Mulhsu : Bool := rv32Op instr && rv32Func3_010 instr && rv32Func7_0000001 instr
def rv32Mulhu : Bool := rv32Op instr && rv32Func3_011 instr && rv32Func7_0000001 instr
def rv32Div : Bool := rv32Op instr && rv32Func3_100 instr && rv32Func7_0000001 instr
def rv32Divu : Bool := rv32Op instr && rv32Func3_101 instr && rv32Func7_0000001 instr
def rv32Rem : Bool := rv32Op instr && rv32Func3_110 instr && rv32Func7_0000001 instr
def rv32Remu : Bool := rv32Op instr && rv32Func3_111 instr && rv32Func7_0000001 instr
def muldivOp : Bool := rv32Op instr && rv32Func7_0000001 instr
def decMulhsu : Bool := rv32Mulh instr || rv32Mulhsu instr || rv32Mulhu instr
def decMul : Bool := rv32Mul instr
def decDiv : Bool := rv32Div instr
def decDivu : Bool := rv32Divu instr
def decRem : Bool := rv32Rem instr
def decRemu : Bool := rv32Remu instr

def rv32LrW : Bool :=
  rv32Amo instr && rv32Func3_010 instr && (rv32Func7 instr).extractLsb' 2 5 == 0b00010#5
def rv32ScW : Bool :=
  rv32Amo instr && rv32Func3_010 instr && (rv32Func7 instr).extractLsb' 2 5 == 0b00011#5
def rv32AmoswapW : Bool :=
  rv32Amo instr && rv32Func3_010 instr && (rv32Func7 instr).extractLsb' 2 5 == 0b00001#5
def rv32AmoaddW : Bool :=
  rv32Amo instr && rv32Func3_010 instr && (rv32Func7 instr).extractLsb' 2 5 == 0b00000#5
def rv32AmoxorW : Bool :=
  rv32Amo instr && rv32Func3_010 instr && (rv32Func7 instr).extractLsb' 2 5 == 0b00100#5
def rv32AmoandW : Bool :=
  rv32Amo instr && rv32Func3_010 instr && (rv32Func7 instr).extractLsb' 2 5 == 0b01100#5
def rv32AmoorW : Bool :=
  rv32Amo instr && rv32Func3_010 instr && (rv32Func7 instr).extractLsb' 2 5 == 0b01000#5
def rv32AmominW : Bool :=
  rv32Amo instr && rv32Func3_010 instr && (rv32Func7 instr).extractLsb' 2 5 == 0b10000#5
def rv32AmomaxW : Bool :=
  rv32Amo instr && rv32Func3_010 instr && (rv32Func7 instr).extractLsb' 2 5 == 0b10100#5
def rv32AmominuW : Bool :=
  rv32Amo instr && rv32Func3_010 instr && (rv32Func7 instr).extractLsb' 2 5 == 0b11000#5
def rv32AmomaxuW : Bool :=
  rv32Amo instr && rv32Func3_010 instr && (rv32Func7 instr).extractLsb' 2 5 == 0b11100#5
def amoldstOp : Bool :=
  rv32Amo instr || rv32Load instr || rv32Store instr || rv16Lw instr || rv16Sw instr ||
    (rv16Lwsp instr && !rv16LwspIlgl instr) || rv16Swsp instr

def lsuInfoSize : BitVec 2 :=
  if rv32 instr then (rv32Func3 instr).extractLsb' 0 2 else 0b10#2

def lsuInfoUsign : Bool := if rv32 instr then (rv32Func3 instr).getLsbD 2 else false

def csrOp : Bool := rv32Csr instr

/-! ## Reserved encodings -/

def rv32All0sIlgl : Bool :=
  rv32Func7_0000000 instr && rv32Rs2X0 instr && rv32Rs1X0 instr && rv32Func3_000 instr &&
    rv32RdX0 instr && opcode65_00 instr && opcode42_000 instr && opcode10_00 instr

def rv32All1sIlgl : Bool :=
  rv32Func7_1111111 instr && rv32Rs2X31 instr && rv32Rs1X31 instr && rv32Func3_111 instr &&
    rv32RdX31 instr && opcode65_11 instr && opcode42_111 instr && opcode10_11 instr

def rv16All0sIlgl : Bool :=
  rv16Func3_000 instr && rv32Func3_000 instr && rv32RdX0 instr && opcode65_00 instr &&
    opcode42_000 instr && opcode10_00 instr

def rv16All1sIlgl : Bool :=
  rv16Func3_111 instr && rv32Func3_111 instr && rv32RdX31 instr && opcode65_11 instr &&
    opcode42_111 instr && opcode10_11 instr

def rvAll0s1sIlgl : Bool :=
  if rv32 instr then rv32All0sIlgl instr || rv32All1sIlgl instr
  else rv16All0sIlgl instr || rv16All1sIlgl instr

/-! ## Register needs of the 32-bit instructions -/

def rv32NeedRd : Bool :=
  !rv32RdX0 instr &&
    (!rv32Branch instr && !rv32Store instr && !rv32FenceFencei instr &&
      !rv32EcallEbreakRetWfi instr)

def rv32NeedRs1 : Bool :=
  !rv32Rs1X0 instr &&
    (!rv32Lui instr && !rv32Auipc instr && !rv32Jal instr && !rv32FenceFencei instr &&
      !rv32EcallEbreakRetWfi instr && !rv32Csrrwi instr && !rv32Csrrsi instr && !rv32Csrrci instr)

def rv32NeedRs2 : Bool :=
  !rv32Rs2X0 instr &&
    (rv32Branch instr || rv32Store instr || rv32Op instr || (rv32Amo instr && !rv32LrW instr))

/-! ## Immediates -/

def rv32IImm : BitVec 32 := BitVec.fill 20 (instr.getLsbD 31) ++ instr.extractLsb' 20 12

def rv32SImm : BitVec 32 :=
  BitVec.fill 20 (instr.getLsbD 31) ++ (instr.extractLsb' 25 7 ++ instr.extractLsb' 7 5)

def rv32BImm : BitVec 32 :=
  BitVec.fill 19 (instr.getLsbD 31) ++
    (BitVec.ofBool (instr.getLsbD 31) ++
      (BitVec.ofBool (instr.getLsbD 7) ++
        (instr.extractLsb' 25 6 ++ (instr.extractLsb' 8 4 ++ 0#1))))

def rv32UImm : BitVec 32 := instr.extractLsb' 12 20 ++ 0#12

def rv32JImm : BitVec 32 :=
  BitVec.fill 11 (instr.getLsbD 31) ++
    (BitVec.ofBool (instr.getLsbD 31) ++
      (instr.extractLsb' 12 8 ++
        (BitVec.ofBool (instr.getLsbD 20) ++ (instr.extractLsb' 21 10 ++ 0#1))))

def rv32ImmSelI : Bool := rv32OpImm instr || rv32Jalr instr || rv32Load instr
def rv32ImmSelU : Bool := rv32Lui instr || rv32Auipc instr
def rv32ImmSelJ : Bool := rv32Jal instr
def rv32ImmSelB : Bool := rv32Branch instr
def rv32ImmSelS : Bool := rv32Store instr

def rv16ImmSelCis : Bool := rv16Lwsp instr

def rv16CisImm : BitVec 32 :=
  0#24 ++
    (instr.extractLsb' 2 2 ++ (BitVec.ofBool (instr.getLsbD 12) ++ (instr.extractLsb' 4 3 ++ 0#2)))

def rv16ImmSelCili : Bool :=
  rv16Li instr || rv16Addi instr || rv16Slli instr || rv16Srai instr || rv16Srli instr ||
    rv16Andi instr

def rv16CiliImm : BitVec 32 :=
  BitVec.fill 26 (instr.getLsbD 12) ++
    (BitVec.ofBool (instr.getLsbD 12) ++ instr.extractLsb' 2 5)

def rv16ImmSelCilui : Bool := rv16Lui instr

def rv16CiluiImm : BitVec 32 :=
  BitVec.fill 14 (instr.getLsbD 12) ++
    (BitVec.ofBool (instr.getLsbD 12) ++ (instr.extractLsb' 2 5 ++ 0#12))

def rv16ImmSelCi16sp : Bool := rv16Addi16sp instr

def rv16Ci16spImm : BitVec 32 :=
  BitVec.fill 22 (instr.getLsbD 12) ++
    (BitVec.ofBool (instr.getLsbD 12) ++
      (BitVec.ofBool (instr.getLsbD 4) ++
        (BitVec.ofBool (instr.getLsbD 3) ++
          (BitVec.ofBool (instr.getLsbD 5) ++
            (BitVec.ofBool (instr.getLsbD 2) ++ (BitVec.ofBool (instr.getLsbD 6) ++ 0#4))))))

def rv16ImmSelCss : Bool := rv16Swsp instr

def rv16CssImm : BitVec 32 := 0#24 ++ (instr.extractLsb' 7 2 ++ (instr.extractLsb' 9 4 ++ 0#2))

def rv16ImmSelCiw : Bool := rv16Addi4spn instr

def rv16CiwImm : BitVec 32 :=
  0#22 ++
    (instr.extractLsb' 7 4 ++
      (BitVec.ofBool (instr.getLsbD 12) ++
        (BitVec.ofBool (instr.getLsbD 11) ++
          (BitVec.ofBool (instr.getLsbD 5) ++ (BitVec.ofBool (instr.getLsbD 6) ++ 0#2)))))

/-- The load and the store immediate of the register-based formats are the same. -/
def rv16ClImm : BitVec 32 :=
  0#25 ++
    (BitVec.ofBool (instr.getLsbD 5) ++
      (BitVec.ofBool (instr.getLsbD 12) ++
        (BitVec.ofBool (instr.getLsbD 11) ++
          (BitVec.ofBool (instr.getLsbD 10) ++ (BitVec.ofBool (instr.getLsbD 6) ++ 0#2)))))

def rv16ImmSelCl : Bool := rv16Lw instr
def rv16ImmSelCs : Bool := rv16Sw instr
def rv16CsImm : BitVec 32 := rv16ClImm instr

def rv16ImmSelCb : Bool := rv16Beqz instr || rv16Bnez instr

def rv16CbImm : BitVec 32 :=
  BitVec.fill 23 (instr.getLsbD 12) ++
    (BitVec.ofBool (instr.getLsbD 12) ++
      (instr.extractLsb' 5 2 ++
        (BitVec.ofBool (instr.getLsbD 2) ++
          (instr.extractLsb' 10 2 ++ (instr.extractLsb' 3 2 ++ 0#1)))))

def rv16ImmSelCj : Bool := rv16J instr || rv16Jal instr

def rv16CjImm : BitVec 32 :=
  BitVec.fill 20 (instr.getLsbD 12) ++
    (BitVec.ofBool (instr.getLsbD 12) ++
      (BitVec.ofBool (instr.getLsbD 8) ++
        (instr.extractLsb' 9 2 ++
          (BitVec.ofBool (instr.getLsbD 6) ++
            (BitVec.ofBool (instr.getLsbD 7) ++
              (BitVec.ofBool (instr.getLsbD 2) ++
                (BitVec.ofBool (instr.getLsbD 11) ++ (instr.extractLsb' 3 3 ++ 0#1))))))))

def rv32Imm : BitVec 32 :=
  gate (rv32ImmSelI instr) (rv32IImm instr) ||| gate (rv32ImmSelS instr) (rv32SImm instr) |||
    gate (rv32ImmSelB instr) (rv32BImm instr) ||| gate (rv32ImmSelU instr) (rv32UImm instr) |||
    gate (rv32ImmSelJ instr) (rv32JImm instr)

def rv32NeedImm : Bool :=
  rv32ImmSelI instr || rv32ImmSelS instr || rv32ImmSelB instr || rv32ImmSelU instr ||
    rv32ImmSelJ instr

def rv16Imm : BitVec 32 :=
  gate (rv16ImmSelCis instr) (rv16CisImm instr) |||
    gate (rv16ImmSelCili instr) (rv16CiliImm instr) |||
    gate (rv16ImmSelCilui instr) (rv16CiluiImm instr) |||
    gate (rv16ImmSelCi16sp instr) (rv16Ci16spImm instr) |||
    gate (rv16ImmSelCss instr) (rv16CssImm instr) |||
    gate (rv16ImmSelCiw instr) (rv16CiwImm instr) |||
    gate (rv16ImmSelCl instr) (rv16ClImm instr) |||
    gate (rv16ImmSelCs instr) (rv16CsImm instr) ||| gate (rv16ImmSelCb instr) (rv16CbImm instr) |||
    gate (rv16ImmSelCj instr) (rv16CjImm instr)

def rv16NeedImm : Bool :=
  rv16ImmSelCis instr || rv16ImmSelCili instr || rv16ImmSelCilui instr ||
    rv16ImmSelCi16sp instr || rv16ImmSelCss instr || rv16ImmSelCiw instr || rv16ImmSelCl instr ||
    rv16ImmSelCs instr || rv16ImmSelCb instr || rv16ImmSelCj instr

def needImm : Bool := if rv32 instr then rv32NeedImm instr else rv16NeedImm instr

def decImm : BitVec 32 := if rv32 instr then rv32Imm instr else rv16Imm instr

def decBjpImm : BitVec 32 :=
  gate (rv16Jal instr || rv16J instr) (rv16CjImm instr) ||| gate (rv16JalrMvAdd instr) 0#32 |||
    gate (rv16Beqz instr || rv16Bnez instr) (rv16CbImm instr) |||
    gate (rv32Jal instr) (rv32JImm instr) ||| gate (rv32Jalr instr) (rv32IImm instr) |||
    gate (rv32Branch instr) (rv32BImm instr)

/-! ## Register fields of the 16-bit formats -/

def rv16FormatCr : Bool := rv16JalrMvAdd instr
def rv16FormatCi : Bool :=
  rv16Lwsp instr || rv16Li instr || rv16LuiAddi16sp instr || rv16Addi instr || rv16Slli instr
def rv16FormatCss : Bool := rv16Swsp instr
def rv16FormatCiw : Bool := rv16Addi4spn instr
def rv16FormatCl : Bool := rv16Lw instr
def rv16FormatCs : Bool := rv16Sw instr || rv16Subxororand instr
def rv16FormatCb : Bool :=
  rv16Beqz instr || rv16Bnez instr || rv16Srli instr || rv16Srai instr || rv16Andi instr
def rv16FormatCj : Bool := rv16J instr || rv16Jal instr

def rv16CrRs1 : BitVec 5 := if rv16Mv instr then 0#5 else rv16Rs1 instr
def rv16CrRs2 : BitVec 5 := rv16Rs2 instr
def rv16CrRd : BitVec 5 :=
  if rv16Jalr instr || rv16Jr instr then 0#4 ++ BitVec.ofBool (instr.getLsbD 12) else rv16Rd instr

def rv16CiRs1 : BitVec 5 :=
  if rv16Lwsp instr then 2#5 else if rv16Li instr || rv16Lui instr then 0#5 else rv16Rs1 instr
def rv16CiRs2 : BitVec 5 := 0#5
def rv16CiRd : BitVec 5 := rv16Rd instr

def rv16CssRs1 : BitVec 5 := 2#5
def rv16CssRs2 : BitVec 5 := rv16Rs2 instr
def rv16CssRd : BitVec 5 := 0#5

def rv16CiwRss1 : BitVec 5 := 2#5
def rv16CiwRss2 : BitVec 5 := 0#5
def rv16CiwRdd : BitVec 5 := rv16Rdd instr

def rv16ClRss1 : BitVec 5 := rv16Rss1 instr
def rv16ClRss2 : BitVec 5 := 0#5
def rv16ClRdd : BitVec 5 := rv16Rdd instr

def rv16CsRss1 : BitVec 5 := rv16Rss1 instr
def rv16CsRss2 : BitVec 5 := rv16Rss2 instr
def rv16CsRdd : BitVec 5 := rv16Rss1 instr

def rv16CbRss1 : BitVec 5 := rv16Rss1 instr
def rv16CbRss2 : BitVec 5 := 0#5
def rv16CbRdd : BitVec 5 := rv16Rss1 instr

def rv16CjRss1 : BitVec 5 := 0#5
def rv16CjRss2 : BitVec 5 := 0#5
def rv16CjRdd : BitVec 5 := if rv16J instr then 0#5 else 1#5

def rv16NeedCrRs1 : Bool := rv16FormatCr instr && true
def rv16NeedCrRs2 : Bool := rv16FormatCr instr && true
def rv16NeedCrRd : Bool := rv16FormatCr instr && true
def rv16NeedCiRs1 : Bool := rv16FormatCi instr && true
def rv16NeedCiRs2 : Bool := rv16FormatCi instr && false
def rv16NeedCiRd : Bool := rv16FormatCi instr && true
def rv16NeedCssRs1 : Bool := rv16FormatCss instr && true
def rv16NeedCssRs2 : Bool := rv16FormatCss instr && true
def rv16NeedCssRd : Bool := rv16FormatCss instr && false
def rv16NeedCiwRss1 : Bool := rv16FormatCiw instr && true
def rv16NeedCiwRss2 : Bool := rv16FormatCiw instr && false
def rv16NeedCiwRdd : Bool := rv16FormatCiw instr && true
def rv16NeedClRss1 : Bool := rv16FormatCl instr && true
def rv16NeedClRss2 : Bool := rv16FormatCl instr && false
def rv16NeedClRdd : Bool := rv16FormatCl instr && true
def rv16NeedCsRss1 : Bool := rv16FormatCs instr && true
def rv16NeedCsRss2 : Bool := rv16FormatCs instr && true
def rv16NeedCsRdd : Bool := rv16FormatCs instr && rv16Subxororand instr
def rv16NeedCbRss1 : Bool := rv16FormatCb instr && true
def rv16NeedCbRss2 : Bool := rv16FormatCb instr && (rv16Beqz instr || rv16Bnez instr)
def rv16NeedCbRdd : Bool := rv16FormatCb instr && !(rv16Beqz instr || rv16Bnez instr)
def rv16NeedCjRss1 : Bool := rv16FormatCj instr && false
def rv16NeedCjRss2 : Bool := rv16FormatCj instr && false
def rv16NeedCjRdd : Bool := rv16FormatCj instr && true

def rv16Rs1en : Bool :=
  (rv16NeedCrRs1 instr || rv16NeedCiRs1 instr || rv16NeedCssRs1 instr) ||
    (rv16NeedCiwRss1 instr || rv16NeedClRss1 instr || rv16NeedCsRss1 instr ||
      rv16NeedCbRss1 instr || rv16NeedCjRss1 instr)

def rv16Rs2en : Bool :=
  (rv16NeedCrRs2 instr || rv16NeedCiRs2 instr || rv16NeedCssRs2 instr) ||
    (rv16NeedCiwRss2 instr || rv16NeedClRss2 instr || rv16NeedCsRss2 instr ||
      rv16NeedCbRss2 instr || rv16NeedCjRss2 instr)

def rv16Rden : Bool :=
  (rv16NeedCrRd instr || rv16NeedCiRd instr || rv16NeedCssRd instr) ||
    (rv16NeedCiwRdd instr || rv16NeedClRdd instr || rv16NeedCsRdd instr || rv16NeedCbRdd instr ||
      rv16NeedCjRdd instr)

def rv16Rs1idx : BitVec 5 :=
  gate (rv16NeedCrRs1 instr) (rv16CrRs1 instr) ||| gate (rv16NeedCiRs1 instr) (rv16CiRs1 instr) |||
    gate (rv16NeedCssRs1 instr) rv16CssRs1 ||| gate (rv16NeedCiwRss1 instr) rv16CiwRss1 |||
    gate (rv16NeedClRss1 instr) (rv16ClRss1 instr) |||
    gate (rv16NeedCsRss1 instr) (rv16CsRss1 instr) |||
    gate (rv16NeedCbRss1 instr) (rv16CbRss1 instr) ||| gate (rv16NeedCjRss1 instr) rv16CjRss1

def rv16Rs2idx : BitVec 5 :=
  gate (rv16NeedCrRs2 instr) (rv16CrRs2 instr) ||| gate (rv16NeedCiRs2 instr) rv16CiRs2 |||
    gate (rv16NeedCssRs2 instr) (rv16CssRs2 instr) ||| gate (rv16NeedCiwRss2 instr) rv16CiwRss2 |||
    gate (rv16NeedClRss2 instr) rv16ClRss2 ||| gate (rv16NeedCsRss2 instr) (rv16CsRss2 instr) |||
    gate (rv16NeedCbRss2 instr) rv16CbRss2 ||| gate (rv16NeedCjRss2 instr) rv16CjRss2

def rv16Rdidx : BitVec 5 :=
  gate (rv16NeedCrRd instr) (rv16CrRd instr) ||| gate (rv16NeedCiRd instr) (rv16CiRd instr) |||
    gate (rv16NeedCssRd instr) rv16CssRd ||| gate (rv16NeedCiwRdd instr) (rv16CiwRdd instr) |||
    gate (rv16NeedClRdd instr) (rv16ClRdd instr) |||
    gate (rv16NeedCsRdd instr) (rv16CsRdd instr) |||
    gate (rv16NeedCbRdd instr) (rv16CbRdd instr) ||| gate (rv16NeedCjRdd instr) (rv16CjRdd instr)

def decRs1idx : BitVec 5 := if rv32 instr then rv32Rs1 instr else rv16Rs1idx instr
def decRs2idx : BitVec 5 := if rv32 instr then rv32Rs2 instr else rv16Rs2idx instr
def decRdidx : BitVec 5 := if rv32 instr then rv32Rd instr else rv16Rdidx instr

def decRs1en : Bool :=
  if rv32 instr then rv32NeedRs1 instr else rv16Rs1en instr && !(rv16Rs1idx instr == 0#5)
def decRs2en : Bool :=
  if rv32 instr then rv32NeedRs2 instr else rv16Rs2en instr && !(rv16Rs2idx instr == 0#5)
def decRdwen : Bool :=
  if rv32 instr then rv32NeedRd instr else rv16Rden instr && !(rv16Rdidx instr == 0#5)

def decRs1x0 : Bool := decRs1idx instr == 0#5
def decRs2x0 : Bool := decRs2idx instr == 0#5

def decRv32 : Bool := rv32 instr

def decJalrRs1idx : BitVec 5 := if rv32 instr then rv32Rs1 instr else rv16Rs1 instr

end Fields

/-! ## The decode-information bus -/

section
variable (i : In)

def rv32DretIlgl : Bool := rv32Dret i.instr && !i.dbgMode

def bjpOp : Bool :=
  decBjp i.instr || rv32Mret i.instr || (rv32Dret i.instr && !rv32DretIlgl i) ||
    rv32FenceFencei i.instr

/-- A group bus: the group, `E203_DECINFO_RV32` and the group's own bits, lowest first. -/
def bus (grp : BitVec 3) (bits : List Bool) : DecInfo :=
  BitVec.setWidth 32
    (BitVec.ofBoolListLE (grp.getLsbD 0 :: grp.getLsbD 1 :: grp.getLsbD 2 :: rv32 i.instr :: bits))

theorem bus_getLsbD (grp : BitVec 3) (bits : List Bool) {k : ℕ} (hk : k < 28) :
    (bus i grp bits).getLsbD (k + 4) = bits.getD k false := by
  have hlt : k + 4 < 32 := by omega
  simp [bus, hlt]

@[simp] theorem bus_rv32 (grp : BitVec 3) (bits : List Bool) :
    (bus i grp bits).rv32 = rv32 i.instr := by
  rw [bus, DecInfo.rv32, BitVec.getLsbD_setWidth, BitVec.getLsbD_ofBoolListLE]
  rfl

@[simp] theorem bus_grp (grp : BitVec 3) (bits : List Bool) : (bus i grp bits).grp = grp := by
  apply BitVec.eq_of_getLsbD_eq
  intro k hk
  rw [bus, DecInfo.grp, BitVec.getLsbD_extractLsb', BitVec.getLsbD_setWidth,
    BitVec.getLsbD_ofBoolListLE]
  obtain rfl | rfl | rfl : k = 0 ∨ k = 1 ∨ k = 2 := by omega
  all_goals rfl

def bjpInfoBus : DecInfo :=
  bus i GRP_BJP
    [decJal i.instr || decJalr i.instr, i.prdtTaken, rv32Beq i.instr || rv16Beqz i.instr,
      rv32Bne i.instr || rv16Bnez i.instr, rv32Blt i.instr, rv32Bgt i.instr, rv32Bltu i.instr,
      rv32Bgtu i.instr, decBxx i.instr, rv32Mret i.instr, rv32Dret i.instr, rv32Fence i.instr,
      rv32FenceI i.instr]

def aluInfoBus : DecInfo :=
  bus i GRP_ALU
    [rv32Add i.instr || rv32Addi i.instr || rv32Auipc i.instr || rv16Addi4spn i.instr ||
        rv16Addi i.instr || rv16Addi16sp i.instr || rv16Add i.instr || rv16Li i.instr ||
        rv16Mv i.instr,
      rv32Sub i.instr || rv16Sub i.instr, rv32Xor i.instr || rv32Xori i.instr || rv16Xor i.instr,
      rv32Sll i.instr || rv32Slli i.instr || rv16Slli i.instr,
      rv32Srl i.instr || rv32Srli i.instr || rv16Srli i.instr,
      rv32Sra i.instr || rv32Srai i.instr || rv16Srai i.instr,
      rv32Or i.instr || rv32Ori i.instr || rv16Or i.instr,
      rv32And i.instr || rv32Andi i.instr || rv16Andi i.instr || rv16And i.instr,
      rv32Slt i.instr || rv32Slti i.instr, rv32Sltu i.instr || rv32Sltiu i.instr,
      rv32Lui i.instr || rv16Lui i.instr, needImm i.instr, rv32Auipc i.instr,
      rv16Nop i.instr || rv32Nop i.instr, rv32Ecall i.instr,
      rv32Ebreak i.instr || rv16Ebreak i.instr,
      rv32Wfi i.instr]

def csrInfoBus : DecInfo :=
  bus i GRP_CSR
    ([rv32Csrrw i.instr || rv32Csrrwi i.instr, rv32Csrrs i.instr || rv32Csrrsi i.instr,
        rv32Csrrc i.instr || rv32Csrrci i.instr,
        rv32Csrrwi i.instr || rv32Csrrsi i.instr || rv32Csrrci i.instr] ++
      (List.range 5).map (fun k => (rv32Rs1 i.instr).getLsbD k) ++ [rv32Rs1X0 i.instr] ++
      (List.range 12).map (fun k => (i.instr.extractLsb' 20 12).getLsbD k))

def muldivInfoBus : DecInfo :=
  bus i GRP_MULDIV
    [rv32Mul i.instr, rv32Mulh i.instr, rv32Mulhsu i.instr, rv32Mulhu i.instr, rv32Div i.instr,
      rv32Divu i.instr, rv32Rem i.instr, rv32Remu i.instr, i.muldivB2b]

def aguInfoBus : DecInfo :=
  bus i GRP_AGU
    [rv32Load i.instr || rv32LrW i.instr || rv16Lw i.instr || rv16Lwsp i.instr,
      rv32Store i.instr || rv32ScW i.instr || rv16Sw i.instr || rv16Swsp i.instr,
      (lsuInfoSize i.instr).getLsbD 0, (lsuInfoSize i.instr).getLsbD 1, lsuInfoUsign i.instr,
      rv32LrW i.instr || rv32ScW i.instr, rv32Amo i.instr && !(rv32LrW i.instr || rv32ScW i.instr),
      rv32AmoswapW i.instr, rv32AmoaddW i.instr, rv32AmoandW i.instr, rv32AmoorW i.instr,
      rv32AmoxorW i.instr, rv32AmomaxW i.instr, rv32AmominW i.instr, rv32AmomaxuW i.instr,
      rv32AmominuW i.instr, needImm i.instr]

def decInfo : DecInfo :=
  gate (aluOp i.instr) (aluInfoBus i) ||| gate (amoldstOp i.instr) (aguInfoBus i) |||
    gate (bjpOp i) (bjpInfoBus i) ||| gate (csrOp i.instr) (csrInfoBus i) |||
    gate (muldivOp i.instr) (muldivInfoBus i)

def leglOps : Bool :=
  aluOp i.instr || amoldstOp i.instr || bjpOp i || csrOp i.instr || muldivOp i.instr

/-- Never with 32 registers. -/
def rvIndexIlgl : Bool := false

def decIlegl : Bool :=
  rvAll0s1sIlgl i.instr || rvIndexIlgl || rv16Addi16spIlgl i.instr || rv16Addi4spnIlgl i.instr ||
    rv16LiLuiIlgl i.instr || rv16SxxiShamtIlgl i.instr || rv32SxxiShamtIlgl i.instr ||
    rv32DretIlgl i || rv16LwspIlgl i.instr || !leglOps i

end

end E203.Decode
