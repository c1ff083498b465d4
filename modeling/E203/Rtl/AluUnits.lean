import E203.Rtl.AluDpath

/-! # The single-cycle units of the ALU

The regular ALU (`e203_exu_alu_rglr.v`), the branch and jump unit (`e203_exu_alu_bjp.v`) and the CSR
unit (`e203_exu_alu_csrctrl.v`).  The first two compute through the shared datapath: each builds its
slice of the datapath mux (`req`) from the operands and reads the result back.
-/

namespace E203
set_option autoImplicit false

/-! ## The regular ALU -/

namespace Rglr

/-- The operands, gated with `alu_op`. -/
structure In where
  aluIRs1 : BitVec 32
  aluIRs2 : BitVec 32
  aluIInfo : DecInfo
  aluIImm : BitVec 32
  aluIPc : BitVec 32
deriving DecidableEq

section
variable (i : In)

def op2imm : Bool := i.aluIInfo.getLsbD 15
def op1pc : Bool := i.aluIInfo.getLsbD 16
def nop : Bool := i.aluIInfo.getLsbD 17
def ecall : Bool := i.aluIInfo.getLsbD 18
def ebreak : Bool := i.aluIInfo.getLsbD 19
def wfi : Bool := i.aluIInfo.getLsbD 20

/-- NOP is encoded as `ADDI` and does not request the adder. -/
def req : AluDpath.Req where
  op1 := if op1pc i then i.aluIPc else i.aluIRs1
  op2 := if op2imm i then i.aluIImm else i.aluIRs2
  add := i.aluIInfo.getLsbD 4 && !nop i
  sub := i.aluIInfo.getLsbD 5
  xor := i.aluIInfo.getLsbD 6
  sll := i.aluIInfo.getLsbD 7
  srl := i.aluIInfo.getLsbD 8
  sra := i.aluIInfo.getLsbD 9
  or := i.aluIInfo.getLsbD 10
  and := i.aluIInfo.getLsbD 11
  slt := i.aluIInfo.getLsbD 12
  sltu := i.aluIInfo.getLsbD 13
  mvop2 := i.aluIInfo.getLsbD 14

def aluOCmtEcall : Bool := ecall i
def aluOCmtEbreak : Bool := ebreak i
def aluOCmtWfi : Bool := wfi i
def aluOWbckErr : Bool := aluOCmtEcall i || aluOCmtEbreak i || aluOCmtWfi i

end
end Rglr

/-! ## Branches and jumps -/

namespace Bjp

/-- The operands, gated with `bjp_op`. -/
structure In where
  bjpIRs1 : BitVec 32
  bjpIRs2 : BitVec 32
  bjpIInfo : DecInfo
  bjpIPc : BitVec 32
deriving DecidableEq

section
variable (i : In)

def jump : Bool := i.bjpIInfo.getLsbD 4
def bjpIBprdt : Bool := i.bjpIInfo.getLsbD 5
def bxx : Bool := i.bjpIInfo.getLsbD 12
def mret : Bool := i.bjpIInfo.getLsbD 13
def dret : Bool := i.bjpIInfo.getLsbD 14
def fencei : Bool := i.bjpIInfo.getLsbD 16
def wbckLink : Bool := jump i

/-- A jump adds its length to the PC, for the link register; a branch compares. -/
def req : AluDpath.Req where
  op1 := if wbckLink i then i.bjpIPc else i.bjpIRs1
  op2 := if wbckLink i then (if i.bjpIInfo.rv32 then 4#32 else 2#32) else i.bjpIRs2
  cmpEq := i.bjpIInfo.getLsbD 6
  cmpNe := i.bjpIInfo.getLsbD 7
  cmpLt := i.bjpIInfo.getLsbD 8
  cmpGt := i.bjpIInfo.getLsbD 9
  cmpLtu := i.bjpIInfo.getLsbD 10
  cmpGtu := i.bjpIInfo.getLsbD 11
  add := wbckLink i

def bjpOCmtBjp : Bool := bxx i || jump i
def bjpOCmtMret : Bool := mret i
def bjpOCmtDret : Bool := dret i
def bjpOCmtFencei : Bool := fencei i
def bjpOCmtPrdt : Bool := bjpIBprdt i
def bjpOCmtRslv (bjpReqAluCmpRes : Bool) : Bool := if jump i then true else bjpReqAluCmpRes
def bjpOWbckErr : Bool := false

end
end Bjp

/-! ## CSR accesses -/

namespace Csrctrl

/-- The operands, gated with `csr_op`, and the answers of the CSR file and of the extension
accelerator. -/
structure In where
  csrIValid : Bool
  csrIRs1 : BitVec 32
  csrIInfo : DecInfo
  csrIRdwen : Bool
  csrAccessIlgl : Bool
  readCsrDat : BitVec 32
  eaiXsOff : Bool
  eaiCsrReady : Bool
  eaiCsrRdata : BitVec 32
deriving DecidableEq

section
variable (i : In)

def csrrw : Bool := i.csrIInfo.getLsbD 4
def csrrs : Bool := i.csrIInfo.getLsbD 5
def csrrc : Bool := i.csrIInfo.getLsbD 6
def rs1imm : Bool := i.csrIInfo.getLsbD 7
def zimm : BitVec 5 := i.csrIInfo.extractLsb' 8 5
def rs1is0 : Bool := i.csrIInfo.getLsbD 13
def csrIdx : BitVec 12 := i.csrIInfo.extractLsb' 14 12

def csrSelEai : Bool := (csrIdx i).extractLsb' 8 4 == 0xE#4
def selEai : Bool := csrSelEai i && !i.eaiXsOff
def addiCondi : Bool := if selEai i then i.eaiCsrReady else true

def csrOValid : Bool := i.csrIValid && addiCondi i
def eaiCsrValid (csrOReady : Bool) : Bool := selEai i && i.csrIValid && csrOReady
def csrIReady (csrOReady : Bool) : Bool :=
  if selEai i then i.eaiCsrReady && csrOReady else csrOReady

def csrOWbckErr : Bool := i.csrAccessIlgl
def csrOWbckWdat : BitVec 32 := if selEai i then i.eaiCsrRdata else i.readCsrDat

def csrOp1 : BitVec 32 := if rs1imm i then 0#27 ++ zimm i else i.csrIRs1
def csrRdEn : Bool :=
  i.csrIValid && ((if csrrw i then i.csrIRdwen else false) || csrrs i || csrrc i)
def csrWrEn : Bool := i.csrIValid && (csrrw i || ((csrrs i || csrrc i) && !rs1is0 i))
def csrEna (csrOReady : Bool) : Bool := csrOValid i && csrOReady && !selEai i

def wbckCsrDat : BitVec 32 :=
  gate (csrrw i) (csrOp1 i) ||| gate (csrrs i) (csrOp1 i ||| i.readCsrDat) |||
    gate (csrrc i) (~~~csrOp1 i &&& i.readCsrDat)

end
end Csrctrl
end E203
