import E203.Rtl.Defines

/-! # The shared ALU datapath (`e203_exu_alu_dpath.v`)

One adder, one left shifter, one exclusive-or unit and two 33-bit holding buffers serve the regular
ALU, the branch unit, the AGU and the multiplier/divider.

* `Req`: what a 32-bit requestor drives onto the datapath mux; `mux` is the mux itself.
* `MdvReq`: what the multiplier/divider drives onto the 35-bit adder.
* `adderRes`, `cmpRes`, `dpathRes`: the results; `Sbf.step`: the two shared buffers.
-/

namespace E203.AluDpath
set_option autoImplicit false

/-- One requestor's slice of the datapath mux. -/
structure Req where
  op1 : BitVec 32 := 0
  op2 : BitVec 32 := 0
  max : Bool := false
  min : Bool := false
  maxu : Bool := false
  minu : Bool := false
  add : Bool := false
  sub : Bool := false
  or : Bool := false
  xor : Bool := false
  and : Bool := false
  sll : Bool := false
  srl : Bool := false
  sra : Bool := false
  slt : Bool := false
  sltu : Bool := false
  mvop2 : Bool := false
  cmpEq : Bool := false
  cmpNe : Bool := false
  cmpLt : Bool := false
  cmpGt : Bool := false
  cmpLtu : Bool := false
  cmpGtu : Bool := false
deriving DecidableEq

/-- `{DPATH_MUX_WIDTH{sel}} & {...}`. -/
def Req.gated (sel : Bool) (r : Req) : Req := if sel then r else {}

/-- The bitwise or of two slices of the mux. -/
def Req.union (a b : Req) : Req where
  op1 := a.op1 ||| b.op1
  op2 := a.op2 ||| b.op2
  max := a.max || b.max
  min := a.min || b.min
  maxu := a.maxu || b.maxu
  minu := a.minu || b.minu
  add := a.add || b.add
  sub := a.sub || b.sub
  or := a.or || b.or
  xor := a.xor || b.xor
  and := a.and || b.and
  sll := a.sll || b.sll
  srl := a.srl || b.srl
  sra := a.sra || b.sra
  slt := a.slt || b.slt
  sltu := a.sltu || b.sltu
  mvop2 := a.mvop2 || b.mvop2
  cmpEq := a.cmpEq || b.cmpEq
  cmpNe := a.cmpNe || b.cmpNe
  cmpLt := a.cmpLt || b.cmpLt
  cmpGt := a.cmpGt || b.cmpGt
  cmpLtu := a.cmpLtu || b.cmpLtu
  cmpGtu := a.cmpGtu || b.cmpGtu

/-- The multiplier/divider's request for the 35-bit adder. -/
structure MdvReq where
  op1 : BitVec 35 := 0
  op2 : BitVec 35 := 0
  add : Bool := false
  sub : Bool := false
deriving DecidableEq

/-- The request lines of the four users of the datapath. -/
structure In where
  aluReqAlu : Bool := false
  aluReq : Req := {}
  bjpReqAlu : Bool := false
  bjpReq : Req := {}
  aguReqAlu : Bool := false
  aguReq : Req := {}
  muldivReqAlu : Bool := false
  muldivReq : MdvReq := {}
deriving DecidableEq

section
variable (i : In)

/-- The ALU-datapath mux over the three 32-bit requestors. -/
def mux : Req :=
  ((i.aluReq.gated i.aluReqAlu).union (i.bjpReq.gated i.bjpReqAlu)).union
    (i.aguReq.gated i.aguReqAlu)

def miscOp1 : BitVec 32 := (mux i).op1
def miscOp2 : BitVec 32 := (mux i).op2

/-! ## The shifter -/

def opShift : Bool := (mux i).sra || (mux i).sll || (mux i).srl

/-- Right shifts are left shifts of the reversed operand. -/
def shifterIn1 : BitVec 32 :=
  gate (opShift i)
    (if (mux i).sra || (mux i).srl then i.aluReq.op1.reverse else i.aluReq.op1)

def shifterIn2 : BitVec 5 := gate (opShift i) (i.aluReq.op2.extractLsb' 0 5)

def shifterRes : BitVec 32 := shifterIn1 i <<< shifterIn2 i

def sllRes : BitVec 32 := shifterRes i
def srlRes : BitVec 32 := (shifterRes i).reverse
def effMask : BitVec 32 := BitVec.allOnes 32 >>> shifterIn2 i

def sraRes : BitVec 32 :=
  (srlRes i &&& effMask i) ||| (BitVec.fill 32 (i.aluReq.op1.getLsbD 31) &&& ~~~effMask i)

/-! ## The adder -/

def opUnsigned : Bool :=
  (mux i).sltu || (mux i).cmpLtu || (mux i).cmpGtu || (mux i).maxu || (mux i).minu

def miscAdderOp1 : BitVec 35 :=
  BitVec.fill 3 (!opUnsigned i && (miscOp1 i).getLsbD 31) ++ miscOp1 i

def miscAdderOp2 : BitVec 35 :=
  BitVec.fill 3 (!opUnsigned i && (miscOp2 i).getLsbD 31) ++ miscOp2 i

def adderOp1 : BitVec 35 := if i.muldivReqAlu then i.muldivReq.op1 else miscAdderOp1 i
def adderOp2 : BitVec 35 := if i.muldivReqAlu then i.muldivReq.op2 else miscAdderOp2 i
def adderAdd : Bool := if i.muldivReqAlu then i.muldivReq.add else (mux i).add

def adderSub : Bool :=
  if i.muldivReqAlu then i.muldivReq.sub
  else
    (mux i).sub ||
      ((mux i).cmpLt || (mux i).cmpGt || (mux i).cmpLtu || (mux i).cmpGtu ||
        (mux i).max || (mux i).maxu || (mux i).min || (mux i).minu || (mux i).slt || (mux i).sltu)

def adderAddsub : Bool := adderAdd i || adderSub i
def adderIn1 : BitVec 35 := gate (adderAddsub i) (adderOp1 i)
def adderIn2 : BitVec 35 :=
  gate (adderAddsub i) (if adderSub i then ~~~adderOp2 i else adderOp2 i)
def adderCin : Bool := adderAddsub i && adderSub i

def adderRes : BitVec 35 := adderIn1 i + adderIn2 i + BitVec.setWidth 35 (BitVec.ofBool (adderCin i))

/-! ## The logic unit and the compare result -/

def xorerOp : Bool := (mux i).xor || ((mux i).cmpEq || (mux i).cmpNe)
def xorerRes : BitVec 32 := gate (xorerOp i) (miscOp1 i) ^^^ gate (xorerOp i) (miscOp2 i)
def orerRes : BitVec 32 := miscOp1 i ||| miscOp2 i
def anderRes : BitVec 32 := miscOp1 i &&& miscOp2 i

def neq : Bool := xorerRes i != 0#32
def cmpResNe : Bool := (mux i).cmpNe && neq i
def cmpResEq : Bool := (mux i).cmpEq && !neq i
def cmpResLt : Bool := (mux i).cmpLt && (adderRes i).getLsbD 32
def cmpResLtu : Bool := (mux i).cmpLtu && (adderRes i).getLsbD 32
def op1GtOp2 : Bool := !(adderRes i).getLsbD 32
def cmpResGt : Bool := (mux i).cmpGt && op1GtOp2 i
def cmpResGtu : Bool := (mux i).cmpGtu && op1GtOp2 i

def cmpRes : Bool :=
  cmpResEq i || cmpResNe i || cmpResLt i || cmpResGt i || cmpResLtu i || cmpResGtu i

def mvop2Res : BitVec 32 := miscOp2 i

def opSlttu : Bool := (mux i).slt || (mux i).sltu
def slttuRes : BitVec 32 := if opSlttu i && (adderRes i).getLsbD 32 then 1#32 else 0#32

def maxminSelOp1 : Bool :=
  (((mux i).max || (mux i).maxu) && op1GtOp2 i) || (((mux i).min || (mux i).minu) && !op1GtOp2 i)

def maxminRes : BitVec 32 := if maxminSelOp1 i then miscOp1 i else miscOp2 i

/-- The final result mux. -/
def dpathRes : BitVec 32 :=
  gate (mux i).or (orerRes i) ||| gate (mux i).and (anderRes i) ||| gate (mux i).xor (xorerRes i) |||
    gate ((mux i).add || (mux i).sub) ((adderRes i).extractLsb' 0 32) |||
    gate (mux i).srl (srlRes i) ||| gate (mux i).sll (sllRes i) ||| gate (mux i).sra (sraRes i) |||
    gate (mux i).mvop2 (mvop2Res i) ||| gate (opSlttu i) (slttuRes i) |||
    gate ((mux i).max || (mux i).maxu || (mux i).min || (mux i).minu) (maxminRes i)

end

/-! ## The shared buffers -/

/-- The two 33-bit shared buffers; they have no reset. -/
structure Sbf where
  sbf0 : BitVec 33
  sbf1 : BitVec 33
deriving DecidableEq

/-- One requestor's write port to the shared buffers. -/
structure SbfWr (w : ℕ) where
  ena0 : Bool
  nxt0 : BitVec w
  ena1 : Bool
  nxt1 : BitVec w

/-- The buffers belong to the multiplier/divider while it requests the datapath and to the AGU
otherwise. -/
def Sbf.step (muldivReqAlu : Bool) (muldivSbf : SbfWr 33) (aguSbf : SbfWr 32) (s : Sbf) : Sbf where
  sbf0 := dfflr (if muldivReqAlu then muldivSbf.ena0 else aguSbf.ena0)
    (if muldivReqAlu then muldivSbf.nxt0 else 0#1 ++ aguSbf.nxt0) s.sbf0
  sbf1 := dfflr (if muldivReqAlu then muldivSbf.ena1 else aguSbf.ena1)
    (if muldivReqAlu then muldivSbf.nxt1 else 0#1 ++ aguSbf.nxt1) s.sbf1

/-! ## What the adder computes for the multiplier/divider -/

/-- While the multiplier/divider requests an addition the adder adds its operands. -/
theorem adderRes_muldiv_add {i : In} (h : i.muldivReqAlu = true) (ha : i.muldivReq.add = true)
    (hs : i.muldivReq.sub = false) : adderRes i = i.muldivReq.op1 + i.muldivReq.op2 := by
  simp [adderRes, adderIn1, adderIn2, adderCin, adderAddsub, adderAdd, adderSub, adderOp1,
    adderOp2, h, ha, hs]

/-- While it requests a subtraction the adder subtracts, by complement and carry. -/
theorem adderRes_muldiv_sub {i : In} (h : i.muldivReqAlu = true) (hs : i.muldivReq.sub = true) :
    adderRes i = i.muldivReq.op1 - i.muldivReq.op2 := by
  have hneg : i.muldivReq.op1 + ~~~i.muldivReq.op2 + 1#35 = i.muldivReq.op1 - i.muldivReq.op2 := by
    rw [BitVec.sub_eq_add_neg, BitVec.neg_eq_not_add, BitVec.add_assoc]
  simp [adderRes, adderIn1, adderIn2, adderCin, adderAddsub, adderSub, adderOp1, adderOp2, h, hs,
    hneg]

end E203.AluDpath
