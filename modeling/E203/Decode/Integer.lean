import E203.Decode.Csr
import E203.Decode.Memory
import E203.Isa.RV32I

/-! # The decoder on integer instructions

`IntWires d ins`: what the decoder says about a legal word that is the integer computation, load,
store, branch or jump `ins`: its registers, its immediate, and the bits of its group on the
information bus.  `intWires` proves it, one format at a time.
-/

namespace E203.Isa
set_option autoImplicit false

namespace Instr

/-- Computations of the regular ALU. -/
def isAlu : Instr → Bool
  | .op .. | .opImm .. | .lui .. | .auipc .. => true
  | _ => false

def isLoad : Instr → Bool
  | .load .. => true
  | _ => false

def isStore : Instr → Bool
  | .store .. => true
  | _ => false

def isJump : Instr → Bool
  | .jal .. | .jalr .. => true
  | _ => false

def isBranch : Instr → Bool
  | .branch .. => true
  | _ => false

/-- Integer computations, loads, stores, branches and jumps. -/
def isInteger (ins : Instr) : Bool :=
  ins.isAlu || ins.isLoad || ins.isStore || ins.isJump || ins.isBranch

/-- The function that the regular ALU applies to its operands; `LUI` hands the second one through. -/
def fn : Instr → Option AluFn
  | .op fn _ _ _ | .opImm fn _ _ _ => some fn
  | .auipc _ _ => some .add
  | _ => none

def hasImm : Instr → Bool
  | .op .. => false
  | _ => true

def isAuipc : Instr → Bool
  | .auipc .. => true
  | _ => false

/-- The bits of the regular ALU group from `E203_DECINFO_ALU_ADD` on. -/
def aluBits (ins : Instr) : List Bool :=
  [decide (ins.fn = some .add), decide (ins.fn = some .sub), decide (ins.fn = some .xor),
    decide (ins.fn = some .sll), decide (ins.fn = some .srl), decide (ins.fn = some .sra),
    decide (ins.fn = some .or), decide (ins.fn = some .and), decide (ins.fn = some .slt),
    decide (ins.fn = some .sltu), decide (ins.fn = none), ins.hasImm, ins.isAuipc, false, false,
    false, false]

def size : Instr → BitVec 2
  | .load z .. | .store z .. => z.code
  | _ => 0b00#2

def isUnsigned : Instr → Bool
  | .load _ u .. => u
  | _ => false

/-- The bits of the address-generation group from `E203_DECINFO_AGU_LOAD` on. -/
def aguBits (ins : Instr) : List Bool :=
  [ins.isLoad, ins.isStore, ins.size.getLsbD 0, ins.size.getLsbD 1, ins.isUnsigned, false, false,
    false, false, false, false, false, false, false, false, false, true]

/-- The registers that the regular ALU or the address-generation unit reads. -/
def rs1 : Instr → Option (BitVec 5)
  | .op _ _ r _ | .opImm _ _ r _ | .load _ _ _ r _ | .store _ r _ _ => some r
  | _ => none

def rs2 : Instr → Option (BitVec 5)
  | .op _ _ _ r | .store _ _ r _ => some r
  | _ => none

/-- The immediate that the decoder makes is `x`; of a shift only the amount counts. -/
def ImmIs (x : BitVec 32) : Instr → Prop
  | .opImm fn _ _ imm =>
    x.extractLsb' 0 5 = imm.extractLsb' 0 5 ∧ (fn.isShift = false → x = imm)
  | .lui _ imm | .auipc _ imm | .load _ _ _ _ imm | .store _ _ _ imm => x = imm
  | _ => True

end Instr

/-! ## Control transfers -/

/-- The instructions that `Ctrl` describes. -/
def Instr.ctrl : Instr → Option CtrlOp
  | .branch cond rs1 rs2 offset => some (.branch cond rs1 rs2 offset)
  | .jal _ offset => some (.jal offset)
  | .jalr _ rs1 offset => some (.jalr rs1 offset)
  | _ => none

section
variable {w : BitVec 32} {ins : Instr} {op : CtrlOp}

theorem ctrl_of_decode32 (h : decode32 w = some ins) (hc : ins.ctrl = some op) :
    CtrlOp.decode32 w = some op := by
  have ho := opcode_of_decode32 h
  rw [decode32, ho] at h
  cases ins
  case branch =>
    obtain ⟨k, hk, he⟩ := Option.map_eq_some_iff.mp (h : Option.map _ _ = some _)
    have ho' : w.extractLsb' 0 7 = 0b1100011#7 := ho
    have hk' : Cond.decode (w.extractLsb' 12 3) = some k := hk
    cases he
    cases hc
    rw [CtrlOp.decode32, if_pos ho', hk']
    rfl
  case jal =>
    have ho' : w.extractLsb' 0 7 = 0b1101111#7 := ho
    cases Option.some.inj h
    cases hc
    rw [CtrlOp.decode32, ho', if_neg (by decide), if_pos rfl]
  case jalr =>
    have ho' : w.extractLsb' 0 7 = 0b1100111#7 := ho
    obtain ⟨hf, h⟩ | ⟨-, h⟩ := ite_eq_iff.mp (h : (if _ then _ else none) = some _)
    · have hf' : w.extractLsb' 12 3 = 0b000#3 := hf
      cases Option.some.inj h
      cases hc
      rw [CtrlOp.decode32, ho', hf', if_neg (by decide), if_neg (by decide), if_pos ⟨rfl, rfl⟩]
      rfl
    · cases h
  all_goals cases hc

theorem ctrl_of_decodeCAlu (h : decodeCAlu w = some ins) : ins.ctrl = none := by
  unfold decodeCAlu at h
  repeat' split at h
  all_goals cases h
  all_goals rfl

theorem ctrl_of_decodeC1 (hlo : w.extractLsb' 0 2 = 0b01#2) (h : decodeC1 w = some ins)
    (hc : ins.ctrl = some op) : CtrlOp.decode16 w = some op := by
  rw [decodeC1] at h
  obtain hf | hf | hf | hf | hf | hf | hf | hf := Decode.funct3_cases (funct3C w)
  all_goals
    have hf' : w.extractLsb' 13 3 = _ := hf
    rw [hf] at h
    rw [CtrlOp.decode16, hlo, hf']
  case inr.inr.inr.inl =>
    obtain ⟨-, h⟩ | ⟨-, h⟩ := ite_eq_iff.mp (h : (if _ then none else _) = some ins)
    · cases h
    · obtain ⟨-, h⟩ | ⟨-, h⟩ := ite_eq_iff.mp h
      all_goals
        cases Option.some.inj h
        cases hc
  case inr.inr.inr.inr.inl =>
    have hnone := ctrl_of_decodeCAlu h
    rw [hc] at hnone
    cases hnone
  all_goals
    cases Option.some.inj h
    cases hc
  case inr.inl | inr.inr.inr.inr.inr.inl => rw [if_pos (by decide)]
  case inr.inr.inr.inr.inr.inr.inl =>
    rw [if_neg (by decide), if_pos (by decide)]
    rfl
  case inr.inr.inr.inr.inr.inr.inr =>
    rw [if_neg (by decide), if_neg (by decide), if_pos (by decide)]
    rfl

theorem ctrl_of_decodeC2 (hlo : w.extractLsb' 0 2 = 0b10#2) (h : decodeC2 w = some ins)
    (hc : ins.ctrl = some op) : CtrlOp.decode16 w = some op := by
  have hcr : funct3C w = 0b100#3 ∧ decodeCr w = some ins := by
    rw [decodeC2] at h
    obtain hf | hf | hf | hf | hf | hf | hf | hf := Decode.funct3_cases (funct3C w)
    all_goals rw [hf] at h
    case inr.inr.inr.inr.inl => exact ⟨hf, h⟩
    case inl | inr.inr.inl =>
      obtain ⟨-, h⟩ | ⟨-, h⟩ := ite_eq_iff.mp (h : (if _ then none else _) = some ins)
      · cases h
      · cases Option.some.inj h
        cases hc
    case inr.inr.inr.inr.inr.inr.inl =>
      cases Option.some.inj h
      cases hc
    all_goals cases (h : none = some ins)
  obtain ⟨hf, h⟩ := hcr
  have hf' : w.extractLsb' 13 3 = _ := hf
  rw [decodeCr] at h
  obtain ⟨hrs2, h⟩ | ⟨hrs2, h⟩ := ite_eq_iff.mp h
  · obtain ⟨hrd, h⟩ | ⟨hrd, h⟩ := ite_eq_iff.mp h
    · obtain ⟨-, h⟩ | ⟨-, h⟩ := ite_eq_iff.mp h
      · cases Option.some.inj h
        cases hc
      · cases h
    · cases Option.some.inj h
      cases hc
      rw [CtrlOp.decode16, hlo, hf', if_neg (by decide), if_neg (by decide), if_neg (by decide),
        if_pos ⟨rfl, rfl, hrd, hrs2⟩]
      rfl
  · cases Option.some.inj h
    cases hc

theorem ctrl_of_decode (h : decode w = some ins) (hc : ins.ctrl = some op) :
    Ctrl.decode w = some ⟨decide (w.extractLsb' 0 2 = 0b11#2), op⟩ := by
  have hx : ∀ x : BitVec 2, x = 0b00#2 ∨ x = 0b01#2 ∨ x = 0b10#2 ∨ x = 0b11#2 := by decide
  rw [decode] at h
  rw [Ctrl.decode]
  obtain hlo | hlo | hlo | hlo := hx (w.extractLsb' 0 2)
  all_goals rw [hlo] at h ⊢
  · have h0 : decodeC0 w = some ins := h
    unfold decodeC0 at h0
    repeat' split at h0
    all_goals cases h0
    all_goals cases hc
  · rw [if_neg (by decide), ctrl_of_decodeC1 hlo h hc]
    rfl
  · rw [if_neg (by decide), ctrl_of_decodeC2 hlo h hc]
    rfl
  · rw [if_pos rfl, ctrl_of_decode32 h hc]
    rfl

end
end E203.Isa

namespace E203.Decode
set_option autoImplicit false

/-- The decoder's outputs on the integer instruction `ins`. -/
structure IntWires (d : In) (ins : Isa.Instr) : Prop where
  rdidx : ins.dest ≠ 0#5 → decRdidx d.instr = ins.dest
  rdwen : decRdwen d.instr = !(ins.dest == 0#5)
  rs1 : ∀ r ∈ ins.rs1, decRs1idx d.instr = r ∧ decRs1en d.instr = !(r == 0#5)
  rs2 : ∀ r ∈ ins.rs2, decRs2idx d.instr = r ∧ decRs2en d.instr = !(r == 0#5)
  imm : ins.isAlu = false ∨ ins.dest ≠ 0#5 → ins.ImmIs (decImm d.instr)
  alu : ins.isAlu = true → ins.dest ≠ 0#5 → decInfo d = bus d GRP_ALU ins.aluBits
  agu : ins.isLoad = true ∨ ins.isStore = true → decInfo d = bus d GRP_AGU ins.aguBits

/-! ## Immediates -/

theorem rv32SImm_eq (w : BitVec 32) : rv32SImm w = Isa.immS w := by
  have hmsb : (w.extractLsb' 25 7 ++ w.extractLsb' 7 5).msb = w.getLsbD 31 := by
    rw [BitVec.msb_append]
    simp [BitVec.msb_eq_getLsbD_last]
  rw [rv32SImm, Isa.immS, ← hmsb, Lib.fill_append_msb]

theorem rv16CiwImm_eq (w : BitVec 32) : rv16CiwImm w = Isa.immCIW w := by
  rw [rv16CiwImm, Isa.immCIW, BitVec.setWidth_eq_append (by omega), Lib.extractLsb'_succ_append w _ 11 1]
  simp only [Lib.extractLsb'_one]
  rfl
theorem rv16ClImm_eq (w : BitVec 32) : rv16ClImm w = Isa.immCL w := by
  rw [rv16ClImm, Isa.immCL, BitVec.setWidth_eq_append (by omega), Lib.extractLsb'_succ_append w _ 10 2,
    Lib.extractLsb'_succ_append w _ 10 1]
  simp only [Lib.extractLsb'_one]
  rfl
theorem rv16CisImm_eq (w : BitVec 32) : rv16CisImm w = Isa.immCLwsp w := by
  rw [rv16CisImm, Isa.immCLwsp, BitVec.setWidth_eq_append (by omega)]
  simp only [Lib.extractLsb'_one]
  rfl
theorem rv16CssImm_eq (w : BitVec 32) : rv16CssImm w = Isa.immCSwsp w := by
  rw [rv16CssImm, Isa.immCSwsp, BitVec.setWidth_eq_append (by omega)]
  rfl
theorem rv16CiliImm_eq (w : BitVec 32) : rv16CiliImm w = Isa.immCI w := by
  unfold rv16CiliImm Isa.immCI
  rw [Lib.fill_ofBool_append]
  simp only [Lib.extractLsb'_one]
theorem rv16CiluiImm_eq (w : BitVec 32) : rv16CiluiImm w = Isa.immCLui w := by
  unfold rv16CiluiImm Isa.immCLui
  rw [Lib.fill_ofBool_append]
  simp only [Lib.extractLsb'_one]
theorem rv16Ci16spImm_eq (w : BitVec 32) : rv16Ci16spImm w = Isa.immCI16sp w := by
  unfold rv16Ci16spImm Isa.immCI16sp
  rw [Lib.fill_ofBool_append, Lib.extractLsb'_succ_append w _ 3 1]
  simp only [Lib.extractLsb'_one]
  rfl

/-! The amounts of the shifts. -/

theorem extractLsb'_immI (w : BitVec 32) : (Isa.immI w).extractLsb' 0 5 = w.extractLsb' 20 5 := by
  apply BitVec.eq_of_getLsbD_eq
  intro k hk
  have hlt : k < 12 ∧ k < 32 := by omega
  rw [Isa.immI, BitVec.getLsbD_extractLsb', BitVec.getLsbD_signExtend, BitVec.getLsbD_extractLsb',
    BitVec.getLsbD_extractLsb']
  simp [hk, hlt]

theorem extractLsb'_immCI (w : BitVec 32) : (Isa.immCI w).extractLsb' 0 5 = w.extractLsb' 2 5 := by
  apply BitVec.eq_of_getLsbD_eq
  intro k hk
  have hlt : k < 32 ∧ k < 6 := by omega
  rw [Isa.immCI, BitVec.getLsbD_extractLsb', BitVec.getLsbD_signExtend, BitVec.getLsbD_append,
    BitVec.getLsbD_extractLsb']
  simp [hk, hlt]

theorem extractLsb'_setWidth (x : BitVec 5) : (x.setWidth 32).extractLsb' 0 5 = x := by
  apply BitVec.eq_of_getLsbD_eq
  intro k hk
  simp [hk]
  omega

section
variable {d : In} {ins : Isa.Instr}

theorem decInfo_of_aluOp (h : aluOp d.instr = true) : decInfo d = aluInfoBus d := by
  obtain ⟨hagu, hcsr, hmdv, hbjp, hmret, hdret, hfence⟩ := aluOp_disjoint h
  have hb : bjpOp d = false := by simp [bjpOp, hbjp, hmret, hdret, hfence]
  simp only [decInfo, h, hagu, hcsr, hmdv, hb, gate_true, gate_false, BitVec.or_zero]

/-- A legal word is none of the reserved encodings. -/
theorem not_ilgl (h : decIlegl d = false) :
    rv16Addi16spIlgl d.instr = false ∧ rv16Addi4spnIlgl d.instr = false ∧
      rv16LiLuiIlgl d.instr = false ∧ rv16SxxiShamtIlgl d.instr = false ∧
      rv32SxxiShamtIlgl d.instr = false ∧ rv16LwspIlgl d.instr = false := by
  simp only [decIlegl, Bool.or_eq_false_iff] at h
  obtain ⟨⟨⟨⟨⟨⟨⟨⟨⟨-, -⟩, h1⟩, h2⟩, h3⟩, h4⟩, h5⟩, -⟩, h6⟩, -⟩ := h
  exact ⟨h1, h2, h3, h4, h5, h6⟩

attribute [local simp] rv32Load rv32Store rv32Branch rv32Jalr rv32Miscmem rv32Amo rv32Jal rv32OpImm
  rv32Op rv32System rv32Auipc rv32Lui rv16Addi4spn rv16Lw rv16Sw rv16Addi rv16Jal rv16Li
  rv16LuiAddi16sp rv16Miscalu rv16J rv16Beqz rv16Bnez rv16Slli rv16Lwsp rv16JalrMvAdd rv16Swsp
  rv16Nop rv16Srli rv16Srai rv16Andi rv16Addi16sp rv16Lui rv16Subxororand rv16Sub rv16Xor rv16Or
  rv16And rv16Mv rv16Ebreak rv16Add rv32Ecall rv32Ebreak rv32Wfi rv32Mret rv32Dret opcode10_00
  opcode10_01 opcode10_10 opcode10_11 opcode42_000 opcode42_001 opcode42_010 opcode42_011
  opcode42_100 opcode42_101 opcode42_110 opcode42_111 opcode65_00 opcode65_01 opcode65_10
  opcode65_11

attribute [local simp] rv32Add rv32Sub rv32Sll rv32Slt rv32Sltu rv32Xor rv32Srl rv32Sra rv32Or
  rv32And rv32Addi rv32Slti rv32Sltiu rv32Xori rv32Ori rv32Andi rv32Slli rv32Srli rv32Srai rv32Nop
  rv32Func3_000 rv32Func3_001 rv32Func3_010 rv32Func3_011 rv32Func3_100 rv32Func3_101 rv32Func3_110
  rv32Func3_111 rv32Func7_0000000 rv32Func7_0100000 rv32Func7_0000001 needImm rv32NeedImm
  rv32ImmSelI rv32ImmSelS rv32ImmSelB rv32ImmSelU rv32ImmSelJ

attribute [local simp] aluOp ecallEbreak amoldstOp bjpOp csrOp muldivOp decBjp decJal decJalr decBxx
  rv32Csr rv32FenceFencei rv16Jalr rv16Jr aguInfoBus lsuInfoSize lsuInfoUsign rv32LrW rv32ScW
  rv32AmoswapW rv32AmoaddW rv32AmoandW rv32AmoorW rv32AmoxorW rv32AmomaxW rv32AmominW rv32AmomaxuW
  rv32AmominuW

attribute [local simp] rv32NeedRd rv32NeedRs1 rv32NeedRs2 rv32RdX0 rv32Rs1X0 rv32Rs2X0 rv32Rd
  rv32Rs1 rv32Rs2 rv32EcallEbreakRetWfi rv32Csrrwi rv32Csrrsi rv32Csrrci Isa.rd Isa.rs1 Isa.rs2
  decRdidx decRdwen decRs1idx decRs2idx decRs1en decRs2en

attribute [local simp] Isa.Instr.isAlu Isa.Instr.isLoad Isa.Instr.isStore Isa.Instr.isInteger
  Isa.Instr.dest Isa.Instr.rs1 Isa.Instr.rs2 Isa.Instr.ImmIs Isa.Instr.aluBits Isa.Instr.aguBits
  Isa.Instr.fn Isa.Instr.hasImm Isa.Instr.isAuipc Isa.Instr.size Isa.Instr.isUnsigned Isa.Size.code

/-! ## The 32-bit forms -/

section

attribute [local simp] rv32SxxiShamtIlgl rv32SxxiShamtLegl rv16SxxiShamtIlgl rv16SxxiShamtLegl
  rv16LiLuiIlgl rv16LiIlgl rv16LuiIlgl rv16Addi4spnIlgl rv16Addi16spIlgl

theorem intWires_op (h : Isa.opcode d.instr = 0b0110011#7) (hd : Isa.decodeOp d.instr = some ins)
    (hint : ins.isInteger = true) : IntWires d ins := by
  obtain ⟨h10, h42, h65, h24, -⟩ := fields_of_opcode h
  have hlen : rv32 d.instr = true := by simp [rv32, h10, h24]
  rw [Isa.decodeOp] at hd
  split_ifs at hd with h7 h7 h7 h7
  case pos =>
    have h7' : rv32Func7 d.instr = 0b0000000#7 := h7
    have halu : aluOp d.instr = true := by simp [h10, h42, h65, h7']
    obtain rfl := Option.some.inj hd
    have hinfo := decInfo_of_aluOp halu
    obtain hf | hf | hf | hf | hf | hf | hf | hf := funct3_cases (Isa.funct3 d.instr)
    all_goals
      have hf' : rv32Func3 d.instr = _ := hf
      constructor
      all_goals simp [hlen, h10, h42, h65, hf', h7', hinfo, aluInfoBus, hf, Isa.aluFn]
  case pos => 
    obtain rfl := Option.some.inj hd
    cases hint
  all_goals
    obtain ⟨h7, hf⟩ := h7
    have h7' : rv32Func7 d.instr = 0b0100000#7 := h7
    have hf' : rv32Func3 d.instr = _ := hf
    have halu : aluOp d.instr = true := by simp [h10, h42, h65, h7']
    have hinfo := decInfo_of_aluOp halu
    obtain rfl := Option.some.inj hd
    constructor
    all_goals simp [hlen, h10, h42, h65, hf', h7', hinfo, aluInfoBus]

theorem shift_fields {w : BitVec 32} {x : BitVec 7} (h : Isa.funct7 w = x) :
    w.extractLsb' 26 6 = x.extractLsb' 1 6 ∧ w.getLsbD 25 = x.getLsbD 0 := by
  refine ⟨by rw [extractLsb'_26_eq, h], ?_⟩
  rw [← h, Isa.funct7]
  simp

theorem intWires_opImm (h : Isa.opcode d.instr = 0b0010011#7)
    (hd : Isa.decodeOpImm d.instr = some ins) : IntWires d ins := by
  obtain ⟨h10, h42, h65, h24, -⟩ := fields_of_opcode h
  have hlen : rv32 d.instr = true := by simp [rv32, h10, h24]
  have himm : decImm d.instr = Isa.immI d.instr := by
    simp [decImm, rv32Imm, hlen, h10, h42, h65, rv32IImm_eq]
  have hfields := fun {x} => @shift_fields d.instr x
  rw [Isa.decodeOpImm] at hd
  split_ifs at hd with h3 h7 h3 h7 h7
  case neg =>
    obtain rfl := Option.some.inj hd
    obtain hf | hf | hf | hf | hf | hf | hf | hf := funct3_cases (Isa.funct3 d.instr)
    case inr.inl => exact absurd hf ‹_›
    case inr.inr.inr.inr.inr.inl => exact absurd hf h3
    all_goals
      have hf' : rv32Func3 d.instr = _ := hf
      have halu : aluOp d.instr = true := by simp [h10, h42, h65, hf']
      have hinfo := decInfo_of_aluOp halu
      constructor
      case alu =>
        intro _ hrd
        have hrd' : (d.instr.extractLsb' 7 5 == 0#5) = false := beq_false_of_ne hrd
        simp [hlen, h10, h42, h65, hf', hinfo, aluInfoBus, hf, Isa.aluFn, hrd']
      all_goals simp [hlen, h10, h42, h65, hf', hf, himm]
  all_goals
    obtain ⟨h26, h25⟩ := hfields h7
    have h25' := h25
    rw [BitVec.getLsbD_eq_getElem (by decide)] at h25'
    have hf' : rv32Func3 d.instr = _ := h3
    have halu : aluOp d.instr = true := by simp [h10, h42, h65, hf', h26, h25']
    have hinfo := decInfo_of_aluOp halu
    obtain rfl := Option.some.inj hd
    constructor
    all_goals simp [hlen, h10, h42, h65, hf', h26, hinfo, aluInfoBus, himm, Isa.AluFn.isShift,
        extractLsb'_immI, Isa.shamt, extractLsb'_setWidth]

theorem intWires_lui (h : Isa.opcode d.instr = 0b0110111#7) :
    IntWires d (.lui (Isa.rd d.instr) (Isa.immU d.instr)) := by
  obtain ⟨h10, h42, h65, h24, -⟩ := fields_of_opcode h
  have hlen : rv32 d.instr = true := by simp [rv32, h10, h24]
  have halu : aluOp d.instr = true := by simp [h10, h42, h65]
  have hinfo := decInfo_of_aluOp halu
  constructor
  all_goals
    simp [hlen, h10, h42, h65, hinfo, aluInfoBus, decImm, rv32Imm, rv32UImm, Isa.immU]

theorem intWires_auipc (h : Isa.opcode d.instr = 0b0010111#7) :
    IntWires d (.auipc (Isa.rd d.instr) (Isa.immU d.instr)) := by
  obtain ⟨h10, h42, h65, h24, -⟩ := fields_of_opcode h
  have hlen : rv32 d.instr = true := by simp [rv32, h10, h24]
  have halu : aluOp d.instr = true := by simp [h10, h42, h65]
  have hinfo := decInfo_of_aluOp halu
  constructor
  all_goals
    simp [hlen, h10, h42, h65, hinfo, aluInfoBus, decImm, rv32Imm, rv32UImm, Isa.immU]

theorem size_eq_some {f : BitVec 2} {z : Isa.Size} (h : Isa.size f = some z) :
    f = z.code := by
  cases z
  all_goals
    revert f
    decide

theorem intWires_load (h : Isa.opcode d.instr = 0b0000011#7)
    (hd : Isa.decodeLoad d.instr = some ins) : IntWires d ins := by
  obtain ⟨h10, h42, h65, h24, -⟩ := fields_of_opcode h
  have hlen : rv32 d.instr = true := by simp [rv32, h10, h24]
  have hinfo : decInfo d = aguInfoBus d := by simp [decInfo, h10, h42, h65]
  rw [Isa.decodeLoad] at hd
  split_ifs at hd
  obtain ⟨z, hz, rfl⟩ := Option.map_eq_some_iff.mp hd
  have hf : rv32Func3 d.instr = Isa.funct3 d.instr := rfl
  constructor
  case agu =>
    intro _
    rw [hinfo]
    simp [hlen, h10, h42, h65, hf, size_eq_some hz]
  all_goals simp [hlen, h10, h42, h65, decImm, rv32Imm, rv32IImm_eq]

theorem intWires_store (h : Isa.opcode d.instr = 0b0100011#7)
    (hd : Isa.decodeStore d.instr = some ins) : IntWires d ins := by
  obtain ⟨h10, h42, h65, h24, -⟩ := fields_of_opcode h
  have hlen : rv32 d.instr = true := by simp [rv32, h10, h24]
  have hinfo : decInfo d = aguInfoBus d := by simp [decInfo, h10, h42, h65]
  rw [Isa.decodeStore] at hd
  split_ifs at hd with hu
  obtain ⟨z, hz, rfl⟩ := Option.map_eq_some_iff.mp hd
  have hz' : (rv32Func3 d.instr).extractLsb' 0 2 = z.code := size_eq_some hz
  have hu' : (rv32Func3 d.instr)[2] = false := Bool.eq_false_iff.mpr hu
  constructor
  case agu =>
    intro _
    rw [hinfo]
    simp [hlen, h10, h42, h65, hz', hu']
  all_goals simp [hlen, h10, h42, h65, decImm, rv32Imm, rv32SImm_eq]

theorem intWires_branch (h : Isa.opcode d.instr = 0b1100011#7) (c : Isa.Cond) (r1 r2 : BitVec 5) (o : BitVec 32) :
    IntWires d (.branch c r1 r2 o) := by
  obtain ⟨h10, h42, h65, h24, -⟩ := fields_of_opcode h
  have hlen : rv32 d.instr = true := by simp [rv32, h10, h24]
  constructor
  all_goals simp [hlen, h10, h42, h65]


theorem intWires_jal (h : Isa.opcode d.instr = 0b1101111#7) (o : BitVec 32) :
    IntWires d (.jal (Isa.rd d.instr) o) := by
  obtain ⟨h10, h42, h65, h24, -⟩ := fields_of_opcode h
  have hlen : rv32 d.instr = true := by simp [rv32, h10, h24]
  constructor
  all_goals simp [hlen, h10, h42, h65]

theorem intWires_jalr (h : Isa.opcode d.instr = 0b1100111#7) (r : BitVec 5) (o : BitVec 32) :
    IntWires d (.jalr (Isa.rd d.instr) r o) := by
  obtain ⟨h10, h42, h65, h24, -⟩ := fields_of_opcode h
  have hlen : rv32 d.instr = true := by simp [rv32, h10, h24]
  constructor
  all_goals simp [hlen, h10, h42, h65]

theorem intWires32 (h : Isa.decode32 d.instr = some ins) (hint : ins.isInteger = true) :
    IntWires d ins := by
  have ho := Isa.opcode_of_decode32 h
  rw [Isa.decode32, ho] at h
  cases ins
  case op => exact intWires_op ho h hint
  case opImm => exact intWires_opImm ho h
  case lui =>
    cases Option.some.inj h
    exact intWires_lui ho
  case auipc =>
    cases Option.some.inj h
    exact intWires_auipc ho
  case load => exact intWires_load ho h
  case store => exact intWires_store ho h
  case branch => exact intWires_branch ho _ _ _ _
  case jal =>
    cases Option.some.inj h
    exact intWires_jal ho _
  case jalr =>
    obtain ⟨-, h⟩ | ⟨-, h⟩ := ite_eq_iff.mp (h : (if _ then _ else none) = some _)
    · cases Option.some.inj h
      exact intWires_jalr ho _ _
    · cases h
  all_goals cases hint

end

/-! ## The 16-bit forms -/

attribute [local simp] rv16Func3 rv16Func3_000 rv16Func3_001 rv16Func3_010 rv16Func3_011
  rv16Func3_100 rv16Func3_101 rv16Func3_110 rv16Func3_111 Isa.funct3C Isa.rdC Isa.rs2C Isa.rdP
  Isa.rs1P rv16Rs1X0 rv16RdX0 rv16RdX2 rv16Rs2X0 rv16Rs1 rv16Rd rv16Rs2 rv16Rss1 rv16Rss2 rv16Rdd
  rv32RdX2 rv16Instr12Is0 rv16Instr62Is0s

attribute [local simp] rv16Rs1en rv16Rs2en rv16Rden rv16Rs1idx rv16Rs2idx rv16Rdidx rv16NeedCrRs1
  rv16NeedCrRs2 rv16NeedCrRd rv16NeedCiRs1 rv16NeedCiRs2 rv16NeedCiRd rv16NeedCssRs1 rv16NeedCssRs2
  rv16NeedCssRd rv16NeedCiwRss1 rv16NeedCiwRss2 rv16NeedCiwRdd rv16NeedClRss1 rv16NeedClRss2
  rv16NeedClRdd rv16NeedCsRss1 rv16NeedCsRss2 rv16NeedCsRdd rv16NeedCbRss1 rv16NeedCbRss2
  rv16NeedCbRdd rv16NeedCjRss1 rv16NeedCjRss2 rv16NeedCjRdd rv16FormatCr rv16FormatCi rv16FormatCss
  rv16FormatCiw rv16FormatCl rv16FormatCs rv16FormatCb rv16FormatCj rv16CrRs1 rv16CrRs2 rv16CrRd
  rv16CiRs1 rv16CiRs2 rv16CiRd rv16CssRs1 rv16CssRs2 rv16CssRd rv16CiwRss1 rv16CiwRss2 rv16CiwRdd
  rv16ClRss1 rv16ClRss2 rv16ClRdd rv16CsRss1 rv16CsRss2 rv16CsRdd rv16CbRss1 rv16CbRss2 rv16CbRdd
  rv16CjRss1 rv16CjRss2 rv16CjRdd

attribute [local simp] rv16NeedImm rv16ImmSelCis rv16ImmSelCili rv16ImmSelCilui rv16ImmSelCi16sp
  rv16ImmSelCss rv16ImmSelCiw rv16ImmSelCl rv16ImmSelCs rv16ImmSelCb rv16ImmSelCj decImm rv16Imm

theorem intWires_c0 (hlo : d.instr.extractLsb' 0 2 = 0b00#2) (hd : Isa.decodeC0 d.instr = some ins)
    (hleg : decIlegl d = false) : IntWires d ins := by
  obtain ⟨h10, hlen⟩ := lo_fields hlo (by decide)
  have hno := not_ilgl hleg
  rw [Isa.decodeC0] at hd
  split_ifs at hd with hf hz hf hf
  · obtain rfl := Option.some.inj hd
    have hf' : d.instr.extractLsb' 13 3 = _ := hf
    have halu : aluOp d.instr = true := by simp [h10, hf', hno]
    have hinfo := decInfo_of_aluOp halu
    constructor
    all_goals simp [hlen, h10, hf', hinfo, aluInfoBus, rv16CiwImm_eq]
  · obtain rfl := Option.some.inj hd
    have hf' : d.instr.extractLsb' 13 3 = _ := hf
    have hinfo : decInfo d = aguInfoBus d := by simp [decInfo, h10, hf']
    constructor
    all_goals simp [hlen, h10, hf', hinfo, rv16ClImm_eq]
  · obtain rfl := Option.some.inj hd
    have hf' : d.instr.extractLsb' 13 3 = _ := hf
    have hinfo : decInfo d = aguInfoBus d := by simp [decInfo, h10, hf']
    constructor
    all_goals simp [hlen, h10, hf', hinfo, rv16CsImm, rv16ClImm_eq]

theorem field_12 (w : BitVec 32) : (w.extractLsb' 10 3 == 0b011#3) =
    (w.extractLsb' 10 2 == 0b11#2 && !w.getLsbD 12) := by
  have hx : w.extractLsb' 10 2 = (w.extractLsb' 10 3).extractLsb' 0 2 :=
    Lib.extractLsb'_of_extractLsb' (a := 10) (b := 0) rfl (by omega)
  have hb : w.getLsbD 12 = (w.extractLsb' 10 3).getLsbD 2 := by simp
  rw [hx, hb]
  generalize w.extractLsb' 10 3 = x
  revert x
  decide

theorem intWires_calu (hlo : d.instr.extractLsb' 0 2 = 0b01#2)
    (hf : d.instr.extractLsb' 13 3 = 0b100#3) (hd : Isa.decodeCAlu d.instr = some ins)
    (hleg : decIlegl d = false) : IntWires d ins := by
  obtain ⟨h10, hlen⟩ := lo_fields hlo (by decide)
  have hno := not_ilgl hleg
  have halu : aluOp d.instr = true := by simp [h10, hf, hno]
  have hinfo := decInfo_of_aluOp halu
  have hfield := field_12 d.instr
  have hx : ∀ x : BitVec 2, x = 0b00#2 ∨ x = 0b01#2 ∨ x = 0b10#2 ∨ x = 0b11#2 := by decide
  rw [Isa.decodeCAlu] at hd
  obtain h | h | h | h := hx (d.instr.extractLsb' 10 2)
  · rw [if_pos h] at hd
    split_ifs at hd with h12
    obtain rfl := Option.some.inj hd
    rw [h] at hfield
    constructor
    all_goals
      simp [hlen, h10, hf, hinfo, aluInfoBus, h, hfield, rv16CiliImm_eq, extractLsb'_immCI, Isa.shamtC,
        extractLsb'_setWidth, Isa.AluFn.isShift]
  · rw [if_neg (by rw [h]; decide), if_pos h] at hd
    split_ifs at hd with h12
    obtain rfl := Option.some.inj hd
    rw [h] at hfield
    constructor
    all_goals
      simp [hlen, h10, hf, hinfo, aluInfoBus, h, hfield, rv16CiliImm_eq, extractLsb'_immCI, Isa.shamtC,
        extractLsb'_setWidth, Isa.AluFn.isShift]
  · rw [if_neg (by rw [h]; decide), if_neg (by rw [h]; decide), if_pos h] at hd
    obtain rfl := Option.some.inj hd
    rw [h] at hfield
    constructor
    all_goals simp [hlen, h10, hf, hinfo, aluInfoBus, h, hfield, rv16CiliImm_eq]
  · rw [if_neg (by rw [h]; decide), if_neg (by rw [h]; decide), if_neg (by rw [h]; decide)] at hd
    split_ifs at hd with h12 h5 h5 h5
    case neg =>
      have h5' : d.instr.extractLsb' 5 2 = 0b11#2 := by
        have := hx (d.instr.extractLsb' 5 2)
        tauto
      obtain rfl := Option.some.inj hd
      rw [h, Bool.eq_false_iff.mpr h12] at hfield
      constructor
      all_goals simp [hlen, h10, hf, hinfo, aluInfoBus, h, hfield, h5']
    all_goals
      obtain rfl := Option.some.inj hd
      rw [h, Bool.eq_false_iff.mpr h12] at hfield
      constructor
      all_goals simp [hlen, h10, hf, hinfo, aluInfoBus, h, hfield, h5]

theorem intWires_c1 (hlo : d.instr.extractLsb' 0 2 = 0b01#2) (hd : Isa.decodeC1 d.instr = some ins)
    (hleg : decIlegl d = false) : IntWires d ins := by
  obtain ⟨h10, hlen⟩ := lo_fields hlo (by decide)
  have hno := not_ilgl hleg
  rw [Isa.decodeC1] at hd
  obtain hf | hf | hf | hf | hf | hf | hf | hf := funct3_cases (d.instr.extractLsb' 13 3)
  case inr.inr.inr.inr.inl =>
    have hf' : Isa.funct3C d.instr = _ := hf
    simp only [hf'] at hd
    exact intWires_calu hlo hf hd hleg
  case inl =>
    have hf' : Isa.funct3C d.instr = _ := hf
    simp only [hf'] at hd
    obtain rfl := Option.some.inj hd
    have halu : aluOp d.instr = true := by simp [h10, hf, hno]
    have hinfo := decInfo_of_aluOp halu
    constructor
    case alu =>
      intro _ hrd
      have hrd' : (d.instr.extractLsb' 7 5 == 0#5) = false := beq_false_of_ne hrd
      simp [hlen, h10, hf, hinfo, aluInfoBus, hrd']
    all_goals simp [hlen, h10, hf, rv16CiliImm_eq]
  case inr.inr.inl =>
    have hf' : Isa.funct3C d.instr = _ := hf
    simp only [hf'] at hd
    obtain rfl := Option.some.inj hd
    have halu : aluOp d.instr = true := by simp [h10, hf, hno]
    have hinfo := decInfo_of_aluOp halu
    constructor
    all_goals simp [hlen, h10, hf, hinfo, aluInfoBus, rv16CiliImm_eq]
  case inr.inr.inr.inl =>
    have hf' : Isa.funct3C d.instr = _ := hf
    have hd' : (if d.instr.getLsbD 12 = false ∧ Isa.rs2C d.instr = 0#5 then none
        else if Isa.rdC d.instr = 2#5 then
          some (Isa.Instr.opImm .add 2#5 2#5 (Isa.immCI16sp d.instr))
        else some (.lui (Isa.rdC d.instr) (Isa.immCLui d.instr))) = some ins := by
      rw [hf'] at hd
      exact hd
    have halu : aluOp d.instr = true := by simp [h10, hf, hno]
    have hinfo := decInfo_of_aluOp halu
    split_ifs at hd' with _ hrd
    · obtain rfl := Option.some.inj hd'
      have hrd' : d.instr.extractLsb' 7 5 = 2#5 := hrd
      constructor
      all_goals simp [hlen, h10, hf, hinfo, aluInfoBus, hrd', rv16Ci16spImm_eq]
    · obtain rfl := Option.some.inj hd'
      have hrd' : (d.instr.extractLsb' 7 5 == 2#5) = false := beq_false_of_ne hrd
      constructor
      case alu =>
        intro _ h0
        have h0' : (d.instr.extractLsb' 7 5 == 0#5) = false := beq_false_of_ne h0
        simp [hlen, h10, hf, hinfo, aluInfoBus, hrd', h0']
      case imm =>
        rintro (h | h)
        · cases h
        have h0' : (d.instr.extractLsb' 7 5 == 0#5) = false := beq_false_of_ne h
        simp [hlen, h10, hf, hrd', h0', rv16CiluiImm_eq]
      all_goals simp [hlen, h10, hf, hrd']
  all_goals
    have hf' : Isa.funct3C d.instr = _ := hf
    simp only [hf'] at hd
    obtain rfl := Option.some.inj hd
    constructor
    all_goals simp [hlen, h10, hf]

/-- Jumps, moves and additions in 16 bits. -/
theorem intWires_cr (hlo : d.instr.extractLsb' 0 2 = 0b10#2)
    (hf : d.instr.extractLsb' 13 3 = 0b100#3) (hd : Isa.decodeCr d.instr = some ins)
    (hint : ins.isInteger = true) (hleg : decIlegl d = false) : IntWires d ins := by
  obtain ⟨h10, hlen⟩ := lo_fields hlo (by decide)
  have hno := not_ilgl hleg
  have hil := decIlegl_c2 hlo
  have hf' : Isa.funct3C d.instr = _ := hf
  rw [hleg, hf'] at hil
  rw [Isa.decodeCr] at hd
  obtain ⟨hrs2, hd⟩ | ⟨hrs2, hd⟩ := ite_eq_iff.mp hd
  · obtain ⟨-, hd⟩ | ⟨hrd, hd⟩ := ite_eq_iff.mp hd
    · obtain ⟨-, hd⟩ | ⟨-, hd⟩ := ite_eq_iff.mp hd
      · obtain rfl := Option.some.inj hd
        cases hint
      · cases hd
    obtain rfl := Option.some.inj hd
    have hrd' : (d.instr.extractLsb' 7 5 == 0#5) = false := beq_false_of_ne hrd
    have hrs2' : d.instr.extractLsb' 2 5 = 0#5 := hrs2
    constructor
    all_goals
      cases h12 : d.instr.getLsbD 12
      all_goals
        rw [BitVec.getLsbD_eq_getElem (by decide)] at h12
        simp [hlen, h10, hf, hrd', hrs2', h12]
  · obtain rfl := Option.some.inj hd
    have hrs2' : (d.instr.extractLsb' 2 5 == 0#5) = false := beq_false_of_ne hrs2
    have hrd' : (d.instr.extractLsb' 7 5 == 0#5) = false := by
      simpa [hrs2'] using hil
    have halu : aluOp d.instr = true := by
      cases h12 : d.instr.getLsbD 12
      all_goals
        rw [BitVec.getLsbD_eq_getElem (by decide)] at h12
        simp [h10, hf, hno, hrs2', hrd', h12]
    have hinfo := decInfo_of_aluOp halu
    constructor
    all_goals
      cases h12 : d.instr.getLsbD 12
      all_goals
        rw [BitVec.getLsbD_eq_getElem (by decide)] at h12
        simp [hlen, h10, hf, hinfo, aluInfoBus, hrd', hrs2', h12, beq_eq_false_iff_ne.mp hrd',
          beq_eq_false_iff_ne.mp hrs2']

theorem intWires_c2 (hlo : d.instr.extractLsb' 0 2 = 0b10#2) (hd : Isa.decodeC2 d.instr = some ins)
    (hint : ins.isInteger = true) (hleg : decIlegl d = false) : IntWires d ins := by
  obtain ⟨h10, hlen⟩ := lo_fields hlo (by decide)
  have hno := not_ilgl hleg
  rw [Isa.decodeC2] at hd
  obtain hf | hf | hf | hf | hf | hf | hf | hf := funct3_cases (d.instr.extractLsb' 13 3)
  all_goals
    have hf' : Isa.funct3C d.instr = _ := hf
    rw [hf'] at hd
  case inl =>
    obtain ⟨-, h⟩ | ⟨-, h⟩ := ite_eq_iff.mp (hd : (if _ then none else _) = some ins)
    · cases h
    obtain rfl := Option.some.inj h
    have halu : aluOp d.instr = true := by simp [h10, hf, hno]
    have hinfo := decInfo_of_aluOp halu
    constructor
    all_goals
      simp [hlen, h10, hf, hinfo, aluInfoBus, rv16CiliImm_eq, extractLsb'_immCI, Isa.shamtC,
        extractLsb'_setWidth, Isa.AluFn.isShift]
  case inr.inr.inl =>
    obtain ⟨-, h⟩ | ⟨hrd, h⟩ := ite_eq_iff.mp (hd : (if _ then none else _) = some ins)
    · cases h
    obtain rfl := Option.some.inj h
    have hrd' : (d.instr.extractLsb' 7 5 == 0#5) = false := beq_false_of_ne hrd
    have hinfo : decInfo d = aguInfoBus d := by simp [decInfo, h10, hf, hno, rv16LwspIlgl, hrd']
    constructor
    all_goals simp [hlen, h10, hf, hinfo, rv16CisImm_eq]
  case inr.inr.inr.inr.inl => exact intWires_cr hlo hf hd hint hleg
  case inr.inr.inr.inr.inr.inr.inl =>
    obtain rfl := Option.some.inj hd
    have hinfo : decInfo d = aguInfoBus d := by simp [decInfo, h10, hf]
    constructor
    all_goals simp [hlen, h10, hf, hinfo, rv16CssImm_eq]
  all_goals cases (hd : none = some ins)

/-- The decoder reads every legal integer instruction as what it is. -/
theorem intWires (h : Isa.decode d.instr = some ins) (hint : ins.isInteger = true)
    (hleg : decIlegl d = false) : IntWires d ins := by
  have hx : ∀ x : BitVec 2, x = 0b00#2 ∨ x = 0b01#2 ∨ x = 0b10#2 ∨ x = 0b11#2 := by decide
  rw [Isa.decode] at h
  obtain hlo | hlo | hlo | hlo := hx (d.instr.extractLsb' 0 2)
  all_goals rw [hlo] at h
  · exact intWires_c0 hlo h hleg
  · exact intWires_c1 hlo h hleg
  · exact intWires_c2 hlo h hint hleg
  · exact intWires32 h hint

end
end E203.Decode
