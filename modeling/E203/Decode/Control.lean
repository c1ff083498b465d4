import E203.Isa.Control
import E203.Lib.BitVecArith
import E203.Rtl.ExuDecode
import Mathlib.Tactic.SplitIfs

/-! # The decoder on control transfers

`CtrlWires d c`: what the decoder says about a word that is the control transfer `c`, both to the
fetch stage (lengths, branch kinds, offsets) and to the execute stage (information bus, immediate,
operand registers).  `ctrlWires` proves it, one format at a time.
-/

namespace E203
set_option autoImplicit false

/-! ## Immediates -/

namespace Decode

theorem rv32BImm_eq (w : BitVec 32) : rv32BImm w = Isa.immB w := by
  unfold rv32BImm Isa.immB
  rw [Lib.fill_ofBool_append]
  simp only [Lib.extractLsb'_one]

theorem rv32JImm_eq (w : BitVec 32) : rv32JImm w = Isa.immJ w := by
  unfold rv32JImm Isa.immJ
  rw [Lib.fill_ofBool_append]
  simp only [Lib.extractLsb'_one]

theorem rv16CjImm_eq (w : BitVec 32) : rv16CjImm w = Isa.immCJ w := by
  unfold rv16CjImm Isa.immCJ
  rw [Lib.fill_ofBool_append]
  simp only [Lib.extractLsb'_one]

theorem rv16CbImm_eq (w : BitVec 32) : rv16CbImm w = Isa.immCB w := by
  unfold rv16CbImm Isa.immCB
  rw [Lib.fill_ofBool_append]
  simp only [Lib.extractLsb'_one]

theorem rv32IImm_eq (w : BitVec 32) : rv32IImm w = Isa.immI w := by
  have hmsb : (w.extractLsb' 20 12).msb = w.getLsbD 31 := by
    simp [BitVec.msb_eq_getLsbD_last]
  rw [rv32IImm, Isa.immI, ← hmsb, Lib.fill_append_msb]

/-! ## Opcode fields -/

/-- A word whose low bits are not both set is a 16-bit instruction. -/
theorem opcode_lo (w : BitVec 32) : (opcode w).extractLsb' 0 2 = w.extractLsb' 0 2 :=
  (Lib.extractLsb'_of_extractLsb' (a := 0) rfl (by omega)).symm

/-- Fields of a word with a given major opcode. -/
theorem opcode_fields {w : BitVec 32} {o : BitVec 7} (h : w.extractLsb' 0 7 = o) :
    opcode w = o ∧ w.extractLsb' 2 3 = o.extractLsb' 2 3 :=
  ⟨h, Lib.extractLsb'_of_extractLsb' (a := 0) (b := 2) (k := 3) h (by omega)⟩

end Decode

namespace Isa

def CtrlOp.isBranch : CtrlOp → Bool
  | .branch .. => true
  | _ => false

def CtrlOp.isCond (k : Cond) : CtrlOp → Bool
  | .branch c .. => c = k
  | _ => false

def CtrlOp.isJal : CtrlOp → Bool
  | .jal _ => true
  | _ => false

def CtrlOp.isJalr : CtrlOp → Bool
  | .jalr .. => true
  | _ => false

def CtrlOp.offset : CtrlOp → BitVec 32
  | .branch _ _ _ o | .jal o | .jalr _ o => o
  | _ => 0#32

def CtrlOp.rs1 : CtrlOp → BitVec 5
  | .branch _ r _ _ | .jalr r _ => r
  | _ => 0#5

def CtrlOp.rs2 : CtrlOp → BitVec 5
  | .branch _ _ r _ => r
  | _ => 0#5

/-- The bits of the branch group from `E203_DECINFO_BJP_JUMP` on. -/
def CtrlOp.bits (op : CtrlOp) (prdtTaken : Bool) : List Bool :=
  [op.isJal || op.isJalr, prdtTaken, op.isCond .eq, op.isCond .ne, op.isCond .lt, op.isCond .ge,
    op.isCond .ltu, op.isCond .geu, op.isBranch, decide (op = .mret), decide (op = .dret), false,
    decide (op = .fencei)]

end Isa

/-- The decoder's outputs on the control transfer `c`. -/
structure CtrlWires (d : Decode.In) (c : Isa.Ctrl) : Prop where
  rv32 : Decode.rv32 d.instr = c.rv32
  jal : Decode.decJal d.instr = c.op.isJal
  jalr : Decode.decJalr d.instr = c.op.isJalr
  bxx : Decode.decBxx d.instr = c.op.isBranch
  bjpImm : Decode.decBjpImm d.instr = c.op.offset
  jalrRs1idx : c.op.isJalr = true → Decode.decJalrRs1idx d.instr = c.op.rs1
  imm : c.op.isBranch = true → Decode.decImm d.instr = c.op.offset
  rs1 : c.op.isBranch = true → Decode.decRs1idx d.instr = c.op.rs1
  rs2 : c.op.isBranch = true → Decode.decRs2idx d.instr = c.op.rs2
  rs1en : c.op.isBranch = true → Decode.decRs1en d.instr = !(c.op.rs1 == 0#5)
  rs2en : c.op.isBranch = true → Decode.decRs2en d.instr = !(c.op.rs2 == 0#5)
  /-- `DRET` is legal in debug mode only. -/
  legal : (c.op = .dret → d.dbgMode = true) → Decode.decIlegl d = false
  info : (c.op = .dret → d.dbgMode = true) →
    Decode.decInfo d = Decode.bus d GRP_BJP (Isa.CtrlOp.bits c.op d.prdtTaken)

namespace Decode
section

attribute [local simp] decBjp decJal decJalr decBxx decBjpImm decJalrRs1idx decImm rv32Imm
  rv32ImmSelI rv32ImmSelS rv32ImmSelB rv32ImmSelU rv32ImmSelJ rv16Imm rv16ImmSelCis rv16ImmSelCili
  rv16ImmSelCilui rv16ImmSelCi16sp rv16ImmSelCss rv16ImmSelCiw rv16ImmSelCl rv16ImmSelCs
  rv16ImmSelCb rv16ImmSelCj decRs1idx decRs2idx decRs1en decRs2en rv32NeedRs1 rv32NeedRs2
  rv32Rs1X0 rv32Rs2X0 rv32RdX0 decInfo decIlegl leglOps bjpInfoBus aluOp amoldstOp bjpOp csrOp
  muldivOp
  rvAll0s1sIlgl rvIndexIlgl rv16Addi16spIlgl rv16Addi4spnIlgl rv16LiLuiIlgl rv16SxxiShamtIlgl
  rv32SxxiShamtIlgl rv32DretIlgl rv16LwspIlgl rv32All0sIlgl rv32All1sIlgl rv16All0sIlgl
  rv16All1sIlgl rv16LiIlgl rv16LuiIlgl

attribute [local simp] rv32Load rv32Store rv32Branch rv32Jalr rv32Miscmem rv32Amo rv32Jal rv32OpImm
  rv32Op rv32System rv32Auipc rv32Lui rv16Addi4spn rv16Lw rv16Sw rv16Addi rv16Jal rv16Li
  rv16LuiAddi16sp rv16Miscalu rv16J rv16Beqz rv16Bnez rv16Slli rv16Lwsp rv16JalrMvAdd rv16Swsp
  rv16Nop rv16Srli rv16Srai rv16Andi rv16Addi16sp rv16Lui rv16Subxororand rv16Jr rv16Mv rv16Ebreak
  rv16Jalr rv16Add rv32Beq rv32Bne rv32Blt rv32Bgt rv32Bltu rv32Bgtu rv32Ecall rv32Ebreak rv32Mret
  rv32Dret rv32Wfi rv32Csr rv32Fence rv32FenceI rv32FenceFencei rv32Slli rv32Srli rv32Srai rv32Addi
  rv32Nop rv32EcallEbreakRetWfi rv32Csrrwi rv32Csrrsi rv32Csrrci ecallEbreak

attribute [local simp] opcode10_00 opcode10_01 opcode10_10 opcode10_11 opcode42_000 opcode42_001
  opcode42_010 opcode42_011 opcode42_100 opcode42_101 opcode42_110 opcode42_111 opcode65_00
  opcode65_01 opcode65_10 opcode65_11 rv32Func3_000 rv32Func3_001 rv32Func3_100 rv32Func3_101
  rv32Func3_110 rv32Func3_111 rv16Func3_000 rv16Func3_001 rv16Func3_010 rv16Func3_011 rv16Func3_100
  rv16Func3_101 rv16Func3_110 rv16Func3_111 rv32Func3 rv16Func3

attribute [local simp] Isa.CtrlOp.isJal Isa.CtrlOp.isJalr Isa.CtrlOp.isBranch Isa.CtrlOp.isCond
  Isa.CtrlOp.offset Isa.CtrlOp.rs1 Isa.CtrlOp.rs2 Isa.CtrlOp.bits

variable {d : In}

theorem ctrlWires_jal32 (h : d.instr.extractLsb' 0 7 = 0b1101111#7) :
    CtrlWires d ⟨true, .jal (Isa.immJ d.instr)⟩ := by
  obtain ⟨hop, hmid⟩ := opcode_fields h
  have hrv32 : rv32 d.instr = true := by simp [rv32, hop, hmid]
  constructor
  all_goals simp [hop, hrv32, rv32JImm_eq]

theorem ctrlWires_jalr32 (h : d.instr.extractLsb' 0 7 = 0b1100111#7) :
    CtrlWires d ⟨true, .jalr (d.instr.extractLsb' 15 5) (Isa.immI d.instr)⟩ := by
  obtain ⟨hop, hmid⟩ := opcode_fields h
  have hrv32 : rv32 d.instr = true := by simp [rv32, hop, hmid]
  constructor
  all_goals simp [hop, hrv32, rv32IImm_eq, rv32Rs1]

theorem ctrlWires_fencei (h : d.instr.extractLsb' 0 7 = 0b0001111#7)
    (hf : d.instr.extractLsb' 12 3 = 0b001#3) : CtrlWires d ⟨true, .fencei⟩ := by
  obtain ⟨hop, hmid⟩ := opcode_fields h
  have hrv32 : rv32 d.instr = true := by simp [rv32, hop, hmid]
  constructor
  all_goals simp [hop, hrv32, hf]

/-- The returns differ in the twelve high bits. -/
theorem ctrlWires_mret (h : d.instr = 0x30200073#32) : CtrlWires d ⟨true, .mret⟩ := by
  have hop : opcode d.instr = 0b1110011#7 := by rw [h]; rfl
  have hrv32 : rv32 d.instr = true := by rw [h]; rfl
  have hf : d.instr.extractLsb' 12 3 = 0b000#3 := by rw [h]; rfl
  have hi : d.instr.extractLsb' 20 12 = 0b001100000010#12 := by rw [h]; rfl
  constructor
  all_goals simp [hop, hrv32, hf, hi]

theorem ctrlWires_dret (h : d.instr = 0x7b200073#32) : CtrlWires d ⟨true, .dret⟩ := by
  have hop : opcode d.instr = 0b1110011#7 := by rw [h]; rfl
  have hrv32 : rv32 d.instr = true := by rw [h]; rfl
  have hf : d.instr.extractLsb' 12 3 = 0b000#3 := by rw [h]; rfl
  have hi : d.instr.extractLsb' 20 12 = 0b011110110010#12 := by rw [h]; rfl
  constructor
  case legal | info =>
    intro hdbg
    simp [hop, hrv32, hf, hi, hdbg]
  all_goals simp [hop, hrv32, hf]

/-- `DRET` is illegal outside debug mode. -/
theorem decIlegl_dret (h : d.instr = 0x7b200073#32) (hdbg : d.dbgMode = false) :
    decIlegl d = true := by
  have hret : rv32Dret d.instr = true := by rw [h]; decide
  simp [rv32DretIlgl, hret, hdbg, -rv32Dret]

theorem ctrlWires_branch32 (h : d.instr.extractLsb' 0 7 = 0b1100011#7) {c : Isa.Cond}
    (hc : Isa.Cond.decode (d.instr.extractLsb' 12 3) = some c) :
    CtrlWires d ⟨true, .branch c (d.instr.extractLsb' 15 5) (d.instr.extractLsb' 20 5)
      (Isa.immB d.instr)⟩ := by
  obtain ⟨hop, hmid⟩ := opcode_fields h
  have hrv32 : rv32 d.instr = true := by simp [rv32, hop, hmid]
  unfold Isa.Cond.decode at hc
  split_ifs at hc with hf hf hf hf hf hf
  all_goals
    obtain rfl : _ = c := Option.some.inj hc
    constructor
    all_goals simp [hop, hrv32, hf, rv32BImm_eq, rv32Rs1, rv32Rs2]

/-- The wires of the 32-bit formats are off in a 16-bit instruction. -/
theorem lo_fields {w : BitVec 32} {o : BitVec 2} (h : w.extractLsb' 0 2 = o) (ho : o ≠ 0b11#2) :
    (opcode w).extractLsb' 0 2 = o ∧ rv32 w = false := by
  have hlo : (opcode w).extractLsb' 0 2 = o := (opcode_lo w).trans h
  refine ⟨hlo, ?_⟩
  simp [rv32, hlo, ho]

theorem ctrlWires_jal16 (h : d.instr.extractLsb' 0 2 = 0b01#2)
    (hf : d.instr.extractLsb' 13 3 = 0b101#3 ∨ d.instr.extractLsb' 13 3 = 0b001#3) :
    CtrlWires d ⟨false, .jal (Isa.immCJ d.instr)⟩ := by
  obtain ⟨hlo, hrv32⟩ := lo_fields h (by decide)
  obtain hf | hf := hf
  all_goals
    constructor
    all_goals simp [hlo, hrv32, hf, rv16CjImm_eq]

theorem ctrlWires_jalr16 (h : d.instr.extractLsb' 0 2 = 0b10#2)
    (hf : d.instr.extractLsb' 13 3 = 0b100#3) (hrs1 : d.instr.extractLsb' 7 5 ≠ 0#5)
    (hrs2 : d.instr.extractLsb' 2 5 = 0#5) :
    CtrlWires d ⟨false, .jalr (d.instr.extractLsb' 7 5) 0#32⟩ := by
  obtain ⟨hlo, hrv32⟩ := lo_fields h (by decide)
  have hx : rv16Rs1X0 d.instr = false ∧ rv16RdX0 d.instr = false ∧ rv16Rs2X0 d.instr = true := by
    simp [rv16Rs1X0, rv16RdX0, rv16Rs2X0, rv16Rs1, rv16Rs2, rv16Rd, rv32Rd, hrs1, hrs2]
  constructor
  all_goals simp [hlo, hrv32, hf, hx, rv16Rs1, rv16Rd, rv32Rd]

/-- A register jump is no other control transfer, and reads the register that the predictor reads. -/
theorem decJalr_fields {w : BitVec 32} (h : decJalr w = true) :
    decBjp w = true ∧ decBxx w = false ∧ decJal w = false ∧ decRs1idx w = decJalrRs1idx w := by
  rw [decJalr, Bool.or_eq_true, Bool.or_eq_true] at h
  obtain (h | h) | h := h
  · simp only [rv32Jalr, opcode65_11, opcode42_001, opcode10_11, Bool.and_eq_true, beq_iff_eq] at h
    have hmid : w.extractLsb' 2 3 = (opcode w).extractLsb' 2 3 :=
      Lib.extractLsb'_of_extractLsb' (a := 0) (b := 2) (k := 3) (y := opcode w) rfl (by omega)
    simp [h, rv32, hmid]
  all_goals
    simp only [rv16Jalr, rv16Jr, rv16JalrMvAdd, opcode10_10, rv16Func3_100, rv16Func3,
      BitVec.getLsbD_eq_getElem (show 12 < 32 by decide), Bool.and_eq_true, Bool.not_eq_true',
      beq_iff_eq] at h
    simp [h, rv32, rv16Rs1idx, rv16NeedCrRs1, rv16FormatCr, rv16CrRs1, rv16NeedCiRs1, rv16FormatCi,
      rv16NeedCssRs1, rv16FormatCss, rv16NeedCiwRss1, rv16FormatCiw, rv16NeedClRss1, rv16FormatCl,
      rv16NeedCsRss1, rv16FormatCs, rv16NeedCbRss1, rv16FormatCb, rv16NeedCjRss1]

/-- The register of a register jump is an operand. -/
theorem decRs1en_of_jalr {w : BitVec 32} (h : decJalr w = true) (hx0 : decJalrRs1idx w ≠ 0#5) :
    decRs1en w = true := by
  have hidx := (decJalr_fields h).2.2.2
  rw [← hidx] at hx0
  rw [decJalr, Bool.or_eq_true, Bool.or_eq_true] at h
  obtain (h | h) | h := h
  · simp only [rv32Jalr, opcode65_11, opcode42_001, opcode10_11, Bool.and_eq_true, beq_iff_eq] at h
    have hmid : w.extractLsb' 2 3 = (opcode w).extractLsb' 2 3 :=
      Lib.extractLsb'_of_extractLsb' (a := 0) (b := 2) (k := 3) (y := opcode w) rfl (by omega)
    have hrv32 : rv32 w = true := by simp [rv32, h, hmid]
    rw [decRs1idx, if_pos hrv32] at hx0
    rw [decRs1en, if_pos hrv32]
    simpa [rv32NeedRs1, h, rv32Lui, rv32Auipc, rv32Jal, rv32FenceFencei, rv32Miscmem,
      rv32EcallEbreakRetWfi, rv32Csrrwi, rv32Csrrsi, rv32Csrrci, rv32System] using hx0
  all_goals
    simp only [rv16Jalr, rv16Jr, rv16JalrMvAdd, opcode10_10, rv16Func3_100, rv16Func3,
      BitVec.getLsbD_eq_getElem (show 12 < 32 by decide), Bool.and_eq_true, Bool.not_eq_true',
      beq_iff_eq] at h
    have hrv32 : rv32 w = false := by simp [rv32, h]
    rw [decRs1idx, hrv32, if_neg (by decide)] at hx0
    have hen : rv16Rs1en w = true := by
      simp [rv16Rs1en, rv16NeedCrRs1, rv16FormatCr, h]
    rw [decRs1en, hrv32, if_neg (by decide), hen]
    simpa using hx0

/-- The registers of `C.BEQZ` and `C.BNEZ`. -/
theorem rv16_regs_cb {w : BitVec 32} (hlo : (opcode w).extractLsb' 0 2 = 0b01#2)
    (hf : w.extractLsb' 13 3 = 0b110#3 ∨ w.extractLsb' 13 3 = 0b111#3) :
    rv16Rs1idx w = 0b01#2 ++ w.extractLsb' 7 3 ∧ rv16Rs2idx w = 0#5 ∧ rv16Rs1en w = true := by
  obtain hf | hf := hf
  all_goals
    refine ⟨?_, ?_, ?_⟩
    · simp [rv16Rs1idx, rv16NeedCrRs1, rv16FormatCr, rv16NeedCiRs1, rv16FormatCi, rv16NeedCssRs1,
        rv16FormatCss, rv16NeedCiwRss1, rv16FormatCiw, rv16NeedClRss1, rv16FormatCl, rv16NeedCsRss1,
        rv16FormatCs, rv16NeedCbRss1, rv16FormatCb, rv16NeedCjRss1, hlo, hf, rv16CbRss1, rv16Rss1]
    · simp [rv16Rs2idx, rv16NeedCrRs2, rv16FormatCr, rv16NeedCiRs2, rv16NeedCssRs2,
        rv16FormatCss, rv16NeedCiwRss2, rv16NeedClRss2, rv16NeedCsRss2,
        rv16FormatCs, rv16NeedCbRss2, rv16FormatCb, rv16NeedCjRss2, hlo, hf, rv16CbRss2]
    · simp [rv16Rs1en, rv16NeedCbRss1, rv16FormatCb, hlo, hf]

theorem ctrlWires_branch16 (h : d.instr.extractLsb' 0 2 = 0b01#2) {c : Isa.Cond}
    (hf : d.instr.extractLsb' 13 3 = 0b110#3 ∧ c = .eq ∨
      d.instr.extractLsb' 13 3 = 0b111#3 ∧ c = .ne) :
    CtrlWires d
      ⟨false, .branch c (0b01#2 ++ d.instr.extractLsb' 7 3) 0#5 (Isa.immCB d.instr)⟩ := by
  obtain ⟨hlo, hrv32⟩ := lo_fields h (by decide)
  have hregs := rv16_regs_cb hlo (hf.imp And.left And.left)
  obtain ⟨hf, rfl⟩ | ⟨hf, rfl⟩ := hf
  all_goals
    constructor
    all_goals simp [hlo, hrv32, hf, hregs, rv16CbImm_eq]

/-- Every control transfer is decoded as what it is. -/
theorem ctrlWires {c : Isa.Ctrl} (hc : Isa.Ctrl.decode d.instr = some c) : CtrlWires d c := by
  unfold Isa.Ctrl.decode at hc
  split_ifs at hc with hlen
  · obtain ⟨op, hop, rfl⟩ := Option.map_eq_some_iff.mp hc
    unfold Isa.CtrlOp.decode32 at hop
    split_ifs at hop with h1 h2 h3 h4 h5 h6
    · obtain ⟨k, hk, rfl⟩ := Option.map_eq_some_iff.mp hop
      exact ctrlWires_branch32 h1 hk
    · obtain rfl := Option.some.inj hop
      exact ctrlWires_jal32 h2
    · obtain rfl := Option.some.inj hop
      exact ctrlWires_jalr32 h3.1
    · obtain rfl := Option.some.inj hop
      exact ctrlWires_fencei h4.1 h4.2
    · obtain rfl := Option.some.inj hop
      exact ctrlWires_mret h5
    · obtain rfl := Option.some.inj hop
      exact ctrlWires_dret h6
  · obtain ⟨op, hop, rfl⟩ := Option.map_eq_some_iff.mp hc
    unfold Isa.CtrlOp.decode16 at hop
    split_ifs at hop with h1 h2 h3 h4
    · obtain rfl := Option.some.inj hop
      exact ctrlWires_jal16 h1.1 h1.2
    · obtain rfl := Option.some.inj hop
      exact ctrlWires_branch16 h2.1 (.inl ⟨h2.2, rfl⟩)
    · obtain rfl := Option.some.inj hop
      exact ctrlWires_branch16 h3.1 (.inr ⟨h3.2, rfl⟩)
    · obtain rfl := Option.some.inj hop
      exact ctrlWires_jalr16 h4.1 h4.2.1 h4.2.2.1 h4.2.2.2

end
end Decode
end E203
