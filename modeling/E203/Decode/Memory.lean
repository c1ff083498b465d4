import E203.Decode.Groups
import E203.Isa.RV32MA

/-! # Loads, stores and atomic operations on the information bus

An instruction of the address-generation group is a load, a store or an atomic operation, and the
word tells which.
-/

namespace E203.Decode
set_option autoImplicit false

section
variable (w : BitVec 32)

/-- `E203_DECINFO_AGU_LOAD`; the load-reserved instruction is a load. -/
def isLoad : Bool := rv32Load w || rv32LrW w || rv16Lw w || rv16Lwsp w

/-- `E203_DECINFO_AGU_STORE`; the store-conditional instruction is a store. -/
def isStore : Bool := rv32Store w || rv32ScW w || rv16Sw w || rv16Swsp w

/-- `E203_DECINFO_AGU_EXCL`. -/
def isExcl : Bool := rv32LrW w || rv32ScW w

/-- `E203_DECINFO_AGU_AMO`. -/
def isAmo : Bool := rv32Amo w && !(rv32LrW w || rv32ScW w)

end

def isAmoOp : AmoOp → BitVec 32 → Bool
  | .swap => rv32AmoswapW
  | .add => rv32AmoaddW
  | .and => rv32AmoandW
  | .or => rv32AmoorW
  | .xor => rv32AmoxorW
  | .max => rv32AmomaxW
  | .min => rv32AmominW
  | .maxu => rv32AmomaxuW
  | .minu => rv32AmominuW

/-- `E203_DECINFO_AGU_AMOSWAP` and so on. -/
def amoBit : AmoOp → ℕ
  | .swap => 11
  | .add => 12
  | .and => 13
  | .or => 14
  | .xor => 15
  | .max => 16
  | .min => 17
  | .maxu => 18
  | .minu => 19

section
variable {w : BitVec 32}

attribute [local simp] decBjp decJal decJalr decBxx csrOp muldivOp rv32Load rv32Store rv32Branch
  rv32Jalr rv32Miscmem rv32Jal rv32OpImm rv32Op rv32System rv32Auipc rv32Lui rv16Addi4spn rv16Lw
  rv16Sw rv16Addi rv16Jal rv16Li rv16LuiAddi16sp rv16Miscalu rv16J rv16Beqz rv16Bnez rv16Slli
  rv16Lwsp rv16JalrMvAdd rv16Swsp rv16Nop rv16Jr rv16Mv rv16Ebreak rv16Jalr rv16Add rv32Ecall
  rv32Ebreak rv32Mret rv32Dret rv32Wfi rv32Csr rv32FenceFencei rv32Addi rv32Nop opcode10_00
  opcode10_01 opcode10_10 opcode10_11 opcode42_000 opcode42_001 opcode42_011 opcode42_100
  opcode42_101 opcode42_111 opcode65_00 opcode65_01 opcode65_11 rv16LwspIlgl rv16LiLuiIlgl
  rv16LiIlgl rv16LuiIlgl rv16Lui rv16Addi4spnIlgl rv16Addi16spIlgl rv16Addi16sp rv16SxxiShamtIlgl
  rv16Srli rv16Srai rv32SxxiShamtIlgl rv32Slli rv32Srli rv32Srai rvAll0s1sIlgl rv32All0sIlgl
  rv32All1sIlgl rv16All0sIlgl rv16All1sIlgl

theorem rv32Amo_fields (h : rv32Amo w = true) :
    (opcode w).extractLsb' 0 2 = 0b11#2 ∧ (opcode w).extractLsb' 2 3 = 0b011#3 ∧
      (opcode w).extractLsb' 5 2 = 0b01#2 := by
  simp only [rv32Amo, opcode65_01, opcode42_011, opcode10_11, Bool.and_eq_true, beq_iff_eq] at h
  exact ⟨h.2, h.1.2, h.1.1⟩

/-- The major opcode of the atomics is in no other group. -/
theorem rv32Amo_disjoint (h : rv32Amo w = true) :
    decBjp w = false ∧ rv32Mret w = false ∧ rv32Dret w = false ∧ rv32FenceFencei w = false ∧
      csrOp w = false ∧ muldivOp w = false ∧ rv32Load w = false ∧ rv32Store w = false ∧
      rv16Lw w = false ∧ rv16Lwsp w = false ∧ rv16Sw w = false ∧ rv16Swsp w = false := by
  obtain ⟨h10, h42, h65⟩ := rv32Amo_fields h
  simp [h10, h42, h65]

/-- It has 32 bits and reads its first source register. -/
theorem rv32Amo_regs (h : rv32Amo w = true) :
    rv32 w = true ∧ decRs1en w = !decRs1x0 w ∧ decRdwen w = !(decRdidx w == 0#5) := by
  obtain ⟨h10, h42, h65⟩ := rv32Amo_fields h
  have hlen : rv32 w = true := by
    have h24 : w.extractLsb' 2 3 = 0b011#3 := by
      rw [← h42, opcode, ← Lib.extractLsb'_of_extractLsb' (a := 0) rfl (by omega)]
    simp [rv32, h10, h24]
  refine ⟨hlen, ?_, ?_⟩
  · simp [decRs1en, decRs1x0, decRs1idx, hlen, rv32NeedRs1, rv32Rs1X0, rv32EcallEbreakRetWfi,
      rv32Csrrwi, rv32Csrrsi, rv32Csrrci, h10, h42, h65]
  · simp [decRdwen, decRdidx, hlen, rv32NeedRd, rv32RdX0, rv32EcallEbreakRetWfi, h10, h42, h65]

/-- No reserved encoding has the major opcode of the atomics. -/
theorem rv32Amo_legal (h : rv32Amo w = true) :
    rvAll0s1sIlgl w = false ∧ rv16Addi16spIlgl w = false ∧ rv16Addi4spnIlgl w = false ∧
      rv16LiLuiIlgl w = false ∧ rv16SxxiShamtIlgl w = false ∧ rv32SxxiShamtIlgl w = false ∧
      rv16LwspIlgl w = false := by
  obtain ⟨h10, h42, h65⟩ := rv32Amo_fields h
  simp [h10, h42, h65]

end

section
variable {w : BitVec 32}

theorem isAmo_iff : isAmo w = true ↔ rv32Amo w = true ∧ isExcl w = false := by
  simp [isAmo, isExcl]

theorem rv32LrW_amo (h : rv32LrW w = true) : rv32Amo w = true := by
  simp only [rv32LrW, Bool.and_eq_true] at h
  exact h.1.1

theorem rv32ScW_amo (h : rv32ScW w = true) : rv32Amo w = true := by
  simp only [rv32ScW, Bool.and_eq_true] at h
  exact h.1.1

theorem isAmoOp_iff {op : AmoOp} : isAmoOp op w = true ↔
    rv32Amo w = true ∧ rv32Func3 w = 0b010#3 ∧ (rv32Func7 w).extractLsb' 2 5 = op.funct5 := by
  have hfields : isAmoOp op w =
      (rv32Amo w && rv32Func3_010 w && (rv32Func7 w).extractLsb' 2 5 == op.funct5) := by
    cases op <;> rfl
  rw [hfields, rv32Func3_010, Bool.and_eq_true, Bool.and_eq_true, beq_iff_eq, beq_iff_eq, and_assoc]

theorem isAmo_of_isAmoOp {op : AmoOp} (h : isAmoOp op w = true) : isAmo w = true := by
  obtain ⟨hamo, -, h5⟩ := isAmoOp_iff.mp h
  have hne : op.funct5 ≠ 0b00010#5 ∧ op.funct5 ≠ 0b00011#5 := by cases op <;> decide
  simp [isAmo, rv32LrW, rv32ScW, hamo, h5, hne]

theorem isAmoOp_eq {op : AmoOp} (h : isAmoOp op w = true) (op' : AmoOp) :
    isAmoOp op' w = decide (op = op') := by
  obtain ⟨hamo, h3, h5⟩ := isAmoOp_iff.mp h
  rw [Bool.eq_iff_iff, isAmoOp_iff, h5, decide_eq_true_iff]
  cases op <;> cases op' <;> simp [hamo, h3, AmoOp.funct5]

/-- An atomic operation reads both its source registers. -/
theorem isAmoOp_rs2en {op : AmoOp} (h : isAmoOp op w = true) : decRs2en w = !decRs2x0 w := by
  obtain ⟨hamo, -, h5⟩ := isAmoOp_iff.mp h
  have hne : op.funct5 ≠ 0b00010#5 := by cases op <;> decide
  simp [decRs2en, decRs2x0, decRs2idx, (rv32Amo_regs hamo).1, rv32NeedRs2, rv32Rs2X0, rv32LrW, hamo,
    h5, hne]

theorem isAmoOp_size {op : AmoOp} (h : isAmoOp op w = true) : lsuInfoSize w = 0b10#2 := by
  obtain ⟨hamo, h3, -⟩ := isAmoOp_iff.mp h
  rw [lsuInfoSize, (rv32Amo_regs hamo).1, h3]
  rfl

theorem isAmo_exclusive (h : isAmo w = true) :
    isLoad w = false ∧ isStore w = false ∧ isExcl w = false := by
  obtain ⟨hamo, hexcl⟩ := isAmo_iff.mp h
  obtain ⟨-, -, -, -, -, -, hld, hst, hlw, hlwsp, hsw, hswsp⟩ := rv32Amo_disjoint hamo
  rw [isExcl, Bool.or_eq_false_iff] at hexcl
  simp [isLoad, isStore, isExcl, hld, hst, hlw, hlwsp, hsw, hswsp, hexcl.1, hexcl.2]

end

section
variable {d : In}

/-- What the address-generation unit reads off the bus. -/
theorem aguInfoBus_bits :
    (aguInfoBus d).getLsbD 4 = isLoad d.instr ∧ (aguInfoBus d).getLsbD 5 = isStore d.instr ∧
      (aguInfoBus d).getLsbD 9 = isExcl d.instr ∧ (aguInfoBus d).getLsbD 10 = isAmo d.instr :=
  ⟨bus_getLsbD d _ _ (k := 0) (by omega), bus_getLsbD d _ _ (k := 1) (by omega),
    bus_getLsbD d _ _ (k := 5) (by omega), bus_getLsbD d _ _ (k := 6) (by omega)⟩

theorem aguInfoBus_amoOp (op : AmoOp) :
    (aguInfoBus d).getLsbD (amoBit op) = isAmoOp op d.instr := by
  cases op
  · exact bus_getLsbD d _ _ (k := 7) (by omega)
  · exact bus_getLsbD d _ _ (k := 8) (by omega)
  · exact bus_getLsbD d _ _ (k := 9) (by omega)
  · exact bus_getLsbD d _ _ (k := 10) (by omega)
  · exact bus_getLsbD d _ _ (k := 11) (by omega)
  · exact bus_getLsbD d _ _ (k := 12) (by omega)
  · exact bus_getLsbD d _ _ (k := 13) (by omega)
  · exact bus_getLsbD d _ _ (k := 14) (by omega)
  · exact bus_getLsbD d _ _ (k := 15) (by omega)

theorem aguInfoBus_size : (aguInfoBus d).extractLsb' 6 2 = lsuInfoSize d.instr := by
  have h0 : (aguInfoBus d).getLsbD 6 = (lsuInfoSize d.instr).getLsbD 0 :=
    bus_getLsbD d _ _ (k := 2) (by omega)
  have h1 : (aguInfoBus d).getLsbD 7 = (lsuInfoSize d.instr).getLsbD 1 :=
    bus_getLsbD d _ _ (k := 3) (by omega)
  apply BitVec.eq_of_getLsbD_eq
  intro k hk
  simp only [BitVec.getLsbD_extractLsb', hk, decide_true, Bool.true_and]
  have hcase : k = 0 ∨ k = 1 := by omega
  obtain rfl | rfl := hcase
  · exact h0
  · exact h1

/-- An atomic operation is legal and in the address-generation group, whatever the mode. -/
theorem decInfo_of_isAmo (h : isAmo d.instr = true) :
    decInfo d = aguInfoBus d ∧ decIlegl d = false := by
  obtain ⟨hamo, -⟩ := isAmo_iff.mp h
  obtain ⟨hbjp, hmret, hdret, hfence, hcsr, hmdv, -⟩ := rv32Amo_disjoint hamo
  obtain ⟨h1, h2, h3, h4, h5, h6, h7⟩ := rv32Amo_legal hamo
  have hop : amoldstOp d.instr = true := by simp [amoldstOp, hamo]
  have hbjp' : bjpOp d = false := by simp [bjpOp, hbjp, hmret, hdret, hfence]
  constructor
  · simp [decInfo, hop, hbjp', hcsr, hmdv, aluOp_eq_false_of_amoldstOp hop]
  · simp [decIlegl, rvIndexIlgl, leglOps, hop, h1, h2, h3, h4, h5, h6, h7, rv32DretIlgl, hdret]

end
end E203.Decode
