import E203.Decode.Groups
import E203.Isa.RV32MA

/-! # Multiplications and divisions on the information bus

`Decode.isMulDiv op w`: the word `w` is the instruction `op` of the M extension.
-/

namespace E203.Decode
set_option autoImplicit false

def isMulDiv : MulDivOp → BitVec 32 → Bool
  | .mul => rv32Mul
  | .mulh => rv32Mulh
  | .mulhsu => rv32Mulhsu
  | .mulhu => rv32Mulhu
  | .div => rv32Div
  | .divu => rv32Divu
  | .rem => rv32Rem
  | .remu => rv32Remu

section
variable {w : BitVec 32} {op : MulDivOp}

/-- The instruction is the third function field. -/
theorem isMulDiv_iff :
    isMulDiv op w = true ↔ muldivOp w = true ∧ rv32Func3 w = BitVec.ofNat 3 op.idx := by
  have hfields : isMulDiv op w =
      (rv32Op w && rv32Func3 w == BitVec.ofNat 3 op.idx && rv32Func7_0000001 w) := by
    cases op <;> rfl
  rw [hfields, muldivOp]
  simp only [Bool.and_eq_true, beq_iff_eq]
  tauto

theorem exists_isMulDiv (h : muldivOp w = true) : ∃ op, isMulDiv op w = true := by
  have hcase : ∀ f : BitVec 3, f = 0#3 ∨ f = 1#3 ∨ f = 2#3 ∨ f = 3#3 ∨ f = 4#3 ∨ f = 5#3 ∨ f = 6#3 ∨
      f = 7#3 := by decide
  obtain hf | hf | hf | hf | hf | hf | hf | hf := hcase (rv32Func3 w)
  · exact ⟨.mul, isMulDiv_iff.mpr ⟨h, hf⟩⟩
  · exact ⟨.mulh, isMulDiv_iff.mpr ⟨h, hf⟩⟩
  · exact ⟨.mulhsu, isMulDiv_iff.mpr ⟨h, hf⟩⟩
  · exact ⟨.mulhu, isMulDiv_iff.mpr ⟨h, hf⟩⟩
  · exact ⟨.div, isMulDiv_iff.mpr ⟨h, hf⟩⟩
  · exact ⟨.divu, isMulDiv_iff.mpr ⟨h, hf⟩⟩
  · exact ⟨.rem, isMulDiv_iff.mpr ⟨h, hf⟩⟩
  · exact ⟨.remu, isMulDiv_iff.mpr ⟨h, hf⟩⟩

theorem isMulDiv_eq (h : isMulDiv op w = true) (op' : MulDivOp) :
    isMulDiv op' w = decide (op' = op) := by
  obtain ⟨hop, hfunc⟩ := isMulDiv_iff.mp h
  rw [Bool.eq_iff_iff, isMulDiv_iff, hop, hfunc, decide_eq_true_iff]
  cases op <;> cases op' <;> decide

theorem isMulDiv_unique {op' : MulDivOp} (h : isMulDiv op w = true) (h' : isMulDiv op' w = true) :
    op' = op := by
  rw [isMulDiv_eq h] at h'
  exact of_decide_eq_true h'

theorem isMulDiv_of_decMulhsu (h : decMulhsu w = true) :
    ∃ op, isMulDiv op w = true ∧ op.fuses .mul = true := by
  simp only [decMulhsu, Bool.or_eq_true] at h
  obtain (h | h) | h := h
  · exact ⟨.mulh, h, rfl⟩
  · exact ⟨.mulhsu, h, rfl⟩
  · exact ⟨.mulhu, h, rfl⟩

attribute [local simp] decBjp decJal decJalr decBxx amoldstOp csrOp rv32Load rv32Store rv32Branch
  rv32Jalr rv32Miscmem rv32Amo rv32Jal rv32OpImm rv32System rv32Auipc rv32Lui rv16Addi4spn rv16Lw
  rv16Sw rv16Addi rv16Jal rv16Li rv16LuiAddi16sp rv16Miscalu rv16J rv16Beqz rv16Bnez rv16Slli
  rv16Lwsp rv16JalrMvAdd rv16Swsp rv16Jr rv16Jalr rv32Mret rv32Dret rv32Csr rv32FenceFencei
  opcode10_00 opcode10_01 opcode10_10 opcode10_11 opcode42_000 opcode42_001 opcode42_011
  opcode42_100 opcode42_101 opcode42_111 opcode65_00 opcode65_01 opcode65_11 rv16LwspIlgl
  rv16LiLuiIlgl rv16LiIlgl rv16LuiIlgl rv16Lui rv16Addi4spnIlgl rv16Addi16spIlgl rv16Addi16sp
  rv16SxxiShamtIlgl rv16Srli rv16Srai rv32SxxiShamtIlgl rv32Slli rv32Srli rv32Srai rvAll0s1sIlgl
  rv32All0sIlgl rv32All1sIlgl rv32EcallEbreakRetWfi rv32Csrrwi rv32Csrrsi rv32Csrrci

theorem muldivOp_fields (h : muldivOp w = true) :
    (opcode w).extractLsb' 0 2 = 0b11#2 ∧ (opcode w).extractLsb' 2 3 = 0b100#3 ∧
      (opcode w).extractLsb' 5 2 = 0b01#2 ∧ rv32Func7 w = 0b0000001#7 := by
  simp only [muldivOp, rv32Op, opcode65_01, opcode42_100, opcode10_11, rv32Func7_0000001,
    Bool.and_eq_true, beq_iff_eq] at h
  exact ⟨h.1.2, h.1.1.2, h.1.1.1, h.2⟩

/-- The major opcode of the arithmetic instructions is in no other group. -/
theorem muldivOp_disjoint (h : muldivOp w = true) :
    amoldstOp w = false ∧ csrOp w = false ∧ decBjp w = false ∧ rv32Mret w = false ∧
      rv32Dret w = false ∧ rv32FenceFencei w = false := by
  obtain ⟨h10, h42, h65, -⟩ := muldivOp_fields h
  simp [h10, h42, h65]

theorem muldivOp_regs (h : muldivOp w = true) :
    rv32 w = true ∧ decRs1en w = !decRs1x0 w ∧ decRs2en w = !decRs2x0 w := by
  obtain ⟨h10, h42, h65, -⟩ := muldivOp_fields h
  have hlen : rv32 w = true := by
    have h24 : w.extractLsb' 2 3 = 0b100#3 := by
      rw [← h42, opcode, ← Lib.extractLsb'_of_extractLsb' (a := 0) rfl (by omega)]
    simp [rv32, h10, h24]
  refine ⟨hlen, ?_, ?_⟩
  · simp [decRs1en, decRs1x0, decRs1idx, hlen, rv32NeedRs1, rv32Rs1X0, h10, h42, h65]
  · simp [decRs2en, decRs2x0, decRs2idx, hlen, rv32NeedRs2, rv32Rs2X0, rv32Op, h10, h42, h65]

theorem muldivOp_legal (h : muldivOp w = true) :
    rvAll0s1sIlgl w = false ∧ rv16Addi16spIlgl w = false ∧ rv16Addi4spnIlgl w = false ∧
      rv16LiLuiIlgl w = false ∧ rv16SxxiShamtIlgl w = false ∧ rv32SxxiShamtIlgl w = false ∧
      rv16LwspIlgl w = false := by
  obtain ⟨h10, h42, h65, h7⟩ := muldivOp_fields h
  have hlen := (muldivOp_regs h).1
  have h0 : rv32Func7_0000000 w = false := by rw [rv32Func7_0000000, h7]; rfl
  have h1 : rv32Func7_1111111 w = false := by rw [rv32Func7_1111111, h7]; rfl
  simp [h10, h42, h65, hlen, h0, h1]

end

section
variable {d : In} {op : MulDivOp}

/-- What the multiplier/divider reads off the bus. -/
theorem decInfo_of_isMulDiv (h : isMulDiv op d.instr = true) :
    (decInfo d).grp = GRP_MULDIV ∧ (decInfo d).OpBits op ∧ (decInfo d).b2b = d.muldivB2b ∧
      decIlegl d = false := by
  have hop := (isMulDiv_iff.mp h).1
  obtain ⟨hagu, hcsr, hbjp, hmret, hdret, hfence⟩ := muldivOp_disjoint hop
  obtain ⟨h1, h2, h3, h4, h5, h6, h7⟩ := muldivOp_legal hop
  have hbjp' : bjpOp d = false := by simp [bjpOp, hbjp, hmret, hdret, hfence]
  have hinfo : decInfo d = muldivInfoBus d := by
    simp [decInfo, hop, hagu, hbjp', hcsr, aluOp_eq_false_of_muldivOp hop]
  have hbits : ∀ op', isMulDiv op' d.instr = decide (op' = op) := isMulDiv_eq h
  refine ⟨by rw [hinfo, muldivInfoBus, bus_grp], ?_, ?_, ?_⟩
  · rw [hinfo]
    constructor
    · exact (bus_getLsbD d _ _ (k := 0) (by omega)).trans ((hbits .mul).trans (by simp [eq_comm]))
    · exact (bus_getLsbD d _ _ (k := 1) (by omega)).trans ((hbits .mulh).trans (by simp [eq_comm]))
    · exact (bus_getLsbD d _ _ (k := 2) (by omega)).trans ((hbits .mulhsu).trans (by simp [eq_comm]))
    · exact (bus_getLsbD d _ _ (k := 3) (by omega)).trans ((hbits .mulhu).trans (by simp [eq_comm]))
    · exact (bus_getLsbD d _ _ (k := 4) (by omega)).trans ((hbits .div).trans (by simp [eq_comm]))
    · exact (bus_getLsbD d _ _ (k := 5) (by omega)).trans ((hbits .divu).trans (by simp [eq_comm]))
    · exact (bus_getLsbD d _ _ (k := 6) (by omega)).trans ((hbits .rem).trans (by simp [eq_comm]))
    · exact (bus_getLsbD d _ _ (k := 7) (by omega)).trans ((hbits .remu).trans (by simp [eq_comm]))
  · rw [hinfo]
    exact bus_getLsbD d _ _ (k := 8) (by omega)
  · simp [decIlegl, rvIndexIlgl, leglOps, hop, h1, h2, h3, h4, h5, h6, h7, rv32DretIlgl, hdret]

end
end E203.Decode
