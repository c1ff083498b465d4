import E203.Rtl.ExuDecode

/-! # The groups of the information bus

The information bus is the or of five group buses.  The regular ALU group has number zero, so it must
not meet another group; among the other four the number on the bus tells which one is driven.
-/

namespace E203.Decode
set_option autoImplicit false

section

attribute [local simp] decBjp decJal decJalr decBxx amoldstOp csrOp muldivOp rv32Load rv32Store
  rv32Branch rv32Jalr rv32Miscmem rv32Amo rv32Jal rv32OpImm rv32Op rv32System rv32Auipc rv32Lui
  rv16Addi4spn rv16Lw rv16Sw rv16Addi rv16Jal rv16Li rv16LuiAddi16sp rv16Miscalu rv16J rv16Beqz
  rv16Bnez rv16Slli rv16Lwsp rv16JalrMvAdd rv16Swsp rv16Nop rv16Jr rv16Mv rv16Ebreak rv16Jalr
  rv16Add rv32Ecall rv32Ebreak rv32Mret rv32Dret rv32Wfi rv32Csr rv32FenceFencei rv32Addi rv32Nop
  rv16Rs1X0 rv16RdX0 rv16Rs1 opcode10_00 opcode10_01 opcode10_10 opcode10_11 opcode42_000
  opcode42_001 opcode42_011 opcode42_100 opcode42_101 opcode65_00 opcode65_01 opcode65_11
  rv32Func3_000 rv16Func3_000 rv16Func3_001 rv16Func3_010 rv16Func3_011 rv16Func3_100
  rv16Func3_101 rv16Func3_110 rv16Func3_111

/-- What the regular ALU group consists of. -/
theorem aluOp_cases {w : BitVec 32} (h : aluOp w = true) :
    rv32OpImm w = true ∨ (rv32Op w = true ∧ rv32Func7_0000001 w = false) ∨ rv32Auipc w = true ∨
      rv32Lui w = true ∨ rv16Addi4spn w = true ∨ rv16Addi w = true ∨ rv16LuiAddi16sp w = true ∨
      rv16Li w = true ∨ rv16Mv w = true ∨ rv16Slli w = true ∨ rv16Miscalu w = true ∨
      rv16Add w = true ∨ rv32Wfi w = true ∨ rv32Ecall w = true ∨ rv32Ebreak w = true ∨
      rv16Ebreak w = true := by
  have hor := (Bool.and_eq_true _ _ ▸ h).2
  simp only [Bool.or_eq_true, Bool.and_eq_true, Bool.not_eq_true', ecallEbreak] at hor
  have hnop : rv16Nop w = true → rv16Addi w = true := by
    intro hn
    simp only [rv16Nop, Bool.and_eq_true] at hn
    exact hn.1.1.1
  have hnop32 : rv32Nop w = true → rv32OpImm w = true := by
    intro hn
    simp only [rv32Nop, rv32Addi, Bool.and_eq_true] at hn
    exact hn.1.1.1.1
  grind

theorem aluOp_disjoint {w : BitVec 32} (h : aluOp w = true) :
    amoldstOp w = false ∧ csrOp w = false ∧ muldivOp w = false ∧ decBjp w = false ∧
      rv32Mret w = false ∧ rv32Dret w = false ∧ rv32FenceFencei w = false := by
  obtain h | ⟨h, h7⟩ | h | h | h | h | h | h | h | h | h | h | h | h | h | h := aluOp_cases h
  case inr.inl => simp_all
  all_goals
    simp only [rv32OpImm, rv32Auipc, rv32Lui, rv16Addi4spn, rv16Addi, rv16LuiAddi16sp, rv16Li,
      rv16Mv, rv16Slli, rv16Miscalu, rv16Add, rv32Wfi, rv32Ecall, rv32Ebreak, rv16Ebreak,
      rv16JalrMvAdd, rv32System, Bool.and_eq_true, opcode10_00, opcode10_01, opcode10_10,
      opcode10_11, opcode65_00, opcode65_01, opcode65_11, opcode42_100, opcode42_101, rv16Func3_000,
      rv16Func3_010, rv16Func3_011, rv16Func3_100, beq_iff_eq, Bool.not_eq_true', rv32Func3_000,
      rv16RdX0] at h
    simp [h]

/-! ## Inside the branch group -/

theorem fenceI_disjoint {w : BitVec 32} (h : rv32FenceI w = true) :
    decBjp w = false ∧ rv32Mret w = false ∧ rv32Dret w = false := by
  simp only [rv32FenceI, rv32Miscmem, opcode65_00, opcode42_011, opcode10_11, Bool.and_eq_true,
    beq_iff_eq] at h
  simp [h]

theorem mret_disjoint {w : BitVec 32} (h : rv32Mret w = true) :
    decBjp w = false ∧ rv32Dret w = false := by
  simp only [rv32Mret, rv32System, opcode65_11, opcode42_100, opcode10_11, Bool.and_eq_true,
    beq_iff_eq] at h
  simp [h]

theorem wfi_disjoint {w : BitVec 32} (h : rv32Wfi w = true) :
    rv32Ecall w = false ∧ rv32Ebreak w = false ∧ rv16Ebreak w = false := by
  simp only [rv32Wfi, rv32System, opcode65_11, opcode42_100, opcode10_11, Bool.and_eq_true,
    beq_iff_eq] at h
  simp [h]

theorem dret_disjoint {w : BitVec 32} (h : rv32Dret w = true) : decBjp w = false := by
  simp only [rv32Dret, rv32System, opcode65_11, opcode42_100, opcode10_11, Bool.and_eq_true,
    beq_iff_eq] at h
  simp [h]

end

/-! ## The group on the bus -/

section
variable {d : In}

theorem grp_gate_bus (sel : Bool) (g : BitVec 3) (bits : List Bool) :
    DecInfo.grp (gate sel (bus d g bits)) = gate sel g := by
  cases sel
  · rfl
  · exact bus_grp d g bits

theorem grp_or (a b : DecInfo) : DecInfo.grp (a ||| b) = a.grp ||| b.grp :=
  BitVec.extractLsb'_or

/-- The or of the group numbers of the operations that are driven. -/
def groups (agu bjp csr mdv : Bool) : BitVec 3 :=
  gate agu GRP_AGU ||| gate bjp GRP_BJP ||| gate csr GRP_CSR ||| gate mdv GRP_MULDIV

theorem decInfo_grp :
    (decInfo d).grp =
      groups (amoldstOp d.instr) (bjpOp d) (csrOp d.instr) (muldivOp d.instr) := by
  have halu : gate (aluOp d.instr) GRP_ALU = 0#3 := by cases aluOp d.instr <;> rfl
  rw [decInfo, grp_or, grp_or, grp_or, grp_or, aluInfoBus, aguInfoBus, bjpInfoBus, csrInfoBus,
    muldivInfoBus, grp_gate_bus, grp_gate_bus, grp_gate_bus, grp_gate_bus, grp_gate_bus, halu,
    BitVec.zero_or, groups]

theorem groups_agu : ∀ {a b c m : Bool}, groups a b c m = GRP_AGU →
    a = true ∧ b = false ∧ c = false ∧ m = false := by decide

theorem groups_alu : ∀ {a b c m : Bool}, groups a b c m = GRP_ALU →
    a = false ∧ b = false ∧ c = false ∧ m = false := by decide

theorem groups_bjp : ∀ {a b c m : Bool}, groups a b c m = GRP_BJP →
    a = false ∧ b = true ∧ c = false ∧ m = false := by decide

theorem groups_muldiv : ∀ {a b c m : Bool}, groups a b c m = GRP_MULDIV →
    a = false ∧ b = false ∧ c = false ∧ m = true := by decide

theorem aluOp_eq_false_of_bjpOp (h : bjpOp d = true) : aluOp d.instr = false := by
  by_contra halu
  obtain ⟨-, -, -, hbjp, hmret, hdret, hfence⟩ := aluOp_disjoint (Bool.not_eq_false _ ▸ halu)
  simp [bjpOp, hbjp, hmret, hdret, hfence] at h

theorem aluOp_eq_false_of_amoldstOp (h : amoldstOp d.instr = true) : aluOp d.instr = false := by
  by_contra halu
  exact Bool.false_ne_true ((aluOp_disjoint (Bool.not_eq_false _ ▸ halu)).1 ▸ h)

theorem aluOp_eq_false_of_muldivOp (h : muldivOp d.instr = true) : aluOp d.instr = false := by
  by_contra halu
  exact Bool.false_ne_true ((aluOp_disjoint (Bool.not_eq_false _ ▸ halu)).2.2.1 ▸ h)

/-- The number on the bus tells the group, and the bus is that group's. -/
theorem decInfo_of_grp_bjp (h : (decInfo d).grp = GRP_BJP) :
    bjpOp d = true ∧ decInfo d = bjpInfoBus d := by
  obtain ⟨hagu, hbjp, hcsr, hmdv⟩ := groups_bjp (decInfo_grp (d := d) ▸ h)
  refine ⟨hbjp, ?_⟩
  simp [decInfo, hagu, hbjp, hcsr, hmdv, aluOp_eq_false_of_bjpOp hbjp]

theorem decInfo_of_grp_alu (h : (decInfo d).grp = GRP_ALU) :
    decInfo d = gate (aluOp d.instr) (aluInfoBus d) := by
  obtain ⟨hagu, hbjp, hcsr, hmdv⟩ := groups_alu (decInfo_grp (d := d) ▸ h)
  simp [decInfo, hagu, hbjp, hcsr, hmdv]

/-- The system instructions of the regular ALU group. -/
theorem aluInfoBus_bits :
    (aluInfoBus d).getLsbD 18 = rv32Ecall d.instr ∧
      (aluInfoBus d).getLsbD 19 = (rv32Ebreak d.instr || rv16Ebreak d.instr) ∧
      (aluInfoBus d).getLsbD 20 = rv32Wfi d.instr :=
  ⟨bus_getLsbD d _ _ (k := 14) (by omega), bus_getLsbD d _ _ (k := 15) (by omega),
    bus_getLsbD d _ _ (k := 16) (by omega)⟩

theorem decInfo_of_grp_agu (h : (decInfo d).grp = GRP_AGU) :
    amoldstOp d.instr = true ∧ decInfo d = aguInfoBus d := by
  obtain ⟨hagu, hbjp, hcsr, hmdv⟩ := groups_agu (decInfo_grp (d := d) ▸ h)
  refine ⟨hagu, ?_⟩
  simp [decInfo, hagu, hbjp, hcsr, hmdv, aluOp_eq_false_of_amoldstOp hagu]

theorem decInfo_of_grp_muldiv (h : (decInfo d).grp = GRP_MULDIV) :
    muldivOp d.instr = true ∧ decInfo d = muldivInfoBus d := by
  obtain ⟨hagu, hbjp, hcsr, hmdv⟩ := groups_muldiv (decInfo_grp (d := d) ▸ h)
  refine ⟨hmdv, ?_⟩
  simp [decInfo, hagu, hbjp, hcsr, hmdv, aluOp_eq_false_of_muldivOp hmdv]

end
end E203.Decode
