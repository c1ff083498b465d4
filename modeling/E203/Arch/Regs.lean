import E203.Arch.Next
import E203.Decode.Muldiv

/-! # The registers of an instruction

`Decode.RegWires w ins`: what the decoder says about the registers of a legal word `w` that is the
instruction `ins`; `regWires` proves it for every instruction.
-/

namespace E203
set_option autoImplicit false

namespace Isa
section
variable {w : BitVec 32} {ins : Instr}

/-- A multiplication or division in its word. -/
theorem mulDiv_fields {fn : MulDivOp} {dst r1 r2 : BitVec 5}
    (h : decode w = some (.mulDiv fn dst r1 r2)) :
    opcode w = 0b0110011#7 ∧ funct7 w = 0b0000001#7 ∧ mulDivFn (funct3 w) = fn ∧ rd w = dst ∧
      rs1 w = r1 ∧ rs2 w = r2 := by
  obtain ⟨-, h32⟩ := decode32_of_not_hasShort h rfl
  have ho := opcode_of_decode32 h32
  have hop : decodeOp w = some (.mulDiv fn dst r1 r2) := by
    rw [decode32, ho] at h32
    exact h32
  rw [decodeOp] at hop
  split_ifs at hop with h0 h1
  · cases Option.some.inj hop
  · cases Option.some.inj hop
    exact ⟨ho, h1, rfl, rfl, rfl, rfl⟩
  all_goals cases Option.some.inj hop

/-- An atomic operation in its word; `LR` has no second source. -/
theorem amo_fields (h : decodeAmo w = some ins) :
    funct3 w = 0b010#3 ∧ ins.rd = rd w ∧
      (∀ dst r1, ins = .lr dst r1 → funct5 w = 0b00010#5 ∧ rs1 w = r1 ∧ rs2 w = 0#5) ∧
      (∀ dst r1 r2, ins = .sc dst r1 r2 → funct5 w = 0b00011#5 ∧ rs1 w = r1 ∧ rs2 w = r2) ∧
      (∀ fn dst r1 r2, ins = .amo fn dst r1 r2 → funct5 w ≠ 0b00010#5 ∧ funct5 w ≠ 0b00011#5) := by
  rw [decodeAmo] at h
  obtain ⟨-, h⟩ | ⟨hf, h⟩ := ite_eq_iff.mp h
  · cases h
  refine ⟨not_not.mp hf, ?_⟩
  obtain ⟨h5, h⟩ | ⟨hlr, h⟩ := ite_eq_iff.mp h
  · obtain ⟨hrs2, h⟩ | ⟨-, h⟩ := ite_eq_iff.mp h
    · obtain rfl := Option.some.inj h
      refine ⟨rfl, ?_, ?_, ?_⟩
      · rintro dst r1 heq
        cases heq
        exact ⟨h5, rfl, hrs2⟩
      · rintro dst r1 r2 heq
        cases heq
      · rintro fn dst r1 r2 heq
        cases heq
    · cases h
  obtain ⟨h5, h⟩ | ⟨hsc, h⟩ := ite_eq_iff.mp h
  · obtain rfl := Option.some.inj h
    refine ⟨rfl, ?_, ?_, ?_⟩
    · rintro dst r1 heq
      cases heq
    · rintro dst r1 r2 heq
      cases heq
      exact ⟨h5, rfl, rfl⟩
    · rintro fn dst r1 r2 heq
      cases heq
  · obtain ⟨fn, -, rfl⟩ := Option.map_eq_some_iff.mp h
    refine ⟨rfl, ?_, ?_, fun _ _ _ _ _ => ⟨hlr, hsc⟩⟩
    · rintro dst r1 heq
      cases heq
    · rintro dst r1 r2 heq
      cases heq

/-- The breakpoint is the one system instruction with a 16-bit form. -/
theorem ebreak_fields (hlo : w.extractLsb' 0 2 ≠ 0b11#2) (h : decode w = some .ebreak) :
    w.extractLsb' 0 2 = 0b10#2 ∧ funct3C w = 0b100#3 ∧ rdC w = 0#5 := by
  rw [decode, if_neg hlo] at h
  split_ifs at h with h0 h1
  · rw [decodeC0] at h
    split_ifs at h
    all_goals cases h
  · have hcalu : decodeCAlu w ≠ some .ebreak := by
      intro hc
      unfold decodeCAlu at hc
      repeat' split at hc
      all_goals cases hc
    unfold decodeC1 at h
    repeat' split at h
    case isFalse.isFalse.isFalse.isFalse.isTrue => exact absurd h hcalu
    all_goals cases h
  · have hlo2 : w.extractLsb' 0 2 = 0b10#2 := by
      revert hlo h0 h1
      generalize w.extractLsb' 0 2 = x
      revert x
      decide
    have hf4 : funct3C w = 0b100#3 := by
      unfold decodeC2 at h
      split_ifs at h
      case pos => assumption
      all_goals cases h
    have hcr : decodeCr w = some .ebreak := by
      rw [decodeC2, hf4] at h
      exact h
    rw [decodeCr] at hcr
    split_ifs at hcr with hrs2 hrd
    · exact ⟨hlo2, hf4, hrd⟩
    all_goals cases hcr

end
end Isa

namespace Decode

structure RegWires (w : BitVec 32) (ins : Isa.Instr) : Prop where
  rdwen : decRdwen w = !(ins.rd == 0#5)
  rdidx : ins.rd ≠ 0#5 → decRdidx w = ins.rd
  /-- Each source other than `x0` is one of the operands. -/
  srcs : ∀ r ∈ ins.srcs, r ≠ 0#5 →
    (decRs1en w = true ∧ decRs1idx w = r) ∨ (decRs2en w = true ∧ decRs2idx w = r)

section
variable {w : BitVec 32} {ins : Isa.Instr} {d : In}

attribute [local simp] rv32RdX0 rv32NeedRd rv32Branch rv32Store rv32FenceFencei rv32Miscmem
  rv32EcallEbreakRetWfi rv32System rv32Jalr rv32NeedRs1 rv32Rs1X0 rv32Lui rv32Auipc rv32Jal rv32Csrrwi
  rv32Csrrsi rv32Csrrci opcode65_11 opcode65_00 opcode65_01 opcode42_000 opcode42_001 opcode42_011
  opcode42_100 opcode42_101 opcode10_11 rv32Func3_000 rv32Func3

/-- A register jump reads its base through the first port. -/
theorem decRs1en_of_decJalr (h : decJalr w = true) : decRs1en w = !(decRs1idx w == 0#5) := by
  rw [decJalr, Bool.or_eq_true, Bool.or_eq_true] at h
  obtain (h | h) | h := h
  · simp only [rv32Jalr, opcode65_11, opcode42_001, opcode10_11, Bool.and_eq_true, beq_iff_eq] at h
    have hmid : w.extractLsb' 2 3 = (opcode w).extractLsb' 2 3 :=
      Lib.extractLsb'_of_extractLsb' (a := 0) (b := 2) (k := 3) (y := opcode w) rfl (by omega)
    simp [h, rv32, hmid, decRs1en, decRs1idx]
  all_goals
    simp only [rv16Jalr, rv16Jr, rv16JalrMvAdd, opcode10_10, rv16Func3_100, rv16Func3,
      BitVec.getLsbD_eq_getElem (show 12 < 32 by decide), Bool.and_eq_true, Bool.not_eq_true',
      beq_iff_eq] at h
    simp [h, rv32, decRs1en, decRs1idx, rv16Rs1en, rv16NeedCrRs1, rv16FormatCr, rv16JalrMvAdd,
      opcode10_10, rv16Func3_100, rv16Func3]

/-- What has no destination writes none. -/
theorem rdwen_of_fence (h : Isa.decode w = some ins) (hins : ins = .fence ∨ ins = .fencei) :
    decRdwen w = false := by
  have hop : Isa.opcode w = 0b0001111#7 := by
    obtain rfl | rfl := hins
    all_goals exact Isa.opcode_of_decode32 (Isa.decode32_of_not_hasShort h rfl).2
  obtain ⟨h10, h42, h65, h24, -⟩ := fields_of_opcode hop
  simp [decRdwen, rv32, h10, h42, h65, h24]

theorem rv16Rdidx_cr (h10 : (opcode w).extractLsb' 0 2 = 0b10#2) (hf : w.extractLsb' 13 3 = 0b100#3) :
    rv16Rdidx w = rv16CrRd w := by
  simp [rv16Rdidx, rv16NeedCrRd, rv16FormatCr, rv16NeedCiRd, rv16FormatCi, rv16NeedCssRd,
    rv16NeedCiwRdd, rv16FormatCiw, rv16NeedClRdd, rv16FormatCl, rv16NeedCsRdd, rv16FormatCs,
    rv16NeedCbRdd, rv16FormatCb, rv16NeedCjRdd, rv16FormatCj, rv16JalrMvAdd, rv16Lwsp, rv16Li,
    rv16LuiAddi16sp, rv16Addi, rv16Slli, rv16Addi4spn, rv16Lw, rv16Sw, rv16Subxororand, rv16Beqz,
    rv16Bnez, rv16Srli, rv16Srai, rv16Andi, rv16Miscalu, rv16J, rv16Jal, opcode10_00, opcode10_01,
    opcode10_10, rv16Func3_000, rv16Func3_010, rv16Func3_100, rv16Func3, h10, hf]

theorem rdwen_of_system (h : Isa.decode w = some ins) (ho : ins.opcode = 0b1110011#7)
    (hins : ∀ fn dst src imm idx, ins ≠ .csr fn dst src imm idx) : decRdwen w = false := by
  by_cases hlo : w.extractLsb' 0 2 = 0b11#2
  · have h32 : Isa.decode32 w = some ins := by
      rw [Isa.decode, if_pos hlo] at h
      exact h
    have hop : Isa.opcode w = 0b1110011#7 := (Isa.opcode_of_decode32 h32).trans ho
    obtain ⟨h10, h42, h65, h24, -⟩ := fields_of_opcode hop
    have hf : w.extractLsb' 12 3 = 0#3 := by
      have hsys : Isa.decodeSystem w = some ins := by
        rw [Isa.decode32, hop] at h32
        exact h32
      by_contra hne
      have hne' : ¬Isa.funct3 w = 0#3 := hne
      rw [Isa.decodeSystem, if_neg hne'] at hsys
      obtain ⟨fn, -, rfl⟩ := Option.map_eq_some_iff.mp hsys
      exact hins _ _ _ _ _ rfl
    simp [decRdwen, rv32, h10, h42, h65, h24, hf]
  · have hins' : ins = .ebreak := by
      cases ins
      case ebreak => rfl
      case csr => exact absurd rfl (hins _ _ _ _ _)
      case ecall | mret | dret | wfi =>
        exact absurd (Isa.decode32_of_not_hasShort h rfl).1 hlo
      all_goals cases ho
    obtain ⟨h10, hf, hrd⟩ := Isa.ebreak_fields hlo (hins' ▸ h)
    obtain ⟨h10', hlen⟩ := lo_fields h10 (by decide)
    have hidx : rv16Rdidx w = rv16CrRd w := rv16Rdidx_cr h10' hf
    have hzero : rv16CrRd w = 0#5 := by
      have hrd' : w.extractLsb' 7 5 = 0#5 := hrd
      have hno : rv16Rs1X0 w = true := by simp [rv16Rs1X0, rv16Rs1, rv16Rd, rv32Rd, hrd']
      simp [rv16CrRd, rv16Jalr, rv16Jr, hno, rv16Rd, rv32Rd, hrd']
    simp [decRdwen, hlen, hidx, hzero]

theorem mulDivFn_idx {fn : MulDivOp} {f : BitVec 3} (h : Isa.mulDivFn f = fn) :
    f = BitVec.ofNat 3 fn.idx := by
  subst h
  revert f
  decide

/-- A multiplication or division is one on the wires. -/
theorem isMulDiv_of_decode {fn : MulDivOp} {dst r1 r2 : BitVec 5}
    (h : Isa.decode w = some (.mulDiv fn dst r1 r2)) : isMulDiv fn w = true := by
  obtain ⟨hop, h7, h3, -⟩ := Isa.mulDiv_fields h
  obtain ⟨h10, h42, h65, -⟩ := fields_of_opcode hop
  have h7' : rv32Func7 w = 0b0000001#7 := h7
  refine isMulDiv_iff.mpr ⟨?_, mulDivFn_idx h3⟩
  simp [muldivOp, rv32Op, rv32Func7_0000001, h10, h42, h65, h7']

theorem regWires_mulDiv {fn : MulDivOp} {dst r1 r2 : BitVec 5}
    (h : Isa.decode w = some (.mulDiv fn dst r1 r2)) : RegWires w (.mulDiv fn dst r1 r2) := by
  obtain ⟨hop, -, -, hrd, hr1, hr2⟩ := Isa.mulDiv_fields h
  obtain ⟨h10, h42, h65, h24, -⟩ := fields_of_opcode hop
  obtain ⟨hlen, hen1, hen2⟩ := muldivOp_regs (isMulDiv_iff.mp (isMulDiv_of_decode h)).1
  have hidx : decRdidx w = dst ∧ decRs1idx w = r1 ∧ decRs2idx w = r2 := by
    rw [decRdidx, decRs1idx, decRs2idx, if_pos hlen, if_pos hlen, if_pos hlen]
    exact ⟨hrd, hr1, hr2⟩
  refine ⟨?_, fun _ => hidx.1, fun r hr hne => ?_⟩
  · have hrd' : w.extractLsb' 7 5 = dst := hrd
    simp [decRdwen, hlen, h10, h42, h65, rv32Rd, hrd', Isa.Instr.rd]
  · obtain rfl | hr := List.mem_cons.mp hr
    · rw [hen1, decRs1x0, hidx.2.1, beq_false_of_ne hne]
      exact .inl ⟨rfl, rfl⟩
    · obtain rfl := List.mem_singleton.mp hr
      rw [hen2, decRs2x0, hidx.2.2, beq_false_of_ne hne]
      exact .inr ⟨rfl, rfl⟩

/-- The word of an atomic operation. -/
theorem decodeAmo_of_decode (h : Isa.decode w = some ins) (ho : ins.opcode = 0b0101111#7)
    (hs : ins.hasShort = false) : rv32Amo w = true ∧ Isa.decodeAmo w = some ins := by
  have h32 := (Isa.decode32_of_not_hasShort h hs).2
  have hop : Isa.opcode w = 0b0101111#7 := (Isa.opcode_of_decode32 h32).trans ho
  obtain ⟨h10, h42, h65, -⟩ := fields_of_opcode hop
  refine ⟨by simp [rv32Amo, h10, h42, h65], ?_⟩
  rw [Isa.decode32, hop] at h32
  exact h32

theorem rv32Func5_eq (w : BitVec 32) : (rv32Func7 w).extractLsb' 2 5 = Isa.funct5 w := by
  exact (Lib.extractLsb'_of_extractLsb' (a := 25) (y := rv32Func7 w) rfl (by omega)).symm

/-- The exclusive accesses are told apart by the fifth function field. -/
theorem excl_eq (hamo : rv32Amo w = true) (hf : Isa.funct3 w = 0b010#3) :
    rv32LrW w = (Isa.funct5 w == 0b00010#5) ∧ rv32ScW w = (Isa.funct5 w == 0b00011#5) := by
  have hf' : rv32Func3_010 w = true := beq_iff_eq.mpr hf
  rw [rv32LrW, rv32ScW, hamo, hf', rv32Func5_eq]
  exact ⟨rfl, rfl⟩

/-- The operands of a load-reserved and of a store-conditional are their registers. -/
theorem excl_regs (hamo : rv32Amo w = true) (hlr : rv32LrW w = true → Isa.rs2 w = 0#5) :
    decRs1idx w = Isa.rs1 w ∧ decRs2idx w = Isa.rs2 w ∧ decRs1en w = !decRs1x0 w ∧
      decRs2en w = !decRs2x0 w := by
  obtain ⟨hlen, hen1, -⟩ := rv32Amo_regs hamo
  have hidx : decRs1idx w = Isa.rs1 w ∧ decRs2idx w = Isa.rs2 w := by
    rw [decRs1idx, decRs2idx, if_pos hlen, if_pos hlen]
    exact ⟨rfl, rfl⟩
  refine ⟨hidx.1, hidx.2, hen1, ?_⟩
  rw [decRs2en, if_pos hlen, decRs2x0, hidx.2, rv32NeedRs2, hamo]
  have hx0 : rv32Rs2X0 w = (Isa.rs2 w == 0#5) := rfl
  obtain ⟨h10, h42, h65⟩ := rv32Amo_fields hamo
  have hno : rv32Branch w = false ∧ rv32Store w = false ∧ rv32Op w = false := by
    simp [rv32Op, h10, h42, h65]
  rw [hno.1, hno.2.1, hno.2.2, hx0]
  cases hlw : rv32LrW w
  · simp
  · rw [hlr hlw]
    rfl

theorem regWires_amo (h : Isa.decode w = some ins) (ho : ins.opcode = 0b0101111#7)
    (hs : ins.hasShort = false) : RegWires w ins := by
  obtain ⟨hamo, hdec⟩ := decodeAmo_of_decode h ho hs
  obtain ⟨hf, hrd, hlr, hsc, -⟩ := Isa.amo_fields hdec
  obtain ⟨hlen, -, hwen⟩ := rv32Amo_regs hamo
  have hidx : decRdidx w = ins.rd := by
    rw [hrd, decRdidx, if_pos hlen]
    rfl
  refine ⟨by rw [hwen, hidx], fun _ => hidx, fun r hr hne => ?_⟩
  have hport : (r = Isa.rs1 w ∨ r = Isa.rs2 w) ∧ (rv32LrW w = true → Isa.rs2 w = 0#5) := by
    have h5 : rv32LrW w = true → Isa.funct5 w = 0b00010#5 := fun hl =>
      beq_iff_eq.mp ((excl_eq hamo hf).1.symm.trans hl)
    cases ins
    case lr dst r1 =>
      obtain ⟨-, h1, h2⟩ := hlr _ _ rfl
      obtain rfl := List.mem_singleton.mp hr
      exact ⟨.inl h1.symm, fun _ => h2⟩
    case sc dst r1 r2 =>
      obtain ⟨hsc5, h1, h2⟩ := hsc _ _ _ rfl
      refine ⟨?_, fun hl => absurd ((h5 hl).symm.trans hsc5) (by decide)⟩
      obtain rfl | hr := List.mem_cons.mp hr
      · exact .inl h1.symm
      · obtain rfl := List.mem_singleton.mp hr
        exact .inr h2.symm
    case amo => exact absurd hr List.not_mem_nil
    all_goals cases ho
  obtain ⟨hidx1, hidx2, hen1, hen2⟩ := excl_regs hamo hport.2
  obtain rfl | rfl := hport.1
  · rw [hen1, decRs1x0, hidx1, beq_false_of_ne hne]
    exact .inl ⟨rfl, rfl⟩
  · rw [hen2, decRs2x0, hidx2, beq_false_of_ne hne]
    exact .inr ⟨rfl, rfl⟩

/-- Integer instructions other than the control transfers. -/
theorem IntWires.regs (h : IntWires d ins) (hrd : ins.rd = ins.dest)
    (hsrcs : ∀ r ∈ ins.srcs, ins.rs1 = some r ∨ ins.rs2 = some r) : RegWires d.instr ins where
  rdwen := hrd ▸ h.rdwen
  rdidx := hrd ▸ h.rdidx
  srcs r hr hne := by
    obtain hr1 | hr2 := hsrcs r hr
    · obtain ⟨hidx, hen⟩ := h.rs1 r hr1
      rw [hen, beq_false_of_ne hne]
      exact .inl ⟨rfl, hidx⟩
    · obtain ⟨hidx, hen⟩ := h.rs2 r hr2
      rw [hen, beq_false_of_ne hne]
      exact .inr ⟨rfl, hidx⟩

theorem regWires_jalr {dst r1 : BitVec 5} {offset : BitVec 32} (hi : IntWires d (.jalr dst r1 offset))
    (h : Isa.decode d.instr = some (.jalr dst r1 offset)) :
    RegWires d.instr (.jalr dst r1 offset) := by
  have hw : CtrlWires d _ := ctrlWires (Isa.ctrl_of_decode h rfl)
  have hjalr : decJalr d.instr = true := hw.jalr
  have hidx : decRs1idx d.instr = r1 := (decJalr_fields hjalr).2.2.2.trans (hw.jalrRs1idx rfl)
  refine ⟨hi.rdwen, hi.rdidx, fun r hr hne => ?_⟩
  obtain rfl : r = r1 := List.mem_singleton.mp hr
  rw [decRs1en_of_decJalr hjalr, hidx, beq_false_of_ne hne]
  exact .inl ⟨rfl, rfl⟩

theorem regWires_branch {cond : Isa.Cond} {r1 r2 : BitVec 5} {offset : BitVec 32}
    (hi : IntWires d (.branch cond r1 r2 offset))
    (h : Isa.decode d.instr = some (.branch cond r1 r2 offset)) :
    RegWires d.instr (.branch cond r1 r2 offset) := by
  have hw : CtrlWires d _ := ctrlWires (Isa.ctrl_of_decode h rfl)
  refine ⟨hi.rdwen, fun hne => absurd rfl hne, fun r hr hne => ?_⟩
  obtain rfl | hr := List.mem_cons.mp hr
  · have hx0 : (r == 0#5) = false := beq_false_of_ne hne
    exact .inl ⟨(hw.rs1en rfl).trans (congrArg not hx0), hw.rs1 rfl⟩
  · obtain rfl := List.mem_singleton.mp hr
    have hx0 : (r == 0#5) = false := beq_false_of_ne hne
    exact .inr ⟨(hw.rs2en rfl).trans (congrArg not hx0), hw.rs2 rfl⟩

/-- The decoder reads the registers of every legal instruction. -/
theorem regWires (h : Isa.decode d.instr = some ins) (hleg : decIlegl d = false) :
    RegWires d.instr ins := by
  have hint := fun hi : ins.isInteger = true => intWires h hi hleg
  cases ins
  case op | opImm | load | store =>
    refine (hint rfl).regs rfl fun r hr => ?_
    simpa [Isa.Instr.srcs, Isa.Instr.rs1, Isa.Instr.rs2, eq_comm] using hr
  case lui | auipc | jal => exact (hint rfl).regs rfl fun r hr => absurd hr List.not_mem_nil
  case jalr => exact regWires_jalr (hint rfl) h
  case branch => exact regWires_branch (hint rfl) h
  case mulDiv => exact regWires_mulDiv h
  case lr | sc | amo => exact regWires_amo h rfl rfl
  case csr =>
    have hw := csrWires h
    exact ⟨hw.rdwen, fun _ => hw.rdidx, fun r hr => absurd hr List.not_mem_nil⟩
  case fence =>
    exact ⟨rdwen_of_fence h (.inl rfl), fun hne => absurd rfl hne, fun r hr => absurd hr List.not_mem_nil⟩
  case fencei =>
    exact ⟨rdwen_of_fence h (.inr rfl), fun hne => absurd rfl hne, fun r hr => absurd hr List.not_mem_nil⟩
  case ecall | ebreak | mret | dret | wfi =>
    exact ⟨rdwen_of_system h rfl fun _ _ _ _ _ hins => (by cases hins), fun hne => absurd rfl hne,
      fun r hr => absurd hr List.not_mem_nil⟩

end
end Decode
end E203
