import E203.Decode.Legal

/-! # The decoder on CSR instructions

* `Instr.opcode`, `opcode_of_decode32`: the major opcode of an instruction.
* `csr_fields`: the fields of a word that the encoding takes for a CSR instruction.
* `CsrWires`, `csrWires`: what the decoder then drives.
-/

namespace E203.Isa
set_option autoImplicit false

/-! ## The major opcode of an instruction -/

def Instr.opcode : Instr → BitVec 7
  | .op .. | .mulDiv .. => 0b0110011#7
  | .opImm .. => 0b0010011#7
  | .lui .. => 0b0110111#7
  | .auipc .. => 0b0010111#7
  | .load .. => 0b0000011#7
  | .store .. => 0b0100011#7
  | .branch .. => 0b1100011#7
  | .jal .. => 0b1101111#7
  | .jalr .. => 0b1100111#7
  | .fence | .fencei => 0b0001111#7
  | .lr .. | .sc .. | .amo .. => 0b0101111#7
  | .csr .. | .ecall | .ebreak | .mret | .dret | .wfi => 0b1110011#7

/-- The instructions that have a 16-bit form. -/
def Instr.hasShort : Instr → Bool
  | .op .. | .opImm .. | .lui .. | .load .. | .store .. | .branch .. | .jal .. | .jalr .. | .ebreak =>
    true
  | _ => false

section
variable {w : BitVec 32} {ins : Instr}

theorem opcode_decodeOp (h : decodeOp w = some ins) : ins.opcode = 0b0110011#7 := by
  rw [decodeOp] at h
  split_ifs at h
  all_goals
    obtain rfl := Option.some.inj h
    rfl

theorem opcode_decodeOpImm (h : decodeOpImm w = some ins) : ins.opcode = 0b0010011#7 := by
  rw [decodeOpImm] at h
  split_ifs at h
  all_goals
    obtain rfl := Option.some.inj h
    rfl

theorem opcode_decodeLoad (h : decodeLoad w = some ins) : ins.opcode = 0b0000011#7 := by
  rw [decodeLoad] at h
  split_ifs at h
  obtain ⟨z, -, rfl⟩ := Option.map_eq_some_iff.mp h
  rfl

theorem opcode_decodeStore (h : decodeStore w = some ins) : ins.opcode = 0b0100011#7 := by
  rw [decodeStore] at h
  split_ifs at h
  obtain ⟨z, -, rfl⟩ := Option.map_eq_some_iff.mp h
  rfl

theorem opcode_decodeAmo (h : decodeAmo w = some ins) : ins.opcode = 0b0101111#7 := by
  rw [decodeAmo] at h
  split_ifs at h
  · obtain rfl := Option.some.inj h
    rfl
  · obtain rfl := Option.some.inj h
    rfl
  · obtain ⟨fn, -, rfl⟩ := Option.map_eq_some_iff.mp h
    rfl

theorem opcode_decodeMiscMem (h : decodeMiscMem w = some ins) : ins.opcode = 0b0001111#7 := by
  rw [decodeMiscMem] at h
  split_ifs at h
  all_goals
    obtain rfl := Option.some.inj h
    rfl

theorem opcode_decodeSystem (h : decodeSystem w = some ins) : ins.opcode = 0b1110011#7 := by
  rw [decodeSystem] at h
  split_ifs at h
  case neg =>
    obtain ⟨fn, -, rfl⟩ := Option.map_eq_some_iff.mp h
    rfl
  all_goals
    obtain rfl := Option.some.inj h
    rfl

/-- A 32-bit word carries the opcode of its instruction. -/
theorem opcode_of_decode32 (h : decode32 w = some ins) : opcode w = ins.opcode := by
  rw [decode32] at h
  obtain ⟨ho, h⟩ | ⟨-, h⟩ := ite_eq_iff.mp h
  · rw [ho, opcode_decodeOp h]
  obtain ⟨ho, h⟩ | ⟨-, h⟩ := ite_eq_iff.mp h
  · rw [ho, opcode_decodeOpImm h]
  obtain ⟨ho, h⟩ | ⟨-, h⟩ := ite_eq_iff.mp h
  · rw [ho, ← Option.some.inj h, Instr.opcode]
  obtain ⟨ho, h⟩ | ⟨-, h⟩ := ite_eq_iff.mp h
  · rw [ho, ← Option.some.inj h, Instr.opcode]
  obtain ⟨ho, h⟩ | ⟨-, h⟩ := ite_eq_iff.mp h
  · rw [ho, opcode_decodeLoad h]
  obtain ⟨ho, h⟩ | ⟨-, h⟩ := ite_eq_iff.mp h
  · rw [ho, opcode_decodeStore h]
  obtain ⟨ho, h⟩ | ⟨-, h⟩ := ite_eq_iff.mp h
  · obtain ⟨c, -, rfl⟩ := Option.map_eq_some_iff.mp h
    rw [ho, Instr.opcode]
  obtain ⟨ho, h⟩ | ⟨-, h⟩ := ite_eq_iff.mp h
  · rw [ho, ← Option.some.inj h, Instr.opcode]
  obtain ⟨ho, h⟩ | ⟨-, h⟩ := ite_eq_iff.mp h
  · obtain ⟨-, h⟩ | ⟨-, h⟩ := ite_eq_iff.mp h
    · rw [ho, ← Option.some.inj h, Instr.opcode]
    · cases h
  obtain ⟨ho, h⟩ | ⟨-, h⟩ := ite_eq_iff.mp h
  · rw [ho, opcode_decodeMiscMem h]
  obtain ⟨ho, h⟩ | ⟨-, h⟩ := ite_eq_iff.mp h
  · rw [ho, opcode_decodeAmo h]
  obtain ⟨ho, h⟩ | ⟨-, h⟩ := ite_eq_iff.mp h
  · rw [ho, opcode_decodeSystem h]
  · cases h

theorem hasShort_of_decodeC0 (h : decodeC0 w = some ins) : ins.hasShort = true := by
  rw [decodeC0] at h
  split_ifs at h
  all_goals
    obtain rfl := Option.some.inj h
    rfl

theorem hasShort_of_decodeCAlu (h : decodeCAlu w = some ins) : ins.hasShort = true := by
  unfold decodeCAlu at h
  repeat' split at h
  all_goals cases h
  all_goals rfl

theorem hasShort_of_decodeC1 (h : decodeC1 w = some ins) : ins.hasShort = true := by
  unfold decodeC1 at h
  repeat' split at h
  case isFalse.isFalse.isFalse.isFalse.isTrue => exact hasShort_of_decodeCAlu h
  all_goals cases h
  all_goals rfl

theorem hasShort_of_decodeC2 (h : decodeC2 w = some ins) : ins.hasShort = true := by
  unfold decodeC2 decodeCr at h
  repeat' split at h
  all_goals cases h
  all_goals rfl

/-- An instruction without a 16-bit form is in a 32-bit word. -/
theorem decode32_of_not_hasShort (h : decode w = some ins) (hs : ins.hasShort = false) :
    w.extractLsb' 0 2 = 0b11#2 ∧ decode32 w = some ins := by
  have hne : ins.hasShort ≠ true := fun ht => Bool.false_ne_true (hs.symm.trans ht)
  rw [decode] at h
  split_ifs at h with h3 h0 h1
  · exact ⟨h3, h⟩
  · exact absurd (hasShort_of_decodeC0 h) hne
  · exact absurd (hasShort_of_decodeC1 h) hne
  · exact absurd (hasShort_of_decodeC2 h) hne

end

/-! ## The fields of a CSR instruction -/

section
variable {w : BitVec 32} {fn : CsrFn} {dst src : BitVec 5} {imm : Bool} {idx : BitVec 12}

def CsrFn.code : CsrFn → BitVec 2
  | .rw => 0b01#2
  | .rs => 0b10#2
  | .rc => 0b11#2

theorem csrFn_eq_some {f : BitVec 2} (h : csrFn f = some fn) : f = fn.code := by
  cases fn
  all_goals
    revert f
    decide

structure IsCsr (w : BitVec 32) (fn : CsrFn) (dst src : BitVec 5) (imm : Bool) (idx : BitVec 12) :
    Prop where
  opcode : opcode w = 0b1110011#7
  funct3 : funct3 w = BitVec.ofBool imm ++ fn.code
  rd : rd w = dst
  rs1 : rs1 w = src
  funct12 : funct12 w = idx

theorem csr_fields (h : decode w = some (.csr fn dst src imm idx)) : IsCsr w fn dst src imm idx := by
  obtain ⟨hlo, h32⟩ := decode32_of_not_hasShort h rfl
  have ho := opcode_of_decode32 h32
  have hsys : decodeSystem w = some (.csr fn dst src imm idx) := by
    rw [decode32, ho] at h32
    exact h32
  rw [decodeSystem] at hsys
  split_ifs at hsys
  case neg =>
    obtain ⟨fn', hfn, he⟩ := Option.map_eq_some_iff.mp hsys
    cases he
    refine ⟨ho, ?_, rfl, rfl, rfl⟩
    rw [← csrFn_eq_some hfn]
    generalize funct3 w = f
    revert f
    decide
  all_goals cases Option.some.inj hsys

end
end E203.Isa

/-! ## What the decoder drives -/

namespace E203.Decode
set_option autoImplicit false

/-- What the decoder drives for a CSR instruction. -/
structure CsrWires (d : In) (fn : Isa.CsrFn) (dst src : BitVec 5) (imm : Bool) (idx : BitVec 12) :
    Prop where
  legal : decIlegl d = false
  grp : (decInfo d).grp = GRP_CSR
  csrrw : (decInfo d).getLsbD 4 = decide (fn = .rw)
  csrrs : (decInfo d).getLsbD 5 = decide (fn = .rs)
  csrrc : (decInfo d).getLsbD 6 = decide (fn = .rc)
  rs1imm : (decInfo d).getLsbD 7 = imm
  zimm : (decInfo d).extractLsb' 8 5 = src
  rs1is0 : (decInfo d).getLsbD 13 = (src == 0#5)
  csrIdx : (decInfo d).extractLsb' 14 12 = idx
  rdidx : decRdidx d.instr = dst
  rdwen : decRdwen d.instr = !(dst == 0#5)
  rs1idx : decRs1idx d.instr = src
  rs1en : imm = false → decRs1en d.instr = !(src == 0#5)

section
variable {d : In} {fn : Isa.CsrFn} {dst src : BitVec 5} {imm : Bool} {idx : BitVec 12}

attribute [local simp] decBjp decJal decJalr decBxx amoldstOp muldivOp aluOp ecallEbreak rv32Load
  rv32Store rv32Branch rv32Jalr rv32Miscmem rv32Amo rv32Jal rv32OpImm rv32Op rv32System rv32Auipc
  rv32Lui rv16Addi4spn rv16Lw rv16Sw rv16Addi rv16Jal rv16Li rv16LuiAddi16sp rv16Miscalu rv16J
  rv16Beqz rv16Bnez rv16Slli rv16Lwsp rv16JalrMvAdd rv16Swsp rv16Jr rv16Jalr rv32Mret rv32Dret
  rv32Csr rv32FenceFencei rv32Ecall rv32Ebreak rv32Wfi rv16Mv rv16Add rv16Ebreak rv16Lui
  rv32EcallEbreakRetWfi rv16Addi16sp rv16Nop rv32Nop rv32Addi opcode10_00 opcode10_01 opcode10_10
  opcode10_11 opcode42_000 opcode42_001 opcode42_011 opcode42_100 opcode42_101 opcode42_111 opcode65_00 opcode65_01 opcode65_11 rv32

theorem csrOp_disjoint (h : Isa.opcode d.instr = 0b1110011#7)
    (hf : rv32Func3_000 d.instr = false) :
    csrOp d.instr = true ∧ aluOp d.instr = false ∧ amoldstOp d.instr = false ∧
      muldivOp d.instr = false ∧ bjpOp d = false := by
  obtain ⟨h10, h42, h65, -⟩ := fields_of_opcode h
  simp [csrOp, bjpOp, rv32DretIlgl, h10, h42, h65, hf]

theorem csr_regs (h : Isa.opcode d.instr = 0b1110011#7) (hf : rv32Func3_000 d.instr = false) :
    decRdidx d.instr = Isa.rd d.instr ∧ decRdwen d.instr = !(Isa.rd d.instr == 0#5) ∧
      decRs1idx d.instr = Isa.rs1 d.instr ∧
      (rv32Csrrwi d.instr = false → rv32Csrrsi d.instr = false → rv32Csrrci d.instr = false →
        decRs1en d.instr = !(Isa.rs1 d.instr == 0#5)) := by
  obtain ⟨h10, h42, h65, h24, -⟩ := fields_of_opcode h
  have hlen : rv32 d.instr = true := by simp [h10, h24]
  refine ⟨?_, ?_, ?_, fun h1 h2 h3 => ?_⟩
  · rw [decRdidx, if_pos hlen, rv32Rd, Isa.rd]
  · rw [decRdwen, if_pos hlen]
    simp [rv32NeedRd, rv32RdX0, rv32Rd, Isa.rd, h10, h42, h65, hf]
  · rw [decRs1idx, if_pos hlen, rv32Rs1, Isa.rs1]
  · rw [decRs1en, if_pos hlen]
    simp [rv32NeedRs1, rv32Rs1X0, rv32Rs1, Isa.rs1, h10, h42, h65, hf, h1, h2, h3]

/-- A field that is spread over the bits of a bus. -/
theorem bus_field {n : ℕ} {grp : BitVec 3} {bits s post : List Bool} {x : BitVec n}
    (hbits : bits = s ++ (List.range n).map (fun k => x.getLsbD k) ++ post)
    (hlen : s.length + n ≤ 28) :
    (bus d grp bits).extractLsb' (s.length + 4) n = x := by
  apply BitVec.eq_of_getLsbD_eq
  intro k hk
  have hadd : s.length + 4 + k = s.length + k + 4 := by omega
  rw [BitVec.getLsbD_extractLsb', hadd, bus_getLsbD _ _ _ (by omega), hbits, List.append_assoc,
    List.getD_eq_getElem?_getD, List.getElem?_append_right (by omega), Nat.add_sub_cancel_left,
    List.getElem?_append_left (by simpa using hk)]
  simp [hk]

theorem csrWires (h : Isa.decode d.instr = some (.csr fn dst src imm idx)) :
    CsrWires d fn dst src imm idx := by
  obtain ⟨ho, h3, hrd, hrs1, h12⟩ := Isa.csr_fields h
  have hf3 : rv32Func3 d.instr = BitVec.ofBool imm ++ fn.code := h3
  obtain ⟨h10, h42, h65, h24, -⟩ := fields_of_opcode ho
  have hf : rv32Func3_000 d.instr = false := by
    rw [rv32Func3_000, hf3]
    cases fn <;> cases imm <;> rfl
  have hsys : rv32System d.instr = true := by simp [h10, h42, h65]
  obtain ⟨hcsr, halu, hagu, hmdv, hbjp⟩ := csrOp_disjoint ho hf
  have hinfo : decInfo d = csrInfoBus d := by
    simp only [decInfo, hcsr, halu, hagu, hmdv, hbjp, gate_true, gate_false, BitVec.zero_or,
      BitVec.or_zero]
  obtain ⟨hidx, hwen, hs1, hen⟩ := csr_regs ho hf
  have hfn : (rv32Csrrw d.instr || rv32Csrrwi d.instr) = decide (fn = .rw) ∧
      (rv32Csrrs d.instr || rv32Csrrsi d.instr) = decide (fn = .rs) ∧
      (rv32Csrrc d.instr || rv32Csrrci d.instr) = decide (fn = .rc) ∧
      (rv32Csrrwi d.instr || rv32Csrrsi d.instr || rv32Csrrci d.instr) = imm := by
    simp only [rv32Csrrw, rv32Csrrs, rv32Csrrc, rv32Csrrwi, rv32Csrrsi, rv32Csrrci, hsys,
      rv32Func3_001, rv32Func3_010, rv32Func3_011, rv32Func3_101, rv32Func3_110, rv32Func3_111, hf3]
    cases fn <;> cases imm <;> decide
  obtain ⟨hrw, hrs, hrc, himm⟩ := hfn
  refine ⟨?_, ?_, ?_, ?_, ?_, ?_, ?_, ?_, ?_, ?_, ?_, ?_, ?_⟩
  · rw [decIlegl_system ho, hf, Bool.false_and]
  · rw [hinfo, csrInfoBus, bus_grp]
  · rw [hinfo, ← hrw]
    exact bus_getLsbD d _ _ (k := 0) (by omega)
  · rw [hinfo, ← hrs]
    exact bus_getLsbD d _ _ (k := 1) (by omega)
  · rw [hinfo, ← hrc]
    exact bus_getLsbD d _ _ (k := 2) (by omega)
  · rw [hinfo, ← himm]
    exact bus_getLsbD d _ _ (k := 3) (by omega)
  · rw [hinfo, ← hrs1, csrInfoBus, List.append_assoc]
    exact bus_field (s := [_, _, _, _]) rfl (by simp)
  · rw [hinfo, ← hrs1]
    exact bus_getLsbD d _ _ (k := 9) (by omega)
  · rw [hinfo, ← h12, csrInfoBus, ← List.append_nil (_ ++ _)]
    exact bus_field (s := _ ++ _ ++ _) rfl (by simp)
  · rw [hidx, hrd]
  · rw [hwen, hrd]
  · rw [hs1, hrs1]
  · rintro rfl
    rw [Bool.or_eq_false_iff, Bool.or_eq_false_iff] at himm
    rw [hen himm.1.1 himm.1.2 himm.2, hrs1]

end
end E203.Decode
