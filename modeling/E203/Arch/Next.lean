import E203.Decode.Integer
import E203.Isa.Hart

/-! # Which words redirect the fetch

* `Isa.transfer_of_decode`: the two readings of a control transfer agree.
* `Decode.transfers`: the wires on which the fetch stage and the branch resolution act.  On a word that
  is an instruction they are set for the control transfers and for nothing else.
-/

namespace E203
set_option autoImplicit false

namespace Isa
section
variable {w : BitVec 32} {ins : Instr} {op : CtrlOp}

/-- A word is made of its fields. -/
theorem eq_of_fields {f12 : BitVec 12} {r : BitVec 5} {f3 : BitVec 3} {d : BitVec 5} {o : BitVec 7}
    (hi : funct12 w = f12) (hr : rs1 w = r) (hf : funct3 w = f3) (hd : rd w = d)
    (ho : opcode w = o) : w = f12 ++ (r ++ (f3 ++ (d ++ o))) := by
  rw [← hi, ← hr, ← hf, ← hd, ← ho, funct12, rs1, funct3, rd, opcode]
  rw [BitVec.extractLsb'_append_extractLsb'_eq_extractLsb' (by omega),
    BitVec.extractLsb'_append_extractLsb'_eq_extractLsb' (by omega),
    BitVec.extractLsb'_append_extractLsb'_eq_extractLsb' (by omega),
    BitVec.extractLsb'_append_extractLsb'_eq_extractLsb' (by omega)]
  simp

/-- The returns are single words. -/
theorem eq_of_ret (h : decodeSystem w = some ins) (ho : opcode w = 0b1110011#7) :
    (ins = .mret → w = 0x30200073#32) ∧ (ins = .dret → w = 0x7b200073#32) := by
  rw [decodeSystem] at h
  obtain ⟨hf, h⟩ | ⟨-, h⟩ := ite_eq_iff.mp h
  · obtain ⟨-, h⟩ | ⟨hregs, h⟩ := ite_eq_iff.mp h
    · cases h
    rw [not_or, not_not, not_not] at hregs
    constructor
    · rintro rfl
      have hi : funct12 w = 0b001100000010#12 := by
        split_ifs at h
        all_goals first | assumption | cases Option.some.inj h
      exact eq_of_fields hi hregs.2 hf hregs.1 ho
    · rintro rfl
      have hi : funct12 w = 0b011110110010#12 := by
        split_ifs at h
        all_goals first | assumption | cases Option.some.inj h
      exact eq_of_fields hi hregs.2 hf hregs.1 ho
  · obtain ⟨fn, -, rfl⟩ := Option.map_eq_some_iff.mp h
    constructor
    · intro hne
      cases hne
    · intro hne
      cases hne

/-- A control transfer is read as what it is. -/
theorem transfer_of_decode (h : decode w = some ins) (hc : ins.transfer = some op) :
    Ctrl.decode w = some ⟨decide (w.extractLsb' 0 2 = 0b11#2), op⟩ := by
  cases ins
  case branch | jal | jalr => exact ctrl_of_decode h hc
  case fencei =>
    obtain ⟨hlo, h32⟩ := decode32_of_not_hasShort h rfl
    have ho : w.extractLsb' 0 7 = 0b0001111#7 := opcode_of_decode32 h32
    have hmisc : decodeMiscMem w = some .fencei := by
      have ho' : opcode w = 0b0001111#7 := ho
      rw [decode32, ho'] at h32
      exact h32
    have hf : w.extractLsb' 12 3 = 0b001#3 := by
      rw [decodeMiscMem] at hmisc
      split_ifs at hmisc with _ hf
      · cases Option.some.inj hmisc
      · exact hf
    cases hc
    rw [Ctrl.decode, if_pos hlo, hlo, CtrlOp.decode32, ho, hf]
    rfl
  case mret | dret =>
    obtain ⟨-, h32⟩ := decode32_of_not_hasShort h rfl
    have ho := opcode_of_decode32 h32
    rw [decode32, ho] at h32
    obtain ⟨hmret, hdret⟩ := eq_of_ret (h32 : decodeSystem w = some _) ho
    cases hc
    first
      | obtain rfl := hmret rfl
        decide
      | obtain rfl := hdret rfl
        decide
  all_goals cases hc

end
end Isa

namespace Decode

/-- What the fetch stage may predict and the branch resolution may flush for. -/
def transfers (w : BitVec 32) : Bool := decBjp w || rv32FenceI w || rv32Mret w || rv32Dret w

section
variable {w : BitVec 32} {ins : Isa.Instr}

attribute [local simp] transfers decBjp decJal decJalr decBxx rv32Jal rv32Jalr rv32Branch rv16Jal rv16J
  rv16Jalr rv16Jr rv16JalrMvAdd rv16Beqz rv16Bnez rv32FenceI rv32Miscmem rv32Mret rv32Dret rv32System
  opcode65_11 opcode65_00 opcode42_000 opcode42_001 opcode42_011 opcode42_100 opcode10_11 opcode10_01
  opcode10_10 rv32Func3_000 rv32Func3_001 rv32Func3 rv16Func3_001 rv16Func3_100 rv16Func3_101
  rv16Func3_110 rv16Func3_111 rv16Func3 rv16Rs1X0 rv16Rs2X0 rv16Rs1 rv16Rs2 rv16Rd rv32Rd

/-- The system instructions other than the returns. -/
theorem transfers_system (ho : Isa.opcode w = 0b1110011#7) (h : Isa.decodeSystem w = some ins)
    (ht : ins.transfer = none) : transfers w = false := by
  have hop : opcode w = 0b1110011#7 := ho
  have hne : Isa.funct3 w = 0#3 → Isa.funct12 w ≠ 0b001100000010#12 ∧
      Isa.funct12 w ≠ 0b011110110010#12 := by
    intro hf
    rw [Isa.decodeSystem, if_pos hf] at h
    constructor
    · intro hi
      rw [hi] at h
      obtain ⟨-, h⟩ | ⟨-, h⟩ := ite_eq_iff.mp h
      · cases h
      · cases Option.some.inj (h : some Isa.Instr.mret = some ins)
        cases ht
    · intro hi
      rw [hi] at h
      obtain ⟨-, h⟩ | ⟨-, h⟩ := ite_eq_iff.mp h
      · cases h
      · cases Option.some.inj (h : some Isa.Instr.dret = some ins)
        cases ht
  simp only [Isa.funct3, Isa.funct12] at hne
  by_cases hf : w.extractLsb' 12 3 = 0#3
  · simp [hop, hf, hne hf]
  · simp [hop, hf]

theorem transfers_decode32 (h : Isa.decode32 w = some ins) (ht : ins.transfer = none) :
    transfers w = false := by
  have ho := Isa.opcode_of_decode32 h
  have hop : opcode w = ins.opcode := ho
  rw [Isa.decode32, ho] at h
  cases ins
  case branch | jal | jalr | fencei | mret | dret => cases ht
  case csr | ecall | ebreak | wfi => exact transfers_system ho h ht
  case fence =>
    have hf : w.extractLsb' 12 3 = 0b000#3 := by
      have hmisc : Isa.decodeMiscMem w = some .fence := h
      rw [Isa.decodeMiscMem] at hmisc
      split_ifs at hmisc with hf
      · exact hf
      · cases Option.some.inj hmisc
    simp [hop, hf, Isa.Instr.opcode]
  all_goals simp [hop, Isa.Instr.opcode]

theorem transfers_decodeC1 (hlo : w.extractLsb' 0 2 = 0b01#2) (h : Isa.decodeC1 w = some ins)
    (ht : ins.transfer = none) : transfers w = false := by
  obtain ⟨h10, -⟩ := lo_fields hlo (by decide)
  rw [Isa.decodeC1] at h
  obtain hf | hf | hf | hf | hf | hf | hf | hf := funct3_cases (w.extractLsb' 13 3)
  case inr.inl | inr.inr.inr.inr.inr.inl | inr.inr.inr.inr.inr.inr.inl |
      inr.inr.inr.inr.inr.inr.inr =>
    have hf' : Isa.funct3C w = _ := hf
    rw [hf'] at h
    cases Option.some.inj h
    cases ht
  all_goals simp [h10, hf]

theorem transfers_decodeC2 (hlo : w.extractLsb' 0 2 = 0b10#2) (h : Isa.decodeC2 w = some ins)
    (ht : ins.transfer = none) : transfers w = false := by
  obtain ⟨h10, -⟩ := lo_fields hlo (by decide)
  by_cases hf : w.extractLsb' 13 3 = 0b100#3
  · have hcr : Isa.decodeCr w = some ins := by
      have hf' : Isa.funct3C w = _ := hf
      rw [Isa.decodeC2, hf'] at h
      exact h
    have hregs : w.extractLsb' 7 5 = 0#5 ∨ w.extractLsb' 2 5 ≠ 0#5 := by
      rw [Isa.decodeCr] at hcr
      obtain ⟨-, hcr⟩ | ⟨hrs2, -⟩ := ite_eq_iff.mp hcr
      · obtain ⟨hrd, -⟩ | ⟨-, hcr⟩ := ite_eq_iff.mp hcr
        · exact .inl hrd
        · cases Option.some.inj hcr
          cases ht
      · exact .inr hrs2
    obtain hrd | hrs2 := hregs
    · simp [h10, hf, hrd]
    · simp [h10, hf, hrs2]
  · simp [h10, hf]

/-- On an instruction the wires are set for the control transfers only. -/
theorem transfers_of_decode (h : Isa.decode w = some ins) (ht : ins.transfer = none) :
    transfers w = false := by
  have hx : ∀ x : BitVec 2, x = 0b00#2 ∨ x = 0b01#2 ∨ x = 0b10#2 ∨ x = 0b11#2 := by decide
  rw [Isa.decode] at h
  obtain hlo | hlo | hlo | hlo := hx (w.extractLsb' 0 2)
  all_goals rw [hlo] at h
  · obtain ⟨h10, -⟩ := lo_fields hlo (by decide)
    simp [h10]
  · exact transfers_decodeC1 hlo h ht
  · exact transfers_decodeC2 hlo h ht
  · exact transfers_decode32 h ht

/-- The length of an instruction. -/
theorem decRv32_of_decode (h : Isa.decode w = some ins) :
    decRv32 w = decide (w.extractLsb' 0 2 = 0b11#2) := by
  have hlow : opcode10_11 w = decide (w.extractLsb' 0 2 = 0b11#2) := by
    rw [opcode10_11, opcode_lo, Bool.eq_iff_iff, beq_iff_eq, decide_eq_true_iff]
  by_cases hlo : w.extractLsb' 0 2 = 0b11#2
  · rw [Isa.decode, hlo] at h
    have ho : w.extractLsb' 0 7 = ins.opcode := Isa.opcode_of_decode32 h
    have h42 : w.extractLsb' 2 3 = ins.opcode.extractLsb' 2 3 := by
      rw [← ho, BitVec.extractLsb'_extractLsb'_of_le (by omega)]
    rw [decRv32, rv32, hlow, h42]
    cases ins <;> simp [hlo, Isa.Instr.opcode]
  · rw [decRv32, rv32, hlow]
    simp [hlo]

/-- Branches and jumps are read from the low half of the word. -/
theorem decBjp_congr {w' : BitVec 32} (hlo : w.extractLsb' 0 16 = w'.extractLsb' 0 16) :
    decBjp w = decBjp w' := by
  have hfield : ∀ a k, a + k ≤ 16 → w.extractLsb' a k = w'.extractLsb' a k :=
    fun _ _ => Lib.extractLsb'_eq_of_low hlo
  have hop : opcode w = opcode w' := hfield 0 7 (by omega)
  have hbit : w[12] = w'[12] := by
    have hmsb := congrArg BitVec.msb (hfield 12 1 (by omega))
    simpa [Lib.extractLsb'_one] using hmsb
  simp (disch := omega) [hfield, hop, hbit]

end
end Decode
end E203
