import E203.Decode.Control
import E203.Isa.Encoding

/-! # What the decoder accepts

* `Supported`: the instructions of the core.  The decoder ignores the register fields of the system
  instructions, takes `DRET` in debug mode only, and takes the compressed hints without a destination
  or without a shift for illegal.
* `Unused`: function fields that select no instruction of a major opcode and that no wire looks at.
* `legal`: `dec_ilegl` is zero for the supported and the unused words and no others.
-/

namespace E203.Decode
set_option autoImplicit false

section
variable (w : BitVec 32)

/-- `ECALL`, `EBREAK`, `MRET`, `DRET` and `WFI`, with any register fields. -/
def SystemFn : Prop :=
  Isa.opcode w = 0b1110011#7 ∧ Isa.funct3 w = 0b000#3 ∧
    Isa.funct12 w ∈ [0x000#12, 0x001#12, 0x302#12, 0x7b2#12, 0x105#12]

def IsDret : Prop :=
  Isa.opcode w = 0b1110011#7 ∧ Isa.funct3 w = 0b000#3 ∧ Isa.funct12 w = 0x7b2#12

/-- `C.LI`, `C.MV` and `C.ADD` to `x0`, and shifts by zero. -/
def RejectedHint : Prop :=
  w.extractLsb' 0 2 = 0b01#2 ∧
      (Isa.funct3C w = 0b010#3 ∧ Isa.rdC w = 0#5 ∨
        Isa.funct3C w = 0b100#3 ∧ w.getLsbD 11 = false ∧ Isa.rs2C w = 0#5) ∨
    w.extractLsb' 0 2 = 0b10#2 ∧
      (Isa.funct3C w = 0b000#3 ∧ Isa.rs2C w = 0#5 ∨
        Isa.funct3C w = 0b100#3 ∧ Isa.rs2C w ≠ 0#5 ∧ Isa.rdC w = 0#5)

def Supported (dbgMode : Bool) : Prop :=
  ((Isa.decode w).isSome = true ∧ ¬RejectedHint w ∨ SystemFn w) ∧ (IsDret w → dbgMode = true)

/-- Loads, stores, branches, `JALR`, fences, atomics and register operations. -/
def uncheckedOpcodes : List (BitVec 7) :=
  [0b0000011#7, 0b0100011#7, 0b1100011#7, 0b1100111#7, 0b0001111#7, 0b0101111#7, 0b0110011#7]

/-- `JAL`, `LUI` and `AUIPC`. -/
def plainOpcodes : List (BitVec 7) := [0b1101111#7, 0b0110111#7, 0b0010111#7]

/-- Function fields other than those of the instructions with an unchecked opcode; other shifts by an
immediate; the CSR function 4; and two compressed forms. -/
def Unused : Prop :=
  Isa.opcode w ∈ uncheckedOpcodes ∧ Isa.decode w = none ∨
    Isa.opcode w = 0b0010011#7 ∧ (Isa.funct3 w = 0b001#3 ∨ Isa.funct3 w = 0b101#3) ∧
      w.extractLsb' 26 6 ≠ 0b000000#6 ∧
      (Isa.funct3 w = 0b101#3 → w.extractLsb' 26 6 ≠ 0b010000#6) ∨
    Isa.opcode w = 0b1110011#7 ∧ Isa.funct3 w = 0b100#3 ∨
    w.extractLsb' 0 2 = 0b01#2 ∧
      (Isa.funct3C w = 0b100#3 ∧ w.extractLsb' 10 3 = 0b111#3 ∨
        Isa.funct3C w = 0b011#3 ∧ Isa.rdC w = 0#5 ∧ w.getLsbD 12 = false ∧ Isa.rs2C w = 0#5)

end

section
variable {i : In}

attribute [local simp] decIlegl leglOps rvIndexIlgl aluOp amoldstOp bjpOp csrOp muldivOp decBjp
  decJal decJalr decBxx rv32DretIlgl ecallEbreak rvAll0s1sIlgl rv32All0sIlgl rv32All1sIlgl
  rv16All0sIlgl rv16All1sIlgl rv32SxxiShamtIlgl rv32SxxiShamtLegl rv16SxxiShamtIlgl
  rv16SxxiShamtLegl rv16LiLuiIlgl rv16LiIlgl rv16LuiIlgl rv16Addi4spnIlgl rv16Addi16spIlgl
  rv16LwspIlgl rv32Load rv32Store rv32Branch rv32Jalr rv32Miscmem rv32Amo rv32Jal rv32OpImm rv32Op
  rv32System rv32Auipc rv32Lui rv32Slli rv32Srli rv32Srai rv32Ecall rv32Ebreak rv32Mret rv32Dret
  rv32Wfi rv32Csr rv32FenceFencei rv32Addi rv32Nop rv16Addi4spn rv16Lw rv16Sw rv16Addi rv16Jal
  rv16Li rv16LuiAddi16sp rv16Miscalu rv16J rv16Beqz rv16Bnez rv16Slli rv16Lwsp rv16JalrMvAdd
  rv16Swsp rv16Nop rv16Jr rv16Mv rv16Ebreak rv16Jalr rv16Add rv16Srli rv16Srai rv16Addi16sp rv16Lui
  rv16Instr12Is0 rv16Instr62Is0s rv16RdX0 rv16Rs1X0 rv16Rs2X0 rv16Rs1 rv16Rd rv16Rs2 rv32Rd rv32RdX0
  rv32RdX2 rv16RdX2 rv32 opcode10_00 opcode10_01 opcode10_10 opcode10_11 opcode42_000 opcode42_001
  opcode42_011 opcode42_100 opcode42_101 opcode42_111 opcode65_00 opcode65_01 opcode65_11

/-! ## The 32-bit forms -/

theorem fields_of_opcode {w : BitVec 32} {o : BitVec 7} (h : Isa.opcode w = o) :
    (opcode w).extractLsb' 0 2 = o.extractLsb' 0 2 ∧
      (opcode w).extractLsb' 2 3 = o.extractLsb' 2 3 ∧
      (opcode w).extractLsb' 5 2 = o.extractLsb' 5 2 ∧
      w.extractLsb' 2 3 = o.extractLsb' 2 3 ∧ w.extractLsb' 0 2 = o.extractLsb' 0 2 := by
  have ho : opcode w = o := h
  refine ⟨by rw [ho], by rw [ho], by rw [ho], (opcode_fields h).2, ?_⟩
  rw [← opcode_lo, ho]

/-- In these major opcodes the decoder looks at no function field. -/
theorem decIlegl_of_opcode (h : Isa.opcode i.instr ∈ uncheckedOpcodes ++ plainOpcodes) :
    decIlegl i = false := by
  simp only [uncheckedOpcodes, plainOpcodes, List.mem_append, List.mem_cons, List.not_mem_nil,
    or_false] at h
  obtain (h | h | h | h | h | h | h) | h | h | h := h
  case inl.inr.inr.inr.inr.inr.inr =>
    obtain ⟨h10, h42, h65, h24, -⟩ := fields_of_opcode h
    cases hm : rv32Func7_0000001 i.instr <;> simp [h10, h42, h65, h24, hm]
  all_goals
    obtain ⟨h10, h42, h65, h24, -⟩ := fields_of_opcode h
    simp [h10, h42, h65, h24]

theorem decIlegl_opImm (h : Isa.opcode i.instr = 0b0010011#7) :
    decIlegl i = rv32SxxiShamtIlgl i.instr := by
  obtain ⟨h10, h42, h65, h24, -⟩ := fields_of_opcode h
  simp [h10, h42, h65, h24]

theorem decIlegl_system (h : Isa.opcode i.instr = 0b1110011#7) :
    decIlegl i = (rv32Func3_000 i.instr &&
      !(Isa.funct12 i.instr == 0x000#12 || Isa.funct12 i.instr == 0x001#12 ||
        Isa.funct12 i.instr == 0x302#12 || Isa.funct12 i.instr == 0x105#12 ||
        (Isa.funct12 i.instr == 0x7b2#12 && i.dbgMode))) := by
  obtain ⟨h10, h42, h65, h24, -⟩ := fields_of_opcode h
  simp only [Isa.funct12]
  by_cases hdret : i.instr.extractLsb' 20 12 = 0x7b2#12
  · cases hf : rv32Func3_000 i.instr <;> simp [h10, h42, h65, h24, hdret, hf]
  · have hne : (i.instr.extractLsb' 20 12 == 0x7b2#12) = false := beq_false_of_ne hdret
    cases hf : rv32Func3_000 i.instr
    · simp [h10, h42, h65, h24, hf]
    · simp [h10, h42, h65, h24, hne, hf]
      ac_rfl

/-- The wires of the major opcodes of the core. -/
theorem majors_eq_false {w : BitVec 32}
    (h : Isa.opcode w ∉ 0b0010011#7 :: 0b1110011#7 :: (uncheckedOpcodes ++ plainOpcodes)) :
    rv32Load w = false ∧ rv32Store w = false ∧ rv32Branch w = false ∧ rv32Jalr w = false ∧
      rv32Miscmem w = false ∧ rv32Amo w = false ∧ rv32Op w = false ∧ rv32Jal w = false ∧
      rv32Lui w = false ∧ rv32Auipc w = false ∧ rv32OpImm w = false ∧ rv32System w = false := by
  have ho : opcode w ∉ _ := h
  simp only [rv32Load, rv32Store, rv32Branch, rv32Jalr, rv32Miscmem, rv32Amo, rv32Op, rv32Jal,
    rv32Lui, rv32Auipc, rv32OpImm, rv32System, opcode10_11, opcode42_000, opcode42_001,
    opcode42_011, opcode42_100, opcode42_101, opcode65_00, opcode65_01, opcode65_11]
  clear h
  generalize opcode w = o at *
  revert o
  decide +kernel

theorem decIlegl_of_other (hlo : i.instr.extractLsb' 0 2 = 0b11#2)
    (h : Isa.opcode i.instr ∉ 0b0010011#7 :: 0b1110011#7 :: (uncheckedOpcodes ++ plainOpcodes)) :
    decIlegl i = true := by
  have h10 : (opcode i.instr).extractLsb' 0 2 = 0b11#2 := by rw [opcode_lo, hlo]
  obtain ⟨h1, h2, h3, h4, h5, h6, h7, h8, h9, h11, h12, h13⟩ := majors_eq_false h
  have hlegl : leglOps i = false := by
    simp [-rv32Load, -rv32Store, -rv32Branch, -rv32Jalr, -rv32Miscmem, -rv32Amo, -rv32Op, -rv32Jal,
      -rv32Lui, -rv32Auipc, -rv32OpImm, -rv32System, h10, h1, h2, h3, h4, h5, h6, h7, h8, h9, h11,
      h12, h13]
  simp only [decIlegl, hlegl, Bool.not_false, Bool.or_true]

/-! ## The 16-bit forms -/

theorem funct3_cases (f : BitVec 3) :
    f = 0b000#3 ∨ f = 0b001#3 ∨ f = 0b010#3 ∨ f = 0b011#3 ∨ f = 0b100#3 ∨ f = 0b101#3 ∨
      f = 0b110#3 ∨ f = 0b111#3 := by
  revert f
  decide

/-- The immediate of `C.ADDI4SPN` is zero. -/
theorem immCIW_eq_zero (w : BitVec 32) : (w.extractLsb' 5 8 == 0#8) =
    (!w.getLsbD 12 && w.extractLsb' 7 5 == 0#5 && (opcode w).extractLsb' 5 2 == 0b00#2) := by
  have h12 : w.getLsbD 12 = (w.extractLsb' 5 8).getLsbD 7 := by simp
  have hrd : w.extractLsb' 7 5 = (w.extractLsb' 5 8).extractLsb' 2 5 :=
    Lib.extractLsb'_of_extractLsb' (a := 5) (b := 2) rfl (by omega)
  have h65 : (opcode w).extractLsb' 5 2 = (w.extractLsb' 5 8).extractLsb' 0 2 :=
    (Lib.extractLsb'_of_extractLsb' (a := 0) (b := 5) rfl (by omega)).symm.trans
      (Lib.extractLsb'_of_extractLsb' (a := 5) (b := 0) rfl (by omega))
  rw [h12, hrd, h65]
  generalize w.extractLsb' 5 8 = x
  revert x
  decide

attribute [local simp] rv16Func3 rv16Func3_000 rv16Func3_001 rv16Func3_010 rv16Func3_011
  rv16Func3_100 rv16Func3_101 rv16Func3_110 rv16Func3_111 Isa.funct3C Isa.rdC Isa.rs2C

theorem decIlegl_c0 (hlo : i.instr.extractLsb' 0 2 = 0b00#2) :
    decIlegl i = !(Isa.funct3C i.instr == 0b000#3 && !(i.instr.extractLsb' 5 8 == 0#8) ||
      Isa.funct3C i.instr == 0b010#3 || Isa.funct3C i.instr == 0b110#3) := by
  have h10 : (opcode i.instr).extractLsb' 0 2 = 0b00#2 := by rw [opcode_lo, hlo]
  obtain hf | hf | hf | hf | hf | hf | hf | hf := funct3_cases (i.instr.extractLsb' 13 3)
  case inl =>
    have h12 : rv32Func3_000 i.instr = true → i.instr.getLsbD 12 = false := by
      intro h
      have hz : (i.instr.extractLsb' 12 3).getLsbD 0 = (0b000#3).getLsbD 0 :=
        congrArg (BitVec.getLsbD · 0) (beq_iff_eq.mp h)
      simpa using hz
    simp [h10, hf, immCIW_eq_zero]
    grind
  all_goals simp [h10, hf]

theorem decIlegl_c1 (hlo : i.instr.extractLsb' 0 2 = 0b01#2) :
    decIlegl i =
      (Isa.funct3C i.instr == 0b010#3 && Isa.rdC i.instr == 0#5 ||
        Isa.funct3C i.instr == 0b011#3 && !(Isa.rdC i.instr == 0#5) && !i.instr.getLsbD 12 &&
          Isa.rs2C i.instr == 0#5 ||
        Isa.funct3C i.instr == 0b100#3 && !i.instr.getLsbD 11 &&
          (i.instr.getLsbD 12 || Isa.rs2C i.instr == 0#5)) := by
  have h10 : (opcode i.instr).extractLsb' 0 2 = 0b01#2 := by rw [opcode_lo, hlo]
  obtain hf | hf | hf | hf | hf | hf | hf | hf := funct3_cases (i.instr.extractLsb' 13 3)
  case inr.inr.inr.inl =>
    simp [h10, hf]
    grind
  case inr.inr.inr.inr.inl =>
    have h11 : (i.instr.extractLsb' 10 2 == 0b00#2 || i.instr.extractLsb' 10 2 == 0b01#2) =
        !i.instr.getLsbD 11 := by
      have hbit : i.instr.getLsbD 11 = (i.instr.extractLsb' 10 2).getLsbD 1 := by simp
      rw [hbit]
      generalize i.instr.extractLsb' 10 2 = x
      revert x
      decide
    simp [h10, hf, h11]
  all_goals simp [h10, hf]

theorem decIlegl_c2 (hlo : i.instr.extractLsb' 0 2 = 0b10#2) :
    decIlegl i =
      !(Isa.funct3C i.instr == 0b000#3 && !i.instr.getLsbD 12 && !(Isa.rs2C i.instr == 0#5) ||
        Isa.funct3C i.instr == 0b010#3 && !(Isa.rdC i.instr == 0#5) ||
        Isa.funct3C i.instr == 0b100#3 &&
          (!(Isa.rdC i.instr == 0#5) || Isa.rs2C i.instr == 0#5 && i.instr.getLsbD 12) ||
        Isa.funct3C i.instr == 0b110#3) := by
  have h10 : (opcode i.instr).extractLsb' 0 2 = 0b10#2 := by rw [opcode_lo, hlo]
  obtain hf | hf | hf | hf | hf | hf | hf | hf := funct3_cases (i.instr.extractLsb' 13 3)
  case inr.inr.inr.inr.inl =>
    simp [h10, hf]
    cases i.instr[12] <;> cases i.instr.extractLsb' 7 5 == 0#5 <;>
      cases i.instr.extractLsb' 2 5 == 0#5 <;> rfl
  all_goals simp [h10, hf]

end

/-! ## What is accepted -/

section
variable {i : In}

theorem not_hint_of_32 {w : BitVec 32} (hlo : w.extractLsb' 0 2 = 0b11#2) : ¬RejectedHint w := by
  rintro (⟨h, -⟩ | ⟨h, -⟩)
  all_goals
    rw [hlo] at h
    revert h
    decide

theorem decode_of_32 {w : BitVec 32} (hlo : w.extractLsb' 0 2 = 0b11#2) :
    Isa.decode w = Isa.decode32 w := by
  rw [Isa.decode, if_pos hlo]

theorem lo_of_opcode {w : BitVec 32} {o : BitVec 7} (h : Isa.opcode w = o)
    (ho : o.extractLsb' 0 2 = 0b11#2) : w.extractLsb' 0 2 = 0b11#2 :=
  (fields_of_opcode h).2.2.2.2.trans ho

/-- What is proved of each word. -/
def Agrees (i : In) : Prop :=
  decIlegl i = false ↔ Supported i.instr i.dbgMode ∨ Unused i.instr

theorem opcode_ne_of_16 {w : BitVec 32} (hlo : w.extractLsb' 0 2 ≠ 0b11#2) {o : BitVec 7}
    (ho : o.extractLsb' 0 2 = 0b11#2) : Isa.opcode w ≠ o :=
  fun h => hlo (lo_of_opcode h ho)

/-- Of the 16-bit forms two are unused. -/
theorem unused_of_16 {w : BitVec 32} (hlo : w.extractLsb' 0 2 ≠ 0b11#2) :
    Unused w ↔ w.extractLsb' 0 2 = 0b01#2 ∧
      (Isa.funct3C w = 0b100#3 ∧ w.extractLsb' 10 3 = 0b111#3 ∨
        Isa.funct3C w = 0b011#3 ∧ Isa.rdC w = 0#5 ∧ w.getLsbD 12 = false ∧ Isa.rs2C w = 0#5) := by
  constructor
  · rintro (⟨h, -⟩ | ⟨h, -⟩ | ⟨h, -⟩ | h)
    · have hall : ∀ o ∈ uncheckedOpcodes, o.extractLsb' 0 2 = 0b11#2 := by decide
      exact absurd (lo_of_opcode rfl (hall _ h)) hlo
    · exact absurd h (opcode_ne_of_16 hlo rfl)
    · exact absurd h (opcode_ne_of_16 hlo rfl)
    · exact h
  · exact fun h => .inr (.inr (.inr h))

/-- A 32-bit form is none of the two. -/
theorem unused_of_32 {w : BitVec 32} (hlo : w.extractLsb' 0 2 = 0b11#2) :
    Unused w ↔ Isa.opcode w ∈ uncheckedOpcodes ∧ Isa.decode w = none ∨
      Isa.opcode w = 0b0010011#7 ∧ (Isa.funct3 w = 0b001#3 ∨ Isa.funct3 w = 0b101#3) ∧
        w.extractLsb' 26 6 ≠ 0b000000#6 ∧
        (Isa.funct3 w = 0b101#3 → w.extractLsb' 26 6 ≠ 0b010000#6) ∨
      Isa.opcode w = 0b1110011#7 ∧ Isa.funct3 w = 0b100#3 := by
  have hno : ¬w.extractLsb' 0 2 = 0b01#2 := by
    rw [hlo]
    decide
  constructor
  · rintro (h | h | h | ⟨h, -⟩)
    · exact .inl h
    · exact .inr (.inl h)
    · exact .inr (.inr h)
    · exact absurd h hno
  · rintro (h | h | h)
    · exact .inl h
    · exact .inr (.inl h)
    · exact .inr (.inr (.inl h))

theorem supported_of_ne_system (hno : Isa.opcode i.instr ≠ 0b1110011#7) :
    Supported i.instr i.dbgMode ↔ (Isa.decode i.instr).isSome = true ∧ ¬RejectedHint i.instr := by
  constructor
  · rintro ⟨h | h, -⟩
    · exact h
    · exact absurd h.1 hno
  · intro h
    exact ⟨.inl h, fun hdret => absurd hdret.1 hno⟩

theorem agrees_unchecked (h : Isa.opcode i.instr ∈ uncheckedOpcodes) : Agrees i := by
  have hil : decIlegl i = false := decIlegl_of_opcode (List.mem_append_left _ h)
  have hall : ∀ o ∈ uncheckedOpcodes, o.extractLsb' 0 2 = 0b11#2 ∧ o ≠ 0b1110011#7 := by decide
  obtain ⟨hlo, hne⟩ := hall _ h
  refine ⟨fun _ => ?_, fun _ => hil⟩
  cases hdec : Isa.decode i.instr with
  | none => exact .inr (.inl ⟨h, hdec⟩)
  | some ins =>
    refine .inl ((supported_of_ne_system hne).mpr ⟨?_, not_hint_of_32 (lo_of_opcode rfl hlo)⟩)
    rw [hdec]
    rfl

theorem agrees_plain (h : Isa.opcode i.instr ∈ plainOpcodes) : Agrees i := by
  have hil : decIlegl i = false := decIlegl_of_opcode (List.mem_append_right _ h)
  have hall : ∀ o ∈ plainOpcodes, o.extractLsb' 0 2 = 0b11#2 ∧ o ≠ 0b1110011#7 := by decide
  obtain ⟨hlo, hne⟩ := hall _ h
  have hlo' := lo_of_opcode (w := i.instr) rfl hlo
  refine ⟨fun _ => .inl ((supported_of_ne_system hne).mpr ⟨?_, not_hint_of_32 hlo'⟩), fun _ => hil⟩
  rw [decode_of_32 hlo', Isa.decode32]
  simp only [plainOpcodes, List.mem_cons, List.not_mem_nil, or_false] at h
  obtain h | h | h := h
  all_goals
    rw [h]
    rfl

theorem extractLsb'_26_eq (w : BitVec 32) :
    w.extractLsb' 26 6 = (Isa.funct7 w).extractLsb' 1 6 :=
  Lib.extractLsb'_of_extractLsb' (a := 25) (b := 1) rfl (by omega)

theorem isSome_decodeOpImm (w : BitVec 32) : (Isa.decodeOpImm w).isSome =
    if Isa.funct3 w = 0b001#3 then Isa.funct7 w == 0b0000000#7
    else if Isa.funct3 w = 0b101#3 then
      Isa.funct7 w == 0b0000000#7 || Isa.funct7 w == 0b0100000#7
    else true := by
  rw [Isa.decodeOpImm]
  split_ifs <;> simp_all

theorem rv32SxxiShamtIlgl_eq {w : BitVec 32} (h : Isa.opcode w = 0b0010011#7) :
    rv32SxxiShamtIlgl w =
      ((Isa.funct3 w == 0b001#3 && (Isa.funct7 w).extractLsb' 1 6 == 0b000000#6 ||
        Isa.funct3 w == 0b101#3 && (Isa.funct7 w).extractLsb' 1 6 == 0b000000#6 ||
        Isa.funct3 w == 0b101#3 && (Isa.funct7 w).extractLsb' 1 6 == 0b010000#6) &&
      (Isa.funct7 w).getLsbD 0) := by
  obtain ⟨h10, h42, h65, -⟩ := fields_of_opcode h
  have hb : (Isa.funct7 w).getLsbD 0 = w.getLsbD 25 := by simp [Isa.funct7]
  rw [hb, ← extractLsb'_26_eq]
  simp [rv32SxxiShamtIlgl, rv32SxxiShamtLegl, rv32Slli, rv32Srli, rv32Srai, rv32OpImm, opcode65_00,
    opcode42_100, opcode10_11, h10, h42, h65]
  rfl

theorem agrees_opImm (h : Isa.opcode i.instr = 0b0010011#7) : Agrees i := by
  have hil := decIlegl_opImm h
  have hlo : i.instr.extractLsb' 0 2 = 0b11#2 := lo_of_opcode h rfl
  have hne : Isa.opcode i.instr ≠ 0b1110011#7 := by rw [h]; decide
  have hdec : Isa.decode i.instr = Isa.decodeOpImm i.instr := by
    rw [decode_of_32 hlo, Isa.decode32, h]
    rfl
  have hiff : rv32SxxiShamtIlgl i.instr = false ↔ (Isa.decodeOpImm i.instr).isSome = true ∨
      (Isa.funct3 i.instr = 0b001#3 ∨ Isa.funct3 i.instr = 0b101#3) ∧
        i.instr.extractLsb' 26 6 ≠ 0b000000#6 ∧
        (Isa.funct3 i.instr = 0b101#3 → i.instr.extractLsb' 26 6 ≠ 0b010000#6) := by
    rw [isSome_decodeOpImm, rv32SxxiShamtIlgl_eq h, extractLsb'_26_eq]
    generalize Isa.funct3 i.instr = f, Isa.funct7 i.instr = g
    revert f g
    decide +kernel
  have hunused : Unused i.instr ↔ (Isa.funct3 i.instr = 0b001#3 ∨ Isa.funct3 i.instr = 0b101#3) ∧
      i.instr.extractLsb' 26 6 ≠ 0b000000#6 ∧
      (Isa.funct3 i.instr = 0b101#3 → i.instr.extractLsb' 26 6 ≠ 0b010000#6) := by
    have hno : 0b0010011#7 ∉ uncheckedOpcodes := by decide
    simp [unused_of_32 hlo, h, hno]
  rw [Agrees, supported_of_ne_system hne, and_iff_left (not_hint_of_32 hlo), hunused, hdec, hil, hiff]

theorem agrees_system (h : Isa.opcode i.instr = 0b1110011#7) : Agrees i := by
  have hlo : i.instr.extractLsb' 0 2 = 0b11#2 := lo_of_opcode h rfl
  have hdec : Isa.decode i.instr = Isa.decodeSystem i.instr := by
    rw [decode_of_32 hlo, Isa.decode32, h]
    rfl
  have hnoh := not_hint_of_32 hlo
  have hil := decIlegl_system h
  have hf : rv32Func3_000 i.instr = (Isa.funct3 i.instr == 0b000#3) := rfl
  rw [hf] at hil
  have hunused : Unused i.instr ↔ Isa.funct3 i.instr = 0b100#3 := by
    have hno : 0b1110011#7 ∉ uncheckedOpcodes := by decide
    simp [unused_of_32 hlo, h, hno]
  by_cases h0 : Isa.funct3 i.instr = 0b000#3
  · -- the decoder looks at the function alone
    have hsys : SystemFn i.instr ↔
        Isa.funct12 i.instr ∈ [0x000#12, 0x001#12, 0x302#12, 0x7b2#12, 0x105#12] :=
      ⟨fun hs => hs.2.2, fun hs => ⟨h, h0, hs⟩⟩
    have hdret : IsDret i.instr ↔ Isa.funct12 i.instr = 0x7b2#12 :=
      ⟨fun hs => hs.2.2, fun hs => ⟨h, h0, hs⟩⟩
    have hsome : (Isa.decode i.instr).isSome = true → SystemFn i.instr := by
      intro hs
      rw [hdec, Isa.decodeSystem, if_pos h0] at hs
      rw [hsys]
      by_contra hno
      simp only [List.mem_cons, List.not_mem_nil, or_false, not_or] at hno
      obtain ⟨h1, h2, h3, h4, h5⟩ := hno
      simp [h1, h2, h3, h4, h5] at hs
    have hsup : Supported i.instr i.dbgMode ↔ SystemFn i.instr ∧ (IsDret i.instr → i.dbgMode = true) := by
      rw [Supported]
      refine and_congr_left fun _ => ⟨?_, .inr⟩
      rintro (⟨hs, -⟩ | hs)
      · exact hsome hs
      · exact hs
    have hiff : decIlegl i = false ↔ SystemFn i.instr ∧ (IsDret i.instr → i.dbgMode = true) := by
      rw [hil, hsys, hdret, h0, beq_self_eq_true, Bool.true_and, Bool.not_eq_false']
      simp only [Bool.or_eq_true, Bool.and_eq_true, beq_iff_eq, List.mem_cons, List.not_mem_nil,
        or_false]
      grind
    have hused : ¬Unused i.instr := by
      rw [hunused, h0]
      decide
    rw [Agrees, hsup, hiff, or_iff_left hused]
  · have hsome : Isa.funct3 i.instr ≠ 0b100#3 → (Isa.decode i.instr).isSome = true := by
      intro h4
      rw [hdec, Isa.decodeSystem, if_neg h0, Option.isSome_map]
      revert h0 h4
      generalize Isa.funct3 i.instr = f
      revert f
      decide
    refine ⟨fun _ => ?_, fun _ => ?_⟩
    · rw [hunused]
      by_cases h4 : Isa.funct3 i.instr = 0b100#3
      · exact .inr h4
      · exact .inl ⟨.inl ⟨hsome h4, hnoh⟩, fun hd => absurd hd.2.1 h0⟩
    · rw [hil, beq_false_of_ne h0, Bool.false_and]

theorem agrees_other (hlo : i.instr.extractLsb' 0 2 = 0b11#2)
    (h : Isa.opcode i.instr ∉ 0b0010011#7 :: 0b1110011#7 :: (uncheckedOpcodes ++ plainOpcodes)) :
    Agrees i := by
  have hil := decIlegl_of_other hlo h
  have hne : Isa.opcode i.instr ≠ 0b1110011#7 := by
    intro heq
    rw [heq] at h
    exact h (by decide)
  have hdec : Isa.decode i.instr = none := by
    rw [decode_of_32 hlo, Isa.decode32]
    simp only [uncheckedOpcodes, plainOpcodes, List.mem_cons, List.cons_append, List.nil_append,
      List.not_mem_nil, or_false, not_or] at h
    simp [h]
  have hused : ¬Unused i.instr := by
    rw [unused_of_32 hlo]
    rintro (⟨hop, -⟩ | ⟨hop, -⟩ | ⟨hop, -⟩)
    · exact h (List.mem_cons_of_mem _ (List.mem_cons_of_mem _ (List.mem_append_left _ hop)))
    · exact h (hop ▸ List.mem_cons_self)
    · exact hne hop
  rw [Agrees, supported_of_ne_system hne, hdec, hil, or_iff_left hused]
  exact ⟨fun hs => absurd hs.symm Bool.false_ne_true, fun hs => absurd hs.1 Bool.false_ne_true⟩

theorem supported_of_16 (hlo : i.instr.extractLsb' 0 2 ≠ 0b11#2) :
    Supported i.instr i.dbgMode ↔ (Isa.decode i.instr).isSome = true ∧ ¬RejectedHint i.instr :=
  supported_of_ne_system (opcode_ne_of_16 hlo rfl)

theorem agrees_c0 (hlo : i.instr.extractLsb' 0 2 = 0b00#2) : Agrees i := by
  have hil := decIlegl_c0 hlo
  have hnoh : ¬RejectedHint i.instr := by
    rintro (⟨h, -⟩ | ⟨h, -⟩) <;> simp [hlo] at h
  have hdec : (Isa.decode i.instr).isSome = !decIlegl i := by
    rw [hil, Isa.decode, hlo, if_neg (by decide), if_pos rfl, Isa.decodeC0]
    by_cases h0 : Isa.funct3C i.instr = 0b000#3
    · by_cases hz : i.instr.extractLsb' 5 8 = 0#8 <;> simp [h0, hz]
    · by_cases h2 : Isa.funct3C i.instr = 0b010#3
      · simp [h2]
      · by_cases h6 : Isa.funct3C i.instr = 0b110#3 <;> simp [h0, h2, h6]
  have h16 : i.instr.extractLsb' 0 2 ≠ 0b11#2 := by
    rw [hlo]
    decide
  have hused : ¬Unused i.instr := by simp [unused_of_16 h16, hlo]
  rw [Agrees, supported_of_16 h16, or_iff_left hused, and_iff_left hnoh, hdec, Bool.not_eq_true']

theorem rejectedHint_c1 {w : BitVec 32} (hlo : w.extractLsb' 0 2 = 0b01#2) :
    RejectedHint w ↔ Isa.funct3C w = 0b010#3 ∧ Isa.rdC w = 0#5 ∨
      Isa.funct3C w = 0b100#3 ∧ (w.extractLsb' 10 2).getLsbD 1 = false ∧ Isa.rs2C w = 0#5 := by
  simp [RejectedHint, hlo]

/-- The function of `C.MISC-ALU` in two fields. -/
theorem misc_alu_eq (w : BitVec 32) :
    w.extractLsb' 10 3 = 0b111#3 ↔ w.getLsbD 12 = true ∧ w.extractLsb' 10 2 = 0b11#2 := by
  have hb : w.getLsbD 12 = (w.extractLsb' 10 3).getLsbD 2 := by simp
  have hx : w.extractLsb' 10 2 = (w.extractLsb' 10 3).extractLsb' 0 2 :=
    Lib.extractLsb'_of_extractLsb' (a := 10) (b := 0) rfl (by omega)
  rw [hb, hx]
  generalize w.extractLsb' 10 3 = x
  revert x
  decide

theorem isSome_decodeC1 (w : BitVec 32) : (Isa.decodeC1 w).isSome =
    if Isa.funct3C w = 0b011#3 then w.getLsbD 12 || !(Isa.rs2C w == 0#5)
    else if Isa.funct3C w = 0b100#3 then w.extractLsb' 10 2 == 0b10#2 || !w.getLsbD 12
    else true := by
  have hx : ∀ x : BitVec 2, x = 0b00#2 ∨ x = 0b01#2 ∨ x = 0b10#2 ∨ x = 0b11#2 := by decide
  have hcalu : (Isa.decodeCAlu w).isSome = (w.extractLsb' 10 2 == 0b10#2 || !w.getLsbD 12) := by
    rw [Isa.decodeCAlu]
    obtain h | h | h | h := hx (w.extractLsb' 10 2) <;> cases w.getLsbD 12 <;> simp [h]
    split_ifs <;> rfl
  rw [Isa.decodeC1]
  obtain hf | hf | hf | hf | hf | hf | hf | hf := funct3_cases (Isa.funct3C w)
  case inr.inr.inr.inl =>
    cases w.getLsbD 12 <;> by_cases hz : Isa.rs2C w = 0#5 <;> simp [hf, hz]
    all_goals split_ifs <;> simp [hz]
  all_goals simp [hf, hcalu]

theorem agrees_c1 (hlo : i.instr.extractLsb' 0 2 = 0b01#2) : Agrees i := by
  have hil := decIlegl_c1 hlo
  have hdec : Isa.decode i.instr = Isa.decodeC1 i.instr := by
    rw [Isa.decode, hlo, if_neg (by decide), if_neg (by decide), if_pos rfl]
  have h11 : i.instr.getLsbD 11 = (i.instr.extractLsb' 10 2).getLsbD 1 := by simp
  have h16 : i.instr.extractLsb' 0 2 ≠ 0b11#2 := by
    rw [hlo]
    decide
  rw [h11] at hil
  rw [Agrees, supported_of_16 h16, unused_of_16 h16, misc_alu_eq, hil, hdec, isSome_decodeC1,
    rejectedHint_c1 hlo, eq_true hlo, true_and]
  simp only [← beq_iff_eq (a := Isa.rdC i.instr), ← beq_iff_eq (a := Isa.rs2C i.instr)]
  generalize Isa.funct3C i.instr = f, i.instr.getLsbD 12 = b, i.instr.extractLsb' 10 2 = x,
    (Isa.rdC i.instr == 0#5) = r, (Isa.rs2C i.instr == 0#5) = z
  obtain rfl | rfl | rfl | rfl | rfl | rfl | rfl | rfl := funct3_cases f
  all_goals
    revert b x r z
    decide

theorem agrees_c2 (hlo : i.instr.extractLsb' 0 2 = 0b10#2) : Agrees i := by
  have hil := decIlegl_c2 hlo
  have hdec : Isa.decode i.instr = Isa.decodeC2 i.instr := by
    rw [Isa.decode, hlo, if_neg (by decide), if_neg (by decide), if_neg (by decide)]
  have hiff : decIlegl i = false ↔ (Isa.decode i.instr).isSome = true ∧ ¬RejectedHint i.instr := by
    have hhint : RejectedHint i.instr ↔ Isa.funct3C i.instr = 0b000#3 ∧ Isa.rs2C i.instr = 0#5 ∨
        Isa.funct3C i.instr = 0b100#3 ∧ Isa.rs2C i.instr ≠ 0#5 ∧ Isa.rdC i.instr = 0#5 := by
      simp [RejectedHint, hlo]
    rw [hil, hdec, hhint, Isa.decodeC2, Isa.decodeCr]
    obtain hf | hf | hf | hf | hf | hf | hf | hf := funct3_cases (Isa.funct3C i.instr)
    all_goals
      cases i.instr.getLsbD 12 <;> by_cases hr : Isa.rdC i.instr = 0#5 <;>
        by_cases hz : Isa.rs2C i.instr = 0#5 <;> simp [hf, hr, hz]
  have h16 : i.instr.extractLsb' 0 2 ≠ 0b11#2 := by
    rw [hlo]
    decide
  have hused : ¬Unused i.instr := by simp [unused_of_16 h16, hlo]
  rw [Agrees, supported_of_16 h16, or_iff_left hused, hiff]

/-- The words that are accepted: the supported ones, and those whose function fields select nothing. -/
theorem legal (i : In) : decIlegl i = false ↔ Supported i.instr i.dbgMode ∨ Unused i.instr := by
  have hlo : ∀ x : BitVec 2, x = 0b00#2 ∨ x = 0b01#2 ∨ x = 0b10#2 ∨ x = 0b11#2 := by decide
  obtain h | h | h | h := hlo (i.instr.extractLsb' 0 2)
  · exact agrees_c0 h
  · exact agrees_c1 h
  · exact agrees_c2 h
  · by_cases hop : Isa.opcode i.instr ∈ 0b0010011#7 :: 0b1110011#7 :: (uncheckedOpcodes ++ plainOpcodes)
    · obtain hop | hop | hop := by simpa only [List.mem_cons, List.mem_append] using hop
      · exact agrees_opImm hop
      · exact agrees_system hop
      · obtain hop | hop := hop
        · exact agrees_unchecked hop
        · exact agrees_plain hop
    · exact agrees_other h hop

/-- Words that are accepted and are no instructions: `ECALL`, `EBREAK`, `MRET` and `WFI` with a
destination; a `LOAD`, `STORE`, `BRANCH`, `JALR`, `MISC-MEM`, `AMO` and `OP` with an unused function; a
shift by an immediate with one; `SYSTEM` with function 4; `C.MISC-ALU` with function 7; `C.LUI` to `x0`
of zero. -/
def acceptedWords : List (BitVec 32) :=
  [0x000000f3#32, 0x001000f3#32, 0x302000f3#32, 0x105000f3#32, 0x00003003#32, 0x00003023#32,
    0x00002063#32, 0x00001067#32, 0x0000200f#32, 0x1010202f#32, 0x04000033#32, 0x04001013#32,
    0x00004073#32, 0x00009c61#32, 0x00006001#32]

/-- A word outside of debug mode. -/
def quietIn (w : BitVec 32) : In := ⟨w, 0#32, false, false, false, false, false⟩

/-- The hints `C.LI`, `C.MV` and `C.ADD` to `x0`, and `C.SLLI`, `C.SRLI` and `C.SRAI` by zero. -/
def rejectedHints : List (BitVec 32) :=
  [0x00004001#32, 0x00008006#32, 0x00009006#32, 0x00000082#32, 0x00008001#32, 0x00008401#32]

/-- The hints are instructions and not accepted, nor is `DRET` outside of debug mode. -/
theorem decIlegl_ne_decode :
    (∀ w ∈ acceptedWords, decIlegl (quietIn w) = false ∧ Isa.decode w = none) ∧
      (∀ w ∈ rejectedHints, decIlegl (quietIn w) = true ∧ (Isa.decode w).isSome = true) ∧
      (decIlegl (quietIn 0x7b200073#32) = true ∧ Isa.decode 0x7b200073#32 = some .dret) ∧
      ¬∀ i, decIlegl i = false ↔ (Isa.decode i.instr).isSome = true := by
  have hacc : ∀ w ∈ acceptedWords, decIlegl (quietIn w) = false ∧ Isa.decode w = none := by
    simp only [acceptedWords, List.forall_mem_cons]
    refine ⟨?_, ?_, ?_, ?_, ?_, ?_, ?_, ?_, ?_, ?_, ?_, ?_, ?_, ?_, ?_, List.forall_mem_nil _⟩
    all_goals decide
  have hrej : ∀ w ∈ rejectedHints, decIlegl (quietIn w) = true ∧ (Isa.decode w).isSome = true := by
    simp only [rejectedHints, List.forall_mem_cons]
    refine ⟨?_, ?_, ?_, ?_, ?_, ?_, List.forall_mem_nil _⟩
    all_goals decide
  refine ⟨hacc, hrej, ⟨by decide, by decide⟩, fun h => ?_⟩
  have hbad := (h (quietIn 0x105000f3#32)).mp (by decide)
  revert hbad
  decide

end
end E203.Decode
