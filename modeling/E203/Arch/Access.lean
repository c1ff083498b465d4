import E203.Arch.Muldiv
import E203.Exec.Killed
import E203.Integer.Execute

/-! # The accesses of the loads and stores

* `Decode.mem_of_decode`: which words are loads and stores for the address-generation unit.
* `Exu.access`: the access that is allocated in the FIFO of the outstanding instructions.
* `Exu.access_eq`: it is the one of the instruction that commits.
-/

namespace E203
set_option autoImplicit false

namespace Isa.Instr

/-- Loads and load-reserved. -/
def reads : Instr → Bool
  | .load .. | .lr .. => true
  | _ => false

/-- Stores and store-conditional. -/
def writes : Instr → Bool
  | .store .. | .sc .. => true
  | _ => false

end Isa.Instr

namespace Decode

/-- The whole major opcode of the atomics is in the address-generation group. -/
theorem decInfo_of_rv32Amo {d : In} (h : rv32Amo d.instr = true) : decInfo d = aguInfoBus d := by
  obtain ⟨hbjp, hmret, hdret, hfence, hcsr, hmdv, -⟩ := rv32Amo_disjoint h
  have hop : amoldstOp d.instr = true := by simp [amoldstOp, h]
  have hbjp' : bjpOp d = false := by simp [bjpOp, hbjp, hmret, hdret, hfence]
  simp [decInfo, hop, hbjp', hcsr, hmdv, aluOp_eq_false_of_amoldstOp hop]

section
variable {w : BitVec 32} {ins : Isa.Instr}

attribute [local simp] isLoad isStore rv32Load rv32Store rv16Lw rv16Lwsp rv16Sw rv16Swsp opcode65_00
  opcode65_01 opcode42_000 opcode10_00 opcode10_10 opcode10_11 rv16Func3_010 rv16Func3_110 rv16Func3

/-- An atomic operation is a load or a store only if it is exclusive. -/
theorem mem_decodeAmo (hamo : rv32Amo w = true) (h : Isa.decodeAmo w = some ins) :
    isLoad w = ins.reads ∧ isStore w = ins.writes := by
  obtain ⟨-, -, -, -, -, -, hld, hst, hlw, hlwsp, hsw, hswsp⟩ := rv32Amo_disjoint hamo
  obtain ⟨hf, -, hlr, hsc, hno⟩ := Isa.amo_fields h
  obtain ⟨hlrw, hscw⟩ := excl_eq hamo hf
  rw [isLoad, isStore, hld, hst, hlw, hlwsp, hsw, hswsp, hlrw, hscw]
  have ho := Isa.opcode_decodeAmo h
  cases ins
  case lr =>
    rw [(hlr _ _ rfl).1]
    exact ⟨rfl, rfl⟩
  case sc =>
    rw [(hsc _ _ _ rfl).1]
    exact ⟨rfl, rfl⟩
  case amo =>
    rw [beq_false_of_ne (hno _ _ _ _ rfl).1, beq_false_of_ne (hno _ _ _ _ rfl).2]
    exact ⟨rfl, rfl⟩
  all_goals cases ho

theorem mem_decode32 (h : Isa.decode32 w = some ins) :
    isLoad w = ins.reads ∧ isStore w = ins.writes := by
  have ho := Isa.opcode_of_decode32 h
  obtain ⟨h10, h42, h65, -⟩ := fields_of_opcode ho
  by_cases hamo : ins.opcode = 0b0101111#7
  · have hamo' : rv32Amo w = true := by simp [rv32Amo, opcode42_011, h10, h42, h65, hamo]
    rw [Isa.decode32, ho, hamo] at h
    exact mem_decodeAmo hamo' h
  · have hno : rv32LrW w = false ∧ rv32ScW w = false := by
      cases ins
      case lr | sc | amo => exact absurd rfl hamo
      all_goals simp [rv32LrW, rv32ScW, rv32Amo, opcode42_011, h10, h42, h65, Isa.Instr.opcode]
    cases ins
    case lr | sc | amo => exact absurd rfl hamo
    all_goals simp [h10, h42, h65, hno, Isa.Instr.opcode, Isa.Instr.reads, Isa.Instr.writes]

theorem excl_of_16 (h10 : (opcode w).extractLsb' 0 2 ≠ 0b11#2) :
    rv32LrW w = false ∧ rv32ScW w = false := by
  have hno : rv32Amo w = false := by simp [rv32Amo, h10]
  rw [rv32LrW, rv32ScW, hno]
  exact ⟨rfl, rfl⟩

theorem mem_decodeC0 (hlo : w.extractLsb' 0 2 = 0b00#2) (h : Isa.decodeC0 w = some ins) :
    isLoad w = ins.reads ∧ isStore w = ins.writes := by
  obtain ⟨h10, -⟩ := lo_fields hlo (by decide)
  have hexcl := excl_of_16 (w := w) (by rw [h10]; decide)
  rw [Isa.decodeC0] at h
  split_ifs at h with h0 hz h2 h6
  · have hf : w.extractLsb' 13 3 = _ := h0
    cases h
    simp [h10, hexcl, hf, Isa.Instr.reads, Isa.Instr.writes]
  · have hf : w.extractLsb' 13 3 = _ := h2
    cases h
    simp [h10, hexcl, hf, Isa.Instr.reads, Isa.Instr.writes]
  · have hf : w.extractLsb' 13 3 = _ := h6
    cases h
    simp [h10, hexcl, hf, Isa.Instr.reads, Isa.Instr.writes]

theorem mem_decodeC1 (hlo : w.extractLsb' 0 2 = 0b01#2) (h : Isa.decodeC1 w = some ins) :
    isLoad w = ins.reads ∧ isStore w = ins.writes := by
  obtain ⟨h10, -⟩ := lo_fields hlo (by decide)
  have hexcl := excl_of_16 (w := w) (by rw [h10]; decide)
  have hcalu : Isa.decodeCAlu w = some ins → ins.reads = false ∧ ins.writes = false := by
    intro hc
    unfold Isa.decodeCAlu at hc
    repeat' split at hc
    all_goals cases hc
    all_goals exact ⟨rfl, rfl⟩
  have hno : ins.reads = false ∧ ins.writes = false := by
    unfold Isa.decodeC1 at h
    repeat' split at h
    case isFalse.isFalse.isFalse.isFalse.isTrue => exact hcalu h
    all_goals cases h
    all_goals exact ⟨rfl, rfl⟩
  simp [h10, hexcl, hno]

theorem mem_decodeC2 (hlo : w.extractLsb' 0 2 = 0b10#2) (h : Isa.decodeC2 w = some ins) :
    isLoad w = ins.reads ∧ isStore w = ins.writes := by
  obtain ⟨h10, -⟩ := lo_fields hlo (by decide)
  have hexcl := excl_of_16 (w := w) (by rw [h10]; decide)
  rw [Isa.decodeC2] at h
  split_ifs at h with h0 hb h2 hr h4 h6
  · have hf : w.extractLsb' 13 3 = _ := h0
    cases h
    simp [h10, hexcl, hf, Isa.Instr.reads, Isa.Instr.writes]
  · have hf : w.extractLsb' 13 3 = _ := h2
    cases h
    simp [h10, hexcl, hf, Isa.Instr.reads, Isa.Instr.writes]
  · have hf : w.extractLsb' 13 3 = _ := h4
    have hno : ins.reads = false ∧ ins.writes = false := by
      unfold Isa.decodeCr at h
      repeat' split at h
      all_goals cases h
      all_goals exact ⟨rfl, rfl⟩
    simp [h10, hexcl, hf, hno]
  · have hf : w.extractLsb' 13 3 = _ := h6
    cases h
    simp [h10, hexcl, hf, Isa.Instr.reads, Isa.Instr.writes]

/-- The address-generation unit takes the loads and stores for what they are. -/
theorem mem_of_decode (h : Isa.decode w = some ins) :
    isLoad w = ins.reads ∧ isStore w = ins.writes := by
  have hx : ∀ x : BitVec 2, x = 0b00#2 ∨ x = 0b01#2 ∨ x = 0b10#2 ∨ x = 0b11#2 := by decide
  rw [Isa.decode] at h
  obtain hlo | hlo | hlo | hlo := hx (w.extractLsb' 0 2)
  all_goals rw [hlo] at h
  · exact mem_decodeC0 hlo h
  · exact mem_decodeC1 hlo h
  · exact mem_decodeC2 hlo h
  · exact mem_decode32 h

end
end Decode

/-! ## An instruction that retires -/

namespace Exu

/-- The access that is allocated in the FIFO. -/
def access (s : State) (i : In) : Option Isa.Access :=
  if oitfEna s i then
    some ⟨Lsuagu.aguIcbCmdAddr (Alu.dpathRes s.alu (alu s i)),
      if Lsuagu.aguIcbCmdRead s.alu.agu (Alu.agu s.alu (alu s i)) (Alu.dpathRes s.alu (alu s i)) then
        none
      else some (Lsuagu.aguIcbCmdWdata s.alu.agu (Alu.agu s.alu (alu s i)))⟩
  else none

section
variable {s : State} {i : In} {ins : Isa.Instr}

/-- A word of the address-generation group goes to the unit. -/
theorem aguOp_of_amoldst (hexcp : Alu.ifuExcpOp (alu s i) = false)
    (hinfo : Decode.decInfo (dec s i) = Decode.aguInfoBus (dec s i)) :
    Alu.aguOp (alu s i) = true := by
  have hgrp : (alu s i).iInfo.grp = GRP_AGU := by
    change (Decode.decInfo (dec s i)).grp = _
    rw [hinfo, Decode.aguInfoBus, Decode.bus_grp]
  rw [Alu.aguOp, hexcp, hgrp]
  rfl

/-- The data of a store of the size `z`. -/
theorem algnstWdata_eq {a : Lsuagu.In} {z : Isa.Size} (h : Lsuagu.aguISize a = z.code) :
    Lsuagu.algnstWdata a = z.lanes a.aguIRs2 := by
  rw [Lsuagu.algnstWdata, Lsuagu.aguISizeB, Lsuagu.aguISizeHw, Lsuagu.aguISizeW, h]
  cases z
  · change (a.aguIRs2.extractLsb' 0 8).replicate 4 ||| 0#32 ||| 0#32 = _
    rw [BitVec.or_zero, BitVec.or_zero]
    rfl
  · change 0#32 ||| (a.aguIRs2.extractLsb' 0 16).replicate 2 ||| 0#32 = _
    rw [BitVec.or_zero, BitVec.zero_or]
    rfl
  · change 0#32 ||| 0#32 ||| a.aguIRs2 = _
    rw [BitVec.or_zero, BitVec.zero_or]
    rfl

/-- The datapath adds the offset that the unit asks for. -/
theorem dpathRes_agu (hagu : Alu.aguOp (alu s i) = true) (hidle : s.alu.agu.icbStateR = .idle) :
    Alu.dpathRes s.alu (alu s i) =
      (alu s i).iRs1 + Lsuagu.aguAddrGenOp2 s.alu.agu (Alu.agu s.alu (alu s i)) := by
  obtain ⟨-, halu, hbjp, -, hmdv⟩ := aguOp_exclusive hagu
  have hsta : Lsuagu.icbStaIsIdle s.alu.agu = true ∧ Lsuagu.icbStaIsAmoalu s.alu.agu = false := by
    rw [Lsuagu.icbStaIsIdle, Lsuagu.icbStaIsAmoalu, hidle]
    exact ⟨rfl, rfl⟩
  have hrs1 : (Alu.agu s.alu (alu s i)).aguIRs1 = (alu s i).iRs1 := by
    simp only [Alu.agu, hagu, gate_true]
  have hreq : Lsuagu.req s.alu.agu (Alu.agu s.alu (alu s i)) =
      AluDpath.addReq (alu s i).iRs1 (Lsuagu.aguAddrGenOp2 s.alu.agu (Alu.agu s.alu (alu s i))) := by
    simp [Lsuagu.req, hsta, hrs1, AluDpath.addReq]
  have hmux : AluDpath.mux (Alu.dpath s.alu (alu s i)) =
      Lsuagu.req s.alu.agu (Alu.agu s.alu (alu s i)) :=
    AluDpath.mux_agu (by simp [Alu.dpath, halu]) hbjp hagu
  exact AluDpath.dpathRes_add (hmux.trans hreq) hmdv

end
end Exu

namespace Core

/-- The instruction `ins` leaves the IR and commits without a trap or a debug entry. -/
structure Retires (s : State) (i : In) (ins : Isa.Instr) : Prop where
  word : Isa.decode s.ifu.ifuIrR = some ins
  cmt : Exu.cmtEna s.exu (exuIn s i) = true
  calm : Exu.excpirqFlushReq s.exu (exuIn s i) = false
  steady : Steady s
  indexed : Exu.Indexed (exuIn s i)

section
variable {s : State} {i : In} {ins : Isa.Instr} (h : Retires s i ins)
include h

theorem Retires.dispatched : (Exu.alu s.exu (exuIn s i)).iValid = true :=
  h.steady.dispatched_of_cmtEna h.cmt

theorem Retires.noExcp :
    s.ifu.ifuErrR = false ∧ Decode.decIlegl (Exu.dec s.exu (exuIn s i)) = false ∧
      (Exu.aluCmt s.exu (exuIn s i)).aluExcpIMisalgn = false := by
  have hno := Exu.aluNeedFlush_of_cmt h.cmt h.calm
  simp only [Excp.aluNeedFlush, Bool.or_eq_false_iff] at hno
  obtain ⟨⟨⟨⟨⟨⟨hmis, -⟩, -⟩, -⟩, -⟩, hbuserr⟩, hilegl⟩ := hno
  exact ⟨hbuserr, (Bool.or_eq_false_iff.mp hilegl).1, hmis⟩

theorem Retires.ifuExcpOp : Alu.ifuExcpOp (Exu.alu s.exu (exuIn s i)) = false := by
  obtain ⟨herr, hleg, -⟩ := h.noExcp
  change (Decode.decIlegl (Exu.dec s.exu (exuIn s i)) || s.ifu.ifuErrR || false) = false
  rw [herr, hleg]
  rfl

theorem Retires.intAt (hint : ins.isInteger = true) : Exu.IntAt s.exu (exuIn s i) ins :=
  ⟨h.indexed, h.word, hint, h.noExcp.2.1, h.noExcp.1, rfl⟩

theorem Retires.regs : Decode.RegWires s.ifu.ifuIrR ins :=
  Decode.regWires (d := Exu.dec s.exu (exuIn s i)) h.word h.noExcp.2.1

/-- A register file that agrees with the operands agrees with the registers on the sources. -/
theorem Retires.reads {ρ : BitVec 5 → BitVec 32}
    (hρ : ∀ p ∈ Exu.operands s.exu (exuIn s i), ρ p.1 = p.2) :
    ∀ r ∈ ins.srcs, Isa.read ρ r = s.exu.rf.rfR r := by
  intro r hr
  by_cases hzero : r = 0#5
  · rw [hzero]
    rfl
  · have hmem : ∃ v, (r, v) ∈ Exu.operands s.exu (exuIn s i) := by
      obtain ⟨hen, hidx⟩ | ⟨hen, hidx⟩ := h.regs.srcs r hr hzero
      · have hen' : Decode.decRs1en (exuIn s i).iIr = true := hen
        have hidx' : Decode.decRs1idx (exuIn s i).iIr = r := hidx
        refine ⟨(Exu.alu s.exu (exuIn s i)).iRs1, List.mem_append_left _ ?_⟩
        rw [if_pos hen', hidx']
        exact List.mem_singleton_self _
      · have hen' : Decode.decRs2en (exuIn s i).iIr = true := hen
        have hidx' : Decode.decRs2idx (exuIn s i).iIr = r := hidx
        refine ⟨(Exu.alu s.exu (exuIn s i)).iRs2, List.mem_append_right _ ?_⟩
        rw [if_pos hen', hidx']
        exact List.mem_singleton_self _
    obtain ⟨v, hv⟩ := hmem
    have hold : s.exu.rf r = v := (Exu.operands_of_dispatched h.dispatched h.indexed hv).1
    have hnew : ρ r = v := hρ _ hv
    rw [Isa.read, Regfile.rfR, if_neg hzero, if_neg hzero, hold, hnew]

/-! ## Loads and stores -/

theorem Retires.idle (hmem : ins.reads = true ∨ ins.writes = true) :
    s.exu.alu.agu.icbStateR = .idle := by
  obtain ⟨hld, hst⟩ := Decode.mem_of_decode h.word
  by_contra hbusy
  obtain ⟨hno, hno', -⟩ := Decode.isAmo_exclusive (h.steady.amo hbusy).2.1
  rw [← hld, ← hst, hno, hno'] at hmem
  simp at hmem

theorem Retires.excl (hlr : ins.opcode = 0b0101111#7) (hs : ins.hasShort = false) :
    Decode.decInfo (Exu.dec s.exu (exuIn s i)) = Decode.aguInfoBus (Exu.dec s.exu (exuIn s i)) :=
  Decode.decInfo_of_rv32Amo (d := Exu.dec s.exu (exuIn s i))
    (Decode.decodeAmo_of_decode h.word hlr hs).1

theorem Retires.aguOp (hmem : ins.reads = true ∨ ins.writes = true) :
    Alu.aguOp (Exu.alu s.exu (exuIn s i)) = true := by
  have hidle := h.idle hmem
  cases ins
  case load => exact ((h.intAt rfl).agu_req (.inl rfl) hidle).1
  case store => exact ((h.intAt rfl).agu_req (.inr rfl) hidle).1
  case lr | sc => exact Exu.aguOp_of_amoldst h.ifuExcpOp (h.excl rfl rfl)
  all_goals simp [Isa.Instr.reads, Isa.Instr.writes] at hmem

/-- What the unit sees of a load or store that retires. -/
structure Unit (s : State) (i : In) (ins : Isa.Instr) : Prop where
  load : Lsuagu.aguILoad s.exu.alu.agu (Alu.agu s.exu.alu (Exu.alu s.exu (exuIn s i))) = ins.reads
  store : Lsuagu.aguIStore s.exu.alu.agu (Alu.agu s.exu.alu (Exu.alu s.exu (exuIn s i))) = ins.writes
  amo : Lsuagu.aguIAmo s.exu.alu.agu (Alu.agu s.exu.alu (Exu.alu s.exu (exuIn s i))) = false
  algn : Lsuagu.aguIAlgnldst s.exu.alu.agu (Alu.agu s.exu.alu (Exu.alu s.exu (exuIn s i)))
    (Alu.dpathRes s.exu.alu (Exu.alu s.exu (exuIn s i))) = true

theorem Retires.unit (hmem : ins.reads = true ∨ ins.writes = true) : Unit s i ins := by
  obtain ⟨hld, hst⟩ := Decode.mem_of_decode h.word
  have hagu := h.aguOp hmem
  obtain ⟨hload, hstore, hamo⟩ := Exu.agu_kind hagu
  have hblock : Lsuagu.flushBlock s.exu.alu.agu (Alu.agu s.exu.alu (Exu.alu s.exu (exuIn s i))) =
      false := by
    cases hb : Lsuagu.flushBlock s.exu.alu.agu (Alu.agu s.exu.alu (Exu.alu s.exu (exuIn s i)))
    · rfl
    · have hmask : Exu.masked s.exu (exuIn s i) = true := by rw [Exu.masked, hagu, hb]; rfl
      exact absurd ((Exu.cmtEna_of_masked hmask).symm.trans h.cmt) Bool.false_ne_true
  have hword : (exuIn s i).iIr = s.ifu.ifuIrR := rfl
  rw [hblock, Bool.not_false, Bool.and_true, hword] at hload hstore hamo
  have hnoamo : Decode.isAmo s.ifu.ifuIrR = false := by
    cases hw : Decode.isAmo s.ifu.ifuIrR
    · rfl
    · obtain ⟨hno, hno', -⟩ := Decode.isAmo_exclusive hw
      rw [← hld, ← hst, hno, hno'] at hmem
      simp at hmem
  have hload' := hload.trans hld
  have hstore' := hstore.trans hst
  refine ⟨hload', hstore', hamo.trans hnoamo, ?_⟩
  have hmis : (Alu.aguOp (Exu.alu s.exu (exuIn s i)) &&
      Lsuagu.aguOCmtMisalgn s.exu.alu.agu (Alu.agu s.exu.alu (Exu.alu s.exu (exuIn s i)))
        (Alu.dpathRes s.exu.alu (Exu.alu s.exu (exuIn s i)))) = false := h.noExcp.2.2
  rw [hagu, Bool.true_and, Lsuagu.aguOCmtMisalgn, Lsuagu.aguIUnalgnldst, hload', hstore',
    Bool.or_eq_false_iff] at hmis
  rw [Lsuagu.aguIAlgnldst, hload', hstore']
  obtain hr | hr := hmem
  · rw [hr] at hmis ⊢
    simp at hmis ⊢
    exact .inl hmis.2.1
  · rw [hr] at hmis ⊢
    simp at hmis ⊢
    exact .inr hmis.2.2

theorem Retires.oitfEna (hmem : ins.reads = true ∨ ins.writes = true) :
    Exu.oitfEna s.exu (exuIn s i) = true := by
  have hleave := h.steady.iHsked_of_cmtEna h.cmt
  rw [Exu.iHsked, Exu.iReady, Disp.dispIReady, Bool.and_eq_true, Bool.and_eq_true] at hleave
  have hvalid : Disp.dispOAluValid (Exu.disp s.exu (exuIn s i)) = true := h.dispatched
  have hlong : Alu.iLongpipe s.exu.alu (Exu.alu s.exu (exuIn s i)) = true := by
    rw [Alu.iLongpipe, h.aguOp hmem, Lsuagu.aguILongpipe, (h.unit hmem).algn]
    rfl
  rw [Exu.oitfEna, Disp.dispOitfEna, hvalid, hleave.2.2, hlong]
  rfl

/-- The read flag of the command. -/
theorem Retires.cmdRead (hmem : ins.reads = true ∨ ins.writes = true) :
    Lsuagu.aguIcbCmdRead s.exu.alu.agu (Alu.agu s.exu.alu (Exu.alu s.exu (exuIn s i)))
      (Alu.dpathRes s.exu.alu (Exu.alu s.exu (exuIn s i))) = ins.reads := by
  have hu := h.unit hmem
  rw [Lsuagu.aguIcbCmdRead, hu.algn, hu.load, Lsuagu.aguIAlgnamo, hu.amo]
  simp

/-- The data of the command. -/
theorem Retires.cmdWdata (hmem : ins.reads = true ∨ ins.writes = true) {z : Isa.Size}
    (hsize : Lsuagu.aguISize (Alu.agu s.exu.alu (Exu.alu s.exu (exuIn s i))) = z.code) :
    Lsuagu.aguIcbCmdWdata s.exu.alu.agu (Alu.agu s.exu.alu (Exu.alu s.exu (exuIn s i))) =
      z.lanes (Exu.alu s.exu (exuIn s i)).iRs2 := by
  have hrs2 : (Alu.agu s.exu.alu (Exu.alu s.exu (exuIn s i))).aguIRs2 =
      (Exu.alu s.exu (exuIn s i)).iRs2 := by
    simp only [Alu.agu, h.aguOp hmem, gate_true]
  rw [Lsuagu.aguIcbCmdWdata, (h.unit hmem).amo, if_neg Bool.false_ne_true,
    Exu.algnstWdata_eq hsize, hrs2]

theorem Retires.info_excl (ho : ins.opcode = 0b0101111#7) (hs : ins.hasShort = false)
    (hmem : ins.reads = true ∨ ins.writes = true) :
    Lsuagu.aguIExcl (Alu.agu s.exu.alu (Exu.alu s.exu (exuIn s i))) = true ∧
      Lsuagu.aguISize (Alu.agu s.exu.alu (Exu.alu s.exu (exuIn s i))) = Isa.Size.code .word := by
  obtain ⟨hamo, hdec⟩ := Decode.decodeAmo_of_decode h.word ho hs
  obtain ⟨hf, -, hlr, hsc, -⟩ := Isa.amo_fields hdec
  obtain ⟨hlrw, hscw⟩ := Decode.excl_eq hamo hf
  have hinfo := (Exu.agu_info (h.aguOp hmem)).2
  constructor
  · rw [Lsuagu.aguIExcl, hinfo, Decode.aguInfoBus_bits.2.2.1]
    change (Decode.rv32LrW s.ifu.ifuIrR || Decode.rv32ScW s.ifu.ifuIrR) = true
    rw [hlrw, hscw]
    cases ins
    case lr =>
      rw [(hlr _ _ rfl).1]
      rfl
    case sc =>
      rw [(hsc _ _ _ rfl).1]
      rfl
    all_goals simp [Isa.Instr.reads, Isa.Instr.writes] at hmem
    all_goals cases ho
  · rw [Lsuagu.aguISize, hinfo, Decode.aguInfoBus_size]
    have hf' : Decode.rv32Func3 s.ifu.ifuIrR = 0b010#3 := hf
    change Decode.lsuInfoSize s.ifu.ifuIrR = _
    rw [Decode.lsuInfoSize, (Decode.rv32Amo_regs hamo).1, hf']
    rfl

/-- An exclusive access takes its address from its register. -/
theorem Retires.addr_excl (ho : ins.opcode = 0b0101111#7) (hs : ins.hasShort = false)
    (hmem : ins.reads = true ∨ ins.writes = true) :
    Alu.dpathRes s.exu.alu (Exu.alu s.exu (exuIn s i)) = s.exu.rf.rfR (Isa.rs1 s.ifu.ifuIrR) ∧
      (Exu.alu s.exu (exuIn s i)).iRs2 = s.exu.rf.rfR (Isa.rs2 s.ifu.ifuIrR) := by
  obtain ⟨hamo, hdec⟩ := Decode.decodeAmo_of_decode h.word ho hs
  obtain ⟨hf, -, hlr, -, -⟩ := Isa.amo_fields hdec
  have hlr' : Decode.rv32LrW s.ifu.ifuIrR = true → Isa.rs2 s.ifu.ifuIrR = 0#5 := by
    intro hl
    have hread : ins.reads = true := by
      rw [← (Decode.mem_of_decode h.word).1, Decode.isLoad, hl]
      simp
    cases ins
    case lr => exact (hlr _ _ rfl).2.2
    case load => cases ho
    all_goals cases hread
  obtain ⟨hidx1, hidx2, hen1, hen2⟩ := Decode.excl_regs hamo hlr'
  obtain ⟨h1, h2⟩ := Exu.operands_of_regs (s := s.exu) h.indexed hen1 hen2
  have hw1 : Decode.decRs1idx (exuIn s i).iIr = Isa.rs1 s.ifu.ifuIrR := hidx1
  have hw2 : Decode.decRs2idx (exuIn s i).iIr = Isa.rs2 s.ifu.ifuIrR := hidx2
  rw [hw1] at h1
  rw [hw2] at h2
  refine ⟨?_, h2⟩
  have hu := h.unit hmem
  have hofst : Lsuagu.aguIOfst0 s.exu.alu.agu (Alu.agu s.exu.alu (Exu.alu s.exu (exuIn s i))) =
      true := by
    rw [Lsuagu.aguIOfst0, hu.load, hu.store, (h.info_excl ho hs hmem).1]
    obtain hr | hr := hmem <;> simp [hr]
  rw [Exu.dpathRes_agu (h.aguOp hmem) (h.idle hmem), Lsuagu.aguAddrGenOp2, hofst, if_pos rfl, h1,
    BitVec.add_zero]

theorem Retires.oitfEna_eq_false (hr : ins.reads = false) (hw : ins.writes = false) :
    Exu.oitfEna s.exu (exuIn s i) = false := by
  obtain ⟨hld, hst⟩ := Decode.mem_of_decode h.word
  have hno : ¬(Decode.isLoad (exuIn s i).iIr = true ∨ Decode.isStore (exuIn s i).iIr = true) := by
    have hword : (exuIn s i).iIr = s.ifu.ifuIrR := rfl
    rw [hword, hld, hst, hr, hw]
    simp
  rw [← Bool.not_eq_true]
  exact fun hena => hno (Exu.mem_of_oitfEna hena)

theorem Retires.size {z : Isa.Size} {r1 r2 : BitVec 5} {offset : BitVec 32}
    (hins : ins = .store z r1 r2 offset) :
    Lsuagu.aguISize (Alu.agu s.exu.alu (Exu.alu s.exu (exuIn s i))) = z.code := by
  subst hins
  have hagu := h.aguOp (.inr rfl)
  have hinfo : (Alu.agu s.exu.alu (Exu.alu s.exu (exuIn s i))).aguIInfo =
      Decode.bus (Exu.dec s.exu (exuIn s i)) GRP_AGU (Isa.Instr.store z r1 r2 offset).aguBits := by
    simp only [Alu.agu, hagu, gate_true]
    exact (h.intAt rfl).wires.agu (.inr rfl)
  rw [Lsuagu.aguISize, hinfo]
  exact Decode.bus_field (s := [_, _]) rfl (by simp)

theorem Retires.access_load {z : Isa.Size} {u : Bool} {dst r1 : BitVec 5} {offset : BitVec 32}
    (hins : ins = .load z u dst r1 offset) :
    Exu.access s.exu (exuIn s i) = some ⟨s.exu.rf.rfR r1 + offset, none⟩ := by
  subst hins
  have hmem : (Isa.Instr.load z u dst r1 offset).reads = true := rfl
  have haddr := (h.intAt rfl).address (h.idle (.inl hmem)) rfl
  rw [Exu.access, h.oitfEna (.inl hmem), if_pos rfl, h.cmdRead (.inl hmem), hmem, if_pos rfl, haddr]

theorem Retires.access_store {z : Isa.Size} {r1 r2 : BitVec 5} {offset : BitVec 32}
    (hins : ins = .store z r1 r2 offset) :
    Exu.access s.exu (exuIn s i) =
      some ⟨s.exu.rf.rfR r1 + offset, some (z.lanes (s.exu.rf.rfR r2))⟩ := by
  have hsize := h.size hins
  subst hins
  have hmem : (Isa.Instr.store z r1 r2 offset).writes = true := rfl
  have hno : (Isa.Instr.store z r1 r2 offset).reads = false := rfl
  have haddr := (h.intAt rfl).address (h.idle (.inr hmem)) rfl
  have hdata := h.cmdWdata (.inr hmem) hsize
  rw [(h.intAt rfl).iRs2 rfl] at hdata
  rw [Exu.access, h.oitfEna (.inr hmem), if_pos rfl, h.cmdRead (.inr hmem), hno,
    if_neg Bool.false_ne_true, haddr, hdata]

theorem Retires.access_lr {dst r1 : BitVec 5} (hins : ins = .lr dst r1) :
    Exu.access s.exu (exuIn s i) = some ⟨s.exu.rf.rfR r1, none⟩ := by
  subst hins
  have hmem : (Isa.Instr.lr dst r1).reads = true := rfl
  obtain ⟨hamo, hdec⟩ := Decode.decodeAmo_of_decode h.word rfl rfl
  have hr1 := ((Isa.amo_fields hdec).2.2.1 _ _ rfl).2.1
  rw [Exu.access, h.oitfEna (.inl hmem), if_pos rfl, h.cmdRead (.inl hmem), hmem, if_pos rfl,
    Lsuagu.aguIcbCmdAddr, (h.addr_excl rfl rfl (.inl hmem)).1, hr1]

theorem Retires.access_sc {dst r1 r2 : BitVec 5} (hins : ins = .sc dst r1 r2) :
    Exu.access s.exu (exuIn s i) =
      some ⟨s.exu.rf.rfR r1, some (Isa.Size.lanes (s.exu.rf.rfR r2) .word)⟩ := by
  subst hins
  have hmem : (Isa.Instr.sc dst r1 r2).writes = true := rfl
  have hno : (Isa.Instr.sc dst r1 r2).reads = false := rfl
  obtain ⟨hamo, hdec⟩ := Decode.decodeAmo_of_decode h.word rfl rfl
  obtain ⟨-, hr1, hr2⟩ := (Isa.amo_fields hdec).2.2.2.1 _ _ _ rfl
  have hdata := h.cmdWdata (.inr hmem) (h.info_excl rfl rfl (.inr hmem)).2
  obtain ⟨haddr, hrs2⟩ := h.addr_excl rfl rfl (.inr hmem)
  rw [Exu.access, h.oitfEna (.inr hmem), if_pos rfl, h.cmdRead (.inr hmem), hno,
    if_neg Bool.false_ne_true, Lsuagu.aguIcbCmdAddr, haddr, hdata, hrs2, hr1, hr2]

/-- What is allocated is the access of the instruction that retires. -/
theorem Retires.access : Exu.access s.exu (exuIn s i) = ins.access s.exu.rf.rfR := by
  have hnone : ins.reads = false → ins.writes = false → Exu.access s.exu (exuIn s i) = none := by
    intro hr hw
    rw [Exu.access, h.oitfEna_eq_false hr hw, if_neg Bool.false_ne_true]
  cases ins
  case load => exact h.access_load rfl
  case store => exact h.access_store rfl
  case lr => exact h.access_lr rfl
  case sc => exact h.access_sc rfl
  all_goals exact hnone rfl rfl

end
end Core
end E203
