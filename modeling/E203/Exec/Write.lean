import E203.Exec.Handoff

/-! # What is written to the register file

* `Exu.rfWrite_eq`, `Exu.step_rf`: each cycle writes the result of the long pipe, or the result of the
  instruction that commits, or nothing.
* `Exu.retEntry`: the long pipe writes for the oldest outstanding instruction.
-/

namespace E203
set_option autoImplicit false

namespace Regfile

section
variable {rf rf' : Regfile} {n idx : BitVec 5} {v : BitVec 32}

theorem step_true : Regfile.step true n v rf = Function.update rf n v := by
  funext idx
  by_cases h : idx = n
  · simp [Regfile.step, rfWen, h]
  · have hno : (n == idx) = false := beq_false_of_ne (Ne.symm h)
    simp [Regfile.step, rfWen, h, hno]

theorem step_false : Regfile.step false n v rf = rf := by
  funext idx
  simp [Regfile.step, rfWen]

theorem rfR_congr (h : rf idx = rf' idx) : rf.rfR idx = rf'.rfR idx := by
  rw [rfR, rfR, h]

end
end Regfile

namespace Oitf

/-- Some outstanding instruction writes register `n`. -/
def State.Writes (s : State) (n : BitVec 5) : Prop :=
  ∃ k, (s.entry k).vldR = true ∧ (s.entry k).rdwenR = true ∧ (s.entry k).rdidxR = n

section
variable {s : State} {d : Disp} {disEna retEna : Bool} {n : BitVec 5}

theorem not_writes_of_empty (h : s.Ok) (hempty : oitfEmpty s = true) : ¬s.Writes n := by
  rintro ⟨k, hv, -⟩
  rw [h.vldR_of_empty hempty] at hv
  cases hv

/-- What is outstanding after a cycle was outstanding before or has just been allocated. -/
theorem writes_of_step (h : (step s d disEna retEna).Writes n) :
    s.Writes n ∨ disEna = true ∧ d.dispIRdwen = true ∧ d.dispIRdidx = n := by
  obtain ⟨k, hv, hwen, hidx⟩ := h
  cases hset : vldSet s disEna k
  · left
    simp only [step, hset, Bool.false_or, dfflr_false] at hv hwen hidx
    refine ⟨k, ?_, hwen, hidx⟩
    cases hclr : vldClr s retEna k
    · simpa [hclr] using hv
    · simp [hclr] at hv
  · right
    simp only [step, hset, dfflr_true] at hwen hidx
    exact ⟨((Bool.and_eq_true _ _).mp hset).1, hwen, hidx⟩

end
end Oitf

namespace Exu
section
variable {s : State} {i : In}

/-- The instruction that commits writes its result. -/
def cmtWrites (s : State) (i : In) : Bool := cmtEna s i && Alu.oNeedWbck s.alu (alu s i)

/-- A write of the ALU is one half of the commit. -/
theorem wbckSelAlu_eq : Wbck.wbckSelAlu (wbck s i) = cmtWrites s i := by
  have hready : aluWbckOReady s i = !longpWbckOValid s i := by
    simp [aluWbckOReady, Wbck.aluWbckIReady, Wbck.wbckReady4alu, Wbck.rfWbckOReady]
  simp only [Wbck.wbckSelAlu, wbck, aluWbckOValid, Alu.wbckOValid, Alu.oNeedCmt, Wbck.wbckReady4alu,
    cmtWrites, cmtEna, Commit.cmtEna, aluCmtValid, Alu.cmtOValid, hready, aluCmtReady]
  cases Alu.oNeedWbck s.alu (alu s i) <;> cases Alu.oValid s.alu (alu s i) <;>
    simp [Bool.and_comm]

theorem longpWbckOWdat_eq (h : longpWbckOValid s i = true) :
    Longpwbck.longpWbckOWdat (longpwbck s i) = i.lsuOWbckWdat := by
  simp only [longpWbckOValid, Longpwbck.longpWbckOValid, Longpwbck.wbckIValid, Bool.and_eq_true] at h
  simp only [Longpwbck.longpWbckOWdat, Longpwbck.wbckIWdat, h.1.2.1, gate_true]
  rfl

/-- What is written in this cycle. -/
def rfWrite (s : State) (i : In) : Option (BitVec 5 × BitVec 32) :=
  if Wbck.rfWbckOEna (wbck s i) then some (Wbck.rfWbckORdidx (wbck s i), Wbck.rfWbckOWdat (wbck s i))
  else none

theorem rfWrite_eq :
    rfWrite s i =
      if longpWbckOValid s i then some (Oitf.retRdidx s.oitf, i.lsuOWbckWdat)
      else if cmtWrites s i then some (Decode.decRdidx i.iIr, Alu.wbckOWdat s.alu (alu s i))
      else none := by
  have hsel := wbckSelAlu_eq (s := s) (i := i)
  have hlong : (wbck s i).longpWbckIValid = longpWbckOValid s i := rfl
  cases hl : longpWbckOValid s i
  case true =>
    have hno : Wbck.wbckSelAlu (wbck s i) = false := by
      simp [Wbck.wbckSelAlu, Wbck.wbckReady4alu, hlong, hl]
    have hena : Wbck.rfWbckOEna (wbck s i) = true := by
      simp [Wbck.rfWbckOEna, Wbck.wbckIValid, hno, hlong, hl, Wbck.rfWbckOReady]
    have hdat : (wbck s i).longpWbckIWdat = i.lsuOWbckWdat := longpWbckOWdat_eq hl
    rw [rfWrite, hena]
    simp only [Wbck.rfWbckORdidx, Wbck.rfWbckOWdat, hno, hdat, Bool.false_eq_true, if_false, if_true]
    rfl
  case false =>
    cases hc : cmtWrites s i
    · have hena : Wbck.rfWbckOEna (wbck s i) = false := by
        simp [Wbck.rfWbckOEna, Wbck.wbckIValid, hsel, hc, hlong, hl]
      rw [rfWrite, hena]
      rfl
    · have hval : (wbck s i).aluWbckIValid = true := by
        have hand := hsel.trans hc
        simp only [Wbck.wbckSelAlu, Bool.and_eq_true] at hand
        exact hand.1
      have hena : Wbck.rfWbckOEna (wbck s i) = true := by
        simp [Wbck.rfWbckOEna, Wbck.wbckIValid, hsel, hc, hval, Wbck.rfWbckOReady]
      rw [rfWrite, hena]
      simp only [Wbck.rfWbckORdidx, Wbck.rfWbckOWdat, hsel, hc, Bool.false_eq_true, if_false,
        if_true]
      rfl

theorem step_rf_of_rfWrite :
    (step s i).rf = (rfWrite s i).elim s.rf fun p => Function.update s.rf p.1 p.2 := by
  rw [rfWrite]
  cases hena : Wbck.rfWbckOEna (wbck s i)
  · simp only [step, hena, Regfile.step_false, Bool.false_eq_true, if_false, Option.elim_none]
  · simp only [step, hena, Regfile.step_true, if_true, Option.elim_some]

theorem step_rf :
    (step s i).rf =
      if longpWbckOValid s i then Function.update s.rf (Oitf.retRdidx s.oitf) i.lsuOWbckWdat
      else if cmtWrites s i then
        Function.update s.rf (Decode.decRdidx i.iIr) (Alu.wbckOWdat s.alu (alu s i))
      else s.rf := by
  rw [step_rf_of_rfWrite, rfWrite_eq]
  split_ifs <;> rfl

/-- The long pipe and the instruction that commits never write in the same cycle. -/
theorem cmtWrites_of_longp (h : longpWbckOValid s i = true) : cmtWrites s i = false := by
  rw [← wbckSelAlu_eq]
  have hlong : (wbck s i).longpWbckIValid = true := h
  simp [Wbck.wbckSelAlu, Wbck.wbckReady4alu, hlong]

/-- Only an instruction with a destination writes. -/
theorem decRdwen_of_cmtWrites (h : cmtWrites s i = true) : Decode.decRdwen i.iIr = true := by
  simp only [cmtWrites, Alu.oNeedWbck, Bool.and_eq_true] at h
  exact h.2.1.1

/-- The response that is taken is that of the oldest entry. -/
theorem retEntry (h : s.oitf.Ok) (hret : oitfRetEna s i = true) :
    oitfEmpty s = false ∧ (s.oitf.entry s.oitf.retPtrR).vldR = true := by
  have hempty : oitfEmpty s = false := by
    cases he : oitfEmpty s
    · rfl
    · rw [(noLongp he).2.2] at hret
      cases hret
  refine ⟨hempty, ?_⟩
  have he : Oitf.oitfEmpty s.oitf = false := hempty
  rw [h.vld, he]
  simp

/-- The long pipe writes when it retires an instruction with a destination, without an error. -/
theorem longpWbckOValid_eq :
    longpWbckOValid s i = (oitfRetEna s i && Oitf.retRdwen s.oitf && !i.lsuOWbckErr) := by
  have hready : longpExcpOReady = true := rfl
  have hwready : Wbck.longpWbckIReady = true := rfl
  have hrd : (longpwbck s i).oitfRetRdwen = Oitf.retRdwen s.oitf := rfl
  have herr : (longpwbck s i).lsuWbckIErr = i.lsuOWbckErr := rfl
  cases hsel : Longpwbck.wbckSelLsu (longpwbck s i)
  · simp [longpWbckOValid, oitfRetEna, Longpwbck.longpWbckOValid, Longpwbck.oitfRetEna,
      Longpwbck.wbckIValid, hsel]
  · simp only [longpWbckOValid, oitfRetEna, Longpwbck.longpWbckOValid, Longpwbck.oitfRetEna,
      Longpwbck.wbckIReady, Longpwbck.needWbck, Longpwbck.needExcp, Longpwbck.wbckIErr,
      Longpwbck.wbckIValid, hsel, hready, hwready, hrd, herr]
    cases (longpwbck s i).lsuWbckIValid <;> cases i.lsuOWbckErr <;>
      cases Oitf.retRdwen s.oitf <;> rfl

/-- A register that neither something outstanding nor the instruction that commits writes keeps its
value. -/
theorem step_rf_of_not_writes {n : BitVec 5} (h : s.oitf.Ok) (hno : ¬s.oitf.Writes n)
    (hcmt : cmtWrites s i = true → Decode.decRdidx i.iIr ≠ n) : (step s i).rf n = s.rf n := by
  rw [step_rf]
  split_ifs with hlong hc
  · rw [longpWbckOValid_eq, Bool.and_eq_true, Bool.and_eq_true] at hlong
    refine Function.update_of_ne (fun hn => hno ?_) _ _
    exact ⟨_, (retEntry h hlong.1.1).2, hlong.1.2, hn.symm⟩
  · exact Function.update_of_ne (hcmt hc).symm _ _
  · rfl

/-- An entry is allocated for the instruction that is handed over. -/
theorem iHsked_of_oitfEna (h : oitfEna s i = true) : iHsked s i = true := by
  have hvalid : Disp.dispOAluValid (disp s i) = (Disp.dispCondition (disp s i) && i.iValid) := rfl
  simp only [oitfEna, Disp.dispOitfEna, hvalid, Bool.and_eq_true] at h
  simp [iHsked, iReady, Disp.dispIReady, h.1.1.1, h.1.1.2, h.1.2]

end
end Exu

namespace Core
section
variable {s : State} {i : In}

theorem Steady.iHsked_of_cmtEna (h : Steady s) (hcmt : Exu.cmtEna s.exu (exuIn s i) = true) :
    Exu.iHsked s.exu (exuIn s i) = true := by
  by_contra hno
  by_cases hd : Dropped s i
  · rw [Exu.cmtEna_of_masked hd.masked] at hcmt
    cases hcmt
  · exact hno ((h.iHsked_iff.mpr hd).mpr hcmt)

/-- A register that neither something outstanding nor the instruction that leaves the IR writes. -/
theorem Steady.reg_step (h : Steady s) {n : BitVec 5} (hfree : ¬s.exu.oitf.Writes n)
    (hleave : Exu.iHsked s.exu (exuIn s i) = true → Decode.decRdwen s.ifu.ifuIrR = true →
      Decode.decRdidx s.ifu.ifuIrR ≠ n) :
    (Core.step s i).exu.rf n = s.exu.rf n ∧ ¬(Core.step s i).exu.oitf.Writes n := by
  constructor
  · refine Exu.step_rf_of_not_writes h.oitf hfree fun hcmt => ?_
    have hhsk := h.iHsked_of_cmtEna ((Bool.and_eq_true _ _).mp hcmt).1
    exact hleave hhsk (Exu.decRdwen_of_cmtWrites hcmt)
  · intro hw
    obtain hold | ⟨hena, hwen, hidx⟩ := Oitf.writes_of_step hw
    · exact hfree hold
    · exact hleave (Exu.iHsked_of_oitfEna hena) hwen hidx

end
end Core
end E203
