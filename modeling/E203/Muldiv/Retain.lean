import E203.Muldiv.Divide
import E203.Muldiv.Multiply

/-! # What an operation leaves in the shared buffers

* `Holds op a b u`: the buffers hold the low half of the product, or the remainder and the quotient.
* `Busy op a b u`: the operation is under way.
* `Busy.step`: it goes on until its response is taken, and then the buffers hold its results.
* `Holds.wdat`: a response from the buffers is the one of the instruction that takes it.
-/

namespace E203.Muldiv
open Lib
set_option autoImplicit false

structure Holds (op : MulDivOp) (a b : BitVec 32) (u : Unit) : Prop where
  prod : op.isDiv = false →
    u.sbf.sbf1.extractLsb' 0 31 ++ BitVec.ofBool u.mdv.partPrdtSft1R =
      BitVec.ofInt 32 (product op a b)
  remd : op.isDiv = true → ¬IsSpecial op a b → u.sbf.sbf0.extractLsb' 0 32 = remainder op a b
  quot : op.isDiv = true → ¬IsSpecial op a b → u.sbf.sbf1.extractLsb' 0 32 = quotient op a b

/-! ## Registers without an operation -/

section
variable {e : Env} {u : Unit}

/-- A flush ends every operation. -/
theorem step_flush (hflush : e.flushPulse = true) :
    (u.step e).mdv.sta = .zeroTh ∧ (u.step e).mdv.flushedR = true := by
  have hf : (e.ports u).flushPulse = true := hflush
  constructor
  · simp only [Unit.step, Muldiv.step, staNxt, state0thExitEna, stateExecExitEna, stateExecNxt,
      stateRemdChckExitEna, stateRemdChckNxt, stateQuotCorrExitEna, stateQuotCorrNxt,
      stateRemdCorrExitEna, stateRemdCorrNxt, hf]
    cases u.mdv.sta <;> simp
  · simp [Unit.step, Muldiv.step, flushedSet, hf]

theorem step_flushedR (hflush : e.flushPulse = false) :
    (u.step e).mdv.flushedR = (u.mdv.flushedR && !(u.oValid e && e.oReady)) := by
  have hf : (e.ports u).flushPulse = false := hflush
  have hh : oHsked (e.ports u) u.mdv (e.res u) = (u.oValid e && e.oReady) := rfl
  simp only [Unit.step, Muldiv.step, flushedSet, flushedClr, hf, hh]
  cases u.oValid e && e.oReady <;> cases u.mdv.flushedR <;> rfl

/-- In state `0TH` the unit changes the buffers only for an operation that starts. -/
theorem step_rest (hsta : u.mdv.sta = .zeroTh) (hno : iValidNb2b (e.ports u) u.mdv = false) :
    (u.step e).mdv.sta = .zeroTh ∧
      (e.muldivReqAlu = true →
        (u.step e).sbf = u.sbf ∧ (u.step e).mdv.partPrdtSft1R = u.mdv.partPrdtSft1R) := by
  have hexit : state0thExitEna (e.ports u) u.mdv = false := by simp [state0thExitEna, hno]
  have hnxt : staNxt (e.ports u) u.mdv (e.res u) = .zeroTh := by
    simp [staNxt, hexit, stateExecExitEna, stateRemdChckExitEna, stateQuotCorrExitEna,
      stateRemdCorrExitEna, hsta]
  have hset : execCntSet (e.ports u) u.mdv (e.res u) = false := by
    simp [execCntSet, stateExecEnterEna, hnxt]
  have hinc : execCntInc (e.ports u) u.mdv = false := by simp [execCntInc, hsta]
  have hprdt : partPrdtHiEna (e.ports u) u.mdv (e.res u) = false := by
    simp [partPrdtHiEna, mulExeCntSet, mulExeCntInc, hset, hinc, stateExecExitEna, hsta]
  refine ⟨hnxt, fun hreq => ⟨?_, ?_⟩⟩
  · simp [Unit.step, AluDpath.Sbf.step, hreq, sbfWr, hprdt, partPrdtLoEna, partRemdEna,
      partQuotEna, divExeCntSet, divExeCntInc, hset, hinc, stateExecExitEna, stateRemdCorrExitEna,
      stateQuotCorrExitEna, hsta]
  · simp [Unit.step, Muldiv.step, partPrdtLoEna, hprdt]

theorem Holds.congr {op : MulDivOp} {a b : BitVec 32} {v : Unit} (h : Holds op a b u)
    (hsbf : v.sbf = u.sbf) (hsft : v.mdv.partPrdtSft1R = u.mdv.partPrdtSft1R) :
    Holds op a b v := by
  refine ⟨?_, ?_, ?_⟩
  · rw [hsbf, hsft]
    exact h.prod
  · rw [hsbf]
    exact h.remd
  · rw [hsbf]
    exact h.quot

end

/-! ## The second instruction of a pair -/

section
variable {p q op : MulDivOp} {a b : BitVec 32} {e : Env} {u : Unit}

/-- A special case is answered without the buffers. -/
theorem Holds.of_special (hdiv : op.isDiv = true) (hs : IsSpecial op a b) : Holds op a b u where
  prod hm := absurd (hm.symm.trans hdiv) Bool.false_ne_true
  remd _ hno := absurd hs hno
  quot _ hno := absurd hs hno

theorem Holds.fuse (hpq : p.fuses q = true) (h : Holds p a b u) : Holds q a b u := by
  have hlow : q.isDiv = false → BitVec.ofInt 32 (product p a b) = BitVec.ofInt 32 (product q a b) := by
    intro hmul
    have hval : ∀ s s' x, opVal s x % 2 ^ 32 = opVal s' x % 2 ^ 32 := by
      intro s s' x
      have hx : ∀ t, opVal t x % 2 ^ 32 = (x.toNat : ℤ) % 2 ^ 32 := by
        intro t
        cases t
        · rfl
        · change x.toInt % 2 ^ 32 = _
          rw [BitVec.toInt_eq_toNat_cond]
          split_ifs
          · rfl
          · omega
      rw [hx, hx]
    rw [ofInt_eq_ofInt_iff, product, product, Int.mul_emod, hval _ q.rs1Signed a,
      hval _ q.rs2Signed b, ← Int.mul_emod]
  obtain ⟨hprod, hremd, hquot⟩ := h
  refine ⟨fun hq => ?_, ?_, ?_⟩
  · rw [← hlow hq]
    apply hprod
    revert hpq hq
    cases p <;> cases q <;> decide
  all_goals
    intro hq hspec
    cases p <;> cases q <;> first
      | exact absurd hpq Bool.false_ne_true
      | exact absurd hq Bool.false_ne_true
      | exact hremd rfl hspec
      | exact hquot rfl hspec

/-- The response from the buffers, special cases apart. -/
theorem Holds.wdat (h : Holds op a b u) (hkind : op.isDiv = true ∨ op = .mul)
    (hb2b : back2backSeq (e.ports u) u.mdv = true) (hrs : e.rs1 = a ∧ e.rs2 = b)
    (hbits : e.info.OpBits op) : u.oWbckWdat e = rv32m op a b := by
  have hinfo : (e.ports u).info = e.info := rfl
  have hsbf0 : (e.ports u).sbf0R = u.sbf.sbf0 := rfl
  have hsbf1 : (e.ports u).sbf1R = u.sbf.sbf1 := rfl
  cases hdiv : op.isDiv
  case false =>
    obtain rfl : op = .mul := by
      obtain hd | hd := hkind
      · exact absurd (hdiv.symm.trans hd) Bool.false_ne_true
      · exact hd
    have hspec : specialCases (e.ports u) = false := by
      simp [specialCases, divSpecialCases, Muldiv.iOpDiv, hinfo, hbits.div, hbits.divu, hbits.rem,
        hbits.remu]
    simp [Unit.oWbckWdat, oWbckWdat, resSelB2b, resSelSpl, resSelDiv, resSelMul, hb2b, hspec,
      back2backRes, hinfo, hbits.mul, hbits.rem, hbits.remu, hbits.div, hbits.divu,
      back2backMulRes, hsbf1, h.prod hdiv, rv32m]
  case true =>
    by_cases hs : IsSpecial op a b
    · exact wdat_special hrs hbits hdiv hs
    · have hspec : specialCases (e.ports u) = false := by
        rw [specialCases_eq hrs hbits hdiv, decide_eq_false hs]
      have hwd : u.oWbckWdat e = back2backRes (e.ports u) u.mdv := by
        simp [Unit.oWbckWdat, oWbckWdat, resSelB2b, resSelSpl, resSelDiv, resSelMul, hb2b, hspec]
      rw [hwd, back2backRes, hinfo, hbits.mul, hbits.rem, hbits.remu, hbits.div, hbits.divu,
        back2backMulRem, back2backMulDiv, hsbf0, hsbf1, h.remd hdiv hs, h.quot hdiv hs]
      cases op <;> first
        | exact absurd hdiv Bool.false_ne_true
        | simp [rv32m]

end

/-! ## The end of an operation -/

section
variable {op : MulDivOp} {a b : BitVec 32} {e : Env} {u : Unit}

/-- The shift of the last cycle moves the low half of the product down by one. -/
theorem MulCycle.holds (h : MulCycle op a b e u) (inv : MulInv op a b 16 u)
    (hready : e.oReady = true) :
    (u.step e).mdv.sta = .zeroTh ∧ Holds op a b (u.step e) := by
  obtain ⟨hsta, hsbf1, hsft1⟩ := h.step_last inv.sta inv.cnt hready
  have hcyc : cycle0th u.mdv = false := by simp [cycle0th, inv.sta]
  have hold : (e.ports u).sbf1R = u.sbf.sbf1 := rfl
  refine ⟨hsta, fun _ => ?_, fun hd => ?_, fun hd => ?_⟩
  · rw [hsbf1, hsft1, ← inv.low]
    simp only [partPrdtLoNxt, partPrdtSft1Nxt, hcyc, hold, Bool.false_eq_true, if_false]
    rw [BitVec.extractLsb'_append_eq_of_add_le (by omega), BitVec.extractLsb'_eq_self,
      ← extractLsb'_one]
    exact BitVec.extractLsb'_append_extractLsb'_eq_extractLsb' (by omega)
  · exact absurd (h.isMul.symm.trans hd) Bool.false_ne_true
  · exact absurd (h.isMul.symm.trans hd) Bool.false_ne_true

theorem Holds.of_results {q r : ℤ} (hdiv : op.isDiv = true) (hs : ¬IsSpecial op a b)
    (hq : q = (opVal op.rs1Signed a).tdiv (opVal op.rs2Signed b))
    (hr : r = (opVal op.rs1Signed a).tmod (opVal op.rs2Signed b))
    (hsbf0 : u.sbf.sbf0 = BitVec.ofInt 33 r) (hsbf1 : u.sbf.sbf1 = BitVec.ofInt 33 q) :
    Holds op a b u := by
  refine ⟨fun hm => ?_, fun _ _ => ?_, fun _ _ => ?_⟩
  · exact absurd (hm.symm.trans hdiv) Bool.false_ne_true
  · rw [hsbf0, ofInt_extract (by omega), remainder_of_not_special hs, hr, pow_zero, Int.ediv_one]
  · rw [hsbf1, ofInt_extract (by omega), quotient_of_not_special hs, hq, pow_zero, Int.ediv_one]

/-- The remainder check passes. -/
theorem DivCycle.holds_chck (h : DivCycle op a b e u) (hs : ¬IsSpecial op a b)
    (inv : ChckInv op a b .remdChck u)
    (hcor : divNeedCorrct (e.ports u) (e.res u) = false) (hready : e.oReady = true) :
    (u.step e).mdv.sta = .zeroTh ∧ Holds op a b (u.step e) := by
  have hb : b ≠ 0#32 := fun hb => hs (.inl hb)
  obtain ⟨hsta, hsbf⟩ := h.step_chck_last inv.sta hcor hready
  rw [h.divNeedCorrct_eq hb inv] at hcor
  obtain ⟨hq, hr⟩ := pdiv_eq hs (of_decide_eq_false hcor)
  refine ⟨hsta, .of_results h.isDiv hs hq hr ?_ ?_⟩
  · rw [hsbf, inv.remd]
  · rw [hsbf, inv.quot]

/-- The remainder is corrected after the quotient. -/
theorem DivCycle.holds_corr (h : DivCycle op a b e u) (hs : ¬IsSpecial op a b)
    (inv : CorrInv op a b u)
    (hcor : PartDiv.NeedCorrct (opVal op.rs2Signed b) (opVal op.rs1Signed a)
      (pdiv op a b 32).remd) (hready : e.oReady = true) :
    (u.step e).mdv.sta = .zeroTh ∧ Holds op a b (u.step e) := by
  have hb : b ≠ 0#32 := fun hb => hs (.inl hb)
  obtain ⟨hsta, hsbf⟩ := h.step_remd_corr_last inv.sta hready
  obtain ⟨hq, hr⟩ := pdiv_correct_eq hs hcor
  refine ⟨hsta, .of_results h.isDiv hs hq hr ?_ ?_⟩
  · rw [hsbf]
    exact h.corr_res hb inv
  · rw [hsbf]
    exact inv.quot

end

/-! ## Whole operations -/

/-- The operation `op` of `a` and `b` has been started. -/
inductive Busy (op : MulDivOp) (a b : BitVec 32) (u : Unit) : Prop
  | mul {k : ℕ} (hmul : op.isDiv = false) (hk1 : 1 ≤ k) (hk : k ≤ 16) (inv : MulInv op a b k u)
  | exec {k : ℕ} (hdiv : op.isDiv = true) (hs : ¬IsSpecial op a b) (hk : k ≤ 31)
      (inv : ExecInv op a b k u)
  | remdChck (hdiv : op.isDiv = true) (hs : ¬IsSpecial op a b) (inv : ChckInv op a b .remdChck u)
  | quotCorr (hdiv : op.isDiv = true) (hs : ¬IsSpecial op a b) (inv : ChckInv op a b .quotCorr u)
      (hcor : PartDiv.NeedCorrct (opVal op.rs2Signed b) (opVal op.rs1Signed a)
        (pdiv op a b 32).remd)
  | remdCorr (hdiv : op.isDiv = true) (hs : ¬IsSpecial op a b) (inv : CorrInv op a b u)
      (hcor : PartDiv.NeedCorrct (opVal op.rs2Signed b) (opVal op.rs1Signed a)
        (pdiv op a b 32).remd)

section
variable {op : MulDivOp} {a b : BitVec 32} {e : Env} {u : Unit} (h : Cycle op a b e u)
include h

theorem Cycle.div (hdiv : op.isDiv = true) (hs : ¬IsSpecial op a b) : DivCycle op a b e u :=
  ⟨h, hdiv, by rw [specialCases_eq ⟨h.rs1, h.rs2⟩ h.bits hdiv, decide_eq_false hs]⟩

theorem Busy.start (hsta : u.mdv.sta = .zeroTh) (hs : op.isDiv = true → ¬IsSpecial op a b) :
    u.oValid e = false ∧ Busy op a b (u.step e) := by
  cases hdiv : op.isDiv
  case false =>
    have hm : MulCycle op a b e u := ⟨h, hdiv⟩
    exact ⟨hm.oValid_0th hsta, .mul hdiv le_rfl (by omega) (hm.inv_init hsta)⟩
  case true =>
    have hd := h.div hdiv (hs hdiv)
    have hov := hd.oValid_eq
    refine ⟨by simpa [Unit.oValid, hsta] using hov, ?_⟩
    exact .exec hdiv (hs hdiv) (by omega) (hd.exec_init (fun hb => hs hdiv (.inl hb)) hsta)

theorem Busy.step (hbusy : Busy op a b u) :
    if u.oValid e = true ∧ e.oReady = true then
      (u.step e).mdv.sta = .zeroTh ∧ Holds op a b (u.step e)
    else Busy op a b (u.step e) := by
  cases hbusy with
  | @mul k hmul hk1 hk inv =>
    have hm : MulCycle op a b e u := ⟨h, hmul⟩
    have hov : u.oValid e = decide (u.mdv.execCntR = 16#6) := hm.oValid_exec inv.sta
    obtain hlt | rfl : k ≤ 15 ∨ k = 16 := by omega
    · rw [inv.cnt, decide_eq_false (cnt_ne_last hlt)] at hov
      rw [if_neg (by simp [hov])]
      exact .mul hmul (by omega) (by omega) (hm.inv_succ hlt inv)
    · rw [inv.cnt] at hov
      cases hready : e.oReady
      · rw [if_neg (by simp), hm.step_wait inv.sta inv.cnt hready]
        exact .mul hmul hk1 hk inv
      · rw [if_pos ⟨hov, rfl⟩]
        exact hm.holds inv hready
  | @exec k hdiv hs hk inv =>
    have hd := h.div hdiv hs
    have hov := hd.oValid_eq
    rw [if_neg (by simp [Unit.oValid, hov, inv.sta])]
    obtain hlt | rfl : k ≤ 30 ∨ k = 31 := by omega
    · exact .exec hdiv hs (by omega) (hd.exec_succ (fun hb => hs (.inl hb)) hlt inv)
    · exact .remdChck hdiv hs (hd.chck_init inv)
  | remdChck hdiv hs inv =>
    have hd := h.div hdiv hs
    have hov := hd.oValid_eq
    have hneed := hd.divNeedCorrct_eq (fun hb => hs (.inl hb)) inv
    cases hcor : divNeedCorrct (e.ports u) (e.res u)
    · have hval : u.oValid e = true := by simp [Unit.oValid, hov, inv.sta, hcor]
      cases hready : e.oReady
      · rw [if_neg (by simp), hd.step_chck_wait inv.sta hcor hready]
        exact .remdChck hdiv hs inv
      · rw [if_pos ⟨hval, rfl⟩]
        exact hd.holds_chck hs inv hcor hready
    · rw [if_neg (by simp [Unit.oValid, hov, inv.sta, hcor]), hd.step_chck inv.sta hcor]
      rw [hcor] at hneed
      exact .quotCorr hdiv hs ⟨rfl, inv.remd, inv.quot⟩ (of_decide_eq_true hneed.symm)
  | quotCorr hdiv hs inv hcor =>
    have hd := h.div hdiv hs
    have hov := hd.oValid_eq
    rw [if_neg (by simp [Unit.oValid, hov, inv.sta])]
    exact .remdCorr hdiv hs (hd.corr_init (fun hb => hs (.inl hb)) inv) hcor
  | remdCorr hdiv hs inv hcor =>
    have hd := h.div hdiv hs
    have hov := hd.oValid_eq
    have hval : u.oValid e = true := by simp [Unit.oValid, hov, inv.sta]
    cases hready : e.oReady
    · rw [if_neg (by simp), hd.step_remd_corr_wait inv.sta hready]
      exact .remdCorr hdiv hs inv hcor
    · rw [if_pos ⟨hval, rfl⟩]
      exact hd.holds_corr hs inv hcor hready

end
end E203.Muldiv
