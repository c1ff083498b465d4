import E203.Muldiv.DivideStep

/-! # The divider computes the RV32M quotient and remainder

The registers of the unit are followed through one division.  `ExecInv k` is the state with the
counter at `k + 1`: the two buffers and the spare bit hold the partial remainder of
`PartDiv.run` after `k` steps, shifted, above the dividend bits still to come and the quotient
bits found so far.  `ChckInv` is the state of the remainder check, `CorrInv` that of the remainder
correction.
-/

namespace E203.Muldiv
open Lib
set_option autoImplicit false

/-! ## Invariants -/

section
variable (op : MulDivOp) (a b : BitVec 32)

/-- The recurrence run by the hardware. -/
def pdiv (k : ℕ) : PartDiv := PartDiv.run 32 (opVal op.rs2Signed b) (opVal op.rs1Signed a) k

/-- The quotient bits found so far. -/
def pbits (k : ℕ) : ℤ := PartDiv.quotBits 32 (opVal op.rs2Signed b) (opVal op.rs1Signed a) k

/-- The registers in state `EXEC` with the counter at `k + 1`. -/
structure ExecInv (k : ℕ) (u : Unit) : Prop where
  sta : u.mdv.sta = .exec
  cnt : u.mdv.execCntR = BitVec.ofNat 6 (k + 1)
  remd : BitVec.ofBool u.mdv.partRemdSft1R ++ u.sbf.sbf0 =
    BitVec.ofInt 34 (2 * (pdiv op a b k).remd + opVal op.rs1Signed a / 2 ^ (31 - k) % 2)
  quot : u.sbf.sbf1 =
    BitVec.ofInt 33 (opVal op.rs1Signed a * 2 ^ (k + 2) + pbits op a b (k + 1))

/-- The registers in state `REMD_CHCK` and in state `QUOT_CORR`. -/
structure ChckInv (sta : Sta) (u : Unit) : Prop where
  sta : u.mdv.sta = sta
  remd : u.sbf.sbf0 = BitVec.ofInt 33 (pdiv op a b 32).remd
  quot : u.sbf.sbf1 = BitVec.ofInt 33 (pdiv op a b 32).quot

/-- The registers in state `REMD_CORR`: the quotient is already corrected. -/
structure CorrInv (u : Unit) : Prop where
  sta : u.mdv.sta = .remdCorr
  remd : u.sbf.sbf0 = BitVec.ofInt 33 (pdiv op a b 32).remd
  quot : u.sbf.sbf1 =
    BitVec.ofInt 33 (PartDiv.correct (opVal op.rs2Signed b) (pdiv op a b 32)).quot

end

section
variable {op : MulDivOp} {a b : BitVec 32}

theorem opVal_divisor_ne_zero (hb : b ≠ 0#32) : opVal op.rs2Signed b ≠ 0 := fun h =>
  hb ((opVal_eq_zero_iff op.rs2Signed b).mp h)

theorem pdiv_divides (op : MulDivOp) (a : BitVec 32) {b : BitVec 32} (hb : b ≠ 0#32) {k : ℕ} (hk : k ≤ 32) :
    PartDiv.Divides (opVal op.rs2Signed b) (opVal op.rs1Signed a / 2 ^ (32 - k))
      (pdiv op a b k) := by
  have hr := opVal_range op.rs1Signed a
  exact PartDiv.run_divides (opVal_divisor_ne_zero hb) (by omega) (by omega) hk

theorem pdiv_remd_range (op : MulDivOp) (a : BitVec 32) {b : BitVec 32} (hb : b ≠ 0#32) {k : ℕ} (hk : k ≤ 32) :
    -2 ^ 32 ≤ (pdiv op a b k).remd ∧ (pdiv op a b k).remd < 2 ^ 32 := by
  have hdiv := pdiv_divides op a hb hk
  have habs := opVal_abs_lt op.rs2Signed b
  have hlo := hdiv.lower
  have hhi := hdiv.upper
  omega

theorem pbits_succ (k : ℕ) :
    pbits op a b (k + 1) =
      2 * pbits op a b k +
        (PartDiv.digitBit (opVal op.rs2Signed b) (pdiv op a b k).remd).toNat := rfl

/-- The next dividend bit at the top of the low register. -/
theorem low_top_bit {k : ℕ} (hk : k ≤ 30) :
    (opVal op.rs1Signed a * 2 ^ (k + 2) + pbits op a b (k + 1)) % 2 ^ 33 / 2 ^ 32 =
      opVal op.rs1Signed a / 2 ^ (31 - (k + 1)) % 2 := by
  have h0 := PartDiv.quotBits_nonneg 32 (opVal op.rs2Signed b) (opVal op.rs1Signed a) (k + 1)
  have h1 := PartDiv.quotBits_lt 32 (opVal op.rs2Signed b) (opVal op.rs1Signed a) (k + 1)
  have he : 31 - (k + 1) = 32 - (k + 2) := by omega
  rw [he]
  exact shifted_top_bit (w := 32) (j := k + 2) (by omega) h0 h1

end

/-! ## The iterations -/

section
variable {op : MulDivOp} {a b : BitVec 32} {e : Env} {u : Unit} (h : DivCycle op a b e u)
include h

theorem DivCycle.dividendLsft1_eq :
    dividendLsft1 (e.ports u) =
      BitVec.ofInt 67 (opVal op.rs1Signed a * 2 + pbits op a b 0) := by
  have hbit : ((PartDiv.digitBit (opVal op.rs2Signed b)
      (opVal op.rs1Signed a / 2 ^ 32)).toNat : ℤ) % 2 ^ 1 = pbits op a b 0 := by
    unfold pbits PartDiv.quotBits
    cases PartDiv.digitBit (opVal op.rs2Signed b) (opVal op.rs1Signed a / 2 ^ 32) <;> rfl
  unfold dividendLsft1
  rw [h.dividend_eq, h.quot0cycl, ofBool_eq_ofInt, ofInt_append, hbit, pow_one]

/-- The first iteration works on the sign of the dividend. -/
theorem DivCycle.iter_0th (hsta : u.mdv.sta = .zeroTh) :
    Iter op b e u (opVal op.rs1Signed a / 2 ^ 32) (opVal op.rs1Signed a / 2 ^ 32)
      (opVal op.rs1Signed a * 2 + pbits op a b 0) := by
  have hcyc : cycle0th u.mdv = true := by simp [cycle0th, hsta]
  have h0 := PartDiv.quotBits_nonneg 32 (opVal op.rs2Signed b) (opVal op.rs1Signed a) 0
  have h1 := PartDiv.quotBits_lt 32 (opVal op.rs2Signed b) (opVal op.rs1Signed a) 0
  refine ⟨.inl hsta, ?_, ?_, ?_⟩
  · unfold divExeAluOp1
    rw [if_pos hcyc, h.dividendLsft1_eq, ofInt_extract (by omega)]
    congr 1
    unfold pbits
    omega
  · unfold prevQuot
    rw [if_pos hcyc, h.quot0cycl]
  · rw [if_pos hcyc, h.dividendLsft1_eq, ofInt_extract (by omega)]
    congr 1
    omega

theorem DivCycle.exec_init (hb : b ≠ 0#32) (hsta : u.mdv.sta = .zeroTh) :
    ExecInv op a b 0 (u.step e) := by
  obtain ⟨p, hstep⟩ := h.step_0th hsta
  have it := h.iter_0th hsta
  have hrange := pdiv_remd_range op a hb (k := 0) (by omega)
  have hr' : (pdiv op a b 0).remd = opVal op.rs1Signed a / 2 ^ 32 -
      PartDiv.digit (opVal op.rs2Signed b) (opVal op.rs1Signed a / 2 ^ 32) *
        opVal op.rs2Signed b := rfl
  have h0 := PartDiv.quotBits_nonneg 32 (opVal op.rs2Signed b) (opVal op.rs1Signed a) 0
  have h1 := PartDiv.quotBits_lt 32 (opVal op.rs2Signed b) (opVal op.rs1Signed a) 0
  rw [hstep]
  refine ⟨rfl, rfl, ?_, ?_⟩
  · rw [h.partRemd_shift it hr' hrange.1 hrange.2]
    congr 2
    unfold pbits
    omega
  · rw [h.partQuot_shift it hr' hrange.1 hrange.2, pbits_succ]
    exact congrArg (BitVec.ofInt 33) (by ring)

omit h in
theorem iter_exec (e : Env) {k : ℕ} (inv : ExecInv op a b k u) :
    Iter op b e u (2 * (pdiv op a b k).remd + opVal op.rs1Signed a / 2 ^ (31 - k) % 2)
      (pdiv op a b k).remd (opVal op.rs1Signed a * 2 ^ (k + 2) + pbits op a b (k + 1)) := by
  have hcyc : cycle0th u.mdv = false := by simp [cycle0th, inv.sta]
  refine ⟨.inr inv.sta, ?_, ?_, ?_⟩
  · unfold divExeAluOp1
    rw [hcyc]
    exact inv.remd
  · have hsbf : (e.ports u).sbf1R = u.sbf.sbf1 := rfl
    have hparity : (opVal op.rs1Signed a * 2 ^ (k + 2) + pbits op a b (k + 1)) % 2 =
        (PartDiv.digitBit (opVal op.rs2Signed b) (pdiv op a b k).remd).toNat := by
      have heven : opVal op.rs1Signed a * 2 ^ (k + 2) =
          2 * (opVal op.rs1Signed a * 2 ^ (k + 1)) := by ring
      rw [heven, pbits_succ]
      cases PartDiv.digitBit (opVal op.rs2Signed b) (pdiv op a b k).remd
      · rw [Bool.toNat_false]; omega
      · rw [Bool.toNat_true]; omega
    unfold prevQuot
    rw [hcyc, if_neg Bool.false_ne_true, hsbf, inv.quot, ofInt_getLsbD (by omega), pow_zero,
      Int.ediv_one, hparity]
    cases PartDiv.digitBit (opVal op.rs2Signed b) (pdiv op a b k).remd <;> rfl
  · rw [hcyc]
    exact inv.quot

theorem DivCycle.exec_succ (hb : b ≠ 0#32) {k : ℕ} (hk : k ≤ 30) (inv : ExecInv op a b k u) :
    ExecInv op a b (k + 1) (u.step e) := by
  have hcnt : u.mdv.execCntR ≠ 32#6 := by
    rw [inv.cnt]
    intro heq
    have := congrArg BitVec.toNat heq
    simp at this
    omega
  obtain ⟨p, hstep⟩ := h.step_exec inv.sta hcnt
  have it := iter_exec e inv
  have hrange := pdiv_remd_range op a hb (k := k + 1) (by omega)
  have hr' : (pdiv op a b (k + 1)).remd =
      2 * (pdiv op a b k).remd + opVal op.rs1Signed a / 2 ^ (31 - k) % 2 -
        PartDiv.digit (opVal op.rs2Signed b) (pdiv op a b k).remd * opVal op.rs2Signed b := rfl
  rw [hstep]
  refine ⟨rfl, ?_, ?_, ?_⟩
  · rw [inv.cnt]
    apply BitVec.eq_of_toNat_eq
    simp
  · rw [h.partRemd_shift it hr' hrange.1 hrange.2, low_top_bit hk]
  · rw [h.partQuot_shift it hr' hrange.1 hrange.2, pbits_succ (k + 1)]
    exact congrArg (BitVec.ofInt 33) (by ring)

/-- After the last iteration the buffers hold the remainder and the quotient. -/
theorem DivCycle.chck_init (inv : ExecInv op a b 31 u) :
    ChckInv op a b .remdChck (u.step e) := by
  obtain ⟨p, q, hstep⟩ := h.step_exec_last inv.sta inv.cnt
  have it : Iter op b e u _ (pdiv op a b 31).remd
      (opVal op.rs1Signed a * 2 ^ 33 + pbits op a b 32) := iter_exec e inv
  have hr' : (pdiv op a b 32).remd =
      2 * (pdiv op a b 31).remd + opVal op.rs1Signed a / 2 ^ (31 - 31) % 2 -
        PartDiv.digit (opVal op.rs2Signed b) (pdiv op a b 31).remd * opVal op.rs2Signed b := rfl
  have hchk : checkPhase u.mdv = false := by simp [checkPhase, inv.sta]
  have hcor : corrctPhase u.mdv = false := by simp [corrctPhase, inv.sta]
  rw [hstep]
  refine ⟨rfl, ?_, ?_⟩
  · unfold divRemd
    simp only [hchk, hcor, Bool.false_eq_true, if_false]
    rw [h.exePartRemd it hr', ofInt_extract (by omega), ofInt_eq_ofInt_iff]
    omega
  · have hquot : (pdiv op a b 32).quot = 2 * pbits op a b 32 + 1 - 2 ^ 33 :=
      PartDiv.run_quot 32 _ _ 32
    have htrue : BitVec.ofBool true = BitVec.ofInt 1 1 := rfl
    unfold divQuot
    simp only [hchk, hcor, Bool.false_eq_true, if_false]
    rw [h.exePartRemd it hr', ofInt_extract (by omega), htrue, ofInt_append, hquot,
      ofInt_eq_ofInt_iff]
    omega

end

/-! ## The check and the corrections -/

section
variable {op : MulDivOp} {a b : BitVec 32} {e : Env} {u : Unit} (h : DivCycle op a b e u)

theorem remd_sign (hb : b ≠ 0#32) (hremd : u.sbf.sbf0 = BitVec.ofInt 33 (pdiv op a b 32).remd) :
    u.sbf.sbf0.getLsbD 32 = decide ((pdiv op a b 32).remd < 0) := by
  have hrange := pdiv_remd_range op a hb (k := 32) (by omega)
  rw [hremd, ofInt_sign (by omega) (by omega)]

/-- The remainder buffer, sign extended for the adder. -/
theorem remd_op1 (hb : b ≠ 0#32) (hremd : u.sbf.sbf0 = BitVec.ofInt 33 (pdiv op a b 32).remd) :
    BitVec.ofBool (u.sbf.sbf0.getLsbD 32) ++ u.sbf.sbf0 =
      BitVec.ofInt 34 (pdiv op a b 32).remd := by
  have hrange := pdiv_remd_range op a hb (k := 32) (by omega)
  rw [sign_append 32 u.sbf.sbf0, hremd, toInt_ofInt_of_range (by omega) (by omega) (by omega)]

include h

theorem DivCycle.chck_res (hb : b ≠ 0#32) (inv : ChckInv op a b .remdChck u) :
    divRemdChckAluRes (e.res u) =
      BitVec.ofInt 34 ((pdiv op a b 32).remd + opVal op.rs2Signed b) := by
  have hreq : aluReq (e.ports u) u.mdv =
      { op1 := 0#1 ++ divRemdChckAluOp1 (e.ports u), op2 := 0#1 ++ divisor (e.ports u)
        add := true, sub := false } := by
    simp [aluReq, reqAluSel1, reqAluSel2, reqAluSel3, reqAluSel4, reqAluSel5, h.iOpMul, h.iOpDiv,
      inv.sta, divRemdChckAluOp2]
  have hop1 : divRemdChckAluOp1 (e.ports u) = BitVec.ofInt 34 (pdiv op a b 32).remd :=
    remd_op1 hb inv.remd
  have hlow := res_low (e := e) (u := u) h.req (x := (pdiv op a b 32).remd)
    (y := opVal op.rs2Signed b) (c := false) (by rw [hreq]; simp only [hop1])
    (by rw [hreq]; simp only [h.divisor_eq]) (by rw [hreq]; rfl) (by rw [hreq])
  exact hlow

/-- The check finds exactly the remainders that need a correction. -/
theorem DivCycle.divNeedCorrct_eq (hb : b ≠ 0#32) (inv : ChckInv op a b .remdChck u) :
    divNeedCorrct (e.ports u) (e.res u) =
      decide (PartDiv.NeedCorrct (opVal op.rs2Signed b) (opVal op.rs1Signed a)
        (pdiv op a b 32).remd) := by
  have hrange := pdiv_remd_range op a hb (k := 32) (by omega)
  have hdr := opVal_range op.rs2Signed b
  have hsbf : (e.ports u).sbf0R = u.sbf.sbf0 := rfl
  have h0 : remdIs0 (e.ports u) = decide ((pdiv op a b 32).remd = 0) := by
    have hz : (0#33 : BitVec 33) = BitVec.ofInt 33 0 := rfl
    unfold remdIs0
    rw [hsbf, inv.remd, hz, beq_eq_decide, decide_eq_decide, ofInt_eq_ofInt_iff]
    omega
  have hneg : remdIsNegDivs (e.res u) =
      decide ((pdiv op a b 32).remd + opVal op.rs2Signed b = 0) := by
    have hz : (0#34 : BitVec 34) = BitVec.ofInt 34 0 := rfl
    unfold remdIsNegDivs
    rw [h.chck_res hb inv, hz, beq_eq_decide, decide_eq_decide, ofInt_eq_ofInt_iff]
    omega
  have hdivs : remdIsDivs (e.ports u) = decide ((pdiv op a b 32).remd = opVal op.rs2Signed b) := by
    unfold remdIsDivs
    rw [hsbf, inv.remd, h.divisor_eq, ofInt_extract (by omega), beq_eq_decide, decide_eq_decide,
      ofInt_eq_ofInt_iff]
    omega
  unfold divNeedCorrct PartDiv.NeedCorrct
  rw [h.iOpDiv, hsbf, remd_sign hb inv.remd, h.dividend_sign, h0, hneg, hdivs]
  by_cases h1 : (pdiv op a b 32).remd < 0 <;> by_cases h2 : opVal op.rs1Signed a < 0 <;>
    simp [h1, h2, Bool.or_assoc]

/-- The correction subtracts the divisor exactly when the remainder has its sign. -/
theorem DivCycle.remdIncQuotDec_eq (hb : b ≠ 0#32)
    (hremd : u.sbf.sbf0 = BitVec.ofInt 33 (pdiv op a b 32).remd) :
    remdIncQuotDec (e.ports u) =
      !decide ((pdiv op a b 32).remd < 0 ↔ opVal op.rs2Signed b < 0) := by
  have hsbf : (e.ports u).sbf0R = u.sbf.sbf0 := rfl
  unfold remdIncQuotDec
  rw [hsbf, remd_sign hb hremd, h.divisor_sign]
  by_cases h1 : (pdiv op a b 32).remd < 0 <;> by_cases h2 : opVal op.rs2Signed b < 0 <;>
    simp [h1, h2]

theorem DivCycle.corr_init (hb : b ≠ 0#32) (inv : ChckInv op a b .quotCorr u) :
    CorrInv op a b (u.step e) := by
  have hinc := h.remdIncQuotDec_eq hb inv.remd
  have hreq : aluReq (e.ports u) u.mdv =
      { op1 := 0#1 ++ BitVec.ofInt 34 u.sbf.sbf1.toInt, op2 := 0#1 ++ BitVec.ofInt 34 1
        add := !remdIncQuotDec (e.ports u), sub := remdIncQuotDec (e.ports u) } := by
    have hone : (BitVec.ofInt 34 1) = 1#34 := rfl
    have hsbf : (e.ports u).sbf1R = u.sbf.sbf1 := rfl
    rw [← sign_append 32 u.sbf.sbf1, hone]
    simp [aluReq, reqAluSel1, reqAluSel2, reqAluSel3, reqAluSel4, reqAluSel5, h.iOpMul, h.iOpDiv,
      inv.sta, divQuotCorrAluOp1, divQuotCorrAluOp2, divQuotCorrAluAdd, divQuotCorrAluSub, hsbf]
  have hlow := res_low (e := e) (u := u) h.req (x := u.sbf.sbf1.toInt) (y := 1)
    (c := remdIncQuotDec (e.ports u)) (by rw [hreq]) (by rw [hreq]) (by rw [hreq]) (by rw [hreq])
  have hmod : u.sbf.sbf1.toInt % 2 ^ 33 = (pdiv op a b 32).quot % 2 ^ 33 := by
    rw [← ofInt_eq_ofInt_iff, BitVec.ofInt_toInt, inv.quot]
  rw [h.step_quot_corr inv.sta]
  refine ⟨rfl, inv.remd, ?_⟩
  unfold divQuotCorrAluRes PartDiv.correct
  rw [hlow, ofInt_extract (by omega), hinc]
  by_cases hs : (pdiv op a b 32).remd < 0 ↔ opVal op.rs2Signed b < 0
  · simp only [hs, decide_true, Bool.not_true, Bool.false_eq_true, if_false, if_true]
    rw [ofInt_eq_ofInt_iff]
    omega
  · simp only [hs, decide_false, Bool.not_false, if_true, if_false]
    rw [ofInt_eq_ofInt_iff]
    omega

theorem DivCycle.corr_res (hb : b ≠ 0#32) (inv : CorrInv op a b u) :
    (divRemdCorrAluRes (e.res u)).extractLsb' 0 33 =
      BitVec.ofInt 33 (PartDiv.correct (opVal op.rs2Signed b) (pdiv op a b 32)).remd := by
  have hinc := h.remdIncQuotDec_eq hb inv.remd
  have hreq : aluReq (e.ports u) u.mdv =
      { op1 := 0#1 ++ divRemdCorrAluOp1 (e.ports u), op2 := 0#1 ++ divisor (e.ports u)
        add := remdIncQuotDec (e.ports u), sub := !remdIncQuotDec (e.ports u) } := by
    simp [aluReq, reqAluSel1, reqAluSel2, reqAluSel3, reqAluSel4, reqAluSel5, h.iOpMul, h.iOpDiv,
      inv.sta, divRemdCorrAluOp2, divRemdCorrAluAdd, divRemdCorrAluSub]
  have hop1 : divRemdCorrAluOp1 (e.ports u) = BitVec.ofInt 34 (pdiv op a b 32).remd :=
    remd_op1 hb inv.remd
  have hlow := res_low (e := e) (u := u) h.req (x := (pdiv op a b 32).remd)
    (y := opVal op.rs2Signed b) (c := !remdIncQuotDec (e.ports u))
    (by rw [hreq]; simp only [hop1]) (by rw [hreq]; simp only [h.divisor_eq])
    (by rw [hreq, Bool.not_not]) (by rw [hreq])
  unfold divRemdCorrAluRes PartDiv.correct
  rw [hlow, ofInt_extract (by omega), hinc]
  by_cases hs : (pdiv op a b 32).remd < 0 ↔ opVal op.rs2Signed b < 0
  · simp only [hs, decide_true, Bool.not_true, Bool.not_false, if_true]
    rw [ofInt_eq_ofInt_iff]
    omega
  · simp only [hs, decide_false, Bool.not_false, Bool.not_true, Bool.false_eq_true, if_false]
    rw [ofInt_eq_ofInt_iff]
    omega

end

/-! ## The response -/

/-- A zero divisor, or the signed overflow. -/
def IsSpecial (op : MulDivOp) (a b : BitVec 32) : Prop :=
  b = 0#32 ∨ (op.rs1Signed = true ∧ a = 0x80000000#32 ∧ b = BitVec.allOnes 32)

instance (op : MulDivOp) (a b : BitVec 32) : Decidable (IsSpecial op a b) := by
  unfold IsSpecial; infer_instance

section
variable {op : MulDivOp} {a b : BitVec 32} (hs : ¬ IsSpecial op a b)
include hs

theorem quotient_of_not_special :
    quotient op a b = BitVec.ofInt 32 ((opVal op.rs1Signed a).tdiv (opVal op.rs2Signed b)) := by
  obtain ⟨hb, hovf⟩ := not_or.mp hs
  rw [quotient, if_neg hb, if_neg hovf]

theorem remainder_of_not_special :
    remainder op a b = BitVec.ofInt 32 ((opVal op.rs1Signed a).tmod (opVal op.rs2Signed b)) := by
  obtain ⟨hb, hovf⟩ := not_or.mp hs
  rw [remainder, if_neg hb, if_neg hovf]

theorem rv32m_of_not_special (hdiv : op.isDiv = true) :
    rv32m op a b =
      if op.isQuot then BitVec.ofInt 32 ((opVal op.rs1Signed a).tdiv (opVal op.rs2Signed b))
      else BitVec.ofInt 32 ((opVal op.rs1Signed a).tmod (opVal op.rs2Signed b)) := by
  rw [← quotient_of_not_special hs, ← remainder_of_not_special hs]
  cases op <;> first
    | exact absurd hdiv (by decide)
    | rfl

/-- The iteration ends with the quotient and the remainder, up to the correction. -/
theorem pdiv_divides_last : PartDiv.Divides (opVal op.rs2Signed b) (opVal op.rs1Signed a)
    (pdiv op a b 32) := by
  have hb : b ≠ 0#32 := fun hb => hs (.inl hb)
  have hdiv := pdiv_divides op a hb (k := 32) (by omega)
  rwa [Nat.sub_self, pow_zero, Int.ediv_one] at hdiv

theorem pdiv_eq (hcor : ¬ PartDiv.NeedCorrct (opVal op.rs2Signed b) (opVal op.rs1Signed a)
    (pdiv op a b 32).remd) :
    (pdiv op a b 32).quot = (opVal op.rs1Signed a).tdiv (opVal op.rs2Signed b) ∧
      (pdiv op a b 32).remd = (opVal op.rs1Signed a).tmod (opVal op.rs2Signed b) :=
  PartDiv.divides_of_not_needCorrct (opVal_divisor_ne_zero fun hb => hs (.inl hb))
    (pdiv_divides_last hs) hcor

theorem pdiv_correct_eq (hcor : PartDiv.NeedCorrct (opVal op.rs2Signed b) (opVal op.rs1Signed a)
    (pdiv op a b 32).remd) :
    (PartDiv.correct (opVal op.rs2Signed b) (pdiv op a b 32)).quot =
        (opVal op.rs1Signed a).tdiv (opVal op.rs2Signed b) ∧
      (PartDiv.correct (opVal op.rs2Signed b) (pdiv op a b 32)).remd =
        (opVal op.rs1Signed a).tmod (opVal op.rs2Signed b) :=
  PartDiv.divides_of_correct (opVal_divisor_ne_zero fun hb => hs (.inl hb))
    (pdiv_divides_last hs) hcor

end

section
variable {op : MulDivOp} {a b : BitVec 32} {e : Env} {u : Unit}

theorem DivCycle.wdat_eq (h : DivCycle op a b e u) :
    u.oWbckWdat e =
      if op.isQuot then (divQuot (e.ports u) u.mdv (e.res u)).extractLsb' 0 32
      else (divRemd (e.ports u) u.mdv (e.res u)).extractLsb' 0 32 := by
  have hquot : ((e.ports u).info.div || (e.ports u).info.divu) = op.isQuot := by
    simp only [Env.ports, h.bits.div, h.bits.divu]
    cases op <;> rfl
  simp [Unit.oWbckWdat, Muldiv.oWbckWdat, resSelB2b, resSelSpl, resSelDiv, resSelMul, h.back2back,
    h.notSpecial, h.iOpDiv, h.iOpMul, divRes, hquot]

/-- The response of the remainder check, when no correction is needed. -/
theorem DivCycle.wdat_chck (h : DivCycle op a b e u) (hs : ¬ IsSpecial op a b)
    (inv : ChckInv op a b .remdChck u)
    (hcor : divNeedCorrct (e.ports u) (e.res u) = false) : u.oWbckWdat e = rv32m op a b := by
  have hb : b ≠ 0#32 := fun hb => hs (.inl hb)
  have hchk : checkPhase u.mdv = true := by simp [checkPhase, inv.sta]
  rw [h.divNeedCorrct_eq hb inv] at hcor
  obtain ⟨hq, hr⟩ := pdiv_eq hs (of_decide_eq_false hcor)
  rw [h.wdat_eq, rv32m_of_not_special hs h.isDiv, ← hq, ← hr]
  have h0 : (e.ports u).sbf0R = u.sbf.sbf0 := rfl
  have h1 : (e.ports u).sbf1R = u.sbf.sbf1 := rfl
  simp only [divQuot, divRemd, hchk, if_true, h0, h1, inv.remd, inv.quot]
  rw [ofInt_extract (by omega), ofInt_extract (by omega), pow_zero, Int.ediv_one, Int.ediv_one]

/-- The response of the remainder correction. -/
theorem DivCycle.wdat_corr (h : DivCycle op a b e u) (hs : ¬ IsSpecial op a b)
    (inv : CorrInv op a b u)
    (hcor : PartDiv.NeedCorrct (opVal op.rs2Signed b) (opVal op.rs1Signed a)
      (pdiv op a b 32).remd) : u.oWbckWdat e = rv32m op a b := by
  have hb : b ≠ 0#32 := fun hb => hs (.inl hb)
  have hchk : checkPhase u.mdv = false := by simp [checkPhase, inv.sta]
  have hph : corrctPhase u.mdv = true := by simp [corrctPhase, inv.sta]
  obtain ⟨hq, hr⟩ := pdiv_correct_eq hs hcor
  rw [h.wdat_eq, rv32m_of_not_special hs h.isDiv, ← hq, ← hr]
  have h1 : (e.ports u).sbf1R = u.sbf.sbf1 := rfl
  simp only [divQuot, divRemd, hchk, hph, Bool.false_eq_true, if_false, if_true, h1, inv.quot,
    h.corr_res hb inv]
  rw [ofInt_extract (by omega), ofInt_extract (by omega), pow_zero, Int.ediv_one, Int.ediv_one]

theorem specialCases_eq (hheld : e.rs1 = a ∧ e.rs2 = b) (hbits : e.info.OpBits op)
    (hdiv : op.isDiv = true) : specialCases (e.ports u) = decide (IsSpecial op a b) := by
  obtain ⟨_, _, _, _, h5, h6, h7, h8⟩ := hbits
  have hrs1 : (e.ports u).rs1 = a := hheld.1
  have hrs2 : (e.ports u).rs2 = b := hheld.2
  have hop : iOpDiv (e.ports u) = true := by
    simp only [Muldiv.iOpDiv, Env.ports, h5, h6, h7, h8]
    cases op <;> first | rfl | exact absurd hdiv (by decide)
  have hsigned : ((e.ports u).info.div || (e.ports u).info.rem) = op.rs1Signed := by
    simp only [Env.ports, h5, h7]
    cases op <;> first | rfl | exact absurd hdiv (by decide)
  have hmin : (a.getLsbD 31 && a.extractLsb' 0 31 == 0#31) = decide (a = 0x80000000#32) := by
    rw [Bool.eq_iff_iff]
    have hlt := a.isLt
    have hbit : a.getLsbD 31 = decide (2 ^ 31 ≤ a.toNat) := by
      rw [← BitVec.msb_eq_getLsbD_last, BitVec.msb_eq_decide]
    rw [hbit, Bool.and_eq_true, decide_eq_true_iff, decide_eq_true_iff, beq_iff_eq,
      ← BitVec.toNat_inj, ← BitVec.toNat_inj, BitVec.extractLsb'_toNat]
    simp
    omega
  unfold specialCases divSpecialCases divBy0 divOvf IsSpecial
  rw [hop, hsigned, hrs1, hrs2, Bool.and_assoc, Bool.and_assoc, hmin]
  by_cases h0 : b = 0#32 <;> by_cases h1 : a = 0x80000000#32 <;>
    by_cases h2 : b = BitVec.allOnes 32 <;> simp only [beq_eq_decide, h0, h1, h2] <;> simp

theorem wdat_special (hheld : e.rs1 = a ∧ e.rs2 = b) (hbits : e.info.OpBits op)
    (hdiv : op.isDiv = true) (hs : IsSpecial op a b) : u.oWbckWdat e = rv32m op a b := by
  have hspec : specialCases (e.ports u) = true := by
    rw [specialCases_eq hheld hbits hdiv, decide_eq_true hs]
  obtain ⟨_, _, _, _, h5, h6, _, _⟩ := hbits
  have hrs2 : (e.ports u).rs2 = b := hheld.2
  have hquot : ((e.ports u).info.div || (e.ports u).info.divu) = op.isQuot := by
    simp only [Env.ports, h5, h6]
    cases op <;> rfl
  have hlow : (dividend (e.ports u)).extractLsb' 0 32 = a := by
    have hrs1 : (e.ports u).rs1 = a := hheld.1
    unfold dividend
    rw [hrs1, BitVec.extractLsb'_append_eq_of_add_le (by omega),
      BitVec.extractLsb'_append_eq_of_add_le (by omega), BitVec.extractLsb'_eq_self]
  have hwd : u.oWbckWdat e =
      if b = 0#32 then (if op.isQuot then BitVec.allOnes 32 else a)
      else (if op.isQuot then 0x80000000#32 else 0#32) := by
    simp [Unit.oWbckWdat, Muldiv.oWbckWdat, resSelB2b, resSelSpl, resSelDiv, resSelMul, hspec,
      divSpecialRes, divBy0, divBy0Res, divOvfRes, hquot, hrs2, hlow]
  rw [hwd]
  rcases hs with hb | ⟨hsg, ha, hb⟩
  · cases op <;> first
      | exact absurd hdiv (by decide)
      | simp [rv32m, quotient, remainder, hb, MulDivOp.isQuot]
  · cases op <;> first
      | exact absurd hdiv (by decide)
      | exact absurd hsg (by decide)
      | simp [rv32m, quotient, remainder, ha, hb, MulDivOp.isQuot, MulDivOp.rs1Signed]

end

/-! ## Whole divisions -/

/-- The state of the divider in cycle `t` of an operation. -/
def divideSta (t : ℕ) : Sta :=
  if t = 0 then .zeroTh
  else if t ≤ 32 then .exec
  else if t = 33 then .remdChck
  else if t = 34 then .quotCorr
  else .remdCorr

section
variable {op : MulDivOp} {a b : BitVec 32} {env : ℕ → Env} {u : Unit}

/-- Until the response is taken every cycle of a division that is no special case is computed. -/
theorem Started.divCycle (hs : Started op a b env u) (hdiv : op.isDiv = true)
    (hspec : ¬ IsSpecial op a b) {t : ℕ} (ht : Pending env u t) :
    DivCycle op a b (env t) (unitAt env u t) := by
  have hheld := hs.held t ht
  have hsc := specialCases_eq (u := unitAt env u t) ⟨hheld.rs1, hheld.rs2⟩ hheld.op.bits hdiv
  exact ⟨hs.cycle ht, hdiv, by rw [hsc, decide_eq_false hspec]⟩

/-- The run through state `EXEC`. -/
theorem Started.exec_run (hs : Started op a b env u) (hdiv : op.isDiv = true)
    (hspec : ¬ IsSpecial op a b) {k : ℕ} (hk : k ≤ 31) :
    Pending env u (k + 1) ∧ ExecInv op a b k (unitAt env u (k + 1)) := by
  have hb : b ≠ 0#32 := fun hb => hspec (.inl hb)
  induction k with
  | zero =>
    have h := hs.divCycle hdiv hspec pending_zero
    have hov : (unitAt env u 0).oValid (env 0) = false := by
      have := h.oValid_eq
      simpa [Unit.oValid, unitAt, hs.sta] using this
    exact ⟨pending_zero.succ (by simp [hov]), h.exec_init hb hs.sta⟩
  | succ k ih =>
    obtain ⟨hp, inv⟩ := ih (by omega)
    have h := hs.divCycle hdiv hspec hp
    have hov : (unitAt env u (k + 1)).oValid (env (k + 1)) = false := by
      have := h.oValid_eq
      simpa [Unit.oValid, inv.sta] using this
    exact ⟨hp.succ (by simp [hov]), h.exec_succ hb (by omega) inv⟩

/-- The remainder check is reached in cycle 33. -/
theorem Started.chck_run (hs : Started op a b env u) (hdiv : op.isDiv = true)
    (hspec : ¬ IsSpecial op a b) :
    Pending env u 33 ∧ ChckInv op a b .remdChck (unitAt env u 33) := by
  obtain ⟨hp, inv⟩ := hs.exec_run hdiv hspec (k := 31) (by omega)
  have h := hs.divCycle hdiv hspec hp
  have hov : (unitAt env u 32).oValid (env 32) = false := by
    have := h.oValid_eq
    simpa [Unit.oValid, inv.sta] using this
  exact ⟨hp.succ (by simp [hov]), h.chck_init inv⟩

/-- No correction: the response is given in the remainder check and stays. -/
theorem Started.chck_response (hs : Started op a b env u) (hdiv : op.isDiv = true)
    (hspec : ¬ IsSpecial op a b)
    (hcor : ¬ PartDiv.NeedCorrct (opVal op.rs2Signed b) (opVal op.rs1Signed a)
      (pdiv op a b 32).remd) {t : ℕ} (ht : 33 ≤ t) (hp : Pending env u t) :
    (unitAt env u t).oValid (env t) = true ∧
      (unitAt env u t).oWbckWdat (env t) = rv32m op a b := by
  have hb : b ≠ 0#32 := fun hb => hspec (.inl hb)
  obtain ⟨_, inv⟩ := hs.chck_run hdiv hspec
  have hneed : ∀ j, Pending env u j → unitAt env u j = unitAt env u 33 →
      divNeedCorrct ((env j).ports (unitAt env u j)) ((env j).res (unitAt env u j)) = false := by
    intro j hj heq
    rw [(hs.divCycle hdiv hspec hj).divNeedCorrct_eq hb (heq ▸ inv), decide_eq_false hcor]
  have hvalid : ∀ j ≥ 33, Pending env u j → unitAt env u j = unitAt env u 33 →
      (unitAt env u j).oValid (env j) = true := by
    intro j _ hj heq
    have hov := (hs.divCycle hdiv hspec hj).oValid_eq
    rw [hneed j hj heq] at hov
    have hsta : (unitAt env u j).mdv.sta = .remdChck := heq ▸ inv.sta
    simpa [Unit.oValid, hsta] using hov
  have hwait : ∀ j ≥ 33, Pending env u j → unitAt env u j = unitAt env u 33 →
      (env j).oReady = false → (unitAt env u j).step (env j) = unitAt env u j := by
    intro j _ hj heq hready
    have hsta : (unitAt env u j).mdv.sta = .remdChck := heq ▸ inv.sta
    exact (hs.divCycle hdiv hspec hj).step_chck_wait hsta (hneed j hj heq) hready
  have heq := unitAt_eq_of_wait hvalid hwait ht hp
  exact ⟨hvalid t ht hp heq,
    (hs.divCycle hdiv hspec hp).wdat_chck hspec (heq ▸ inv) (hneed t hp heq)⟩

/-- With a correction, the quotient is corrected in cycle 34 and the remainder from cycle 35. -/
theorem Started.corr_run (hs : Started op a b env u) (hdiv : op.isDiv = true)
    (hspec : ¬ IsSpecial op a b)
    (hcor : PartDiv.NeedCorrct (opVal op.rs2Signed b) (opVal op.rs1Signed a)
      (pdiv op a b 32).remd) :
    ((unitAt env u 33).oValid (env 33) = false ∧ Pending env u 34 ∧
      ChckInv op a b .quotCorr (unitAt env u 34)) ∧
      (unitAt env u 34).oValid (env 34) = false ∧ Pending env u 35 ∧
        CorrInv op a b (unitAt env u 35) := by
  have hb : b ≠ 0#32 := fun hb => hspec (.inl hb)
  obtain ⟨hp33, inv33⟩ := hs.chck_run hdiv hspec
  have h33 := hs.divCycle hdiv hspec hp33
  have hneed : divNeedCorrct ((env 33).ports (unitAt env u 33)) ((env 33).res (unitAt env u 33)) =
      true := by
    rw [h33.divNeedCorrct_eq hb inv33, decide_eq_true hcor]
  have hov33 : (unitAt env u 33).oValid (env 33) = false := by
    have hov := h33.oValid_eq
    simpa [Unit.oValid, inv33.sta, hneed] using hov
  have hp34 : Pending env u 34 := hp33.succ (by simp [hov33])
  have inv34 : ChckInv op a b .quotCorr (unitAt env u 34) := by
    rw [unitAt_succ, h33.step_chck inv33.sta hneed]
    exact ⟨rfl, inv33.remd, inv33.quot⟩
  have h34 := hs.divCycle hdiv hspec hp34
  have hov34 : (unitAt env u 34).oValid (env 34) = false := by
    have hov := h34.oValid_eq
    simpa [Unit.oValid, inv34.sta] using hov
  exact ⟨⟨hov33, hp34, inv34⟩, hov34, hp34.succ (by simp [hov34]), h34.corr_init hb inv34⟩

theorem Started.corr_response (hs : Started op a b env u) (hdiv : op.isDiv = true)
    (hspec : ¬ IsSpecial op a b)
    (hcor : PartDiv.NeedCorrct (opVal op.rs2Signed b) (opVal op.rs1Signed a)
      (pdiv op a b 32).remd) {t : ℕ} (ht : 35 ≤ t) (hp : Pending env u t) :
    (unitAt env u t).oValid (env t) = true ∧
      (unitAt env u t).oWbckWdat (env t) = rv32m op a b := by
  obtain ⟨_, _, _, inv⟩ := hs.corr_run hdiv hspec hcor
  have hvalid : ∀ j ≥ 35, Pending env u j → unitAt env u j = unitAt env u 35 →
      (unitAt env u j).oValid (env j) = true := by
    intro j _ hj heq
    have hov := (hs.divCycle hdiv hspec hj).oValid_eq
    have hsta : (unitAt env u j).mdv.sta = .remdCorr := heq ▸ inv.sta
    simpa [Unit.oValid, hsta] using hov
  have hwait : ∀ j ≥ 35, Pending env u j → unitAt env u j = unitAt env u 35 →
      (env j).oReady = false → (unitAt env u j).step (env j) = unitAt env u j := by
    intro j _ hj heq hready
    have hsta : (unitAt env u j).mdv.sta = .remdCorr := heq ▸ inv.sta
    exact (hs.divCycle hdiv hspec hj).step_remd_corr_wait hsta hready
  have heq := unitAt_eq_of_wait hvalid hwait ht hp
  exact ⟨hvalid t ht hp heq, (hs.divCycle hdiv hspec hp).wdat_corr hspec (heq ▸ inv) hcor⟩

/-- A special case is answered from the first cycle on. -/
theorem Started.special_response (hs : Started op a b env u) (hdiv : op.isDiv = true)
    (hspec : IsSpecial op a b) {t : ℕ} (hp : Pending env u t) :
    (unitAt env u t).oValid (env t) = true ∧
      (unitAt env u t).oWbckWdat (env t) = rv32m op a b := by
  have hheld := hs.held t hp
  have hsc := specialCases_eq (u := unitAt env u t) ⟨hheld.rs1, hheld.rs2⟩ hheld.op.bits hdiv
  rw [decide_eq_true hspec] at hsc
  have hvalid : ((env t).ports (unitAt env u t)).iValid = true := hheld.valid
  exact ⟨by simp [Unit.oValid, oValid, wbckCondi, hsc, hvalid],
    wdat_special ⟨hheld.rs1, hheld.rs2⟩ hheld.op.bits hdiv hspec⟩

/-- The states before the response, and no response before it. -/
theorem Started.sta_run (hs : Started op a b env u) (hdiv : op.isDiv = true)
    (hspec : ¬ IsSpecial op a b) {t : ℕ} (ht : t ≤ 33) :
    Pending env u t ∧ (unitAt env u t).mdv.sta = divideSta t := by
  rcases Nat.eq_zero_or_pos t with h0 | hpos
  · subst h0
    exact ⟨pending_zero, hs.sta⟩
  · rcases Nat.lt_or_ge t 33 with hlt | hge
    · obtain ⟨k, rfl⟩ : ∃ k, t = k + 1 := ⟨t - 1, by omega⟩
      obtain ⟨hp, inv⟩ := hs.exec_run hdiv hspec (k := k) (by omega)
      refine ⟨hp, ?_⟩
      rw [inv.sta, divideSta, if_neg (by omega), if_pos (by omega)]
    · have ht33 : t = 33 := by omega
      subst ht33
      obtain ⟨hp, inv⟩ := hs.chck_run hdiv hspec
      exact ⟨hp, inv.sta⟩

theorem Started.not_valid (hs : Started op a b env u) (hdiv : op.isDiv = true)
    (hspec : ¬ IsSpecial op a b) {t : ℕ} (ht : t < 33) :
    (unitAt env u t).oValid (env t) = false := by
  obtain ⟨hp, hsta⟩ := hs.sta_run hdiv hspec (t := t) (by omega)
  have hov := (hs.divCycle hdiv hspec hp).oValid_eq
  have hne : (unitAt env u t).mdv.sta = .zeroTh ∨ (unitAt env u t).mdv.sta = .exec := by
    rw [hsta, divideSta]
    split
    · exact .inl rfl
    · exact .inr (if_pos (by omega))
  rcases hne with h0 | h0 <;> simpa [Unit.oValid, h0] using hov

/-- **Divide correctness.**  A division started in state `0TH` goes through the non-restoring
iteration, the remainder check and, when needed, the two corrections, gives no response before
cycle `T`, and from then on, until the response is taken, a valid response with the RV32M result. -/
theorem divide_correct (hs : Started op a b env u) (hdiv : op.isDiv = true) :
    ∃ T ≤ 35, (∀ t ≤ T, Pending env u t ∧ (unitAt env u t).mdv.sta = divideSta t) ∧
      (∀ t < T, (unitAt env u t).oValid (env t) = false) ∧
      ∀ t ≥ T, Pending env u t →
        (unitAt env u t).oValid (env t) = true ∧
          (unitAt env u t).oWbckWdat (env t) = rv32m op a b := by
  by_cases hspec : IsSpecial op a b
  · refine ⟨0, by omega, ?_, by omega, fun t _ hp => hs.special_response hdiv hspec hp⟩
    intro t ht
    have ht0 : t = 0 := by omega
    subst ht0
    exact ⟨pending_zero, hs.sta⟩
  · by_cases hcor : PartDiv.NeedCorrct (opVal op.rs2Signed b) (opVal op.rs1Signed a)
        (pdiv op a b 32).remd
    · obtain ⟨⟨hv33, hp34, inv34⟩, hv34, hp35, inv35⟩ := hs.corr_run hdiv hspec hcor
      refine ⟨35, le_refl _, ?_, ?_, fun t ht hp => hs.corr_response hdiv hspec hcor ht hp⟩
      · intro t ht
        have hcases : t ≤ 33 ∨ t = 34 ∨ t = 35 := by omega
        rcases hcases with h33 | rfl | rfl
        · exact hs.sta_run hdiv hspec h33
        · exact ⟨hp34, inv34.sta⟩
        · exact ⟨hp35, inv35.sta⟩
      · intro t ht
        have hcases : t < 33 ∨ t = 33 ∨ t = 34 := by omega
        rcases hcases with h33 | rfl | rfl
        · exact hs.not_valid hdiv hspec h33
        · exact hv33
        · exact hv34
    · exact ⟨33, by omega, fun t ht => hs.sta_run hdiv hspec ht,
        fun t ht => hs.not_valid hdiv hspec ht,
        fun t ht hp => hs.chck_response hdiv hspec hcor ht hp⟩

/-- `DIV` of -20 by 6, with the buffers and the counter full of ones at the start. -/
theorem divide_correct_neg_twenty :
    ∃ T ≤ 35, ∀ t ≥ T,
      (unitAt (fun _ => holdEnv .div (BitVec.ofInt 32 (-20)) 6#32)
        ⟨⟨false, .zeroTh, 63#6, true, true⟩, ⟨BitVec.allOnes 33, BitVec.allOnes 33⟩⟩ t).oWbckWdat
          (holdEnv .div (BitVec.ofInt 32 (-20)) 6#32) = BitVec.ofInt 32 (-3) := by
  obtain ⟨T, hT, _, _, hres⟩ :=
    divide_correct (u := ⟨⟨false, .zeroTh, 63#6, true, true⟩,
      ⟨BitVec.allOnes 33, BitVec.allOnes 33⟩⟩)
      (started_holdEnv .div (BitVec.ofInt 32 (-20)) 6#32 rfl) rfl
  refine ⟨T, hT, fun t ht => ?_⟩
  rw [(hres t ht (pending_holdEnv _ _ _ _ _)).2]
  decide

end

end E203.Muldiv
