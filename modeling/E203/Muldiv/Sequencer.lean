import E203.Muldiv.Retain

/-! # The sequencer ends and recovers

The counter is compared for equality with its last value, which depends on the kind of the operation.
It is not passed because the instruction stays until its response is taken or the pipe is flushed, and
both lead back to state `0TH`.

* `Disciplined`: what the pipe promises about the instruction it presents.
* `Recorded`: where the unit is; `Disciplined.recorded`: in every cycle of a run.
* `latency op a b`: the cycles to the response; `sequencer`: over a run.
-/

namespace E203.Muldiv
open Lib
set_option autoImplicit false

/-! ## The state register -/

/-- `MULDIV_STATE_0TH` and the others. -/
def Sta.code : Sta → BitVec 3
  | .zeroTh => 0#3
  | .exec => 1#3
  | .remdChck => 2#3
  | .quotCorr => 3#3
  | .remdCorr => 4#3

section
variable (i : In) (s : State) (res : BitVec 35)

def muldivStateEna : Bool :=
  state0thExitEna i s || stateExecExitEna i s res || stateRemdChckExitEna i s res ||
    stateQuotCorrExitEna i s || stateRemdCorrExitEna i s res

/-- The OR of the codes whose exit is enabled. -/
def muldivStateNxt : BitVec 3 :=
  gate (state0thExitEna i s) Sta.exec.code ||| gate (stateExecExitEna i s res) (stateExecNxt i).code |||
    gate (stateRemdChckExitEna i s res) (stateRemdChckNxt i res).code |||
    gate (stateQuotCorrExitEna i s) (stateQuotCorrNxt i).code |||
    gate (stateRemdCorrExitEna i s res) (stateRemdCorrNxt i).code

/-- The register is enabled for one state at a time, and takes its code. -/
theorem code_step : (Muldiv.step i s res).sta.code =
    dfflr (muldivStateEna i s res) (muldivStateNxt i s res) s.sta.code := by
  have h0 : s.sta ≠ .zeroTh → state0thExitEna i s = false := fun h => by simp [state0thExitEna, h]
  have h1 : s.sta ≠ .exec → stateExecExitEna i s res = false := fun h => by
    simp [stateExecExitEna, h]
  have h2 : s.sta ≠ .remdChck → stateRemdChckExitEna i s res = false := fun h => by
    simp [stateRemdChckExitEna, h]
  have h3 : s.sta ≠ .quotCorr → stateQuotCorrExitEna i s = false := fun h => by
    simp [stateQuotCorrExitEna, h]
  have h4 : s.sta ≠ .remdCorr → stateRemdCorrExitEna i s res = false := fun h => by
    simp [stateRemdCorrExitEna, h]
  change (staNxt i s res).code = _
  rw [staNxt, muldivStateEna, muldivStateNxt]
  cases hsta : s.sta with
  | zeroTh =>
    rw [h1 (by simp [hsta]), h2 (by simp [hsta]), h3 (by simp [hsta]), h4 (by simp [hsta])]
    cases state0thExitEna i s <;> simp
  | exec =>
    rw [h0 (by simp [hsta]), h2 (by simp [hsta]), h3 (by simp [hsta]), h4 (by simp [hsta])]
    cases stateExecExitEna i s res <;> simp
  | remdChck =>
    rw [h0 (by simp [hsta]), h1 (by simp [hsta]), h3 (by simp [hsta]), h4 (by simp [hsta])]
    cases stateRemdChckExitEna i s res <;> simp
  | quotCorr =>
    rw [h0 (by simp [hsta]), h1 (by simp [hsta]), h2 (by simp [hsta]), h4 (by simp [hsta])]
    cases stateQuotCorrExitEna i s <;> simp
  | remdCorr =>
    rw [h0 (by simp [hsta]), h1 (by simp [hsta]), h2 (by simp [hsta]), h3 (by simp [hsta])]
    cases stateRemdCorrExitEna i s res <;> simp

end

/-- `muldiv_state_r` in cycle `t`, from the value at reset. -/
def muldivStateR (env : ℕ → Env) (u : Unit) : ℕ → BitVec 3
  | 0 => 0#3
  | t + 1 =>
    let v := unitAt env u t
    dfflr (muldivStateEna ((env t).ports v) v.mdv ((env t).res v))
      (muldivStateNxt ((env t).ports v) v.mdv ((env t).res v)) (muldivStateR env u t)

theorem muldivStateR_eq {env : ℕ → Env} {u : Unit} (h : u.mdv.sta = .zeroTh) (t : ℕ) :
    muldivStateR env u t = (unitAt env u t).mdv.sta.code := by
  induction t with
  | zero => exact (congrArg Sta.code h).symm
  | succ t ih =>
    rw [muldivStateR, ih]
    exact (code_step _ _ _).symm

/-! ## The counter -/

section
variable {e : Env} {u : Unit}

/-- It is set to 1, stays, or goes up by one in state `EXEC` before the last cycle. -/
theorem execCntR_step :
    (u.step e).mdv.execCntR = 1#6 ∨ (u.step e).mdv.execCntR = u.mdv.execCntR ∨
      u.mdv.sta = .exec ∧ execLastCycle (e.ports u) u.mdv = false ∧
        (u.step e).mdv.execCntR = u.mdv.execCntR + 1#6 := by
  change dfflr (execCntInc (e.ports u) u.mdv || execCntSet (e.ports u) u.mdv (e.res u))
    (execCntNxt (e.ports u) u.mdv (e.res u)) u.mdv.execCntR = _ ∨ dfflr _ _ _ = _ ∨
      _ ∧ _ ∧ dfflr _ _ _ = _
  rw [execCntNxt]
  cases hset : execCntSet (e.ports u) u.mdv (e.res u) with
  | true =>
    rw [Bool.or_true]
    exact .inl rfl
  | false =>
    rw [Bool.or_false]
    cases hinc : execCntInc (e.ports u) u.mdv with
    | false => exact .inr (.inl rfl)
    | true =>
      rw [execCntInc, Bool.and_eq_true, Bool.not_eq_true', Sta.beq_eq, decide_eq_true_iff] at hinc
      exact .inr (.inr ⟨hinc.1, hinc.2, rfl⟩)

end

/-! ## What the pipe promises -/

section
variable {op : MulDivOp} {a b : BitVec 32} {env : ℕ → Env} {u : Unit} {t : ℕ}

/-- The instruction `op` with the operands `a` and `b` is presented. -/
structure Presents (op : MulDivOp) (a b : BitVec 32) (e : Env) : Prop where
  req : e.muldivReqAlu = true
  valid : e.iValid = true
  rs1 : e.rs1 = a
  rs2 : e.rs2 = b
  op : e.info.OpIs op

/-- The response is taken. -/
abbrev Taken (env : ℕ → Env) (u : Unit) (t : ℕ) : Prop :=
  (unitAt env u t).oValid (env t) = true ∧ (env t).oReady = true

/-- The same instruction is presented again. -/
structure Again (e e' : Env) : Prop where
  valid : e'.iValid = true
  rs1 : e'.rs1 = e.rs1
  rs2 : e'.rs2 = e.rs2
  info : e'.info = e.info
  nob2b : e'.mdvNob2b = e.mdvNob2b

/-- A valid instruction is one of the eight and has the datapath, and it is presented until its response
is taken or the pipe is flushed.  Everything else may change from cycle to cycle. -/
structure Disciplined (env : ℕ → Env) (u : Unit) : Prop where
  decoded : ∀ t, (env t).iValid = true → (env t).muldivReqAlu = true ∧ ∃ op, (env t).info.OpIs op
  held : ∀ t, (env t).iValid = true → (env t).flushPulse = false → ¬Taken env u t →
    Again (env t) (env (t + 1))

theorem Disciplined.presents (h : Disciplined env u) (hv : (env t).iValid = true) :
    ∃ op, Presents op (env t).rs1 (env t).rs2 (env t) := by
  obtain ⟨hreq, op, hop⟩ := h.decoded t hv
  exact ⟨op, hreq, hv, rfl, rfl, hop⟩

theorem Presents.cycle {e : Env} (h : Presents op a b e) (hflush : e.flushPulse = false)
    (hb2b : iB2b (e.ports u) u.mdv = false) : Cycle op a b e u :=
  ⟨h.req, h.valid, h.rs1, h.rs2, h.op.bits, hflush, hb2b⟩

theorem Presents.iOpMul {e : Env} (h : Presents op a b e) : iOpMul (e.ports u) = !op.isDiv := by
  have hbits := h.op.bits
  change (e.info.mul || e.info.mulh || e.info.mulhsu || e.info.mulhu) = _
  rw [hbits.mul, hbits.mulh, hbits.mulhsu, hbits.mulhu]
  cases op <;> rfl

theorem Disciplined.again (h : Disciplined env u) (hp : Presents op a b (env t))
    (hflush : (env t).flushPulse = false) (hno : ¬Taken env u t) :
    Presents op a b (env (t + 1)) ∧
      iB2b ((env (t + 1)).ports (unitAt env u (t + 1))) (unitAt env u (t + 1)).mdv =
        iB2b ((env t).ports (unitAt env u t)) (unitAt env u t).mdv := by
  have hsame := h.held t hp.valid hflush hno
  constructor
  · refine ⟨(h.decoded (t + 1) hsame.valid).1, hsame.valid, hsame.rs1.trans hp.rs1,
      hsame.rs2.trans hp.rs2, ?_⟩
    rw [hsame.info]
    exact hp.op
  · change ((env (t + 1)).info.b2b && !(unitAt env u (t + 1)).mdv.flushedR && !(env (t + 1)).mdvNob2b) =
      ((env t).info.b2b && !(unitAt env u t).mdv.flushedR && !(env t).mdvNob2b)
    rw [hsame.info, hsame.nob2b, unitAt_succ, flushedR_step hflush hno]

/-! ## Where the unit is -/

/-- The unit rests in state `0TH`, or the instruction presented is under way. -/
inductive Recorded (e : Env) (u : Unit) : Prop
  | rest (hsta : u.mdv.sta = .zeroTh)
  | busy {op : MulDivOp} {a b : BitVec 32} (hp : Presents op a b e)
      (hb2b : iB2b (e.ports u) u.mdv = false) (hbusy : Busy op a b u)

/-- An instruction that the unit takes up is under way in the next cycle. -/
theorem Disciplined.start (h : Disciplined env u) (hsta : (unitAt env u t).mdv.sta = .zeroTh)
    (hflush : (env t).flushPulse = false)
    (hnb : iValidNb2b ((env t).ports (unitAt env u t)) (unitAt env u t).mdv = true) :
    ¬Taken env u t ∧ Recorded (env (t + 1)) (unitAt env u (t + 1)) := by
  simp only [iValidNb2b, Bool.and_eq_true, Bool.not_eq_true'] at hnb
  obtain ⟨⟨hv, hb2b⟩, hspec⟩ := hnb
  obtain ⟨op, hp⟩ := h.presents hv
  have hcycle := hp.cycle hflush hb2b
  obtain ⟨hov, hbusy⟩ := Busy.start hcycle hsta fun hdiv hs => by
    have hsc := specialCases_eq (u := unitAt env u t) ⟨hp.rs1, hp.rs2⟩ hp.op.bits hdiv
    rw [hspec, decide_eq_true hs] at hsc
    exact Bool.noConfusion hsc
  have hno : ¬Taken env u t := fun htaken => Bool.noConfusion (hov.symm.trans htaken.1)
  obtain ⟨hp', hb2b'⟩ := h.again hp hflush hno
  exact ⟨hno, .busy hp' (hb2b'.trans hb2b) hbusy⟩

theorem Disciplined.recorded_succ (h : Disciplined env u) (hr : Recorded (env t) (unitAt env u t)) :
    Recorded (env (t + 1)) (unitAt env u (t + 1)) := by
  cases hflush : (env t).flushPulse with
  | true => exact .rest (step_flush hflush).1
  | false =>
    cases hr with
    | rest hsta =>
      cases hnb : iValidNb2b ((env t).ports (unitAt env u t)) (unitAt env u t).mdv with
      | false => exact .rest (step_rest hsta hnb).1
      | true => exact (h.start hsta hflush hnb).2
    | busy hp hb2b hbusy =>
      have hnext := Busy.step (hp.cycle hflush hb2b) hbusy
      by_cases htaken : Taken env u t
      · rw [if_pos htaken] at hnext
        exact .rest hnext.1
      · rw [if_neg htaken] at hnext
        obtain ⟨hp', hb2b'⟩ := h.again hp hflush htaken
        exact .busy hp' (hb2b'.trans hb2b) hnext

theorem Disciplined.recorded (h : Disciplined env u) (h0 : u.mdv.sta = .zeroTh) (t : ℕ) :
    Recorded (env t) (unitAt env u t) := by
  induction t with
  | zero => exact .rest h0
  | succ t ih => exact h.recorded_succ ih

/-- A flush, or the response handshake, leads to state `0TH`. -/
theorem Disciplined.recovers (h : Disciplined env u) (h0 : u.mdv.sta = .zeroTh)
    (hend : (env t).flushPulse = true ∨ Taken env u t) : (unitAt env u (t + 1)).mdv.sta = .zeroTh := by
  cases hflush : (env t).flushPulse with
  | true => exact (step_flush hflush).1
  | false =>
    have htaken : Taken env u t := hend.resolve_left fun hf => Bool.noConfusion (hflush.symm.trans hf)
    cases h.recorded h0 t with
    | rest hsta =>
      cases hnb : iValidNb2b ((env t).ports (unitAt env u t)) (unitAt env u t).mdv with
      | false => exact (step_rest hsta hnb).1
      | true => exact absurd htaken (h.start hsta hflush hnb).1
    | busy hp hb2b hbusy =>
      have hnext := Busy.step (hp.cycle hflush hb2b) hbusy
      rw [if_pos htaken] at hnext
      exact hnext.1

/-! ## The bound of the counter -/

/-- While a multiplication is executing. -/
theorem Recorded.cnt_mul {e : Env} (hr : Recorded e u) (hsta : u.mdv.sta = .exec)
    (hmul : Muldiv.iOpMul (e.ports u) = true) : u.mdv.execCntR.toNat ≤ 16 := by
  cases hr with
  | rest h0 => exact absurd (h0.symm.trans hsta) (by decide)
  | @busy op a b hp hb2b hbusy =>
    have hdiv : op.isDiv = false := by
      rw [hp.iOpMul, Bool.not_eq_true'] at hmul
      exact hmul
    cases hbusy with
    | @mul k _ _ hk inv =>
      rw [inv.cnt, BitVec.toNat_ofNat]
      omega
    | exec hd => exact absurd (hd.symm.trans hdiv) (by decide)
    | remdChck hd => exact absurd (hd.symm.trans hdiv) (by decide)
    | quotCorr hd => exact absurd (hd.symm.trans hdiv) (by decide)
    | remdCorr hd => exact absurd (hd.symm.trans hdiv) (by decide)

/-- Before its last value the counter has room to go up. -/
theorem Recorded.cnt_inc {e : Env} (hr : Recorded e u) (hsta : u.mdv.sta = .exec)
    (hlast : execLastCycle (e.ports u) u.mdv = false) : u.mdv.execCntR.toNat < 32 := by
  cases hr with
  | rest h0 => exact absurd (h0.symm.trans hsta) (by decide)
  | @busy op a b hp hb2b hbusy =>
    cases hbusy with
    | @mul k _ _ hk inv =>
      rw [inv.cnt, BitVec.toNat_ofNat]
      omega
    | @exec k hdiv _ hk inv =>
      rw [execLastCycle, hp.iOpMul, hdiv, Bool.not_true, if_neg Bool.false_ne_true, divExecLastCycle,
        cycle32nd, beq_eq_false_iff_ne, inv.cnt] at hlast
      have hne : k ≠ 31 := fun h31 => hlast (by rw [h31])
      rw [inv.cnt, BitVec.toNat_ofNat]
      omega
    | remdChck _ _ inv => exact absurd (inv.sta.symm.trans hsta) (by decide)
    | quotCorr _ _ inv => exact absurd (inv.sta.symm.trans hsta) (by decide)
    | remdCorr _ _ inv => exact absurd (inv.sta.symm.trans hsta) (by decide)

theorem Disciplined.cnt_le (h : Disciplined env u) (h0 : u.mdv = .reset) (t : ℕ) :
    (unitAt env u t).mdv.execCntR.toNat ≤ 32 := by
  have hsta : u.mdv.sta = .zeroTh := by rw [h0]; rfl
  induction t with
  | zero =>
    change u.mdv.execCntR.toNat ≤ 32
    rw [h0]
    exact Nat.zero_le 32
  | succ t ih =>
    rw [unitAt_succ]
    obtain hone | hsame | ⟨hexec, hlast, hinc⟩ := @execCntR_step (env t) (unitAt env u t)
    · rw [hone]
      decide
    · rw [hsame]
      exact ih
    · have hlt := (h.recorded hsta t).cnt_inc hexec hlast
      rw [hinc, BitVec.toNat_add]
      exact Nat.le_trans (Nat.mod_le _ _) hlt

end

/-! ## The response -/

section
variable {op : MulDivOp} {a b : BitVec 32} {env : ℕ → Env} {u : Unit} {t K : ℕ}

/-- The cycles from state `0TH` to the response. -/
def latency (op : MulDivOp) (a b : BitVec 32) : ℕ :=
  if op.isDiv = false then 16
  else if IsSpecial op a b then 0
  else if PartDiv.NeedCorrct (opVal op.rs2Signed b) (opVal op.rs1Signed a) (pdiv op a b 32).remd then 35
  else 33

theorem latency_mul (h : op.isDiv = false) : latency op a b = 16 := if_pos h

theorem latency_le (op : MulDivOp) (a b : BitVec 32) : latency op a b ≤ 35 := by
  unfold latency
  split
  · decide
  · split
    · decide
    · split <;> decide

theorem Started.response (hs : Started op a b env u) :
    (∀ t < latency op a b, (unitAt env u t).oValid (env t) = false) ∧
    ∀ t ≥ latency op a b, Pending env u t → (unitAt env u t).oValid (env t) = true ∧
      (unitAt env u t).oWbckWdat (env t) = rv32m op a b := by
  cases hdiv : op.isDiv with
  | false =>
    rw [latency_mul hdiv]
    exact ⟨fun t ht => hs.mul_not_valid hdiv ht, fun t ht hp => hs.mul_response hdiv ht hp⟩
  | true =>
    have hne : ¬op.isDiv = false := by
      rw [hdiv]
      exact Bool.noConfusion
    rw [latency, if_neg hne]
    by_cases hspec : IsSpecial op a b
    · rw [if_pos hspec]
      exact ⟨fun t ht => absurd ht (Nat.not_lt_zero t), fun t _ hp => hs.special_response hdiv hspec hp⟩
    · rw [if_neg hspec]
      by_cases hcor : PartDiv.NeedCorrct (opVal op.rs2Signed b) (opVal op.rs1Signed a)
          (pdiv op a b 32).remd
      · rw [if_pos hcor]
        refine ⟨fun t ht => ?_, fun t ht hp => hs.corr_response hdiv hspec hcor ht hp⟩
        obtain ⟨⟨h33, -⟩, h34, -⟩ := hs.corr_run hdiv hspec hcor
        obtain hlt | rfl | rfl : t < 33 ∨ t = 33 ∨ t = 34 := by omega
        · exact hs.not_valid hdiv hspec hlt
        · exact h33
        · exact h34
      · rw [if_neg hcor]
        exact ⟨fun t ht => hs.not_valid hdiv hspec ht,
          fun t ht hp => hs.chck_response hdiv hspec hcor ht hp⟩

/-! ### The operation in the middle of a run -/

/-- The run from cycle `t` on, which stands still after `K` cycles. -/
def stretch (env : ℕ → Env) (t K : ℕ) : ℕ → Env := fun k => env (t + min k K)

theorem unitAt_stretch {k : ℕ} (hk : k ≤ K) :
    unitAt (stretch env t K) (unitAt env u t) k = unitAt env u (t + k) := by
  induction k with
  | zero => rfl
  | succ k ih =>
    have hmin : min k K = k := by omega
    rw [unitAt_succ, ih (by omega), stretch, hmin]
    rfl

/-- Without a flush the instruction stays until its response is taken. -/
theorem Disciplined.held_at (h : Disciplined env u) (hp : Presents op a b (env t))
    (hflush : ∀ j ≤ K, (env (t + j)).flushPulse = false) {k : ℕ} (hk : k ≤ K)
    (hpend : Pending (stretch env t K) (unitAt env u t) k) :
    Held op a b (env t).info.b2b (env t).mdvNob2b (env (t + k)) := by
  induction k with
  | zero => exact ⟨hp.req, hp.valid, hp.rs1, hp.rs2, hp.op, rfl, rfl, hflush 0 hk⟩
  | succ k ih =>
    have hheld := ih (by omega) (hpend.mono (Nat.le_succ k))
    have hno : ¬Taken env u (t + k) := by
      have hk' := hpend k (Nat.lt_succ_self k)
      have hmin : min k K = k := by omega
      rw [unitAt_stretch (by omega), stretch, hmin] at hk'
      exact hk'
    have hsame := h.held (t + k) hheld.valid hheld.flush hno
    refine ⟨(h.decoded (t + k + 1) hsame.valid).1, hsame.valid, hsame.rs1.trans hheld.rs1,
      hsame.rs2.trans hheld.rs2, ?_, ?_, hsame.nob2b.trans hheld.nob2b, hflush (k + 1) hk⟩
    · rw [← Nat.add_assoc, hsame.info]
      exact hheld.op
    · rw [← Nat.add_assoc, hsame.info]
      exact hheld.b2b

theorem Disciplined.started (h : Disciplined env u) (hp : Presents op a b (env t))
    (hsta : (unitAt env u t).mdv.sta = .zeroTh)
    (hb2b : iB2b ((env t).ports (unitAt env u t)) (unitAt env u t).mdv = false)
    (hflush : ∀ j ≤ K, (env (t + j)).flushPulse = false) :
    Started op a b (stretch env t K) (unitAt env u t) := by
  have hzero : stretch env t K 0 = env t := by rw [stretch, Nat.zero_min, Nat.add_zero]
  refine ⟨hsta, by rw [hzero]; exact hb2b, fun k hpend => ?_⟩
  rw [hzero, stretch]
  exact h.held_at hp hflush (Nat.min_le_right k K) (hpend.mono (Nat.min_le_left k K))

/-- An operation that starts anywhere in a run has its response after its own number of cycles. -/
theorem Disciplined.response (h : Disciplined env u) (hp : Presents op a b (env t))
    (hsta : (unitAt env u t).mdv.sta = .zeroTh)
    (hb2b : iB2b ((env t).ports (unitAt env u t)) (unitAt env u t).mdv = false)
    (hflush : ∀ j ≤ K, (env (t + j)).flushPulse = false) :
    (K < latency op a b → (unitAt env u (t + K)).oValid (env (t + K)) = false) ∧
    (latency op a b ≤ K →
      (∀ j, latency op a b ≤ j → j < K → (env (t + j)).oReady = false) →
      (unitAt env u (t + K)).oValid (env (t + K)) = true ∧
        (unitAt env u (t + K)).oWbckWdat (env (t + K)) = rv32m op a b) := by
  obtain ⟨hbefore, hafter⟩ := (h.started hp hsta hb2b hflush).response
  have henv : ∀ k ≤ K, stretch env t K k = env (t + k) := fun k hk => by
    rw [stretch, Nat.min_eq_left hk]
  have hunit : ∀ k ≤ K, unitAt (stretch env t K) (unitAt env u t) k = unitAt env u (t + k) :=
    fun k hk => unitAt_stretch hk
  constructor
  · intro hlt
    have hno := hbefore K hlt
    rw [henv K (Nat.le_refl K), hunit K (Nat.le_refl K)] at hno
    exact hno
  · intro hle hready
    have hpend : Pending (stretch env t K) (unitAt env u t) K := by
      rintro j hj ⟨hv, hr⟩
      rw [henv j (Nat.le_of_lt hj)] at hv hr
      obtain hlt | hge := Nat.lt_or_ge j (latency op a b)
      · have hno := hbefore j hlt
        rw [henv j (Nat.le_of_lt hj)] at hno
        exact Bool.noConfusion (hno.symm.trans hv)
      · exact Bool.noConfusion ((hready j hge hj).symm.trans hr)
    have hres := hafter K hle hpend
    rw [henv K (Nat.le_refl K), hunit K (Nat.le_refl K)] at hres
    exact hres

/-- In every run from reset: the state register holds one of its five codes and the counter is at most
32, at most 16 while a multiplication is executing; a flush and the response handshake lead to state
`0TH`; and an operation that is not back-to-back, whenever it starts, has its response after as many
cycles as after reset, 16 for a multiplication and at most 35 for a division, with the same result. -/
theorem sequencer (h0 : u.mdv = .reset) (h : Disciplined env u) :
    (∀ t, ∃ sta : Sta, muldivStateR env u t = sta.code ∧ (unitAt env u t).mdv.sta = sta) ∧
    (∀ t, (unitAt env u t).mdv.execCntR.toNat ≤ 32 ∧
      ((unitAt env u t).mdv.sta = .exec → Muldiv.iOpMul ((env t).ports (unitAt env u t)) = true →
        (unitAt env u t).mdv.execCntR.toNat ≤ 16)) ∧
    (∀ t, (env t).flushPulse = true ∨ Taken env u t → (unitAt env u (t + 1)).mdv.sta = .zeroTh) ∧
    (∀ op a b, (op.isDiv = false → latency op a b = 16) ∧ latency op a b ≤ 35) ∧
    ∀ t op a b, Presents op a b (env t) → (unitAt env u t).mdv.sta = .zeroTh →
      iB2b ((env t).ports (unitAt env u t)) (unitAt env u t).mdv = false →
      ∀ k, (∀ j ≤ k, (env (t + j)).flushPulse = false) →
        (k < latency op a b → (unitAt env u (t + k)).oValid (env (t + k)) = false) ∧
        (latency op a b ≤ k →
          (∀ j, latency op a b ≤ j → j < k → (env (t + j)).oReady = false) →
          (unitAt env u (t + k)).oValid (env (t + k)) = true ∧
            (unitAt env u (t + k)).oWbckWdat (env (t + k)) = rv32m op a b) := by
  have hsta : u.mdv.sta = .zeroTh := by rw [h0]; rfl
  refine ⟨fun t => ⟨_, muldivStateR_eq hsta t, rfl⟩, fun t => ⟨h.cnt_le h0 t, ?_⟩,
    fun t => h.recovers hsta, fun op a b => ⟨latency_mul, latency_le op a b⟩,
    fun t op a b hp hstart hb2b k hflush => h.response hp hstart hb2b hflush⟩
  exact (h.recorded hsta t).cnt_mul

/-- A multiplication that is flushed in cycle 5 and presented again. -/
def flushedOnce (t : ℕ) : Env := { holdEnv .mulhu 0xffffffff#32 3#32 with flushPulse := t == 5 }

theorem sequencer_flushedOnce :
    (unitAt flushedOnce ⟨.reset, ⟨0#33, 0#33⟩⟩ 22).oValid (flushedOnce 22) = true ∧
      (unitAt flushedOnce ⟨.reset, ⟨0#33, 0#33⟩⟩ 22).oWbckWdat (flushedOnce 22) = 2#32 := by
  have hheld := holdEnv_held .mulhu 0xffffffff#32 3#32
  have hd : Disciplined flushedOnce ⟨.reset, ⟨0#33, 0#33⟩⟩ :=
    ⟨fun _ _ => ⟨rfl, .mulhu, hheld.op⟩, fun _ _ _ _ => ⟨rfl, rfl, rfl, rfl, rfl⟩⟩
  obtain ⟨-, -, hrec, -, hres⟩ := sequencer (u := ⟨.reset, ⟨0#33, 0#33⟩⟩) rfl hd
  have hsta := hrec 5 (.inl rfl)
  have hb2b : iB2b ((flushedOnce 6).ports (unitAt flushedOnce ⟨.reset, ⟨0#33, 0#33⟩⟩ 6))
      (unitAt flushedOnce ⟨.reset, ⟨0#33, 0#33⟩⟩ 6).mdv = false := by
    have hinfo : (flushedOnce 6).info.b2b = false := hheld.b2b
    simp [iB2b, Env.ports, hinfo]
  have hflush : ∀ j ≤ 16, (flushedOnce (6 + j)).flushPulse = false := fun j hj => by
    have hne : 6 + j ≠ 5 := by omega
    exact beq_eq_false_iff_ne.mpr hne
  have hend := (hres 6 .mulhu _ _ ⟨rfl, rfl, rfl, rfl, hheld.op⟩ hsta hb2b 16 hflush).2
    (Nat.le_refl 16) fun j h1 h2 => absurd h1 (Nat.not_le_of_lt h2)
  have hval : rv32m .mulhu 0xffffffff#32 3#32 = 2#32 := by decide
  exact ⟨hend.1, hend.2.trans hval⟩

end
end E203.Muldiv
