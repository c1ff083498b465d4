import E203.Rtl.PlicMan

/-! # Claiming and completing interrupts

A claim read returns the registered winner of the priority tree, but the pending bit it clears is
the one named by the response register, which still holds the data of the access before.

* `Winner`: the registered winner is pending unless the access that may clear it is unanswered.
* `ClaimFresh`, `CompletionExact`: what an accepted access has to meet.
* `claimComplete_of_fresh`: runs whose accesses meet them claim and complete exactly.
* `staleClaim_repeats`: a run from reset in which they do not.
-/

namespace E203.Plic
set_option autoImplicit false

section
variable {s : State} {i : In} {n : ℕ}

/-! ## One cycle -/

theorem icbRspRdata_step (h : icbCmdHsked s i = true) :
    icbRspRdata (step s i) = rspRdata s i := by
  show dfflr (icbCmdHsked s i) (rspRdata s i) s.icbRspRdataR = rspRdata s i
  rw [h, dfflr_true]

theorem icbRspValid_step (h : icbCmdHsked s i = true) : icbRspValid (step s i) = true := by
  show dfflr (icbCmdHsked s i || icbRspHsked s i) _ s.rspVldR = true
  rw [h, Bool.true_or, dfflr_true, Bool.true_or]

theorem rsp_step_of_wait (hv : icbRspValid s = true) (hw : icbRspHsked s i = false) :
    icbRspValid (step s i) = true ∧ icbRspRdata (step s i) = icbRspRdata s := by
  have hcmd : icbCmdHsked s i = false := by
    rw [icbCmdHsked, icbCmdReady, show s.rspVldR = true from hv, Bool.not_true, Bool.and_false]
  constructor
  · show dfflr (icbCmdHsked s i || icbRspHsked s i) _ s.rspVldR = true
    rw [hcmd, hw]
    exact hv
  · show dfflr (icbCmdHsked s i) _ s.icbRspRdataR = s.icbRspRdataR
    rw [hcmd, dfflr_false]

theorem rspVld_eq_false_of_cmd (h : icbCmdHsked s i = true) : s.rspVldR = false :=
  (Bool.not_eq_true' _).mp ((Bool.and_eq_true _ _).mp h).2

theorem irqPend_step (hn : IsSource n) : irqPend (step s i) n =
    (irqIGatedHsked s n || (irqPend s n && !icbClaimIrq s i n)) := by
  have hstep : irqPend (step s i) n =
      dfflr (irqPendEna s i n) (irqPendNxt s i n) (s.irqPendR n) := if_pos hn
  have hold : irqPend s n = s.irqPendR n := if_pos hn
  rw [hstep, hold, irqPendEna, irqPendNxt, irqPendSet, irqPendClr]
  cases irqIGatedHsked s n <;> cases icbClaimIrq s i n <;> cases s.irqPendR n <;> rfl

theorem isSource_of_irqPend (h : irqPend s n = true) : IsSource n := by
  by_contra hn
  rw [irqPend, if_neg hn] at h
  exact Bool.false_ne_true h

theorem isSource_of_hsked (h : irqIGatedHsked s n = true) : IsSource n := by
  by_contra hn
  rw [irqIGatedHsked, irqIGatedValid, if_neg hn] at h
  exact Bool.false_ne_true h

theorem icbCmdHsked_of_claim (h : icbClaimIrq s i n = true) : icbCmdHsked s i = true :=
  ((Bool.and_eq_true _ _).mp ((Bool.and_eq_true _ _).mp h).2).1

/-- The source a claim clears is the one the response register names. -/
theorem icbClaimIrq_iff (hn : IsSource n) : icbClaimIrq s i n = true ↔
    (icbRspRdata s).toNat = n ∧ icbCmdSelClam i = true ∧ icbCmdRdHsked s i = true := by
  have hid : (icbRspRdata s == BitVec.ofNat 32 n) = true ↔ (icbRspRdata s).toNat = n := by
    rw [beq_iff_eq, ← BitVec.toNat_inj, BitVec.toNat_ofNat,
      Nat.mod_eq_of_lt (hn.2.trans (by decide))]
  rw [icbClaimIrq, Bool.and_eq_true, Bool.and_eq_true, hid, and_assoc]

theorem irqIGatedHsked_of_irqPend (h : irqPend s n = true) : irqIGatedHsked s n = false := by
  rw [irqIGatedHsked, irqIGatedReady, if_pos (isSource_of_irqPend h), h, Bool.not_true,
    Bool.and_false]

/-- The gateway forwards when its input is high, it is not in flight and nothing is pending. -/
theorem irqIGatedHsked_iff (hn : IsSource n) : irqIGatedHsked s n = true ↔
    s.plicIrqIR n = true ∧ s.inFlightR n = false ∧ irqPend s n = false := by
  rw [irqIGatedHsked, irqIGatedValid, irqIGatedReady, if_pos hn, if_pos hn]
  cases s.plicIrqIR n <;> cases s.inFlightR n <;> cases irqPend s n <;> decide

theorem inFlightR_step (s : State) (i : In) (n : ℕ) :
    (step s i).inFlightR n = inFlightNxt s i n := rfl

theorem inFlightR_step_of_hsked (hh : irqIGatedHsked s n = true)
    (hc : icbCompleteIrq s i n = false) : (step s i).inFlightR n = true := by
  have hsrc := isSource_of_hsked hh
  have hready : irqIGatedReady s n = true := ((Bool.and_eq_true _ _).mp hh).2
  rw [inFlightR_step, inFlightNxt, hc, ((irqIGatedHsked_iff hsrc).mp hh).1, hready]
  rfl

/-- A gateway stays in flight until a completion. -/
theorem complete_of_inFlightR_step (h : s.inFlightR n = true)
    (hstep : (step s i).inFlightR n ≠ true) : icbCompleteIrq s i n = true := by
  by_contra hc
  rw [Bool.not_eq_true] at hc
  apply hstep
  rw [inFlightR_step, inFlightNxt, hc, h]
  cases s.plicIrqIR n && irqIGatedReady s n <;> rfl

/-! ## The winner of the priority tree -/

theorem lvl10_eq_cons (s : State) :
    lvl10 s = leaf s 0 :: ((List.range 1023).map Nat.succ).map (leaf s) := by
  rw [lvl10, List.range_succ_eq_map, List.map_cons]

theorem firstMax_irqTop (s : State) :
    Lib.FirstMax (fun e : Entry => e.prio.toNat) (lvl10 s) (irqTop s) := by
  have hlen : (lvl10 s).length = 1024 := by rw [lvl10, List.length_map, List.length_range]
  obtain ⟨w, hw, hmax⟩ := Lib.firstMax_rounds (fun e : Entry => e.prio.toNat) 10 _
    (hlen.trans (by decide))
  rw [irqTop, hw]
  exact hmax

/-- An entry with a priority is that of a pending source. -/
theorem irqPend_of_leaf {m : ℕ} (h : 0 < (leaf s m).prio.toNat) :
    irqPend s (leaf s m).id.toNat = true := by
  by_cases h0 : m = 0
  · rw [leaf, if_pos h0] at h
    exact absurd h (lt_irrefl _)
  · by_cases hsrc : IsSource m
    · rw [leaf, if_neg h0, if_pos hsrc] at h ⊢
      have hid : (BitVec.ofNat PLIC_IRQ_NUM_LOG2 m).toNat = m := by
        rw [BitVec.toNat_ofNat, Nat.mod_eq_of_lt (hsrc.2.trans (by decide))]
      show irqPend s (BitVec.ofNat PLIC_IRQ_NUM_LOG2 m).toNat = true
      rw [hid]
      by_contra hpend
      rw [Bool.not_eq_true] at hpend
      have hzero : irqPrioMasked s m &&& gate (irqEnab s m) 7#3 = 0#3 := by
        rw [irqPrioMasked, hpend, gate_false, BitVec.and_zero, BitVec.zero_and]
      rw [hzero] at h
      exact absurd h (lt_irrefl _)
    · rw [leaf, if_neg h0, if_neg hsrc] at h
      exact absurd h (lt_irrefl _)

/-- An identifier other than zero is that of a pending source. -/
theorem irqPend_of_irqId (h : irqId s ≠ 0#6) : irqPend s (irqId s).toNat = true := by
  have hmax := firstMax_irqTop s
  have hlt : (leaf s 0).prio.toNat < (irqTop s).prio.toNat := by
    rw [lvl10_eq_cons] at hmax
    refine hmax.eq_or_lt.resolve_left ?_
    intro htop
    rw [irqId, htop] at h
    exact h rfl
  obtain ⟨m, -, hleaf⟩ := List.mem_map.mp hmax.mem
  rw [irqId]
  rw [← hleaf] at hlt ⊢
  exact irqPend_of_leaf hlt

/-! ## The data of a claim -/

theorem foldl_or_eq {w : ℕ} {f : ℕ → BitVec w} : ∀ {l : List ℕ} (acc : BitVec w),
    (∀ k ∈ l, f k = 0#w) → l.foldl (fun acc k => acc ||| f k) acc = acc
  | [], _, _ => rfl
  | k :: l, acc, h => by
    rw [List.foldl_cons, h k List.mem_cons_self, BitVec.or_zero]
    exact foldl_or_eq acc fun k' hk' => h k' (List.mem_cons_of_mem _ hk')

/-- The claim register is at no address of a word array. -/
theorem ne_clam_addr {k m b : ℕ} (hk : k < m) (hm : m * 4 + b ≤ 0x200004) :
    ((0x200004#24 : BitVec 24) == BitVec.ofNat 24 (k * 4 + b)) = false := by
  rw [beq_eq_false_iff_ne]
  intro h
  have hnat := congrArg BitVec.toNat h
  rw [BitVec.toNat_ofNat, BitVec.toNat_ofNat, Nat.mod_eq_of_lt (by decide),
    Nat.mod_eq_of_lt (by omega)] at hnat
  omega

/-- An access to the claim register answers with the registered winner. -/
theorem rspRdata_of_clam (h : icbCmdSelClam i = true) :
    rspRdata s i = s.plicIrqIdR.setWidth 32 := by
  have haddr : i.icbCmdAddr = 0x200004#24 := eq_of_beq h
  have hprio : rspRdataPrio s i = 0#32 := by
    refine foldl_or_eq _ fun k hk => ?_
    rw [icbCmdSelPrio, haddr, ← Nat.add_zero (k * 4),
      ne_clam_addr (List.mem_range.mp hk) (by decide), gate_false]
  have hpend : rspRdataPend s i = 0#32 := by
    refine foldl_or_eq _ fun k hk => ?_
    rw [icbCmdSelPend, haddr, ne_clam_addr (List.mem_range.mp hk) (by decide), gate_false]
  have htarg : rspRdataTarg s i = s.plicIrqIdR.setWidth 32 := by
    rw [rspRdataTarg, h, gate_true, icbCmdSelThod, haddr,
      show ((0x200004#24 : BitVec 24) == 0x200000#24) = false from rfl, gate_false,
      BitVec.zero_or]
    refine foldl_or_eq _ fun k hk => ?_
    rw [icbCmdSelEnab, haddr, ne_clam_addr (List.mem_range.mp hk) (by decide), gate_false]
  rw [rspRdata, hprio, hpend, htarg, BitVec.zero_or, BitVec.zero_or]

/-! ## The registered winner -/

/-- The registered winner is pending, unless the access that may clear it is unanswered. -/
def Winner (s : State) : Prop :=
  s.plicIrqIdR ≠ 0#6 → irqPend s s.plicIrqIdR.toNat = true ∨ s.rspVldR = true

theorem Winner.of_reset (h : IsReset s) : Winner s := fun hne => absurd h.irqId hne

theorem plicIrqIdR_step (s : State) (i : In) : (step s i).plicIrqIdR = irqId s := by
  rw [step]

theorem Winner.step (s : State) (i : In) : Winner (step s i) := by
  intro hne
  rw [plicIrqIdR_step] at hne ⊢
  have hpend := irqPend_of_irqId hne
  rw [irqPend_step (isSource_of_irqPend hpend), hpend, Bool.true_and]
  cases hclr : icbClaimIrq s i (irqId s).toNat
  · exact .inl (Bool.or_true _)
  · exact .inr (icbRspValid_step (icbCmdHsked_of_claim hclr))

end

/-! ## Runs -/

section
variable (inp : ℕ → In) (s : State)

theorem run_succ (t : ℕ) : run inp s (t + 1) = step (run inp s t) (inp t) := rfl

/-- A claim read is accepted in cycle `t`. -/
def ClaimRead (t : ℕ) : Prop :=
  icbCmdSelClam (inp t) = true ∧ icbCmdRdHsked (run inp s t) (inp t) = true

/-- A completion write of the value `n` is accepted in cycle `t`. -/
def CompleteWrite (t n : ℕ) : Prop :=
  icbCmdSelClam (inp t) = true ∧ icbCmdWrHsked (run inp s t) (inp t) = true ∧
    (inp t).icbCmdWdata.toNat = n

/-- The response taken in cycle `u` answers the command accepted in cycle `t`. -/
structure Answers (t u : ℕ) : Prop where
  later : t < u
  hsked : icbRspHsked (run inp s u) (inp u) = true
  first : ∀ v, t < v → v < u → icbRspHsked (run inp s v) (inp v) = false

/-- The claim read accepted in cycle `t` returns `n`, in cycle `u`. -/
structure ClaimReturns (t u n : ℕ) : Prop where
  read : ClaimRead inp s t
  answers : Answers inp s t u
  rdata : (icbRspRdata (run inp s u)).toNat = n

/-- The gateway of source `n` forwards an interrupt in cycle `t`. -/
def Forwards (t n : ℕ) : Prop := irqIGatedHsked (run inp s t) n = true

/-- The pending bit of source `n` is cleared at the end of cycle `t`. -/
def Cleared (t n : ℕ) : Prop :=
  irqPend (run inp s t) n = true ∧ irqPend (run inp s (t + 1)) n = false

/-- Claims and completions are exact in a run. -/
structure ClaimComplete : Prop where
  clears : ∀ t u n, ClaimReturns inp s t u n → 0 < n →
    Cleared inp s t n ∧ ∀ m, Cleared inp s t m → m = n
  cleared : ∀ t n, Cleared inp s t n →
    ClaimRead inp s t ∧ ∀ u, Answers inp s t u → ClaimReturns inp s t u n
  reraised : ∀ t u t' u' n, 0 < n → ClaimReturns inp s t u n → ClaimReturns inp s t' u' n →
    t < t' → ∃ v, t < v ∧ v < t' ∧ Forwards inp s v n
  completed : ∀ t t' n, Forwards inp s t n → Forwards inp s t' n → t < t' →
    ∃ v, t < v ∧ v < t' ∧ CompleteWrite inp s v n

/-- A claim read finds the winner in the response register already, or there is no winner and the
response register names no pending source. -/
def ClaimFresh (t : ℕ) : Prop := ClaimRead inp s t →
  ((run inp s t).plicIrqIdR ≠ 0#6 →
    icbRspRdata (run inp s t) = (run inp s t).plicIrqIdR.setWidth 32) ∧
  ((run inp s t).plicIrqIdR = 0#6 →
    ∀ n, irqPend (run inp s t) n = true → (icbRspRdata (run inp s t)).toNat ≠ n)

/-- A completion that names a source in flight in its low bits has its value, and none names a
source whose gateway forwards in the same cycle. -/
def CompletionExact (t : ℕ) : Prop :=
  ∀ n, IsSource n → icbCompleteIrq (run inp s t) (inp t) n = true →
    ((run inp s t).inFlightR n = true → (inp t).icbCmdWdata.toNat = n) ∧ ¬Forwards inp s t n

variable {inp s} {t u n : ℕ}

theorem winner_run (h0 : IsReset s) : ∀ t, Winner (run inp s t)
  | 0 => .of_reset h0
  | t + 1 => .step (run inp s t) (inp t)

theorem ClaimRead.cmd (h : ClaimRead inp s t) : icbCmdHsked (run inp s t) (inp t) = true :=
  ((Bool.and_eq_true _ _).mp h.2).1

theorem Answers.rdata_eq (hcmd : icbCmdHsked (run inp s t) (inp t) = true)
    (h : Answers inp s t u) : icbRspRdata (run inp s u) = rspRdata (run inp s t) (inp t) := by
  have hall : ∀ k, t + 1 + k ≤ u → icbRspValid (run inp s (t + 1 + k)) = true ∧
      icbRspRdata (run inp s (t + 1 + k)) = rspRdata (run inp s t) (inp t) := by
    intro k
    induction k with
    | zero => exact fun _ => ⟨icbRspValid_step hcmd, icbRspRdata_step hcmd⟩
    | succ k ih =>
      intro hk
      obtain ⟨hv, hd⟩ := ih (by omega)
      have hwait := rsp_step_of_wait hv (h.first (t + 1 + k) (by omega) (by omega))
      exact ⟨hwait.1, hwait.2.trans hd⟩
  have hlater := h.later
  have hu := hall (u - (t + 1)) (by omega)
  rw [Nat.add_sub_cancel' (by omega)] at hu
  exact hu.2

theorem ClaimRead.rdata_eq (h : ClaimRead inp s t) (ha : Answers inp s t u) :
    icbRspRdata (run inp s u) = (run inp s t).plicIrqIdR.setWidth 32 := by
  rw [ha.rdata_eq h.cmd, rspRdata_of_clam h.1]

theorem toNat_id (x : BitVec PLIC_IRQ_NUM_LOG2) : (x.setWidth 32).toNat = x.toNat :=
  BitVec.toNat_setWidth_of_le (by decide)

theorem ClaimReturns.id_eq (h : ClaimReturns inp s t u n) :
    (run inp s t).plicIrqIdR.toNat = n := by
  rw [← h.rdata, h.read.rdata_eq h.answers, toNat_id]

/-- The winner a claim read finds is pending. -/
theorem ClaimRead.irqPend (h : ClaimRead inp s t) (hw : Winner (run inp s t))
    (hne : (run inp s t).plicIrqIdR ≠ 0#6) :
    Plic.irqPend (run inp s t) (run inp s t).plicIrqIdR.toNat = true := by
  refine (hw hne).resolve_right ?_
  rw [rspVld_eq_false_of_cmd h.cmd]
  exact Bool.false_ne_true

theorem toNat_ne_zero {x : BitVec PLIC_IRQ_NUM_LOG2} (h : 0 < x.toNat) : x ≠ 0#6 := by
  rintro rfl
  exact absurd h (lt_irrefl _)

/-! ## The response register names what a claim clears -/

theorem cleared_iff : Cleared inp s t n ↔ irqPend (run inp s t) n = true ∧ ClaimRead inp s t ∧
    (icbRspRdata (run inp s t)).toNat = n := by
  constructor
  · rintro ⟨hpend, hnext⟩
    have hsrc := isSource_of_irqPend hpend
    have hclr : icbClaimIrq (run inp s t) (inp t) n = true := by
      by_contra hkeep
      rw [Bool.not_eq_true] at hkeep
      rw [run_succ, irqPend_step hsrc, hpend, hkeep, Bool.not_false, Bool.true_and,
        Bool.or_true] at hnext
      exact Bool.false_ne_true hnext.symm
    obtain ⟨hdata, hread⟩ := (icbClaimIrq_iff hsrc).mp hclr
    exact ⟨hpend, hread, hdata⟩
  · rintro ⟨hpend, hread, hdata⟩
    have hsrc := isSource_of_irqPend hpend
    have hclr := (icbClaimIrq_iff hsrc).mpr ⟨hdata, hread⟩
    refine ⟨hpend, ?_⟩
    rw [run_succ, irqPend_step hsrc, irqIGatedHsked_of_irqPend hpend, hclr, Bool.not_true,
      Bool.and_false]
    rfl

/-- A claim read clears the source it returns and no other one exactly when it is fresh. -/
theorem ClaimRead.fresh_iff (h : ClaimRead inp s t) (hw : Winner (run inp s t)) :
    ClaimFresh inp s t ↔
      ∀ n, Cleared inp s t n ↔ 0 < n ∧ (run inp s t).plicIrqIdR.toNat = n := by
  constructor
  · intro hf n
    by_cases hid : (run inp s t).plicIrqIdR = 0#6
    · -- nothing is returned and nothing is cleared
      refine iff_of_false ?_ ?_
      · intro hcl
        obtain ⟨hpend, -, hdata⟩ := cleared_iff.mp hcl
        exact (hf h).2 hid n hpend hdata
      · rintro ⟨hn, rfl⟩
        exact toNat_ne_zero hn hid
    · rw [cleared_iff, (hf h).1 hid, toNat_id]
      constructor
      · rintro ⟨hpend, -, hdata⟩
        exact ⟨(isSource_of_irqPend hpend).1, hdata⟩
      · rintro ⟨-, rfl⟩
        exact ⟨h.irqPend hw hid, h, rfl⟩
  · intro hexact _
    constructor
    · intro hid
      have hcl := (hexact _).mpr ⟨(isSource_of_irqPend (h.irqPend hw hid)).1, rfl⟩
      rw [← BitVec.toNat_inj, toNat_id]
      exact (cleared_iff.mp hcl).2.2
    · intro hid n hpend hdata
      have hret := (hexact n).mp (cleared_iff.mpr ⟨hpend, h, hdata⟩)
      rw [hid] at hret
      exact absurd hret.2 hret.1.ne

theorem ClaimReturns.clears (h : ClaimReturns inp s t u n) (hw : Winner (run inp s t))
    (hf : ClaimFresh inp s t) (hn : 0 < n) :
    Cleared inp s t n ∧ ∀ m, Cleared inp s t m → m = n := by
  have hexact := (h.read.fresh_iff hw).mp hf
  refine ⟨(hexact n).mpr ⟨hn, h.id_eq⟩, ?_⟩
  intro m hm
  rw [← ((hexact m).mp hm).2, h.id_eq]

theorem claimReturns_of_cleared (hw : Winner (run inp s t)) (hf : ClaimFresh inp s t)
    (hcl : Cleared inp s t n) :
    ClaimRead inp s t ∧ ∀ u, Answers inp s t u → ClaimReturns inp s t u n := by
  have hread := (cleared_iff.mp hcl).2.1
  refine ⟨hread, fun u ha => ⟨hread, ha, ?_⟩⟩
  rw [hread.rdata_eq ha, toNat_id]
  exact (((hread.fresh_iff hw).mp hf n).mp hcl).2

/-- A pending bit that comes back was set by its gateway. -/
theorem forwards_of_set {v : ℕ} (h : irqPend (run inp s v) n = false)
    (hnext : irqPend (run inp s (v + 1)) n = true) : Forwards inp s v n := by
  rw [run_succ, irqPend_step (isSource_of_irqPend hnext), h, Bool.false_and, Bool.or_false] at hnext
  exact hnext

/-- A gateway that forwarded is in flight until its completion. -/
theorem completeWrite_of_forwards (hc : ∀ t, CompletionExact inp s t) {t' : ℕ}
    (h : Forwards inp s t n) (h' : Forwards inp s t' n) (htt : t < t') :
    ∃ v, t < v ∧ v < t' ∧ CompleteWrite inp s v n := by
  have hstart : (run inp s (t + 1)).inFlightR n = true := by
    refine inFlightR_step_of_hsked h ?_
    by_contra hcompl
    rw [Bool.not_eq_false] at hcompl
    exact (hc t n (isSource_of_hsked h) hcompl).2 h
  have hend : ¬(run inp s t').inFlightR n = true := by
    rw [((irqIGatedHsked_iff (isSource_of_hsked h')).mp h').2.1]
    exact Bool.false_ne_true
  obtain ⟨v, htv, hvt, hv, hvnext⟩ := Lib.exists_last (p := fun v => (run inp s v).inFlightR n = true) htt
    hstart hend
  have hcompl := complete_of_inFlightR_step hv hvnext
  obtain ⟨⟨-, hclam⟩, hwr⟩ : (_ ∧ _) ∧ _ := by
    rwa [icbCompleteIrq, Bool.and_eq_true, Bool.and_eq_true] at hcompl
  exact ⟨v, htv, hvt, hclam, hwr, (hc v n (isSource_of_hsked h) hcompl).1 hv⟩

/-- Claims and completions are exact in a run from reset whose claim reads find the winner in the
response register and whose completions have the value of the source they complete. -/
theorem claimComplete_of_fresh (h0 : IsReset s) (hf : ∀ t, ClaimFresh inp s t)
    (hc : ∀ t, CompletionExact inp s t) : ClaimComplete inp s where
  clears t u n h hn := h.clears (winner_run h0 t) (hf t) hn
  cleared t n hcl := claimReturns_of_cleared (winner_run h0 t) (hf t) hcl
  reraised := by
    intro t u t' u' n hn h h' htt
    have hgone := (h.clears (winner_run h0 t) (hf t) hn).1.2
    have hback := (h'.clears (winner_run h0 t') (hf t') hn).1.1
    obtain ⟨v, htv, hvt, hv, hvnext⟩ :=
      Lib.exists_last (p := fun v => irqPend (run inp s v) n = false) htt hgone
        (fun hpend => Bool.false_ne_true (hpend.symm.trans hback))
    exact ⟨v, htv, hvt, forwards_of_set hv ((Bool.not_eq_false _).mp hvnext)⟩
  completed t t' n h h' htt := completeWrite_of_forwards hc h h' htt

end

/-! ## Two runs -/

/-- A state after reset. -/
def resetState : State where
  plicIrqIR _ := false
  inFlightR _ := false
  irqPendR _ := false
  irqPrioR _ := 0#3
  irqEnabR _ := 0#32
  irqThodR := 0#3
  plicIrqOR := false
  plicIrqIdR := 0#6
  rspVldR := false
  icbRspRdataR := 0#32

theorem resetState_isReset : IsReset resetState where
  irqI _ := rfl
  inFlight _ := rfl
  pend _ := rfl
  prio _ := rfl
  enab _ := rfl
  thod := rfl
  irqO := rfl
  irqId := rfl
  rspVld := rfl

/-- Source 3 is high. -/
def writeIn (addr : BitVec 24) (wdata : BitVec 32) : In :=
  ⟨true, addr, false, wdata, true, fun n => n == 3⟩

def readIn (addr : BitVec 24) : In := ⟨true, addr, true, 0#32, true, fun n => n == 3⟩

def idleIn : In := ⟨false, 0#24, true, 0#32, true, fun n => n == 3⟩

/-- Priority and enable of source 3 are set, and it is claimed twice. -/
def staleTrace : ℕ → In
  | 0 => writeIn 12#24 1#32
  | 2 => writeIn 0x2000#24 8#32
  | 6 => readIn 0x200004#24
  | 8 => readIn 0x200004#24
  | _ => idleIn

/-- The first claim returns 3 and clears nothing, and the second one returns 3 again. -/
theorem staleClaim_repeats : ¬ClaimComplete staleTrace resetState := by
  intro h
  have hret : ClaimReturns staleTrace resetState 6 7 3 :=
    ⟨⟨by decide, by decide +kernel⟩,
      ⟨by decide, by decide +kernel, fun v h1 h2 => by omega⟩, by decide +kernel⟩
  have hcl := (h.clears 6 7 3 hret (by decide)).1
  have hstill : irqPend (run staleTrace resetState 7) 3 = true := by decide +kernel
  exact Bool.false_ne_true (hcl.2.symm.trans hstill)

/-- The claim register is written with 0 before the claim read, and the claim is completed. -/
def freshTrace : ℕ → In
  | 0 => writeIn 12#24 1#32
  | 2 => writeIn 0x2000#24 8#32
  | 6 => writeIn 0x200004#24 0#32
  | 8 => readIn 0x200004#24
  | 10 => writeIn 0x200004#24 3#32
  | _ => idleIn

theorem icbCmdHsked_of_idle {s : State} {i : In} (h : i.icbCmdValid = false) :
    icbCmdHsked s i = false := by
  rw [icbCmdHsked, h, Bool.false_and]

theorem freshTrace_idle {t : ℕ} (ht : 11 ≤ t) : (freshTrace t).icbCmdValid = false := by
  obtain ⟨k, rfl⟩ := Nat.exists_eq_add_of_le ht
  rw [Nat.add_comm]
  rfl

theorem freshTrace_fresh (t : ℕ) : ClaimFresh freshTrace resetState t := by
  intro hread
  obtain rfl : t = 8 := by
    have hcmd := hread.cmd
    have hlt : t < 11 := by
      by_contra hge
      rw [icbCmdHsked_of_idle (freshTrace_idle (Nat.not_lt.mp hge))] at hcmd
      exact Bool.false_ne_true hcmd
    have hall : ∀ t < 11, (icbCmdSelClam (freshTrace t) &&
        icbCmdRdHsked (run freshTrace resetState t) (freshTrace t)) = true → t = 8 := by
      decide +kernel
    exact hall t hlt ((Bool.and_eq_true _ _).mpr hread)
  have hid : (run freshTrace resetState 8).plicIrqIdR = 3#6 := by decide +kernel
  have hdata : icbRspRdata (run freshTrace resetState 8) = 3#32 := by decide +kernel
  constructor
  · intro _
    rw [hdata, hid]
    rfl
  · intro h
    rw [hid] at h
    exact absurd h (by decide)

theorem freshTrace_exact (t : ℕ) : CompletionExact freshTrace resetState t := by
  intro n hn hcompl
  have hlt : t < 11 := by
    by_contra hge
    have hcmd : icbCmdHsked (run freshTrace resetState t) (freshTrace t) = true :=
      ((Bool.and_eq_true _ _).mp ((Bool.and_eq_true _ _).mp hcompl).2).1
    rw [icbCmdHsked_of_idle (freshTrace_idle (Nat.not_lt.mp hge))] at hcmd
    exact Bool.false_ne_true hcmd
  have hall : ∀ t < 11, ∀ n < PLIC_IRQ_NUM, IsSource n →
      icbCompleteIrq (run freshTrace resetState t) (freshTrace t) n = true →
      (freshTrace t).icbCmdWdata.toNat = n ∧
        irqIGatedHsked (run freshTrace resetState t) n = false := by
    decide +kernel
  obtain ⟨hval, hidle⟩ := hall t hlt n hn.2 hn hcompl
  exact ⟨fun _ => hval, fun hf => Bool.false_ne_true (hidle.symm.trans hf)⟩

/-- The claim returns 3 and clears its pending bit. -/
theorem claimComplete_freshTrace : ClaimComplete freshTrace resetState ∧
    ClaimReturns freshTrace resetState 8 9 3 ∧ Cleared freshTrace resetState 8 3 :=
  ⟨claimComplete_of_fresh resetState_isReset freshTrace_fresh freshTrace_exact,
    ⟨⟨by decide, by decide +kernel⟩,
      ⟨by decide, by decide +kernel, fun v h1 h2 => by omega⟩, by decide +kernel⟩,
    by decide +kernel, by decide +kernel⟩

end E203.Plic
