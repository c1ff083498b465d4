import E203.Cdc.ExactlyOnce

/-! # Words get across

While both clocks rise again and again:

* `eventually_ready`: once the receiver has the word, the transmitter gets ready for the next one.
* `eventually_samples`: a word that waits at the transmitter is taken into an empty buffer.
* `bufDatR_eq`: while no word waits there, the receiver still shows the last one.
-/

namespace E203.Cdc
set_option autoImplicit false

section
variable {DW TX_DP RX_DP : ℕ} [NeZero TX_DP] [NeZero RX_DP] {s : State DW TX_DP RX_DP} {i : In DW}
  {inp : ℕ → In DW} {t : ℕ} {P : ℕ → Prop}

/-! ## The transmitter becomes ready -/

def Ready (s : State DW TX_DP RX_DP) : Prop :=
  (TxAt s.tx false false false (TX_DP + 1) ∧ RxAt s.rx false false (RX_DP + 1)) ∨ Settle TX_DP s

omit [NeZero RX_DP] in
theorem Ready.iRdy (h : Ready s) : CdcTx.iRdy s.tx = true := by
  obtain ⟨ht, -⟩ | ⟨ht, -⟩ := h
  · rw [CdcTx.iRdy, ht.nrdyR]
    rfl
  · rw [CdcTx.iRdy, ht.nrdyClr_eq, beq_self_eq_true]
    exact Bool.or_true _

/-- It stays ready until it takes one. -/
theorem Ready.step (h : Ready s) (ha : accepted s i = []) : Ready (Cdc.step i s) := by
  have hcases : ∀ {nrdy : Bool} {k : ℕ}, TxAt s.tx false nrdy false k →
      RxAt s.rx false false (RX_DP + 1) →
      (nrdy = true ∧ k = TX_DP ∨ nrdy = false ∧ k = TX_DP + 1) →
      (TxAt (Cdc.step i s).tx false false false (TX_DP + 1) ∨
          TxAt (Cdc.step i s).tx false nrdy false k) ∧
        RxAt (Cdc.step i s).rx false false (RX_DP + 1) := by
    intro nrdy k ht hr hk
    refine ⟨?_, rx_waits hr ht.vldR (hr.iRdySet_of_low (Nat.le_succ RX_DP))⟩
    obtain ⟨-, ht'⟩ | ⟨hnew, -⟩ := tx_takes (i := i) ht hr.iRdyR hk
    · exact ht'
    · rw [ha] at hnew
      cases hnew
  obtain ⟨ht, hr⟩ | ⟨ht, hr⟩ := h
  · obtain ⟨ht' | ht', hr'⟩ := hcases ht hr (.inr ⟨rfl, rfl⟩)
    · exact .inl ⟨ht', hr'⟩
    · exact .inl ⟨ht', hr'⟩
  · obtain ⟨ht' | ht', hr'⟩ := hcases ht hr (.inl ⟨rfl, rfl⟩)
    · exact .inl ⟨ht', hr'⟩
    · exact .inr ⟨ht', hr'⟩

theorem st_succ : st TX_DP RX_DP inp (t + 1) = Cdc.step (inp t) (st TX_DP RX_DP inp t) := rfl

section
variable (htx : ∀ u, ∃ v, u ≤ v ∧ (inp v).txClk = true)
  (hrx : ∀ u, ∃ v, u ≤ v ∧ (inp v).rxClk = true)
include htx

theorem ready_of_settle {k : ℕ} (hk : k ≤ TX_DP) (h : Settle k (st TX_DP RX_DP inp t)) :
    ∃ u, t ≤ u ∧ Ready (st TX_DP RX_DP inp u) := by
  obtain ⟨u, hu, hready⟩ := Lib.count_up (A := fun k u => Settle k (st TX_DP RX_DP inp u)) htx
    (fun k u _ hlt hs hc => (hs.step hlt).2.1 (Bool.eq_false_iff.mpr hc))
    (fun k u _ hlt hs hc => (hs.step hlt).2.2 hc) (Nat.le_refl t) hk h
  exact ⟨u, hu, .inr hready⟩

include hrx

theorem ready_of_release {k : ℕ} (hk : k ≤ RX_DP) (h : Release k (st TX_DP RX_DP inp t)) :
    ∃ u, t ≤ u ∧ Ready (st TX_DP RX_DP inp u) := by
  obtain ⟨u, hu, hlast⟩ := Lib.count_up (A := fun k u => Release k (st TX_DP RX_DP inp u)) hrx
    (fun k u _ _ hs hc => hs.step.2.1 (Bool.eq_false_iff.mpr hc))
    (fun k u _ hlt hs hc => hs.step.2.2.1 hc hlt) (Nat.le_refl t) hk h
  obtain ⟨v, hv, hlast', hclk⟩ := Lib.exists_meeting (p := fun u => Release RX_DP (st TX_DP RX_DP inp u))
    hlast (fun w _ hs hc => hs.step.2.1 (Bool.eq_false_iff.mpr hc)) (hrx u)
  have hnext : Settle 0 (st TX_DP RX_DP inp (v + 1)) := hlast'.step.2.2.2 hclk rfl
  obtain ⟨w, hw, hready⟩ := ready_of_settle htx (Nat.zero_le _) hnext
  exact ⟨w, by omega, hready⟩

theorem ready_of_acknowledge {k : ℕ} (hk : k ≤ TX_DP)
    (h : Acknowledge k (st TX_DP RX_DP inp t)) : ∃ u, t ≤ u ∧ Ready (st TX_DP RX_DP inp u) := by
  obtain ⟨u, hu, hlast⟩ := Lib.count_up (A := fun k u => Acknowledge k (st TX_DP RX_DP inp u)) htx
    (fun k u _ _ hs hc => hs.step.2.1 (Bool.eq_false_iff.mpr hc))
    (fun k u _ hlt hs hc => hs.step.2.2.1 hc hlt) (Nat.le_refl t) hk h
  obtain ⟨v, hv, hlast', hclk⟩ :=
    Lib.exists_meeting (p := fun u => Acknowledge TX_DP (st TX_DP RX_DP inp u)) hlast
      (fun w _ hs hc => hs.step.2.1 (Bool.eq_false_iff.mpr hc)) (htx u)
  have hnext : Release 0 (st TX_DP RX_DP inp (v + 1)) := hlast'.step.2.2.2 hclk rfl
  obtain ⟨w, hw, hready⟩ := ready_of_release htx hrx (Nat.zero_le _) hnext
  exact ⟨w, by omega, hready⟩

theorem eventually_ready (hword : txWord (st TX_DP RX_DP inp t) = [])
    (hno : ∀ u, t ≤ u → accepted (st TX_DP RX_DP inp u) (inp u) = []) :
    ∃ u, t ≤ u ∧ ∀ v, u ≤ v → CdcTx.iRdy (st TX_DP RX_DP inp v).tx = true := by
  have hready : ∃ u, t ≤ u ∧ Ready (st TX_DP RX_DP inp u) := by
    cases @phase_run _ TX_DP RX_DP _ _ inp t with
    | idle ht hr => exact ⟨t, Nat.le_refl t, .inl ⟨ht, hr⟩⟩
    | request k hP ht hr =>
      rw [txWord, ht.vldR, hr.iRdyR] at hword
      cases hword
    | acknowledge k hk ht hr => exact ready_of_acknowledge htx hrx hk ⟨ht, hr⟩
    | release k hk ht hr => exact ready_of_release htx hrx hk ⟨ht, hr⟩
    | settle k hk ht hr => exact ready_of_settle htx hk ⟨ht, hr⟩
  obtain ⟨u, hu, hready⟩ := hready
  refine ⟨u, hu, fun v huv => @Ready.iRdy _ TX_DP RX_DP _ _ ?_⟩
  induction v, huv using Nat.le_induction with
  | base => exact hready
  | succ v huv ih => exact ih.step (hno v (Nat.le_trans hu huv))

end

/-! ## The receiver takes a word -/

/-- The request has come to register `k` of the receiver. -/
def Request (k : ℕ) (s : State DW TX_DP RX_DP) : Prop :=
  TxAt s.tx true true false (TX_DP + 1) ∧ RxAt s.rx false true k

omit [NeZero TX_DP] in
theorem Request.samples_iff {k : ℕ} (h : Request k s) :
    CdcRx.iRdySet s.rx = (!s.rx.bufVldR && decide (RX_DP ≤ k)) := by
  obtain ⟨-, hr⟩ := h
  rw [CdcRx.iRdySet, CdcRx.bufRdy, CdcRx.iVldSync, hr.iRdyR]
  obtain hlt | hle := Nat.lt_or_ge k RX_DP
  · rw [hr.front.dout_of_lt hlt, decide_eq_false (by omega)]
    exact Bool.and_true _
  · rw [hr.front.dout_of_le hle, decide_eq_true hle]
    exact Bool.and_true _

theorem Request.step {k : ℕ} (h : Request k s) (hs : samples s i = false) :
    Request (if i.rxClk then k + 1 else k) (Cdc.step i s) := by
  obtain ⟨ht, hr⟩ := h
  obtain ⟨-, ht', -⟩ := tx_waits (i := i) ht hr.iRdyR rfl
  refine ⟨ht', ?_⟩
  rw [Cdc.step]
  cases hc : i.rxClk with
  | false => exact hr
  | true =>
    rw [samples, hc, CdcRx.bufDatEna, Bool.true_and] at hs
    exact hr.wait (j := rxIn s i) ht.vldR hs rfl

theorem eventually_samples (hrx : ∀ u, ∃ v, u ≤ v ∧ (inp v).rxClk = true)
    (hword : txWord (st TX_DP RX_DP inp t) ≠ [])
    (hbuf : ∀ u, t ≤ u → (st TX_DP RX_DP inp u).rx.bufVldR = false) :
    ∃ u, t ≤ u ∧ samples (st TX_DP RX_DP inp u) (inp u) = true := by
  by_contra hnone
  have hno : ∀ u, t ≤ u → samples (st TX_DP RX_DP inp u) (inp u) = false := fun u hu =>
    Bool.eq_false_iff.mpr fun hs => hnone ⟨u, hu, hs⟩
  have hstart : ∃ k, Request k (st TX_DP RX_DP inp t) := by
    cases @phase_run _ TX_DP RX_DP _ _ inp t with
    | request k hP ht hr => exact ⟨k, ht, hr⟩
    | idle ht hr => exact absurd (txWord_of_taken (.inl ht.vldR)) hword
    | acknowledge k hk ht hr => exact absurd (txWord_of_taken (.inr hr.iRdyR)) hword
    | release k hk ht hr => exact absurd (txWord_of_taken (.inl ht.vldR)) hword
    | settle k hk ht hr => exact absurd (txWord_of_taken (.inl ht.vldR)) hword
  obtain ⟨k, hk⟩ := hstart
  have harrive : ∃ u, t ≤ u ∧ ∃ k, RX_DP ≤ k ∧ Request k (st TX_DP RX_DP inp u) := by
    obtain hle | hlt := Nat.le_total RX_DP k
    · exact ⟨t, Nat.le_refl t, k, hle, hk⟩
    · obtain ⟨u, hu, hu'⟩ := Lib.count_up (A := fun k u => Request k (st TX_DP RX_DP inp u)) hrx
        (fun k u hu _ hs hc => by
          have hn := hs.step (hno u hu)
          rwa [if_neg hc] at hn)
        (fun k u hu _ hs hc => by
          have hn := hs.step (hno u hu)
          rwa [if_pos hc] at hn) (Nat.le_refl t) hlt hk
      exact ⟨u, hu, RX_DP, Nat.le_refl _, hu'⟩
  obtain ⟨u, hu, hu'⟩ := harrive
  obtain ⟨v, huv, ⟨k, hk, hreq⟩, hclk⟩ :=
    Lib.exists_meeting (p := fun u => ∃ k, RX_DP ≤ k ∧ Request k (st TX_DP RX_DP inp u)) hu'
      (fun w huw ⟨k, hk, hs⟩ hc => by
        have hn := hs.step (hno w (by omega))
        rw [if_neg hc] at hn
        exact ⟨k, hk, hn⟩) (hrx u)
  have hs := hno v (by omega)
  rw [samples, hclk, CdcRx.bufDatEna, hreq.samples_iff, hbuf v (by omega), decide_eq_true hk] at hs
  cases hs

/-! ## What the receiver shows -/

theorem bufDatR_eq (t : ℕ) : txWord (st TX_DP RX_DP inp t) = [] →
    (st TX_DP RX_DP inp t).rx.bufDatR = (st TX_DP RX_DP inp t).tx.datR := by
  induction t with
  | zero => exact fun _ => rfl
  | succ t ih =>
    intro hword
    have hmoves := (moves_run (@phase_run _ TX_DP RX_DP _ _ inp t)).word
    have hd : (st TX_DP RX_DP inp (t + 1)).rx.bufDatR =
        if samples (st TX_DP RX_DP inp t) (inp t) then (st TX_DP RX_DP inp t).tx.datR
        else (st TX_DP RX_DP inp t).rx.bufDatR := by
      rw [st_succ, Cdc.step, samples]
      cases (inp t).rxClk
      · rfl
      · exact rfl
    rw [← st_succ, hword, List.append_nil] at hmoves
    have ha : accepted (st TX_DP RX_DP inp t) (inp t) = [] := by
      cases hs : samples (st TX_DP RX_DP inp t) (inp t)
      · rw [sampled, hs, if_neg Bool.false_ne_true] at hmoves
        exact (List.append_eq_nil_iff.mp hmoves).2
      · exact ((phase_run inp t).of_samples hs).choose_spec.2.2
    rw [hd, st_succ, datR_of_not_accepted ha]
    cases hs : samples (st TX_DP RX_DP inp t) (inp t)
    · rw [sampled, hs, if_neg Bool.false_ne_true] at hmoves
      rw [if_neg Bool.false_ne_true]
      exact ih (List.append_eq_nil_iff.mp hmoves).1
    · rw [if_pos rfl]

end
end E203.Cdc
