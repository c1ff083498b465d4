import E203.Debug.Module
import E203.Debug.Requests
import E203.Lib.BitVecArith

/-! # Requests of the debug transport

* `run`: the registers after so many events of the two clocks.
* `Scan`: a debug-access scan; `exists_scan`: what it sends was decided when it began.
* `Fair`, `eventually_accepted`: while both clocks go on, every request is accepted.
* `Performs`: what the scans, the requests and the responses of a run have to do with each other.
* `requests_performed_once`: it holds in every run without a collision, and every request is accepted.
-/

namespace E203.Link
set_option autoImplicit false
open Lib (emitted lastEmitted)

section
variable {DP : ℕ} [NeZero DP]

/-- The registers after `t` events. -/
def run (DP : ℕ) [NeZero DP] (inp : ℕ → In) (shiftReg : BitVec 41) (t : ℕ) : State DP :=
  Lib.stateAt step inp (reset DP shiftReg) t

/-! ## Runs -/

section
variable {inp : ℕ → In} {sr : BitVec 41} {t : ℕ}

theorem run_succ : run DP inp sr (t + 1) = step (inp t) (run DP inp sr t) := rfl

theorem req_run (t : ℕ) : (run DP inp sr t).req =
    Cdc.st DP DP (fun u => reqIn (run DP inp sr u) (inp u)) t := by
  induction t with
  | zero => rfl
  | succ t ih => rw [run_succ, step, ih, Cdc.st_succ, ← ih]

theorem resp_run (t : ℕ) : (run DP inp sr t).resp =
    Cdc.st DP DP (fun u => respIn (run DP inp sr u) (inp u)) t := by
  induction t with
  | zero => rfl
  | succ t ih => rw [run_succ, step, ih, Cdc.st_succ, ← ih]

theorem req_cycle (t : ℕ) : Cdc.inFlight (run DP inp sr t).req ++
      Cdc.accepted (run DP inp sr t).req (reqIn (run DP inp sr t) (inp t)) =
    (dmAccepts (run DP inp sr t) (inp t)).map Prod.fst ++ Cdc.inFlight (run DP inp sr (t + 1)).req := by
  have hcycle := (@Cdc.conserves 41 DP DP _ _ fun u => reqIn (run DP inp sr u) (inp u)).cycle t
  rw [← handedOut_req, req_run t, req_run (t + 1)]
  exact hcycle

theorem resp_cycle (t : ℕ) : Cdc.inFlight (run DP inp sr t).resp ++
      (dmAccepts (run DP inp sr t) (inp t)).map Prod.snd =
    taken (run DP inp sr t) (inp t) ++ Cdc.inFlight (run DP inp sr (t + 1)).resp := by
  have hcycle := (@Cdc.conserves 36 DP DP _ _ fun u => respIn (run DP inp sr u) (inp u)).cycle t
  rw [← accepted_resp, taken, resp_run t, resp_run (t + 1)]
  exact hcycle

theorem flows_run (h : Inv (run DP inp sr t)) (hno : ¬Collides (run DP inp sr t) (inp t)) :
    Flows (run DP inp sr t) (inp t) where
  reqs := req_cycle t
  resps := resp_cycle t
  waits := by
    have hdbus := dbusWord_step hno fun hi => (List.append_eq_nil_iff.mp (h.free_of_issues hi).1).2
    rw [waiting, waiting, List.append_assoc, ← hdbus, ← List.append_assoc, req_cycle,
      List.append_assoc, ← run_succ]

theorem inv_run (hno : ∀ u, ¬Collides (run DP inp sr u) (inp u)) (t : ℕ) :
    Inv (run DP inp sr t) := by
  induction t with
  | zero =>
    refine ⟨Nat.zero_le 1, ?_, ?_, ?_⟩
    · rintro (hne | hne) <;> exact absurd rfl hne
    · exact fun hv => absurd hv Bool.false_ne_true
    · exact fun hin => absurd hin Bool.false_ne_true
  | succ t ih => exact ih.step (flows_run ih (hno t))

/-- The requests that wait are those sent and not accepted. -/
theorem conserves (hno : ∀ u, ¬Collides (run DP inp sr u) (inp u)) :
    Lib.Conserves (fun u => issues (run DP inp sr u) (inp u))
      (fun u => (dmAccepts (run DP inp sr u) (inp u)).map Prod.fst)
      fun u => waiting (run DP inp sr u) where
  start := rfl
  cycle u := (flows_run (inv_run hno u) (hno u)).waits

/-! ### Scans -/

/-- The debug-access scan that ends in event `t` began in event `u`. -/
structure Scan (DP : ℕ) [NeZero DP] (inp : ℕ → In) (sr : BitVec 41) (u t : ℕ) : Prop where
  lt : u < t
  begins : captures (run DP inp sr u) (inp u) = true
  ends : updates (run DP inp sr t) (inp t) = true
  between : ∀ w, u < w → w < t →
    captures (run DP inp sr w) (inp w) = false ∧ updates (run DP inp sr w) (inp w) = false

/-- What was captured when the scan began says what becomes of its word. -/
def scanned (s : State DP) (i : In) (word : BitVec 41) : List (BitVec 41) :=
  if busy s i then [] else [if nonzeroResp s i then 0#41 else word]

theorem scan_flags (hin : inScan (run DP inp sr t).dtm.jtagStateReg = true)
    (hacc : JtagDtm.debugAccess (run DP inp sr t).dtm = true) :
    ∃ u < t, captures (run DP inp sr u) (inp u) = true ∧
      (∀ w, u < w → w < t →
        captures (run DP inp sr w) (inp w) = false ∧ updates (run DP inp sr w) (inp w) = false) ∧
      (run DP inp sr t).dtm.skipOpReg = busy (run DP inp sr u) (inp u) ∧
      (run DP inp sr t).dtm.downgradeOpReg =
        (!busy (run DP inp sr u) (inp u) && nonzeroResp (run DP inp sr u) (inp u)) := by
  induction t with
  | zero => exact absurd hin Bool.false_ne_true
  | succ t ih =>
    have hextend : ∀ {u : ℕ}, captures (run DP inp sr t) (inp t) = false →
        updates (run DP inp sr t) (inp t) = false →
        (∀ w, u < w → w < t →
          captures (run DP inp sr w) (inp w) = false ∧ updates (run DP inp sr w) (inp w) = false) →
        ∀ w, u < w → w < t + 1 →
          captures (run DP inp sr w) (inp w) = false ∧
            updates (run DP inp sr w) (inp w) = false := by
      intro u hc hu hold w hw1 hw2
      obtain hlt | rfl : w < t ∨ w = t := by omega
      · exact hold w hw1 hlt
      · exact ⟨hc, hu⟩
    rw [run_succ] at hin hacc ⊢
    cases htck : (inp t).jtagTCK
    · rw [dtm_stay htck] at hin hacc ⊢
      obtain ⟨u, hut, hcap, hbetween, hflags⟩ := ih hin hacc
      refine ⟨u, by omega, hcap, hextend ?_ ?_ hbetween, hflags⟩
      · rw [captures, htck]
        rfl
      · rw [updates, htck]
        rfl
    · obtain ⟨hacc', ⟨hdr, hskip, hdown⟩ | ⟨hin', hup, hcap', hskip, hdown⟩⟩ :=
        scan_step htck hin hacc
      · refine ⟨t, Nat.lt_succ_self t, ?_, fun w hw1 hw2 => by omega, hskip, hdown⟩
        rw [captures, htck, JtagDtm.captureDr, hdr, hacc']
        rfl
      · obtain ⟨u, hut, hcap, hbetween, hskip', hdown'⟩ := ih hin' hacc'
        refine ⟨u, by omega, hcap, hextend ?_ ?_ hbetween, hskip.trans hskip', hdown.trans hdown'⟩
        · rw [captures, JtagDtm.captureDr, beq_false_of_ne hcap', Bool.and_false, Bool.false_and]
        · rw [updates, JtagDtm.updateDr, beq_false_of_ne hup, Bool.and_false, Bool.false_and]

/-- What a scan sends was decided when it began. -/
theorem exists_scan (hup : updates (run DP inp sr t) (inp t) = true) :
    ∃ u, Scan DP inp sr u t ∧ issues (run DP inp sr t) (inp t) =
      scanned (run DP inp sr u) (inp u) (run DP inp sr t).dtm.shiftReg := by
  have hdr := hup
  simp only [updates, Bool.and_eq_true] at hdr
  obtain ⟨u, hut, hcap, hbetween, hskip, hdown⟩ :=
    scan_flags (inScan_of_updateDr hdr.1.2) hdr.2
  refine ⟨u, ⟨hut, hcap, hup, hbetween⟩, ?_⟩
  rw [issues, hup, if_pos rfl, hskip, hdown, scanned]
  cases busy (run DP inp sr u) (inp u)
  · rfl
  · rfl

/-! ### Responses -/

theorem dbusReg_run (t : ℕ) : (run DP inp sr t).dtm.dbusReg =
    lastEmitted (fun u => issues (run DP inp sr u) (inp u)) 0#41 t := by
  induction t with
  | zero => rfl
  | succ t ih =>
    rw [Lib.lastEmitted_succ, ← ih, run_succ, issues, updates]
    cases htck : (inp t).jtagTCK
    · rw [dtm_stay htck]
      rfl
    · have hd : (step (inp t) (run DP inp sr t)).dtm.dbusReg =
          JtagDtm.dbusRegNxt (run DP inp sr t).dtm := by
        rw [dtm_step htck]
        rfl
      rw [hd, JtagDtm.dbusRegNxt, Bool.true_and]
      cases JtagDtm.updateDr (run DP inp sr t).dtm && JtagDtm.debugAccess (run DP inp sr t).dtm
      · rfl
      · cases (run DP inp sr t).dtm.skipOpReg <;> rfl

theorem respDat_run (t : ℕ) : (run DP inp sr t).resp.tx.datR =
    lastEmitted (fun u => (dmAccepts (run DP inp sr u) (inp u)).map Prod.snd) 0#36 t := by
  induction t with
  | zero => rfl
  | succ t ih =>
    rw [Lib.lastEmitted_succ, ← ih, ← accepted_resp]
    by_cases ha : Cdc.accepted (run DP inp sr t).resp (respIn (run DP inp sr t) (inp t)) = []
    · rw [ha]
      exact Cdc.datR_of_not_accepted ha
    · rw [Cdc.datR_of_accepted ha]
      rfl

theorem nonbusyResponse_eq (s : JtagDtm.State) (i : JtagDtm.In) :
    JtagDtm.nonbusyResponse s i = s.dbusReg.extractLsb' 36 5 ++ i.iDtmRespBits := by
  exact BitVec.eq_of_toNat_eq (@Lib.append_append_parts 5 34 2 _ i.iDtmRespBits)

/-- The word that a scan without the busy status captures. -/
theorem shiftReg_of_captures (hcap : captures (run DP inp sr t) (inp t) = true)
    (hbusy : busy (run DP inp sr t) (inp t) = false) :
    (run DP inp sr (t + 1)).dtm.shiftReg =
      (run DP inp sr t).dtm.dbusReg.extractLsb' 36 5 ++ (run DP inp sr t).resp.rx.bufDatR := by
  simp only [captures, Bool.and_eq_true] at hcap
  obtain ⟨⟨htck, hdr⟩, hacc⟩ := hcap
  rw [JtagDtm.captureDr, beq_iff_eq] at hdr
  rw [JtagDtm.debugAccess, beq_iff_eq] at hacc
  have hs : (run DP inp sr (t + 1)).dtm.shiftReg =
      JtagDtm.shiftRegNxt (run DP inp sr t).dtm (dtmIn (run DP inp sr t) (inp t)) := by
    rw [run_succ, dtm_step htck]
    rfl
  have hdata : (dtmIn (run DP inp sr t) (inp t)).iDtmRespBits =
      (run DP inp sr t).resp.rx.bufDatR := rfl
  rw [hs, ← hdata, ← nonbusyResponse_eq, JtagDtm.shiftRegNxt, hdr, hacc]
  simp only [busy] at hbusy
  rw [hbusy]
  rfl

/-- Nothing waits: the last request sent is the last one answered, and the scan reads its answer. -/
theorem response_of_capture (hno : ∀ u, ¬Collides (run DP inp sr u) (inp u))
    (hcap : captures (run DP inp sr t) (inp t) = true)
    (hbusy : busy (run DP inp sr t) (inp t) = false) {q : BitVec 41}
    (hq : (emitted (fun u => issues (run DP inp sr u) (inp u)) 0 t).getLast? = some q) :
    ∃ r, (emitted (fun u => dmAccepts (run DP inp sr u) (inp u)) 0 t).getLast? = some (q, r) ∧
      (run DP inp sr (t + 1)).dtm.shiftReg = q.extractLsb' 36 5 ++ r := by
  obtain ⟨hw, -, htx⟩ := (inv_run hno t).free_of_capture hcap hbusy
  have hdbus : (run DP inp sr t).dtm.dbusReg = q := by
    rw [dbusReg_run, lastEmitted, hq]
    rfl
  have hsent := (conserves hno).emitted_eq t
  rw [hw, List.append_nil, Lib.emitted_map] at hsent
  rw [hsent, List.getLast?_map] at hq
  obtain ⟨⟨q', r⟩, hlast, hfst⟩ := Option.map_eq_some_iff.mp hq
  obtain rfl : q' = q := hfst
  refine ⟨r, hlast, ?_⟩
  have hdat : (run DP inp sr t).resp.rx.bufDatR = r := by
    rw [resp_run] at htx ⊢
    rw [Cdc.bufDatR_eq t htx, ← resp_run, respDat_run, lastEmitted, Lib.emitted_map,
      List.getLast?_map, hlast]
    rfl
  rw [shiftReg_of_captures hcap hbusy, hdbus, hdat]

/-! ## Progress -/

/-- Both clocks rise again and again, and the debug module's also while the system bus leaves the debug
RAM alone. -/
structure Fair (DP : ℕ) [NeZero DP] (inp : ℕ → In) (sr : BitVec 41) : Prop where
  tck : ∀ u, ∃ v, u ≤ v ∧ (inp v).jtagTCK = true
  dm : ∀ u, ∃ v, u ≤ v ∧ (inp v).dmClk = true ∧
    DebugModule.icbAccessDbgramEna (dmIn (run DP inp sr v) (inp v)) = false

theorem Fair.dmClk (h : Fair DP inp sr) (u : ℕ) : ∃ v, u ≤ v ∧ (inp v).dmClk = true := by
  obtain ⟨v, huv, hclk, -⟩ := h.dm u
  exact ⟨v, huv, hclk⟩

/-- A request waits from `t` on. -/
structure Stuck (DP : ℕ) [NeZero DP] (inp : ℕ → In) (sr : BitVec 41) (t : ℕ) : Prop where
  waits : ∀ u, t ≤ u → waiting (run DP inp sr u) ≠ []
  noAccept : ∀ u, t ≤ u → dmAccepts (run DP inp sr u) (inp u) = []
  noResp : ∀ u, t ≤ u → Cdc.inFlight (run DP inp sr u).resp = []

theorem stuck_of_waits (hno : ∀ u, ¬Collides (run DP inp sr u) (inp u))
    (hw : ∀ u, t ≤ u → waiting (run DP inp sr u) ≠ []) : Stuck DP inp sr t where
  waits := hw
  noAccept u hu := by
    have hi : issues (run DP inp sr u) (inp u) = [] := by
      by_contra hi
      exact hw u hu ((inv_run hno u).free_of_issues hi).1
    have hlen := congrArg List.length ((conserves hno).cycle u)
    have hone := (inv_run hno u).one
    have hnext := List.length_pos_iff.mpr (hw (u + 1) (by omega))
    simp only [hi, List.length_append, List.length_nil, List.length_map] at hlen
    exact List.eq_nil_of_length_eq_zero (by omega)
  noResp u hu := by
    have hone := (inv_run hno u).one
    have hpos := List.length_pos_iff.mpr (hw u hu)
    exact List.eq_nil_of_length_eq_zero (by omega)

theorem Stuck.mono (h : Stuck DP inp sr t) {u : ℕ} (hu : t ≤ u) : Stuck DP inp sr u where
  waits v hv := h.waits v (Nat.le_trans hu hv)
  noAccept v hv := h.noAccept v (Nat.le_trans hu hv)
  noResp v hv := h.noResp v (Nat.le_trans hu hv)

/-- No answer is under way, so the crossing gets ready for one. -/
theorem Stuck.resp_ready (h : Stuck DP inp sr t) (hfair : Fair DP inp sr) :
    ∃ u, t ≤ u ∧ ∀ v, u ≤ v → CdcTx.iRdy (run DP inp sr v).resp.tx = true := by
  have hword : Cdc.txWord (run DP inp sr t).resp = [] :=
    (List.append_eq_nil_iff.mp (h.noResp t (Nat.le_refl t))).2
  rw [resp_run] at hword
  obtain ⟨u, hu, hready⟩ := @Cdc.eventually_ready _ DP DP _ _ _ _ hfair.dmClk hfair.tck hword fun v hv => by
    rw [← resp_run, accepted_resp, h.noAccept v hv]
    rfl
  refine ⟨u, hu, fun v hv => ?_⟩
  rw [resp_run]
  exact hready v hv

theorem Stuck.enters (h : Stuck DP inp sr t) (hfair : Fair DP inp sr) :
    ∃ u, t ≤ u ∧ Cdc.inFlight (run DP inp sr u).req ≠ [] := by
  by_contra hnone
  have hnil : ∀ u, t ≤ u → Cdc.inFlight (run DP inp sr u).req = [] := fun u hu => by
    by_contra hne
    exact hnone ⟨u, hu, hne⟩
  have hacc : ∀ u, t ≤ u →
      Cdc.accepted (run DP inp sr u).req (reqIn (run DP inp sr u) (inp u)) = [] := fun u hu => by
    have hcycle := @req_cycle DP _ inp sr u
    rw [h.noAccept u hu, hnil u hu, hnil (u + 1) (by omega)] at hcycle
    exact hcycle
  have hword : Cdc.txWord (run DP inp sr t).req = [] :=
    (List.append_eq_nil_iff.mp (hnil t (Nat.le_refl t))).2
  rw [req_run] at hword
  obtain ⟨u, hu, hready⟩ := @Cdc.eventually_ready _ DP DP _ _ _ _ hfair.tck hfair.dmClk hword fun v hv => by
    rw [← req_run]
    exact hacc v hv
  obtain ⟨v, hv, htck⟩ := hfair.tck u
  have hvld : (run DP inp sr v).dtm.dbusValidReg = true := by
    by_contra hvld
    refine h.waits v (by omega) ?_
    rw [waiting, hnil v (by omega), dbusWord, if_neg hvld]
    rfl
  have hno := hacc v (by omega)
  have hrdy : CdcTx.iRdy (run DP inp sr v).req.tx = true := by
    rw [req_run]
    exact hready v hv
  rw [accepted_req, htck, hvld, hrdy] at hno
  cases hno

theorem Stuck.rxWord_cycle (h : Stuck DP inp sr t) {u : ℕ} (hu : t ≤ u) :
    Cdc.rxWord (run DP inp sr u).req ++
        Cdc.sampled (run DP inp sr u).req (reqIn (run DP inp sr u) (inp u)) =
      Cdc.rxWord (run DP inp sr (u + 1)).req := by
  have hcycle := Cdc.rxWord_cycle (run DP inp sr u).req (reqIn (run DP inp sr u) (inp u))
  rw [handedOut_req, h.noAccept u hu, List.map_nil, List.nil_append] at hcycle
  exact hcycle

theorem Stuck.arrives (h : Stuck DP inp sr t) (hfair : Fair DP inp sr)
    (hreq : Cdc.inFlight (run DP inp sr t).req ≠ []) :
    ∃ u, t ≤ u ∧ Cdc.rxWord (run DP inp sr u).req ≠ [] := by
  by_contra hnone
  have hnil : ∀ u, t ≤ u → Cdc.rxWord (run DP inp sr u).req = [] := fun u hu => by
    by_contra hne
    exact hnone ⟨u, hu, hne⟩
  have hword : Cdc.txWord (run DP inp sr t).req ≠ [] := by
    have hfl : Cdc.inFlight (run DP inp sr t).req =
        Cdc.rxWord (run DP inp sr t).req ++ Cdc.txWord (run DP inp sr t).req := rfl
    rw [hfl, hnil t (Nat.le_refl t)] at hreq
    exact hreq
  rw [req_run] at hword
  obtain ⟨u, hu, hs⟩ := @Cdc.eventually_samples _ DP DP _ _ _ _ hfair.dmClk hword fun v hv => by
    rw [← req_run]
    by_contra hbuf
    have hempty := hnil v hv
    rw [Cdc.rxWord, if_pos (by simpa using hbuf)] at hempty
    cases hempty
  rw [← req_run] at hs
  have hcycle := h.rxWord_cycle hu
  rw [hnil u hu, hnil (u + 1) (by omega), Cdc.sampled, hs] at hcycle
  cases hcycle

theorem Stuck.rx_stays (h : Stuck DP inp sr t) (hrx : Cdc.rxWord (run DP inp sr t).req ≠ []) {u : ℕ}
    (hu : t ≤ u) : Cdc.rxWord (run DP inp sr u).req ≠ [] := by
  induction u, hu using Nat.le_induction with
  | base => exact hrx
  | succ u hu ih =>
    rw [← h.rxWord_cycle hu]
    exact fun hnil => ih (List.append_eq_nil_iff.mp hnil).1

theorem Fair.not_stuck (hfair : Fair DP inp sr) : ¬Stuck DP inp sr t := by
  intro h
  obtain ⟨u, hu, hready⟩ := h.resp_ready hfair
  obtain ⟨v, huv, hreq⟩ := (h.mono hu).enters hfair
  obtain ⟨w, hvw, hrx⟩ := (h.mono (Nat.le_trans hu huv)).arrives hfair hreq
  obtain ⟨x, hwx, hclk, hram⟩ := hfair.dm w
  have hvld : (run DP inp sr x).req.rx.bufVldR = true := by
    by_contra hvld
    exact (h.mono (Nat.le_trans hu (Nat.le_trans huv hvw))).rx_stays hrx hwx
      (by rw [Cdc.rxWord, if_neg hvld])
  have hdm := h.noAccept x (by omega)
  have hrdy : (dmIn (run DP inp sr x) (inp x)).iDtmRespReady = true := hready x (by omega)
  have hval : (dmIn (run DP inp sr x) (inp x)).iDtmReqValid = true := hvld
  have hcondi : DebugModule.iDtmReqCondi (dmIn (run DP inp sr x) (inp x)) = true := by
    rw [DebugModule.iDtmReqCondi, hram]
    split <;> rfl
  rw [dmAccepts, hclk, DebugModule.iDtmReqHsked, DebugModule.iDtmReqReady, hval, hcondi, hrdy] at hdm
  cases hdm

theorem eventually_free (hno : ∀ u, ¬Collides (run DP inp sr u) (inp u)) (hfair : Fair DP inp sr)
    (t : ℕ) : ∃ u, t ≤ u ∧ waiting (run DP inp sr u) = [] := by
  by_contra hnone
  refine hfair.not_stuck (stuck_of_waits hno fun u (hu : t ≤ u) hw => ?_)
  exact hnone ⟨u, hu, hw⟩

/-- What has been sent is accepted at last. -/
theorem eventually_accepted (hno : ∀ u, ¬Collides (run DP inp sr u) (inp u))
    (hfair : Fair DP inp sr) (t : ℕ) :
    ∃ u, emitted (fun v => issues (run DP inp sr v) (inp v)) 0 t <+:
      (emitted (fun v => dmAccepts (run DP inp sr v) (inp v)) 0 u).map Prod.fst := by
  obtain ⟨u, hu, hw⟩ := eventually_free hno hfair t
  refine ⟨u, ?_⟩
  have hsent := (conserves hno).emitted_eq u
  rw [hw, List.append_nil, Lib.emitted_map] at hsent
  rw [← hsent, Lib.emitted_append (Nat.zero_le t) hu]
  exact List.prefix_append _ _

/-! ## Every request exactly once -/

/-- What the scans of a run, the requests and the responses have to do with each other. -/
structure Performs (DP : ℕ) [NeZero DP] (inp : ℕ → In) (sr : BitVec 41) (t : ℕ) : Prop where
  /-- A scan that ends sends what was decided when it began. -/
  scan : updates (run DP inp sr t) (inp t) = true →
    ∃ u, Scan DP inp sr u t ∧ issues (run DP inp sr t) (inp t) =
      scanned (run DP inp sr u) (inp u) (run DP inp sr t).dtm.shiftReg
  /-- The debug module accepts the requests in order, each once. -/
  order : (emitted (fun u => dmAccepts (run DP inp sr u) (inp u)) 0 t).map Prod.fst <+:
    emitted (fun u => issues (run DP inp sr u) (inp u)) 0 t
  one : (emitted (fun u => issues (run DP inp sr u) (inp u)) 0 t).length ≤
    (emitted (fun u => taken (run DP inp sr u) (inp u)) 0 t).length + 1
  /-- A scan that does not find it busy reads the answer to the last request. -/
  response : captures (run DP inp sr t) (inp t) = true → busy (run DP inp sr t) (inp t) = false →
    ∀ q, (emitted (fun u => issues (run DP inp sr u) (inp u)) 0 t).getLast? = some q →
      (emitted (fun u => dmAccepts (run DP inp sr u) (inp u)) 0 t).map Prod.fst =
          emitted (fun u => issues (run DP inp sr u) (inp u)) 0 t ∧
        ∃ r, (emitted (fun u => dmAccepts (run DP inp sr u) (inp u)) 0 t).getLast? = some (q, r) ∧
          (run DP inp sr (t + 1)).dtm.shiftReg = q.extractLsb' 36 5 ++ r

theorem conserves_resp : Lib.Conserves
    (fun u => (dmAccepts (run DP inp sr u) (inp u)).map Prod.snd)
    (fun u => taken (run DP inp sr u) (inp u)) fun u => Cdc.inFlight (run DP inp sr u).resp where
  start := rfl
  cycle := resp_cycle

theorem issued_le (hno : ∀ u, ¬Collides (run DP inp sr u) (inp u)) (t : ℕ) :
    (emitted (fun u => issues (run DP inp sr u) (inp u)) 0 t).length ≤
      (emitted (fun u => taken (run DP inp sr u) (inp u)) 0 t).length + 1 := by
  have hreq := congrArg List.length ((conserves hno).emitted_eq t)
  have hresp := congrArg List.length ((@conserves_resp DP _ inp sr).emitted_eq t)
  have hone := (inv_run hno t).one
  simp only [Lib.emitted_map, List.length_append, List.length_map] at hreq hresp
  omega

theorem requests_performed_once (hno : ∀ u, ¬Collides (run DP inp sr u) (inp u)) :
    (∀ t, Performs DP inp sr t) ∧
      (Fair DP inp sr → ∀ t, ∃ u, emitted (fun v => issues (run DP inp sr v) (inp v)) 0 t <+:
        (emitted (fun v => dmAccepts (run DP inp sr v) (inp v)) 0 u).map Prod.fst) := by
  refine ⟨fun t => ⟨exists_scan, ?_, issued_le hno t, fun hcap hbusy q hq => ⟨?_, ?_⟩⟩,
    eventually_accepted hno⟩
  · have hprefix := (conserves hno).isPrefix t
    rwa [Lib.emitted_map] at hprefix
  · have hsent := (conserves hno).emitted_eq t
    rw [((inv_run hno t).free_of_capture hcap hbusy).1, List.append_nil, Lib.emitted_map] at hsent
    exact hsent.symm
  · exact response_of_capture hno hcap hbusy hq

end
end

/-! ### Two runs -/

/-- An edge of TCK, and one of the debug module's clock; the system bus is quiet. -/
def still : In := ⟨false, false, false, false, false, 0#12, true, 0#32, true, 0#32⟩
def tck (tms tdi : Bool) : In := { still with jtagTCK := true, jtagTMS := tms, jtagTDI := tdi }
def dm : In := { still with dmClk := true }

/-- The events of `l`, and then both clocks together for ever, with TMS low. -/
def drive (l : List In) (t : ℕ) : In := l.getD t { tck false false with dmClk := true }

/-- From reset the debug-access register is selected; a scan without a shift is made. -/
def selectAndScan : List In :=
  [tck false false, tck true false, tck true false, tck false false, tck false false,
    tck false true, tck false false, tck false false, tck false false, tck true true, tck true false,
    tck true false, tck false false, tck true false, tck true false, tck false false]

instance (s : State 2) (i : In) : Decidable (Collides s i) :=
  inferInstanceAs (Decidable (_ ∧ _ ∧ _ ∧ _))

theorem drive_tail (l : List In) {t : ℕ} (ht : l.length ≤ t) :
    drive l t = { tck false false with dmClk := true } := by
  rw [drive, List.getD_eq_getElem?_getD, List.getElem?_eq_none ht]
  rfl

/-- In run-test/idle with TMS low the port stays there. -/
theorem drive_idle {l : List In} (hend : (run 2 (drive l) 0#41 l.length).dtm.jtagStateReg = .runTestIdle)
    {t : ℕ} (ht : l.length ≤ t) : (run 2 (drive l) 0#41 t).dtm.jtagStateReg = .runTestIdle := by
  induction t, ht using Nat.le_induction with
  | base => exact hend
  | succ t ht ih =>
    rw [run_succ, drive_tail l ht, dtm_step rfl]
    change JtagDtm.tapNxt false _ = _
    rw [ih]
    rfl

theorem drive_no_collision {l : List In}
    (hstart : ∀ t < l.length, ¬Collides (run 2 (drive l) 0#41 t) (drive l t))
    (hend : (run 2 (drive l) 0#41 l.length).dtm.jtagStateReg = .runTestIdle) (t : ℕ) :
    ¬Collides (run 2 (drive l) 0#41 t) (drive l t) := by
  obtain hlt | hle := Nat.lt_or_ge t l.length
  · exact hstart t hlt
  · rintro ⟨-, hup, -⟩
    rw [JtagDtm.updateDr, drive_idle hend hle] at hup
    cases hup

theorem drive_fair (l : List In) : Fair 2 (drive l) 0#41 where
  tck u := ⟨max u l.length, Nat.le_max_left _ _, by rw [drive_tail l (Nat.le_max_right _ _)]; rfl⟩
  dm u := by
    refine ⟨max u l.length, Nat.le_max_left _ _, ?_⟩
    rw [drive_tail l (Nat.le_max_right _ _)]
    exact ⟨rfl, rfl⟩

theorem requests_performed_once_selectAndScan :
    (∀ t, Performs 2 (drive selectAndScan) 0#41 t) ∧
      ∀ t, ∃ u, emitted (fun v => issues (run 2 (drive selectAndScan) 0#41 v)
          (drive selectAndScan v)) 0 t <+:
        (emitted (fun v => dmAccepts (run 2 (drive selectAndScan) 0#41 v)
          (drive selectAndScan v)) 0 u).map Prod.fst := by
  have hno := @drive_no_collision selectAndScan (by decide +kernel) (by decide +kernel)
  exact ⟨(requests_performed_once hno).1, (requests_performed_once hno).2 (drive_fair _)⟩

/-- Two scans, each with time for its request, and a third that captures the busy status and ends just
when the second request enters the crossing. -/
def threeScans : List In :=
  selectAndScan ++ [tck false false] ++ List.replicate 4 dm ++
    [tck false false, tck false false, tck false false, tck true false, tck false false, tck true false,
      tck true false, tck true false, tck false false] ++ List.replicate 3 dm ++
    [tck true false, tck true false, tck false false] ++ List.replicate 4 dm ++
    List.replicate 3 (tck false false) ++ List.replicate 3 dm ++ List.replicate 3 (tck false false) ++
    List.replicate 4 dm

/-- The two requests are accepted as three. -/
theorem busy_scan_repeats_request : ¬Performs 2 (drive threeScans) 0#41 threeScans.length := by
  intro h
  have hle := h.order.length_le
  rw [List.length_map] at hle
  revert hle
  decide +kernel

end E203.Link
