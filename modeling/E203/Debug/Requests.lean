import E203.Cdc.Liveness
import E203.Rtl.JtagDtm

/-! # One request at a time

* `issues`, `dmAccepts`, `taken`: a scan sends a request, the debug module accepts and answers one, a
  scan takes a response.
* `waiting`: the request that is sent and not accepted yet.
* `Collides`: a scan ends in the event in which a waiting request enters the crossing.
* `Inv`: at most one request or response is under way; `Inv.step`: an event without a collision keeps it.
-/

namespace E203.Link
set_option autoImplicit false

section
variable {DP : ℕ} [NeZero DP]

/-! ## Events -/

section
variable (s : State DP) (i : In)

def busy : Bool := JtagDtm.busy s.dtm (dtmIn s i)
def nonzeroResp : Bool := JtagDtm.nonzeroResp s.dtm (dtmIn s i)

/-- A debug-access scan begins. -/
def captures : Bool := i.jtagTCK && JtagDtm.captureDr s.dtm && JtagDtm.debugAccess s.dtm

/-- A debug-access scan ends. -/
def updates : Bool := i.jtagTCK && JtagDtm.updateDr s.dtm && JtagDtm.debugAccess s.dtm

/-- The request that a scan sends when it ends. -/
def issues : List (BitVec 41) :=
  if updates s i then
    if s.dtm.skipOpReg then [] else [if s.dtm.downgradeOpReg then 0#41 else s.dtm.shiftReg]
  else []

/-- The request that the debug module accepts, with its answer. -/
def dmAccepts : List (BitVec 41 × BitVec 36) :=
  if i.dmClk && DebugModule.iDtmReqHsked (dmIn s i) then
    [((dmIn s i).iDtmReqBits, DebugModule.iDtmRespBits s.dm (dmIn s i))]
  else []

/-- The response that a scan takes when it begins. -/
def taken : List (BitVec 36) := Cdc.handedOut s.resp (respIn s i)

/-- The request that has not entered the crossing. -/
def dbusWord : List (BitVec 41) := if s.dtm.dbusValidReg then [s.dtm.dbusReg] else []

/-- The request that is not accepted yet. -/
def waiting : List (BitVec 41) := Cdc.inFlight s.req ++ dbusWord s

/-- Some scan ends in the event in which the request that waits enters the crossing. -/
def Collides : Prop :=
  i.jtagTCK = true ∧ JtagDtm.updateDr s.dtm = true ∧ s.dtm.dbusValidReg = true ∧
    CdcTx.iRdy s.req.tx = true

end

/-- A data scan has begun. -/
def inScan : JtagDtm.Tap → Bool
  | .shiftDr | .exit1Dr | .pauseDr | .exit2Dr | .updateDr => true
  | _ => false

/-! ## The invariant -/

structure Inv (s : State DP) : Prop where
  one : (waiting s).length + (Cdc.inFlight s.resp).length ≤ 1
  busy : Cdc.inFlight s.req ≠ [] ∨ Cdc.inFlight s.resp ≠ [] → s.dtm.busyReg = true
  /-- The busy flag is one period late. -/
  fresh : s.dtm.dbusValidReg = true → s.dtm.busyReg = false →
    s.dtm.jtagStateReg = .selectDr ∨ s.dtm.jtagStateReg = .runTestIdle
  /-- During a scan that will send a request nothing is under way. -/
  scan : inScan s.dtm.jtagStateReg = true → JtagDtm.debugAccess s.dtm = true →
    s.dtm.skipOpReg = false → waiting s = [] ∧ Cdc.inFlight s.resp = []

section
variable {s : State DP} {i : In}

/-! ### The channels -/

theorem handedOut_req : Cdc.handedOut s.req (reqIn s i) = (dmAccepts s i).map Prod.fst := by
  rw [Cdc.handedOut, dmAccepts]
  change (if i.dmClk && DebugModule.iDtmReqHsked (dmIn s i) then [CdcRx.oDat s.req.rx] else []) = _
  split <;> rfl

theorem accepted_resp : Cdc.accepted s.resp (respIn s i) = (dmAccepts s i).map Prod.snd := by
  have hset : CdcTx.vldSet s.resp.tx (Cdc.txIn s.resp (respIn s i)) =
      DebugModule.iDtmReqHsked (dmIn s i) := by
    change (DebugModule.iDtmRespValid (dmIn s i) && (dmIn s i).iDtmRespReady) = _
    rw [DebugModule.iDtmReqHsked, DebugModule.iDtmReqReady, DebugModule.iDtmRespValid]
    cases (dmIn s i).iDtmReqValid <;> cases DebugModule.iDtmReqCondi (dmIn s i) <;> rfl
  rw [Cdc.accepted, hset, dmAccepts]
  change (if i.dmClk && _ then _ else []) = _
  split <;> rfl

theorem accepted_req : Cdc.accepted s.req (reqIn s i) =
    if i.jtagTCK && s.dtm.dbusValidReg && CdcTx.iRdy s.req.tx then [s.dtm.dbusReg] else [] := by
  rw [Bool.and_assoc]
  rfl

/-- What a period of TCK does to the request register; other events leave it alone. -/
theorem dtm_step (h : i.jtagTCK = true) : (step i s).dtm = JtagDtm.step s.dtm (dtmIn s i) := by
  rw [step, h]
  rfl

theorem dtm_stay (h : i.jtagTCK = false) : (step i s).dtm = s.dtm := by
  rw [step, h]
  rfl

/-- A request enters the crossing, or is sent, or waits. -/
theorem dbusWord_step (hno : ¬Collides s i) (hfree : issues s i ≠ [] → dbusWord s = []) :
    Cdc.accepted s.req (reqIn s i) ++ dbusWord (step i s) = dbusWord s ++ issues s i := by
  rw [accepted_req]
  cases htck : i.jtagTCK
  · rw [dbusWord, dtm_stay htck, dbusWord, issues, updates, htck]
    simp
  · have hv : (step i s).dtm.dbusValidReg = JtagDtm.dbusValidRegNxt s.dtm (dtmIn s i) := by
      rw [dtm_step htck]
      rfl
    have hd : (step i s).dtm.dbusReg = JtagDtm.dbusRegNxt s.dtm := by
      rw [dtm_step htck]
      rfl
    rw [dbusWord, hv, hd, JtagDtm.dbusValidRegNxt, JtagDtm.dbusRegNxt]
    cases hup : JtagDtm.updateDr s.dtm
    · have hiss : issues s i = [] := by rw [issues, updates, hup]; simp
      have hready : (dtmIn s i).iDtmReqReady = CdcTx.iRdy s.req.tx := rfl
      rw [hiss, hready, dbusWord]
      cases s.dtm.dbusValidReg <;> cases CdcTx.iRdy s.req.tx <;> simp
    · -- the request does not enter now
      have hwait : (true && s.dtm.dbusValidReg && CdcTx.iRdy s.req.tx) = false := by
        rw [Bool.true_and]
        exact Bool.eq_false_iff.mpr fun hb => hno ⟨htck, hup, (Bool.and_eq_true _ _).mp hb⟩
      rw [hwait]
      rw [issues, updates, htck, hup] at hfree ⊢
      cases hacc : JtagDtm.debugAccess s.dtm
      · simp [dbusWord]
      · cases hskip : s.dtm.skipOpReg
        · have hnone : dbusWord s = [] := hfree (by simp [hacc, hskip])
          rw [hnone]
          simp
        · simp [dbusWord]

/-- What an event does to the words under way. -/
structure Flows (s : State DP) (i : In) : Prop where
  waits : waiting s ++ issues s i = (dmAccepts s i).map Prod.fst ++ waiting (step i s)
  resps : Cdc.inFlight s.resp ++ (dmAccepts s i).map Prod.snd =
    taken s i ++ Cdc.inFlight (step i s).resp
  reqs : Cdc.inFlight s.req ++ Cdc.accepted s.req (reqIn s i) =
    (dmAccepts s i).map Prod.fst ++ Cdc.inFlight (step i s).req

/-! ### One event -/

omit [NeZero DP] in
theorem issues_ne_nil (h : issues s i ≠ []) : i.jtagTCK = true ∧ JtagDtm.updateDr s.dtm = true ∧
    JtagDtm.debugAccess s.dtm = true ∧ s.dtm.skipOpReg = false := by
  rw [issues] at h
  cases hup : updates s i
  · rw [hup] at h
    exact absurd rfl h
  · rw [hup, if_pos rfl] at h
    simp only [updates, Bool.and_eq_true] at hup
    refine ⟨hup.1.1, hup.1.2, hup.2, ?_⟩
    cases hskip : s.dtm.skipOpReg
    · rfl
    · rw [hskip] at h
      exact absurd rfl h

omit [NeZero DP] in
theorem inScan_of_updateDr (h : JtagDtm.updateDr s.dtm = true) : inScan s.dtm.jtagStateReg = true := by
  rw [JtagDtm.updateDr, beq_iff_eq] at h
  rw [h]
  rfl

omit [NeZero DP] in
theorem Inv.free_of_issues (h : Inv s) (hi : issues s i ≠ []) :
    waiting s = [] ∧ Cdc.inFlight s.resp = [] := by
  obtain ⟨-, hup, hacc, hskip⟩ := issues_ne_nil hi
  exact h.scan (inScan_of_updateDr hup) hacc hskip

omit [NeZero DP] in
theorem issues_length : (issues s i).length ≤ 1 := by
  rw [issues]
  split
  · split <;> simp
  · simp

/-- A scan that begins without the busy status takes what is under way. -/
theorem Inv.free_of_capture (h : Inv s) (hcap : captures s i = true) (hbusy : Link.busy s i = false) :
    waiting s = [] ∧ (Cdc.inFlight s.resp = [] ∨ Cdc.inFlight s.resp = taken s i) ∧
      Cdc.txWord s.resp = [] := by
  simp only [captures, Bool.and_eq_true] at hcap
  obtain ⟨⟨htck, hdr⟩, hacc⟩ := hcap
  have hone := h.one
  simp only [Link.busy, JtagDtm.busy, Bool.or_eq_false_iff] at hbusy
  cases hv : s.resp.rx.bufVldR
  · have hflag : s.dtm.busyReg = false := by
      simpa [dtmIn, CdcRx.oVld, hv] using hbusy.1
    have hnone : Cdc.inFlight s.req = [] ∧ Cdc.inFlight s.resp = [] := by
      constructor
      · by_contra hne
        exact Bool.false_ne_true (hflag.symm.trans (h.busy (.inl hne)))
      · by_contra hne
        exact Bool.false_ne_true (hflag.symm.trans (h.busy (.inr hne)))
    have hvld : s.dtm.dbusValidReg = false := by
      by_contra hvld
      rw [JtagDtm.captureDr, beq_iff_eq] at hdr
      obtain hst | hst := h.fresh (by simpa using hvld) hflag <;> rw [hdr] at hst <;> cases hst
    refine ⟨by rw [waiting, hnone.1, dbusWord, hvld]; rfl, .inl hnone.2, ?_⟩
    have htx := hnone.2
    rw [Cdc.inFlight, List.append_eq_nil_iff] at htx
    exact htx.2
  · have hrx : Cdc.rxWord s.resp = [s.resp.rx.bufDatR] := by rw [Cdc.rxWord, hv, if_pos rfl]
    have hfl : Cdc.inFlight s.resp = Cdc.rxWord s.resp ++ Cdc.txWord s.resp := rfl
    rw [hfl, hrx, List.length_append, List.length_singleton] at hone
    have htx : Cdc.txWord s.resp = [] := List.eq_nil_of_length_eq_zero (by omega)
    refine ⟨List.eq_nil_of_length_eq_zero (by omega), .inr ?_, htx⟩
    have hclr : CdcRx.bufVldClr s.resp.rx (Cdc.rxIn s.resp (respIn s i)) = true := by
      change (s.resp.rx.bufVldR && (JtagDtm.captureDr s.dtm && JtagDtm.debugAccess s.dtm &&
        s.resp.rx.bufVldR)) = true
      rw [hv, hdr, hacc]
      rfl
    have hclk : (respIn s i).rxClk = true := htck
    rw [hfl, hrx, htx, taken, Cdc.handedOut, hclk, hclr]
    rfl

/-- Once nothing is under way but what is taken, nothing is left. -/
theorem Flows.free (hf : Flows s i) (hw : waiting s = [])
    (hp : Cdc.inFlight s.resp = [] ∨ Cdc.inFlight s.resp = taken s i) (hi : issues s i = []) :
    waiting (step i s) = [] ∧ Cdc.inFlight (step i s).resp = [] := by
  have hwait := hf.waits
  rw [hw, hi, List.append_nil] at hwait
  obtain ⟨hdm, hw'⟩ := List.append_eq_nil_iff.mp hwait.symm
  have hresp := hf.resps
  rw [List.map_eq_nil_iff.mp hdm, List.map_nil, List.append_nil] at hresp
  refine ⟨hw', ?_⟩
  obtain hp | hp := hp
  · rw [hp] at hresp
    exact (List.append_eq_nil_iff.mp hresp.symm).2
  · rw [hp] at hresp
    exact List.self_eq_append_right.mp hresp

theorem Inv.step_one (h : Inv s) (hf : Flows s i) :
    (waiting (step i s)).length + (Cdc.inFlight (step i s).resp).length ≤ 1 := by
  have hwait := congrArg List.length hf.waits
  have hresp := congrArg List.length hf.resps
  simp only [List.length_append, List.length_map] at hwait hresp
  have hone := h.one
  by_cases hi : issues s i = []
  · rw [hi, List.length_nil] at hwait
    omega
  · obtain ⟨hw, hp⟩ := h.free_of_issues hi
    have hlen := @issues_length _ s i
    rw [hw, List.length_nil] at hwait
    rw [hp, List.length_nil] at hresp
    omega

/-- What is under way was under way before, or has just been sent into the crossing. -/
theorem Flows.was_under_way (hf : Flows s i) (hacc : Cdc.accepted s.req (reqIn s i) = [])
    (hnew : Cdc.inFlight (step i s).req ≠ [] ∨ Cdc.inFlight (step i s).resp ≠ []) :
    Cdc.inFlight s.req ≠ [] ∨ Cdc.inFlight s.resp ≠ [] := by
  by_contra hno
  rw [not_or, not_not, not_not] at hno
  have hreq := hf.reqs
  rw [hno.1, hacc, List.append_nil] at hreq
  obtain ⟨hdm, hq⟩ := List.append_eq_nil_iff.mp hreq.symm
  have hresp := hf.resps
  rw [List.map_eq_nil_iff.mp hdm, hno.2] at hresp
  exact hnew.elim (fun hne => hne hq) fun hne => hne (List.append_eq_nil_iff.mp hresp.symm).2

theorem Inv.step_busy (h : Inv s) (hf : Flows s i)
    (hnew : Cdc.inFlight (step i s).req ≠ [] ∨ Cdc.inFlight (step i s).resp ≠ []) :
    (step i s).dtm.busyReg = true := by
  cases htck : i.jtagTCK
  · rw [dtm_stay htck]
    exact h.busy (hf.was_under_way (by rw [accepted_req, htck]; rfl) hnew)
  · have hb : (step i s).dtm.busyReg = JtagDtm.busyRegNxt s.dtm (dtmIn s i) := by
      rw [dtm_step htck]
      rfl
    rw [hb, JtagDtm.busyRegNxt, JtagDtm.iDtmReqValid]
    cases hv : s.dtm.dbusValidReg
    · have hacc : Cdc.accepted s.req (reqIn s i) = [] := by
        rw [accepted_req, hv, Bool.and_false, Bool.false_and]
        rfl
      have hold := hf.was_under_way hacc hnew
      rw [if_neg Bool.false_ne_true]
      split
      · -- the response is taken, and it was all that was under way
        rename_i htake
        exfalso
        have hclk : (respIn s i).rxClk = true := htck
        have htaken : taken s i = [s.resp.rx.bufDatR] := by
          have hclr : CdcRx.bufVldClr s.resp.rx (Cdc.rxIn s.resp (respIn s i)) = true := htake
          rw [taken, Cdc.handedOut, hclk, hclr]
          rfl
        have hone := h.one
        have hreq := congrArg List.length hf.reqs
        have hresp := congrArg List.length hf.resps
        simp only [htaken, hacc, List.length_append, List.length_map, List.length_singleton,
          List.length_nil] at hreq hresp
        have hrx : Cdc.rxWord s.resp = [s.resp.rx.bufDatR] := by
          have hvld : s.resp.rx.bufVldR = true := ((Bool.and_eq_true _ _).mp htake).1
          rw [Cdc.rxWord, hvld, if_pos rfl]
        have hfl : Cdc.inFlight s.resp = Cdc.rxWord s.resp ++ Cdc.txWord s.resp := rfl
        have hlen : 1 ≤ (Cdc.inFlight s.resp).length := by
          rw [hfl, hrx, List.length_append, List.length_singleton]
          omega
        rw [waiting, List.length_append] at hone
        obtain hne | hne := hnew
        · have hpos := List.length_pos_iff.mpr hne
          omega
        · have hpos := List.length_pos_iff.mpr hne
          omega
      · exact h.busy hold
    · rfl

theorem Inv.step_fresh (h : Inv s) (hv : (step i s).dtm.dbusValidReg = true)
    (hb : (step i s).dtm.busyReg = false) :
    (step i s).dtm.jtagStateReg = .selectDr ∨ (step i s).dtm.jtagStateReg = .runTestIdle := by
  cases htck : i.jtagTCK
  · rw [dtm_stay htck] at hv hb ⊢
    exact h.fresh hv hb
  · have hb' : JtagDtm.busyRegNxt s.dtm (dtmIn s i) = false := by
      rw [← hb, dtm_step htck]
      rfl
    have hv' : JtagDtm.dbusValidRegNxt s.dtm (dtmIn s i) = true := by
      rw [← hv, dtm_step htck]
      rfl
    have hst : (step i s).dtm.jtagStateReg = JtagDtm.tapNxt i.jtagTMS s.dtm.jtagStateReg := by
      rw [dtm_step htck]
      rfl
    have hold : s.dtm.dbusValidReg = false := by
      rw [JtagDtm.busyRegNxt, JtagDtm.iDtmReqValid] at hb'
      cases hold : s.dtm.dbusValidReg
      · rfl
      · rw [hold] at hb'
        cases hb'
    have hup : JtagDtm.updateDr s.dtm = true := by
      rw [JtagDtm.dbusValidRegNxt, hold] at hv'
      cases hup : JtagDtm.updateDr s.dtm
      · rw [hup] at hv'
        simp at hv'
      · rfl
    rw [JtagDtm.updateDr, beq_iff_eq] at hup
    rw [hst, hup]
    cases i.jtagTMS
    · exact .inr rfl
    · exact .inl rfl

theorem inScan_before {tms : Bool} {tap : JtagDtm.Tap} (h : inScan (JtagDtm.tapNxt tms tap) = true) :
    tap = .captureDr ∨ inScan tap = true ∧ tap ≠ .updateDr := by
  cases tap <;> cases tms <;> first | exact absurd h (by decide) | simp [inScan]

theorem irReg_step (htck : i.jtagTCK = true) (h : inScan (step i s).dtm.jtagStateReg = true) :
    (step i s).dtm.irReg = s.dtm.irReg := by
  have hst : (step i s).dtm.jtagStateReg = JtagDtm.tapNxt i.jtagTMS s.dtm.jtagStateReg := by
    rw [dtm_step htck]
    rfl
  rw [hst] at h
  have hir : (step i s).dtm.irReg =
      if JtagDtm.tapNxt i.jtagTMS s.dtm.jtagStateReg = .testLogicReset then JtagDtm.REG_IDCODE
      else if JtagDtm.tapNxt i.jtagTMS s.dtm.jtagStateReg = .updateIr then
        (JtagDtm.shiftRegNxt s.dtm (dtmIn s i)).extractLsb' 0 5
      else s.dtm.irReg := by
    rw [dtm_step htck]
    rfl
  rw [hir, if_neg, if_neg]
  · intro heq
    rw [heq] at h
    cases h
  · intro heq
    rw [heq] at h
    cases h

/-- Between the edges of TCK, and during a scan, the flags of the scan stay. -/
theorem scan_step (htck : i.jtagTCK = true) (h : inScan (step i s).dtm.jtagStateReg = true)
    (hacc : JtagDtm.debugAccess (step i s).dtm = true) :
    JtagDtm.debugAccess s.dtm = true ∧
      (s.dtm.jtagStateReg = .captureDr ∧
          (step i s).dtm.skipOpReg = Link.busy s i ∧
          (step i s).dtm.downgradeOpReg = (!Link.busy s i && Link.nonzeroResp s i) ∨
        inScan s.dtm.jtagStateReg = true ∧ s.dtm.jtagStateReg ≠ .updateDr ∧
          s.dtm.jtagStateReg ≠ .captureDr ∧
          (step i s).dtm.skipOpReg = s.dtm.skipOpReg ∧
          (step i s).dtm.downgradeOpReg = s.dtm.downgradeOpReg) := by
  have hacc' : JtagDtm.debugAccess s.dtm = true := by
    rw [JtagDtm.debugAccess, irReg_step htck h] at hacc
    exact hacc
  have hskip : (step i s).dtm.skipOpReg = JtagDtm.skipOpRegNxt s.dtm (dtmIn s i) := by
    rw [dtm_step htck]
    rfl
  have hdown : (step i s).dtm.downgradeOpReg = JtagDtm.downgradeOpRegNxt s.dtm (dtmIn s i) := by
    rw [dtm_step htck]
    rfl
  have hst : (step i s).dtm.jtagStateReg = JtagDtm.tapNxt i.jtagTMS s.dtm.jtagStateReg := by
    rw [dtm_step htck]
    rfl
  rw [hst] at h
  rw [hskip, hdown, JtagDtm.skipOpRegNxt, JtagDtm.downgradeOpRegNxt, hacc', if_pos rfl, if_pos rfl,
    JtagDtm.captureDr, JtagDtm.updateDr]
  refine ⟨rfl, ?_⟩
  obtain hcap | ⟨hin, hup⟩ := inScan_before h
  · rw [hcap]
    exact .inl ⟨rfl, rfl, rfl⟩
  · have hcap : s.dtm.jtagStateReg ≠ .captureDr := by
      intro heq
      rw [heq] at hin
      cases hin
    rw [beq_false_of_ne hcap, beq_false_of_ne hup]
    exact .inr ⟨hin, hup, hcap, rfl, rfl⟩

theorem Inv.step_scan (h : Inv s) (hf : Flows s i)
    (hin : inScan (step i s).dtm.jtagStateReg = true)
    (hacc : JtagDtm.debugAccess (step i s).dtm = true) (hskip : (step i s).dtm.skipOpReg = false) :
    waiting (step i s) = [] ∧ Cdc.inFlight (step i s).resp = [] := by
  cases htck : i.jtagTCK
  · rw [dtm_stay htck] at hin hacc hskip
    obtain ⟨hw, hp⟩ := h.scan hin hacc hskip
    refine hf.free hw (.inl hp) ?_
    by_contra hi
    exact Bool.false_ne_true (htck.symm.trans (issues_ne_nil hi).1)
  · have hnone : s.dtm.jtagStateReg ≠ .updateDr → issues s i = [] := by
      intro hne
      by_contra hi
      exact hne (beq_iff_eq.mp (issues_ne_nil hi).2.1)
    obtain ⟨hacc', ⟨hcap, hbusy, -⟩ | ⟨hin', hup, -, hkeep, -⟩⟩ := scan_step htck hin hacc
    · have hcaps : captures s i = true := by rw [captures, htck, JtagDtm.captureDr, hcap, hacc']; rfl
      obtain ⟨hw, hp, -⟩ := h.free_of_capture hcaps (hbusy.symm.trans hskip)
      exact hf.free hw hp (hnone (by rw [hcap]; decide))
    · obtain ⟨hw, hp⟩ := h.scan hin' hacc' (hkeep.symm.trans hskip)
      exact hf.free hw (.inl hp) (hnone hup)

theorem Inv.step (h : Inv s) (hf : Flows s i) : Inv (Link.step i s) :=
  ⟨h.step_one hf, h.step_busy hf, h.step_fresh, h.step_scan hf⟩

end
end
end E203.Link
