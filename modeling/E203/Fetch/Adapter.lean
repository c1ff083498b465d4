import E203.Fetch.Lane
import E203.Lib.Machine

/-! # The fetch adapter in its environment: one response for each request

* `Sys`: the adapter together with the read that is outstanding on the memory bus and the history of
  accepted requests and delivered responses; `Sys.step` is one cycle.
* `Proto`: the protocol of the two channels: one request at a time, and memory responses only to
  outstanding reads.
* `Ctl`: what each state of the state machine says about the outstanding request and read.
* `Ctl.cases`: the four things a cycle can be; `Ctl.step`: every cycle keeps `Ctl`.
-/

namespace E203
set_option autoImplicit false

namespace Bypbuf
section
variable {α : Type*} {b : Bypbuf α} {iVld oRdy : Bool} {iDat : α}

theorem step_vld (h : b.vld = true → iVld = false) :
    (b.step iVld oRdy iDat).vld = (b.oVld iVld && !oRdy) := by
  cases hb : b.vld <;> cases iVld <;> cases oRdy <;>
    simp_all [step, ren, wen, byp, iRdy, oVld]

theorem step_dat (h : b.vld = true → iVld = false) (hv : (b.step iVld oRdy iDat).vld = true) :
    (b.step iVld oRdy iDat).dat = b.oDat iDat := by
  rw [step_vld h] at hv
  cases hb : b.vld <;> cases iVld <;> cases oRdy <;>
    simp_all [step, ren, wen, byp, iRdy, oVld, oDat]

theorem step_eq_self (hb : b.vld = false) (hi : iVld = false) : b.step iVld oRdy iDat = b := by
  cases b
  simp_all [step, ren, wen, byp, iRdy]

end
end Bypbuf

namespace Ift2icb

/-- The adapter with its environment and its history. -/
structure Sys where
  ift : State
  /-- The address of the outstanding read. -/
  cmd : Option (BitVec 32)
  /-- The address of the last read of the ITCM. -/
  held : Option (BitVec 32)
  /-- The ITCM held that lane and its port was free and not used in the last cycle. -/
  keep : Bool
  /-- The PCs of the accepted requests. -/
  reqs : List (BitVec 32)
  /-- The delivered instructions. -/
  rsps : List (BitVec 32)
deriving DecidableEq

section
variable (s : State) (i : In)

def ifuRspHsked : Bool := ifuRspValid s i && i.ifuRspReady

def memRspHsked : Bool :=
  (i.ifu2itcmIcbRspValid || i.ifu2biuIcbRspValid) && ifuIcbRspReady s

end

def Sys.step (i : In) (s : Sys) : Sys where
  ift := Ift2icb.step s.ift i
  cmd :=
    if ifuIcbCmdHsked s.ift i then some (ifuIcbCmdAddr s.ift i)
    else if memRspHsked s.ift i then none
    else s.cmd
  held :=
    if ifuIcbCmdHsked s.ift i && ifuIcbCmd2itcm s.ift i then some (ifuIcbCmdAddr s.ift i)
    else s.held
  keep := i.ifu2itcmHoldup && i.ifu2itcmIcbCmdReady && !ifu2itcmIcbCmdValid s.ift i
  reqs := if ifuReqHsked s.ift i then s.reqs ++ [i.ifuReqPc] else s.reqs
  rsps := if ifuRspHsked s.ift i then s.rsps ++ [ifuRspInstr s.ift i] else s.rsps

/-- The protocol of the channels. -/
structure Proto (region : BitVec 32) (i : In) (s : Sys) : Prop where
  regionEq : i.itcmRegionIndic = region
  /-- A request comes when the one before has its response, at the earliest together with it. -/
  one : i.ifuReqValid = true → s.reqs.length = s.rsps.length ∨ ifuRspHsked s.ift i = true
  itcmRsp : i.ifu2itcmIcbRspValid = true → ∃ a, s.cmd = some a ∧ inItcm region a = true
  biuRsp : i.ifu2biuIcbRspValid = true → ∃ a, s.cmd = some a ∧ inItcm region a = false

/-- What each state says about the outstanding request and the outstanding read. -/
def Sys.StateOk (s : Sys) : Prop :=
  match s.ift.icbStateR with
  | .idle => s.cmd = none ∧ s.reqs.length = s.rsps.length + s.ift.bypbuf.vld.toNat
  | .first =>
      s.ift.bypbuf.vld = false ∧ s.reqs.length = s.rsps.length + 1 ∧
        (s.cmd = none ↔ s.ift.reqNeed0uopR = true) ∧
        (s.ift.reqNeed0uopR = true → s.ift.reqNeed2uopR = false)
  | .wait2nd =>
      s.ift.bypbuf.vld = false ∧ s.reqs.length = s.rsps.length + 1 ∧ s.cmd = none ∧
        s.ift.reqNeed2uopR = true ∧ s.ift.reqNeed0uopR = false
  | .second =>
      s.ift.bypbuf.vld = false ∧ s.reqs.length = s.rsps.length + 1 ∧ s.cmd ≠ none ∧
        s.ift.reqNeed2uopR = true ∧ s.ift.reqNeed0uopR = false

/-- The control invariant. -/
structure Ctl (region : BitVec 32) (s : Sys) : Prop where
  /-- The response is routed from where the read went. -/
  route : ∀ a, s.cmd = some a →
    s.ift.icbCmd2itcmR = inItcm region a ∧ s.ift.icbCmd2biuR = !inItcm region a
  state : s.StateOk

section
variable {region : BitVec 32} {s : Sys} {i : In}

/-! ## Responses -/

theorem Ctl.icbRspValid_none (hp : Proto region i s) (hcmd : s.cmd = none) :
    i.ifu2itcmIcbRspValid = false ∧ i.ifu2biuIcbRspValid = false := by
  constructor
  · by_contra h
    obtain ⟨a, ha, -⟩ := hp.itcmRsp (by simpa using h)
    simp [hcmd] at ha
  · by_contra h
    obtain ⟨a, ha, -⟩ := hp.biuRsp (by simpa using h)
    simp [hcmd] at ha

/-- The adapter sees a response exactly when a memory gives one. -/
theorem Ctl.ifuIcbRspValid_eq (h : Ctl region s) (hp : Proto region i s) :
    ifuIcbRspValid s.ift i = (i.ifu2itcmIcbRspValid || i.ifu2biuIcbRspValid) := by
  cases hcmd : s.cmd with
  | none =>
    obtain ⟨h1, h2⟩ := Ctl.icbRspValid_none hp hcmd
    simp [ifuIcbRspValid, h1, h2]
  | some a =>
    obtain ⟨h1, h2⟩ := h.route a hcmd
    cases hr : inItcm region a
    · have hno : i.ifu2itcmIcbRspValid = false := by
        by_contra hv
        obtain ⟨b, hb, hin⟩ := hp.itcmRsp (by simpa using hv)
        obtain rfl : a = b := Option.some.inj (hcmd.symm.trans hb)
        simp [hr] at hin
      simp [ifuIcbRspValid, h1, h2, hr, hno]
    · have hno : i.ifu2biuIcbRspValid = false := by
        by_contra hv
        obtain ⟨b, hb, hin⟩ := hp.biuRsp (by simpa using hv)
        obtain rfl : a = b := Option.some.inj (hcmd.symm.trans hb)
        simp [hr] at hin
      simp [ifuIcbRspValid, h1, h2, hr, hno]

/-- While the buffer holds a response no new one comes. -/
theorem Ctl.bypbuf_vld (h : Ctl region s) (hp : Proto region i s)
    (hv : s.ift.bypbuf.vld = true) : iIfuRspValid s.ift i = false := by
  have hst := h.state
  unfold Sys.StateOk at hst
  cases hsta : s.ift.icbStateR <;> rw [hsta] at hst
  case idle =>
    obtain ⟨h1, h2⟩ := Ctl.icbRspValid_none hp hst.1
    simp [iIfuRspValid, holdupGenFakeRspValid, ifuIcbRsp2irValid, h.ifuIcbRspValid_eq hp, h1, h2,
      icbStaIs1st, hsta]
  all_goals simp [hv] at hst

/-- While a read is outstanding the buffer is empty. -/
theorem Ctl.buf_of_cmd (h : Ctl region s) (hcmd : s.cmd ≠ none) : s.ift.bypbuf.vld = false := by
  have hst := h.state
  unfold Sys.StateOk at hst
  cases hsta : s.ift.icbStateR <;> rw [hsta] at hst
  case idle => exact absurd hst.1 hcmd
  all_goals exact hst.1

theorem Ctl.rspReady_of_cmd (h : Ctl region s) (hcmd : s.cmd ≠ none) :
    ifuIcbRspReady s.ift = true := by
  rw [ifuIcbRspReady, iIfuRspReady, Bypbuf.iRdy, h.buf_of_cmd hcmd]
  split <;> rfl

theorem Proto.cmd_of_rsp (hp : Proto region i s)
    (hv : (i.ifu2itcmIcbRspValid || i.ifu2biuIcbRspValid) = true) : s.cmd ≠ none := by
  intro hcmd
  obtain ⟨h1, h2⟩ := Ctl.icbRspValid_none hp hcmd
  rw [h1, h2] at hv
  cases hv

/-- The response offered to the fetch stage is the one outstanding. -/
theorem Ctl.outstanding_of_ifuRspValid (h : Ctl region s) (hp : Proto region i s)
    (hv : ifuRspValid s.ift i = true) : s.reqs.length = s.rsps.length + 1 := by
  have hst := h.state
  unfold Sys.StateOk at hst
  cases hsta : s.ift.icbStateR <;> rw [hsta] at hst
  case idle =>
    obtain ⟨hcmd, hlen⟩ := hst
    obtain ⟨h1, h2⟩ := Ctl.icbRspValid_none hp hcmd
    have hno : iIfuRspValid s.ift i = false := by
      simp [iIfuRspValid, holdupGenFakeRspValid, ifuIcbRsp2irValid, h.ifuIcbRspValid_eq hp, h1, h2,
        icbStaIs1st, hsta]
    have hbuf : s.ift.bypbuf.vld = true := by
      simpa [ifuRspValid, Bypbuf.oVld, hno] using hv
    simpa [hbuf] using hlen
  all_goals exact hst.2.1

/-! ## What a cycle can be -/

/-- No request is accepted and no response is there. -/
structure Quiet (s : State) (i : In) : Prop where
  req : ifuReqHsked s i = false
  rsp : iIfuRspValid s i = false
  buf : s.bypbuf.vld = false

/-- Nothing happens. -/
structure Stall (s : State) (i : In) : Prop extends Quiet s i where
  cmd : ifuIcbCmdHsked s i = false
  mem : ifuIcbRspValid s i = false
  state : icbStateNxt s i = s.icbStateR

/-- The first of two reads returns. -/
structure FirstRsp (s : State) (i : In) : Prop extends Quiet s i where
  sta : s.icbStateR = .first
  need2uop : s.reqNeed2uopR = true
  cmd : ifuIcbCmdHsked s i = ifuIcbCmdReady s i
  mem : ifuIcbRspValid s i = true
  ready : ifuIcbRspReady s = true
  state : icbStateNxt s i = if ifuIcbCmdReady s i then .second else .wait2nd

/-- The second read is issued at last. -/
structure SecondCmd (s : State) (i : In) : Prop extends Quiet s i where
  sta : s.icbStateR = .wait2nd
  cmd : ifuIcbCmdHsked s i = true
  mem : ifuIcbRspValid s i = false
  state : icbStateNxt s i = .second

/-- The adapter is free, or becomes free with the response it gives in this cycle. -/
structure Turn (s : State) (i : In) : Prop where
  sta : s.icbStateR = .idle ∨ iIfuRspValid s i = true ∧ s.bypbuf.vld = false
  sta' : s.icbStateR ≠ .wait2nd ∧ (s.icbStateR = .first → s.reqNeed2uopR = false)
  req : ifuReqHsked s i = (i.ifuReqValid && ifuIcbCmdReady s i)
  cmd : ifuIcbCmdHsked s i = (ifuReqHsked s i && !reqNeed0uop s i)
  ready : s.icbStateR ≠ .idle → ifuIcbRspReady s = true
  buf : s.bypbuf.vld = true → iIfuRspValid s i = false
  state : icbStateNxt s i = if ifuReqHsked s i then .first else .idle

theorem Ctl.turn_of_condi (h : Ctl region s) (hp : Proto region i s)
    (hc : ifuReqReadyCondi s.ift i = true) : Turn s.ift i := by
  have hst := h.state
  have hbuf := h.bypbuf_vld hp
  unfold Sys.StateOk at hst
  have hreq : ifuReqHsked s.ift i = (i.ifuReqValid && ifuIcbCmdReady s.ift i) := by
    simp [ifuReqHsked, ifuReqReady, hc]
  cases hsta : s.ift.icbStateR <;> rw [hsta] at hst
  case idle =>
    refine ⟨.inl hsta, by simp [hsta], hreq, ?_, by simp [hsta], hbuf, ?_⟩
    · rw [hreq]
      simp [ifuIcbCmdHsked, ifuIcbCmdValid, ifuReqValidPos, hc, icbStaIs1st, icbStaIsWait2nd, hsta,
        Bool.and_right_comm]
    · cases hq : ifuReqHsked s.ift i
      · simp [icbStateNxt, stateIdleExitEna, state1stExitEna, stateWait2ndExitEna, state2ndExitEna,
          icbStaIs1st, icbStaIsWait2nd, icbStaIs2nd, hsta, hq]
      · simp [icbStateNxt, stateIdleExitEna, icbStaIsIdle, hsta, hq]
  case first =>
    obtain ⟨hvld, -, -, -⟩ := hst
    simp only [ifuReqReadyCondi, icbStaIsIdle, icbStaIs1st, icbStaIs2nd, hsta] at hc
    have hc' : s.ift.reqNeed2uopR = false ∧ iIfuRspHsked s.ift i = true := by simpa using hc
    obtain ⟨h2, hr⟩ := hc'
    have hrv : iIfuRspValid s.ift i = true := (Bool.and_eq_true _ _ ▸ hr).1
    refine ⟨.inr ⟨hrv, hvld⟩, by simp [hsta, h2], hreq, ?_, ?_, hbuf, ?_⟩
    · rw [hreq]
      simp [ifuIcbCmdHsked, ifuIcbCmdValid, ifuReqValidPos, ifuReqReadyCondi, icbStaIs1st, hsta, h2,
        hr, Bool.and_right_comm]
    · intro _
      simp [ifuIcbRspReady, ifuIcbRsp2leftover, h2, iIfuRspReady, Bypbuf.iRdy, hvld]
    · simp [icbStateNxt, stateIdleExitEna, state1stExitEna, icbStaIsIdle, icbStaIs1st, hsta,
        ifuIcbRsp2leftover, h2, hr, state1stNxt]
  case wait2nd =>
    simp [ifuReqReadyCondi, icbStaIsIdle, icbStaIs1st, icbStaIs2nd, hsta] at hc
  case second =>
    obtain ⟨hvld, -, -, h2, -⟩ := hst
    simp only [ifuReqReadyCondi, icbStaIsIdle, icbStaIs1st, icbStaIs2nd, hsta] at hc
    have hr : iIfuRspHsked s.ift i = true := by simpa [h2] using hc
    have hrv : iIfuRspValid s.ift i = true := (Bool.and_eq_true _ _ ▸ hr).1
    refine ⟨.inr ⟨hrv, hvld⟩, by simp [hsta], hreq, ?_, ?_, hbuf, ?_⟩
    · rw [hreq]
      simp [ifuIcbCmdHsked, ifuIcbCmdValid, ifuReqValidPos, ifuReqReadyCondi, icbStaIs1st,
        icbStaIsWait2nd, icbStaIs2nd, hsta, h2, hr, Bool.and_right_comm]
    · intro _
      simp [ifuIcbRspReady, ifuIcbRsp2leftover, icbStaIs1st, hsta, iIfuRspReady, Bypbuf.iRdy, hvld]
    · simp [icbStateNxt, stateIdleExitEna, state1stExitEna, stateWait2ndExitEna, state2ndExitEna,
        icbStaIsIdle, icbStaIs1st, icbStaIsWait2nd, icbStaIs2nd, hsta, hr, state2ndNxt]

theorem Ctl.cases (h : Ctl region s) (hp : Proto region i s) :
    Stall s.ift i ∨ FirstRsp s.ift i ∨ SecondCmd s.ift i ∨ Turn s.ift i := by
  cases hc : ifuReqReadyCondi s.ift i
  case true => exact .inr (.inr (.inr (h.turn_of_condi hp hc)))
  case false =>
    have hst := h.state
    have hreq : ifuReqHsked s.ift i = false := by simp [ifuReqHsked, ifuReqReady, hc]
    have hpos : ifuReqValidPos s.ift i = false := by simp [ifuReqValidPos, hc]
    unfold Sys.StateOk at hst
    cases hsta : s.ift.icbStateR <;> rw [hsta] at hst
    case idle => simp [ifuReqReadyCondi, icbStaIsIdle, hsta] at hc
    case first =>
      obtain ⟨hvld, -, -, h02⟩ := hst
      cases h2 : s.ift.reqNeed2uopR
      · have hr : iIfuRspValid s.ift i = false := by
          simpa [ifuReqReadyCondi, icbStaIsIdle, icbStaIs1st, icbStaIs2nd, hsta, h2, iIfuRspHsked,
            iIfuRspReady, Bypbuf.iRdy, hvld] using hc
        have hmem : ifuIcbRspValid s.ift i = false := by
          have hr' := hr
          simp only [iIfuRspValid, ifuIcbRsp2irValid, ifuIcbRsp2leftover, h2, Bool.false_and,
            Bool.or_eq_false_iff] at hr'
          simpa using hr'.2
        refine .inl ⟨⟨hreq, hr, hvld⟩, ?_, hmem, ?_⟩
        · simp [ifuIcbCmdHsked, ifuIcbCmdValid, hpos, h2]
        · simp [icbStateNxt, stateIdleExitEna, state1stExitEna, stateWait2ndExitEna,
            state2ndExitEna, icbStaIsIdle, icbStaIs1st, icbStaIsWait2nd, icbStaIs2nd, hsta,
            ifuIcbRsp2leftover, h2, iIfuRspHsked, hr]
      · have h0 : s.ift.reqNeed0uopR = false := by
          cases h0 : s.ift.reqNeed0uopR
          · rfl
          · exact absurd (h02 h0) (by simp [h2])
        have hr : iIfuRspValid s.ift i = false := by
          simp [iIfuRspValid, holdupGenFakeRspValid, h0, ifuIcbRsp2irValid, ifuIcbRsp2leftover, h2,
            icbStaIs1st, hsta]
        have hready : ifuIcbRspReady s.ift = true := by
          simp [ifuIcbRspReady, ifuIcbRsp2leftover, h2, icbStaIs1st, hsta]
        have hhs : ifuIcbRspHsked s.ift i = ifuIcbRspValid s.ift i := by
          simp [ifuIcbRspHsked, hready]
        have hcmd : ifuIcbCmdHsked s.ift i =
            (ifuIcbRspValid s.ift i && ifuIcbCmdReady s.ift i) := by
          simp [ifuIcbCmdHsked, ifuIcbCmdValid, hpos, h2, icbStaIs1st, icbStaIsWait2nd, hsta, hhs]
        have hnxt : icbStateNxt s.ift i =
            if ifuIcbRspValid s.ift i then
              (if ifuIcbCmdReady s.ift i then .second else .wait2nd) else .first := by
          cases hmem : ifuIcbRspValid s.ift i <;> cases hready : ifuIcbCmdReady s.ift i <;>
            simp [icbStateNxt, stateIdleExitEna, state1stExitEna, stateWait2ndExitEna,
              state2ndExitEna, icbStaIsIdle, icbStaIs1st, icbStaIsWait2nd, icbStaIs2nd, hsta,
              ifuIcbRsp2leftover, h2, hhs, hmem, state1stNxt, hready]
        cases hmem : ifuIcbRspValid s.ift i
        · exact .inl ⟨⟨hreq, hr, hvld⟩, by simp [hcmd, hmem], hmem, by simp [hnxt, hmem, hsta]⟩
        · exact .inr (.inl ⟨⟨hreq, hr, hvld⟩, hsta, h2, by simp [hcmd, hmem], hmem, hready,
            by simp [hnxt, hmem]⟩)
    case wait2nd =>
      obtain ⟨hvld, -, hcmd, h2, h0⟩ := hst
      obtain ⟨hm1, hm2⟩ := Ctl.icbRspValid_none hp hcmd
      have hmem : ifuIcbRspValid s.ift i = false := by
        simp [h.ifuIcbRspValid_eq hp, hm1, hm2]
      have hr : iIfuRspValid s.ift i = false := by
        simp [iIfuRspValid, holdupGenFakeRspValid, h0, ifuIcbRsp2irValid, hmem]
      have hcmd' : ifuIcbCmdHsked s.ift i = ifuIcbCmdReady s.ift i := by
        simp [ifuIcbCmdHsked, ifuIcbCmdValid, h2, icbStaIsWait2nd, hsta]
      have hnxt : icbStateNxt s.ift i = if ifuIcbCmdReady s.ift i then .second else .wait2nd := by
        cases hready : ifuIcbCmdReady s.ift i <;>
          simp [icbStateNxt, stateIdleExitEna, state1stExitEna, stateWait2ndExitEna,
            state2ndExitEna, icbStaIsIdle, icbStaIs1st, icbStaIsWait2nd, icbStaIs2nd, hsta, hready]
      cases hready : ifuIcbCmdReady s.ift i
      · exact .inl ⟨⟨hreq, hr, hvld⟩, hcmd'.trans hready, hmem, by simp [hnxt, hready, hsta]⟩
      · exact .inr (.inr (.inl ⟨⟨hreq, hr, hvld⟩, hsta, hcmd'.trans hready, hmem,
          by simp [hnxt, hready]⟩))
    case second =>
      obtain ⟨hvld, -, -, h2, h0⟩ := hst
      have hr : iIfuRspValid s.ift i = false := by
        simpa [ifuReqReadyCondi, icbStaIsIdle, icbStaIs1st, icbStaIs2nd, hsta, h2, iIfuRspHsked,
          iIfuRspReady, Bypbuf.iRdy, hvld] using hc
      have hmem : ifuIcbRspValid s.ift i = false := by
        have hr' := hr
        simp only [iIfuRspValid, ifuIcbRsp2irValid, ifuIcbRsp2leftover, icbStaIs1st, hsta,
          Bool.or_eq_false_iff] at hr'
        simpa using hr'.2
      refine .inl ⟨⟨hreq, hr, hvld⟩, ?_, hmem, ?_⟩
      · simp [ifuIcbCmdHsked, ifuIcbCmdValid, hpos, h2, icbStaIs1st, icbStaIsWait2nd, hsta]
      · simp [icbStateNxt, stateIdleExitEna, state1stExitEna, stateWait2ndExitEna,
          state2ndExitEna, icbStaIsIdle, icbStaIs1st, icbStaIsWait2nd, icbStaIs2nd, hsta,
          iIfuRspHsked, hr]

/-! ## Every cycle keeps the control invariant -/

theorem Ctl.of_reset {ift : State} (h : ift.IsReset) (held : Option (BitVec 32)) (keep : Bool) :
    Ctl region ⟨ift, none, held, keep, [], []⟩ where
  route := by simp
  state := by
    obtain ⟨hsta, -, -, -, -, -, -, -, hvld⟩ := h
    simp [Sys.StateOk, hsta, hvld]

/-- A quiet cycle leaves the history, the flags of the request and the buffer as they are. -/
theorem Quiet.step_eq (h : Quiet s.ift i) :
    (Sys.step i s).reqs = s.reqs ∧ (Sys.step i s).rsps = s.rsps ∧
      (Sys.step i s).ift.bypbuf = s.ift.bypbuf ∧
      (Sys.step i s).ift.reqNeed2uopR = s.ift.reqNeed2uopR ∧
      (Sys.step i s).ift.reqNeed0uopR = s.ift.reqNeed0uopR ∧
      (Sys.step i s).ift.reqSameCrossHoldupR = s.ift.reqSameCrossHoldupR ∧
      (Sys.step i s).ift.reqLaneCrossR = s.ift.reqLaneCrossR := by
  refine ⟨?_, ?_, Bypbuf.step_eq_self h.buf h.rsp, ?_, ?_, ?_, ?_⟩
  · simp [Sys.step, h.req]
  · simp [Sys.step, ifuRspHsked, ifuRspValid, Bypbuf.oVld, h.buf, h.rsp]
  all_goals simp [Sys.step, Ift2icb.step, h.req]

/-- The adapter is waiting for the environment: its registers do not change. -/
theorem Stall.step_ift (h : Stall s.ift i) : (Sys.step i s).ift = s.ift := by
  have hbuf := @Bypbuf.step_eq_self _ _ _ i.ifuRspReady (iIfuRspErr s.ift i,
    iIfuRspInstr s.ift i) h.buf h.rsp
  have hlo : leftoverEna s.ift i = false := by
    simp [leftoverEna, holdup2leftoverEna, h.req, uop1st2leftoverEna, ifuIcbRspHsked, h.mem]
  simp only [Sys.step, Ift2icb.step, h.req, h.cmd, hlo, h.state, hbuf, dfflr_false, Bool.or_self]

theorem Ctl.memRspHsked_eq (h : Ctl region s) (hp : Proto region i s) :
    memRspHsked s.ift i = ifuIcbRspHsked s.ift i := by
  rw [memRspHsked, ← h.ifuIcbRspValid_eq hp, ifuIcbRspHsked]

theorem Stall.step_cmd (h : Stall s.ift i) (hc : Ctl region s) (hp : Proto region i s) :
    (Sys.step i s).cmd = s.cmd := by
  simp [Sys.step, h.cmd, hc.memRspHsked_eq hp, ifuIcbRspHsked, h.mem]

theorem FirstRsp.step_cmd (h : FirstRsp s.ift i) (hc : Ctl region s) (hp : Proto region i s) :
    (Sys.step i s).cmd =
      if ifuIcbCmdReady s.ift i then some (ifuIcbCmdAddr s.ift i) else none := by
  simp [Sys.step, h.cmd, hc.memRspHsked_eq hp, ifuIcbRspHsked, h.mem, h.ready]

theorem SecondCmd.step_cmd (h : SecondCmd s.ift i) :
    (Sys.step i s).cmd = some (ifuIcbCmdAddr s.ift i) := by
  simp [Sys.step, h.cmd]

/-- The registers that say where the last read went. -/
theorem route_step (hp : Proto region i s) (hcmd : ifuIcbCmdHsked s.ift i = true) :
    (Ift2icb.step s.ift i).icbCmd2itcmR = inItcm region (ifuIcbCmdAddr s.ift i) ∧
      (Ift2icb.step s.ift i).icbCmd2biuR = !inItcm region (ifuIcbCmdAddr s.ift i) := by
  simp [Ift2icb.step, hcmd, ifuIcbCmd2itcm, ifuIcbCmd2biu, hp.regionEq]

theorem Ctl.route_step (h : Ctl region s) (hp : Proto region i s) (a : BitVec 32)
    (ha : (Sys.step i s).cmd = some a) :
    (Ift2icb.step s.ift i).icbCmd2itcmR = inItcm region a ∧
      (Ift2icb.step s.ift i).icbCmd2biuR = !inItcm region a := by
  cases hcmd : ifuIcbCmdHsked s.ift i
  · have hold : s.cmd = some a := by
      simp only [Sys.step, hcmd, Bool.false_eq_true, if_false] at ha
      split_ifs at ha
      exact ha
    have hr := h.route a hold
    simpa [Ift2icb.step, hcmd] using hr
  · have haddr : ifuIcbCmdAddr s.ift i = a := by simpa [Sys.step, hcmd] using ha
    rw [← haddr]
    exact Ift2icb.route_step hp hcmd

theorem Turn.step_bypbuf (h : Turn s.ift i) :
    (Ift2icb.step s.ift i).bypbuf.vld = (ifuRspValid s.ift i && !i.ifuRspReady) :=
  Bypbuf.step_vld h.buf

theorem Turn.step_rsps (h : Turn s.ift i) (hc : Ctl region s) (hp : Proto region i s) :
    s.reqs.length =
      (Sys.step i s).rsps.length + (Ift2icb.step s.ift i).bypbuf.vld.toNat := by
  rw [h.step_bypbuf]
  cases hv : ifuRspValid s.ift i
  · have hlen : s.reqs.length = s.rsps.length := by
      have hst := hc.state
      have hnone : iIfuRspValid s.ift i = false ∧ s.ift.bypbuf.vld = false := by
        have hor := hv
        rw [ifuRspValid, Bypbuf.oVld, Bool.or_eq_false_iff] at hor
        exact ⟨hor.2, hor.1⟩
      obtain hidle | ⟨hrsp, -⟩ := h.sta
      · unfold Sys.StateOk at hst
        rw [hidle] at hst
        simpa [hnone.2] using hst.2
      · rw [hnone.1] at hrsp
        cases hrsp
    simp [Sys.step, ifuRspHsked, hv, hlen]
  · have hlen := hc.outstanding_of_ifuRspValid hp hv
    cases hr : i.ifuRspReady <;> simp [Sys.step, ifuRspHsked, hv, hr, hlen]

/-- In a turn the read that was outstanding returns. -/
theorem Turn.mem (h : Turn s.ift i) (hc : Ctl region s) (hcmd : s.cmd ≠ none) :
    s.ift.icbStateR ≠ .idle ∧ ifuIcbRspValid s.ift i = true := by
  have hst := hc.state
  unfold Sys.StateOk at hst
  have hbusy : s.ift.icbStateR ≠ .idle := by
    intro hidle
    rw [hidle] at hst
    exact hcmd hst.1
  have h0 : s.ift.reqNeed0uopR = false := by
    cases hsta : s.ift.icbStateR <;> rw [hsta] at hst
    case idle => exact absurd hsta hbusy
    case first =>
      cases h0 : s.ift.reqNeed0uopR
      · rfl
      · exact absurd (hst.2.2.1.mpr h0) hcmd
    case wait2nd | second => exact hst.2.2.2.2
  refine ⟨hbusy, ?_⟩
  have hrsp : iIfuRspValid s.ift i = true := (h.sta.resolve_left hbusy).1
  simp only [iIfuRspValid, holdupGenFakeRspValid, h0, Bool.and_false, Bool.false_or,
    ifuIcbRsp2irValid] at hrsp
  split at hrsp
  · cases hrsp
  · exact hrsp

theorem Turn.step_cmd (h : Turn s.ift i) (hc : Ctl region s) (hp : Proto region i s) :
    (Sys.step i s).cmd =
      if ifuIcbCmdHsked s.ift i then some (ifuIcbCmdAddr s.ift i) else none := by
  cases hcmd : ifuIcbCmdHsked s.ift i
  · by_cases hnone : s.cmd = none
    · simp [Sys.step, hcmd, hnone]
    · obtain ⟨hbusy, hmem⟩ := h.mem hc hnone
      simp [Sys.step, hcmd, hc.memRspHsked_eq hp, ifuIcbRspHsked, hmem, h.ready hbusy]
  · simp [Sys.step, hcmd]

/-- Two reads are needed or none, not both. -/
theorem reqNeed_exclusive (h : reqNeed0uop s.ift i = true) : reqNeed2uop s.ift i = false := by
  simp only [reqNeed0uop, Bool.and_eq_true, Bool.not_eq_true'] at h
  simp [reqNeed2uop, h.1.2]

/-- With a new request nothing is left in the buffer. -/
theorem Turn.buf_empty (h : Turn s.ift i) (hc : Ctl region s) (hp : Proto region i s)
    (hq : ifuReqHsked s.ift i = true) : (Sys.step i s).ift.bypbuf.vld = false := by
  have hv : i.ifuReqValid = true := by
    rw [h.req, Bool.and_eq_true] at hq
    exact hq.1
  refine h.step_bypbuf.trans ?_
  obtain heq | hdel := hp.one hv
  · cases hrv : ifuRspValid s.ift i
    · rfl
    · have hlen := hc.outstanding_of_ifuRspValid hp hrv
      omega
  · rw [ifuRspHsked, Bool.and_eq_true] at hdel
    simp [hdel.2]

theorem Turn.stateOk (h : Turn s.ift i) (hc : Ctl region s) (hp : Proto region i s) :
    (Sys.step i s).StateOk := by
  have hsta : (Sys.step i s).ift.icbStateR = _ := h.state
  have hrsps := h.step_rsps hc hp
  unfold Sys.StateOk
  rw [hsta, h.step_cmd hc hp, h.cmd]
  cases hq : ifuReqHsked s.ift i
  · have hreqs : (Sys.step i s).reqs = s.reqs := by simp [Sys.step, hq]
    exact ⟨rfl, by rw [hreqs]; exact hrsps⟩
  · have hreqs : (Sys.step i s).reqs = s.reqs ++ [i.ifuReqPc] := by simp [Sys.step, hq]
    have hempty := h.buf_empty hc hp hq
    have h0 : (Sys.step i s).ift.reqNeed0uopR = reqNeed0uop s.ift i := by
      simp [Sys.step, Ift2icb.step, hq]
    have h2 : (Sys.step i s).ift.reqNeed2uopR = reqNeed2uop s.ift i := by
      simp [Sys.step, Ift2icb.step, hq]
    refine ⟨hempty, ?_, ?_, ?_⟩
    · change (Ift2icb.step s.ift i).bypbuf.vld = false at hempty
      rw [hreqs, List.length_append, hrsps, hempty]
      rfl
    · rw [h0]
      cases reqNeed0uop s.ift i <;> simp
    · rw [h0, h2]
      exact reqNeed_exclusive

theorem Ctl.step (h : Ctl region s) (hp : Proto region i s) : Ctl region (Sys.step i s) where
  route := h.route_step hp
  state := by
    have hst := h.state
    unfold Sys.StateOk at hst
    obtain hs | hf | hw | ht := h.cases hp
    · obtain ⟨hreqs, hrsps, -⟩ := hs.toQuiet.step_eq
      unfold Sys.StateOk
      rw [hs.step_ift, hreqs, hrsps, hs.step_cmd h hp]
      exact hst
    · have hsta : (Sys.step i s).ift.icbStateR = _ := hf.state
      obtain ⟨hreqs, hrsps, hbuf, h2, h0, -⟩ := hf.toQuiet.step_eq
      rw [hf.sta] at hst
      obtain ⟨-, hlen, -, h02⟩ := hst
      have hno0 : s.ift.reqNeed0uopR = false := by
        cases h0 : s.ift.reqNeed0uopR
        · rfl
        · exact absurd (h02 h0) (by simp [hf.need2uop])
      unfold Sys.StateOk
      rw [hsta, hreqs, hrsps, hbuf, h2, h0, hno0, hf.step_cmd h hp]
      cases ifuIcbCmdReady s.ift i <;> simp [hf.buf, hlen, hf.need2uop]
    · have hsta : (Sys.step i s).ift.icbStateR = _ := hw.state
      obtain ⟨hreqs, hrsps, hbuf, h2, h0, -⟩ := hw.toQuiet.step_eq
      rw [hw.sta] at hst
      obtain ⟨-, hlen, -, h2', h0'⟩ := hst
      unfold Sys.StateOk
      rw [hsta, hreqs, hrsps, hbuf, h2, h0, hw.step_cmd]
      simp [hw.buf, hlen, h2', h0']
    · exact ht.stateOk h hp

end
end Ift2icb
end E203
