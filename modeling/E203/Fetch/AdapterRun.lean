import E203.Fetch.AdapterData

/-! # Runs of the fetch adapter

* `Fair`: the memories and the fetch stage do not wait for ever.
* `answered_of_*`: from each state of the state machine the outstanding request is answered.
* `responses_correct`: in every run exactly one response for each accepted request, in order, with
  the 32 bits of memory at its PC.
-/

namespace E203.Ift2icb
set_option autoImplicit false

def run (inp : ℕ → In) (s : Sys) (t : ℕ) : Sys := Lib.stateAt Sys.step inp s t

/-- After reset, before any request. -/
def Sys.IsReset (s : Sys) : Prop :=
  s.ift.IsReset ∧ s.cmd = none ∧ s.keep = false ∧ s.reqs = [] ∧ s.rsps = []

/-- Every port is ready again and again, and every read is answered. -/
structure Fair (inp : ℕ → In) (s : Sys) : Prop where
  itcmReady : ∀ t, ∃ u, t ≤ u ∧ (inp u).ifu2itcmIcbCmdReady = true
  biuReady : ∀ t, ∃ u, t ≤ u ∧ (inp u).ifu2biuIcbCmdReady = true
  rspReady : ∀ t, ∃ u, t ≤ u ∧ (inp u).ifuRspReady = true
  memory : ∀ t, (run inp s t).cmd ≠ none →
    ∃ u, t ≤ u ∧ ((inp u).ifu2itcmIcbRspValid = true ∨ (inp u).ifu2biuIcbRspValid = true)

section
variable {mem : Mem} {region : BitVec 32} {inp : ℕ → In} {s : Sys} {t n : ℕ}

theorem run_succ : run inp s (t + 1) = Sys.step (inp t) (run inp s t) := rfl

theorem Ctl.run (h0 : s.IsReset) (henv : ∀ t, Env mem region (inp t) (run inp s t)) (t : ℕ) :
    Ctl region (Ift2icb.run inp s t) := by
  refine Lib.invariant_stateAt Sys.step (I := fun _ => Ctl region) t ?_
    fun u _ hu => hu.step (henv u).toProto
  obtain ⟨hift, hcmd, -, hreqs, hrsps⟩ := h0
  have hs : s = ⟨s.ift, none, s.held, s.keep, [], []⟩ := by
    cases s
    simp_all
  rw [hs]
  exact .of_reset hift _ _

theorem Data.run (h0 : s.IsReset) (henv : ∀ t, Env mem region (inp t) (run inp s t)) (t : ℕ) :
    Data mem region (Ift2icb.run inp s t) := by
  induction t with
  | zero =>
    obtain ⟨hift, -, -, hreqs, hrsps⟩ := h0
    exact .empty hreqs hrsps hift.1 hift.2.2.2.2.2.2.2.2
  | succ t ih => exact ih.step (Ctl.run h0 henv t) (henv t)

/-! ## Progress -/

variable (inp s) in
/-- From cycle `t` on, `n` responses are delivered at some time. -/
def Answered (n t : ℕ) : Prop := ∃ u, t ≤ u ∧ n ≤ (run inp s u).rsps.length

theorem Answered.mono {t' : ℕ} (h : Answered inp s n t') (ht : t ≤ t') : Answered inp s n t := by
  obtain ⟨u, hu, hn⟩ := h
  exact ⟨u, by omega, hn⟩

/-- A turn delivers the outstanding response or puts it into the buffer. -/
theorem Turn.delivers {i : In} (h : Turn s.ift i) (hc : Ctl region s) (hp : Proto region i s)
    (hlen : s.reqs.length = n + 1) :
    (Sys.step i s).rsps.length = n + 1 ∨
      (Sys.step i s).ift.icbStateR = .idle ∧ (Sys.step i s).ift.bypbuf.vld = true ∧
        (Sys.step i s).rsps.length = n := by
  have hst := h.step_rsps hc hp
  cases hvld : (Sys.step i s).ift.bypbuf.vld
  · left
    change (Ift2icb.step s.ift i).bypbuf.vld = false at hvld
    rw [hvld] at hst
    simpa using hst.symm.trans hlen
  · right
    have hq : ifuReqHsked s.ift i = false := by
      cases hq : ifuReqHsked s.ift i
      · rfl
      · rw [h.buf_empty hc hp hq] at hvld
        cases hvld
    refine ⟨h.state.trans (by simp [hq]), rfl, ?_⟩
    change (Ift2icb.step s.ift i).bypbuf.vld = true at hvld
    rw [hvld] at hst
    simpa using hst.symm.trans hlen

variable (h0 : s.IsReset) (henv : ∀ t, Env mem region (inp t) (run inp s t)) (hfair : Fair inp s)
include h0 henv hfair

/-- A response in the buffer waits for the fetch stage. -/
theorem answered_of_buffered (hsta : (run inp s t).ift.icbStateR = .idle)
    (hvld : (run inp s t).ift.bypbuf.vld = true) (hn : (run inp s t).rsps.length = n) :
    Answered inp s (n + 1) t := by
  have hturn : ∀ u, (run inp s u).ift.icbStateR = .idle → Turn (run inp s u).ift (inp u) := by
    intro u hidle
    have hcondi : ifuReqReadyCondi (run inp s u).ift (inp u) = true := by
      simp [ifuReqReadyCondi, icbStaIsIdle, hidle]
    exact (Ctl.run h0 henv u).turn_of_condi (henv u).toProto hcondi
  have hreqs : ∀ u, (run inp s u).ift.bypbuf.vld = true →
      (run inp s u).reqs.length = (run inp s u).rsps.length + 1 := fun u hv =>
    (Ctl.run h0 henv u).outstanding_of_ifuRspValid (henv u).toProto
      (by simp [ifuRspValid, Bypbuf.oVld, hv])
  obtain ⟨u, hu, ⟨hsta', hvld', hn'⟩, hready⟩ := Lib.exists_meeting
    (p := fun u => (run inp s u).ift.icbStateR = .idle ∧ (run inp s u).ift.bypbuf.vld = true ∧
      (run inp s u).rsps.length = n)
    ⟨hsta, hvld, hn⟩ (fun u _ hu hno => by
      obtain ⟨h1, h2, h3⟩ := hu
      have ht := hturn u h1
      have hlen := (hreqs u h2).trans (by rw [h3])
      obtain hdel | hbuf := ht.delivers (Ctl.run h0 henv u) (henv u).toProto hlen
      · have hsame : (run inp s (u + 1)).rsps.length = (run inp s u).rsps.length := by
          simp [run_succ, Sys.step, ifuRspHsked, hno]
        rw [run_succ] at hsame
        omega
      · exact hbuf) (hfair.rspReady t)
  have hrsps : (run inp s (u + 1)).rsps.length = n + 1 := by
    simp [run_succ, Sys.step, ifuRspHsked, ifuRspValid, Bypbuf.oVld, hvld', hready, hn']
  exact ⟨u + 1, by omega, Nat.le_of_eq hrsps.symm⟩

/-- The cycle in which the response comes. -/
theorem answered_of_turn (hturn : Turn (run inp s t).ift (inp t))
    (hlen : (run inp s t).reqs.length = n + 1) : Answered inp s (n + 1) t := by
  obtain hdel | ⟨hsta, hvld, hn⟩ :=
    hturn.delivers (Ctl.run h0 henv t) (henv t).toProto hlen
  · exact ⟨t + 1, by omega, Nat.le_of_eq hdel.symm⟩
  · exact (answered_of_buffered h0 henv hfair (t := t + 1) hsta hvld hn).mono (by omega)

theorem answered_of_last_read
    (hsta : (run inp s t).ift.icbStateR = .first ∧ (run inp s t).ift.reqNeed2uopR = false ∨
      (run inp s t).ift.icbStateR = .second)
    (hlen : (run inp s t).reqs.length = n + 1) : Answered inp s (n + 1) t := by
  have hcases := fun u => (Ctl.run h0 henv u).cases (henv u).toProto
  by_cases hcmd : (run inp s t).cmd = none
  · obtain hs | hf | hw | ht := hcases t
    · -- without a read the response is generated
      have hst := (Ctl.run h0 henv t).state
      unfold Sys.StateOk at hst
      obtain ⟨h1, -⟩ | h2 := hsta
      · rw [h1] at hst
        have hrsp := hs.rsp
        simp [iIfuRspValid, holdupGenFakeRspValid, icbStaIs1st, h1, hst.2.2.1.mp hcmd] at hrsp
      · rw [h2] at hst
        exact absurd hcmd hst.2.2.1
    · obtain ⟨-, h2⟩ | h2 := hsta
      · exact absurd (hf.need2uop.symm.trans h2) (by simp)
      · exact absurd (hf.sta.symm.trans h2) (by simp)
    · obtain ⟨h1, -⟩ | h2 := hsta
      · exact absurd (hw.sta.symm.trans h1) (by simp)
      · exact absurd (hw.sta.symm.trans h2) (by simp)
    · exact answered_of_turn h0 henv hfair ht hlen
  · -- only a stall or a turn is possible, and a turn when the memory answers
    have hevent : ∀ u, ((run inp s u).ift.icbStateR = .first ∧
        (run inp s u).ift.reqNeed2uopR = false ∨ (run inp s u).ift.icbStateR = .second) →
        Stall (run inp s u).ift (inp u) ∨ Turn (run inp s u).ift (inp u) := by
      intro u hu
      obtain hs | hf | hw | ht := hcases u
      · exact .inl hs
      · obtain ⟨-, h2⟩ | h2 := hu
        · exact absurd (hf.need2uop.symm.trans h2) (by simp)
        · exact absurd (hf.sta.symm.trans h2) (by simp)
      · obtain ⟨h1, -⟩ | h2 := hu
        · exact absurd (hw.sta.symm.trans h1) (by simp)
        · exact absurd (hw.sta.symm.trans h2) (by simp)
      · exact .inr ht
    have hmem : ∀ u, ifuIcbRspValid (run inp s u).ift (inp u) = true ↔
        ((inp u).ifu2itcmIcbRspValid = true ∨ (inp u).ifu2biuIcbRspValid = true) := fun u => by
      rw [(Ctl.run h0 henv u).ifuIcbRspValid_eq (henv u).toProto, Bool.or_eq_true]
    obtain ⟨u, hu, ⟨hsta', hlen', -⟩, hrsp⟩ := Lib.exists_meeting
      (p := fun u => ((run inp s u).ift.icbStateR = .first ∧
        (run inp s u).ift.reqNeed2uopR = false ∨ (run inp s u).ift.icbStateR = .second) ∧
        (run inp s u).reqs.length = n + 1 ∧ (run inp s u).cmd ≠ none)
      ⟨hsta, hlen, hcmd⟩ (fun u _ hu hno => by
        obtain ⟨h1, h2, h3⟩ := hu
        obtain hs | ht := hevent u h1
        · rw [run_succ, hs.step_ift, hs.toQuiet.step_eq.1,
            hs.step_cmd (Ctl.run h0 henv u) (henv u).toProto]
          exact ⟨h1, h2, h3⟩
        · exact absurd ((hmem u).mp (ht.mem (Ctl.run h0 henv u) h3).2) hno) (hfair.memory t hcmd)
    obtain hs | ht := hevent u hsta'
    · exact absurd ((hmem u).mpr hrsp) (by simp [hs.mem])
    · exact (answered_of_turn h0 henv hfair ht hlen').mono hu

theorem answered_of_wait2nd (hsta : (run inp s t).ift.icbStateR = .wait2nd)
    (hlen : (run inp s t).reqs.length = n + 1) : Answered inp s (n + 1) t := by
  -- the address of the second read does not change, so one port is waited for
  have haddr : ∀ u, (run inp s u).ift.icbStateR = .wait2nd →
      ∃ pc, (run inp s u).reqs.getLast? = some pc ∧
        ifuIcbCmdAddr (run inp s u).ift (inp u) = pc + 2#32 := by
    intro u hu
    have hst := (Ctl.run h0 henv u).state
    unfold Sys.StateOk at hst
    rw [hu] at hst
    refine ⟨_, (henv u).last hst.2.1, addr_of_sel2nd ?_⟩
    simp [icbAddrSel2ndnxtalgn, hst.2.2.2.1, icbStaIsWait2nd, hu]
  obtain ⟨pc, hlast, -⟩ := haddr t hsta
  have hready : ∀ u, (run inp s u).ift.icbStateR = .wait2nd →
      (run inp s u).reqs.getLast? = some pc →
      ifuIcbCmdReady (run inp s u).ift (inp u) =
        if inItcm region (pc + 2#32) then (inp u).ifu2itcmIcbCmdReady
        else (inp u).ifu2biuIcbCmdReady := by
    intro u hu hl
    obtain ⟨pc', hl', ha⟩ := haddr u hu
    obtain rfl : pc = pc' := Option.some.inj (hl.symm.trans hl')
    cases hr : inItcm region (pc + 2#32) <;>
      simp [ifuIcbCmdReady, ifuIcbCmd2itcm, ifuIcbCmd2biu, ha, (henv u).regionEq, hr]
  have hevent : ∃ u, t ≤ u ∧ (if inItcm region (pc + 2#32) then (inp u).ifu2itcmIcbCmdReady
      else (inp u).ifu2biuIcbCmdReady) = true := by
    split_ifs
    · exact hfair.itcmReady t
    · exact hfair.biuReady t
  have hnext : ∀ u, (run inp s u).ift.icbStateR = .wait2nd →
      (Stall (run inp s u).ift (inp u) ∧ ifuIcbCmdReady (run inp s u).ift (inp u) = false) ∨
        SecondCmd (run inp s u).ift (inp u) := by
    intro u hu
    have hst := (Ctl.run h0 henv u).state
    unfold Sys.StateOk at hst
    rw [hu] at hst
    obtain hs | hf | hw | ht := (Ctl.run h0 henv u).cases (henv u).toProto
    · refine .inl ⟨hs, ?_⟩
      have hcmd := hs.cmd
      simpa [ifuIcbCmdHsked, ifuIcbCmdValid, hst.2.2.2.1, icbStaIsWait2nd, hu] using hcmd
    · exact absurd (hf.sta.symm.trans hu) (by simp)
    · exact .inr hw
    · exact absurd hu ht.sta'.1
  obtain ⟨u, hu, ⟨hsta', hlen', hlast'⟩, hrdy⟩ := Lib.exists_meeting
    (p := fun u => (run inp s u).ift.icbStateR = .wait2nd ∧ (run inp s u).reqs.length = n + 1 ∧
      (run inp s u).reqs.getLast? = some pc)
    ⟨hsta, hlen, hlast⟩ (fun u _ hu hno => by
      obtain ⟨h1, h2, h3⟩ := hu
      obtain ⟨hs, -⟩ | hw := hnext u h1
      · rw [run_succ, hs.step_ift, hs.toQuiet.step_eq.1]
        exact ⟨h1, h2, h3⟩
      · refine absurd ?_ hno
        rw [← hready u h1 h3]
        have hcmd := hw.cmd
        rw [ifuIcbCmdHsked, Bool.and_eq_true] at hcmd
        exact hcmd.2) hevent
  obtain ⟨-, hno⟩ | hw := hnext u hsta'
  · rw [hready u hsta' hlast', hrdy] at hno
    cases hno
  · refine (answered_of_last_read h0 henv hfair (t := u + 1) (.inr hw.state) ?_).mono (by omega)
    rw [run_succ, hw.toQuiet.step_eq.1, hlen']

theorem answered_of_first_read (hsta : (run inp s t).ift.icbStateR = .first)
    (h2 : (run inp s t).ift.reqNeed2uopR = true)
    (hlen : (run inp s t).reqs.length = n + 1) : Answered inp s (n + 1) t := by
  have hcmd : ∀ u, (run inp s u).ift.icbStateR = .first → (run inp s u).ift.reqNeed2uopR = true →
      (run inp s u).cmd ≠ none := by
    intro u h1 h2
    have hst := (Ctl.run h0 henv u).state
    unfold Sys.StateOk at hst
    rw [h1] at hst
    intro hnone
    have h02 := hst.2.2.2 (hst.2.2.1.mp hnone)
    rw [h2] at h02
    cases h02
  have hnext : ∀ u, (run inp s u).ift.icbStateR = .first → (run inp s u).ift.reqNeed2uopR = true →
      Stall (run inp s u).ift (inp u) ∨ FirstRsp (run inp s u).ift (inp u) := by
    intro u h1 h2
    obtain hs | hf | hw | ht := (Ctl.run h0 henv u).cases (henv u).toProto
    · exact .inl hs
    · exact .inr hf
    · exact absurd (hw.sta.symm.trans h1) (by simp)
    · exact absurd (ht.sta'.2 h1) (by simp [h2])
  have hmem : ∀ u, ifuIcbRspValid (run inp s u).ift (inp u) = true ↔
      ((inp u).ifu2itcmIcbRspValid = true ∨ (inp u).ifu2biuIcbRspValid = true) := fun u => by
    rw [(Ctl.run h0 henv u).ifuIcbRspValid_eq (henv u).toProto, Bool.or_eq_true]
  obtain ⟨u, hu, ⟨hsta', h2', hlen'⟩, hrsp⟩ := Lib.exists_meeting
    (p := fun u => (run inp s u).ift.icbStateR = .first ∧
      (run inp s u).ift.reqNeed2uopR = true ∧ (run inp s u).reqs.length = n + 1)
    ⟨hsta, h2, hlen⟩ (fun u _ hu hno => by
      obtain ⟨h1, h2, h3⟩ := hu
      obtain hs | hf := hnext u h1 h2
      · rw [run_succ, hs.step_ift, hs.toQuiet.step_eq.1]
        exact ⟨h1, h2, h3⟩
      · exact absurd ((hmem u).mp hf.mem) hno) (hfair.memory t (hcmd t hsta h2))
  obtain hs | hf := hnext u hsta' h2'
  · exact absurd ((hmem u).mpr hrsp) (by simp [hs.mem])
  · have hlen'' : (run inp s (u + 1)).reqs.length = n + 1 := by
      rw [run_succ, hf.toQuiet.step_eq.1, hlen']
    have hnxt : (run inp s (u + 1)).ift.icbStateR =
        if ifuIcbCmdReady (run inp s u).ift (inp u) then .second else .wait2nd := hf.state
    cases hready : ifuIcbCmdReady (run inp s u).ift (inp u) <;> rw [hready] at hnxt
    · exact (answered_of_wait2nd h0 henv hfair hnxt hlen'').mono (by omega)
    · exact (answered_of_last_read h0 henv hfair (.inr hnxt) hlen'').mono (by omega)

/-- Every accepted request is answered. -/
theorem answered (t : ℕ) : Answered inp s (run inp s t).reqs.length t := by
  have hst := (Ctl.run h0 henv t).state
  unfold Sys.StateOk at hst
  cases hsta : (run inp s t).ift.icbStateR <;> rw [hsta] at hst
  case idle =>
    cases hvld : (run inp s t).ift.bypbuf.vld
    · refine ⟨t, Nat.le_refl t, ?_⟩
      rw [hst.2, hvld]
      exact Nat.le_refl _
    · rw [hst.2, hvld]
      exact answered_of_buffered h0 henv hfair hsta hvld rfl
  case first =>
    cases h2 : (run inp s t).ift.reqNeed2uopR
    · rw [hst.2.1]
      exact answered_of_last_read h0 henv hfair (.inl ⟨hsta, h2⟩) hst.2.1
    · rw [hst.2.1]
      exact answered_of_first_read h0 henv hfair hsta h2 hst.2.1
  case wait2nd =>
    rw [hst.2.1]
    exact answered_of_wait2nd h0 henv hfair hsta hst.2.1
  case second =>
    rw [hst.2.1]
    exact answered_of_last_read h0 henv hfair (.inr hsta) hst.2.1

omit hfair

/-- In every run the responses are those of the accepted requests, in order, each with the 32 bits of
memory at its PC; at most the last request is still without its response, and a fair environment
lets every request have one. -/
theorem responses_correct :
    (∀ t, (run inp s t).rsps =
        ((run inp s t).reqs.take (run inp s t).rsps.length).map (word mem) ∧
      (run inp s t).reqs.length ≤ (run inp s t).rsps.length + 1) ∧
      (Fair inp s →
        ∀ t, ∃ u, t ≤ u ∧ (run inp s t).reqs.length ≤ (run inp s u).rsps.length) := by
  refine ⟨fun t => ?_, fun hfair t => answered h0 henv hfair t⟩
  cases Data.run h0 henv t with
  | empty reqs rsps sta vld => simp [reqs, rsps]
  | last done pc reqs even lane rsps =>
    obtain hall | ⟨hdone, -⟩ := rsps
    · rw [hall, reqs, List.length_map, List.take_length]
      exact ⟨rfl, Nat.le_succ _⟩
    · rw [hdone, reqs, List.length_map, List.take_left, List.length_append]
      exact ⟨rfl, Nat.le_refl _⟩

end

/-! ## A run with a crossing fetch and a reused lane -/

/-- Every halfword holds the low half of its address. -/
def lowMem : Mem := fun a => a.extractLsb' 0 16

def In.quiet : In where
  itcmNohold := false
  ifuReqValid := false
  ifuReqPc := 0#32
  ifuReqSeq := false
  ifuReqSeqRv32 := false
  ifuReqLastPc := 0#32
  ifuRspReady := true
  itcmRegionIndic := 0x80000000#32
  ifu2itcmIcbCmdReady := true
  ifu2itcmIcbRspValid := false
  ifu2itcmIcbRspErr := false
  ifu2itcmIcbRspRdata := itcmLane lowMem 0x80000008#32
  ifu2biuIcbCmdReady := true
  ifu2biuIcbRspValid := false
  ifu2biuIcbRspErr := false
  ifu2biuIcbRspRdata := 0#32
  ifu2itcmHoldup := false

/-- A fetch at `0x80000006`, which crosses its lane, then the next one, whose lane is held up. -/
def twoFetches : ℕ → In
  | 0 => { In.quiet with ifuReqValid := true, ifuReqPc := 0x80000006#32 }
  | 1 =>
    { In.quiet with
      ifuReqLastPc := 0x80000006#32
      ifu2itcmIcbRspValid := true
      ifu2itcmIcbRspRdata := itcmLane lowMem 0x80000006#32 }
  | 2 =>
    { In.quiet with
      ifuReqValid := true
      ifuReqPc := 0x8000000a#32
      ifuReqSeq := true
      ifuReqSeqRv32 := true
      ifuReqLastPc := 0x80000006#32
      ifu2itcmIcbRspValid := true
      ifu2itcmHoldup := true }
  | 3 => { In.quiet with ifuReqLastPc := 0x8000000a#32 }
  | _ + 4 => In.quiet

def Sys.reset : Sys where
  ift :=
    { icbStateR := .idle
      reqSameCrossHoldupR := false
      reqNeed2uopR := false
      reqNeed0uopR := false
      reqLaneCrossR := false
      icbCmd2itcmR := false
      icbCmd2biuR := false
      icbCmdAddr21R := 0#2
      leftoverR := 0#16
      leftoverErrR := false
      bypbuf := ⟨false, (false, 0#32)⟩ }
  cmd := none
  held := none
  keep := false
  reqs := []
  rsps := []

theorem Sys.isReset_reset : Sys.reset.IsReset :=
  ⟨⟨rfl, rfl, rfl, rfl, rfl, rfl, rfl, rfl, rfl⟩, rfl, rfl, rfl, rfl⟩

theorem run_twoFetches (n : ℕ) : run twoFetches .reset (n + 4) = run twoFetches .reset 4 := by
  induction n with
  | zero => rfl
  | succ n ih =>
    have hfix : Sys.step In.quiet (run twoFetches .reset 4) = run twoFetches .reset 4 := by
      decide +kernel
    rw [Nat.add_right_comm, run_succ, ih]
    exact hfix

/-- A cycle without a request and a response. -/
theorem Returning.of_silent {mem : Mem} {region : BitVec 32} {i : In} {s : Sys}
    (hregion : i.itcmRegionIndic = region) (hreq : i.ifuReqValid = false)
    (hitcm : i.ifu2itcmIcbRspValid = false) (hbiu : i.ifu2biuIcbRspValid = false)
    (hup : i.ifu2itcmHoldup = false)
    (hlast : s.reqs.length = s.rsps.length + 1 → s.reqs.getLast? = some i.ifuReqLastPc) :
    Returning mem region i s where
  regionEq := hregion
  one h := absurd (hreq.symm.trans h) Bool.false_ne_true
  itcmRsp h := absurd (hitcm.symm.trans h) Bool.false_ne_true
  biuRsp h := absurd (hbiu.symm.trans h) Bool.false_ne_true
  even h := absurd (hreq.symm.trans h) Bool.false_ne_true
  seq h := absurd (hreq.symm.trans h) Bool.false_ne_true
  last := hlast
  itcmData _ h := absurd (hitcm.symm.trans h) Bool.false_ne_true
  biuData _ h := absurd (hbiu.symm.trans h) Bool.false_ne_true
  holdup h := absurd (hup.symm.trans h) Bool.false_ne_true

theorem cycles_twoFetches (t : ℕ) : t = 0 ∨ t = 1 ∨ t = 2 ∨ t = 3 ∨ ∃ n, t = n + 4 := by
  obtain h | h := Nat.lt_or_ge t 4
  · omega
  · exact .inr (.inr (.inr (.inr ⟨t - 4, by omega⟩)))

theorem returning_twoFetches (t : ℕ) :
    Returning lowMem 0x80000000#32 (twoFetches t) (run twoFetches .reset t) := by
  obtain rfl | rfl | rfl | rfl | ⟨n, rfl⟩ := cycles_twoFetches t
  · refine ⟨⟨rfl, ?_, ?_, ?_⟩, ?_, ?_, ?_, fun _ h => ?_, fun _ h => ?_, fun h => ?_⟩
    all_goals first | exact absurd h (by decide +kernel) | decide +kernel
  · have hcmd : (run twoFetches .reset 1).cmd = some 0x80000006#32 := by decide +kernel
    refine ⟨⟨rfl, ?_, fun _ => ⟨_, hcmd, ?_⟩, ?_⟩, ?_, ?_, ?_, fun a _ h => ?_, fun _ h => ?_,
      fun h => ?_⟩
    case refine_7 =>
      obtain rfl : 0x80000006#32 = a := Option.some.inj (hcmd.symm.trans h)
      rfl
    all_goals first | exact absurd h (by decide +kernel) | decide +kernel
  · have hcmd : (run twoFetches .reset 2).cmd = some 0x80000008#32 := by decide +kernel
    refine ⟨⟨rfl, ?_, fun _ => ⟨_, hcmd, ?_⟩, ?_⟩, ?_, ?_, ?_, fun a _ h => ?_, fun _ h => ?_,
      fun _ => ⟨0x80000008#32, ?_, rfl⟩⟩
    case refine_7 =>
      obtain rfl : 0x80000008#32 = a := Option.some.inj (hcmd.symm.trans h)
      rfl
    all_goals first | exact absurd h (by decide +kernel) | decide +kernel
  · exact .of_silent rfl rfl rfl rfl rfl (by decide +kernel)
  · rw [run_twoFetches]
    have hquiet : twoFetches (n + 4) = In.quiet := rfl
    exact .of_silent rfl rfl rfl rfl rfl (by rw [hquiet]; decide +kernel)

theorem env_twoFetches (t : ℕ) :
    Env lowMem 0x80000000#32 (twoFetches t) (run twoFetches .reset t) where
  toReturning := returning_twoFetches t
  keep a hkeep hheld := by
    obtain rfl | rfl | rfl | rfl | ⟨n, rfl⟩ := cycles_twoFetches t
    case inr.inr.inr.inl =>
      have hlane : (run twoFetches .reset 3).held = some 0x80000008#32 := by decide +kernel
      obtain rfl : 0x80000008#32 = a := Option.some.inj (hlane.symm.trans hheld)
      rfl
    case inr.inr.inr.inr =>
      rw [run_twoFetches] at hkeep
      exact absurd hkeep (by decide +kernel)
    all_goals exact absurd hkeep (by decide +kernel)

theorem fair_twoFetches : Fair twoFetches .reset where
  itcmReady t := ⟨t + 4, by omega, rfl⟩
  biuReady t := ⟨t + 4, by omega, rfl⟩
  rspReady t := ⟨t + 4, by omega, rfl⟩
  memory t hcmd := by
    obtain rfl | rfl | rfl | rfl | ⟨n, rfl⟩ := cycles_twoFetches t
    · exact absurd rfl hcmd
    · exact ⟨1, by omega, .inl rfl⟩
    · exact ⟨2, by omega, .inl rfl⟩
    · exact absurd (by decide +kernel) hcmd
    · rw [run_twoFetches] at hcmd
      exact absurd (by decide +kernel) hcmd

/-- Both fetches are answered, the second without a read. -/
theorem responses_correct_twoFetches :
    (∀ t, (run twoFetches .reset t).rsps =
        ((run twoFetches .reset t).reqs.take (run twoFetches .reset t).rsps.length).map
          (word lowMem) ∧
      (run twoFetches .reset t).reqs.length ≤ (run twoFetches .reset t).rsps.length + 1) ∧
      ∃ u, 3 ≤ u ∧ 2 ≤ (run twoFetches .reset u).rsps.length := by
  obtain ⟨hsafe, hlive⟩ := responses_correct Sys.isReset_reset env_twoFetches
  exact ⟨hsafe, hlive fair_twoFetches 3⟩

/-- The same fetches, but the ITCM presents another lane when the second is answered; it does not say
that it holds one up then. -/
def droppedLane (t : ℕ) : In :=
  { twoFetches t with
    ifu2itcmIcbRspRdata :=
      if t = 3 then itcmLane lowMem 0x80000010#32 else (twoFetches t).ifu2itcmIcbRspRdata }

theorem run_droppedLane (n : ℕ) : run droppedLane .reset (n + 4) = run droppedLane .reset 4 := by
  induction n with
  | zero => rfl
  | succ n ih =>
    have hfix : Sys.step In.quiet (run droppedLane .reset 4) = run droppedLane .reset 4 := by
      decide +kernel
    rw [Nat.add_right_comm, run_succ, ih]
    exact hfix

theorem returning_droppedLane (t : ℕ) :
    Returning lowMem 0x80000000#32 (droppedLane t) (run droppedLane .reset t) := by
  obtain rfl | rfl | rfl | rfl | ⟨n, rfl⟩ := cycles_twoFetches t
  · exact returning_twoFetches 0
  · exact returning_twoFetches 1
  · exact returning_twoFetches 2
  · exact .of_silent rfl rfl rfl rfl rfl (by decide +kernel)
  · rw [run_droppedLane]
    have hquiet : droppedLane (n + 4) = In.quiet := rfl
    exact .of_silent rfl rfl rfl rfl rfl (by rw [hquiet]; decide +kernel)

/-- The second fetch, accepted while its lane was held up, gets the other lane. -/
theorem droppedLane_wrong_word :
    Sys.reset.IsReset ∧
      (∀ t, Returning lowMem 0x80000000#32 (droppedLane t) (run droppedLane .reset t)) ∧
      (droppedLane 2).ifu2itcmHoldup = true ∧ (droppedLane 3).ifu2itcmHoldup = false ∧
      (run droppedLane .reset 4).reqs = [0x80000006#32, 0x8000000a#32] ∧
      (run droppedLane .reset 4).rsps = [word lowMem 0x80000006#32, 0x00140012#32] ∧
      word lowMem 0x8000000a#32 = 0x000c000a#32 := by
  refine ⟨Sys.isReset_reset, returning_droppedLane, ?_⟩
  decide +kernel

end E203.Ift2icb
