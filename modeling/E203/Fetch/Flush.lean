import E203.Fetch.Stage

/-! # Flushes of the fetch stage

* `Trace`: the states and inputs of a run, in which responses come to outstanding requests only.
* `Answers v u`: the response taken in cycle `u` is the one to the request accepted in cycle `v`.
* `Requested t r u`: the request of cycle `r`, the only one since `t`, is outstanding in cycle `u`.
* `Trace.requested_after`: after a flush nothing requested before it goes into the IR.
* `Trace.flush_target`: what goes into the IR next is the target of the last flush, requested once.
-/

namespace E203.Ifetch
set_option autoImplicit false

/-- A run of the fetch stage. -/
structure Trace (st : ℕ → State) (inp : ℕ → In) : Prop where
  init : st 0 = State.reset
  next : ∀ t, st (t + 1) = step (st t) (inp t)
  /-- A response comes to an outstanding request only. -/
  rsp : ∀ t, (inp t).ifuRspValid = true → (st t).outFlagR = true

/-- The response taken in cycle `u` answers the request accepted in cycle `v`. -/
structure Answers (st : ℕ → State) (inp : ℕ → In) (v u : ℕ) : Prop where
  lt : v < u
  req : ifuReqHsked (st v) (inp v) = true
  rsp : ifuRspHsked (st u) (inp u) = true
  between : ∀ w, v < w → w < u →
    ifuReqHsked (st w) (inp w) = false ∧ ifuRspHsked (st w) (inp w) = false

section
variable {st : ℕ → State} {inp : ℕ → In} {t u : ℕ}

theorem Trace.pcKept (h : Trace st inp) (t : ℕ) : PcKept (st t) := by
  induction t with
  | zero =>
    intro _
    rw [h.init]
    rfl
  | succ t ih =>
    rw [h.next]
    exact ih.step

theorem Trace.exists_req (h : Trace st inp) (hout : (st u).outFlagR = true) :
    ∃ v < u, ifuReqHsked (st v) (inp v) = true ∧ ∀ w, v < w → w < u →
      ifuReqHsked (st w) (inp w) = false ∧ ifuRspHsked (st w) (inp w) = false := by
  induction u with
  | zero =>
    rw [h.init] at hout
    cases hout
  | succ u ih =>
    rw [h.next, step_outFlagR, Bool.or_eq_true, Bool.and_eq_true, Bool.not_eq_true'] at hout
    cases hreq : ifuReqHsked (st u) (inp u)
    · obtain hreq' | ⟨hold, hrsp⟩ := hout
      · rw [hreq] at hreq'
        cases hreq'
      · obtain ⟨v, hv, hvreq, hbetween⟩ := ih hold
        refine ⟨v, by omega, hvreq, fun w hw1 hw2 => ?_⟩
        obtain hlt | rfl : w < u ∨ w = u := by omega
        · exact hbetween w hw1 hlt
        · exact ⟨hreq, hrsp⟩
    · exact ⟨u, by omega, hreq, fun w hw1 hw2 => by omega⟩

theorem Trace.exists_answers (h : Trace st inp) (hrsp : ifuRspHsked (st u) (inp u) = true) :
    ∃ v, Answers st inp v u := by
  have hv : (inp u).ifuRspValid = true := (Bool.and_eq_true _ _ ▸ hrsp).1
  obtain ⟨v, hlt, hreq, hbetween⟩ := h.exists_req (h.rsp u hv)
  exact ⟨v, hlt, hreq, hrsp, hbetween⟩

/-- A flush is pending until the next request is accepted. -/
theorem Trace.dlyFlushR (h : Trace st inp) (hflush : (inp t).pipeFlushReq = true) (htu : t < u)
    (hno : ∀ w, t ≤ w → w < u → ifuReqHsked (st w) (inp w) = false) :
    (st u).dlyFlushR = true := by
  induction u with
  | zero => omega
  | succ u ih =>
    rw [h.next, step_dlyFlushR]
    have hreq := hno u (by omega) (by omega)
    obtain hlt | rfl : t < u ∨ t = u := by omega
    · have hold := ih hlt fun w hw1 hw2 => hno w hw1 (by omega)
      simp [hold, dlyFlushClr, hreq]
    · simp [dlyFlushSet, hflush, hreq]

theorem not_flush_of_irValidSet {s : State} {i : In} (h : irValidSet s i = true) :
    i.pipeFlushReq = false ∧ s.dlyFlushR = false :=
  pipeFlushReqReal_eq_false.mp (irValidSet_iff.mp h).2.1

theorem Trace.irValidR_of_flush (h : Trace st inp) (hflush : (inp t).pipeFlushReq = true) :
    (st (t + 1)).irValidR = false := by
  have hset : irValidSet (st t) (inp t) = false := by simp [irValidSet, pipeFlushReqReal, hflush]
  rw [h.next, step_irValidR, hset]
  cases hv : (st t).irValidR <;> simp [irValidClr, pipeFlushHsked, pipeFlushAck, hflush, hv]

/-- What goes into the IR after a flush was requested in the cycle of the flush or later. -/
theorem Trace.requested_after (h : Trace st inp) (hflush : (inp t).pipeFlushReq = true)
    (htu : t ≤ u) (hload : irValidSet (st u) (inp u) = true) :
    ∃ v, t ≤ v ∧ Answers st inp v u := by
  obtain ⟨v, hv⟩ := h.exists_answers (ifuRspHsked_of_irValidSet hload)
  obtain ⟨hnow, hdly⟩ := not_flush_of_irValidSet hload
  refine ⟨v, ?_, hv⟩
  by_contra hlt
  have hne : t ≠ u := by
    rintro rfl
    rw [hflush] at hnow
    cases hnow
  have hpend : (st u).dlyFlushR = true := by
    apply h.dlyFlushR hflush (by omega)
    intro w hw1 hw2
    exact (hv.between w (by omega) hw2).1
  rw [hpend] at hdly
  cases hdly

/-- The request accepted in cycle `r`, the only one since `t`, is outstanding in cycle `u`. -/
structure Requested (st : ℕ → State) (inp : ℕ → In) (t r u : ℕ) : Prop where
  tr : t ≤ r
  ru : r < u
  req : ifuReqHsked (st r) (inp r) = true
  once : ∀ w, t ≤ w → w < u → ifuReqHsked (st w) (inp w) = true → w = r
  rsp : ∀ w, r < w → w < u → ifuRspHsked (st w) (inp w) = false
  dly : (st u).dlyFlushR = false
  out : (st u).outFlagR = true
  pc : (st u).pcR = ifuReqPc (st r) (inp r)

theorem Trace.requested (h : Trace st inp) {r : ℕ} (htr : t ≤ r)
    (hreq : ifuReqHsked (st r) (inp r) = true)
    (hno : ∀ w, t ≤ w → w < r → ifuReqHsked (st w) (inp w) = false) :
    Requested st inp t r (r + 1) where
  tr := htr
  ru := Nat.lt_succ_self r
  req := hreq
  once := by
    intro w hw1 hw2 hw
    by_contra hne
    rw [hno w hw1 (by omega)] at hw
    cases hw
  rsp := by
    intro w hw1 hw2
    omega
  dly := by
    rw [h.next, step_dlyFlushR]
    simp [dlyFlushSet, dlyFlushClr, hreq]
  out := by
    rw [h.next, step_outFlagR]
    simp [hreq]
  pc := by
    rw [h.next]
    simp [step, pcEna, hreq, ifuReqPc]

/-- A request stays outstanding as long as there is no flush and nothing goes into the IR. -/
theorem Requested.step {r : ℕ} (hr : Requested st inp t r u) (h : Trace st inp)
    (hflush : (inp u).pipeFlushReq = false) (hload : irValidSet (st u) (inp u) = false) :
    Requested st inp t r (u + 1) := by
  have hreal : pipeFlushReqReal (st u) (inp u) = false := by
    simp [pipeFlushReqReal, hflush, hr.dly]
  have hrsp : ifuRspHsked (st u) (inp u) = false := by
    simpa [irValidSet, hreal, ifuRspNeedReplay] using hload
  have hreq : ifuReqHsked (st u) (inp u) = false := by
    simp [ifuReqHsked, ifuReqValid, newReqCondi, hr.out, outFlagClr, hrsp]
  have hlt := hr.ru
  refine ⟨hr.tr, by omega, hr.req, fun w hw1 hw2 hw => ?_, fun w hw1 hw2 => ?_, ?_, ?_, ?_⟩
  · obtain hlt' | rfl : w < u ∨ w = u := by omega
    · exact hr.once w hw1 hlt' hw
    · rw [hreq] at hw
      cases hw
  · obtain hlt' | rfl : w < u ∨ w = u := by omega
    · exact hr.rsp w hw1 hlt'
    · exact hrsp
  · rw [h.next, step_dlyFlushR]
    simp [dlyFlushSet, hflush, hr.dly]
  · rw [h.next, step_outFlagR]
    simp [hr.out, hrsp]
  · rw [h.next, ← hr.pc]
    simp [Ifetch.step, pcEna, pipeFlushHsked, hflush, hreq]

/-- The response that goes into the IR is the one to that request. -/
theorem Requested.answers {r : ℕ} (hr : Requested st inp t r u)
    (hload : irValidSet (st u) (inp u) = true) : Answers st inp r u where
  lt := hr.ru
  req := hr.req
  rsp := ifuRspHsked_of_irValidSet hload
  between := by
    intro w hw1 hw2
    refine ⟨?_, hr.rsp w hw1 hw2⟩
    by_contra hreq
    have htr := hr.tr
    have hwr := hr.once w (by omega) hw2 (by simpa using hreq)
    omega

/-- After a flush to `target` in cycle `t`, as long as no other flush and no new instruction came, the
request of the target is pending, or it is the one outstanding. -/
theorem Trace.afterFlush (h : Trace st inp) (hflush : (inp t).pipeFlushReq = true) (htu : t < u)
    (hlast : ∀ w, t < w → w < u → (inp w).pipeFlushReq = false)
    (hfirst : ∀ w, t < w → w < u → irValidSet (st w) (inp w) = false) :
    ((st u).dlyFlushR = true ∧ (st u).pcR = halfAlign (inp t).pipeFlushPc ∧
        ∀ w, t ≤ w → w < u → ifuReqHsked (st w) (inp w) = false) ∨
      ∃ r, Requested st inp t r u ∧
        ifuReqPc (st r) (inp r) = halfAlign (inp t).pipeFlushPc := by
  induction u with
  | zero => omega
  | succ u ih =>
    obtain rfl | hlt : t = u ∨ t < u := by omega
    · have hnxt : pcNxt (st t) (inp t) = halfAlign (inp t).pipeFlushPc := by
        rw [pcNxt, if_pos hflush]
      cases hreq : ifuReqHsked (st t) (inp t)
      · refine .inl ⟨?_, ?_, fun w hw1 hw2 => ?_⟩
        · rw [h.next, step_dlyFlushR]
          simp [dlyFlushSet, hflush, hreq]
        · rw [h.next, ← hnxt]
          simp [step, pcEna, pipeFlushHsked, pipeFlushAck, hflush]
        · obtain rfl : w = t := by omega
          exact hreq
      · exact .inr ⟨t, h.requested (Nat.le_refl t) hreq fun w _ _ => by omega, hnxt⟩
    · have hnow := hlast u hlt (Nat.lt_succ_self u)
      obtain ⟨hdly, hpc, hno⟩ | ⟨r, hr, hnxt⟩ := ih hlt (fun w hw1 hw2 => hlast w hw1 (by omega))
        (fun w hw1 hw2 => hfirst w hw1 (by omega))
      · have hnxt : pcNxt (st u) (inp u) = halfAlign (inp t).pipeFlushPc := by
          have heven := evenPc_evenPc (inp t).pipeFlushPc
          rw [← halfAlign_eq, ← halfAlign_eq] at heven
          rw [pcNxt, hnow, hdly, hpc]
          exact heven
        cases hreq : ifuReqHsked (st u) (inp u)
        · refine .inl ⟨?_, ?_, fun w hw1 hw2 => ?_⟩
          · rw [h.next, step_dlyFlushR]
            simp [dlyFlushClr, hdly, hreq]
          · rw [h.next]
            simp [step, pcEna, pipeFlushHsked, hnow, hreq, hpc]
          · obtain hw | rfl : w < u ∨ w = u := by omega
            · exact hno w hw1 hw
            · exact hreq
        · exact .inr ⟨u, h.requested (Nat.le_of_lt hlt) hreq hno, hnxt⟩
      · exact .inr ⟨r, hr.step h hnow (hfirst u hlt (Nat.lt_succ_self u)), hnxt⟩

/-- The first instruction that goes into the IR after the last flush is the flush target, and it is
requested once. -/
theorem Trace.flush_target (h : Trace st inp) (hflush : (inp t).pipeFlushReq = true) (htu : t < u)
    (hlast : ∀ w, t < w → w < u → (inp w).pipeFlushReq = false)
    (hfirst : ∀ w, t < w → w < u → irValidSet (st w) (inp w) = false)
    (hload : irValidSet (st u) (inp u) = true) :
    (st (u + 1)).ifuPcR = halfAlign (inp t).pipeFlushPc ∧
      ∃ v, t ≤ v ∧ Answers st inp v u ∧
        ifuReqPc (st v) (inp v) = halfAlign (inp t).pipeFlushPc ∧
        ∀ w, t ≤ w → w < u → ifuReqHsked (st w) (inp w) = true → w = v := by
  obtain ⟨hdly, -⟩ | ⟨r, hr, hnxt⟩ := h.afterFlush hflush htu hlast hfirst
  · rw [(not_flush_of_irValidSet hload).2] at hdly
    cases hdly
  · refine ⟨?_, r, hr.tr, hr.answers hload, hnxt, hr.once⟩
    rw [h.next, (h.pcKept u).step_ifuPcR hload, hr.pc, hnxt]

end
end E203.Ifetch
