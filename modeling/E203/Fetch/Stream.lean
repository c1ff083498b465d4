import E203.Fetch.Flush
import E203.Fetch.CoreRun

/-! # Continuity of the instruction stream

* `nextPc pc i`: what follows the instruction that the response channel shows, when it is at `pc`.
* `Next t u`: the instructions of the cycles `t` and `u` go into the IR one after the other, without a
  flush between them.
* `Next.requested`: exactly one request is made between them, for what follows the instruction that
  the response channel shows then.
* `Next.halted`: the request is made later than the first of the two only after a halt request.
* `FirstRequest t r`: the first request from the cycle `t` on; `FirstRequest.of_load` and
  `FirstRequest.of_flush` say what it is for.
* `stream_continuous`: when consecutive instructions are in sequence.
-/

namespace E203
set_option autoImplicit false

namespace Ifetch

/-! ## The next instruction -/

section
variable (pc : BitVec 32) (i : In)

/-- Jumps are predicted taken, and branches backwards. -/
def rspTaken : Bool :=
  Decode.decJal i.ifuRspInstr || Decode.decJalr i.ifuRspInstr ||
    (Decode.decBxx i.ifuRspInstr && (Decode.decBjpImm i.ifuRspInstr).getLsbD 31)

/-- What a target is relative to: the PC, or for `JALR` a register. -/
def rspBase : BitVec 32 :=
  if Decode.decBxx i.ifuRspInstr || Decode.decJal i.ifuRspInstr then pc
  else if Decode.decJalrRs1idx i.ifuRspInstr = 0#5 then 0#32
  else if Decode.decJalrRs1idx i.ifuRspInstr = 1#5 then i.rf2ifuX1
  else i.rf2ifuRs1

/-- The predicted target of the instruction on the response channel, or the address behind it. -/
def nextPc : BitVec 32 :=
  Isa.evenPc
    (if rspTaken i then rspBase pc i + Decode.decBjpImm i.ifuRspInstr
      else pc + if Decode.decRv32 i.ifuRspInstr then 4#32 else 2#32)

end

section
variable {s : State} {i : In}

theorem bjpReq_eq : bjpReq s i = rspTaken i := by
  rw [bjpReq, prdtTaken, Litebpu.prdtTaken, rspTaken, Decode.decBjp, bpu]
  cases Decode.decJal i.ifuRspInstr <;> cases Decode.decJalr i.ifuRspInstr <;>
    cases Decode.decBxx i.ifuRspInstr <;> simp

theorem prdtPcAddOp1_eq (h : rspTaken i = true) :
    Litebpu.prdtPcAddOp1 (bpu s i) = rspBase s.pcR i := by
  rw [Litebpu.prdtPcAddOp1, rspBase]
  cases hdir : Decode.decBxx i.ifuRspInstr || Decode.decJal i.ifuRspInstr
  · have hjalr : Decode.decJalr i.ifuRspInstr = true := by
      rw [Bool.or_eq_false_iff] at hdir
      simpa [rspTaken, hdir.1, hdir.2] using h
    simp [bpu, Litebpu.decJalrRs1x0, Litebpu.decJalrRs1x1, hdir, hjalr]
  · simp [bpu, hdir]

theorem pcNxt_eq_nextPc (hfl : pipeFlushReqReal s i = false) (hreset : s.resetReqR = false) :
    pcNxt s i = nextPc s.pcR i := by
  rw [pcNxt_of_no_flush hfl hreset, nextPc, bjpReq_eq, pcIncrOfst]
  cases htaken : rspTaken i
  · rfl
  · rw [prdtPcAddOp1_eq htaken]

/-- The request for the next instruction is made together with the response, unless a halt is
requested. -/
theorem ifuReqHsked_of_irValidSet (hset : irValidSet s i = true) (hfirst : s.resetFlagR = false)
    (hhalt : i.ifuHaltReq = false) : ifuReqHsked s i = true := by
  obtain ⟨-, -, -, hready, hwait⟩ := irValidSet_iff.mp hset
  have hrsp : ifuRspHsked s i = true := ifuRspHsked_of_irValidSet hset
  have hnew : ifuNewReq s i = true := by simp [ifuNewReq, hwait, hhalt, hfirst, ifuRspNeedReplay]
  simp [ifuReqHsked, ifuReqValid, ifuReqValidPre, hnew, newReqCondi, outFlagClr, hrsp, hready]

end

/-! ## Consecutive instructions -/

/-- The instructions of the cycles `t` and `u` go into the IR one after the other, without a flush. -/
structure Next (st : ℕ → State) (inp : ℕ → In) (t u : ℕ) : Prop where
  lt : t < u
  first : irValidSet (st t) (inp t) = true
  second : irValidSet (st u) (inp u) = true
  none : ∀ w, t < w → w < u → irValidSet (st w) (inp w) = false
  flush : ∀ w, t < w → w < u → (inp w).pipeFlushReq = false

/-- The second instruction is the one behind the first, or its predicted target, and is requested
once. -/
structure InSequence (st : ℕ → State) (inp : ℕ → In) (t u : ℕ) : Prop where
  pc : (st (u + 1)).ifuPcR = nextPc (st (t + 1)).ifuPcR (inp t)
  request : ∃ r, t ≤ r ∧ Answers st inp r u ∧
    ∀ w, t ≤ w → w < u → ifuReqHsked (st w) (inp w) = true → w = r

section
variable {st : ℕ → State} {inp : ℕ → In} {t u : ℕ}

theorem Trace.started (h : Trace st inp) (h0 : (inp 0).pipeFlushReq = false) (t : ℕ) :
    Started (st t) ∧ ((st t).resetFlagR = true → t = 0) := by
  induction t with
  | zero =>
    rw [h.init]
    exact ⟨.of_reset, fun _ => rfl⟩
  | succ t ih =>
    rw [h.next]
    refine ⟨ih.1.step fun hfirst => ?_, fun hf => by cases hf⟩
    rw [ih.2 hfirst, h0]

/-- An instruction goes into the IR only after the reset request. -/
theorem Trace.not_reset_of_load (h : Trace st inp) (h0 : (inp 0).pipeFlushReq = false)
    (hload : irValidSet (st t) (inp t) = true) : (st t).resetReqR = false := by
  cases hr : (st t).resetReqR
  · rfl
  · have hout := h.rsp t (irValidSet_iff.mp hload).1
    rw [(h.started h0 t).1.reset hr] at hout
    cases hout

/-- After an instruction went into the IR, the request for the next one is still to be made, or it is
the one outstanding. -/
theorem Trace.afterLoad (h : Trace st inp) (h0 : (inp 0).pipeFlushReq = false) (htu : t < u)
    (hload : irValidSet (st t) (inp t) = true)
    (hnone : ∀ w, t < w → w < u → irValidSet (st w) (inp w) = false)
    (hflush : ∀ w, t < w → w < u → (inp w).pipeFlushReq = false) :
    (st u).resetReqR = false ∧
      (((st u).dlyFlushR = false ∧ (st u).outFlagR = false ∧ (st u).pcR = (st t).pcR ∧
          ∀ w, t ≤ w → w < u → ifuReqHsked (st w) (inp w) = false) ∨
        ∃ r, Requested st inp t r u ∧ ifuReqPc (st r) (inp r) = nextPc (st t).pcR (inp r)) := by
  have hreset : ∀ w, t ≤ w → w < u → (st w).resetReqR = false → (st (w + 1)).resetReqR = false := by
    intro w hw1 hw2 hw
    have hflag : (st w).resetFlagR = false := by
      cases hf : (st w).resetFlagR
      · rfl
      · have hw0 := (h.started h0 w).2 hf
        obtain rfl : t = w := by omega
        have hv := (irValidSet_iff.mp hload).1
        rw [hw0] at hv
        have hout := h.rsp 0 hv
        rw [h.init] at hout
        cases hout
    rw [h.next, step_resetReqR]
    simp [resetReqSet, hflag, hw]
  induction u with
  | zero => omega
  | succ u ih =>
    obtain rfl | hlt : t = u ∨ t < u := by omega
    · obtain ⟨hv, hfl, -⟩ := irValidSet_iff.mp hload
      have hidle : (st t).resetReqR = false := h.not_reset_of_load h0 hload
      refine ⟨hreset t (Nat.le_refl t) (Nat.lt_succ_self t) hidle, ?_⟩
      cases hreq : ifuReqHsked (st t) (inp t)
      · obtain ⟨hnow, hdly⟩ := pipeFlushReqReal_eq_false.mp hfl
        refine .inl ⟨?_, ?_, ?_, fun w hw1 hw2 => ?_⟩
        · rw [h.next, step_dlyFlushR]
          simp [dlyFlushSet, hnow, hdly]
        · rw [h.next, step_outFlagR, hreq, ifuRspHsked_of_irValidSet hload]
          simp
        · rw [h.next]
          simp [step, pcEna, pipeFlushHsked, hnow, hreq]
        · obtain rfl : w = t := by omega
          exact hreq
      · refine .inr ⟨t, h.requested (Nat.le_refl t) hreq fun w _ _ => by omega, ?_⟩
        exact pcNxt_eq_nextPc hfl hidle
    · have hnow := hflush u hlt (Nat.lt_succ_self u)
      obtain ⟨hidle, hcases⟩ := ih hlt (fun w hw1 hw2 => hnone w hw1 (by omega))
        (fun w hw1 hw2 => hflush w hw1 (by omega)) (fun w hw1 hw2 => hreset w hw1 (by omega))
      refine ⟨hreset u (by omega) (Nat.lt_succ_self u) hidle, ?_⟩
      obtain ⟨hdly, hout, hpc, hno⟩ | ⟨r, hr, hnxt⟩ := hcases
      · cases hreq : ifuReqHsked (st u) (inp u)
        · refine .inl ⟨?_, ?_, ?_, fun w hw1 hw2 => ?_⟩
          · rw [h.next, step_dlyFlushR]
            simp [dlyFlushSet, hnow, hdly]
          · rw [h.next, step_outFlagR]
            simp [hreq, hout]
          · rw [h.next, ← hpc]
            simp [step, pcEna, pipeFlushHsked, hnow, hreq]
          · obtain hw | rfl : w < u ∨ w = u := by omega
            · exact hno w hw1 hw
            · exact hreq
        · refine .inr ⟨u, h.requested (Nat.le_of_lt hlt) hreq hno, ?_⟩
          rw [← hpc]
          exact pcNxt_eq_nextPc (pipeFlushReqReal_eq_false.mpr ⟨hnow, hdly⟩) hidle
      · exact .inr ⟨r, hr.step h hnow (hnone u hlt (Nat.lt_succ_self u)), hnxt⟩

/-- As long as nothing has been requested behind the instruction, nothing comes. -/
theorem Trace.unrequested (h : Trace st inp) (h0 : (inp 0).pipeFlushReq = false) (htu : t < u)
    (hload : irValidSet (st t) (inp t) = true)
    (hflush : ∀ w, t < w → w < u → (inp w).pipeFlushReq = false)
    (hno : ∀ w, t ≤ w → w < u → ifuReqHsked (st w) (inp w) = false) :
    (st u).resetReqR = false ∧ (st u).dlyFlushR = false ∧ (st u).outFlagR = false ∧
      (st u).pcR = (st t).pcR := by
  induction u using Nat.strong_induction_on with
  | h u ih =>
    have hnone : ∀ w, t < w → w < u → irValidSet (st w) (inp w) = false := by
      intro w hw1 hw2
      obtain ⟨-, -, hout, -⟩ := ih w hw2 hw1 (fun v hv1 hv2 => hflush v hv1 (by omega))
        (fun v hv1 hv2 => hno v hv1 (by omega))
      by_contra hset
      have hrsp := h.rsp w (irValidSet_iff.mp (Bool.not_eq_false _ ▸ hset)).1
      rw [hout] at hrsp
      cases hrsp
    obtain ⟨hreset, ⟨hdly, hout, hpc, -⟩ | ⟨r, hr, -⟩⟩ := h.afterLoad h0 htu hload hnone hflush
    · exact ⟨hreset, hdly, hout, hpc⟩
    · have hreq := hr.req
      rw [hno r hr.tr hr.ru] at hreq
      cases hreq

/-- The first request from the cycle `t` on is accepted in the cycle `r`, and no flush comes in
between. -/
structure FirstRequest (st : ℕ → State) (inp : ℕ → In) (t r : ℕ) : Prop where
  tr : t ≤ r
  req : ifuReqHsked (st r) (inp r) = true
  none : ∀ w, t ≤ w → w < r → ifuReqHsked (st w) (inp w) = false
  flush : ∀ w, t < w → w ≤ r → (inp w).pipeFlushReq = false

/-- The first request behind an instruction is for what follows the instruction that the response
channel shows then. -/
theorem FirstRequest.of_load {r : ℕ} (hr : FirstRequest st inp t r) (h : Trace st inp)
    (h0 : (inp 0).pipeFlushReq = false) (hload : irValidSet (st t) (inp t) = true) :
    ifuReqPc (st r) (inp r) = nextPc (st t).pcR (inp r) := by
  obtain rfl | hlt : t = r ∨ t < r := by
    have htr := hr.tr
    omega
  · exact pcNxt_eq_nextPc (irValidSet_iff.mp hload).2.1 (h.not_reset_of_load h0 hload)
  · obtain ⟨hreset, hdly, -, hpc⟩ := h.unrequested h0 hlt hload
      (fun w hw1 hw2 => hr.flush w hw1 (by omega)) hr.none
    have hnow := hr.flush r hlt (Nat.le_refl r)
    rw [← hpc]
    exact pcNxt_eq_nextPc (pipeFlushReqReal_eq_false.mpr ⟨hnow, hdly⟩) hreset

/-- The first request from a flush on is for its target. -/
theorem FirstRequest.of_flush {r : ℕ} (hr : FirstRequest st inp t r) (h : Trace st inp)
    (hflush : (inp t).pipeFlushReq = true) :
    ifuReqPc (st r) (inp r) = Isa.evenPc (inp t).pipeFlushPc := by
  obtain rfl | hlt : t = r ∨ t < r := by
    have htr := hr.tr
    omega
  · rw [ifuReqPc, pcNxt, if_pos hflush, halfAlign_eq]
  · have hpend : ∀ w, t < w → w ≤ r → (st w).dlyFlushR = true := fun w hw1 hw2 =>
      h.dlyFlushR hflush hw1 fun v hv1 hv2 => hr.none v hv1 (by omega)
    have hnone : ∀ w, t < w → w < r → irValidSet (st w) (inp w) = false := by
      intro w hw1 hw2
      by_contra hset
      have hdly := (not_flush_of_irValidSet (Bool.not_eq_false _ ▸ hset)).2
      rw [hpend w hw1 (by omega)] at hdly
      cases hdly
    have hnow := hr.flush r hlt (Nat.le_refl r)
    obtain ⟨hdly, hpc, -⟩ | ⟨v, hv, -⟩ := h.afterFlush hflush hlt
      (fun w hw1 hw2 => hr.flush w hw1 (by omega)) hnone
    · rw [ifuReqPc, pcNxt, if_neg (by rw [hnow]; decide), if_pos hdly, hpc, halfAlign_eq, halfAlign_eq,
        evenPc_evenPc]
    · have hreq := hv.req
      rw [hr.none v hv.tr hv.ru] at hreq
      cases hreq

/-- Between consecutive instructions one request is made, for what follows the instruction that the
response channel shows at that time. -/
theorem Next.requested (hn : Next st inp t u) (h : Trace st inp)
    (h0 : (inp 0).pipeFlushReq = false) :
    ∃ r, Requested st inp t r u ∧
      (st (u + 1)).ifuPcR = nextPc (st (t + 1)).ifuPcR (inp r) := by
  obtain ⟨-, ⟨-, hout, -⟩ | ⟨r, hr, hnxt⟩⟩ := h.afterLoad h0 hn.lt hn.first hn.none hn.flush
  · have hrsp := h.rsp u (irValidSet_iff.mp hn.second).1
    rw [hout] at hrsp
    cases hrsp
  · refine ⟨r, hr, ?_⟩
    have hpc : (st (t + 1)).ifuPcR = (st t).pcR := by
      rw [h.next, (h.pcKept t).step_ifuPcR hn.first]
    rw [hpc, ← hnxt, ← hr.pc, h.next, (h.pcKept u).step_ifuPcR hn.second]

/-- Without a halt request the next request is made together with the response. -/
theorem Trace.request_of_load (h : Trace st inp) (h0 : (inp 0).pipeFlushReq = false)
    (hload : irValidSet (st t) (inp t) = true) (hhalt : (inp t).ifuHaltReq = false) :
    ifuReqHsked (st t) (inp t) = true := by
  refine ifuReqHsked_of_irValidSet hload ?_ hhalt
  cases hf : (st t).resetFlagR
  · rfl
  · have hout := h.rsp t (irValidSet_iff.mp hload).1
    rw [(h.started h0 t).1.first hf] at hout
    cases hout

/-- The request is made later only after a halt request. -/
theorem Next.halted (hn : Next st inp t u) (h : Trace st inp) (h0 : (inp 0).pipeFlushReq = false)
    (hlate : ifuReqHsked (st t) (inp t) = false) : (inp t).ifuHaltReq = true := by
  by_contra hhalt
  rw [h.request_of_load h0 hn.first (Bool.not_eq_true _ ▸ hhalt)] at hlate
  cases hlate

/-- Consecutive instructions are in sequence exactly when, wherever the request for the second is made
after a halt request and later than the response with the first, the response channel then still
shows an instruction with the same successor. -/
theorem stream_continuous (h : Trace st inp) (h0 : (inp 0).pipeFlushReq = false) :
    (∀ t u, Next st inp t u → InSequence st inp t u) ↔
      ∀ t u, Next st inp t u → (inp t).ifuHaltReq = true → ∀ r, t < r → r < u →
        ifuReqHsked (st r) (inp r) = true →
          nextPc (st (t + 1)).ifuPcR (inp r) = nextPc (st (t + 1)).ifuPcR (inp t) := by
  constructor
  · intro hseq t u hn _ r htr hru hreq
    obtain ⟨r', hr', hpc⟩ := hn.requested h h0
    obtain rfl : r = r' := hr'.once r (by omega) hru hreq
    rw [← hpc, (hseq t u hn).pc]
  · intro hsame t u hn
    obtain ⟨r, hr, hpc⟩ := hn.requested h h0
    refine ⟨?_, r, hr.tr, hr.answers hn.second, hr.once⟩
    obtain rfl | hlt : t = r ∨ t < r := by
      have htr := hr.tr
      omega
    · exact hpc
    · have hlate : ifuReqHsked (st t) (inp t) = false := by
        cases hreq : ifuReqHsked (st t) (inp t)
        · rfl
        · have htr := hr.once t (Nat.le_refl t) hn.lt hreq
          omega
      rw [hpc]
      exact hsame t u hn (hn.halted h h0 hlate) r hlt hr.ru hr.req

end
end Ifetch

/-! ## Runs of the core -/

namespace Core
section
variable {inp : ℕ → In} {s : State}

/-- The fetch stage in a run of the core. -/
theorem trace (h0 : IsReset s) (hrsp : ∀ t, RspOutstanding (inp t) (run inp s t)) :
    Ifetch.Trace (fun t => (run inp s t).ifu) fun t => ifuIn (run inp s t) (inp t) where
  init := h0.1
  next _ := rfl
  rsp := hrsp

/-- The first request of the fetch stage from the cycle `t` on is accepted in the cycle `r`, and no
flush comes in between. -/
def FirstRequest (inp : ℕ → In) (s : State) (t r : ℕ) : Prop :=
  Ifetch.FirstRequest (fun u => (run inp s u).ifu) (fun u => ifuIn (run inp s u) (inp u)) t r

end

/-- `WFI`, then a response during the halt, then a timer interrupt that is enabled but not taken; the
response channel shows zeros between the responses. -/
def haltedResponse (t : ℕ) : In :=
  { In.quiet with
    ifuRspValid := t == 2 || t == 5 || t == 8
    ifuRspInstr := if t = 2 then 0x10500073#32 else if t = 5 ∨ t = 8 then 0x00100093#32 else 0#32
    tmrIrqR := decide (7 ≤ t)
    mtieR := true }

theorem haltedResponse_rspOutstanding (t : ℕ) :
    RspOutstanding (haltedResponse t) (run haltedResponse zeroState t) := by
  intro hv
  have ht : t = 2 ∨ t = 5 ∨ t = 8 := by simpa [haltedResponse, or_assoc] using hv
  clear hv
  obtain rfl | rfl | rfl := ht
  all_goals decide +kernel

/-- The second instruction goes into the IR during the halt, the third after it. -/
theorem haltedResponse_next :
    Ifetch.Next (fun t => (run haltedResponse zeroState t).ifu)
      (fun t => ifuIn (run haltedResponse zeroState t) (haltedResponse t)) 5 8 := by
  refine ⟨by decide, by decide +kernel, by decide +kernel, fun w hw1 hw2 => ?_,
    fun w hw1 hw2 => ?_⟩
  all_goals
    obtain rfl | rfl : w = 6 ∨ w = 7 := by omega
    all_goals
      clear hw1 hw2
      decide +kernel

theorem haltedResponse_pc :
    (run haltedResponse zeroState 9).ifu.ifuPcR ≠
      Ifetch.nextPc (run haltedResponse zeroState 6).ifu.ifuPcR
        (ifuIn (run haltedResponse zeroState 5) (haltedResponse 5)) := by decide +kernel

/-- In this run the response channel has changed when the fetch goes on. -/
theorem stream_continuous_haltedResponse :
    ¬∀ t u, Ifetch.Next (fun t => (run haltedResponse zeroState t).ifu)
        (fun t => ifuIn (run haltedResponse zeroState t) (haltedResponse t)) t u →
      (ifuIn (run haltedResponse zeroState t) (haltedResponse t)).ifuHaltReq = true →
      ∀ r, t < r → r < u →
        Ifetch.ifuReqHsked (run haltedResponse zeroState r).ifu
            (ifuIn (run haltedResponse zeroState r) (haltedResponse r)) = true →
          Ifetch.nextPc (run haltedResponse zeroState (t + 1)).ifu.ifuPcR
              (ifuIn (run haltedResponse zeroState r) (haltedResponse r)) =
            Ifetch.nextPc (run haltedResponse zeroState (t + 1)).ifu.ifuPcR
              (ifuIn (run haltedResponse zeroState t) (haltedResponse t)) := by
  intro hsame
  have htrace := trace (State.isReset_reset _) haltedResponse_rspOutstanding
  have hstart : (ifuIn (run haltedResponse zeroState 0) (haltedResponse 0)).pipeFlushReq = false :=
    IsReset.pipeFlushReq (s := zeroState) (i := haltedResponse 0) (State.isReset_reset _)
  have hseq := (Ifetch.stream_continuous htrace hstart).mpr hsame 5 8 haltedResponse_next
  exact haltedResponse_pc hseq.pc

/-- The instruction after the one of the halt is not the one behind it. -/
theorem haltedResponse_skips :
    IsReset zeroState ∧ (∀ t, RspOutstanding (haltedResponse t) (run haltedResponse zeroState t)) ∧
      ¬∀ t u, Ifetch.Next (fun t => (run haltedResponse zeroState t).ifu)
          (fun t => ifuIn (run haltedResponse zeroState t) (haltedResponse t)) t u →
        Ifetch.InSequence (fun t => (run haltedResponse zeroState t).ifu)
          (fun t => ifuIn (run haltedResponse zeroState t) (haltedResponse t)) t u := by
  refine ⟨State.isReset_reset _, haltedResponse_rspOutstanding, fun hseq => ?_⟩
  exact haltedResponse_pc (hseq 5 8 haltedResponse_next).pc

end Core
end E203
