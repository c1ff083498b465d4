import E203.Exec.Handoff
import E203.Exec.Trap
import E203.Fetch.Stage

/-! # The PC of the oldest instruction that has not committed

* `Ifetch.pathNext`: the PCs on the current path, oldest first: a request appends, a commit removes, a
  flush starts over at its target.
* `Ifetch.OnPath`: how the fetch stage holds the path.
* `Core.StaleFlush`: a flush that leaves the PC of the discarded path marked as valid.
* `Core.onPath_run`: without one, the fetch stage holds the path in every run.
-/

namespace E203
set_option autoImplicit false

namespace Ifetch

/-- What one cycle does to the path; the request of a delayed flush is for the target that is on the
path already. -/
def pathNext (s : State) (i : In) (cmt : Bool) (path : List (BitVec 32)) : List (BitVec 32) :=
  if i.pipeFlushReq then [Isa.evenPc i.pipeFlushPc]
  else
    (if cmt then path.tail else path) ++
      (if ifuReqHsked s i && !s.dlyFlushR then [ifuReqPc s i] else [])

/-- How the fetch stage holds the path. -/
structure OnPath (s : State) (path : List (BitVec 32)) : Prop where
  /-- The instruction in the IR, then the one that is requested. -/
  path : path = (if s.irValidR then [s.ifuPcR] else []) ++
    (if s.outFlagR || s.dlyFlushR then [s.pcR] else [])
  ir : s.irValidR = true → s.irPcVldR = true
  dly : s.dlyFlushR = true → s.irPcVldR = false
  /-- With the IR empty, a valid PC is the one that is requested. -/
  vld : s.irPcVldR = true → s.irValidR = false → s.outFlagR = true ∧ s.pcNewpendR = false
  /-- A request whose PC has been handed over waits for its instruction. -/
  out : s.outFlagR = true → s.dlyFlushR = false → s.pcNewpendR = false →
    s.irPcVldR = true ∧ s.irValidR = false
  pend : s.pcNewpendR = true → s.outFlagR = true ∨ s.dlyFlushR = true

section
variable {s : State} {i : In} {path : List (BitVec 32)} {cmt : Bool}

/-- A valid PC is the oldest one on the path. -/
theorem OnPath.head (h : OnPath s path) (hkept : PcKept s) (hvld : s.irPcVldR = true) :
    path.head? = some s.ifuPcR := by
  rw [h.path]
  cases hv : s.irValidR
  case true => rfl
  case false =>
    obtain ⟨hout, hpend⟩ := h.vld hvld hv
    rw [hout, hkept hpend]
    rfl

/-- Nothing is on the path: no delayed flush is pending. -/
theorem OnPath.dlyFlushR_of_nil (h : OnPath s []) : s.dlyFlushR = false := by
  have hnil := (List.append_eq_nil_iff.mp h.path.symm).2
  cases hd : s.dlyFlushR
  · rfl
  · rw [hd, Bool.or_true] at hnil
    cases hnil

theorem OnPath.of_reset : OnPath State.reset [] where
  path := rfl
  ir h := by cases h
  dly h := by cases h
  vld h := by cases h
  out h := by cases h
  pend h := by cases h

/-! ## One cycle -/

/-- A flush starts over at its target. -/
theorem OnPath.flush (hflush : i.pipeFlushReq = true)
    (hclean : s.irPcVldR = true → s.irValidR = true) : OnPath (step s i) (pathNext s i cmt path) := by
  have hreal : pipeFlushReqReal s i = true := by simp [pipeFlushReqReal, hflush]
  have hset : irValidSet s i = false := by simp [irValidSet, hreal]
  have hpcset : irPcVldSet s i = false := by simp [irPcVldSet, hreal]
  have hena : pcEna s i = true := by simp [pcEna, pipeFlushHsked, hflush, pipeFlushAck]
  have hv : (step s i).irValidR = false := by
    rw [step_irValidR, hset]
    cases hv : s.irValidR <;> simp [irValidClr, pipeFlushHsked, hflush, pipeFlushAck, hv]
  have hvld : (step s i).irPcVldR = false := by
    rw [step_irPcVldR, hpcset]
    cases hold : s.irPcVldR
    · rfl
    · simp [irPcVldClr, irValidClr, pipeFlushHsked, hflush, pipeFlushAck, hclean hold]
  have hpc : (step s i).pcR = Isa.evenPc i.pipeFlushPc := by
    rw [step_pcR hena, pcNxt, hflush, if_pos rfl, halfAlign_eq]
  have hfetch : ((step s i).outFlagR || (step s i).dlyFlushR) = true := by
    rw [step_outFlagR, step_dlyFlushR, dlyFlushSet, hflush]
    cases ifuReqHsked s i <;> simp
  constructor
  · rw [pathNext, hflush, if_pos rfl, hv, hfetch, hpc]
    rfl
  · simp [hv]
  · simp [hvld]
  · simp [hvld]
  · intro _ _ hpend
    rw [step_pcNewpendR, hena] at hpend
    cases hpend
  · intro _
    simpa using hfetch

theorem OnPath.delayed (h : OnPath s path) (heven : Isa.evenPc s.pcR = s.pcR)
    (hcmt : cmt = ifuIrOHsked s i) (hflush : i.pipeFlushReq = false) (hdly : s.dlyFlushR = true) :
    OnPath (step s i) (pathNext s i cmt path) := by
  have hreal : pipeFlushReqReal s i = true := by simp [pipeFlushReqReal, hdly]
  have hset : irValidSet s i = false := by simp [irValidSet, hreal]
  have hpcset : irPcVldSet s i = false := by simp [irPcVldSet, hreal]
  have hvld : s.irPcVldR = false := h.dly hdly
  have hv : s.irValidR = false := by
    cases hv : s.irValidR
    · rfl
    · rw [h.ir hv] at hvld
      cases hvld
  have hcmt' : cmt = false := by simp [hcmt, ifuIrOHsked, hv]
  have hv' : (step s i).irValidR = false := by
    rw [step_irValidR, hset, hv]
    rfl
  have hvld' : (step s i).irPcVldR = false := by
    rw [step_irPcVldR, hpcset, hvld]
    rfl
  have hpc : (step s i).pcR = s.pcR := by
    cases hena : pcEna s i
    · simp [step, hena]
    · rw [step_pcR hena, pcNxt, hflush, hdly, if_neg (by decide), if_pos rfl, halfAlign_eq, heven]
  have hfetch : ((step s i).outFlagR || (step s i).dlyFlushR) = true := by
    rw [step_outFlagR, step_dlyFlushR, dlyFlushClr, hdly]
    cases ifuReqHsked s i <;> simp
  constructor
  · rw [pathNext, hflush, hcmt', hdly, h.path, hv, hdly, hv', hfetch, hpc]
    simp
  · simp [hv']
  · simp [hvld']
  · simp [hvld']
  · intro hout hdly' hpend
    -- the request has just been made, so the PC register has just been written
    have hreq : ifuReqHsked s i = true := by
      rw [step_dlyFlushR, dlyFlushClr, hdly] at hdly'
      cases hreq : ifuReqHsked s i
      · simp [hreq] at hdly'
      · rfl
    rw [step_pcNewpendR, pcEna, hreq] at hpend
    cases hpend
  · intro _
    simpa using hfetch

/-! ### Without a flush -/

/-- A cycle without a flush, `cmt` says whether the IR hands over. -/
structure Plain (s : State) (i : In) (cmt : Bool) : Prop where
  flush : i.pipeFlushReq = false
  dly : s.dlyFlushR = false
  cmt : cmt = ifuIrOHsked s i

theorem Plain.pipeFlushReqReal_eq (h : Plain s i cmt) : pipeFlushReqReal s i = false := by
  simp [pipeFlushReqReal, h.flush, h.dly]

theorem Plain.irValidClr_eq (h : Plain s i cmt) : irValidClr s i = cmt := by
  simp [irValidClr, h.cmt, pipeFlushHsked, h.flush]

theorem Plain.irValidSet_eq (h : Plain s i cmt) : irValidSet s i = ifuRspHsked s i := by
  simp [irValidSet, h.pipeFlushReqReal_eq, ifuRspNeedReplay]

theorem Plain.ifuIrIReady_eq (h : Plain s i cmt) : ifuIrIReady s i = (!s.irValidR || cmt) := by
  rw [ifuIrIReady, h.irValidClr_eq]

theorem Plain.irPcVldSet_eq (h : Plain s i cmt) :
    irPcVldSet s i = (s.pcNewpendR && (!s.irValidR || cmt)) := by
  simp [irPcVldSet, h.ifuIrIReady_eq, h.pipeFlushReqReal_eq, ifuRspNeedReplay]

theorem Plain.pcEna_eq (h : Plain s i cmt) : pcEna s i = ifuReqHsked s i := by
  simp [pcEna, pipeFlushHsked, h.flush]

/-- An empty IR hands nothing over. -/
theorem Plain.cmt_of_empty (h : Plain s i cmt) (hv : s.irValidR = false) : cmt = false := by
  simp [h.cmt, ifuIrOHsked, hv]

theorem Plain.dlyFlushR_step (h : Plain s i cmt) : (Ifetch.step s i).dlyFlushR = false := by
  rw [step_dlyFlushR, dlyFlushSet, h.flush, h.dly]
  rfl

theorem Plain.irValidR_step (h : Plain s i cmt) :
    (Ifetch.step s i).irValidR = (ifuRspHsked s i || (s.irValidR && !cmt)) := by
  rw [step_irValidR, h.irValidClr_eq, h.irValidSet_eq]

theorem Plain.irPcVldR_step (h : Plain s i cmt) :
    (Ifetch.step s i).irPcVldR = (s.pcNewpendR && (!s.irValidR || cmt) || (s.irPcVldR && !cmt)) := by
  rw [step_irPcVldR, h.irPcVldSet_eq, irPcVldClr, h.irValidClr_eq]

theorem Plain.pcNewpendR_step (h : Plain s i cmt) : (Ifetch.step s i).pcNewpendR =
    (ifuReqHsked s i || (s.pcNewpendR && !(s.pcNewpendR && (!s.irValidR || cmt)))) := by
  rw [step_pcNewpendR, h.pcEna_eq, h.irPcVldSet_eq]

theorem Plain.pcR_step (h : Plain s i cmt) :
    (Ifetch.step s i).pcR = if ifuReqHsked s i then ifuReqPc s i else s.pcR := by
  cases hreq : ifuReqHsked s i
  · simp [Ifetch.step, h.pcEna_eq, hreq]
  · rw [step_pcR (h.pcEna_eq.trans hreq)]
    rfl

theorem OnPath.path_eq (h : OnPath s path) (hp : Plain s i cmt) :
    path = (if s.irValidR then [s.ifuPcR] else []) ++ (if s.outFlagR then [s.pcR] else []) := by
  rw [h.path, hp.dly, Bool.or_false]

theorem OnPath.out_of_pend (h : OnPath s path) (hp : Plain s i cmt) (hpend : s.pcNewpendR = true) :
    s.outFlagR = true := by
  simpa [hp.dly] using h.pend hpend

/-! The response goes into the IR. -/

/-- The IR is empty or hands over. -/
theorem Plain.free_of_load (hp : Plain s i cmt) (hload : ifuRspHsked s i = true) :
    (!s.irValidR || cmt) = true :=
  hp.ifuIrIReady_eq.symm.trans (irValidSet_iff.mp (hp.irValidSet_eq.trans hload)).2.2.1

/-- What is left of the path is the request whose instruction arrives. -/
theorem OnPath.rest_of_load (h : OnPath s path) (hp : Plain s i cmt) (hload : ifuRspHsked s i = true)
    (hout : s.outFlagR = true) : (if cmt then path.tail else path) = [s.pcR] := by
  have hfree := hp.free_of_load hload
  rw [h.path_eq hp, hout]
  cases hv : s.irValidR
  · simp [hp.cmt_of_empty hv]
  · have hc : cmt = true := by simpa [hv] using hfree
    simp [hc]

/-- The PC of the instruction has been handed over or is now. -/
theorem OnPath.vld_of_load (h : OnPath s path) (hp : Plain s i cmt) (hload : ifuRspHsked s i = true)
    (hout : s.outFlagR = true) : (Ifetch.step s i).irPcVldR = true := by
  rw [hp.irPcVldR_step, hp.free_of_load hload]
  cases hpend : s.pcNewpendR
  · obtain ⟨hvld, hv⟩ := h.out hout hp.dly hpend
    simp [hvld, hp.cmt_of_empty hv]
  · rfl

theorem OnPath.load (h : OnPath s path) (hkept : PcKept s) (hp : Plain s i cmt)
    (hrsp : i.ifuRspValid = true → s.outFlagR = true) (hload : ifuRspHsked s i = true) :
    OnPath (Ifetch.step s i) (pathNext s i cmt path) := by
  have hset : irValidSet s i = true := hp.irValidSet_eq.trans hload
  have hout : s.outFlagR = true := hrsp (irValidSet_iff.mp hset).1
  have hv' : (Ifetch.step s i).irValidR = true := by
    rw [hp.irValidR_step, hload, Bool.true_or]
  have hout' : (Ifetch.step s i).outFlagR = ifuReqHsked s i := by
    rw [step_outFlagR, hload]
    simp
  constructor
  · rw [pathNext, hp.flush, hp.dly, hv', hout', hp.dlyFlushR_step, hp.pcR_step, hkept.step_ifuPcR hset,
      if_neg (by decide), h.rest_of_load hp hload hout]
    cases ifuReqHsked s i <;> simp
  · intro _
    exact h.vld_of_load hp hload hout
  · simp [hp.dlyFlushR_step]
  · simp [hv']
  · intro hreq _ hpend
    rw [hp.pcNewpendR_step, hout'.symm.trans hreq] at hpend
    cases hpend
  · intro hpend
    left
    rw [hp.pcNewpendR_step, hp.free_of_load hload] at hpend
    have hreq : ifuReqHsked s i = true := by simpa using hpend
    rw [hout', hreq]

/-! No response goes into the IR. -/

theorem Plain.irValidR_keep (hp : Plain s i cmt) (hload : ifuRspHsked s i = false) :
    (Ifetch.step s i).irValidR = (s.irValidR && !cmt) := by
  rw [hp.irValidR_step, hload, Bool.false_or]

theorem outFlagR_keep (hload : ifuRspHsked s i = false) :
    (Ifetch.step s i).outFlagR = (ifuReqHsked s i || s.outFlagR) := by
  rw [step_outFlagR, hload, Bool.not_false, Bool.and_true]

theorem Plain.ifuPcR_keep (hp : Plain s i cmt) (hload : ifuRspHsked s i = false)
    (hv : (Ifetch.step s i).irValidR = true) : (Ifetch.step s i).ifuPcR = s.ifuPcR := by
  rw [hp.irValidR_keep hload, Bool.and_eq_true, Bool.not_eq_true'] at hv
  have hno : irPcVldSet s i = false := by
    rw [hp.irPcVldSet_eq, hv.1, hv.2, Bool.not_true, Bool.false_or, Bool.and_false]
  simp [Ifetch.step, hno]

/-- A new request waits until the outstanding one is answered. -/
theorem outFlagR_of_req (hload : ifuRspHsked s i = false) (hreq : ifuReqHsked s i = true) :
    s.outFlagR = false := by
  have hcond : newReqCondi s i = true := by
    simp only [ifuReqHsked, ifuReqValid, Bool.and_eq_true] at hreq
    exact hreq.1.2
  simpa [newReqCondi, outFlagClr, hload] using hcond

theorem no_req_of_out (hload : ifuRspHsked s i = false) (hout : s.outFlagR = true) :
    ifuReqHsked s i = false := by
  by_contra hreq
  rw [outFlagR_of_req hload (Bool.not_eq_false _ ▸ hreq)] at hout
  cases hout

/-- The IR that stays empty or empties is free for the PC. -/
theorem Plain.free_of_empty (hp : Plain s i cmt) (hload : ifuRspHsked s i = false)
    (hv : (Ifetch.step s i).irValidR = false) : (!s.irValidR || cmt) = true := by
  rw [hp.irValidR_keep hload] at hv
  cases hold : s.irValidR
  · rfl
  · have hc : cmt = true := by simpa [hold] using hv
    rw [hc]
    rfl

theorem OnPath.rest_of_keep (h : OnPath s path) (hp : Plain s i cmt) (hload : ifuRspHsked s i = false) :
    (if cmt then path.tail else path) =
      (if (Ifetch.step s i).irValidR then [(Ifetch.step s i).ifuPcR] else []) ++
        (if s.outFlagR then [s.pcR] else []) := by
  cases hvn : (Ifetch.step s i).irValidR
  · rw [hp.irValidR_keep hload] at hvn
    rw [h.path_eq hp]
    cases hv : s.irValidR
    · simp [hp.cmt_of_empty hv]
    · have hc : cmt = true := by simpa [hv] using hvn
      simp [hc]
  · rw [hp.ifuPcR_keep hload hvn, h.path_eq hp]
    rw [hp.irValidR_keep hload, Bool.and_eq_true, Bool.not_eq_true'] at hvn
    simp [hvn]

/-- A PC is valid beside an empty IR only for a request that waits for its instruction. -/
theorem OnPath.vld_of_keep (h : OnPath s path) (hp : Plain s i cmt) (hload : ifuRspHsked s i = false)
    (hvn : (Ifetch.step s i).irPcVldR = true) (hv : (Ifetch.step s i).irValidR = false) :
    (Ifetch.step s i).outFlagR = true ∧ (Ifetch.step s i).pcNewpendR = false := by
  have hout : s.outFlagR = true := by
    rw [hp.irPcVldR_step, Bool.or_eq_true, Bool.and_eq_true, Bool.and_eq_true] at hvn
    obtain ⟨hpend, -⟩ | ⟨hvld, hc⟩ := hvn
    · exact h.out_of_pend hp hpend
    · have hempty : s.irValidR = false := by
        rw [hp.irValidR_keep hload] at hv
        rw [Bool.not_eq_true'] at hc
        simpa [hc] using hv
      exact (h.vld hvld hempty).1
  have hreq : ifuReqHsked s i = false := no_req_of_out hload hout
  refine ⟨by rw [outFlagR_keep hload, hout, Bool.or_true], ?_⟩
  rw [hp.pcNewpendR_step, hreq, hp.free_of_empty hload hv]
  simp

theorem OnPath.out_of_keep (h : OnPath s path) (hp : Plain s i cmt) (hload : ifuRspHsked s i = false)
    (hout : (Ifetch.step s i).outFlagR = true) (hpend : (Ifetch.step s i).pcNewpendR = false) :
    (Ifetch.step s i).irPcVldR = true ∧ (Ifetch.step s i).irValidR = false := by
  rw [hp.pcNewpendR_step, Bool.or_eq_false_iff] at hpend
  obtain ⟨hreq, hkeep⟩ := hpend
  rw [outFlagR_keep hload, hreq, Bool.false_or] at hout
  cases hold : s.pcNewpendR
  · obtain ⟨hvld, hv⟩ := h.out hout hp.dly hold
    rw [hp.irPcVldR_step, hp.irValidR_keep hload, hold, hvld, hv, hp.cmt_of_empty hv]
    decide
  · rw [hold, Bool.true_and, Bool.true_and, Bool.not_eq_false'] at hkeep
    rw [hp.irPcVldR_step, hp.irValidR_keep hload, hold, hkeep]
    refine ⟨rfl, ?_⟩
    revert hkeep
    cases s.irValidR <;> cases cmt <;> simp

theorem OnPath.keep (h : OnPath s path) (hp : Plain s i cmt) (hload : ifuRspHsked s i = false) :
    OnPath (Ifetch.step s i) (pathNext s i cmt path) := by
  constructor
  · rw [pathNext, hp.flush, hp.dly, if_neg (by decide), h.rest_of_keep hp hload,
      outFlagR_keep hload, hp.dlyFlushR_step, hp.pcR_step, List.append_assoc]
    congr 1
    cases hreq : ifuReqHsked s i
    · simp
    · simp [outFlagR_of_req hload hreq]
  · intro hvn
    rw [hp.irValidR_keep hload, Bool.and_eq_true, Bool.not_eq_true'] at hvn
    rw [hp.irPcVldR_step, hvn.2, h.ir hvn.1]
    simp
  · simp [hp.dlyFlushR_step]
  · exact h.vld_of_keep hp hload
  · intro hout _ hpend
    exact h.out_of_keep hp hload hout hpend
  · intro hpend
    left
    rw [hp.pcNewpendR_step, Bool.or_eq_true, Bool.and_eq_true] at hpend
    rw [outFlagR_keep hload]
    obtain hreq | ⟨hold, -⟩ := hpend
    · rw [hreq, Bool.true_or]
    · rw [h.out_of_pend hp hold, Bool.or_true]

/-- Without a flush: the IR hands over, the response moves up, a request is appended. -/
theorem OnPath.plain (h : OnPath s path) (hkept : PcKept s)
    (hrsp : i.ifuRspValid = true → s.outFlagR = true) (hp : Plain s i cmt) :
    OnPath (Ifetch.step s i) (pathNext s i cmt path) := by
  cases hload : ifuRspHsked s i
  case true => exact h.load hkept hp hrsp hload
  case false => exact h.keep hp hload

/-! ### Any cycle -/

theorem OnPath.step (h : OnPath s path) (hkept : PcKept s) (heven : Isa.evenPc s.pcR = s.pcR)
    (hrsp : i.ifuRspValid = true → s.outFlagR = true) (hcmt : cmt = ifuIrOHsked s i)
    (hclean : i.pipeFlushReq = true → s.irPcVldR = true → s.irValidR = true) :
    OnPath (step s i) (pathNext s i cmt path) := by
  cases hflush : i.pipeFlushReq
  case true => exact .flush hflush (hclean hflush)
  case false =>
    cases hdly : s.dlyFlushR
    · exact h.plain hkept hrsp ⟨hflush, hdly, hcmt⟩
    · exact h.delayed heven hcmt hflush hdly

end
end Ifetch

/-! ## Runs of the core -/

namespace Core

/-- The path in cycle `t`: the PCs requested since the last flush whose instruction has not
committed, oldest first. -/
def path (inp : ℕ → In) (s : State) : ℕ → List (BitVec 32)
  | 0 => []
  | t + 1 =>
    Ifetch.pathNext (run inp s t).ifu (ifuIn (run inp s t) (inp t))
      (Exu.cmtEna (run inp s t).exu (exuIn (run inp s t) (inp t))) (path inp s t)

/-- A flush while the PC of the next instruction is valid but the instruction has not arrived. -/
def StaleFlush (s : State) (i : In) : Prop :=
  Exu.pipeFlushReq s.exu (exuIn s i) = true ∧ s.ifu.irPcVldR = true ∧ s.ifu.irValidR = false

section
variable {inp : ℕ → In} {s : State}

theorem onPath_run (h0 : IsReset s) (hrsp : ∀ u, RspOutstanding (inp u) (run inp s u)) {t : ℕ}
    (hclean : ∀ u < t, ¬StaleFlush (run inp s u) (inp u) ∧ ¬Dropped (run inp s u) (inp u)) :
    Ifetch.OnPath (run inp s t).ifu (path inp s t) := by
  induction t with
  | zero =>
    change Ifetch.OnPath s.ifu []
    rw [h0.1]
    exact .of_reset
  | succ t ih =>
    have hstart : Startup (run inp s t) := Startup.run h0 t
    have hsteady : Steady (run inp s t) := Steady.run h0 t
    obtain ⟨hstale, hdrop⟩ := hclean t (Nat.lt_succ_self t)
    refine (ih fun u hu => hclean u (Nat.lt_succ_of_lt hu)).step hstart.kept hstart.even (hrsp t) ?_ ?_
    · exact (Bool.eq_iff_iff.mpr (hsteady.iHsked_iff.mpr hdrop)).symm
    · intro hflush hvld
      by_contra hv
      exact hstale ⟨hflush, hvld, Bool.not_eq_true _ ▸ hv⟩

end
end Core
end E203
