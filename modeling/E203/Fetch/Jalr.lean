import E203.Decode.Control
import E203.Exec.Trap
import E203.Exec.Write
import E203.Fetch.Operands
import E203.Fetch.Stream

/-! # The base of a predicted register jump

The fetch stage reads the register file ahead of the execute stage, on the direct output of `x1` or
through the read port of the instruction in the IR.

* `Core.Settled`: no instruction that has not completed writes the register.
* `Core.JalrRequest`: a request behind a register jump, made with its response or after a halt.
* `Core.BorrowFlush`: the port is borrowed for an instruction that is flushed in the same cycle.
* `Core.StillShown`: a request that is made after a halt finds the jump as it was.
* `Core.jalr_base_exact`: then the request is for the target, and the base is settled and what the
  register holds when the jump is executed.
-/

namespace E203
set_option autoImplicit false

namespace Litebpu
section
variable {i : In} {r : Bool}

/-- The flag records that the port has been borrowed in the last cycle. -/
theorem step_eq : step i r = bpu2rfRs1Ena i r := by
  rw [bpu2rfRs1Ena]
  simp only [step, dfflr]
  cases hset : rs1xnRdrfSet i r <;> cases r <;> simp

/-- When the predictor does not wait, what it reads is free. -/
theorem free_of_no_wait (hv : i.decIValid = true) (hj : i.decJalr = true)
    (hwait : bpuWait i r = false) :
    (decJalrRs1x1 i = true → i.oitfEmpty = true ∧ i.jalrRs1idxCamIrrdidx = false) ∧
      (decJalrRs1xn i = true → i.oitfEmpty = true ∧ i.irEmpty = true ∧ r = true) := by
  simp only [bpuWait, Bool.or_eq_false_iff] at hwait
  obtain ⟨⟨hx1, hxn⟩, hset⟩ := hwait
  constructor
  · intro hone
    simpa [jalrRs1x1Dep, hv, hj, hone] using hx1
  · intro hn
    have hfree : i.oitfEmpty = true ∧ i.irEmpty = true := by
      simpa [jalrRs1xnDep, hv, hj, hn] using hxn
    refine ⟨hfree.1, hfree.2, ?_⟩
    simpa [rs1xnRdrfSet, hv, hj, hn, hxn] using hset

end
end Litebpu

namespace Ifetch
section
variable {s : State} {i : In}

/-- The port is borrowed for the jump on the response channel, which is not accepted. -/
theorem borrow_step (hflag : (step s i).rs1xnRdrfR = true)
    (hclean : ¬(bpu2rfRs1Ena s i = true ∧ pipeFlushReqReal s i = true)) :
    i.ifuRspValid = true ∧ ifuRspHsked s i = false ∧
      (step s i).irRs1idxR = Decode.decJalrRs1idx i.ifuRspInstr := by
  have hena : bpu2rfRs1Ena s i = true := by
    rw [← hflag]
    exact Litebpu.step_eq.symm
  have hreal : pipeFlushReqReal s i = false := by
    cases hr : pipeFlushReqReal s i
    · rfl
    · exact absurd ⟨hena, hr⟩ hclean
  have hset := hena
  simp only [bpu2rfRs1Ena, Litebpu.bpu2rfRs1Ena] at hset
  have hwait : bpuWait s i = true := by rw [bpuWait, Litebpu.bpuWait, hset, Bool.or_true]
  simp only [Litebpu.rs1xnRdrfSet, Bool.and_eq_true] at hset
  obtain ⟨⟨⟨⟨-, hv⟩, hj⟩, -⟩, -⟩ := hset
  refine ⟨hv, ?_, ?_⟩
  · simp [ifuRspHsked, ifuRspReady, ifuRsp2irReady, hreal, hwait]
  · rw [← (Decode.decJalr_fields hj).2.2.2]
    simp [step, irRs1idxEna, hena]

end
end Ifetch

namespace Core

/-- No instruction that has not completed writes register `n`. -/
structure Settled (s : State) (n : BitVec 5) : Prop where
  oitf : ¬s.exu.oitf.Writes n
  ir : s.ifu.irValidR = true → Decode.decRdwen s.ifu.ifuIrR = true →
    Decode.decRdidx s.ifu.ifuIrR ≠ n

/-- In the cycle `t` the fetch stage requests what follows the register jump that went into the IR in the
cycle `t₀`: in the same cycle, or later if a halt was requested then. -/
structure JalrRequest (inp : ℕ → In) (s : State) (t₀ t : ℕ) : Prop where
  le : t₀ ≤ t
  load : Ifetch.irValidSet (run inp s t₀).ifu (ifuIn (run inp s t₀) (inp t₀)) = true
  jalr : Decode.decJalr (inp t₀).ifuRspInstr = true
  wait : ∀ w, t₀ ≤ w → w < t →
    Ifetch.ifuReqHsked (run inp s w).ifu (ifuIn (run inp s w) (inp w)) = false
  flush : ∀ w, t₀ < w → w ≤ t → (ifuIn (run inp s w) (inp w)).pipeFlushReq = false
  req : Ifetch.ifuReqValid (run inp s t).ifu (ifuIn (run inp s t) (inp t)) = true

/-- The base operand of the predicted target. -/
def prdtBase (s : State) (i : In) : BitVec 32 :=
  Litebpu.prdtPcAddOp1 (Ifetch.bpu s.ifu (ifuIn s i))

/-- The read port is borrowed for an instruction that is flushed in the same cycle. -/
def BorrowFlush (s : State) (i : In) : Prop :=
  Ifetch.bpu2rfRs1Ena s.ifu (ifuIn s i) = true ∧
    Ifetch.pipeFlushReqReal s.ifu (ifuIn s i) = true

/-- The jump of the cycle `t₀` is still in the IR and on the response channel. -/
structure StillShown (inp : ℕ → In) (s : State) (t₀ t : ℕ) : Prop where
  stay : StaysInIr inp s (t₀ + 1) t
  rsp : (inp t).ifuRspInstr = (inp t₀).ifuRspInstr

/-- The fetch adapter holds a response until it is taken. -/
def RspHeld (inp : ℕ → In) (s : State) : Prop :=
  ∀ t, (inp t).ifuRspValid = true →
    Ifetch.ifuRspHsked (run inp s t).ifu (ifuIn (run inp s t) (inp t)) = false →
    (inp (t + 1)).ifuRspValid = true ∧ (inp (t + 1)).ifuRspInstr = (inp t).ifuRspInstr

/-! ## Settled registers -/

section
variable {s : State} {i : In} {n : BitVec 5}

theorem Settled.of_empty (hsteady : Steady s) (hempty : Exu.oitfEmpty s.exu = true)
    (hir : s.ifu.irValidR = true → Decode.decRdwen s.ifu.ifuIrR = true →
      Decode.decRdidx s.ifu.ifuIrR ≠ n) : Settled s n where
  oitf := Oitf.not_writes_of_empty hsteady.oitf hempty
  ir := hir

/-- A settled register keeps its value, and nothing outstanding writes it. -/
theorem Settled.step (h : Settled s n) (hsteady : Steady s) :
    (Core.step s i).exu.rf n = s.exu.rf n ∧ ¬(Core.step s i).exu.oitf.Writes n :=
  hsteady.reg_step h.oitf fun hleave => h.ir ((Bool.and_eq_true _ _).mp hleave).1

/-- The three sources of the base. -/
theorem prdtBase_eq (hjalr : Decode.decJalr i.ifuRspInstr = true)
    (hidx : Decode.decJalrRs1idx i.ifuRspInstr ≠ 0#5 → Decode.decJalrRs1idx i.ifuRspInstr ≠ 1#5 →
      s.ifu.irRs1idxR = Decode.decJalrRs1idx i.ifuRspInstr) :
    prdtBase s i = s.exu.rf.rfR (Decode.decJalrRs1idx i.ifuRspInstr) := by
  obtain ⟨-, hbxx, hjal, -⟩ := Decode.decJalr_fields hjalr
  have hsrc : prdtBase s i =
      if Decode.decJalrRs1idx i.ifuRspInstr == 0#5 then 0#32
      else if Decode.decJalrRs1idx i.ifuRspInstr == 1#5 then s.exu.rf.rfR 1#5
      else s.exu.rf.rfR s.ifu.irRs1idxR := by
    change (if (Decode.decBxx i.ifuRspInstr || Decode.decJal i.ifuRspInstr) = true then _
      else if (Decode.decJalr i.ifuRspInstr && _) = true then _
      else if (Decode.decJalr i.ifuRspInstr && _) = true then _ else _) = _
    rw [hbxx, hjal, hjalr, Bool.true_and, Bool.true_and]
    rfl
  rw [hsrc]
  by_cases h0 : Decode.decJalrRs1idx i.ifuRspInstr = 0#5
  · rw [h0]
    rfl
  · by_cases h1 : Decode.decJalrRs1idx i.ifuRspInstr = 1#5
    · rw [h1]
      rfl
    · rw [if_neg (by simpa using h0), if_neg (by simpa using h1), hidx h0 h1]

/-- A register jump goes into the IR when its base is settled and, if need be, the port borrowed. -/
theorem settled_of_load (hsteady : Steady s)
    (hset : Ifetch.irValidSet s.ifu (ifuIn s i) = true)
    (hjalr : Decode.decJalr i.ifuRspInstr = true)
    (h0 : Decode.decJalrRs1idx i.ifuRspInstr ≠ 0#5) :
    Settled s (Decode.decJalrRs1idx i.ifuRspInstr) ∧
      (Decode.decJalrRs1idx i.ifuRspInstr ≠ 1#5 → s.ifu.rs1xnRdrfR = true) := by
  obtain ⟨hrsp, -, -, -, hwait⟩ := Ifetch.irValidSet_iff.mp hset
  obtain ⟨hx1, hxn⟩ := Litebpu.free_of_no_wait (i := Ifetch.bpu s.ifu (ifuIn s i)) hrsp hjalr hwait
  change (Decode.decJalrRs1idx i.ifuRspInstr == 1#5) = true → _ at hx1
  change (!(Decode.decJalrRs1idx i.ifuRspInstr == 0#5) &&
    !(Decode.decJalrRs1idx i.ifuRspInstr == 1#5)) = true → _ at hxn
  by_cases h1 : Decode.decJalrRs1idx i.ifuRspInstr = 1#5
  · obtain ⟨hempty, hcam⟩ := hx1 (beq_iff_eq.mpr h1)
    refine ⟨.of_empty hsteady hempty fun hv hwen heq => ?_, fun hne => absurd h1 hne⟩
    have hhit : Ifetch.jalrRs1idxCamIrrdidx s.ifu (ifuIn s i) = true := by
      change (Decode.decRdwen s.ifu.ifuIrR &&
        Decode.decJalrRs1idx i.ifuRspInstr == Decode.decRdidx s.ifu.ifuIrR &&
        s.ifu.irValidR) = true
      rw [hwen, heq, hv, beq_self_eq_true]
      rfl
    rw [show Ifetch.jalrRs1idxCamIrrdidx s.ifu (ifuIn s i) = false from hcam] at hhit
    cases hhit
  · obtain ⟨hempty, hir, hflag⟩ := hxn (by rw [beq_false_of_ne h0, beq_false_of_ne h1]; rfl)
    refine ⟨.of_empty hsteady hempty fun hv => ?_, fun _ => hflag⟩
    have hfree : (!s.ifu.irValidR) = true := hir
    rw [hv] at hfree
    cases hfree

end

section
variable {s : State} {inp : ℕ → In} {n : BitVec 5} {t : ℕ}

/-- It keeps its value while the instruction that comes into the IR next stays there. -/
theorem Settled.run_rf (h0 : IsReset s) (h : Settled (run inp s t) n) {u : ℕ} (hu : t < u)
    (hstay : StaysInIr inp s (t + 1) u) :
    (run inp s u).exu.rf n = (run inp s t).exu.rf n ∧ ¬(run inp s u).exu.oitf.Writes n := by
  induction u, hu using Nat.le_induction with
  | base => exact h.step (Steady.run h0 t)
  | succ u hu ih =>
    obtain ⟨hrf, hoitf⟩ := ih fun w hw hwu => hstay w hw (Nat.lt_succ_of_lt hwu)
    have hno : Exu.iHsked (run inp s u).exu (exuIn (run inp s u) (inp u)) = false :=
      (hstay u hu (Nat.lt_succ_self u)).2.1
    rw [← hrf]
    exact (Steady.run h0 u).reg_step hoitf fun hleave =>
      absurd (hno.symm.trans hleave) Bool.false_ne_true

/-! ## The jump -/

/-- The port that is read in the cycle of the request has been borrowed for this very jump. -/
theorem borrowed (h0 : IsReset s) (hheld : RspHeld inp s)
    (hclean : ∀ u < t, ¬BorrowFlush (run inp s u) (inp u))
    (hflag : (run inp s t).ifu.rs1xnRdrfR = true) :
    (run inp s t).ifu.irRs1idxR = Decode.decJalrRs1idx (inp t).ifuRspInstr := by
  cases t with
  | zero =>
    have hreset : s.ifu.rs1xnRdrfR = false := by
      rw [h0.1]
      rfl
    exact absurd (hreset.symm.trans hflag) Bool.false_ne_true
  | succ t =>
    obtain ⟨hv, hnot, hidx⟩ := Ifetch.borrow_step hflag (hclean t (Nat.lt_succ_self t))
    rw [(hheld t hv hnot).2]
    exact hidx

/-- A register jump is on the response channel when it goes into the IR, and its base is right. -/
theorem base_of_load (h0 : IsReset s) (hheld : RspHeld inp s)
    (hclean : ∀ u < t, ¬BorrowFlush (run inp s u) (inp u))
    (hset : Ifetch.irValidSet (run inp s t).ifu (ifuIn (run inp s t) (inp t)) = true)
    (hjalr : Decode.decJalr (inp t).ifuRspInstr = true) :
    prdtBase (run inp s t) (inp t) =
      (run inp s t).exu.rf.rfR (Decode.decJalrRs1idx (inp t).ifuRspInstr) :=
  prdtBase_eq hjalr fun hx0 hx1 => borrowed h0 hheld hclean
    ((settled_of_load (Steady.run h0 t) hset hjalr hx0).2 hx1)

/-- What stays in the IR is what was loaded. -/
theorem loadedAt_of_stay {t₀ : ℕ}
    (hload : Ifetch.irValidSet (run inp s t₀).ifu (ifuIn (run inp s t₀) (inp t₀)) = true)
    (hlt : t₀ < t) (hstay : StaysInIr inp s (t₀ + 1) t) :
    LoadedAt inp s t₀ t ∧ (run inp s t).ifu.irValidR = true := by
  induction t, hlt using Nat.le_induction with
  | base =>
    refine ⟨.of_set hload, ?_⟩
    change (Ifetch.step (run inp s t₀).ifu (ifuIn (run inp s t₀) (inp t₀))).irValidR = true
    rw [Ifetch.step_irValidR, hload, Bool.true_or]
  | succ t hlt ih =>
    obtain ⟨hat, hv⟩ := ih fun w hw1 hw2 => hstay w hw1 (Nat.lt_succ_of_lt hw2)
    obtain ⟨-, hleave, hflush⟩ := hstay t hlt (Nat.lt_succ_self t)
    have hready : (ifuIn (run inp s t) (inp t)).ifuOReady = false := by
      have hand : ((run inp s t).ifu.irValidR && Exu.iReady (run inp s t).exu
        (exuIn (run inp s t) (inp t))) = false := hleave
      rwa [hv, Bool.true_and] at hand
    obtain ⟨hset, hnext⟩ := Ifetch.irValidSet_of_stay hv hready hflush
    exact ⟨hat.next hv hset hnext, hnext⟩

/-- A register jump that is still in the IR has its operand on the read port. -/
theorem irRs1idxR_of_jalr {t₀ : ℕ} (h0 : IsReset s) (hjalr : Decode.decJalr (inp t₀).ifuRspInstr = true)
    (hx0 : Decode.decJalrRs1idx (inp t₀).ifuRspInstr ≠ 0#5) (hat : LoadedAt inp s t₀ t)
    (hv : (run inp s t).ifu.irValidR = true) :
    (run inp s t).ifu.irRs1idxR = Decode.decJalrRs1idx (inp t₀).ifuRspInstr := by
  obtain ⟨hlo, hall⟩ := Ifetch.step_ifuIrR hat.set
  obtain ⟨hen, -, -, hidx, -⟩ := Decode.regs_congr hlo.symm hall
  rw [← hat.ir] at hen hidx
  have hrs1 : Decode.decRs1en (run inp s t).ifu.ifuIrR = true :=
    hen.trans (Decode.decRs1en_of_jalr hjalr hx0)
  rw [(indexed_run h0 t).rs1 hv hrs1, hidx]
  exact (Decode.decJalr_fields hjalr).2.2.2

/-- The base with which the target is requested, in the cycle of the response or after a halt. -/
theorem JalrRequest.base {t₀ : ℕ} (h : JalrRequest inp s t₀ t) (h0 : IsReset s)
    (hheld : RspHeld inp s) (hclean : ∀ u < t, ¬BorrowFlush (run inp s u) (inp u))
    (hshown : t₀ < t → StillShown inp s t₀ t) :
    prdtBase (run inp s t) (inp t) =
      (run inp s t₀).exu.rf.rfR (Decode.decJalrRs1idx (inp t₀).ifuRspInstr) := by
  obtain rfl | hlt : t₀ = t ∨ t₀ < t := by
    have hle := h.le
    omega
  · exact base_of_load h0 hheld hclean h.load h.jalr
  · obtain ⟨hstay, hsame⟩ := hshown hlt
    obtain ⟨hat, hv⟩ := loadedAt_of_stay h.load hlt hstay
    have hbase : prdtBase (run inp s t) (inp t) =
        (run inp s t).exu.rf.rfR (Decode.decJalrRs1idx (inp t₀).ifuRspInstr) := by
      rw [← hsame]
      refine prdtBase_eq (hsame ▸ h.jalr) fun hx0 _ => ?_
      rw [hsame] at hx0 ⊢
      exact irRs1idxR_of_jalr h0 h.jalr hx0 hat hv
    rw [hbase]
    by_cases hx0 : Decode.decJalrRs1idx (inp t₀).ifuRspInstr = 0#5
    · rw [hx0]
      rfl
    · have hsettled := (settled_of_load (Steady.run h0 t₀) h.load h.jalr hx0).1
      exact Regfile.rfR_congr (hsettled.run_rf h0 hlt hstay).1

/-- The request is for the target. -/
theorem JalrRequest.target {t₀ : ℕ} (h : JalrRequest inp s t₀ t) (h0 : IsReset s)
    (hrsp : ∀ u, RspOutstanding (inp u) (run inp s u))
    (hshown : t₀ < t → StillShown inp s t₀ t) :
    Ifetch.ifuReqPc (run inp s t).ifu (ifuIn (run inp s t) (inp t)) =
      Isa.evenPc (prdtBase (run inp s t) (inp t) + Decode.decBjpImm (inp t₀).ifuRspInstr) := by
  have htrace := trace h0 hrsp
  have hstart : (ifuIn (run inp s 0) (inp 0)).pipeFlushReq = false :=
    IsReset.pipeFlushReq (s := s) (i := inp 0) h0
  have hword : (inp t).ifuRspInstr = (inp t₀).ifuRspInstr := by
    obtain rfl | hlt : t₀ = t ∨ t₀ < t := by
      have hle := h.le
      omega
    · rfl
    · exact (hshown hlt).rsp
  have hidle : Ifetch.pipeFlushReqReal (run inp s t).ifu (ifuIn (run inp s t) (inp t)) = false ∧
      (run inp s t).ifu.resetReqR = false := by
    obtain rfl | hlt : t₀ = t ∨ t₀ < t := by
      have hle := h.le
      omega
    · exact ⟨(Ifetch.irValidSet_iff.mp h.load).2.1, htrace.not_reset_of_load hstart h.load⟩
    · obtain ⟨hreset, hdly, -⟩ := htrace.unrequested hstart hlt h.load
        (fun w hw1 hw2 => h.flush w hw1 (by omega)) h.wait
      exact ⟨Ifetch.pipeFlushReqReal_eq_false.mpr ⟨h.flush t hlt (Nat.le_refl t), hdly⟩, hreset⟩
  have hbjp : Ifetch.bjpReq (run inp s t).ifu (ifuIn (run inp s t) (inp t)) = true := by
    have hjalr : Decode.decJalr (ifuIn (run inp s t) (inp t)).ifuRspInstr = true := by
      change Decode.decJalr (inp t).ifuRspInstr = true
      rw [hword, h.jalr]
    simp [Ifetch.bjpReq_eq, Ifetch.rspTaken, hjalr]
  rw [Ifetch.ifuReqPc, Ifetch.pcNxt_of_no_flush hidle.1 hidle.2, hbjp, if_pos rfl, ← hword]
  rfl

/-- The base of a register jump is what the register holds once all older instructions have
completed, and the fetch goes on from the target. -/
theorem jalr_base_exact (h0 : IsReset s) (hrsp : ∀ u, RspOutstanding (inp u) (run inp s u))
    (hheld : RspHeld inp s) (hclean : ∀ u < t, ¬BorrowFlush (run inp s u) (inp u)) :
    (∀ t₀, JalrRequest inp s t₀ t → (t₀ < t → StillShown inp s t₀ t) →
        prdtBase (run inp s t) (inp t) =
            (run inp s t₀).exu.rf.rfR (Decode.decJalrRs1idx (inp t₀).ifuRspInstr) ∧
          Ifetch.ifuReqPc (run inp s t).ifu (ifuIn (run inp s t) (inp t)) =
            Isa.evenPc (prdtBase (run inp s t) (inp t) +
              Decode.decBjpImm (inp t₀).ifuRspInstr) ∧
          (Decode.decJalrRs1idx (inp t₀).ifuRspInstr ≠ 0#5 →
            Settled (run inp s t₀) (Decode.decJalrRs1idx (inp t₀).ifuRspInstr)) ∧
          ∀ u, t₀ < u → StaysInIr inp s (t₀ + 1) u →
            (run inp s u).exu.rf.rfR (Decode.decJalrRs1idx (inp t₀).ifuRspInstr) =
              prdtBase (run inp s t) (inp t)) ∧
      ((run inp s t).ifu.irValidR = true → Decode.decRs1en (run inp s t).ifu.ifuIrR = true →
        (exuIn (run inp s t) (inp t)).iRs1idx = Decode.decRs1idx (run inp s t).ifu.ifuIrR) := by
  refine ⟨fun t₀ hreq hshown => ?_, (indexed_run h0 t).rs1⟩
  have hbase := hreq.base h0 hheld hclean hshown
  have hsettled := fun hx0 =>
    (settled_of_load (Steady.run h0 t₀) hreq.load hreq.jalr hx0).1
  refine ⟨hbase, hreq.target h0 hrsp hshown, hsettled, fun u hu hstay => ?_⟩
  rw [hbase]
  by_cases hzero : Decode.decJalrRs1idx (inp t₀).ifuRspInstr = 0#5
  · rw [hzero]
    rfl
  · exact Regfile.rfR_congr ((hsettled hzero).run_rf h0 hu hstay).1

end
/-- A jump through `x6`. -/
def jumpX6 (t : ℕ) : In :=
  { In.quiet with
    ifuRspValid := t == 2 || t == 3
    ifuRspInstr := 0x00030067#32 }

/-- The port is borrowed in cycle 2, the request is made in cycle 3. -/
theorem jalr_base_exact_jumpX6 :
    prdtBase (run jumpX6 scaledState 3) (jumpX6 3) =
      (run jumpX6 scaledState 3).exu.rf.rfR 6#5 := by
  have hcycles : ∀ {t}, (jumpX6 t).ifuRspValid = true → t = 2 ∨ t = 3 := by
    intro t hv
    simpa [jumpX6] using hv
  have hreq : JalrRequest jumpX6 scaledState 3 3 :=
    ⟨Nat.le_refl 3, by decide +kernel, by decide +kernel, fun w hw1 hw2 => by omega,
      fun w hw1 hw2 => by omega, by decide +kernel⟩
  refine ((jalr_base_exact (s := scaledState) (State.isReset_reset _) (fun t hv => ?_)
    (fun t hv => ?_) (fun u hu => ?_)).1 3 hreq fun hlt => absurd hlt (Nat.lt_irrefl 3)).1
  · obtain rfl | rfl := hcycles hv <;> decide +kernel
  · obtain rfl | rfl := hcycles hv <;> decide +kernel
  · have hno : Ifetch.pipeFlushReqReal (run jumpX6 scaledState u).ifu
        (ifuIn (run jumpX6 scaledState u) (jumpX6 u)) = false := by
      obtain rfl | rfl | rfl : u = 0 ∨ u = 1 ∨ u = 2 := by omega
      all_goals
        clear hu
        decide +kernel
    intro hb
    exact Bool.false_ne_true (hno.symm.trans hb.2)

/-- A branch that is not predicted, a jump through `x5` behind it, a jump through `x6` at its
target. -/
def borrowFlush (t : ℕ) : In :=
  { In.quiet with
    ifuRspValid := decide (2 ≤ t ∧ t ≤ 4)
    ifuRspInstr :=
      if t = 2 then 0x00000463#32
      else if t = 3 then 0x00028067#32
      else if t = 4 then 0x00030067#32
      else 0x00000013#32 }

theorem borrowFlush_cycles {t : ℕ} (h : (borrowFlush t).ifuRspValid = true) :
    t = 2 ∨ t = 3 ∨ t = 4 := by
  have ht : 2 ≤ t ∧ t ≤ 4 := of_decide_eq_true h
  omega

theorem borrowFlush_request : JalrRequest borrowFlush scaledState 4 4 where
  le := Nat.le_refl 4
  load := by decide +kernel
  jalr := by decide +kernel
  wait w hw1 hw2 := by omega
  flush w hw1 hw2 := by omega
  req := by decide +kernel

/-- `WFI`, then a jump through `x1` that goes into the IR during the halt, then a timer interrupt that
ends the halt and is not taken; the response channel shows zeros between the responses. -/
def haltedJalr (t : ℕ) : In :=
  { In.quiet with
    ifuRspValid := t == 2 || t == 5
    ifuRspInstr := if t = 2 then 0x10500073#32 else if t = 5 then 0x00008067#32 else 0#32
    tmrIrqR := decide (7 ≤ t)
    mtieR := true }

theorem haltedJalr_request : JalrRequest haltedJalr scaledState 5 7 where
  le := by decide
  load := by decide +kernel
  jalr := by decide +kernel
  wait w hw1 hw2 := by
    obtain rfl | rfl : w = 5 ∨ w = 6 := by omega
    all_goals
      clear hw1 hw2
      decide +kernel
  flush w hw1 hw2 := by
    obtain rfl | rfl : w = 6 ∨ w = 7 := by omega
    all_goals
      clear hw1 hw2
      decide +kernel
  req := by decide +kernel

/-- The jump through `x6` goes on at the address in `x5`; the one of the halt goes on behind itself, not
at the address in `x1`. -/
theorem borrowFlush_wrong_base :
    IsReset scaledState ∧
      ((∀ t, RspOutstanding (borrowFlush t) (run borrowFlush scaledState t)) ∧
        RspHeld borrowFlush scaledState ∧ JalrRequest borrowFlush scaledState 4 4 ∧
        Decode.decJalrRs1idx (borrowFlush 4).ifuRspInstr = 6#5 ∧
        prdtBase (run borrowFlush scaledState 4) (borrowFlush 4) = 0x500#32 ∧
        (run borrowFlush scaledState 4).exu.rf.rfR 6#5 = 0x600#32 ∧
        Exu.oitfEmpty (run borrowFlush scaledState 4).exu = true ∧
        (run borrowFlush scaledState 4).ifu.irValidR = false) ∧
      (∀ t, RspOutstanding (haltedJalr t) (run haltedJalr scaledState t)) ∧
      RspHeld haltedJalr scaledState ∧ JalrRequest haltedJalr scaledState 5 7 ∧
      Decode.decJalrRs1idx (haltedJalr 5).ifuRspInstr = 1#5 ∧
      (run haltedJalr scaledState 5).exu.rf.rfR 1#5 = 0x100#32 ∧
      Ifetch.ifuReqPc (run haltedJalr scaledState 7).ifu
        (ifuIn (run haltedJalr scaledState 7) (haltedJalr 7)) = 0x80000006#32 := by
  have hcycles : ∀ {t}, (haltedJalr t).ifuRspValid = true → t = 2 ∨ t = 5 := by
    intro t hv
    simpa [haltedJalr] using hv
  refine ⟨State.isReset_reset _,
    ⟨fun t hv => ?_, fun t hv => ?_, borrowFlush_request, by decide +kernel⟩,
    fun t hv => ?_, fun t hv => ?_, haltedJalr_request, by decide +kernel⟩
  · obtain rfl | rfl | rfl := borrowFlush_cycles hv <;> decide +kernel
  · obtain rfl | rfl | rfl := borrowFlush_cycles hv <;> decide +kernel
  · obtain rfl | rfl := hcycles hv <;> decide +kernel
  · obtain rfl | rfl := hcycles hv <;> decide +kernel

end Core
end E203
