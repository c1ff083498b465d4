import E203.Isa.Control
import E203.Lib.BitVecArith
import E203.Rtl.IfuIfetch

/-! # Registers of the fetch stage

* `step_*`: the next value of a register, by cases on the event that changes it.
* `PcKept`: the PC handed to the execute stage is the one of the last request once it has been
  taken over.
* `Started`: the reset request is made before any other.
* `Loaded f i g`: the IR of `g` still holds what was loaded in the cycle `f`, `i`.
-/

namespace E203.Ifetch
set_option autoImplicit false

section
variable {s : State} {i : In}

/-! ## Handshakes -/

/-- A set flag is set, a cleared one cleared, and setting wins. -/
theorem flag_eq (set clr q : Bool) : dfflr (set || clr) (set || !clr) q = (set || (q && !clr)) := by
  cases set <;> cases clr <;> cases q <;> rfl

theorem irValidSet_iff :
    irValidSet s i = true ↔
      i.ifuRspValid = true ∧ pipeFlushReqReal s i = false ∧ ifuIrIReady s i = true ∧
        i.ifuReqReady = true ∧ bpuWait s i = false := by
  cases hfl : pipeFlushReqReal s i
  · simp [irValidSet, ifuRspHsked, ifuRspReady, ifuRsp2irReady, ifuRspNeedReplay, hfl, and_assoc]
  · simp [irValidSet, hfl]

theorem pipeFlushReqReal_eq_false :
    pipeFlushReqReal s i = false ↔ i.pipeFlushReq = false ∧ s.dlyFlushR = false := by
  simp [pipeFlushReqReal]

theorem ifuRspHsked_of_irValidSet (h : irValidSet s i = true) : ifuRspHsked s i = true := by
  simp only [irValidSet, Bool.and_eq_true] at h
  exact h.1.1

/-! ## The next value of a register -/

theorem step_irValidR :
    (step s i).irValidR = (irValidSet s i || (s.irValidR && !irValidClr s i)) := flag_eq _ _ _

theorem step_irPcVldR :
    (step s i).irPcVldR = (irPcVldSet s i || (s.irPcVldR && !irPcVldClr s i)) := flag_eq _ _ _

theorem step_resetReqR :
    (step s i).resetReqR = (resetReqSet s || (s.resetReqR && !resetReqClr s i)) := flag_eq _ _ _

theorem step_dlyFlushR :
    (step s i).dlyFlushR = (dlyFlushSet s i || (s.dlyFlushR && !dlyFlushClr s i)) := flag_eq _ _ _

theorem step_outFlagR :
    (step s i).outFlagR = (ifuReqHsked s i || (s.outFlagR && !ifuRspHsked s i)) := flag_eq _ _ _

theorem step_pcNewpendR :
    (step s i).pcNewpendR = (pcEna s i || (s.pcNewpendR && !irPcVldSet s i)) := flag_eq _ _ _

theorem step_pcR (hena : pcEna s i = true) : (step s i).pcR = pcNxt s i := by simp [step, hena]

/-- An operand register that is enabled goes into the IR with its instruction. -/
theorem step_irRs1idxR (hset : irValidSet s i = true) (hen : Decode.decRs1en i.ifuRspInstr = true) :
    (step s i).irRs1idxR = Decode.decRs1idx i.ifuRspInstr := by
  have hena : irRs1idxEna s i = true := by simp [irRs1idxEna, hset, hen]
  simp [step, hena]

theorem step_irRs2idxR (hset : irValidSet s i = true) (hen : Decode.decRs2en i.ifuRspInstr = true) :
    (step s i).irRs2idxR = Decode.decRs2idx i.ifuRspInstr := by
  have hena : irRs2idxEna s i = true := by simp [irRs2idxEna, hset, hen]
  simp [step, hena]

/-- The low half of the IR is that of the word on the response channel, and all of it when that is a
32-bit instruction. -/
theorem step_ifuIrR (hset : irValidSet s i = true) :
    (step s i).ifuIrR.extractLsb' 0 16 = i.ifuRspInstr.extractLsb' 0 16 ∧
      (Decode.decRv32 i.ifuRspInstr = true → (step s i).ifuIrR = i.ifuRspInstr) := by
  constructor
  · simp only [step, hset, dfflr_true]
    exact BitVec.extractLsb'_append_eq_right
  · intro hrv32
    have hhi : irHiEna s i = true := by simp [irHiEna, hset, hrv32]
    simp only [step, hset, hhi, dfflr_true]
    exact BitVec.extractLsb'_append_extractLsb'_eq_extractLsb' (by omega) |>.trans (by simp)

/-- What the IR holds has the length of what was on the response channel. -/
theorem decRv32_step_ifuIrR (hset : irValidSet s i = true) :
    Decode.decRv32 (step s i).ifuIrR = Decode.decRv32 i.ifuRspInstr := by
  obtain ⟨hlo, -⟩ := step_ifuIrR hset
  have hop : (step s i).ifuIrR.extractLsb' 0 7 = i.ifuRspInstr.extractLsb' 0 7 :=
    Lib.extractLsb'_eq_of_low hlo (by omega)
  have hlen : (step s i).ifuIrR.extractLsb' 2 3 = i.ifuRspInstr.extractLsb' 2 3 :=
    Lib.extractLsb'_eq_of_low hlo (by omega)
  rw [Decode.decRv32, Decode.decRv32, Decode.rv32, Decode.rv32, Decode.opcode10_11,
    Decode.opcode10_11, Decode.opcode, Decode.opcode, hop, hlen]

/-! ## Program counters -/

theorem halfAlign_eq (x : BitVec 32) : halfAlign x = Isa.evenPc x := by
  apply BitVec.eq_of_getLsbD_eq
  intro k hk
  have hmask : (~~~1#32).getLsbD k = !decide (k = 0) := by
    rw [BitVec.getLsbD_not, BitVec.getLsbD_one]
    simp [hk]
  rw [halfAlign, Isa.evenPc, BitVec.getLsbD_append, BitVec.getLsbD_and, hmask,
    BitVec.getLsbD_extractLsb']
  obtain rfl | hpos : k = 0 ∨ 0 < k := by omega
  · simp
  · have hk1 : ¬k < 1 := by omega
    have hk2 : k - 1 < 31 := by omega
    have hk3 : 1 + (k - 1) = k := by omega
    have hk4 : ¬k = 0 := by omega
    simp [hk1, hk2, hk3, hk4]

/-- The PC register holds multiples of two. -/
theorem evenPc_evenPc (x : BitVec 32) : Isa.evenPc (Isa.evenPc x) = Isa.evenPc x := by
  rw [Isa.evenPc, Isa.evenPc, BitVec.and_assoc, BitVec.and_self]

theorem evenPc_pcNxt : Isa.evenPc (pcNxt s i) = pcNxt s i := by
  unfold pcNxt
  split_ifs <;> rw [halfAlign_eq, evenPc_evenPc]

theorem evenPc_step_pcR (h : Isa.evenPc s.pcR = s.pcR) :
    Isa.evenPc (step s i).pcR = (step s i).pcR := by
  cases hena : pcEna s i
  · have hhold : (step s i).pcR = s.pcR := by simp [step, hena]
    rw [hhold, h]
  · have hload : (step s i).pcR = pcNxt s i := by simp [step, hena]
    rw [hload, evenPc_pcNxt]

/-- Once the PC register has been handed over, the IR's PC equals it until it changes. -/
def PcKept (s : State) : Prop := s.pcNewpendR = false → s.ifuPcR = s.pcR

theorem PcKept.step (h : PcKept s) : PcKept (step s i) := by
  intro hnew
  rw [step_pcNewpendR, Bool.or_eq_false_iff] at hnew
  obtain ⟨hena, hpend⟩ := hnew
  have hpc : (Ifetch.step s i).pcR = s.pcR := by simp [Ifetch.step, hena]
  rw [hpc]
  cases hset : irPcVldSet s i
  · have hold : (Ifetch.step s i).ifuPcR = s.ifuPcR := by simp [Ifetch.step, hset]
    rw [hold]
    apply h
    simpa [hset] using hpend
  · simp [Ifetch.step, hset]

/-- An instruction goes into the IR with the PC of its request. -/
theorem PcKept.step_ifuPcR (h : PcKept s) (hset : irValidSet s i = true) :
    (Ifetch.step s i).ifuPcR = s.pcR := by
  obtain ⟨-, hfl, hready, -⟩ := irValidSet_iff.mp hset
  cases hnew : s.pcNewpendR
  · have hno : irPcVldSet s i = false := by simp [irPcVldSet, hnew]
    have hold : (Ifetch.step s i).ifuPcR = s.ifuPcR := by simp [Ifetch.step, hno]
    rw [hold, h hnew]
  · have hvld : irPcVldSet s i = true := by
      simp [irPcVldSet, hnew, hready, hfl, ifuRspNeedReplay]
    simp [Ifetch.step, hvld]

/-- Where the fetch goes on from the instruction on the response channel. -/
theorem pcNxt_of_no_flush (hfl : pipeFlushReqReal s i = false) (hreset : s.resetReqR = false) :
    pcNxt s i =
      Isa.evenPc
        (if bjpReq s i then Litebpu.prdtPcAddOp1 (bpu s i) + Decode.decBjpImm i.ifuRspInstr
          else s.pcR + pcIncrOfst i) := by
  obtain ⟨hreq, hdly⟩ := pipeFlushReqReal_eq_false.mp hfl
  rw [pcNxt, hreq, hdly, ← halfAlign_eq]
  cases hbjp : bjpReq s i
  · simp [pcNxtPre, pcAddOp1, pcAddOp2, ifetchReplayReq, hbjp, ifuResetReq, hreset]
  · simp [pcNxtPre, pcAddOp1, pcAddOp2, ifetchReplayReq, hbjp, Litebpu.prdtPcAddOp2, bpu]

/-! ## The first cycles -/

/-- The reset request is made before any other. -/
structure Started (s : State) : Prop where
  first : s.resetFlagR = true → s = State.reset
  reset : s.resetReqR = true → s.outFlagR = false

theorem Started.of_reset : Started State.reset where
  first _ := rfl
  reset _ := rfl

/-- No request is made in the first cycle unless there is a flush. -/
theorem Started.ifuReqHsked (h : Started s) (hfirst : s.resetFlagR = true)
    (hflush : i.pipeFlushReq = false) : ifuReqHsked s i = false := by
  rw [h.first hfirst]
  simp [Ifetch.ifuReqHsked, ifuReqValid, ifuReqValidPre, ifuNewReq, ifuResetReq, pipeFlushReqReal,
    ifetchReplayReq, hflush, State.reset]

theorem Started.step (h : Started s) (hflush : s.resetFlagR = true → i.pipeFlushReq = false) :
    Started (step s i) where
  first hf := by cases hf
  reset hreq := by
    rw [step_resetReqR, Bool.or_eq_true, Bool.and_eq_true, Bool.not_eq_true'] at hreq
    rw [step_outFlagR]
    obtain hset | ⟨hold, hclr⟩ := hreq
    · have hfirst : s.resetFlagR = true := by
        simp only [resetReqSet, Bool.and_eq_true] at hset
        exact hset.2
      have hout : s.outFlagR = false := by
        rw [h.first hfirst]
        rfl
      simp [h.ifuReqHsked hfirst (hflush hfirst), hout]
    · have hreq : Ifetch.ifuReqHsked s i = false := by simpa [resetReqClr, hold] using hclr
      simp [hreq, h.reset hold]

end

/-! ## The instruction register -/

/-- The IR of `g` holds what was loaded in the cycle `f`, `i`. -/
structure Loaded (f : State) (i : In) (g : State) : Prop where
  set : irValidSet f i = true
  ir : g.ifuIrR = (step f i).ifuIrR
  err : g.ifuErrR = (step f i).ifuErrR
  prdt : g.ifuPrdtTakenR = (step f i).ifuPrdtTakenR
  b2b : g.ifuMuldivB2bR = (step f i).ifuMuldivB2bR
  pc : g.ifuPcR = (step f i).ifuPcR
  rs1idx : Decode.decRs1en g.ifuIrR = true → g.irRs1idxR = (step f i).irRs1idxR
  rs2idx : g.irRs2idxR = (step f i).irRs2idxR

section
variable {f g : State} {i j : In}

theorem Loaded.of_set (h : irValidSet f i = true) : Loaded f i (step f i) where
  set := h
  ir := rfl
  err := rfl
  prdt := rfl
  b2b := rfl
  pc := rfl
  rs1idx _ := rfl
  rs2idx := rfl

/-- Without a new instruction the IR keeps its word. -/
theorem step_ifuIrR_of_not_set (hset : irValidSet g j = false) :
    (step g j).ifuIrR = g.ifuIrR ∧ (step g j).ifuErrR = g.ifuErrR := by
  have hhi : irHiEna g j = false := by simp [irHiEna, hset]
  constructor
  · simp only [step, hset, hhi, dfflr_false]
    exact BitVec.extractLsb'_append_extractLsb'_eq_extractLsb' (by omega) |>.trans (by simp)
  · simp [step, hset]

/-- An instruction that is neither accepted nor flushed stays in the IR. -/
theorem irValidSet_of_stay (hv : g.irValidR = true) (hready : j.ifuOReady = false)
    (hflush : j.pipeFlushReq = false) :
    irValidSet g j = false ∧ (step g j).irValidR = true := by
  have hclr : irValidClr g j = false := by
    simp [irValidClr, ifuIrOHsked, pipeFlushHsked, hready, hflush]
  have hset : irValidSet g j = false := by
    cases hs : irValidSet g j
    · rfl
    · have hir := (irValidSet_iff.mp hs).2.2.1
      simp [ifuIrIReady, hv, hclr] at hir
  refine ⟨hset, ?_⟩
  rw [step_irValidR, hv, hclr]
  simp

/-- The read port of the IR is lent to a `JALR` only when the instruction in the IR leaves or does
not read it. -/
theorem bpu2rfRs1Ena_eq_false (hv : g.irValidR = true) (hclr : irValidClr g j = false)
    (hrs1en : j.dec2ifuRs1en = true) : bpu2rfRs1Ena g j = false := by
  have hdep : Litebpu.jalrRs1xnDep (bpu g j) =
      ((bpu g j).decIValid && (bpu g j).decJalr && Litebpu.decJalrRs1xn (bpu g j)) := by
    simp [Litebpu.jalrRs1xnDep, bpu, irEmpty, hv]
  have hirclr : Litebpu.jalrRs1xnDepIrClr (bpu g j) = false := by
    simp [Litebpu.jalrRs1xnDepIrClr, bpu, hclr, hrs1en]
  rw [bpu2rfRs1Ena, Litebpu.bpu2rfRs1Ena, Litebpu.rs1xnRdrfSet, hirclr, hdep, Bool.or_false]
  cases (bpu g j).decIValid <;> cases (bpu g j).decJalr <;> simp

theorem Loaded.step (h : Loaded f i g) (hv : g.irValidR = true) (hset : irValidSet g j = false)
    (hstay : (step g j).irValidR = true)
    (hdec : j.dec2ifuRs1en = Decode.decRs1en g.ifuIrR) : Loaded f i (step g j) := by
  have hclr : irValidClr g j = false := by
    rw [step_irValidR, hset, hv] at hstay
    simpa using hstay
  have hpcset : irPcVldSet g j = false := by simp [irPcVldSet, ifuIrIReady, hv, hclr]
  have hir : (Ifetch.step g j).ifuIrR = g.ifuIrR := (step_ifuIrR_of_not_set hset).1
  have hhold : ∀ {α : Type} (d q : α), dfflr (irValidSet g j) d q = q := by simp [hset]
  refine ⟨h.set, hir.trans h.ir, (hhold _ _).trans h.err, (hhold _ _).trans h.prdt,
    (hhold _ _).trans h.b2b, ?_, ?_, ?_⟩
  · rw [← h.pc]
    simp [Ifetch.step, hpcset]
  · intro hen
    rw [hir] at hen
    have hjalr : bpu2rfRs1Ena g j = false := bpu2rfRs1Ena_eq_false hv hclr (hdec.trans hen)
    rw [← h.rs1idx hen]
    simp [Ifetch.step, irRs1idxEna, hset, hjalr]
  · rw [← h.rs2idx]
    simp [Ifetch.step, irRs2idxEna, hset]

end
end E203.Ifetch
