import E203.Fetch.Fault
import E203.Fetch.Requests

/-! # The bus-error flag of the instruction register

* `readsBefore t`: the memory reads of the first `t` cycles, with their errors.
* `Watched`: what the reads say about the fetch that is outstanding; `Watched.step` keeps it.
* `Precise`: the flag tells whether a read of a halfword of the instruction failed.
* `AheadFault`: only the lane behind a compressed instruction failed.
* `fault_flag_precise_iff`: the flag is precise except for `AheadFault`.
-/

namespace E203.Ifu
set_option autoImplicit false

/-! ## The reads of a run -/

section
variable {region : BitVec 32} {reads : List (BitVec 32 × Bool)} {i : In} {s : Sys} {inp : ℕ → In}

/-- The memory reads that return in the first `t` cycles, with their errors. -/
def readsBefore (region : BitVec 32) (inp : ℕ → In) (s : Sys) (t : ℕ) : List (BitVec 32 × Bool) :=
  Lib.emitted (fun u => Ift2icb.readRsp region (ift2icbIn (run inp s u).regs (inp u))
    (run inp s u).adapter) 0 t

/-- What is known about the outstanding fetch after the `reads`.  A fetch that was flushed is not
followed any more; the request after it is not sequential. -/
structure Watched (region : BitVec 32) (reads : List (BitVec 32 × Bool)) (s : Sys) : Prop where
  sync : Sync region s
  kept : Ifetch.PcKept s.ifetch
  even : Ift2icb.IsEven s.ifetch.pcR
  first : s.adapter.reqs = [] → s.ifetch.resetFlagR = true ∨ s.ifetch.resetReqR = true
  itcm : ∀ r ∈ reads, Ift2icb.inItcm region r.1 = true → r.2 = false
  lane : s.ifetch.dlyFlushR = false → s.adapter.reqs ≠ [] →
    Ift2icb.LastLane region s.adapter s.ifetch.pcR
  reading : s.ifetch.dlyFlushR = false → s.ifetch.outFlagR = true →
    Ift2icb.Reading region s.adapter reads s.ifetch.pcR

theorem Watched.begun (h : Watched region reads s) : Begun region s :=
  ⟨h.sync, h.kept, h.even, h.first⟩

theorem Watched.of_reset (h : s.IsReset) : Watched region [] s := by
  obtain ⟨hsync, hkept, heven, hfirst⟩ := @Begun.of_reset region s h
  refine ⟨hsync, hkept, heven, hfirst, by simp, fun _ hne => absurd h.2.2.1 hne, fun _ hout => ?_⟩
  rw [show s.ifetch = Ifetch.State.reset from h.1.1] at hout
  cases hout

theorem Watched.step_request (h : Watched region reads s) (hb : Bus region i s)
    (hq : Ifetch.ifuReqHsked s.ifetch (ifetchIn s.regs i) = true) :
    Ift2icb.LastLane region (Sys.step i s).adapter (Sys.step i s).ifetch.pcR ∧
      ∀ reads', Ift2icb.Reading region (Sys.step i s).adapter reads' (Sys.step i s).ifetch.pcR := by
  have ht := h.sync.turn_of_req hb hq
  rw [step_pcR_of_req hq]
  obtain ⟨hlane, hbegins⟩ :=
    ht.begins h.sync.ctl (h.sync.proto hb) hq (h.begun.heldUp hb h.lane ht.sta' hq)
  exact ⟨hlane, fun _ => hbegins.reading⟩

theorem Watched.step_follow (h : Watched region reads s) (hb : Bus region i s)
    (hitcm : i.ifu2itcmIcbRspErr = false)
    (hq : Ifetch.ifuReqHsked s.ifetch (ifetchIn s.regs i) = false)
    (hdly : s.ifetch.dlyFlushR = false) :
    (s.adapter.reqs ≠ [] → Ift2icb.LastLane region (Sys.step i s).adapter s.ifetch.pcR) ∧
      (s.ifetch.outFlagR = true → Ifetch.ifuRspHsked s.ifetch (ifetchIn s.regs i) = false →
        Ift2icb.Reading region (Sys.step i s).adapter
          (reads ++ Ift2icb.readRsp region (ift2icbIn s.regs i) s.adapter) s.ifetch.pcR) := by
  have hp := h.sync.proto hb
  have hc := h.sync.ctl
  have hqa : Ift2icb.ifuReqHsked s.adapter.ift (ift2icbIn s.regs i) = false := reqHsked_eq.trans hq
  obtain hs | hf | hw | ht := hc.cases hp
  · refine ⟨fun hne => ?_, fun hout _ => ?_⟩
    · refine (h.lane hdly hne).step_of_no_cmd hs.cmd hs.req ?_
      rw [hs.step_ift]
      exact id
    · exact (h.reading hdly hout).step_stall hs hc hp
  · obtain ⟨hout, hne⟩ := h.sync.busy (.inl hf.sta)
    obtain ⟨hlane, hread⟩ := (h.reading hdly hout).step_firstRsp hf hc hp rfl (h.lane hdly hne)
    exact ⟨fun _ => hlane, fun _ _ => hread⟩
  · obtain ⟨hout, hne⟩ := h.sync.busy (.inr hw.sta)
    obtain ⟨hlane, hread⟩ := (h.reading hdly hout).step_secondCmd hw hc hp rfl (h.lane hdly hne)
    exact ⟨fun _ => hlane, fun _ _ => hread⟩
  · refine ⟨fun hne => ?_, fun hout hr => ?_⟩
    · exact (h.lane hdly hne).step_of_no_cmd (by simp [ht.cmd, hqa]) hqa fun _ => ht.sta'
    · exact (h.reading hdly hout).step_turn ht hc hp hitcm h.itcm h.even hqa
        (ht.rspValid hc hp (h.sync.outstanding hout)) (rspHsked_eq.trans hr)

theorem Watched.step (h : Watched region reads s) (hb : Bus region i s)
    (hitcm : i.ifu2itcmIcbRspErr = false) :
    Watched region (reads ++ Ift2icb.readRsp region (ift2icbIn s.regs i) s.adapter)
      (Sys.step i s) := by
  obtain ⟨hsync, hkept, heven, hfirst⟩ := h.begun.step hb
  refine ⟨hsync, hkept, heven, hfirst, Ift2icb.no_itcm_error_step h.itcm hitcm,
    fun hdly hne => ?_, fun hdly hout => ?_⟩
  · obtain hq | ⟨hq, hold, -, hpc⟩ := calm_or_req hdly
    · exact (h.step_request hb hq).1
    · have hreqs : (Sys.step i s).adapter.reqs = s.adapter.reqs := by
        simp [Sys.step, Ift2icb.Sys.step, reqHsked_eq, hq]
      rw [hpc]
      exact (h.step_follow hb hitcm hq hold).1 (by rwa [← hreqs])
  · obtain hq | ⟨hq, hold, -, hpc⟩ := calm_or_req hdly
    · exact (h.step_request hb hq).2 _
    · obtain ⟨hout, hrsp⟩ := outstanding_of_step hq hout
      rw [hpc]
      exact (h.step_follow hb hitcm hq hold).2 hout hrsp

theorem Watched.run (h0 : s.IsReset) (hbus : ∀ t, Bus region (inp t) (run inp s t))
    (hitcm : ∀ t, (inp t).ifu2itcmIcbRspErr = false) (t : ℕ) :
    Watched region (readsBefore region inp s t) (Ifu.run inp s t) := by
  refine Lib.invariant_stateAt Sys.step (I := fun u => Watched region (readsBefore region inp s u)) t
    (.of_reset h0) fun u _ hu => ?_
  rw [readsBefore, Lib.emitted_succ (Nat.zero_le u)]
  exact hu.step (hbus u) (hitcm u)

/-! ## The flag -/

/-- The flag tells whether a read of a halfword of the instruction failed, of one halfword for a
compressed instruction and of two for any other. -/
def Precise (region : BitVec 32) (reads : List (BitVec 32 × Bool)) (f : Ifetch.State) : Prop :=
  f.ifuErrR = true ↔
    Ift2icb.fault region reads f.ifuPcR = true ∨
      (Decode.opcode10_11 f.ifuIrR = true ∧
        Ift2icb.fault region reads (f.ifuPcR + 2#32) = true)

/-- A compressed instruction was read without an error, but not the lane behind it. -/
def AheadFault (region : BitVec 32) (reads : List (BitVec 32 × Bool)) (pc instr : BitVec 32) : Prop :=
  Ift2icb.cross region pc = true ∧ Decode.opcode10_11 instr = false ∧
    Ift2icb.fault region reads pc = false ∧ Ift2icb.fault region reads (pc + 2#32) = true

theorem precise_iff {f : Ifetch.State} (heven : Ift2icb.IsEven f.ifuPcR)
    (hflag : f.ifuErrR = Ift2icb.mergedFault region reads f.ifuPcR) :
    Precise region reads f ↔ ¬AheadFault region reads f.ifuPcR f.ifuIrR := by
  rw [Precise, AheadFault, hflag, Ift2icb.mergedFault]
  cases hcross : Ift2icb.cross region f.ifuPcR
  · rw [Ift2icb.fault_of_uncrossed heven hcross]
    simp
  · cases Ift2icb.fault region reads f.ifuPcR <;>
      cases Ift2icb.fault region reads (f.ifuPcR + 2#32) <;>
      cases Decode.opcode10_11 f.ifuIrR <;> simp

/-- What goes into the IR has the errors of both lanes. -/
theorem Watched.loaded (h : Watched region reads s) (hb : Bus region i s)
    (hitcm : i.ifu2itcmIcbRspErr = false)
    (hset : Ifetch.irValidSet s.ifetch (ifetchIn s.regs i) = true) :
    Ift2icb.IsEven (Sys.step i s).ifetch.ifuPcR ∧
      (Sys.step i s).ifetch.ifuErrR =
        Ift2icb.mergedFault region (reads ++ Ift2icb.readRsp region (ift2icbIn s.regs i) s.adapter)
          (Sys.step i s).ifetch.ifuPcR := by
  have hp := h.sync.proto hb
  obtain ⟨hv, hflush, -⟩ := Ifetch.irValidSet_iff.mp hset
  have hdly := (Ifetch.pipeFlushReqReal_eq_false.mp hflush).2
  have hreading := h.reading hdly (h.sync.outFlagR_of_rspValid hb hv)
  have herr := hreading.rsp h.sync.ctl hp hitcm h.itcm h.even
    (h.sync.turn_of_irValidSet hb hset)
  have hpc : (Sys.step i s).ifetch.ifuPcR = s.ifetch.pcR := h.kept.step_ifuPcR hset
  rw [hpc, ← herr]
  refine ⟨h.even, ?_⟩
  simp only [Sys.step, Ifetch.step, hset, dfflr_true]
  rfl

/-- The instruction in the IR went there in an earlier cycle, with the errors of both lanes. -/
theorem exists_loaded (h0 : s.IsReset) (hbus : ∀ t, Bus region (inp t) (run inp s t))
    (hitcm : ∀ t, (inp t).ifu2itcmIcbRspErr = false) {u : ℕ}
    (hv : (run inp s u).ifetch.irValidR = true) :
    ∃ t < u, Ifetch.irValidSet (run inp s t).ifetch (ifetchAt inp s t) = true ∧
      (∀ w, t < w → w < u → Ifetch.irValidSet (run inp s w).ifetch (ifetchAt inp s w) = false) ∧
      Ift2icb.IsEven (run inp s u).ifetch.ifuPcR ∧
      (run inp s u).ifetch.ifuErrR =
        Ift2icb.mergedFault region (readsBefore region inp s (t + 1))
          (run inp s u).ifetch.ifuPcR := by
  induction u with
  | zero =>
    have hreset : (run inp s 0).ifetch.irValidR = false := by
      rw [show (run inp s 0).ifetch = Ifetch.State.reset from h0.1.1]
      rfl
    exact absurd (hreset.symm.trans hv) Bool.false_ne_true
  | succ u ih =>
    cases hset : Ifetch.irValidSet (run inp s u).ifetch (ifetchAt inp s u)
    · have hnext := hv
      change (Ifetch.step (run inp s u).ifetch (ifetchAt inp s u)).irValidR = true at hnext
      rw [Ifetch.step_irValidR, hset, Bool.false_or, Bool.and_eq_true, Bool.not_eq_true'] at hnext
      obtain ⟨hold, hclr⟩ := hnext
      obtain ⟨t, htu, hload, hnone, heven, herr⟩ := ih hold
      have herr' : (run inp s (u + 1)).ifetch.ifuErrR = (run inp s u).ifetch.ifuErrR :=
        (Ifetch.step_ifuIrR_of_not_set hset).2
      have hpc' : (run inp s (u + 1)).ifetch.ifuPcR = (run inp s u).ifetch.ifuPcR := by
        have hpcset : Ifetch.irPcVldSet (run inp s u).ifetch (ifetchAt inp s u) = false := by
          simp [Ifetch.irPcVldSet, Ifetch.ifuIrIReady, hold, hclr]
        change (Ifetch.step (run inp s u).ifetch (ifetchAt inp s u)).ifuPcR = _
        simp [Ifetch.step, hpcset]
      refine ⟨t, by omega, hload, fun w hw1 hw2 => ?_, ?_⟩
      · obtain hlt | rfl : w < u ∨ w = u := by omega
        · exact hnone w hw1 hlt
        · exact hset
      · rw [hpc', herr']
        exact ⟨heven, herr⟩
    · refine ⟨u, by omega, hset, fun w hw1 hw2 => by omega, ?_⟩
      rw [readsBefore, Lib.emitted_succ (Nat.zero_le u)]
      exact (Watched.run h0 hbus hitcm u).loaded (hbus u) (hitcm u) hset

/-- Every instruction in the IR has a precise flag, unless only the lane behind a compressed instruction
failed.  The ITCM returns no errors. -/
theorem fault_flag_precise_iff (h0 : s.IsReset) (hbus : ∀ t, Bus region (inp t) (run inp s t))
    (hitcm : ∀ t, (inp t).ifu2itcmIcbRspErr = false) {u : ℕ}
    (hv : (run inp s u).ifetch.irValidR = true) :
    ∃ t < u, Ifetch.irValidSet (run inp s t).ifetch (ifetchAt inp s t) = true ∧
      (∀ w, t < w → w < u → Ifetch.irValidSet (run inp s w).ifetch (ifetchAt inp s w) = false) ∧
      (Precise region (readsBefore region inp s (t + 1)) (run inp s u).ifetch ↔
        ¬AheadFault region (readsBefore region inp s (t + 1)) (run inp s u).ifetch.ifuPcR
          (run inp s u).ifetch.ifuIrR) := by
  obtain ⟨t, htu, hload, hnone, heven, herr⟩ := exists_loaded h0 hbus hitcm hv
  exact ⟨t, htu, hload, hnone, precise_iff heven herr⟩

end

/-! ## A compressed instruction at the end of what can be read -/

/-- The first fetch crosses the lanes of the system memory: the first lane returns `word`, the second an
error. -/
def secondFails (word : BitVec 32) : ℕ → In
  | 2 =>
    { In.quiet with
      pcRtvec := 0x20000002#32, ifu2biuIcbRspValid := true, ifu2biuIcbRspRdata := word }
  | 3 =>
    { In.quiet with
      pcRtvec := 0x20000002#32, ifu2biuIcbRspValid := true, ifu2biuIcbRspErr := true }
  | _ => { In.quiet with pcRtvec := 0x20000002#32 }

/-- A compressed instruction in the first lane. -/
def lastHalfword : ℕ → In := secondFails 0x00010001#32

/-- The lower half of a 32-bit instruction in the first lane. -/
def lastOfWord : ℕ → In := secondFails 0x00130001#32

theorem bus_secondFails {word : BitVec 32} (hword : word = 0x00010001#32 ∨ word = 0x00130001#32) (t : ℕ) :
    Bus 0x80000000#32 (secondFails word t) (run (secondFails word) .reset t) := by
  by_cases ht : t = 2 ∨ t = 3
  · obtain rfl | rfl := ht
    · refine ⟨rfl, fun h => absurd h Bool.false_ne_true, fun _ => ⟨0x20000002#32, ?_⟩⟩
      obtain rfl | rfl := hword
      · decide +kernel
      · decide +kernel
    · refine ⟨rfl, fun h => absurd h Bool.false_ne_true, fun _ => ⟨0x20000004#32, ?_⟩⟩
      obtain rfl | rfl := hword
      · decide +kernel
      · decide +kernel
  · have hquiet : secondFails word t = { In.quiet with pcRtvec := 0x20000002#32 } := by
      unfold secondFails
      split
      case h_3 => rfl
      all_goals simp at ht
    rw [hquiet]
    exact ⟨rfl, fun h => absurd h (by decide), fun h => absurd h (by decide)⟩

theorem bus_lastHalfword (t : ℕ) :
    Bus 0x80000000#32 (lastHalfword t) (run lastHalfword .reset t) := bus_secondFails (.inl rfl) t

theorem no_itcm_error_secondFails (word : BitVec 32) (t : ℕ) :
    (secondFails word t).ifu2itcmIcbRspErr = false := by
  unfold secondFails
  split <;> rfl

theorem no_itcm_error_lastHalfword (t : ℕ) : (lastHalfword t).ifu2itcmIcbRspErr = false :=
  no_itcm_error_secondFails _ t

theorem isReset_reset : Sys.reset.IsReset :=
  ⟨⟨rfl, rfl, rfl, rfl, rfl, rfl, rfl, rfl, rfl, rfl⟩, rfl, rfl, rfl⟩

/-- The compressed instruction has the flag, and no read of it failed. -/
theorem compressed_flagged_lastHalfword :
    Sys.reset.IsReset ∧ (∀ t, Bus 0x80000000#32 (lastHalfword t) (run lastHalfword .reset t)) ∧
      (∀ t, (lastHalfword t).ifu2itcmIcbRspErr = false) ∧
      (run lastHalfword .reset 4).ifetch.irValidR = true ∧
      (run lastHalfword .reset 4).ifetch.ifuPcR = 0x20000002#32 ∧
      (run lastHalfword .reset 4).ifetch.ifuIrR = 1#32 ∧
      readsBefore 0x80000000#32 lastHalfword .reset 4 =
        [(0x20000002#32, false), (0x20000004#32, true)] ∧
      (run lastHalfword .reset 4).ifetch.ifuErrR = true ∧
      ¬Precise 0x80000000#32 (readsBefore 0x80000000#32 lastHalfword .reset 4)
        (run lastHalfword .reset 4).ifetch := by
  refine ⟨isReset_reset, bus_lastHalfword, no_itcm_error_lastHalfword, by decide +kernel,
    by decide +kernel, by decide +kernel, by decide +kernel, by decide +kernel, ?_⟩
  unfold Precise
  decide +kernel

/-- The 32-bit instruction has the flag of its second halfword. -/
theorem fault_flag_precise_iff_lastOfWord :
    (run lastOfWord .reset 4).ifetch.ifuErrR = true ∧
    ∃ t < 4, Ifetch.irValidSet (run lastOfWord .reset t).ifetch (ifetchAt lastOfWord .reset t) = true ∧
      (Precise 0x80000000#32 (readsBefore 0x80000000#32 lastOfWord .reset (t + 1))
          (run lastOfWord .reset 4).ifetch ↔
        ¬AheadFault 0x80000000#32 (readsBefore 0x80000000#32 lastOfWord .reset (t + 1))
          (run lastOfWord .reset 4).ifetch.ifuPcR (run lastOfWord .reset 4).ifetch.ifuIrR) := by
  obtain ⟨t, htu, hload, -, hiff⟩ :=
    fault_flag_precise_iff isReset_reset (bus_secondFails (.inr rfl)) (no_itcm_error_secondFails _)
      (u := 4) (by decide +kernel)
  exact ⟨by decide +kernel, t, htu, hload, hiff⟩

end E203.Ifu
