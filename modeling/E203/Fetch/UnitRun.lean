import E203.Rtl.Ifu
import E203.Fetch.Adapter
import E203.Fetch.Flush

/-! # Runs of the fetch unit

* `Sys`: the fetch stage and the adapter, with the read that is outstanding on the memory bus and the
  history of accepted requests and delivered responses.
* `Bus`: the memories answer only the outstanding read.
* `Sync`: the fetch stage and the adapter agree on the outstanding request; `Sync.step` keeps it.
* `Sync.trace`: what the fetch stage does in a run of the unit is a `Trace`.
* `flush_discards`: what comes into the IR after a flush, for every run of the unit.
* `rsp_accepted`: the unit takes every response in the cycle in which it comes.
-/

namespace E203.Ifu
set_option autoImplicit false

structure Sys where
  ifetch : Ifetch.State
  adapter : Ift2icb.Sys
deriving DecidableEq

section
variable (i : In) (s : Sys)

def Sys.regs : State := ⟨s.ifetch, s.adapter.ift⟩

def Sys.step : Sys where
  ifetch := Ifetch.step s.ifetch (ifetchIn s.regs i)
  adapter := Ift2icb.Sys.step (ift2icbIn s.regs i) s.adapter

end

def Sys.IsReset (s : Sys) : Prop :=
  s.regs.IsReset ∧ s.adapter.cmd = none ∧ s.adapter.reqs = [] ∧ s.adapter.rsps = []

def run (inp : ℕ → In) (s : Sys) (t : ℕ) : Sys := Lib.stateAt Sys.step inp s t

/-- The memories answer the outstanding read only. -/
structure Bus (region : BitVec 32) (i : In) (s : Sys) : Prop where
  regionEq : i.itcmRegionIndic = region
  itcmRsp : i.ifu2itcmIcbRspValid = true →
    ∃ a, s.adapter.cmd = some a ∧ Ift2icb.inItcm region a = true
  biuRsp : i.ifu2biuIcbRspValid = true →
    ∃ a, s.adapter.cmd = some a ∧ Ift2icb.inItcm region a = false

/-- The flag of the fetch stage says whether a request is outstanding. -/
structure Sync (region : BitVec 32) (s : Sys) : Prop where
  ctl : Ift2icb.Ctl region s.adapter
  out : s.adapter.reqs.length = s.adapter.rsps.length + s.ifetch.outFlagR.toNat

section
variable {region : BitVec 32} {i : In} {s : Sys} {inp : ℕ → In}

theorem Sync.of_reset (h : s.IsReset) : Sync region s where
  ctl := by
    obtain ⟨⟨-, hift⟩, hcmd, hreqs, hrsps⟩ := h
    obtain ⟨ifetch, ift, cmd, held, keep, reqs, rsps⟩ := s
    subst hcmd hreqs hrsps
    exact .of_reset hift held keep
  out := by
    obtain ⟨⟨hifetch, -⟩, -, hreqs, hrsps⟩ := h
    have hout : s.ifetch.outFlagR = false := by
      rw [show s.ifetch = Ifetch.State.reset from hifetch]
      rfl
    simp [hreqs, hrsps, hout]

theorem reqHsked_eq : Ift2icb.ifuReqHsked s.adapter.ift (ift2icbIn s.regs i) =
    Ifetch.ifuReqHsked s.ifetch (ifetchIn s.regs i) := by rfl

theorem rspHsked_eq : Ift2icb.ifuRspHsked s.adapter.ift (ift2icbIn s.regs i) =
    Ifetch.ifuRspHsked s.ifetch (ifetchIn s.regs i) := by rfl

theorem Sync.proto (h : Sync region s) (hb : Bus region i s) :
    Ift2icb.Proto region (ift2icbIn s.regs i) s.adapter where
  regionEq := hb.regionEq
  one := by
    intro hreq
    have hcondi : Ifetch.newReqCondi s.ifetch (ifetchIn s.regs i) = true :=
      ((Bool.and_eq_true _ _).mp hreq).2
    rw [Ifetch.newReqCondi, Bool.or_eq_true, Bool.not_eq_true'] at hcondi
    obtain hout | hclr := hcondi
    · left
      simpa [hout] using h.out
    · right
      rw [rspHsked_eq]
      exact hclr
  itcmRsp := hb.itcmRsp
  biuRsp := hb.biuRsp

/-- A response comes to an outstanding request only. -/
theorem Sync.outFlagR_of_rspValid (h : Sync region s) (hb : Bus region i s)
    (hv : (ifetchIn s.regs i).ifuRspValid = true) : s.ifetch.outFlagR = true := by
  have hlen := h.ctl.outstanding_of_ifuRspValid (h.proto hb) hv
  have hout := h.out
  cases hflag : s.ifetch.outFlagR
  · rw [hflag] at hout
    simp at hout
    omega
  · rfl

theorem Sync.step (h : Sync region s) (hb : Bus region i s) : Sync region (Sys.step i s) where
  ctl := h.ctl.step (h.proto hb)
  out := by
    have hold := h.out
    have hrsp : Ifetch.ifuRspHsked s.ifetch (ifetchIn s.regs i) = true →
        s.ifetch.outFlagR = true := fun hr =>
      h.outFlagR_of_rspValid hb ((Bool.and_eq_true _ _).mp hr).1
    have hreq : Ifetch.ifuReqHsked s.ifetch (ifetchIn s.regs i) = true →
        s.ifetch.outFlagR = false ∨ Ifetch.ifuRspHsked s.ifetch (ifetchIn s.regs i) = true := by
      intro hr
      have hvalid := ((Bool.and_eq_true _ _).mp hr).1
      have hcondi := ((Bool.and_eq_true _ _).mp hvalid).2
      rw [Ifetch.newReqCondi, Bool.or_eq_true, Bool.not_eq_true'] at hcondi
      exact hcondi
    have hreqs : (Sys.step i s).adapter.reqs.length = s.adapter.reqs.length +
        (Ifetch.ifuReqHsked s.ifetch (ifetchIn s.regs i)).toNat := by
      simp only [Sys.step, Ift2icb.Sys.step, reqHsked_eq]
      cases Ifetch.ifuReqHsked s.ifetch (ifetchIn s.regs i) <;> simp
    have hrsps : (Sys.step i s).adapter.rsps.length = s.adapter.rsps.length +
        (Ifetch.ifuRspHsked s.ifetch (ifetchIn s.regs i)).toNat := by
      simp only [Sys.step, Ift2icb.Sys.step, rspHsked_eq]
      cases Ifetch.ifuRspHsked s.ifetch (ifetchIn s.regs i) <;> simp
    have hflag : (Sys.step i s).ifetch.outFlagR =
        (Ifetch.ifuReqHsked s.ifetch (ifetchIn s.regs i) ||
          (s.ifetch.outFlagR && !Ifetch.ifuRspHsked s.ifetch (ifetchIn s.regs i))) :=
      Ifetch.step_outFlagR ..
    rw [hreqs, hrsps, hflag]
    -- a response needs the flag, a request needs it cleared or a response
    revert hold hrsp hreq
    cases Ifetch.ifuReqHsked s.ifetch (ifetchIn s.regs i) <;>
      cases Ifetch.ifuRspHsked s.ifetch (ifetchIn s.regs i) <;>
      cases s.ifetch.outFlagR <;> simp

theorem Sync.run (h0 : s.IsReset) (hbus : ∀ t, Bus region (inp t) (run inp s t)) (t : ℕ) :
    Sync region (Ifu.run inp s t) :=
  Lib.invariant_stateAt Sys.step (I := fun _ => Sync region) t (.of_reset h0)
    fun u _ hu => hu.step (hbus u)

def ifetchAt (inp : ℕ → In) (s : Sys) (t : ℕ) : Ifetch.In :=
  ifetchIn (run inp s t).regs (inp t)

theorem trace (h0 : s.IsReset) (hbus : ∀ t, Bus region (inp t) (run inp s t)) :
    Ifetch.Trace (fun t => (run inp s t).ifetch) (ifetchAt inp s) where
  init := h0.1.1
  next _ := rfl
  rsp t := (Sync.run h0 hbus t).outFlagR_of_rspValid (hbus t)

/-- After a flush the IR is empty, nothing requested before the flush goes into it, and what goes into
it first after the last flush is the flush target, requested once. -/
theorem flush_discards (h0 : s.IsReset) (hbus : ∀ t, Bus region (inp t) (run inp s t)) {t : ℕ}
    (hflush : (inp t).pipeFlushReq = true) :
    (run inp s (t + 1)).ifetch.irValidR = false ∧
      (∀ u, t ≤ u → Ifetch.irValidSet (run inp s u).ifetch (ifetchAt inp s u) = true →
        ∃ v, t ≤ v ∧
          Ifetch.Answers (fun t => (run inp s t).ifetch) (ifetchAt inp s) v u) ∧
      ∀ u, t < u → (∀ w, t < w → w < u → (inp w).pipeFlushReq = false) →
        (∀ w, t < w → w < u →
          Ifetch.irValidSet (run inp s w).ifetch (ifetchAt inp s w) = false) →
        Ifetch.irValidSet (run inp s u).ifetch (ifetchAt inp s u) = true →
        (run inp s (u + 1)).ifetch.ifuPcR = Ifetch.halfAlign (inp t).pipeFlushPc ∧
          ∃ v, t ≤ v ∧
            Ifetch.Answers (fun t => (run inp s t).ifetch) (ifetchAt inp s) v u ∧
            Ifetch.ifuReqPc (run inp s v).ifetch (ifetchAt inp s v) =
              Ifetch.halfAlign (inp t).pipeFlushPc ∧
            ∀ w, t ≤ w → w < u →
              Ifetch.ifuReqHsked (run inp s w).ifetch (ifetchAt inp s w) = true → w = v := by
  have htrace := trace h0 hbus
  have hflush' : (ifetchAt inp s t).pipeFlushReq = true := hflush
  refine ⟨htrace.irValidR_of_flush hflush', fun u htu hload => ?_,
    fun u htu hlast hfirst hload => ?_⟩
  · exact htrace.requested_after hflush' htu hload
  · exact htrace.flush_target hflush' htu hlast hfirst hload

/-! ## No back-pressure -/

/-- Where the response of a memory goes: the first of two reads fills the leftover, any other one is
given to the fetch stage, or waits in the buffer if the fetch stage does not take it. -/
structure GoesOn (s : Ift2icb.State) (i : Ift2icb.In) : Prop where
  leftover : Ift2icb.ifuIcbRsp2leftover s = true →
    (Ift2icb.step s i).leftoverR = Ift2icb.put2leftoverData s i
  offered : Ift2icb.ifuIcbRsp2leftover s = false → Ift2icb.ifuRspValid s i = true ∧
    Ift2icb.ifuRspErr s i = Ift2icb.iIfuRspErr s i ∧
    Ift2icb.ifuRspInstr s i = Ift2icb.iIfuRspInstr s i
  waits : Ift2icb.ifuIcbRsp2leftover s = false → i.ifuRspReady = false →
    (Ift2icb.step s i).bypbuf = ⟨true, Ift2icb.iIfuRspErr s i, Ift2icb.iIfuRspInstr s i⟩

theorem goesOn {s : Ift2icb.State} {i : Ift2icb.In} (hv : Ift2icb.ifuIcbRspValid s i = true)
    (hbuf : s.bypbuf.vld = false) : GoesOn s i := by
  have hready : Ift2icb.ifuIcbRspReady s = true := by
    rw [Ift2icb.ifuIcbRspReady, Ift2icb.iIfuRspReady, Bypbuf.iRdy, hbuf]
    split <;> rfl
  have hoff : Ift2icb.ifuIcbRsp2leftover s = false → Ift2icb.iIfuRspValid s i = true := by
    intro hno
    rw [Ift2icb.iIfuRspValid, Ift2icb.ifuIcbRsp2irValid, hno, if_neg Bool.false_ne_true, hv,
      Bool.or_true]
  refine ⟨fun hleft => ?_, fun hno => ⟨?_, ?_, ?_⟩, fun hno hstall => ?_⟩
  · have hena : Ift2icb.leftoverEna s i = true := by
      rw [Ift2icb.leftoverEna, Ift2icb.uop1st2leftoverEna, Ift2icb.ifuIcbRspHsked, hv, hready,
        Ift2icb.uop1st2leftoverSel, hleft]
      exact Bool.or_true _
    rw [Ift2icb.step, hena, dfflr_true]
  · rw [Ift2icb.ifuRspValid, Bypbuf.oVld, hoff hno, Bool.or_true]
  · rw [Ift2icb.ifuRspErr, Bypbuf.oDat, hbuf, if_neg Bool.false_ne_true]
  · rw [Ift2icb.ifuRspInstr, Bypbuf.oDat, hbuf, if_neg Bool.false_ne_true]
  · change Bypbuf.step s.bypbuf (Ift2icb.iIfuRspValid s i) i.ifuRspReady _ = _
    rw [Bypbuf.step, Bypbuf.ren, Bypbuf.wen, Bypbuf.byp, Bypbuf.iRdy, hbuf, hoff hno, hstall]
    rfl

/-- While a read is outstanding both memories see the unit ready, whatever stalls the IR; so a response
is taken in the cycle in which it comes, and goes on. -/
theorem rsp_accepted (h0 : s.IsReset) (hbus : ∀ t, Bus region (inp t) (run inp s t)) (t : ℕ) :
    ((run inp s t).adapter.cmd ≠ none →
      Ift2icb.ifu2itcmIcbRspReady (run inp s t).adapter.ift = true ∧
        Ift2icb.ifu2biuIcbRspReady (run inp s t).adapter.ift = true) ∧
      ((inp t).ifu2itcmIcbRspValid = true →
        Ift2icb.ifu2itcmIcbRspReady (run inp s t).adapter.ift = true) ∧
      ((inp t).ifu2biuIcbRspValid = true →
        Ift2icb.ifu2biuIcbRspReady (run inp s t).adapter.ift = true) ∧
      (((inp t).ifu2itcmIcbRspValid || (inp t).ifu2biuIcbRspValid) = true →
        Ift2icb.ifuIcbRspValid (run inp s t).adapter.ift (ift2icbIn (run inp s t).regs (inp t)) =
            true ∧
          GoesOn (run inp s t).adapter.ift (ift2icbIn (run inp s t).regs (inp t))) := by
  have hsync := Sync.run h0 hbus t
  have hproto := hsync.proto (hbus t)
  have hcmd : ((inp t).ifu2itcmIcbRspValid || (inp t).ifu2biuIcbRspValid) = true →
      (run inp s t).adapter.cmd ≠ none := fun hv => hproto.cmd_of_rsp hv
  refine ⟨fun h => ⟨hsync.ctl.rspReady_of_cmd h, hsync.ctl.rspReady_of_cmd h⟩, fun hv => ?_,
    fun hv => ?_, fun hv => ?_⟩
  · exact hsync.ctl.rspReady_of_cmd (hcmd (by rw [hv, Bool.true_or]))
  · exact hsync.ctl.rspReady_of_cmd (hcmd (by rw [hv, Bool.or_true]))
  · have hicb : Ift2icb.ifuIcbRspValid (run inp s t).adapter.ift
        (ift2icbIn (run inp s t).regs (inp t)) = true := (hsync.ctl.ifuIcbRspValid_eq hproto).trans hv
    exact ⟨hicb, goesOn hicb (hsync.ctl.buf_of_cmd (hcmd hv))⟩

end

/-! ## A flush between the two reads of a fetch -/

def In.quiet : In where
  oitfEmpty := true
  rf2ifuX1 := 0#32
  rf2ifuRs1 := 0#32
  dec2ifuRs1en := false
  dec2ifuRden := false
  dec2ifuRdidx := 0#5
  dec2ifuMulhsu := false
  dec2ifuDiv := false
  dec2ifuRem := false
  dec2ifuDivu := false
  dec2ifuRemu := false
  pcRtvec := 0x80000006#32
  ifuOReady := false
  pipeFlushReq := false
  pipeFlushPc := 0#32
  ifuHaltReq := false
  itcmNohold := false
  itcmRegionIndic := 0x80000000#32
  ifu2itcmIcbCmdReady := true
  ifu2itcmIcbRspValid := false
  ifu2itcmIcbRspErr := false
  ifu2itcmIcbRspRdata := 0#64
  ifu2biuIcbCmdReady := true
  ifu2biuIcbRspValid := false
  ifu2biuIcbRspErr := false
  ifu2biuIcbRspRdata := 0#32
  ifu2itcmHoldup := false

/-- The first fetch crosses its lane; the flush comes with its first half. -/
def flushedFetch : ℕ → In
  | 2 =>
    { In.quiet with
      pipeFlushReq := true, pipeFlushPc := 0x80000100#32, ifu2itcmIcbRspValid := true }
  | 3 | 4 => { In.quiet with ifu2itcmIcbRspValid := true }
  | _ => In.quiet

def Sys.reset : Sys where
  ifetch := .reset
  adapter :=
    { ift :=
        { icbStateR := .idle
          reqSameCrossHoldupR := false
          reqNeed2uopR := false
          reqNeed0uopR := false
          reqLaneCrossR := false
          icbCmd2itcmR := false
          icbCmd2biuR := false
          icbCmdAddr21R := 0#2
          leftoverR := 0#16
          leftoverErrR := false
          bypbuf := ⟨false, (false, 0#32)⟩ }
      cmd := none
      held := none
      keep := false
      reqs := []
      rsps := [] }

theorem bus_flushedFetch (t : ℕ) :
    Bus 0x80000000#32 (flushedFetch t) (run flushedFetch .reset t) := by
  by_cases ht : t = 2 ∨ t = 3 ∨ t = 4
  · obtain rfl | rfl | rfl := ht
    · exact ⟨rfl, fun _ => ⟨0x80000006#32, by decide +kernel⟩, fun h => absurd h (by decide)⟩
    · exact ⟨rfl, fun _ => ⟨0x80000008#32, by decide +kernel⟩, fun h => absurd h (by decide)⟩
    · exact ⟨rfl, fun _ => ⟨0x80000100#32, by decide +kernel⟩, fun h => absurd h (by decide)⟩
  · have hquiet : flushedFetch t = In.quiet := by
      unfold flushedFetch
      split
      case h_4 => rfl
      all_goals simp at ht
    rw [hquiet]
    exact ⟨rfl, fun h => absurd h (by decide), fun h => absurd h (by decide)⟩

/-- The flush target comes into the IR, not the fetch under way. -/
theorem flush_discards_flushedFetch :
    (run flushedFetch .reset 5).ifetch.ifuPcR = 0x80000100#32 ∧
      ∃ v, 2 ≤ v ∧ Ifetch.Answers (fun t => (run flushedFetch .reset t).ifetch)
        (ifetchAt flushedFetch .reset) v 4 := by
  have h0 : Sys.reset.IsReset :=
    ⟨⟨rfl, rfl, rfl, rfl, rfl, rfl, rfl, rfl, rfl, rfl⟩, rfl, rfl, rfl⟩
  obtain ⟨-, -, htarget⟩ := flush_discards h0 bus_flushedFetch (t := 2) rfl
  have hlast : ∀ w, 2 < w → w < 4 → (flushedFetch w).pipeFlushReq = false := by
    intro w h1 h2
    obtain rfl : w = 3 := by omega
    rfl
  have hfirst : ∀ w, 2 < w → w < 4 →
      Ifetch.irValidSet (run flushedFetch .reset w).ifetch (ifetchAt flushedFetch .reset w) =
        false := by
    intro w h1 h2
    obtain rfl : w = 3 := by omega
    decide +kernel
  obtain ⟨hpc, v, hv, hans, -⟩ := htarget 4 (by decide) hlast hfirst (by decide +kernel)
  exact ⟨hpc, v, hv, hans⟩

/-- Both halves are taken when they come, the second one while the target waits for it. -/
theorem rsp_accepted_flushedFetch :
    Ift2icb.ifu2itcmIcbRspReady (run flushedFetch .reset 3).adapter.ift = true :=
  (rsp_accepted (s := Sys.reset) ⟨⟨rfl, rfl, rfl, rfl, rfl, rfl, rfl, rfl, rfl, rfl⟩, rfl, rfl, rfl⟩
    bus_flushedFetch 3).2.1 rfl

end E203.Ifu
