import E203.Fetch.AdapterData
import E203.Fetch.UnitRun

/-! # Requests of the fetch unit

* `Begun`: what holds from reset on: the fetch stage and the adapter agree, the PC is even, the first
  request comes with the reset.
* `Begun.heldUp`: a request that uses what the last one left behind is sequential, and that one was not
  flushed.
* `calm_or_req`: while no flush is pending, a cycle accepts a request or keeps the PC.
-/

namespace E203.Ifu
set_option autoImplicit false

/-! ## Requests of the fetch stage -/

section
variable {s : Ifetch.State} {i : Ifetch.In} {x : BitVec 32}

theorem isEven_halfAlign (x : BitVec 32) : Ift2icb.IsEven (Ifetch.halfAlign x) := by
  rw [Ift2icb.IsEven, Ifetch.halfAlign, BitVec.toNat_append, Nat.shiftLeft_eq]
  simp

theorem halfAlign_of_isEven (h : Ift2icb.IsEven x) : Ifetch.halfAlign x = x := by
  have hlt := x.isLt
  unfold Ift2icb.IsEven at h
  apply BitVec.eq_of_toNat_eq
  rw [Ifetch.halfAlign, BitVec.toNat_append, Nat.shiftLeft_eq, BitVec.extractLsb'_toNat,
    Nat.shiftRight_eq_div_pow]
  simp
  omega

theorem isEven_pcNxt : Ift2icb.IsEven (Ifetch.pcNxt s i) := by
  unfold Ifetch.pcNxt
  split_ifs <;> exact isEven_halfAlign _

theorem isEven_step_pcR (h : Ift2icb.IsEven s.pcR) : Ift2icb.IsEven (Ifetch.step s i).pcR := by
  cases hena : Ifetch.pcEna s i
  · simpa [Ifetch.step, hena] using h
  · simpa [Ifetch.step, hena] using isEven_pcNxt

/-- A sequential request is for what follows the last PC. -/
theorem ifuReqPc_of_seq (heven : Ift2icb.IsEven s.pcR) (hseq : Ifetch.ifuReqSeq s i = true) :
    Ifetch.ifuReqPc s i = s.pcR + if Ifetch.ifuReqSeqRv32 i then 4#32 else 2#32 := by
  simp only [Ifetch.ifuReqSeq, Bool.and_eq_true, Bool.not_eq_true'] at hseq
  obtain ⟨⟨⟨hflush, hreset⟩, -⟩, hbjp⟩ := hseq
  obtain ⟨hreq, hdly⟩ := Ifetch.pipeFlushReqReal_eq_false.mp hflush
  have hpre : Ifetch.pcNxtPre s i = s.pcR + if Ifetch.ifuReqSeqRv32 i then 4#32 else 2#32 := by
    rw [Ifetch.pcNxtPre, Ifetch.pcAddOp1, Ifetch.pcAddOp2, hbjp, hreset]
    rfl
  have hsum : Ift2icb.IsEven (s.pcR + if Ifetch.ifuReqSeqRv32 i then 4#32 else 2#32) := by
    unfold Ift2icb.IsEven at heven ⊢
    rw [BitVec.toNat_add]
    split <;> simp only [BitVec.toNat_ofNat] <;> omega
  rw [Ifetch.ifuReqPc, Ifetch.pcNxt, hreq, hdly, hpre, halfAlign_of_isEven hsum]
  rfl

end

/-! ## What holds from reset on -/

structure Begun (region : BitVec 32) (s : Sys) : Prop where
  sync : Sync region s
  kept : Ifetch.PcKept s.ifetch
  even : Ift2icb.IsEven s.ifetch.pcR
  first : s.adapter.reqs = [] → s.ifetch.resetFlagR = true ∨ s.ifetch.resetReqR = true

section
variable {region : BitVec 32} {i : In} {s : Sys} {inp : ℕ → In}

theorem Begun.of_reset (h : s.IsReset) : Begun region s where
  sync := .of_reset h
  kept := by
    intro _
    rw [show s.ifetch = Ifetch.State.reset from h.1.1]
    rfl
  even := by
    rw [show s.ifetch = Ifetch.State.reset from h.1.1]
    rfl
  first _ := by
    left
    rw [show s.ifetch = Ifetch.State.reset from h.1.1]
    rfl

theorem Begun.step (h : Begun region s) (hb : Bus region i s) : Begun region (Sys.step i s) where
  sync := h.sync.step hb
  kept := h.kept.step
  even := isEven_step_pcR h.even
  first hempty := by
    have hq : Ift2icb.ifuReqHsked s.adapter.ift (ift2icbIn s.regs i) = false := by
      cases hq : Ift2icb.ifuReqHsked s.adapter.ift (ift2icbIn s.regs i)
      · rfl
      · simp [Sys.step, Ift2icb.Sys.step, hq] at hempty
    have hold : s.adapter.reqs = [] := by
      simpa [Sys.step, Ift2icb.Sys.step, hq] using hempty
    right
    rw [show (Sys.step i s).ifetch = Ifetch.step s.ifetch (ifetchIn s.regs i) from rfl,
      Ifetch.step_resetReqR, Ifetch.resetReqClr, ← reqHsked_eq, hq, Ifetch.resetReqSet]
    obtain hf | hr := h.first hold
    · rw [hf]
      cases s.ifetch.resetReqR <;> rfl
    · rw [hr]
      rfl

theorem Begun.run (h0 : s.IsReset) (hbus : ∀ t, Bus region (inp t) (run inp s t)) (t : ℕ) :
    Begun region (Ifu.run inp s t) :=
  Lib.invariant_stateAt Sys.step (I := fun _ => Begun region) t (.of_reset h0)
    fun u _ hu => hu.step (hbus u)

/-! ## Requests and turns -/

theorem Sync.outstanding (h : Sync region s) (hout : s.ifetch.outFlagR = true) :
    s.adapter.reqs.length = s.adapter.rsps.length + 1 := by
  have hlen := h.out
  rw [hout] at hlen
  exact hlen

/-- While the first or the second read is not done, a request is outstanding. -/
theorem Sync.busy (h : Sync region s)
    (hsta : s.adapter.ift.icbStateR = .first ∨ s.adapter.ift.icbStateR = .wait2nd) :
    s.ifetch.outFlagR = true ∧ s.adapter.reqs ≠ [] := by
  have hlen : s.adapter.reqs.length = s.adapter.rsps.length + 1 := by
    have hst := h.ctl.state
    unfold Ift2icb.Sys.StateOk at hst
    obtain hsta | hsta := hsta <;> rw [hsta] at hst <;> exact hst.2.1
  have hout := h.out
  refine ⟨?_, fun hempty => by simp [hempty] at hlen⟩
  cases hflag : s.ifetch.outFlagR
  · rw [hflag] at hout
    simp at hout
    omega
  · rfl

theorem step_pcR_of_req (hq : Ifetch.ifuReqHsked s.ifetch (ifetchIn s.regs i) = true) :
    (Sys.step i s).ifetch.pcR = (ift2icbIn s.regs i).ifuReqPc := by
  rw [ifuReqPc_eq]
  exact Ifetch.step_pcR (by simp [Ifetch.pcEna, hq])

/-- A request is accepted in a turn. -/
theorem Sync.turn_of_req (h : Sync region s) (hb : Bus region i s)
    (hq : Ifetch.ifuReqHsked s.ifetch (ifetchIn s.regs i) = true) :
    Ift2icb.Turn s.adapter.ift (ift2icbIn s.regs i) := by
  have hno : ¬Ift2icb.Quiet s.adapter.ift (ift2icbIn s.regs i) := by
    intro hquiet
    have hreq := hquiet.req
    rw [reqHsked_eq, hq] at hreq
    cases hreq
  obtain hs | hf | hw | ht := h.ctl.cases (h.proto hb)
  · exact absurd hs.toQuiet hno
  · exact absurd hf.toQuiet hno
  · exact absurd hw.toQuiet hno
  · exact ht

/-- An instruction goes into the IR in a turn. -/
theorem Sync.turn_of_irValidSet (h : Sync region s) (hb : Bus region i s)
    (hset : Ifetch.irValidSet s.ifetch (ifetchIn s.regs i) = true) :
    Ift2icb.Turn s.adapter.ift (ift2icbIn s.regs i) := by
  have hno : ¬Ift2icb.Quiet s.adapter.ift (ift2icbIn s.regs i) := by
    intro hquiet
    have hv : Ift2icb.ifuRspValid s.adapter.ift (ift2icbIn s.regs i) = true :=
      (Ifetch.irValidSet_iff.mp hset).1
    simp [Ift2icb.ifuRspValid, Bypbuf.oVld, hquiet.rsp, hquiet.buf] at hv
  obtain hs | hf | hw | ht := h.ctl.cases (h.proto hb)
  · exact absurd hs.toQuiet hno
  · exact absurd hf.toQuiet hno
  · exact absurd hw.toQuiet hno
  · exact ht

/-- A request that uses what the last one left behind is sequential, and that one was not flushed. -/
theorem Begun.heldUp (h : Begun region s) (hb : Bus region i s)
    (hlane : s.ifetch.dlyFlushR = false → s.adapter.reqs ≠ [] →
      Ift2icb.LastLane region s.adapter s.ifetch.pcR)
    (hissued : Ift2icb.Issued s.adapter.ift)
    (hq : Ifetch.ifuReqHsked s.ifetch (ifetchIn s.regs i) = true)
    (hsame : Ift2icb.ifuReqLaneSame s.adapter.ift (ift2icbIn s.regs i) = true)
    (hhold : Ift2icb.ifuReqLaneHoldup (ift2icbIn s.regs i) = true) :
    Ift2icb.HeldUp region (ift2icbIn s.regs i) s.adapter := by
  have hseq : Ifetch.ifuReqSeq s.ifetch (ifetchIn s.regs i) = true :=
    ((Bool.and_eq_true _ _).mp hsame).1
  have hflags := hseq
  simp only [Ifetch.ifuReqSeq, Bool.and_eq_true, Bool.not_eq_true'] at hflags
  obtain ⟨⟨⟨hflush, hreset⟩, -⟩, -⟩ := hflags
  have hne : s.adapter.reqs ≠ [] := by
    intro hempty
    obtain hfirst | hpend := h.first hempty
    · -- the first request comes with a flush
      have hpre := ((Bool.and_eq_true _ _).mp ((Bool.and_eq_true _ _).mp hq).1).1
      simp [Ifetch.ifuReqValidPre, Ifetch.ifuNewReq, hfirst, hreset, hflush,
        Ifetch.ifetchReplayReq] at hpre
    · exact Bool.false_ne_true (hreset.symm.trans hpend)
  exact (hlane (Ifetch.pipeFlushReqReal_eq_false.mp hflush).2 hne).heldUp (h.sync.proto hb) h.even
    hissued (fun _ => ifuReqPc_of_seq h.even hseq) hsame hhold

/-- While no flush is pending after a cycle, it accepted a request, or there was no flush. -/
theorem calm_or_req (hdly : (Sys.step i s).ifetch.dlyFlushR = false) :
    Ifetch.ifuReqHsked s.ifetch (ifetchIn s.regs i) = true ∨
      Ifetch.ifuReqHsked s.ifetch (ifetchIn s.regs i) = false ∧ s.ifetch.dlyFlushR = false ∧
        i.pipeFlushReq = false ∧ (Sys.step i s).ifetch.pcR = s.ifetch.pcR := by
  cases hq : Ifetch.ifuReqHsked s.ifetch (ifetchIn s.regs i)
  · right
    rw [show (Sys.step i s).ifetch = Ifetch.step s.ifetch (ifetchIn s.regs i) from rfl,
      Ifetch.step_dlyFlushR, Bool.or_eq_false_iff] at hdly
    obtain ⟨hset, hold⟩ := hdly
    have hflush : (ifetchIn s.regs i).pipeFlushReq = false := by
      simpa [Ifetch.dlyFlushSet, hq] using hset
    refine ⟨rfl, by simpa [Ifetch.dlyFlushClr, hq] using hold, hflush, ?_⟩
    simp [Sys.step, Ifetch.step, Ifetch.pcEna, Ifetch.pipeFlushHsked, hq, hflush]
  · exact .inl rfl

/-- A request that is outstanding after a cycle without a request was so before, without its
response. -/
theorem outstanding_of_step (hq : Ifetch.ifuReqHsked s.ifetch (ifetchIn s.regs i) = false)
    (hout : (Sys.step i s).ifetch.outFlagR = true) :
    s.ifetch.outFlagR = true ∧ Ifetch.ifuRspHsked s.ifetch (ifetchIn s.regs i) = false := by
  rwa [show (Sys.step i s).ifetch = Ifetch.step s.ifetch (ifetchIn s.regs i) from rfl,
    Ifetch.step_outFlagR, hq, Bool.false_or, Bool.and_eq_true, Bool.not_eq_true'] at hout

end
end E203.Ifu
