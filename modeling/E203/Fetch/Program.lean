import E203.Fetch.Renewed

/-! # What is fetched from reset on

* `Sync.rspHeld`: the adapter holds a response until the fetch stage takes it.
* `Renewed.of_reset`: from the first request on, all that a fetch uses was read in the run.
* `holds_of_load`: with a program in memory, what goes into the IR is what the program has at its PC.
-/

namespace E203.Ifu
set_option autoImplicit false

section
variable {region : BitVec 32} {i : In} {s : Sys}

/-- A response that is not taken is there again in the next cycle. -/
theorem Sync.rspHeld (h : Sync region s) (hb : Bus region i s)
    (hv : Ift2icb.ifuRspValid s.adapter.ift (ift2icbIn s.regs i) = true)
    (hno : Ift2icb.ifuRspHsked s.adapter.ift (ift2icbIn s.regs i) = false) (j : Ift2icb.In) :
    Ift2icb.ifuRspValid (Sys.step i s).adapter.ift j = true ∧
      Ift2icb.ifuRspInstr (Sys.step i s).adapter.ift j =
        Ift2icb.ifuRspInstr s.adapter.ift (ift2icbIn s.regs i) := by
  have hloud : ¬Ift2icb.Quiet s.adapter.ift (ift2icbIn s.regs i) := by
    intro hquiet
    simp [Ift2icb.ifuRspValid, Bypbuf.oVld, hquiet.rsp, hquiet.buf] at hv
  have ht : Ift2icb.Turn s.adapter.ift (ift2icbIn s.regs i) := by
    obtain hs | hf | hw | ht := h.ctl.cases (h.proto hb)
    · exact absurd hs.toQuiet hloud
    · exact absurd hf.toQuiet hloud
    · exact absurd hw.toQuiet hloud
    · exact ht
  have hready : (ift2icbIn s.regs i).ifuRspReady = false := by
    rwa [Ift2icb.ifuRspHsked, hv, Bool.true_and] at hno
  have hvld : (Sys.step i s).adapter.ift.bypbuf.vld = true := by
    refine ht.step_bypbuf.trans ?_
    rw [hv, hready]
    rfl
  have hdat : (Sys.step i s).adapter.ift.bypbuf.dat = _ := Bypbuf.step_dat ht.buf hvld
  constructor
  · rw [Ift2icb.ifuRspValid, Bypbuf.oVld, hvld, Bool.true_or]
  · rw [Ift2icb.ifuRspInstr, Bypbuf.oDat, hvld, if_pos rfl, hdat]
    rfl

/-- The first request is not a sequential one. -/
theorem Begun.ifuReqSeq_of_first (h : Begun region s) (hempty : s.adapter.reqs = [])
    (hq : Ifetch.ifuReqHsked s.ifetch (ifetchIn s.regs i) = true) :
    Ifetch.ifuReqSeq s.ifetch (ifetchIn s.regs i) = false := by
  by_contra hseq
  rw [Bool.not_eq_false, Ifetch.ifuReqSeq] at hseq
  simp only [Bool.and_eq_true, Bool.not_eq_true'] at hseq
  obtain ⟨⟨⟨hflush, hreset⟩, -⟩, -⟩ := hseq
  obtain hfirst | hpend := h.first hempty
  · have hpre := ((Bool.and_eq_true _ _).mp ((Bool.and_eq_true _ _).mp hq).1).1
    simp [Ifetch.ifuReqValidPre, Ifetch.ifuNewReq, hfirst, hreset, hflush,
      Ifetch.ifetchReplayReq] at hpre
  · exact Bool.false_ne_true (hreset.symm.trans hpend)

end

section
variable {mem : ℕ → Ift2icb.Mem} {region : BitVec 32} {inp : ℕ → In} {s : Sys} {t : ℕ}

theorem Renewed.of_reset (h0 : s.IsReset)
    (hbus : ∀ t, Bus region (inp t) (Ifu.run inp s t))
    (hmem : ∀ t, Memories mem region inp s t) (hdly : (Ifu.run inp s t).ifetch.dlyFlushR = false)
    (hne : (Ifu.run inp s t).adapter.reqs ≠ []) : Renewed mem region inp s 0 t := by
  induction t with
  | zero => exact absurd h0.2.2.1 hne
  | succ t ih =>
    have hbegun := Begun.run h0 hbus t
    obtain hq | ⟨hq, hold, -, hpc⟩ := calm_or_req hdly
    · refine .of_req hbegun (hbus t) (hmem t) (Nat.zero_le t) hq ?_
      cases hold : (Ifu.run inp s t).ifetch.dlyFlushR
      case true => exact heldSince_of_flush ((Bool.or_eq_true _ _).mpr (.inr hold))
      case false =>
        by_cases hempty : (Ifu.run inp s t).adapter.reqs = []
        · intro hsame _
          have hseq : Ifetch.ifuReqSeq (Ifu.run inp s t).ifetch (ifetchAt inp s t) = true :=
            ((Bool.and_eq_true _ _).mp hsame).1
          exact absurd ((hbegun.ifuReqSeq_of_first hempty hq).symm.trans hseq) Bool.false_ne_true
        · exact (ih hold hempty).heldSince hbegun (hbus t) hq
    · have hkeep : (Ifu.run inp s (t + 1)).adapter.reqs = (Ifu.run inp s t).adapter.reqs :=
        if_neg fun hreq => Bool.false_ne_true (hq.symm.trans hreq)
      rw [hkeep] at hne
      exact (ih hold hne).follow hbegun (hbus t) (hmem t) (Nat.zero_le t) hq hpc

/-- With a program in memory, what goes into the IR is what the program has there: the low halfword, and
the high halfword of a 32-bit instruction. -/
theorem holds_of_load {prog : Ift2icb.Mem} (h0 : s.IsReset)
    (hbus : ∀ t, Bus region (inp t) (run inp s t))
    (hmem : ∀ t, Memories (fun _ => prog) region inp s t)
    (hload : Ifetch.irValidSet (Ifu.run inp s t).ifetch (ifetchAt inp s t) = true) :
    prog (Ifu.run inp s (t + 1)).ifetch.ifuPcR =
        (Ifu.run inp s (t + 1)).ifetch.ifuIrR.extractLsb' 0 16 ∧
      (Decode.decRv32 (Ifu.run inp s (t + 1)).ifetch.ifuIrR = true →
        prog ((Ifu.run inp s (t + 1)).ifetch.ifuPcR + 2#32) =
          (Ifu.run inp s (t + 1)).ifetch.ifuIrR.extractLsb' 16 16) := by
  have hbegun := Begun.run h0 hbus t
  obtain ⟨hv, hcalm, -⟩ := Ifetch.irValidSet_iff.mp hload
  have hdly := (Ifetch.pipeFlushReqReal_eq_false.mp hcalm).2
  have hout := hbegun.sync.outFlagR_of_rspValid (hbus t) hv
  have hne : (Ifu.run inp s t).adapter.reqs ≠ [] := by
    intro hempty
    have hlen := hbegun.sync.outstanding hout
    rw [hempty] at hlen
    cases hlen
  have hword := (Renewed.of_reset h0 hbus hmem hdly hne).word hbegun (hbus t) (hmem t) hout
    (hbegun.sync.turn_of_irValidSet (hbus t) hload)
  obtain ⟨⟨_, _, _, -, -, -, -, -, hlow⟩, ⟨_, _, _, -, -, -, -, -, hhigh⟩⟩ := hword
  obtain ⟨hir, hall⟩ := Ifetch.step_ifuIrR hload
  have hlen := Ifetch.decRv32_step_ifuIrR hload
  have hpc : (Ifu.run inp s (t + 1)).ifetch.ifuPcR = (Ifu.run inp s t).ifetch.pcR :=
    hbegun.kept.step_ifuPcR hload
  rw [hpc]
  constructor
  · exact hlow.symm.trans hir.symm
  · intro hrv32
    rw [show (Ifu.run inp s (t + 1)).ifetch.ifuIrR = _ from hall (hlen.symm.trans hrv32)]
    exact hhigh.symm

end
end E203.Ifu
