import E203.Arch.Pc

/-! # The PC that an interrupt or a debug entry resumes at

* `Core.pc_coherent`: a valid PC is the program counter of the architecture, and so is what an interrupt
  or a debug entry saves, as long as no instruction and no PC is lost.
* `Core.staleFlush_saves_stale_pc`: what is saved after a flush while the next instruction is awaited,
  and after a response during a halt.
-/

namespace E203
set_option autoImplicit false

namespace Core
section
variable {inp : ℕ → In} {s : State} {t : ℕ}

/-- The PC of the fetched instruction is even. -/
theorem evenPc_ifuPcR (h0 : IsReset s) (t : ℕ) :
    Isa.evenPc (run inp s t).ifu.ifuPcR = (run inp s t).ifu.ifuPcR := by
  induction t with
  | zero =>
    change Isa.evenPc s.ifu.ifuPcR = s.ifu.ifuPcR
    rw [h0.1]
    decide
  | succ t ih =>
    have heven : Isa.evenPc (run inp s t).ifu.pcR = (run inp s t).ifu.pcR := (Startup.run h0 t).even
    rw [ifu_succ]
    cases hset : Ifetch.irPcVldSet (run inp s t).ifu (ifuIn (run inp s t) (inp t))
    · simpa [Ifetch.step, hset] using ih
    · simpa [Ifetch.step, hset] using heven

/-- A debug entry writes the PC of the fetched instruction to `dpc`. -/
theorem dpcR_of_dbgEntry (h0 : IsReset s)
    (h : Exu.dbgEntryTaken (run inp s t).exu (exuIn (run inp s t) (inp t)) = true) :
    (run inp s (t + 1)).exu.dbg.dpcR = (run inp s t).ifu.ifuPcR := by
  have hena : (Exu.dbgCsr (run inp s t).exu (exuIn (run inp s t) (inp t))).cmtDpcEna = true := h
  have hstep : (run inp s (t + 1)).exu.dbg.dpcR =
      Isa.evenPc (Exu.dbgCsr (run inp s t).exu (exuIn (run inp s t) (inp t))).cmtDpc := by
    change (DebugCsr.step _ (Exu.dbgCsr (run inp s t).exu (exuIn (run inp s t) (inp t)))).dpcR = _
    rw [DebugCsr.step, DebugCsr.dpcNxt, hena, Bool.or_true, if_pos rfl, ← Ifetch.halfAlign_eq]
    rfl
  rw [hstep, (cmtDpc_of_dbgEntry h).2, evenPc_ifuPcR h0]

/-- A valid PC is that of the oldest instruction that has not committed, the one that the program has
to execute next, and it is what an interrupt and a debug entry save. -/
theorem pc_coherent (henv : FetchEnv inp s) (hcoh : CoherentUntil inp s t) :
    ((run inp s t).ifu.irPcVldR = true →
        (run inp s t).ifu.ifuPcR = archPc inp s t ∧
          (path inp s t).head? = some (archPc inp s t)) ∧
      (Excp.irqFlushReq (run inp s t).exu.excp
            (Exu.cmtCtl (run inp s t).exu (exuIn (run inp s t) (inp t))).toCtl
            (Exu.aluCmt (run inp s t).exu (exuIn (run inp s t) (inp t))).toAlu
            (Exu.aluCmtValid (run inp s t).exu (exuIn (run inp s t) (inp t))) = true →
        (Exu.csrIn (run inp s t).exu (exuIn (run inp s t) (inp t))).cmtEpc = archPc inp s t) ∧
      (Exu.dbgEntryTaken (run inp s t).exu (exuIn (run inp s t) (inp t)) = true →
        (Exu.dbgCsr (run inp s t).exu (exuIn (run inp s t) (inp t))).cmtDpc = archPc inp s t ∧
          (run inp s (t + 1)).exu.dbg.dpcR = archPc inp s t) := by
  have h := follows_run henv hcoh
  have hkept : Ifetch.PcKept (run inp s t).ifu := (Startup.run henv.reset t).kept
  refine ⟨fun hvld => ?_, fun hirq => ?_, fun hdbg => ?_⟩
  · have hpc := h.ifuPcR_of_vld henv hvld
    exact ⟨hpc, hpc ▸ h.onPath.head hkept hvld⟩
  · obtain ⟨hvld, hepc⟩ := cmtEpc_of_irq hirq
    exact hepc.trans (h.ifuPcR_of_vld henv hvld)
  · obtain ⟨hvld, hdpc⟩ := cmtDpc_of_dbgEntry hdbg
    have hpc := h.ifuPcR_of_vld henv hvld
    exact ⟨hdpc.trans hpc, (dpcR_of_dbgEntry henv.reset hdbg).trans hpc⟩

end

instance (s : State) (i : In) : Decidable (Coherent s i) :=
  decidable_of_iff
    (¬StaleFlush s i ∧ ¬Dropped s i ∧ ¬BorrowFlush s i ∧
      (s.ifu.resetReqR = true → Ifetch.bjpReq s.ifu (ifuIn s i) = false) ∧
      (Exu.cmtEna s.exu (exuIn s i) = true → Exu.excpirqFlushReq s.exu (exuIn s i) = false →
        (Isa.decode s.ifu.ifuIrR).isSome = true))
    ⟨fun ⟨h1, h2, h3, h4, h5⟩ => ⟨h1, h2, h3, h4, h5⟩,
      fun ⟨h1, h2, h3, h4, h5⟩ => ⟨h1, h2, h3, h4, h5⟩⟩

/-- The run of `haltedResponse`, and a debug interrupt after the third response. -/
def haltedDebug (t : ℕ) : In :=
  { haltedResponse t with dbgIrqR := decide (9 ≤ t) }

/-- The same run, with a response channel that still shows the second instruction when the halt ends. -/
def heldDebug (t : ℕ) : In :=
  { haltedDebug t with ifuRspInstr := if t ≤ 4 then 0x10500073#32 else 0x00100093#32 }

theorem haltedDebug_cycles {t : ℕ} (h : (haltedDebug t).ifuRspValid = true) :
    t = 2 ∨ t = 5 ∨ t = 8 := by
  have hv : (t == 2 || t == 5 || t == 8) = true := h
  simpa [or_assoc] using hv

theorem fetchEnv_haltedDebug : FetchEnv haltedDebug zeroState := by
  refine ⟨State.isReset_reset _, fun t hv => ?_, fun t hv => ?_, fun _ => rfl⟩
  · obtain rfl | rfl | rfl := haltedDebug_cycles hv <;> decide +kernel
  · obtain rfl | rfl | rfl := haltedDebug_cycles hv <;> decide +kernel

theorem fetchEnv_heldDebug : FetchEnv heldDebug zeroState := by
  refine ⟨State.isReset_reset _, fun t hv => ?_, fun t hv => ?_, fun _ => rfl⟩
  · obtain rfl | rfl | rfl := haltedDebug_cycles hv <;> decide +kernel
  · obtain rfl | rfl | rfl := haltedDebug_cycles hv <;> decide +kernel

/-- The one instruction that goes into the IR during the halt finds its successor when the halt ends. -/
theorem heldDebug_coherent : CoherentUntil heldDebug zeroState 9 where
  cycles := by decide +kernel
  halt t₀ r hlt hr hset hfirst := by
    have hv : (haltedDebug t₀).ifuRspValid = true := (Ifetch.irValidSet_iff.mp hset).1
    have hno := hfirst.none t₀ (Nat.le_refl t₀) hlt
    clear hset
    obtain rfl | rfl | rfl := haltedDebug_cycles hv
    · have hreq : Ifetch.ifuReqHsked (run heldDebug zeroState 2).ifu
          (ifuIn (run heldDebug zeroState 2) (heldDebug 2)) = true := by decide +kernel
      rw [hno] at hreq
      cases hreq
    · rw [SameSuccessor]
      clear hfirst hno hv
      obtain rfl | rfl | rfl : r = 6 ∨ r = 7 ∨ r = 8 := by omega
      all_goals
        clear hlt hr
        decide +kernel
    · omega

/-- The debug entry saves the PC behind the instruction of the halt. -/
theorem pc_coherent_heldDebug :
    (run heldDebug zeroState 10).exu.dbg.dpcR = archPc heldDebug zeroState 9 ∧
      archPc heldDebug zeroState 9 = 0x80000008#32 :=
  ⟨((pc_coherent fetchEnv_heldDebug heldDebug_coherent).2.2 (by decide +kernel)).2, by decide +kernel⟩

/-- A load whose bus error comes back while the next instruction is awaited; then a debug interrupt.
The trap vector is `0x100`. -/
def staleFlush (t : ℕ) : In :=
  { In.quiet with
    ifuRspValid := t == 2
    ifuRspInstr := 0x00002083#32
    csrMtvecR := 0x100#32
    lsuOValid := t == 5
    lsuOWbckErr := true
    lsuOCmtBuserr := true
    lsuOCmtLd := true
    dbgIrqR := decide (6 ≤ t) }

theorem fetchEnv_staleFlush : FetchEnv staleFlush zeroState := by
  have hcycle : ∀ {t}, (staleFlush t).ifuRspValid = true → t = 2 := by
    intro t hv
    simpa [staleFlush] using hv
  refine ⟨State.isReset_reset _, fun t hv => ?_, fun t hv => ?_, fun _ => rfl⟩
  · obtain rfl := hcycle hv
    decide +kernel
  · obtain rfl := hcycle hv
    decide +kernel

/-- The debug entry after the flush saves the PC behind the load, not the trap vector; the one after the
response during the halt saves a PC in the middle of an instruction. -/
theorem staleFlush_saves_stale_pc :
    (FetchEnv staleFlush zeroState ∧
        (run staleFlush zeroState 6).ifu.irPcVldR = true ∧
        Exu.dbgEntryTaken (run staleFlush zeroState 6).exu
          (exuIn (run staleFlush zeroState 6) (staleFlush 6)) = true ∧
        archPc staleFlush zeroState 6 = 0x100#32 ∧
        (run staleFlush zeroState 6).ifu.ifuPcR = 0x80000004#32 ∧
        (run staleFlush zeroState 7).exu.dbg.dpcR = 0x80000004#32) ∧
      FetchEnv haltedDebug zeroState ∧
      (run haltedDebug zeroState 9).ifu.irPcVldR = true ∧
      Exu.dbgEntryTaken (run haltedDebug zeroState 9).exu
        (exuIn (run haltedDebug zeroState 9) (haltedDebug 9)) = true ∧
      archPc haltedDebug zeroState 9 = 0x80000008#32 ∧
      (run haltedDebug zeroState 9).ifu.ifuPcR = 0x80000006#32 ∧
      (run haltedDebug zeroState 10).exu.dbg.dpcR = 0x80000006#32 := by
  refine ⟨⟨fetchEnv_staleFlush, ?_⟩, fetchEnv_haltedDebug, ?_⟩
  · decide +kernel
  · decide +kernel

end Core
end E203
