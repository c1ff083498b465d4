import E203.Arch.Refine
import E203.Fetch.Program
import E203.Isa.Program
import E203.Lsu.Fencei

/-! # The core executes the program in its memory

* `CoreFetch.fetchEnv`: with its fetch unit and a memory that answers what it is asked, the core has what
  the refinement asks of its environment.
* `CoreFetch.word_in_program`: the word in the IR is the one that the program has at its PC.
* `CoreFetch.executes_program`: a hart that fetches from the program accepts the log of an orderly
  run.
-/

namespace E203
set_option autoImplicit false

open Lib.InOrder

namespace CoreFetch

section
variable (inp : ℕ → In) (s : State)

/-- What the core is given in cycle `t`. -/
def coreInAt (t : ℕ) : Core.In := CoreLsu.coreIn (run inp s t).base (baseInAt inp s t)

theorem run_core (t : ℕ) : (run inp s t).base.core = Core.run (coreInAt inp s) s.base.core t := by
  induction t with
  | zero => rfl
  | succ t ih =>
    change Core.step (run inp s t).base.core (coreInAt inp s t) =
      Core.step (Core.run (coreInAt inp s) s.base.core t) (coreInAt inp s t)
    rw [← ih]

end

/-- A memory that holds the program `prog` all along and answers the reads of the fetch unit. -/
structure Programmed (prog : Ift2icb.Mem) (region : BitVec 32) (inp : ℕ → In) (s : State) : Prop where
  bus : ∀ t, Ifu.Bus region (ifuInAt inp s t) (Ifu.run (ifuInAt inp s) (ifu s) t)
  mem : ∀ t, Ifu.Memories (fun _ => prog) region (ifuInAt inp s) (ifu s) t

section
variable {prog : Ift2icb.Mem} {region : BitVec 32} {inp : ℕ → In} {s : State} {c : Csr.State} {t : ℕ}

theorem fetchEnv (h0 : IsReset s) (hprog : Programmed prog region inp s)
    (hvec : ∀ t, (inp t).pcRtvec = (inp 0).pcRtvec) :
    Core.FetchEnv (coreInAt inp s) s.base.core where
  reset := h0.1.1
  rsp t hv := by
    have hsync := (Ifu.Sync.run h0.2 hprog.bus t)
    rw [← run_ifu] at hsync
    have hbus := hprog.bus t
    rw [← run_ifu] at hbus
    rw [← run_core]
    exact hsync.outFlagR_of_rspValid hbus hv
  held t hv hno := by
    have hsync := (Ifu.Sync.run h0.2 hprog.bus t)
    rw [← run_ifu] at hsync
    have hbus := hprog.bus t
    rw [← run_ifu] at hbus
    rw [← run_core] at hno
    exact hsync.rspHeld hbus hv hno _
  vec := hvec

/-- The word in the IR is the one that the program has at its PC. -/
theorem word_in_program (h0 : IsReset s) (hprog : Programmed prog region inp s)
    (hv : (run inp s t).base.core.ifu.irValidR = true) :
    prog (run inp s t).base.core.ifu.ifuPcR =
        (run inp s t).base.core.ifu.ifuIrR.extractLsb' 0 16 ∧
      (Decode.decRv32 (run inp s t).base.core.ifu.ifuIrR = true →
        prog ((run inp s t).base.core.ifu.ifuPcR + 2#32) =
          (run inp s t).base.core.ifu.ifuIrR.extractLsb' 16 16) := by
  rw [run_core] at hv ⊢
  obtain ⟨t₀, -, hload⟩ := Core.exists_loadedAt h0.1.1 hv
  have hset := hload.set
  rw [← run_core] at hset
  have hset' : Ifetch.irValidSet (Ifu.run (ifuInAt inp s) (ifu s) t₀).ifetch
      (Ifu.ifetchAt (ifuInAt inp s) (ifu s) t₀) = true := by
    rw [Ifu.ifetchAt, ← run_ifu]
    exact hset
  have hword := Ifu.holds_of_load h0.2 hprog.bus hprog.mem hset'
  rw [← run_ifu] at hword
  have hnext : (ifu (run inp s (t₀ + 1))).ifetch = (Core.run (coreInAt inp s) s.base.core (t₀ + 1)).ifu := by
    rw [← run_core]
    rfl
  rw [hnext] at hword
  rw [hload.pc, hload.ir]
  exact hword

end
end CoreFetch

/-! ## The log -/

namespace Core
section
variable {inp : ℕ → In} {s : State} {prog : Ift2icb.Mem} {t : ℕ}

/-- What retires in a run is from the program if what is in the IR is. -/
theorem log_from (hfrom : ∀ u < t, Exu.cmtEna (run inp s u).exu (exuIn (run inp s u) (inp u)) = true →
      Exu.excpirqFlushReq (run inp s u).exu (exuIn (run inp s u) (inp u)) = false →
      (retired (run inp s u) (inp u)).From prog) :
    ∀ c ∈ (labels (log inp s t)).map Prod.fst, c.From prog := by
  induction t with
  | zero => exact fun c hc => absurd hc List.not_mem_nil
  | succ t ih =>
    have hold := ih fun u hu => hfrom u (by omega)
    intro c hc
    rw [log, logStep, labels, List.map_append, List.map_append, List.mem_append] at hc
    obtain hc | hc := hc
    · apply hold
      split_ifs at hc
      · rw [← labels_finish]
        exact hc
      · exact hc
    · rw [added] at hc
      cases hev : Exu.excpirqFlushReq (run inp s t).exu (exuIn (run inp s t) (inp t)) <;>
        rw [hev] at hc
      case true =>
        obtain rfl := List.mem_singleton.mp hc
        trivial
      case false =>
        cases hcmt : Exu.cmtEna (run inp s t).exu (exuIn (run inp s t) (inp t)) <;> rw [hcmt] at hc
        case true =>
          obtain rfl := List.mem_singleton.mp hc
          exact hfrom t (Nat.lt_succ_self t) hcmt hev
        case false => cases hc

end
end Core

namespace CoreFetch
section
variable {prog : Ift2icb.Mem} {region : BitVec 32} {inp : ℕ → In} {s : State} {c : Csr.State} {t : ℕ}

theorem retired_from (h0 : IsReset s) (hprog : Programmed prog region inp s)
    (hord : Core.Orderly (run inp s t).base.core (coreInAt inp s t))
    (hcmt : Exu.cmtEna (run inp s t).base.core.exu
      (Core.exuIn (run inp s t).base.core (coreInAt inp s t)) = true)
    (hev : Exu.excpirqFlushReq (run inp s t).base.core.exu
      (Core.exuIn (run inp s t).base.core (coreInAt inp s t)) = false) :
    (Core.retired (run inp s t).base.core (coreInAt inp s t)).From prog := by
  have hsteady : Core.Steady (run inp s t).base.core := by
    rw [run_core]
    exact .run h0.1.1 t
  have hv : (run inp s t).base.core.ifu.irValidR = true :=
    ((Bool.and_eq_true _ _).mp (hsteady.iHsked_of_cmtEna hcmt)).1
  obtain ⟨ins, hins⟩ := Option.isSome_iff_exists.mp (hord.instr hcmt hev)
  obtain ⟨hlow, hhigh⟩ := word_in_program h0 hprog hv
  rw [Decode.decRv32_of_decode hins, decide_eq_true_iff] at hhigh
  exact ⟨hlow, hhigh⟩

/-- In an orderly run without a stale back-to-back mark a hart that fetches from the program accepts
what the core has done, and ends with the program counter of the architecture and the register file of
the core. -/
theorem executes_program (h0 : IsReset s) (hprog : Programmed prog region inp s)
    (hvec : ∀ t, (inp t).pcRtvec = (inp 0).pcRtvec)
    (hord : ∀ u < t, Core.Orderly (run inp s u).base.core (coreInAt inp s u))
    (hcsr : ∀ u < t, (inp u).mdvNob2b =
      Csr.mdvNob2b (Core.csrRun (coreInAt inp s) s.base.core c u))
    (hclean : ∀ u < t, ¬Core.StaleMark (run inp s u).base.core (coreInAt inp s u)) :
    (labels (Core.log (coreInAt inp s) s.base.core t)).foldlM (Isa.Hart.exec prog)
        ⟨Isa.evenPc (inp 0).pcRtvec, s.base.core.exu.rf⟩ =
      some ⟨Core.archPc (coreInAt inp s) s.base.core t, (run inp s t).base.core.exu.rf⟩ := by
  have hfrom : ∀ e ∈ labels (Core.log (coreInAt inp s) s.base.core t), e.1.From prog := by
    intro e he
    refine Core.log_from (fun u hu hcmt hev => ?_) e.1 (List.mem_map_of_mem he)
    rw [← run_core] at hcmt hev ⊢
    exact retired_from h0 hprog (hord u hu) hcmt hev
  simp only [run_core] at hord hclean ⊢
  have hlinked := Core.log_run_linked (fetchEnv h0 hprog hvec) hord hcsr hclean
  have hsim : Lib.InOrder.Sim s.base.core.exu.rf (Core.run (coreInAt inp s) s.base.core t).exu.rf
      (instrs (Core.log (coreInAt inp s) s.base.core t)) := (Core.log_run_sim h0.1.1 t).1
  refine Isa.Hart.run_exec ?_ hfrom
  rw [hsim.run]
  exact hlinked.run hsim.reads

end

/-! ## A loop -/

/-- `addi x1, x0, 1`, then `bne x1, x0, -4`. -/
def loop (a : BitVec 32) : BitVec 16 :=
  if a = 0x80000000#32 then 0x0093#16
  else if a = 0x80000002#32 then 0x0010#16
  else if a = 0x80000004#32 then 0x9ee3#16
  else if a = 0x80000006#32 then 0xfe00#16
  else 0x0000#16

/-- The reads that the ITCM answers. -/
def loopReads : ℕ → Option (BitVec 32)
  | 2 | 4 => some 0x80000000#32
  | 3 => some 0x80000004#32
  | _ => none

def looping (t : ℕ) : In :=
  { In.quiet with
    ifu2itcmIcbRspValid := (loopReads t).isSome
    ifu2itcmIcbRspRdata := Ift2icb.itcmLane loop ((loopReads t).getD 0#32) }

def loopState : State where
  base := CoreLsu.State.reset fun _ => 0#32
  adapter := Ifu.Sys.reset.adapter

theorem loopReads_cmd {t : ℕ} {b : BitVec 32} (hb : loopReads t = some b) :
    (ifu (run looping loopState t)).adapter.cmd = some b ∧
      Ift2icb.inItcm 0x80000000#32 b = true := by
  unfold loopReads at hb
  split at hb
  case h_4 => cases hb
  all_goals
    obtain rfl := Option.some.inj hb
    decide +kernel

theorem itcmAnswers_looping :
    ItcmAnswers (fun _ => loop) 0x80000000#32 looping loopState loopReads where
  regionEq _ := rfl
  itcm _ := rfl
  data t b hb := by
    change Ift2icb.itcmLane loop ((loopReads t).getD 0#32) = _
    rw [hb]
    rfl
  biu _ := rfl
  holdup _ := rfl
  cmd _ _ hb := loopReads_cmd hb
  keep := rfl

theorem programmed_looping : Programmed loop 0x80000000#32 looping loopState where
  bus := itcmAnswers_looping.bus
  mem := itcmAnswers_looping.memories

/-- The hart goes round the loop: the addition, the branch, and the addition again. -/
theorem executes_program_looping :
    (labels (Core.log (coreInAt looping loopState) loopState.base.core 6)).length = 3 ∧
      (labels (Core.log (coreInAt looping loopState) loopState.base.core 6)).foldlM
          (Isa.Hart.exec loop) ⟨0x80000000#32, loopState.base.core.exu.rf⟩ =
        some ⟨0x80000004#32, (run looping loopState 6).base.core.exu.rf⟩ := by
  have hord : ∀ u < 6, Core.Orderly (run looping loopState u).base.core (coreInAt looping loopState u) := by
    decide +kernel
  have hcsr : ∀ u < 6, (looping u).mdvNob2b = Csr.mdvNob2b
      (Core.csrRun (coreInAt looping loopState) loopState.base.core Csr.State.reset u) := by
    decide +kernel
  have hmark : ∀ u < 6, Ifetch.ifuMuldivB2bNxt (run looping loopState u).base.core.ifu
      (Core.ifuIn (run looping loopState u).base.core (coreInAt looping loopState u)) = false := by
    decide +kernel
  have hclean : ∀ u < 6, ¬Core.StaleMark (run looping loopState u).base.core
      (coreInAt looping loopState u) :=
    fun u hu hst => Bool.false_ne_true ((hmark u hu).symm.trans hst.mark)
  have h0 : IsReset loopState :=
    ⟨CoreLsu.State.isReset_reset _, ⟨rfl, rfl, rfl, rfl, rfl, rfl, rfl, rfl, rfl, rfl⟩, rfl, rfl, rfl⟩
  have hpc : Core.archPc (coreInAt looping loopState) loopState.base.core 6 = 0x80000004#32 := by
    decide +kernel
  have hrun := executes_program h0 programmed_looping (fun _ => rfl) hord hcsr hclean
  rw [hpc] at hrun
  exact ⟨by decide +kernel, hrun⟩

end CoreFetch
end E203
