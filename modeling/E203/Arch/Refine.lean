import E203.Arch.Access
import E203.Isa.Hart
import E203.Lib.Follow

/-! # The core is a hart

* `Core.log`: the instructions that retire and the handlers that are entered, in program order, as the
  signals of the core show them; a load or store gets its result when the load/store unit answers.
* `Core.Retires.fits`, `Core.fits_enter`: the hart does with an entry what the core did.
* `Core.refines_hart`: the hart accepts the log of an orderly run, and ends with the program counter of the
  architecture and the register file of the core.
-/

namespace E203
set_option autoImplicit false

open Lib.InOrder

namespace Core

/-- An entry of the log. -/
abbrev Entry := Lib.InOrder.Entry Isa.Cause (BitVec 5) (BitVec 32)

section
variable (s : State) (i : In)

/-- The instruction in the IR, as it retires. -/
def retired : Isa.Retired where
  pc := s.ifu.ifuPcR
  word := s.ifu.ifuIrR
  mepc := i.csrEpcR
  dpc := s.exu.dbg.dpcR
  access := Exu.access s.exu (exuIn s i)

/-- What a cycle adds at the end of the log: a handler that is entered, with the instruction in error
if there is one, or an instruction that retires. -/
def added : List Entry :=
  if Exu.excpirqFlushReq s.exu (exuIn s i) then
    [⟨.enter (Isa.evenPc (Exu.pipeFlushPc s.exu (exuIn s i))),
      if Exu.cmtEna s.exu (exuIn s i) then Exu.committed s.exu (exuIn s i) else ⟨[], none, .nothing⟩⟩]
  else if Exu.cmtEna s.exu (exuIn s i) then
    [⟨.retire (retired s i), Exu.committed s.exu (exuIn s i)⟩]
  else []

def logStep (log : List Entry) : List Entry :=
  (if Exu.oitfRetEna s.exu (exuIn s i) then finish (Exu.lsuResult (exuIn s i)) log else log) ++
    added s i

end

/-- What the core has done before cycle `t`, in program order. -/
def log (inp : ℕ → In) (s : State) : ℕ → List Entry
  | 0 => []
  | t + 1 => logStep (run inp s t) (inp t) (log inp s t)

/-! ## One entry -/

section
variable {s : State} {i : In} {ins : Isa.Instr} {ρ : BitVec 5 → BitVec 32} {pc : BitVec 32}

/-- The unit answers a multiplication or division with its result. -/
def MuldivOk (s : State) (i : In) : Prop :=
  ∀ op, Decode.isMulDiv op s.ifu.ifuIrR = true →
    Alu.oNeedWbck s.exu.alu (Exu.alu s.exu (exuIn s i)) = Decode.decRdwen s.ifu.ifuIrR ∧
      Alu.wbckOWdat s.exu.alu (Exu.alu s.exu (exuIn s i)) =
        rv32m op (rs1 s s.ifu.ifuIrR) (rs2 s s.ifu.ifuIrR)

/-- What the instruction computes is written with the commit. -/
theorem Retires.value (h : Retires s i ins) (hmd : MuldivOk s i) (hd : ins.rd ≠ 0#5)
    {v : BitVec 32}
    (hv : ins.computes s.ifu.ifuPcR (Isa.length s.ifu.ifuIrR) s.exu.rf.rfR = some v) :
    (Exu.committed s.exu (exuIn s i)).result = .value v := by
  have hboth : Alu.oNeedWbck s.exu.alu (Exu.alu s.exu (exuIn s i)) = true ∧
      Alu.wbckOWdat s.exu.alu (Exu.alu s.exu (exuIn s i)) = v := by
    cases ins
    case op | opImm | lui | auipc | jal | jalr => exact (h.intAt rfl).wbck hd hv
    case mulDiv op dst r1 r2 =>
      have hop := Decode.isMulDiv_of_decode h.word
      obtain ⟨hneed, hdat⟩ := hmd op hop
      obtain ⟨-, -, -, -, hr1, hr2⟩ := Isa.mulDiv_fields h.word
      have hlen := (Decode.muldivOp_regs (Decode.isMulDiv_iff.mp hop).1).1
      have hidx : Decode.decRs1idx s.ifu.ifuIrR = r1 ∧ Decode.decRs2idx s.ifu.ifuIrR = r2 := by
        rw [Decode.decRs1idx, Decode.decRs2idx, if_pos hlen, if_pos hlen]
        exact ⟨hr1, hr2⟩
      have hwen : Decode.decRdwen s.ifu.ifuIrR = true := by
        rw [h.regs.rdwen, beq_false_of_ne hd]
        rfl
      rw [rs1, rs2, hidx.1, hidx.2] at hdat
      exact ⟨hneed.trans hwen, hdat.trans (Option.some.inj hv)⟩
    all_goals cases hv
  have hena : Exu.oitfEna s.exu (exuIn s i) = false := by
    cases hena : Exu.oitfEna s.exu (exuIn s i)
    · rfl
    · exact absurd ((Exu.oNeedWbck_of_oitfEna hena).symm.trans hboth.1) Bool.false_ne_true
  simp only [Exu.committed, hena, hboth, Bool.false_eq_true, if_false, if_true]

theorem Retires.dest (h : Retires s i ins) :
    (Exu.committed s.exu (exuIn s i)).dest = if ins.rd = 0#5 then none else some ins.rd := by
  have hwen : Decode.decRdwen (exuIn s i).iIr = !(ins.rd == 0#5) := h.regs.rdwen
  have hidx : ins.rd ≠ 0#5 → Decode.decRdidx (exuIn s i).iIr = ins.rd := h.regs.rdidx
  change (if Decode.decRdwen (exuIn s i).iIr then some (Decode.decRdidx (exuIn s i).iIr) else none) = _
  rw [hwen]
  by_cases hd : ins.rd = 0#5
  · rw [hd]
    rfl
  · rw [if_neg hd, beq_false_of_ne hd, hidx hd]
    rfl

/-- The core writes the registers as the hart does. -/
theorem Retires.exec (h : Retires s i ins) (hmd : MuldivOk s i) {r : Result (BitVec 32)}
    (hr : (Exu.committed s.exu (exuIn s i)).MayGet r) :
    Instr.exec ρ { Exu.committed s.exu (exuIn s i) with result := r } =
      Isa.write ρ ins.rd
        ((ins.computes s.ifu.ifuPcR (Isa.length s.ifu.ifuIrR) s.exu.rf.rfR).or r.toOption) := by
  have hdest := h.dest
  by_cases hd : ins.rd = 0#5
  · have hx : ∀ v, Isa.write ρ ins.rd v = ρ := by
      intro v
      rw [hd]
      cases v <;> rfl
    rw [if_pos hd] at hdest
    rw [hx, Instr.exec, hdest]
  · rw [if_neg hd] at hdest
    rw [Instr.exec, hdest]
    cases hv : ins.computes s.ifu.ifuPcR (Isa.length s.ifu.ifuIrR) s.exu.rf.rfR
    case none =>
      cases r
      case value v => exact (if_neg hd).symm
      all_goals rfl
    case some v =>
      have hval := h.value hmd hd hv
      obtain rfl : r = .value v := (hr fun hno => by rw [hval] at hno; cases hno).trans hval
      exact (if_neg hd).symm

/-- The hart takes the instruction as the core does. -/
theorem Retires.fits (h : Retires s i ins) (hmd : MuldivOk s i) (hpc : s.ifu.ifuPcR = pc)
    (hev : Exu.excpirqFlushReq s.exu (exuIn s i) = false) :
    (Entry.mk (.retire (retired s i)) (Exu.committed s.exu (exuIn s i))).Fits Isa.Hart.mk
      Isa.Hart.step pc (nextArchPc s i pc) := by
  intro r hr ρ hρ
  subst hpc
  have hsrc := h.reads hρ
  have hnext : nextArchPc s i s.ifu.ifuPcR = ins.nextPc (Isa.length s.ifu.ifuIrR)
      ⟨s.ifu.ifuPcR, s.exu.rf.rfR, i.csrEpcR, s.exu.dbg.dpcR⟩ := by
    rw [Exu.excpirqFlushReq_eq, Bool.or_eq_false_iff] at hev
    rw [nextArchPc, hev.1, hev.2, h.cmt, h.word]
    rfl
  rw [hnext, h.exec hmd hr, ← Isa.Instr.nextPc_congr hsrc, ← Isa.Instr.computes_congr hsrc]
  change (Isa.decode s.ifu.ifuIrR).bind _ = _
  rw [h.word]
  refine if_pos ⟨rfl, ?_⟩
  change Exu.access s.exu (exuIn s i) = _
  rw [h.access, Isa.Instr.access_congr hsrc]

/-- An instruction in error does nothing. -/
theorem committed_of_flush (h : Steady s) (hev : Exu.excpirqFlushReq s.exu (exuIn s i) = true)
    (hcmt : Exu.cmtEna s.exu (exuIn s i) = true) :
    (Exu.committed s.exu (exuIn s i)).result = .nothing := by
  have hready : Exu.aluCmtReady s.exu (exuIn s i) = true := ((Bool.and_eq_true _ _).mp hcmt).2
  have hno := Exu.oNeedWbck_of_error ((Exu.error_of_flush hready hev).imp_left And.right)
  simp only [Exu.committed, h.oitfEna_of_flush hev, hno, Bool.false_eq_true, if_false]

/-- The hart goes to the handler. -/
theorem fits_enter (h : Steady s) (hev : Exu.excpirqFlushReq s.exu (exuIn s i) = true)
    {q : Lib.InOrder.Instr (BitVec 5) (BitVec 32)}
    (hq : q = if Exu.cmtEna s.exu (exuIn s i) then Exu.committed s.exu (exuIn s i)
      else ⟨[], none, .nothing⟩) :
    (Entry.mk (.enter (Isa.evenPc (Exu.pipeFlushPc s.exu (exuIn s i)))) q).Fits Isa.Hart.mk
      Isa.Hart.step pc (nextArchPc s i pc) := by
  have hres : q.result = .nothing := by
    rw [hq]
    split_ifs with hcmt
    · exact committed_of_flush h hev hcmt
    · rfl
  intro r hr ρ _
  obtain rfl : r = .nothing := (hr fun hno => by rw [hres] at hno; cases hno).trans hres
  have hexec : Instr.exec ρ { q with result := .nothing } = ρ := by
    rw [Instr.exec]
    cases q.dest <;> rfl
  have hnext : nextArchPc s i pc = Isa.evenPc (Exu.pipeFlushPc s.exu (exuIn s i)) := by
    rw [Exu.flushPc_of_event hev, nextArchPc]
    rw [Exu.excpirqFlushReq_eq] at hev
    cases hdbg : Exu.dbgEntryTaken s.exu (exuIn s i)
    · rw [hdbg, Bool.or_false] at hev
      rw [hev]
      rfl
    · rfl
  change some (Isa.Hart.mk _ ρ) = some (Isa.Hart.mk _ (Instr.exec ρ { q with result := .nothing }))
  rw [hexec, hnext]

end

/-! ## The log -/

section
variable {s : State} {i : In} {l : List Entry} {ρ₀ : BitVec 5 → BitVec 32} {pc₀ pc : BitVec 32}

/-- The log agrees with the register file and with the FIFO. -/
theorem log_sim (hsteady : Steady s)
    (hidx : s.ifu.irValidR = true → Exu.Indexed (exuIn s i)) (hsim : Sim ρ₀ s.exu.rf (instrs l))
    (hpend : pending (instrs l) = Oitf.queue s.exu.oitf) :
    Sim ρ₀ (step s i).exu.rf (instrs (logStep s i l)) ∧
      pending (instrs (logStep s i l)) = Oitf.queue (step s i).exu.oitf := by
  obtain ⟨hsim', hpend'⟩ := Exu.historyStep_sim (i := exuIn s i) hsteady.oitf hidx
    hsteady.dispatched_of_cmtEna hsteady.cmtEna_of_oitfEna hsim hpend
  have hold : instrs (if Exu.oitfRetEna s.exu (exuIn s i) then
      finish (Exu.lsuResult (exuIn s i)) l else l) =
      if Exu.oitfRetEna s.exu (exuIn s i) then
        complete (Exu.lsuResult (exuIn s i)) (instrs l) else instrs l := by
    split_ifs
    · exact instrs_finish
    · rfl
  have hsplit : instrs (logStep s i l) =
      Exu.historyStep s.exu (exuIn s i) (instrs l) ++
        if Exu.excpirqFlushReq s.exu (exuIn s i) && !Exu.cmtEna s.exu (exuIn s i) then
          [⟨[], none, .nothing⟩] else [] := by
    rw [logStep, instrs_append, hold, Exu.historyStep, List.append_assoc, added]
    cases Exu.excpirqFlushReq s.exu (exuIn s i) <;> cases Exu.cmtEna s.exu (exuIn s i) <;> rfl
  rw [hsplit]
  split_ifs
  · refine ⟨hsim'.idle, ?_⟩
    rw [pending_append fun hno => by cases hno]
    exact hpend'
  · rw [List.append_nil]
    exact ⟨hsim', hpend'⟩

theorem lsuResult_ne {x : Exu.In} : Exu.lsuResult x ≠ .outstanding := by
  unfold Exu.lsuResult
  split_ifs <;> exact fun hno => by cases hno

/-- The hart follows what a cycle adds. -/
theorem log_linked (hsteady : Steady s) (hidx : s.ifu.irValidR = true → Exu.Indexed (exuIn s i))
    (hlink : Linked Isa.Hart.mk Isa.Hart.step pc₀ l pc)
    (hpc : Exu.cmtEna s.exu (exuIn s i) = true → s.ifu.ifuPcR = pc)
    (hins : Exu.cmtEna s.exu (exuIn s i) = true → Exu.excpirqFlushReq s.exu (exuIn s i) = false →
      ∃ ins, Isa.decode s.ifu.ifuIrR = some ins)
    (hmd : Exu.cmtEna s.exu (exuIn s i) = true → Exu.excpirqFlushReq s.exu (exuIn s i) = false →
      MuldivOk s i) :
    Linked Isa.Hart.mk Isa.Hart.step pc₀ (logStep s i l) (nextArchPc s i pc) := by
  have hold : Linked Isa.Hart.mk Isa.Hart.step pc₀ (if Exu.oitfRetEna s.exu (exuIn s i) then
      finish (Exu.lsuResult (exuIn s i)) l else l) pc := by
    split_ifs
    · exact hlink.finish lsuResult_ne
    · exact hlink
  rw [logStep, added]
  cases hev : Exu.excpirqFlushReq s.exu (exuIn s i)
  case true => exact hold.append (fits_enter hsteady hev rfl)
  case false =>
    cases hcmt : Exu.cmtEna s.exu (exuIn s i)
    case true =>
      obtain ⟨ins, hword⟩ := hins hcmt hev
      have hv : s.ifu.irValidR = true := ((Bool.and_eq_true _ _).mp (hsteady.iHsked_of_cmtEna hcmt)).1
      have h : Retires s i ins := ⟨hword, hcmt, hev, hsteady, hidx hv⟩
      exact hold.append (h.fits (hmd hcmt hev) (hpc hcmt) hev)
    case false =>
      have hstay : nextArchPc s i pc = pc := by
        have hno := hev
        rw [Exu.excpirqFlushReq_eq, Bool.or_eq_false_iff] at hno
        rw [nextArchPc, hno.1, hno.2, hcmt]
        rfl
      rw [hstay]
      simpa using hold

end

/-! ## Whole runs -/

section
variable {inp : ℕ → In} {s : State} {c : Csr.State} {t : ℕ}

theorem log_run_sim (h0 : IsReset s) (t : ℕ) :
    Sim s.exu.rf (run inp s t).exu.rf (instrs (log inp s t)) ∧
      pending (instrs (log inp s t)) = Oitf.queue (run inp s t).exu.oitf := by
  induction t with
  | zero =>
    refine ⟨.init, ?_⟩
    change [] = Oitf.queue s.exu.oitf
    have hempty : Oitf.oitfEmpty s.exu.oitf = true := h0.2.oitfEmpty
    rw [Oitf.queue_eq, hempty, if_pos rfl]
  | succ t ih => exact log_sim (Steady.run h0 t) (indexed h0 t) ih.1 ih.2

theorem log_run_linked (henv : FetchEnv inp s)
    (hord : ∀ u < t, Orderly (run inp s u) (inp u))
    (hcsr : ∀ u < t, (inp u).mdvNob2b = Csr.mdvNob2b (csrRun inp s c u))
    (hclean : ∀ u < t, ¬StaleMark (run inp s u) (inp u)) :
    Linked Isa.Hart.mk Isa.Hart.step (Isa.evenPc (inp 0).pcRtvec) (log inp s t) (archPc inp s t) := by
  induction t with
  | zero => rfl
  | succ t ih =>
    have hprev := ih (fun u hu => hord u (by omega)) (fun u hu => hcsr u (by omega)) fun u hu =>
      hclean u (by omega)
    have hsteady : Steady (run inp s t) := Steady.run henv.reset t
    have hfol : Follows inp s t := follows_run henv (.of_orderly henv fun u hu => hord u (by omega))
    refine log_linked hsteady (indexed henv.reset t) hprev (fun hcmt => ?_) (fun hcmt hev => ?_)
      fun hcmt hev op hop => ?_
    · exact hfol.archPc_eq henv ((Bool.and_eq_true _ _).mp (hsteady.iHsked_of_cmtEna hcmt)).1
    · exact Option.isSome_iff_exists.mp ((hord t (Nat.lt_succ_self t)).instr hcmt hev)
    · have hflush : Exu.pipeFlushReq (run inp s t).exu (exuIn (run inp s t) (inp t)) = false :=
        Exu.pipeFlushReq_of_not_transfers (Decode.transfers_of_isMulDiv hop) hev
      exact wdat_of_muldiv henv.reset (fun u hu => hcsr u (by omega)) (fun u hu => hclean u (by omega))
        hop hcmt hflush

end

end Core
end E203
