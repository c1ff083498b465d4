import E203.Exec.Events
import E203.Fetch.Renewed
import E203.Lsu.Amo
import E203.Rtl.CoreFetch

/-! # Stores before a FENCE.I are seen by the fetches after it

* `Exu.fencei`: a FENCE.I that commits has nothing outstanding before it and flushes.
* `CoreLsu.Writes`: a write that waits for its response is that of the outstanding store, or the second
  access of an atomic operation that is still in the IR.
* `fencei_visible`: in every run, all stores before a FENCE.I are performed before it commits, and
  whatever goes into the IR from then on is read from then on.
-/

namespace E203
set_option autoImplicit false

namespace Exu
section
variable {s : State} {i : In}

def cmtFenceiEna (s : State) (i : In) : Bool :=
  Branchslv.cmtFenceiEna (branchslv s i) (aluCmtValid s i)

/-- An instruction of the branch group that is offered for commit is dispatched. -/
theorem iValid_of_bjp (hbjp : Alu.bjpOp (alu s i) = true) (hv : aluCmtValid s i = true) :
    (alu s i).iValid = true := by
  obtain ⟨hexcp, halu, hagu, hbjp', hcsr, hmdv⟩ := Alu.op_eq (alu s i)
  have hop : Alu.op (alu s i) = .bjp := of_decide_eq_true (hbjp'.symm.trans hbjp)
  rw [hop] at hexcp halu hagu hcsr hmdv
  have hov : Alu.oValid s.alu (alu s i) = true := by
    rw [aluCmtValid, Alu.cmtOValid, Bool.and_eq_true, Bool.and_eq_true] at hv
    exact hv.1.2
  simpa [Alu.oValid, hexcp, halu, hagu, hcsr, hmdv, hbjp] using hov

theorem oitfEmpty_of_fencei (hbjp : Alu.bjpOp (alu s i) = true)
    (hword : Decode.rv32FenceI i.iIr = true) (hd : (alu s i).iValid = true) :
    oitfEmpty s = true := by
  have hgrp : (Decode.decInfo (dec s i)).grp = GRP_BJP :=
    beq_iff_eq.mp ((Bool.and_eq_true _ _ ▸ hbjp).2)
  have hbit : (Decode.decInfo (dec s i)).getLsbD 16 = true := by
    rw [(Decode.decInfo_of_grp_bjp hgrp).2]
    exact (Decode.bus_getLsbD _ _ _ (k := 12) (by omega)).trans hword
  have hfence : Disp.dispFenceFencei (disp s i) = true := by
    change ((Decode.decInfo (dec s i)).grp == GRP_BJP &&
      (_ || (Decode.decInfo (dec s i)).getLsbD 16)) = true
    rw [hgrp, hbit, Bool.or_true]
    rfl
  have hcond : Disp.dispCondition (disp s i) = true := ((Bool.and_eq_true _ _).mp hd).1
  simp only [Disp.dispCondition, hfence, if_true, Bool.and_eq_true] at hcond
  exact hcond.1.1.1.2

theorem fencei (h : cmtFenceiEna s i = true) :
    Alu.bjpOp (alu s i) = true ∧ oitfEmpty s = true ∧ pipeFlushReq s i = true := by
  obtain ⟨hword, hhsked⟩ := (Bool.and_eq_true _ _).mp h
  have hreq : Branchslv.brchmisFlushReq (branchslv s i) (aluCmtValid s i) = true :=
    ((Bool.and_eq_true _ _).mp hhsked).1
  have hv : aluCmtValid s i = true :=
    ((Bool.and_eq_true _ _).mp ((Bool.and_eq_true _ _).mp hreq).1).1
  rw [(branchslv_flags (s := s) (i := i)).2.1, Bool.and_eq_true] at hword
  obtain ⟨hbjp, hfencei⟩ := hword
  exact ⟨hbjp, oitfEmpty_of_fencei hbjp hfencei (iValid_of_bjp hbjp hv),
    (Bool.or_eq_true _ _).mpr (.inr hreq)⟩

end
end Exu

/-! ## The write that waits for its response -/

namespace CoreLsu

/-- A write is accepted. -/
def storeHsked (s : State) (i : In) : Bool := cmdHsked s i && !(aguCmd s i).read

/-- A write that goes back to the address-generation unit is the second access of an atomic operation. -/
def Writes (s : State) : Prop :=
  s.lsu.spltVldR = true → s.lsu.spltDatR.usr.back2agu = true → s.lsu.spltDatR.usr.read = false →
    s.core.exu.alu.agu.icbStateR = .second

section
variable {s : State} {i : In}

theorem Writes.step (h : Writes s) (hsteady : Core.Steady s.core) (hok : LsuCtrl.Ok s.lsu) :
    Writes (step s i) := by
  intro hvld hback hread
  have hnext : ∀ hbusy : s.core.exu.alu.agu.icbStateR ≠ .idle,
      (CoreLsu.step s i).core.exu.alu.agu.icbStateR =
        Lsuagu.amoNext (exuIn s i).aguIcbRspValid (exuIn s i).aguIcbCmdReady
          s.core.exu.alu.agu.icbStateR := fun hbusy =>
    (hsteady.amoRun (coreIn s i) hbusy).step_icbStateR
  cases hcmd : cmdHsked s i
  · obtain ⟨hvld', hdat⟩ := lsu_of_no_cmd hcmd
    rw [hvld', Bool.and_eq_true, Bool.not_eq_true'] at hvld
    rw [hdat] at hback hread
    have hsta := h hvld.1 hback hread
    have hrsp : (exuIn s i).aguIcbRspValid = false :=
      (hok.hsked_iff hvld.1 hback rfl).symm.trans hvld.2
    rw [hnext (by simp [hsta]), hsta, hrsp]
    rfl
  · rw [(lsu_of_cmd hcmd).2, usr_of_cmd hcmd] at hback hread
    have hbusy : s.core.exu.alu.agu.icbStateR ≠ .idle := by
      intro hidle
      have hyes : Lsuagu.aguIcbCmdRead s.core.exu.alu.agu
          (Alu.agu s.core.exu.alu (Exu.alu s.core.exu (exuIn s i)))
          (Alu.dpathRes s.core.exu.alu (Exu.alu s.core.exu (exuIn s i))) = true := by
        rw [Lsuagu.aguIcbCmdRead, show Lsuagu.aguIAlgnamo _ _ _ = true from hback,
          Lsuagu.icbStaIsIdle, hidle]
        exact Bool.or_true _
      exact absurd (hread.symm.trans hyes) Bool.false_ne_true
    have hrun := hsteady.amoRun (coreIn s i) hbusy
    have hwait := (cmdHsked_eq hrun).symm.trans hcmd
    rw [Bool.and_eq_true] at hwait
    rw [hnext hbusy, hwait.2, of_decide_eq_true hwait.1]
    rfl

/-- With nothing outstanding and no atomic operation under way no write waits. -/
theorem no_write (h : Writes s) (hlinked : Linked s) (hempty : Exu.oitfEmpty s.core.exu = true)
    (hidle : s.core.exu.alu.agu.icbStateR = .idle) (hvld : s.lsu.spltVldR = true) :
    s.lsu.spltDatR.usr.read = true := by
  by_contra hread
  rw [Bool.not_eq_true] at hread
  cases hback : s.lsu.spltDatR.usr.back2agu
  · have hlongp : longp s = true := by rw [longp, hvld, hback]; rfl
    have hone : (!Exu.oitfEmpty s.core.exu && _) = true := (hlinked.one hlongp).1
    rw [hempty] at hone
    cases hone
  · exact absurd (hidle.symm.trans (h hvld hback hread)) (by simp)

end

section
variable {inp : ℕ → In} {s : State} {c t u : ℕ}

theorem Writes.run (h0 : IsReset s) (t : ℕ) : Writes (run inp s t) := by
  induction t with
  | zero =>
    intro hvld
    exact absurd (h0.2.splt.symm.trans hvld) Bool.false_ne_true
  | succ t ih => exact ih.step (steady_run h0 t) (lsuOk_run h0 t)

/-- A command is held until its response is taken. -/
theorem held_of_cmd (h0 : IsReset s) (hcmd : cmdHsked (run inp s u) (inp u) = true) (hut : u < t)
    (hno : ∀ x, u < x → x < t → rspHsked (run inp s x) (inp x) = false) :
    (run inp s t).lsu.spltVldR = true ∧
      (run inp s t).lsu.spltDatR.usr.read = (aguCmd (run inp s u) (inp u)).read := by
  induction t with
  | zero => exact absurd hut (Nat.not_lt_zero u)
  | succ t ih =>
    obtain rfl | hlt := Nat.eq_or_lt_of_le (Nat.lt_succ_iff.mp hut)
    · obtain ⟨hvld, hdat⟩ := lsu_of_cmd hcmd
      have husr : (run inp s (u + 1)).lsu.spltDatR.usr = _ :=
        (congrArg (·.usr) hdat).trans (usr_of_cmd hcmd)
      rw [husr]
      exact ⟨hvld, rfl⟩
    · obtain ⟨hvld, hread⟩ := ih hlt fun x hux hxt => hno x hux (by omega)
      have hrsp := hno t hlt (Nat.lt_succ_self t)
      obtain ⟨hvld', hdat⟩ := lsu_of_no_cmd (no_cmd_of_full (lsuOk_run h0 t) hvld hrsp)
      constructor
      · change (step (run inp s t) (inp t)).lsu.spltVldR = true
        rw [hvld', hvld, hrsp]
        rfl
      · change (step (run inp s t) (inp t)).lsu.spltDatR.usr.read = _
        rw [hdat, hread]

theorem exists_answered (hrsp : rspHsked (run inp s t) (inp t) = true) (hut : u < t) :
    ∃ w ≤ t, Answered inp s u w := by
  induction t using Nat.strong_induction_on with
  | _ t ih =>
    by_cases hfirst : ∃ x, u < x ∧ x < t ∧ rspHsked (run inp s x) (inp x) = true
    · obtain ⟨x, hux, hxt, hx⟩ := hfirst
      obtain ⟨w, hwx, hw⟩ := ih x hxt hx hux
      exact ⟨w, hwx.trans hxt.le, hw⟩
    · refine ⟨t, le_rfl, ⟨hut, hrsp, fun x hux hxt => ?_⟩⟩
      by_contra hx
      exact hfirst ⟨x, hux, hxt, Bool.not_eq_false _ ▸ hx⟩

/-- Every write before a FENCE.I is answered before it commits. -/
theorem answered_of_fencei (h0 : IsReset s)
    (hfence : Exu.cmtFenceiEna (run inp s c).core.exu (exuIn (run inp s c) (inp c)) = true)
    (huc : u < c) (hstore : storeHsked (run inp s u) (inp u) = true) :
    ∃ w < c, Answered inp s u w := by
  obtain ⟨hbjp, hempty, -⟩ := Exu.fencei hfence
  have hidle : (run inp s c).core.exu.alu.agu.icbStateR = .idle := by
    by_contra hbusy
    have hrun := (steady_run h0 c).amoRun (coreIn (run inp s c) (inp c)) hbusy
    exact absurd (hrun.ops.2.2.2.1.symm.trans hbjp) Bool.false_ne_true
  obtain ⟨hcmd, hread⟩ := (Bool.and_eq_true _ _).mp hstore
  rw [Bool.not_eq_true'] at hread
  by_cases hrsp : ∃ x, u < x ∧ x < c ∧ rspHsked (run inp s x) (inp x) = true
  · obtain ⟨x, hux, hxc, hx⟩ := hrsp
    obtain ⟨w, hwx, hw⟩ := exists_answered hx hux
    exact ⟨w, hwx.trans_lt hxc, hw⟩
  · obtain ⟨hvld, hheld⟩ := held_of_cmd h0 hcmd huc fun x hux hxc => by
      by_contra hx
      exact hrsp ⟨x, hux, hxc, Bool.not_eq_false _ ▸ hx⟩
    have hyes := no_write (Writes.run h0 c) (Linked.run h0 c) hempty hidle hvld
    exact absurd ((hread.symm.trans hheld.symm).trans hyes) Bool.false_ne_true

end
end CoreLsu

/-! ## The core with its fetch unit -/

namespace CoreFetch

section
variable (inp : ℕ → In) (s : State) (t : ℕ)

def fenceiAt : Bool := Exu.cmtFenceiEna (run inp s t).base.core.exu (exuIn (run inp s t) (inp t))

/-- A write of the load/store unit is accepted. -/
def storeAt : Bool := CoreLsu.storeHsked (run inp s t).base (baseInAt inp s t)

def irLoadAt : Bool :=
  Ifetch.irValidSet (run inp s t).base.core.ifu
    (Core.ifuIn (run inp s t).base.core (CoreLsu.coreIn (run inp s t).base (baseInAt inp s t)))

/-- The fetch stage after the cycle. -/
def ifetchNext : Ifetch.State := (run inp s (t + 1)).base.core.ifu

/-- The halfword at `a` was read from memory in a cycle since `c`. -/
def ReadSince (mem : ℕ → Ift2icb.Mem) (region : BitVec 32) (c : ℕ) (a : BitVec 32)
    (x : BitVec 16) : Prop :=
  Ifu.ReadSince mem region (ifuInAt inp s) (ifu s) c t a x

end

/-- The memories: what the fetch unit gets is what they hold, and a write that is accepted in cycle `u`
is performed in cycle `perf u`, before it is answered. -/
structure Memories (mem : ℕ → Ift2icb.Mem) (perf : ℕ → ℕ) (region : BitVec 32) (inp : ℕ → In)
    (s : State) : Prop where
  bus : ∀ t, Ifu.Bus region (ifuInAt inp s t) (Ifu.run (ifuInAt inp s) (ifu s) t)
  fetch : ∀ t, Ifu.Memories mem region (ifuInAt inp s) (ifu s) t
  store : ∀ u w, storeAt inp s u = true → CoreLsu.Answered (baseInAt inp s) s.base u w → perf u ≤ w

/-- All stores before a FENCE.I are performed before it commits, and every halfword of an instruction
that goes into the IR from then on is read from memory from then on, by a read that is accepted from
then on. -/
theorem fencei_visible {mem : ℕ → Ift2icb.Mem} {perf : ℕ → ℕ} {region : BitVec 32} {inp : ℕ → In}
    {s : State} {c : ℕ} (h0 : IsReset s) (hmem : Memories mem perf region inp s)
    (hfence : fenceiAt inp s c = true) :
    (∀ u < c, storeAt inp s u = true → perf u < c) ∧
      ∀ t, c ≤ t → irLoadAt inp s t = true →
        ReadSince inp s t mem region c (ifetchNext inp s t).ifuPcR
            ((ifetchNext inp s t).ifuIrR.extractLsb' 0 16) ∧
          (Decode.decRv32 (ifetchNext inp s t).ifuIrR = true →
            ReadSince inp s t mem region c ((ifetchNext inp s t).ifuPcR + 2#32)
              ((ifetchNext inp s t).ifuIrR.extractLsb' 16 16)) := by
  constructor
  · intro u huc hstore
    have hfence' := hfence
    rw [fenceiAt, exuIn, run_base] at hfence'
    have hstore' := hstore
    rw [storeAt, run_base] at hstore'
    obtain ⟨w, hwc, hw⟩ := CoreLsu.answered_of_fencei h0.1 hfence' huc hstore'
    exact (hmem.store u w hstore hw).trans_lt hwc
  · intro t hct hload
    have hflush : (ifuInAt inp s c).pipeFlushReq = true := by
      have hreq := (Exu.fencei hfence).2.2
      rw [exuIn_eq] at hreq
      exact hreq
    have hload' : Ifetch.irValidSet (Ifu.run (ifuInAt inp s) (ifu s) t).ifetch
        (Ifu.ifetchAt (ifuInAt inp s) (ifu s) t) = true := by
      rw [Ifu.ifetchAt, ← run_ifu]
      exact hload
    have hread := Ifu.readSince_of_flush h0.2 hmem.bus hmem.fetch hflush hct hload'
    rw [← run_ifu] at hread
    exact hread

/-! ## An ITCM that holds nothing up -/

/-- Only the reads `answers` of the ITCM are answered, with what the memory holds then. -/
structure ItcmAnswers (mem : ℕ → Ift2icb.Mem) (region : BitVec 32) (inp : ℕ → In) (s : State)
    (answers : ℕ → Option (BitVec 32)) : Prop where
  regionEq : ∀ t, (inp t).itcmRegionIndic = region
  itcm : ∀ t, (inp t).ifu2itcmIcbRspValid = (answers t).isSome
  data : ∀ t b, answers t = some b → (inp t).ifu2itcmIcbRspRdata = Ift2icb.itcmLane (mem t) b
  biu : ∀ t, (inp t).ifu2biuIcbRspValid = false
  holdup : ∀ t, (inp t).ifu2itcmHoldup = false
  cmd : ∀ t b, answers t = some b →
    (ifu (run inp s t)).adapter.cmd = some b ∧ Ift2icb.inItcm region b = true
  keep : s.adapter.keep = false

section
variable {mem : ℕ → Ift2icb.Mem} {region : BitVec 32} {inp : ℕ → In} {s : State}
  {answers : ℕ → Option (BitVec 32)}

theorem ItcmAnswers.bus (h : ItcmAnswers mem region inp s answers) (t : ℕ) :
    Ifu.Bus region (ifuInAt inp s t) (Ifu.run (ifuInAt inp s) (ifu s) t) := by
  refine ⟨h.regionEq t, fun hv => ?_, fun hv => absurd ((h.biu t).symm.trans hv) Bool.false_ne_true⟩
  obtain ⟨b, hb⟩ := Option.isSome_iff_exists.mp ((h.itcm t).symm.trans hv)
  rw [← run_ifu]
  exact ⟨b, h.cmd t b hb⟩

theorem ItcmAnswers.memories (h : ItcmAnswers mem region inp s answers) (t : ℕ) :
    Ifu.Memories mem region (ifuInAt inp s) (ifu s) t := by
  refine ⟨fun a hcmd hv => ?_, fun a hheld hup => ?_⟩
  · have hvalid : (answers t).isSome = true := by
      change ((inp t).ifu2itcmIcbRspValid || (inp t).ifu2biuIcbRspValid) = true at hv
      rw [h.itcm, h.biu, Bool.or_false] at hv
      exact hv
    obtain ⟨b, hb⟩ := Option.isSome_iff_exists.mp hvalid
    obtain ⟨hcmd', hin⟩ := h.cmd t b hb
    rw [← run_ifu] at hcmd
    obtain rfl : a = b := Option.some.inj (hcmd.symm.trans hcmd')
    refine ⟨t, le_rfl, fun r hr _ _ => hr.le, fun _ => h.data t a hb, fun hout => ?_⟩
    exact absurd (hin.symm.trans hout) (by simp)
  · exfalso
    obtain hup | hup := hup
    · exact Bool.false_ne_true ((h.holdup t).symm.trans hup)
    · cases t with
      | zero => exact Bool.false_ne_true (h.keep.symm.trans hup)
      | succ t =>
        have hold : (ifuInAt inp s t).ifu2itcmHoldup = true :=
          ((Bool.and_eq_true _ _).mp ((Bool.and_eq_true _ _).mp hup).1).1
        exact Bool.false_ne_true ((h.holdup t).symm.trans hold)

end

/-! ## A program that replaces its next instruction -/

/-- In the ITCM a store of `x4` to the word behind the FENCE.I, which follows the store; the word is
replaced in cycle 4. -/
def replaced (v : ℕ) (a : BitVec 32) : BitVec 16 :=
  if a = 0x80000000#32 then 0xA423#16
  else if a = 0x80000002#32 then 0x0040#16
  else if a = 0x80000004#32 then 0x100F#16
  else if a = 0x80000008#32 then if 5 ≤ v then 0x0093#16 else 0x0013#16
  else if a = 0x8000000A#32 then if 5 ≤ v then 0x0010#16 else 0x0000#16
  else 0x0000#16

def In.quiet : In where
  toBus := CoreLsu.In.quiet.toBus
  toFromCsr := Core.In.quiet.toFromCsr
  pcRtvec := 0x80000000#32
  coreCgstop := false
  itcmNohold := false
  itcmRegionIndic := 0x80000000#32
  ifu2itcmIcbCmdReady := true
  ifu2itcmIcbRspValid := false
  ifu2itcmIcbRspErr := false
  ifu2itcmIcbRspRdata := 0#64
  ifu2biuIcbCmdReady := true
  ifu2biuIcbRspValid := false
  ifu2biuIcbRspErr := false
  ifu2biuIcbRspRdata := 0#32
  ifu2itcmHoldup := false

/-- The read that the ITCM answers in a cycle. -/
def answers : ℕ → Option (BitVec 32)
  | 2 => some 0x80000000#32
  | 3 => some 0x80000004#32
  | 4 | 6 => some 0x80000008#32
  | _ => none

/-- The word behind the FENCE.I is read in cycle 4, before the store is performed, and in cycle 6. -/
def replacing (t : ℕ) : In :=
  { In.quiet with
    ifu2itcmIcbRspValid := (answers t).isSome
    ifu2itcmIcbRspRdata := Ift2icb.itcmLane (replaced t) ((answers t).getD 0#32)
    itcm := ⟨true, t == 4, false, 0#32⟩ }

def replacingState : State where
  base := CoreLsu.State.reset fun n => if n = 4#5 then 0x00100093#32 else 0x80000000#32
  adapter := Ifu.Sys.reset.adapter

theorem answers_cmd {t : ℕ} {b : BitVec 32} (hb : answers t = some b) :
    (ifu (run replacing replacingState t)).adapter.cmd = some b ∧
      Ift2icb.inItcm 0x80000000#32 b = true := by
  unfold answers at hb
  split at hb
  case h_5 => cases hb
  all_goals
    obtain rfl := Option.some.inj hb
    decide +kernel

theorem itcmAnswers_replacing :
    ItcmAnswers replaced 0x80000000#32 replacing replacingState answers where
  regionEq _ := rfl
  itcm _ := rfl
  data t b hb := by
    change Ift2icb.itcmLane (replaced t) ((answers t).getD 0#32) = _
    rw [hb]
    rfl
  biu _ := rfl
  holdup _ := rfl
  cmd _ _ hb := answers_cmd hb
  keep := rfl

theorem memories_replacing :
    Memories replaced (· + 1) 0x80000000#32 replacing replacingState where
  bus := itcmAnswers_replacing.bus
  fetch := itcmAnswers_replacing.memories
  store _ _ _ hw := hw.lt

/-- The new word goes into the IR, not the one that was read before the FENCE.I. -/
theorem fencei_visible_replacing :
    storeAt replacing replacingState 3 = true ∧ fenceiAt replacing replacingState 5 = true ∧
      (Ift2icb.ifuRspInstr (run replacing replacingState 4).adapter.ift
          (Ifu.ift2icbIn (ifu (run replacing replacingState 4)).regs
            (ifuInAt replacing replacingState 4)) = 0x00000013#32) ∧
      (ifetchNext replacing replacingState 6).ifuIrR = 0x00100093#32 ∧
      3 + 1 < 5 ∧ ReadSince replacing replacingState 6 replaced 0x80000000#32 5
        (ifetchNext replacing replacingState 6).ifuPcR
        ((ifetchNext replacing replacingState 6).ifuIrR.extractLsb' 0 16) := by
  have hvisible := fencei_visible (c := 5) (s := replacingState)
    ⟨CoreLsu.State.isReset_reset _, ⟨rfl, rfl, rfl, rfl, rfl, rfl, rfl, rfl, rfl, rfl⟩, rfl, rfl, rfl⟩
    memories_replacing (by decide +kernel)
  refine ⟨by decide +kernel, by decide +kernel, by decide +kernel, by decide +kernel,
    hvisible.1 3 (by decide) (by decide +kernel), ?_⟩
  exact (hvisible.2 6 (by decide) (by decide +kernel)).1

end CoreFetch
end E203
