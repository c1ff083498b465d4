import E203.Exec.InOrder
import E203.Lsu.Ctrl

/-! # The outstanding command and the outstanding instruction

* `CoreLsu.cmdHsked_iff`: the command of a load or store is accepted when its instruction is allocated.
* `CoreLsu.Linked`: the load/store unit holds the command of the only outstanding instruction, under
  its tag, or nothing is outstanding.
* `CoreLsu.retEna_eq`: the response retires that instruction.
-/

namespace E203.CoreLsu
set_option autoImplicit false

/-- The unit holds a command whose response goes to the long-pipe write-back. -/
def longp (s : State) : Bool := s.lsu.spltVldR && !s.lsu.spltDatR.usr.back2agu

/-- One outstanding instruction for one such command. -/
structure Linked (s : State) : Prop where
  none : longp s = false → Exu.oitfEmpty s.core.exu = true
  one : longp s = true →
    Oitf.single s.core.exu.oitf = true ∧ s.lsu.spltDatR.usr.itag = s.core.exu.oitf.retPtrR

section
variable {s : State} {i : In}

theorem aguCmd_valid : (aguCmd s i).valid = Exu.aguIcbCmdValid s.core.exu (exuIn s i) := rfl

/-- The clock of the unit runs while it has or gets a command. -/
theorem lsuClkEn_of_cmd (hcmd : cmdHsked s i = true) : lsuClkEn s i = true := by
  have hv : (aguCmd s i).valid = true := ((Bool.and_eq_true _ _).mp hcmd).1
  simp [lsuClkEn, lsuActive, LsuCtrl.lsuCtrlActive, hv]

theorem empty_of_gated (hoff : lsuClkEn s i = false) : s.lsu.spltVldR = false := by
  simp only [lsuClkEn, lsuActive, LsuCtrl.lsuCtrlActive, Bool.or_eq_false_iff] at hoff
  exact hoff.2.1.2

theorem step_lsu (hon : lsuClkEn s i = true) : (step s i).lsu =
    LsuCtrl.step s.lsu (lsuIn s i) (aguCmd s i) (Exu.commitTrap s.core.exu (exuIn s i))
      (Exu.commitMret s.core.exu (exuIn s i)) := by
  rw [step, if_pos hon]

theorem step_lsu_gated (hoff : lsuClkEn s i = false) : (step s i).lsu = s.lsu := by
  rw [step, if_neg (by rw [hoff]; exact Bool.false_ne_true)]

/-- What the load/store unit holds after a cycle without a command. -/
theorem lsu_of_no_cmd (hno : cmdHsked s i = false) :
    (step s i).lsu.spltVldR = (s.lsu.spltVldR && !rspHsked s i) ∧
      (step s i).lsu.spltDatR = s.lsu.spltDatR := by
  cases hclk : lsuClkEn s i
  · rw [step_lsu_gated hclk, empty_of_gated hclk]
    exact ⟨rfl, rfl⟩
  · rw [step_lsu hclk]
    apply LsuCtrl.step_keep
    rw [LsuCtrl.spltFifoWen_eq]
    exact hno

theorem lsu_of_cmd (hcmd : cmdHsked s i = true) :
    (step s i).lsu.spltVldR = true ∧
      (step s i).lsu.spltDatR = LsuCtrl.spltFifoWdat s.lsu (aguCmd s i) := by
  rw [step_lsu (lsuClkEn_of_cmd hcmd)]
  apply LsuCtrl.step_accept
  rw [LsuCtrl.spltFifoWen_eq]
  exact hcmd

theorem usr_of_cmd (hcmd : cmdHsked s i = true) :
    (LsuCtrl.spltFifoWdat s.lsu (aguCmd s i)).usr =
      ⟨(aguCmd s i).back2agu, (aguCmd s i).usign, (aguCmd s i).read, (aguCmd s i).size,
        (aguCmd s i).itag, (aguCmd s i).addr, (aguCmd s i).excl⟩ := by
  change LsuCtrl.arbtIcbCmdUsr (aguCmd s i) = _
  rw [LsuCtrl.arbtIcbCmdUsr, if_pos ((Bool.and_eq_true _ _).mp hcmd).1]

/-- A command is accepted only when there is room. -/
theorem no_cmd_of_full (hok : LsuCtrl.Ok s.lsu) (hv : s.lsu.spltVldR = true)
    (hrsp : rspHsked s i = false) : cmdHsked s i = false := by
  have hrsp' : LsuCtrl.arbtIcbRspHsked s.lsu (lsuIn s i) = false := hrsp
  rw [cmdHsked, hok.aguIcbCmdReady_eq, hv, hrsp']
  simp

/-! ## The command of a load or store -/

/-- It is not the command of an atomic operation, and its word is that of a load or a store. -/
theorem ldst_of_cmd (h : Core.Steady s.core) (hcmd : cmdHsked s i = true)
    (hback : (aguCmd s i).back2agu = false) :
    s.core.exu.alu.agu.icbStateR = .idle ∧ Alu.aguOp (Exu.alu s.core.exu (exuIn s i)) = true ∧
      (Decode.isLoad s.core.ifu.ifuIrR || Decode.isStore s.core.ifu.ifuIrR) = true := by
  have hvalid : Exu.aguIcbCmdValid s.core.exu (exuIn s i) = true :=
    ((Bool.and_eq_true _ _).mp hcmd).1
  have hno : Lsuagu.aguIAlgnamo s.core.exu.alu.agu
      (Alu.agu s.core.exu.alu (Exu.alu s.core.exu (exuIn s i)))
      (Alu.dpathRes s.core.exu.alu (Exu.alu s.core.exu (exuIn s i))) = false := hback
  rw [Exu.aguIcbCmdValid, Alu.aguIcbCmdValid, Lsuagu.aguIcbCmdValid, hno, Bool.false_and,
    Bool.or_false, Bool.and_eq_true, Bool.and_eq_true, Bool.and_eq_true] at hvalid
  obtain ⟨⟨hldst, -⟩, hagu, -⟩ := hvalid
  refine ⟨?_, hagu, ?_⟩
  · by_contra hbusy
    have hrun := h.amoRun (coreIn s i) hbusy
    exact absurd ((hrun.agu _).2.1.symm.trans hldst) Bool.false_ne_true
  · obtain ⟨hld, hst, -⟩ := Exu.agu_kind hagu
    rw [Lsuagu.aguIAlgnldst, hld, hst] at hldst
    have hor : (Decode.isLoad (exuIn s i).iIr || Decode.isStore (exuIn s i).iIr) = true := by
      rw [← Bool.and_or_distrib_left, Bool.and_eq_true, ← Bool.and_or_distrib_right,
        Bool.and_eq_true] at hldst
      exact hldst.2.1
    exact hor

theorem cmd_of_oitfEna (h : Core.Steady s.core)
    (hena : Exu.oitfEna s.core.exu (exuIn s i) = true) :
    cmdHsked s i = true ∧ (aguCmd s i).back2agu = false := by
  obtain ⟨-, hagu, hlong⟩ := Exu.oitfEna_disReady hena
  have hidle : s.core.exu.alu.agu.icbStateR = .idle := by
    by_contra hbusy
    have hrun := h.amoRun (coreIn s i) hbusy
    exact absurd (hrun.oitfEna_eq.symm.trans hena) Bool.false_ne_true
  obtain ⟨hld, hst, hamo⟩ := Exu.agu_kind hagu
  rw [Lsuagu.aguILongpipe, Lsuagu.aguIAlgnldst, hld, hst, ← Bool.and_or_distrib_left,
    ← Bool.and_or_distrib_right, Bool.and_eq_true, Bool.and_eq_true] at hlong
  constructor
  · exact (Exu.aguIcbCmdHsked_iff (i := exuIn s i) hidle hlong.2.1).mpr ⟨h.cmtEna_of_oitfEna hena, hena⟩
  · change Lsuagu.aguIAlgnamo _ _ _ = false
    have hnoamo : Decode.isAmo (exuIn s i).iIr = false := by
      cases hw : Decode.isAmo (exuIn s i).iIr
      · rfl
      · obtain ⟨hno, hno', -⟩ := Decode.isAmo_exclusive hw
        have hor := hlong.2.1
        rw [hno, hno'] at hor
        cases hor
    rw [Lsuagu.aguIAlgnamo, hamo, hnoamo, Bool.false_and, Bool.and_false]

/-- The command of a load or store is accepted in the cycle in which the instruction is allocated. -/
theorem cmdHsked_iff (h : Core.Steady s.core) :
    cmdHsked s i = true ∧ (aguCmd s i).back2agu = false ↔
      Exu.oitfEna s.core.exu (exuIn s i) = true := by
  constructor
  · rintro ⟨hcmd, hback⟩
    obtain ⟨hidle, -, hword⟩ := ldst_of_cmd h hcmd hback
    exact ((Exu.aguIcbCmdHsked_iff (i := exuIn s i) hidle hword).mp hcmd).2
  · exact cmd_of_oitfEna h

/-! ## The response -/

theorem Linked.retEna_eq (h : Linked s) (hok : LsuCtrl.Ok s.lsu) :
    Exu.oitfRetEna s.core.exu (exuIn s i) = (longp s && rspHsked s i) := by
  cases hl : longp s
  · exact (Exu.noLongp (h.none hl)).2.2
  · obtain ⟨hone, htag⟩ := h.one hl
    obtain ⟨hv, hback⟩ := (Bool.and_eq_true _ _).mp hl
    rw [Bool.not_eq_true'] at hback
    have husr : LsuCtrl.preAguIcbRspUsr s.lsu = s.lsu.spltDatR.usr := by
      rw [LsuCtrl.preAguIcbRspUsr, LsuCtrl.spltRdat, if_pos hv]
    have hready : ∀ j, Longpwbck.wbckReady4lsu (Exu.longpwbck s.core.exu (Core.exuIn s.core (coreInOf s i j)))
        = true := by
      intro j
      have hne' : Oitf.oitfEmpty s.core.exu.oitf = false := by
        simpa using ((Bool.and_eq_true _ _).mp hone).1
      have hne : Exu.oitfEmpty s.core.exu = false := hne'
      have hitag : LsuCtrl.lsuOWbckItag s.lsu = Oitf.retPtr s.core.exu.oitf := by
        rw [LsuCtrl.lsuOWbckItag, husr]
        exact htag
      change (LsuCtrl.lsuOWbckItag s.lsu == Oitf.retPtr s.core.exu.oitf &&
        !Exu.oitfEmpty s.core.exu) = true
      rw [hitag, hne]
      simp
    have hwready : ∀ j, Longpwbck.wbckIReady (Exu.longpwbck s.core.exu (Core.exuIn s.core (coreInOf s i j)))
        Wbck.longpWbckIReady Exu.longpExcpOReady = true := by
      intro j
      have h1 : Wbck.longpWbckIReady = true := rfl
      have h2 : Exu.longpExcpOReady = true := rfl
      simp [Longpwbck.wbckIReady, h1, h2]
    have hval : Exu.oitfRetEna s.core.exu (exuIn s i) = LsuCtrl.lsuOValid s.lsu i.toBus := by
      have hin : (Exu.longpwbck s.core.exu (exuIn s i)).lsuWbckIValid =
          LsuCtrl.lsuOValid s.lsu i.toBus := rfl
      have hr := hready (LsuCtrl.aguIcbCmdReady s.lsu (lsuIn s i))
      have hw := hwready (LsuCtrl.aguIcbCmdReady s.lsu (lsuIn s i))
      have hin' : exuIn s i =
        Core.exuIn s.core (coreInOf s i (LsuCtrl.aguIcbCmdReady s.lsu (lsuIn s i))) := rfl
      rw [Exu.oitfRetEna, Longpwbck.oitfRetEna, Longpwbck.wbckIValid, Longpwbck.wbckSelLsu, hin, hin',
        hr, hw]
      simp
    have hlsu : (lsuIn s i).lsuOReady = true := by
      change Longpwbck.lsuWbckIReady _ _ _ = true
      rw [Longpwbck.lsuWbckIReady]
      have hr := hready false
      have hw := hwready false
      exact (Bool.and_eq_true _ _).mpr ⟨hr, hw⟩
    have hrsp : rspHsked s i = LsuCtrl.arbtIcbRspValid s.lsu i.toBus := by
      rw [rspHsked, LsuCtrl.arbtIcbRspHsked, hok.rspReady_eq hv, LsuCtrl.preAguIcbRspReady, husr,
        hback, if_neg Bool.false_ne_true, hlsu, Bool.and_true]
      rfl
    rw [hval, hrsp, LsuCtrl.lsuOValid, hok.preValid_eq, husr, hback]
    simp

theorem step_oitf : (step s i).core.exu.oitf =
    Oitf.step s.core.exu.oitf (Exu.oitfDisp (exuIn s i)) (Exu.oitfEna s.core.exu (exuIn s i))
      (Exu.oitfRetEna s.core.exu (exuIn s i)) := rfl

theorem aguCmd_itag (hagu : Alu.aguOp (Exu.alu s.core.exu (exuIn s i)) = true) :
    (aguCmd s i).itag = s.core.exu.oitf.alcPtrR := by
  change gate (Alu.aguOp (Exu.alu s.core.exu (exuIn s i))) (Oitf.disPtr s.core.exu.oitf) = _
  rw [hagu, gate_true]
  rfl

theorem Linked.of_reset (h : IsReset s) : Linked s := by
  have hl : longp s = false := by rw [longp, h.2.splt, Bool.false_and]
  refine ⟨fun _ => ?_, fun hone => absurd (hl.symm.trans hone) Bool.false_ne_true⟩
  exact Exu.IsReset.oitfEmpty h.1.2

theorem longp_step :
    longp (step s i) =
      if cmdHsked s i then !(aguCmd s i).back2agu else longp s && !rspHsked s i := by
  rw [longp]
  cases hcmd : cmdHsked s i
  · obtain ⟨hvld, hdat⟩ := lsu_of_no_cmd hcmd
    rw [hvld, hdat, longp, if_neg Bool.false_ne_true]
    cases s.lsu.spltVldR <;> cases rspHsked s i <;> simp
  · obtain ⟨hvld, hdat⟩ := lsu_of_cmd hcmd
    rw [hvld, hdat, usr_of_cmd hcmd, if_pos rfl, Bool.true_and]

theorem Linked.step (h : Linked s) (hsteady : Core.Steady s.core) (hok : LsuCtrl.Ok s.lsu) :
    Linked (step s i) := by
  have hoitf := step_oitf (s := s) (i := i)
  have hret := h.retEna_eq (i := i) hok
  have hnext := longp_step (s := s) (i := i)
  cases hena : Exu.oitfEna s.core.exu (exuIn s i)
  · -- nothing is allocated: what is outstanding retires or stays
    have hnew : longp (CoreLsu.step s i) = (longp s && !rspHsked s i) := by
      rw [hnext]
      split
      · rename_i hcmd
        have hback : (aguCmd s i).back2agu = true := by
          by_contra hback
          have := (cmdHsked_iff hsteady).mp ⟨hcmd, Bool.not_eq_true _ ▸ hback⟩
          exact absurd (hena.symm.trans this) Bool.false_ne_true
        have hroom : s.lsu.spltVldR = true → rspHsked s i = true := by
          intro hv
          by_contra hrsp
          have hno := no_cmd_of_full hok hv (Bool.not_eq_true _ ▸ hrsp)
          exact absurd (hno.symm.trans hcmd) Bool.false_ne_true
        rw [hback, longp]
        cases hv : s.lsu.spltVldR
        · rfl
        · rw [hroom hv]
          simp
      · rfl
    rw [hena, hret] at hoitf
    cases hl : longp s
    · rw [hl, Bool.false_and, Oitf.step_idle] at hoitf
      rw [hl, Bool.false_and] at hnew
      refine ⟨fun _ => ?_, fun hone => absurd (hnew.symm.trans hone) Bool.false_ne_true⟩
      rw [Exu.oitfEmpty, hoitf]
      exact h.none hl
    · cases hrsp : rspHsked s i
      · rw [hl, hrsp, Bool.and_false, Oitf.step_idle] at hoitf
        rw [hl, hrsp] at hnew
        refine ⟨fun hno => absurd (hno.symm.trans hnew) Bool.false_ne_true, fun _ => ?_⟩
        have hv := ((Bool.and_eq_true _ _).mp hl).1
        obtain ⟨-, hdat⟩ := lsu_of_no_cmd (no_cmd_of_full hok hv hrsp)
        rw [hoitf, hdat]
        exact h.one hl
      · rw [hl, hrsp, Bool.and_true] at hoitf
        rw [hl, hrsp] at hnew
        refine ⟨fun _ => ?_, fun hone => absurd (hnew.symm.trans hone) Bool.false_ne_true⟩
        rw [Exu.oitfEmpty, hoitf]
        exact Oitf.empty_of_retire hsteady.oitf (h.one hl).1
  · -- an entry is allocated for the command that is accepted
    obtain ⟨hcmd, hback⟩ := cmd_of_oitfEna hsteady hena
    obtain ⟨-, hagu, -⟩ := ldst_of_cmd hsteady hcmd hback
    have hnew : longp (CoreLsu.step s i) = true := by rw [hnext, hcmd, hback]; rfl
    obtain ⟨-, hdat⟩ := lsu_of_cmd hcmd
    have htag : (CoreLsu.step s i).lsu.spltDatR.usr.itag = s.core.exu.oitf.alcPtrR := by
      rw [hdat, usr_of_cmd hcmd]
      exact aguCmd_itag hagu
    refine ⟨fun hno => absurd (hno.symm.trans hnew) Bool.false_ne_true, fun _ => ?_⟩
    rw [htag, hoitf, hena, hret]
    cases hl : longp s
    · rw [Bool.false_and]
      obtain ⟨h1, h2⟩ := Oitf.single_of_alloc (d := Exu.oitfDisp (exuIn s i)) (h.none hl)
      exact ⟨h1, h2.symm⟩
    · have hrsp : rspHsked s i = true := by
        by_contra hrsp
        have hno := no_cmd_of_full hok ((Bool.and_eq_true _ _).mp hl).1 (Bool.not_eq_true _ ▸ hrsp)
        exact absurd (hno.symm.trans hcmd) Bool.false_ne_true
      rw [hrsp, Bool.and_true]
      obtain ⟨h1, h2⟩ := Oitf.single_of_swap (d := Exu.oitfDisp (exuIn s i)) (h.one hl).1
      exact ⟨h1, h2.symm⟩

end

/-- The response taken in cycle `u` is that to the command accepted in cycle `t`. -/
structure Answered (inp : ℕ → In) (s : State) (t u : ℕ) : Prop where
  lt : t < u
  rsp : rspHsked (run inp s u) (inp u) = true
  first : ∀ v, t < v → v < u → rspHsked (run inp s v) (inp v) = false

section
variable {inp : ℕ → In} {s : State}

theorem steady_run (h0 : IsReset s) (t : ℕ) : Core.Steady (run inp s t).core := by
  rw [run_core]
  exact Core.Steady.run h0.1 t

theorem Linked.run (h0 : IsReset s) (t : ℕ) : Linked (run inp s t) := by
  induction t with
  | zero => exact .of_reset h0
  | succ t ih => exact ih.step (steady_run h0 t) (lsuOk_run h0 t)

end
end E203.CoreLsu
