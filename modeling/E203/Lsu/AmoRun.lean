import E203.Lsu.Amo

/-! # Atomic operations over whole runs

* `Resident`: an aligned atomic operation and the cycles that it spends in the IR.
* `EarlyRead`: it is offered to the address-generation unit, everything is ready for it, and an older
  load or store is outstanding.
* `amo_exact`: one read, one write of the result, one commit, exactly when there is no such cycle.
-/

namespace E203
set_option autoImplicit false

namespace CoreLsu

def ir (s : State) : BitVec 32 := s.core.ifu.ifuIrR

/-- A word is loaded into the IR in this cycle. -/
def irLoad (s : State) (i : In) : Bool :=
  Ifetch.irValidSet s.core.ifu (Core.ifuIn s.core (coreIn s i))

def cmtEna (s : State) (i : In) : Bool := Exu.cmtEna s.core.exu (exuIn s i)

/-- The bus-error flag of an atomic operation that commits. -/
def amoBuserr (s : State) (i : In) : Bool := (Exu.aluCmt s.core.exu (exuIn s i)).aluExcpIBuserr

def Ev.isRsp : Ev → Bool
  | .rsp .. => true
  | _ => false

/-- An aligned atomic operation is in the IR from cycle `a` to cycle `b`, in which it commits. -/
structure Resident (inp : ℕ → In) (s : State) (op : AmoOp) (a b : ℕ) : Prop where
  le : a ≤ b
  enters : ∃ p, a = p + 1 ∧ irLoad (run inp s p) (inp p) = true
  valid : ∀ t, a ≤ t → t ≤ b → (run inp s t).core.ifu.irValidR = true
  stays : ∀ t, a ≤ t → t < b → irLoad (run inp s t) (inp t) = false
  word : Decode.isAmoOp op (ir (run inp s b)) = true
  noErr : (run inp s b).core.ifu.ifuErrR = false
  aligned : (Core.rs1 (run inp s b).core (ir (run inp s b))).extractLsb' 0 2 = 0#2
  commits : cmtEna (run inp s b) (inp b) = true

/-- The operation is offered, not masked off, and everything is ready for its command, although an
older load or store is outstanding. -/
structure EarlyRead (s : State) (i : In) : Prop where
  valid : (Alu.agu s.core.exu.alu (Exu.alu s.core.exu (exuIn s i))).aguIValid = true
  noFlush : (Alu.agu s.core.exu.alu (Exu.alu s.core.exu (exuIn s i))).flushReq = false
  oReady : Exu.aluOReady s.core.exu (exuIn s i) = true
  cmdReady : (exuIn s i).aguIcbCmdReady = true
  busy : Exu.oitfEmpty s.core.exu = false

/-- One read, one write of the operation's result on what was read, and one commit.  Responses of older
commands may still come in before. -/
structure Exact (inp : ℕ → In) (s : State) (op : AmoOp) (a b : ℕ) (v : BitVec 32) (e : Bool)
    (z : BitVec 32) (e' : Bool) : Prop where
  bus : ∃ early, (∀ ev ∈ early, Ev.isRsp ev = true) ∧
    trace inp s a (b + 1) =
      early ++ (written op (Core.rs1 (run inp s b).core (ir (run inp s b)))
        (Core.rs2 (run inp s b).core (ir (run inp s b))) v e ++
          [.rsp false (Core.rs1 (run inp s b).core (ir (run inp s b))) z e'])
  once : ∀ t, a ≤ t → t ≤ b → (cmtEna (run inp s t) (inp t) = true ↔ t = b)
  buserr : amoBuserr (run inp s b) (inp b) = (e || e')
  rd : Exu.rfWrite (run inp s b).core.exu (exuIn (run inp s b) (inp b)) =
    if (Decode.decRdwen (ir (run inp s b)) && !(e || e')) = true then
      some (Decode.decRdidx (ir (run inp s b)), v) else none

section
variable {inp : ℕ → In} {s : State} {op : AmoOp} {a b t : ℕ}

theorem indexed_run (h0 : IsReset s) (hv : (run inp s t).core.ifu.irValidR = true) :
    Exu.Indexed (exuIn (run inp s t) (inp t)) := by
  have hcore := run_core inp s t
  have hidx : Exu.Indexed (Core.exuIn (Core.run (fun u => coreIn (run inp s u) (inp u)) s.core t)
      (coreIn (run inp s t) (inp t))) := Core.indexed h0.1 t (by rwa [← hcore])
  rw [← hcore] at hidx
  exact hidx

section
variable (h : Resident inp s op a b)
include h

theorem Resident.ir_eq (hat : a ≤ t) (htb : t ≤ b) :
    ir (run inp s t) = ir (run inp s b) ∧
      (run inp s t).core.ifu.ifuErrR = (run inp s b).core.ifu.ifuErrR := by
  have hall : ∀ n, t + n ≤ b → ir (run inp s (t + n)) = ir (run inp s t) ∧
      (run inp s (t + n)).core.ifu.ifuErrR = (run inp s t).core.ifu.ifuErrR := by
    intro n
    induction n with
    | zero => exact fun _ => ⟨rfl, rfl⟩
    | succ n ih =>
      intro hn
      obtain ⟨hir, herr⟩ := ih (by omega)
      obtain ⟨hir', herr'⟩ := Ifetch.step_ifuIrR_of_not_set (h.stays (t + n) (by omega) (by omega))
      exact ⟨Eq.trans hir' hir, Eq.trans herr' herr⟩
  obtain ⟨hir, herr⟩ := hall (b - t) (by omega)
  rw [Nat.add_sub_cancel' htb] at hir herr
  exact ⟨hir.symm, herr.symm⟩

theorem Resident.wordAt (hat : a ≤ t) (htb : t ≤ b) :
    Decode.isAmoOp op (exuIn (run inp s t) (inp t)).iIr = true ∧
      (exuIn (run inp s t) (inp t)).iBuserr = false := by
  obtain ⟨hir, herr⟩ := h.ir_eq hat htb
  exact ⟨Eq.trans (congrArg _ hir) h.word, herr.trans h.noErr⟩

theorem Resident.not_hsked (hat : a ≤ t) (htb : t < b) :
    Exu.iHsked (run inp s t).core.exu (exuIn (run inp s t) (inp t)) = false := by
  cases hhsk : Exu.iHsked (run inp s t).core.exu (exuIn (run inp s t) (inp t))
  · rfl
  · have hclr : Ifetch.irValidClr (run inp s t).core.ifu
        (Core.ifuIn (run inp s t).core (coreIn (run inp s t) (inp t))) = true := by
      rw [Ifetch.irValidClr]
      exact (Bool.or_eq_true _ _).mpr (.inl hhsk)
    have hset := h.stays t hat htb
    have hnext : (run inp s (t + 1)).core.ifu.irValidR = _ :=
      Ifetch.step_irValidR (s := (run inp s t).core.ifu)
        (i := Core.ifuIn (run inp s t).core (coreIn (run inp s t) (inp t)))
    rw [h.valid (t + 1) (by omega) (by omega), hclr] at hnext
    rw [irLoad] at hset
    simp [hset] at hnext

variable (h0 : IsReset s)
include h0

theorem Resident.cmtEna_iff (hat : a ≤ t) (htb : t ≤ b) :
    cmtEna (run inp s t) (inp t) = true ↔ t = b := by
  constructor
  · intro hcmt
    by_contra hne
    have hhsk := (steady_run h0 t).iHsked_of_cmtEna hcmt
    exact absurd ((h.not_hsked hat (by omega)).symm.trans hhsk) Bool.false_ne_true
  · rintro rfl
    exact h.commits

/-- The state machine has not started when it comes into the IR. -/
theorem Resident.idle_of_enters : (run inp s a).core.exu.alu.agu.icbStateR = .idle := by
  obtain ⟨p, rfl, hload⟩ := h.enters
  by_contra hbusy
  obtain ⟨hv, -, -, -, -, -, hready, hflush, -⟩ :=
    (steady_run h0 p).amo_step (i := coreIn (run inp s p) (inp p)) hbusy
  obtain ⟨hset, -⟩ := Ifetch.irValidSet_of_stay
    (j := Core.ifuIn (run inp s p).core (coreIn (run inp s p) (inp p))) hv hready hflush
  exact absurd (hset.symm.trans hload) Bool.false_ne_true

theorem Resident.busy_of_commits : (run inp s b).core.exu.alu.agu.icbStateR ≠ .idle := by
  intro hidle
  obtain ⟨hop, herr⟩ := h.wordAt h.le le_rfl
  have hagu := (Exu.ops_of_isAmo (s := (run inp s b).core.exu) (Decode.isAmo_of_isAmoOp hop) herr rfl).2.1
  have hmask : Exu.masked (run inp s b).core.exu (exuIn (run inp s b) (inp b)) = false := by
    by_contra hmask
    have hcmt := h.commits
    rw [cmtEna, Exu.cmtEna_of_masked (Bool.not_eq_false _ ▸ hmask)] at hcmt
    cases hcmt
  rw [Exu.masked, hagu, Bool.true_and] at hmask
  have hreq : (Alu.agu (run inp s b).core.exu.alu
      (Exu.alu (run inp s b).core.exu (exuIn (run inp s b) (inp b)))).flushReq = false := by
    simpa [Lsuagu.flushBlock, Lsuagu.icbStaIsIdle, hidle] using hmask
  have halgn := Exu.algnamo_of_idle hidle hop herr rfl
    (indexed_run h0 (h.valid b h.le le_rfl)) hreq h.aligned
  have hcmt := (Exu.not_cmt_of_algnamo hidle hagu halgn (Exu.noLdst_of_amoOp hop herr rfl)).2
  exact absurd (hcmt.symm.trans h.commits) Bool.false_ne_true

/-- The cycle in which its state machine starts. -/
theorem Resident.exists_start :
    ∃ r, a ≤ r ∧ r < b ∧ (∀ u, a ≤ u → u ≤ r → (run inp s u).core.exu.alu.agu.icbStateR = .idle) ∧
      (run inp s (r + 1)).core.exu.alu.agu.icbStateR ≠ .idle := by
  obtain ⟨r, har, hrb, hidle, hbusy⟩ := Lib.exists_last
    (p := fun t => ∀ u, a ≤ u → u ≤ t → (run inp s u).core.exu.alu.agu.icbStateR = .idle) h.le
    (fun u hau hua => by
      obtain rfl : u = a := by omega
      exact h.idle_of_enters h0)
    fun hall => h.busy_of_commits h0 (hall b h.le le_rfl)
  refine ⟨r, har, hrb, hidle, fun hnext => hbusy fun u hau hur => ?_⟩
  obtain hlt | rfl : u ≤ r ∨ u = r + 1 := by omega
  · exact hidle u hau hlt
  · exact hnext

end

/-! ## From its start to its end -/

/-- The state machine starts in cycle `r`. -/
structure Started (inp : ℕ → In) (s : State) (a b r : ℕ) : Prop where
  ge : a ≤ r
  lt : r < b
  idle : ∀ u, a ≤ u → u ≤ r → (run inp s u).core.exu.alu.agu.icbStateR = .idle
  busy : (run inp s (r + 1)).core.exu.alu.agu.icbStateR ≠ .idle

theorem Started.start {r : ℕ} (hr : Started inp s a b r) :
    Exu.AmoStart (run inp s r).core.exu (exuIn (run inp s r) (inp r)) :=
  Exu.icbStateR_step (hr.idle r hr.ge le_rfl) hr.busy

section
variable {r : ℕ} (h : Resident inp s op a b) (h0 : IsReset s) (hr : Started inp s a b r)
include h h0 hr

/-- Where the operation stands in each cycle after its start. -/
theorem Resident.phase (n : ℕ) (hn : r + 1 + n ≤ b) :
    (run inp s (r + 1 + n)).core.exu.rf = (run inp s r).core.exu.rf ∧
      Phase op (Core.rs1 (run inp s r).core (ir (run inp s b)))
        (Core.rs2 (run inp s r).core (ir (run inp s b))) (run inp s (r + 1 + n))
        (run inp s (r + 1 + n)).core.exu.alu.agu.icbStateR
        (.read (Core.rs1 (run inp s r).core (ir (run inp s b))) ::
          trace inp s (r + 1) (r + 1 + n)) := by
  have hge := hr.ge
  induction n with
  | zero =>
    have hlt := hr.lt
    have hstart := hr.start
    have hir := (h.ir_eq hge hlt.le).1
    constructor
    · exact Exu.step_rf_of_calm hstart.starts.empty hstart.starts.not_cmt.2
    · have hempty : trace inp s (r + 1) (r + 1 + 0) = [] := Lib.emitted_self
      rw [hempty]
      exact (Phase.of_start hstart (h.wordAt hge hlt.le).1 (indexed_run h0 (h.valid r hge hlt.le))
        (congrArg (Core.rs1 (run inp s r).core) hir)).2.2
  | succ n ih =>
    obtain ⟨hrf, hphase⟩ := ih (by omega)
    have hbusy : (run inp s (r + 1 + n)).core.exu.alu.agu.icbStateR ≠ .idle := by
      intro hidle
      rw [hidle] at hphase
      cases hphase
    have hir := (h.ir_eq (t := r + 1 + n) (by omega) (by omega)).1
    have hrun := (steady_run h0 (r + 1 + n)).amoRun
      (coreIn (run inp s (r + 1 + n)) (inp (r + 1 + n))) hbusy
    have hcmt : cmtEna (run inp s (r + 1 + n)) (inp (r + 1 + n)) = false := by
      cases hcmt : cmtEna (run inp s (r + 1 + n)) (inp (r + 1 + n))
      · rfl
      · have hb := (h.cmtEna_iff h0 (by omega) (by omega)).mp hcmt
        omega
    have hlast : (run inp s (r + 1 + n)).core.exu.alu.agu.icbStateR ≠ .wbck := by
      intro hwbck
      have hyes := hrun.cmt.2
      rw [hwbck, decide_eq_true rfl] at hyes
      exact absurd (hcmt.symm.trans hyes) Bool.false_ne_true
    have hregs : ∀ w, Core.rs1 (run inp s (r + 1 + n)).core w = Core.rs1 (run inp s r).core w ∧
        Core.rs2 (run inp s (r + 1 + n)).core w = Core.rs2 (run inp s r).core w := by
      intro w
      rw [Core.rs1, Core.rs2, hrf]
      exact ⟨rfl, rfl⟩
    constructor
    · exact Eq.trans (Exu.step_rf_of_calm hrun.empty hcmt) hrf
    · have hnext := hphase.step hrun (lsuOk_run h0 _) (h.wordAt (t := r + 1 + n) (by omega) (by omega)).1
        (indexed_run h0 (h.valid (r + 1 + n) (by omega) (by omega)))
        ((congrArg _ hir).trans (hregs _).1) ((congrArg _ hir).trans (hregs _).2) hlast
      have htrace : trace inp s (r + 1) (r + 1 + (n + 1)) = trace inp s (r + 1) (r + 1 + n) ++
          events (run inp s (r + 1 + n)) (inp (r + 1 + n)) := Lib.emitted_succ (Nat.le_add_right _ _)
      rw [htrace]
      exact hnext

theorem Resident.busy_of_started (hrt : r < t) (htb : t ≤ b) :
    (run inp s t).core.exu.alu.agu.icbStateR ≠ .idle := by
  obtain ⟨n, rfl⟩ := Nat.exists_eq_add_of_le (show r + 1 ≤ t from hrt)
  obtain ⟨-, hphase⟩ := h.phase h0 hr n htb
  intro hidle
  rw [hidle] at hphase
  cases hphase

theorem Resident.regs_eq (w : BitVec 32) :
    Core.rs1 (run inp s b).core w = Core.rs1 (run inp s r).core w ∧
      Core.rs2 (run inp s b).core w = Core.rs2 (run inp s r).core w := by
  obtain ⟨hrf, -⟩ := h.phase h0 hr (b - (r + 1)) (by have := hr.lt; omega)
  rw [Nat.add_sub_cancel' hr.lt] at hrf
  rw [Core.rs1, Core.rs2, hrf]
  exact ⟨rfl, rfl⟩

theorem Resident.finish :
    ∃ v e z e', trace inp s (r + 1) (b + 1) =
        [.rsp true (Core.rs1 (run inp s b).core (ir (run inp s b))) v e,
          .write (Core.rs1 (run inp s b).core (ir (run inp s b)))
            (rv32a op v (Core.rs2 (run inp s b).core (ir (run inp s b)))) (if e then 0x0#4 else 0xF#4),
          .rsp false (Core.rs1 (run inp s b).core (ir (run inp s b))) z e'] ∧
      amoBuserr (run inp s b) (inp b) = (e || e') ∧
      Exu.rfWrite (run inp s b).core.exu (exuIn (run inp s b) (inp b)) =
        if (Decode.decRdwen (ir (run inp s b)) && !(e || e')) = true then
          some (Decode.decRdidx (ir (run inp s b)), v) else none := by
  have hrun := (steady_run h0 b).amoRun (coreIn (run inp s b) (inp b)) (h.busy_of_commits h0)
  have hsta : (run inp s b).core.exu.alu.agu.icbStateR = .wbck := by
    have hcmt : true = decide _ := h.commits.symm.trans hrun.cmt.2
    exact of_decide_eq_true hcmt.symm
  have hlast : trace inp s (r + 1) (b + 1) =
      trace inp s (r + 1) b ++ events (run inp s b) (inp b) := Lib.emitted_succ hr.lt
  obtain ⟨-, hphase⟩ := h.phase h0 hr (b - (r + 1)) (by have := hr.lt; omega)
  obtain ⟨h1, h2⟩ := h.regs_eq h0 hr (ir (run inp s b))
  rw [Nat.add_sub_cancel' hr.lt, ← h1, ← h2, hsta] at hphase
  generalize htr : trace inp s (r + 1) b = tr at hphase hlast
  cases hphase with
  | wbck v e z e' hkept hempty =>
    refine ⟨v, e, z, e', ?_, ?_, ?_⟩
    · have hcmd := cmdHsked_eq hrun
      rw [hsta] at hcmd
      have hno : cmdHsked (run inp s b) (inp b) = false := hcmd
      rw [hlast, events, rspHsked_of_empty hempty, hno]
      rfl
    · rw [← hkept.err]
      exact hrun.aluExcpIBuserr
    · rw [← hkept.err, ← hkept.sbf0]
      exact hrun.rfWrite_eq hsta

/-- What the operation leaves on the bus. -/
theorem Resident.events_start :
    events (run inp s r) (inp r) =
      (if rspHsked (run inp s r) (inp r) then [rspEv (run inp s r) (inp r)] else []) ++
        [.read (Core.rs1 (run inp s b).core (ir (run inp s b)))] := by
  have hir := (h.ir_eq hr.ge hr.lt.le).1
  obtain ⟨hcmd, hev, -⟩ := Phase.of_start (y := 0#32) hr.start (h.wordAt hr.ge hr.lt.le).1
    (indexed_run h0 (h.valid r hr.ge hr.lt.le))
    ((congrArg (Core.rs1 (run inp s r).core) hir).trans (h.regs_eq h0 hr _).1.symm)
  rw [events, hcmd, hev]
  rfl

omit hr in
/-- An operation that is dispatched has the address that it has in the end. -/
theorem Resident.rs1_of_dispatched (hat : a ≤ t) (htb : t ≤ b)
    (hd : (Exu.alu (run inp s t).core.exu (exuIn (run inp s t) (inp t))).iValid = true) :
    Core.rs1 (run inp s b).core (ir (run inp s b)) =
      Core.rs1 (run inp s t).core (ir (run inp s b)) := by
  by_cases hx0 : Decode.decRs1idx (ir (run inp s b)) = 0#5
  · rw [Core.rs1, Core.rs1, hx0]
    rfl
  have hword := (h.wordAt hat htb).1
  have hir := (h.ir_eq hat htb).1
  have hen : Decode.decRs1en (exuIn (run inp s t) (inp t)).iIr = true := by
    rw [(Decode.rv32Amo_regs (Decode.isAmoOp_iff.mp hword).1).2.1, Decode.decRs1x0]
    change (!(Decode.decRs1idx (ir (run inp s t)) == 0#5)) = true
    rw [hir, beq_false_of_ne hx0]
    rfl
  have hidx : (exuIn (run inp s t) (inp t)).iRs1idx = Decode.decRs1idx (ir (run inp s b)) :=
    ((indexed_run h0 (h.valid t hat htb)).rs1 hen).trans (congrArg _ hir)
  have hfree : ¬(run inp s t).core.exu.oitf.Writes (Decode.decRs1idx (ir (run inp s b))) := by
    rw [← hidx]
    exact Oitf.oitfrdMatch_eq_false.mp (Exu.free_of_dispatched hd).1 hen
  have hall : ∀ n, t + n ≤ b →
      (run inp s (t + n)).core.exu.rf (Decode.decRs1idx (ir (run inp s b))) =
          (run inp s t).core.exu.rf (Decode.decRs1idx (ir (run inp s b))) ∧
        ¬(run inp s (t + n)).core.exu.oitf.Writes (Decode.decRs1idx (ir (run inp s b))) := by
    intro n
    induction n with
    | zero => exact fun _ => ⟨rfl, hfree⟩
    | succ n ih =>
      intro hn
      obtain ⟨hrf, hfree'⟩ := ih (by omega)
      have hno := h.not_hsked (t := t + n) (by omega) (by omega)
      obtain ⟨hrf', hnext⟩ := (steady_run h0 (t + n)).reg_step
        (i := coreIn (run inp s (t + n)) (inp (t + n))) hfree'
        fun hhsk => absurd (hno.symm.trans hhsk) Bool.false_ne_true
      exact ⟨Eq.trans hrf' hrf, hnext⟩
  obtain ⟨hrf, -⟩ := hall (b - t) (by omega)
  rw [Nat.add_sub_cancel' htb] at hrf
  exact Regfile.rfR_congr hrf

/-- Before its start it issues no command unless it is offered with an older access outstanding. -/
theorem Resident.no_cmd_iff :
    (∀ u, a ≤ u → u < r → cmdHsked (run inp s u) (inp u) = false) ↔
      ∀ t, a ≤ t → t ≤ b → ¬EarlyRead (run inp s t) (inp t) := by
  have hrb := hr.lt
  constructor
  · intro hno t hat htb hearly
    have hidle : (run inp s t).core.exu.alu.agu.icbStateR = .idle := by
      by_contra hbusy
      have hempty := ((steady_run h0 t).amo hbusy).2.2.2.1
      exact absurd (hearly.busy.symm.trans hempty) Bool.false_ne_true
    have htr : t < r := by
      obtain hlt | heq | hgt : t < r ∨ t = r ∨ r < t := by omega
      · exact hlt
      · subst heq
        exact absurd (hearly.busy.symm.trans hr.start.starts.empty) Bool.false_ne_true
      · exact absurd hidle (h.busy_of_started h0 hr hgt htb)
    obtain ⟨hop, herr⟩ := h.wordAt hat htb
    have hagu := (Exu.ops_of_isAmo (s := (run inp s t).core.exu) (Decode.isAmo_of_isAmoOp hop)
      herr rfl).2.1
    have hd : (Exu.alu (run inp s t).core.exu (exuIn (run inp s t) (inp t))).iValid = true :=
      ((Bool.and_eq_true _ _).mp hearly.valid).1
    have haddr := h.rs1_of_dispatched h0 hat htb hd
    have halgn := Exu.algnamo_of_idle hidle hop herr rfl (indexed_run h0 (h.valid t hat htb))
      hearly.noFlush (by
        have := h.aligned
        rw [haddr, ← (h.ir_eq hat htb).1] at this
        exact this)
    have hcmd : cmdHsked (run inp s t) (inp t) = true := by
      rw [cmdHsked, aguCmd_valid, Exu.aguIcbCmdValid_of_idle hidle hop herr rfl, halgn, hd,
        hearly.oReady]
      exact hearly.cmdReady
    exact absurd ((hno t hat htr).symm.trans hcmd) Bool.false_ne_true
  · intro hno u hau hur
    by_contra hcmd
    have hcmd' : cmdHsked (run inp s u) (inp u) = true := Bool.not_eq_false _ ▸ hcmd
    have hidle := hr.idle u hau hur.le
    obtain ⟨hop, herr⟩ := h.wordAt (t := u) hau (by omega)
    cases hempty : Exu.oitfEmpty (run inp s u).core.exu
    · apply hno u hau (by omega)
      obtain ⟨hvalid, hready⟩ := (Bool.and_eq_true _ _).mp hcmd'
      rw [aguCmd_valid, Exu.aguIcbCmdValid_of_idle hidle hop herr rfl, Bool.and_eq_true,
        Bool.and_eq_true] at hvalid
      obtain ⟨halgn, hd, ho⟩ := hvalid
      have hagu := (Exu.ops_of_isAmo (s := (run inp s u).core.exu) (Decode.isAmo_of_isAmoOp hop)
        herr rfl).2.1
      exact ⟨(Bool.and_eq_true _ _).mpr ⟨hd, hagu⟩,
        Exu.flushReq_of_algnamo hidle hop herr rfl halgn, ho, hready, hempty⟩
    · have hstart := Exu.amoStart_of_cmd hidle hop herr rfl hempty hcmd'
      apply absurd (hr.idle (u + 1) (by omega) hur)
      have hsta : (run inp s (u + 1)).core.exu.alu.agu.icbStateR = .first := if_pos hstart
      rw [hsta]
      intro heq
      cases heq

/-- What has been sent and received when it commits. -/
theorem Resident.trace_eq :
    ∃ v e z e', trace inp s a (b + 1) =
        (trace inp s a r ++
            if rspHsked (run inp s r) (inp r) then [rspEv (run inp s r) (inp r)] else []) ++
          (written op (Core.rs1 (run inp s b).core (ir (run inp s b)))
            (Core.rs2 (run inp s b).core (ir (run inp s b))) v e ++
            [.rsp false (Core.rs1 (run inp s b).core (ir (run inp s b))) z e']) ∧
      trace inp s (r + 1) (b + 1) =
        (written op (Core.rs1 (run inp s b).core (ir (run inp s b)))
          (Core.rs2 (run inp s b).core (ir (run inp s b))) v e).tail ++
          [.rsp false (Core.rs1 (run inp s b).core (ir (run inp s b))) z e'] ∧
      amoBuserr (run inp s b) (inp b) = (e || e') ∧
      Exu.rfWrite (run inp s b).core.exu (exuIn (run inp s b) (inp b)) =
        if (Decode.decRdwen (ir (run inp s b)) && !(e || e')) = true then
          some (Decode.decRdidx (ir (run inp s b)), v) else none := by
  have hge := hr.ge
  have hlt := hr.lt
  obtain ⟨v, e, z, e', htail, hbuserr, hrd⟩ := h.finish h0 hr
  refine ⟨v, e, z, e', ?_, htail, hbuserr, hrd⟩
  have hsplit : trace inp s a (b + 1) = trace inp s a (r + 1) ++ trace inp s (r + 1) (b + 1) :=
    Lib.emitted_append (by omega) (by omega)
  have hfirst : trace inp s a (r + 1) = trace inp s a r ++ events (run inp s r) (inp r) :=
    Lib.emitted_succ hge
  rw [hsplit, hfirst, htail, h.events_start h0 hr]
  simp [written]

/-- The responses taken while the state machine runs are those of the operation. -/
theorem Resident.noErr_iff :
    (∀ t, a ≤ t → t ≤ b → Exu.amoWait (run inp s t).core.exu = true →
      ∀ read addr rdata, .rsp read addr rdata true ∉ events (run inp s t) (inp t)) ↔
      ∀ read addr rdata, .rsp read addr rdata true ∉ trace inp s (r + 1) (b + 1) := by
  have hge := hr.ge
  have hlt := hr.lt
  constructor
  · intro hno read addr rdata hmem
    obtain ⟨u, hru, hub, hev⟩ := (Lib.mem_emitted (by omega)).mp hmem
    refine hno u (by omega) (by omega) ?_ _ _ _ hev
    have hbusy := h.busy_of_started h0 hr (t := u) hru (by omega)
    simp [Exu.amoWait, Lsuagu.amoWait, Lsuagu.icbStaIsIdle, hbusy]
  · intro hno t hat htb hwait read addr rdata hev
    have hrt : r < t := by
      by_contra hle
      have hidle := hr.idle t hat (by omega)
      simp [Exu.amoWait, Lsuagu.amoWait, Lsuagu.icbStaIsIdle, hidle] at hwait
    exact hno _ _ _ ((Lib.mem_emitted (by omega)).mpr ⟨t, hrt, by omega, hev⟩)

end

/-! ## One read, one write, one commit -/

/-- No command is among what has been sent and received. -/
theorem clean_iff (inp : ℕ → In) (s : State) {r : ℕ} (har : a ≤ r) :
    (∀ ev ∈ trace inp s a r ++
        (if rspHsked (run inp s r) (inp r) then [rspEv (run inp s r) (inp r)] else []),
      Ev.isRsp ev = true) ↔
      ∀ u, a ≤ u → u < r → cmdHsked (run inp s u) (inp u) = false := by
  have hcmdEv : ∀ s i, Ev.isRsp (cmdEv s i) = false := by
    intro s i
    rw [cmdEv]
    split <;> rfl
  constructor
  · intro hclean u hau hur
    by_contra hcmd
    have hmem : cmdEv (run inp s u) (inp u) ∈ trace inp s a r := by
      refine (Lib.mem_emitted har).mpr ⟨u, hau, hur, ?_⟩
      have hcmd' : cmdHsked (run inp s u) (inp u) = true := Bool.not_eq_false _ ▸ hcmd
      rw [events, hcmd']
      exact List.mem_append_right _ (List.mem_singleton_self _)
    have hrsp := hclean _ (List.mem_append_left _ hmem)
    exact absurd ((hcmdEv _ _).symm.trans hrsp) Bool.false_ne_true
  · intro hno ev hev
    obtain hev | hev := List.mem_append.mp hev
    · obtain ⟨u, hau, hur, hev⟩ := (Lib.mem_emitted har).mp hev
      rw [events, hno u hau hur, if_neg Bool.false_ne_true, List.append_nil] at hev
      split at hev
      · rw [List.mem_singleton.mp hev]
        rfl
      · cases hev
    · split at hev
      · rw [List.mem_singleton.mp hev]
        rfl
      · cases hev

theorem written_inj {op : AmoOp} {x y v v' z z' : BitVec 32} {e e' f f' : Bool} {l l' : List Ev}
    (heq : l ++ (written op x y v e ++ [.rsp false x z f]) =
      l' ++ (written op x y v' e' ++ [.rsp false x z' f'])) :
    l = l' ∧ v = v' ∧ e = e' ∧ f = f' := by
  obtain ⟨hl, htail⟩ := List.append_inj' heq rfl
  simp only [written, List.cons_append, List.nil_append, List.cons.injEq, Ev.rsp.injEq, true_and,
    and_true] at htail
  exact ⟨hl, htail.1.1, htail.1.2, htail.2.2.2⟩

/-- While an aligned atomic operation is in the IR, one read of its address is issued, then one write
of the operation's result to the same address, and it commits once, with the bus-error flag of the two
responses, exactly when it is never offered with everything ready and an older access outstanding.
Its destination gets the word that was read in that case if neither response is in error. -/
theorem amo_exact (h0 : IsReset s) (h : Resident inp s op a b) :
    ((∃ v e z e', Exact inp s op a b v e z e') ↔
        ∀ t, a ≤ t → t ≤ b → ¬EarlyRead (run inp s t) (inp t)) ∧
      ((∃ v e z e', Exact inp s op a b v e z e' ∧
          (Decode.decRdwen (ir (run inp s b)) = true →
            Exu.rfWrite (run inp s b).core.exu (exuIn (run inp s b) (inp b)) =
              some (Decode.decRdidx (ir (run inp s b)), v))) ↔
        (∀ t, a ≤ t → t ≤ b → ¬EarlyRead (run inp s t) (inp t)) ∧
          (Decode.decRdwen (ir (run inp s b)) = true →
            ∀ t, a ≤ t → t ≤ b → Exu.amoWait (run inp s t).core.exu = true →
              ∀ read addr rdata,
                .rsp read addr rdata true ∉ events (run inp s t) (inp t))) := by
  obtain ⟨r, hge, hlt, hidle, hbusy⟩ := h.exists_start h0
  have hr : Started inp s a b r := ⟨hge, hlt, hidle, hbusy⟩
  obtain ⟨v, e, z, e', htrace, htail, hbuserr, hrd⟩ := h.trace_eq h0 hr
  have hclean := (clean_iff inp s hge).trans (h.no_cmd_iff h0 hr)
  have hunique : ∀ {v' : BitVec 32} {f : Bool} {z' : BitVec 32} {f' : Bool},
      Exact inp s op a b v' f z' f' → (∀ t, a ≤ t → t ≤ b → ¬EarlyRead (run inp s t) (inp t)) ∧
        v' = v ∧ f = e ∧ f' = e' := by
    intro v' f z' f' hexact
    obtain ⟨early, hrsp, hbus⟩ := hexact.bus
    obtain ⟨hl, hv, hf, hf'⟩ := written_inj (hbus.symm.trans htrace)
    rw [hl] at hrsp
    exact ⟨hclean.mp hrsp, hv, hf, hf'⟩
  have hexact : (∀ t, a ≤ t → t ≤ b → ¬EarlyRead (run inp s t) (inp t)) →
      Exact inp s op a b v e z e' := fun hno =>
    ⟨⟨_, hclean.mpr hno, htrace⟩, fun t hat htb => h.cmtEna_iff h0 hat htb, hbuserr, hrd⟩
  have herr : (∀ t, a ≤ t → t ≤ b → Exu.amoWait (run inp s t).core.exu = true →
      ∀ read addr rdata, .rsp read addr rdata true ∉ events (run inp s t) (inp t)) ↔
      (e || e') = false := by
    rw [h.noErr_iff h0 hr, htail]
    cases e <;> cases e' <;> simp [written]
  constructor
  · exact ⟨fun ⟨_, _, _, _, hex⟩ => (hunique hex).1, fun hno => ⟨v, e, z, e', hexact hno⟩⟩
  · constructor
    · rintro ⟨v', f, z', f', hex, hlit⟩
      obtain ⟨hno, rfl, rfl, rfl⟩ := hunique hex
      refine ⟨hno, fun hen => herr.mpr ?_⟩
      have hsome := hlit hen
      rw [hrd, hen] at hsome
      by_contra hbad
      rw [Bool.not_eq_false] at hbad
      rw [hbad] at hsome
      cases hsome
    · rintro ⟨hno, hbus⟩
      refine ⟨v, e, z, e', hexact hno, fun hen => ?_⟩
      rw [hrd, hen, herr.mp (hbus hen)]
      rfl

end

/-- The word `w`, then an atomic addition; the DTCM answers each command in the next cycle. -/
def amoAfter (w : BitVec 32) (t : ℕ) : In :=
  { In.quiet with
    ifuRspValid := t == 2 || t == 3
    ifuRspInstr := if t = 2 then w else 0x0040a1af#32
    dtcm := ⟨true, decide (4 ≤ t ∧ t ≤ 6) || t == 10, false, 0x55#32⟩ }

def dtcmState : State := State.reset fun _ => 0x90000000#32

/-- After a load as well as after a store. -/
theorem resident_amoAfter {w : BitVec 32} (hw : w = 0x0000a103#32 ∨ w = 0x0040a023#32) :
    Resident (amoAfter w) dtcmState .add 4 11 := by
  have hload : ∀ w, w = 0x0000a103#32 ∨ w = 0x0040a023#32 →
      irLoad (run (amoAfter w) dtcmState 3) (amoAfter w 3) = true := by
    rintro w (rfl | rfl) <;> decide +kernel
  have hvalid : ∀ w, w = 0x0000a103#32 ∨ w = 0x0040a023#32 → ∀ n < 8,
      (run (amoAfter w) dtcmState (4 + n)).core.ifu.irValidR = true := by
    rintro w (rfl | rfl) <;> decide +kernel
  have hstays : ∀ w, w = 0x0000a103#32 ∨ w = 0x0040a023#32 → ∀ n < 7,
      irLoad (run (amoAfter w) dtcmState (4 + n)) (amoAfter w (4 + n)) = false := by
    rintro w (rfl | rfl) <;> decide +kernel
  have hend : ∀ w, w = 0x0000a103#32 ∨ w = 0x0040a023#32 →
      Decode.isAmoOp .add (ir (run (amoAfter w) dtcmState 11)) = true ∧
        (run (amoAfter w) dtcmState 11).core.ifu.ifuErrR = false ∧
        (Core.rs1 (run (amoAfter w) dtcmState 11).core
          (ir (run (amoAfter w) dtcmState 11))).extractLsb' 0 2 = 0#2 ∧
        cmtEna (run (amoAfter w) dtcmState 11) (amoAfter w 11) = true := by
    rintro w (rfl | rfl) <;> decide +kernel
  obtain ⟨hword, herr, halgn, hcmt⟩ := hend w hw
  refine ⟨by decide, ⟨3, rfl, hload w hw⟩, fun t hat htb => ?_, fun t hat htb => ?_, hword, herr,
    halgn, hcmt⟩
  all_goals obtain ⟨n, rfl⟩ := Nat.exists_eq_add_of_le hat
  · exact hvalid w hw n (by omega)
  · exact hstays w hw n (by omega)

/-- An older load keeps the write-back port busy until it is done. -/
theorem amo_exact_amoAfter :
    Exu.oitfEmpty (run (amoAfter 0x0000a103#32) dtcmState 4).core.exu = false ∧
      ∃ v e z e', Exact (amoAfter 0x0000a103#32) dtcmState .add 4 11 v e z e' := by
  have hno : ∀ n < 8, (Exu.aluOReady (run (amoAfter 0x0000a103#32) dtcmState (4 + n)).core.exu
      (exuIn (run (amoAfter 0x0000a103#32) dtcmState (4 + n)) (amoAfter 0x0000a103#32 (4 + n))) &&
        !Exu.oitfEmpty (run (amoAfter 0x0000a103#32) dtcmState (4 + n)).core.exu) = false := by
    decide +kernel
  refine ⟨by decide +kernel, (amo_exact (s := dtcmState) (State.isReset_reset _)
    (resident_amoAfter (.inl rfl))).1.mpr fun t hat htb hearly => ?_⟩
  obtain ⟨n, rfl⟩ := Nat.exists_eq_add_of_le hat
  have hbad := hno n (by omega)
  rw [hearly.oReady, hearly.busy] at hbad
  cases hbad

/-- An older store does not: the read is issued once while the store is outstanding and again for the
state machine. -/
theorem amoAfter_reads_twice :
    IsReset dtcmState ∧
      (∀ t, (amoAfter 0x0040a023#32 t).ifuRspValid = true →
        (run (amoAfter 0x0040a023#32) dtcmState t).core.ifu.outFlagR = true) ∧
      Resident (amoAfter 0x0040a023#32) dtcmState .add 4 11 ∧
      trace (amoAfter 0x0040a023#32) dtcmState 4 12 =
        [.rsp false 0x90000000#32 0x55#32 false, .read 0x90000000#32,
          .rsp true 0x90000000#32 0x55#32 false, .read 0x90000000#32,
          .rsp true 0x90000000#32 0x55#32 false, .write 0x90000000#32 0x90000055#32 0xF#4,
          .rsp false 0x90000000#32 0x55#32 false] ∧
      ¬∃ v e z e', Exact (amoAfter 0x0040a023#32) dtcmState .add 4 11 v e z e' := by
  have htrace : trace (amoAfter 0x0040a023#32) dtcmState 4 12 =
      [.rsp false 0x90000000#32 0x55#32 false, .read 0x90000000#32,
        .rsp true 0x90000000#32 0x55#32 false, .read 0x90000000#32,
        .rsp true 0x90000000#32 0x55#32 false, .write 0x90000000#32 0x90000055#32 0xF#4,
        .rsp false 0x90000000#32 0x55#32 false] := by decide +kernel
  refine ⟨State.isReset_reset _, fun t ht => ?_, resident_amoAfter (.inr rfl), htrace, ?_⟩
  · have hcase : t = 2 ∨ t = 3 := by simpa [amoAfter] using ht
    clear ht
    obtain rfl | rfl := hcase
    all_goals decide +kernel
  · rintro ⟨v, e, z, e', hexact⟩
    obtain ⟨early, hclean, hbus⟩ := hexact.bus
    have hlen := congrArg List.length (htrace.symm.trans hbus)
    rw [List.length_append] at hlen
    obtain ⟨c1, c2, c3, rfl⟩ := List.length_eq_three.mp (show early.length = 3 by
      simp only [written, List.length_append, List.length_cons, List.length_nil] at hlen
      omega)
    have hread : c2 = .read 0x90000000#32 := by
      have heq := htrace.symm.trans hbus
      simp only [List.cons_append, List.cons.injEq] at heq
      exact heq.2.1.symm
    have hrsp := hclean c2 (by simp)
    rw [hread] at hrsp
    cases hrsp

end CoreLsu
end E203
