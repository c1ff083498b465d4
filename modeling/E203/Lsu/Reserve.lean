import E203.Exec.Trap
import E203.Lsu.Outstanding

/-! # The reservation of a load-reserved

* `lr`, `sc`, `wr`: the commands of a load-reserved, of a store-conditional, and of a store or the
  second access of an atomic operation.
* `Reserved`: the word of the last load-reserved, if nothing has ended its reservation since.
* `lr_sc`: a store-conditional writes, and reports that it has, exactly when its word is reserved,
  unless an earlier cycle ended a reservation that the monitor did not.
-/

namespace E203
set_option autoImplicit false

namespace CoreLsu

/-- The word in memory that an address belongs to. -/
def wordOf (a : BitVec 32) : BitVec 30 := a.extractLsb' 2 30

section
variable (s : State) (i : In)

/-- A load-reserved issues its command. -/
def lr : Bool := cmdHsked s i && Decode.rv32LrW s.core.ifu.ifuIrR

/-- A store-conditional issues its command. -/
def sc : Bool := cmdHsked s i && Decode.rv32ScW s.core.ifu.ifuIrR

/-- A store, or the second access of an atomic operation. -/
def wr : Bool := cmdHsked s i && !(aguCmd s i).read && !Decode.rv32ScW s.core.ifu.ifuIrR

/-- `commit_trap`: an exception, an interrupt or an entry into debug mode is taken. -/
def trap : Bool := Exu.commitTrap s.core.exu (exuIn s i)

def mret : Bool := Exu.commitMret s.core.exu (exuIn s i)

/-- The return from debug mode. -/
def dret : Bool := Exu.cmtDretEna s.core.exu (exuIn s i)

/-- Nothing in this cycle ends a reservation of the word `w`, or takes its place. -/
structure Keeps (w : BitVec 30) : Prop where
  lr : lr s i = false
  sc : sc s i = false
  wr : wr s i = true → wordOf (aguCmd s i).addr ≠ w
  trap : trap s i = false
  mret : mret s i = false
  dret : dret s i = false

/-- A reservation ends in this cycle and the monitor keeps it: it looks for a store to the very byte
address of the load-reserved, its clock can be off when a trap or an `MRET` is taken, and it does not
see a `DRET`. -/
structure Missed : Prop where
  flag : s.lsu.exclFlgR = true
  ends : ((aguCmd s i).addr ≠ s.lsu.exclAddrR ∧
      (sc s i = true ∨ wr s i = true ∧ wordOf (aguCmd s i).addr = wordOf s.lsu.exclAddrR)) ∨
    (lsuClkEn s i = false ∧ (trap s i = true ∨ mret s i = true)) ∨ dret s i = true

/-- The bytes that the accepted command writes at its target. -/
def wmask : BitVec 4 := LsuCtrl.arbtIcbCmdWmaskPos s.lsu (aguCmd s i)

/-- What the response writes back. -/
def result : BitVec 32 := LsuCtrl.lsuOWbckWdat s.lsu i.toBus

def rspErr : Bool := LsuCtrl.lsuOWbckErr s.lsu i.toBus

end

/-- The store-conditional of cycle `t` writes the whole word and returns 0 if `ok`, otherwise it writes
nothing and returns 1.  A response in error returns nothing. -/
structure Outcome (inp : ℕ → In) (s : State) (t : ℕ) (ok : Prop) : Prop where
  write : ok → wmask (run inp s t) (inp t) = 0xF#4
  noWrite : ¬ok → wmask (run inp s t) (inp t) = 0#4
  zero : ok → ∀ u, Answered inp s t u → result (run inp s u) (inp u) = 0#32
  one : ¬ok → ∀ u, Answered inp s t u → result (run inp s u) (inp u) = 1#32
  rd : Decode.decRdwen (run inp s t).core.ifu.ifuIrR = true →
    ∀ u, Answered inp s t u → rspErr (run inp s u) (inp u) = false →
      Exu.rfWrite (run inp s u).core.exu (exuIn (run inp s u) (inp u)) =
        some (Decode.decRdidx (run inp s t).core.ifu.ifuIrR, result (run inp s u) (inp u))

/-- The last load-reserved was to the word `w`, and its reservation has not ended. -/
def Reserved (inp : ℕ → In) (s : State) (w : BitVec 30) : ℕ → Prop :=
  Lib.Since
    (fun u => lr (run inp s u) (inp u) = true ∧ wordOf (aguCmd (run inp s u) (inp u)).addr = w)
    fun v => Keeps (run inp s v) (inp v) w

section
variable {s : State} {i : In}

theorem addr_eq_of_wordOf {a b : BitVec 32} (ha : a.extractLsb' 0 2 = 0#2)
    (hb : b.extractLsb' 0 2 = 0#2) (h : wordOf a = wordOf b) : a = b := by
  have h1 := congrArg BitVec.toNat h
  have h2 := congrArg BitVec.toNat (ha.trans hb.symm)
  simp only [wordOf, BitVec.extractLsb'_toNat, Nat.shiftRight_eq_div_pow] at h1 h2
  apply BitVec.eq_of_toNat_eq
  have := a.isLt
  have := b.isLt
  omega

/-! ## The commands -/

theorem rv32LrW_bits {w : BitVec 32} (h : Decode.rv32LrW w = true) :
    Decode.rv32ScW w = false ∧ Decode.isLoad w = true ∧ Decode.isStore w = false := by
  obtain ⟨-, -, -, -, -, -, hld, hst, hlw, hlwsp, hsw, hswsp⟩ :=
    Decode.rv32Amo_disjoint (Decode.rv32LrW_amo h)
  have hsc : Decode.rv32ScW w = false := by
    simp only [Decode.rv32LrW, Bool.and_eq_true, beq_iff_eq] at h
    simp [Decode.rv32ScW, h.2]
  refine ⟨hsc, ?_, ?_⟩
  · simp [Decode.isLoad, h]
  · simp [Decode.isStore, hst, hsc, hsw, hswsp]

theorem rv32ScW_bits {w : BitVec 32} (h : Decode.rv32ScW w = true) :
    Decode.rv32LrW w = false ∧ Decode.isLoad w = false ∧ Decode.isStore w = true := by
  obtain ⟨-, -, -, -, -, -, hld, hst, hlw, hlwsp, hsw, hswsp⟩ :=
    Decode.rv32Amo_disjoint (Decode.rv32ScW_amo h)
  have hlr : Decode.rv32LrW w = false := by
    simp only [Decode.rv32ScW, Bool.and_eq_true, beq_iff_eq] at h
    simp [Decode.rv32LrW, h.2]
  refine ⟨hlr, ?_, ?_⟩
  · simp [Decode.isLoad, hld, hlr, hlw, hlwsp]
  · simp [Decode.isStore, h]

theorem aguOp_of_cmd (hcmd : cmdHsked s i = true) :
    Alu.aguOp (Exu.alu s.core.exu (exuIn s i)) = true := by
  have hvalid : Exu.aguIcbCmdValid s.core.exu (exuIn s i) = true :=
    ((Bool.and_eq_true _ _).mp hcmd).1
  by_contra hagu
  rw [Bool.not_eq_true] at hagu
  simp [Exu.aguIcbCmdValid, Alu.aguIcbCmdValid, Lsuagu.aguIcbCmdValid, Alu.agu, hagu,
    Lsuagu.aguIAlgnamo, Lsuagu.aguIAmo, Lsuagu.aguIAlgnldst, Lsuagu.aguILoad,
    Lsuagu.aguIStore] at hvalid

/-- The command of a load or store is aligned, and reads for a load. -/
theorem ldst_cmd (hcmd : cmdHsked s i = true)
    (hback : (aguCmd s i).back2agu = false) :
    Lsuagu.aguIAlgnldst s.core.exu.alu.agu
        (Alu.agu s.core.exu.alu (Exu.alu s.core.exu (exuIn s i)))
        (Alu.dpathRes s.core.exu.alu (Exu.alu s.core.exu (exuIn s i))) = true ∧
      (aguCmd s i).read = Decode.isLoad s.core.ifu.ifuIrR := by
  have hagu := aguOp_of_cmd hcmd
  have hvalid : Exu.aguIcbCmdValid s.core.exu (exuIn s i) = true :=
    ((Bool.and_eq_true _ _).mp hcmd).1
  have hno : Lsuagu.aguIAlgnamo s.core.exu.alu.agu
      (Alu.agu s.core.exu.alu (Exu.alu s.core.exu (exuIn s i)))
      (Alu.dpathRes s.core.exu.alu (Exu.alu s.core.exu (exuIn s i))) = false := hback
  rw [Exu.aguIcbCmdValid, Alu.aguIcbCmdValid, Lsuagu.aguIcbCmdValid, hno, Bool.false_and,
    Bool.or_false, Bool.and_eq_true, Bool.and_eq_true] at hvalid
  have hldst := hvalid.1.1
  refine ⟨hldst, ?_⟩
  change Lsuagu.aguIcbCmdRead _ _ _ = _
  rw [Lsuagu.aguIcbCmdRead, hldst, hno, Bool.true_and, Bool.false_and, Bool.or_false]
  obtain ⟨hld, hst, -⟩ := Exu.agu_kind hagu
  have hand := hldst
  rw [Lsuagu.aguIAlgnldst, hld, hst, ← Bool.and_or_distrib_left, ← Bool.and_or_distrib_right,
    Bool.and_eq_true, Bool.and_eq_true] at hand
  rw [hld, hand.2.2, Bool.and_true]
  rfl

/-- The attributes of an accepted command that the monitor looks at. -/
theorem cmd_excl (hcmd : cmdHsked s i = true) :
    (aguCmd s i).excl = Decode.isExcl s.core.ifu.ifuIrR := by
  change (Alu.agu s.core.exu.alu (Exu.alu s.core.exu (exuIn s i))).aguIInfo.getLsbD 9 = _
  rw [(Exu.agu_info (aguOp_of_cmd hcmd)).2]
  exact Decode.aguInfoBus_bits.2.2.1

theorem not_isAmo_of_excl {w : BitVec 32} (h : Decode.isExcl w = true) : Decode.isAmo w = false := by
  cases hw : Decode.isAmo w
  · rfl
  · have hno : Decode.isExcl w = false := (Decode.isAmo_exclusive hw).2.2
    exact absurd (hno.symm.trans h) Bool.false_ne_true

theorem cmd_of_excl (hcmd : cmdHsked s i = true)
    (hexcl : Decode.isExcl s.core.ifu.ifuIrR = true) :
    (aguCmd s i).back2agu = false ∧ (aguCmd s i).read = Decode.rv32LrW s.core.ifu.ifuIrR := by
  have hagu := aguOp_of_cmd hcmd
  have hback : (aguCmd s i).back2agu = false := by
    have hnoamo : Decode.isAmo (exuIn s i).iIr = false := not_isAmo_of_excl hexcl
    change Lsuagu.aguIAlgnamo _ _ _ = false
    rw [Lsuagu.aguIAlgnamo, (Exu.agu_kind hagu).2.2, hnoamo, Bool.false_and, Bool.and_false]
  refine ⟨hback, ?_⟩
  rw [(ldst_cmd hcmd hback).2]
  obtain hlr | hsc := (Bool.or_eq_true _ _).mp hexcl
  · rw [hlr, (rv32LrW_bits hlr).2.1]
  · rw [(rv32ScW_bits hsc).1, (rv32ScW_bits hsc).2.1]

/-- What the monitor takes for a load-reserved and for a store-conditional. -/
theorem exclFlgSet_eq :
    LsuCtrl.exclFlgSet s.lsu (lsuIn s i) (aguCmd s i) = lr s i := by
  have hwen : LsuCtrl.spltFifoWen s.lsu (lsuIn s i) (aguCmd s i) = cmdHsked s i :=
    LsuCtrl.spltFifoWen_eq
  rw [LsuCtrl.exclFlgSet, hwen, lr]
  cases hcmd : cmdHsked s i
  · rfl
  · have hv : (aguCmd s i).valid = true := ((Bool.and_eq_true _ _).mp hcmd).1
    rw [LsuCtrl.arbtIcbCmdUsr, if_pos hv, LsuCtrl.arbtIcbCmdRead, LsuCtrl.arbtIcbCmdExcl, hv,
      cmd_excl hcmd]
    cases hexcl : Decode.isExcl s.core.ifu.ifuIrR
    · rw [Decode.isExcl, Bool.or_eq_false_iff] at hexcl
      rw [hexcl.1]
      rfl
    · rw [(cmd_of_excl hcmd hexcl).2]
      simp

theorem scond_eq (hcmd : cmdHsked s i = true) :
    LsuCtrl.arbtIcbCmdScond (aguCmd s i) = Decode.rv32ScW s.core.ifu.ifuIrR := by
  have hv : (aguCmd s i).valid = true := ((Bool.and_eq_true _ _).mp hcmd).1
  rw [LsuCtrl.arbtIcbCmdScond, LsuCtrl.arbtIcbCmdUsr, if_pos hv, LsuCtrl.arbtIcbCmdRead, hv,
    Bool.true_and, cmd_excl hcmd]
  cases hexcl : Decode.isExcl s.core.ifu.ifuIrR
  · rw [Decode.isExcl, Bool.or_eq_false_iff] at hexcl
    rw [hexcl.2]
    rfl
  · rw [(cmd_of_excl hcmd hexcl).2]
    obtain hlr | hsc := (Bool.or_eq_true _ _).mp hexcl
    · rw [hlr, (rv32LrW_bits hlr).1]
      rfl
    · rw [hsc, (rv32ScW_bits hsc).1]
      rfl

/-- Every other command that does not read is a write. -/
theorem exclFlgClr_eq :
    LsuCtrl.exclFlgClr s.lsu (lsuIn s i) (aguCmd s i) (trap s i) (mret s i) =
      (((sc s i || wr s i) && (aguCmd s i).addr == s.lsu.exclAddrR && s.lsu.exclFlgR) ||
        trap s i || mret s i) := by
  have hwen : LsuCtrl.spltFifoWen s.lsu (lsuIn s i) (aguCmd s i) = cmdHsked s i :=
    LsuCtrl.spltFifoWen_eq
  rw [LsuCtrl.exclFlgClr, hwen, sc, wr]
  cases hcmd : cmdHsked s i
  · rfl
  · have hv : (aguCmd s i).valid = true := ((Bool.and_eq_true _ _).mp hcmd).1
    rw [LsuCtrl.arbtIcbCmdRead, LsuCtrl.icbCmdaddrEqExcladdr, LsuCtrl.arbtIcbCmdAddr, hv,
      gate_true, Bool.true_and, Bool.true_and, Bool.true_and, Bool.true_and]
    cases hsc : Decode.rv32ScW s.core.ifu.ifuIrR
    · simp
    · have hread : (aguCmd s i).read = false := by
        have hexcl : Decode.isExcl s.core.ifu.ifuIrR = true := by simp [Decode.isExcl, hsc]
        rw [(cmd_of_excl hcmd hexcl).2, (rv32ScW_bits hsc).1]
      simp [hread]

/-- A load-reserved and a store-conditional access an aligned word. -/
theorem excl_aligned (h : Core.Steady s.core) (hcmd : cmdHsked s i = true)
    (hexcl : Decode.isExcl s.core.ifu.ifuIrR = true) :
    (aguCmd s i).addr.extractLsb' 0 2 = 0#2 ∧
      Lsuagu.aguISize (Alu.agu s.core.exu.alu (Exu.alu s.core.exu (exuIn s i))) = 0b10#2 := by
  obtain ⟨hback, -⟩ := cmd_of_excl hcmd hexcl
  obtain ⟨hidle, hagu, -⟩ := ldst_of_cmd h hcmd hback
  obtain ⟨halgn, -⟩ := ldst_cmd hcmd hback
  have hword : Decode.rv32Amo s.core.ifu.ifuIrR = true ∧
      Decode.rv32Func3 s.core.ifu.ifuIrR = 0b010#3 := by
    simp only [Decode.isExcl, Decode.rv32LrW, Decode.rv32ScW, Decode.rv32Func3_010,
      Bool.or_eq_true, Bool.and_eq_true, beq_iff_eq] at hexcl
    obtain hlr | hsc := hexcl
    · exact hlr.1
    · exact hsc.1
  have hsize : Lsuagu.aguISize (Alu.agu s.core.exu.alu (Exu.alu s.core.exu (exuIn s i))) =
      0b10#2 := by
    have hinfo : Decode.lsuInfoSize s.core.ifu.ifuIrR = 0b10#2 := by
      rw [Decode.lsuInfoSize, (Decode.rv32Amo_regs hword.1).1, hword.2]
      rfl
    rw [Lsuagu.aguISize, (Exu.agu_info hagu).2, Decode.aguInfoBus_size]
    exact hinfo
  refine ⟨?_, hsize⟩
  rw [Lsuagu.aguIAlgnldst, ← Bool.and_or_distrib_left, Bool.and_eq_true, Bool.not_eq_true',
    Lsuagu.aguAddrUnalgn, Lsuagu.icbStaIsIdle, hidle, Lsuagu.aguIAddrUnalgn, Lsuagu.aguISizeW,
    hsize] at halgn
  have hlow := halgn.1
  rw [if_pos (by rfl), Bool.or_eq_false_iff] at hlow
  have hne := hlow.2
  rw [show ((0b10#2 : BitVec 2) == 0b10#2) = true from rfl, Bool.true_and, bne_eq_false_iff_eq]
    at hne
  exact hne

theorem no_cmd_of_gated (hoff : lsuClkEn s i = false) : cmdHsked s i = false := by
  by_contra hcmd
  rw [Bool.not_eq_false] at hcmd
  exact absurd (hoff.symm.trans (lsuClkEn_of_cmd hcmd)) Bool.false_ne_true

theorem step_excl :
    (step s i).lsu.exclFlgR = (lr s i || (s.lsu.exclFlgR &&
        !(((sc s i || wr s i) && (aguCmd s i).addr == s.lsu.exclAddrR) ||
          (lsuClkEn s i && (trap s i || mret s i))))) ∧
      (step s i).lsu.exclAddrR = if lr s i then (aguCmd s i).addr else s.lsu.exclAddrR := by
  cases hclk : lsuClkEn s i
  · rw [step_lsu_gated hclk, lr, sc, wr, no_cmd_of_gated hclk]
    exact ⟨by simp, rfl⟩
  · rw [step_lsu hclk]
    constructor
    · change dfflr (LsuCtrl.exclFlgSet _ _ _ || LsuCtrl.exclFlgClr _ _ _ (trap s i) (mret s i))
        (LsuCtrl.exclFlgSet _ _ _ || !LsuCtrl.exclFlgClr _ _ _ (trap s i) (mret s i)) _ = _
      rw [Ifetch.flag_eq, exclFlgSet_eq, exclFlgClr_eq]
      cases lr s i <;> cases s.lsu.exclFlgR <;> simp [Bool.or_assoc]
    · change dfflr (LsuCtrl.exclFlgSet _ _ _) (LsuCtrl.arbtIcbCmdAddr _) _ = _
      rw [exclFlgSet_eq]
      cases hlr : lr s i
      · rfl
      · have hv : (aguCmd s i).valid = true :=
          ((Bool.and_eq_true _ _).mp ((Bool.and_eq_true _ _).mp hlr).1).1
        rw [dfflr_true, LsuCtrl.arbtIcbCmdAddr, hv, gate_true]
        rfl

/-- Does the store-conditional of this cycle pass the monitor? -/
def scTrue (s : State) (i : In) : Bool := (aguCmd s i).addr == s.lsu.exclAddrR && s.lsu.exclFlgR

theorem scondTrue_eq (hcmd : cmdHsked s i = true)
    (hsc : Decode.rv32ScW s.core.ifu.ifuIrR = true) :
    LsuCtrl.arbtIcbCmdScondTrue s.lsu (aguCmd s i) = scTrue s i := by
  have hv : (aguCmd s i).valid = true := ((Bool.and_eq_true _ _).mp hcmd).1
  rw [LsuCtrl.arbtIcbCmdScondTrue, scond_eq hcmd, hsc, LsuCtrl.icbCmdaddrEqExcladdr,
    LsuCtrl.arbtIcbCmdAddr, hv, gate_true, Bool.true_and]
  rfl

/-- A store-conditional writes its word, or nothing. -/
theorem wmask_eq (h : Core.Steady s.core) (hcmd : cmdHsked s i = true)
    (hsc : Decode.rv32ScW s.core.ifu.ifuIrR = true) :
    wmask s i = if scTrue s i then 0xF#4 else 0#4 := by
  have hexcl : Decode.isExcl s.core.ifu.ifuIrR = true := by simp [Decode.isExcl, hsc]
  have hv : (aguCmd s i).valid = true := ((Bool.and_eq_true _ _).mp hcmd).1
  obtain ⟨-, hsize⟩ := excl_aligned h hcmd hexcl
  have hmask : (aguCmd s i).wmask = 0xF#4 := by
    obtain ⟨hback, -⟩ := cmd_of_excl hcmd hexcl
    obtain ⟨-, hagu, hldst⟩ := ldst_of_cmd h hcmd hback
    have hamo : Lsuagu.aguIAmo s.core.exu.alu.agu
        (Alu.agu s.core.exu.alu (Exu.alu s.core.exu (exuIn s i))) = false := by
      have hnoamo : Decode.isAmo (exuIn s i).iIr = false := not_isAmo_of_excl hexcl
      rw [(Exu.agu_kind hagu).2.2, hnoamo, Bool.false_and]
    change Lsuagu.aguIcbCmdWmask _ _ _ = _
    rw [Lsuagu.aguIcbCmdWmask, hamo, if_neg Bool.false_ne_true, Lsuagu.algnstWmask,
      Lsuagu.aguISizeB, Lsuagu.aguISizeHw, Lsuagu.aguISizeW, hsize]
    have hb : ((0b10#2 : BitVec 2) == 0b00#2) = false := rfl
    have hh : ((0b10#2 : BitVec 2) == 0b01#2) = false := rfl
    rw [hb, hh, gate_false, gate_false]
    rfl
  rw [wmask, LsuCtrl.arbtIcbCmdWmaskPos, scondTrue_eq hcmd hsc, scond_eq hcmd, hsc,
    LsuCtrl.arbtIcbCmdWmask, hv, hmask]
  cases scTrue s i <;> rfl

end

/-! ## Runs -/

section
variable {inp : ℕ → In} {s : State} {t : ℕ}

/-- The monitor holds the address of an aligned word. -/
theorem exclAddr_aligned (h0 : IsReset s) (t : ℕ) :
    (run inp s t).lsu.exclAddrR.extractLsb' 0 2 = 0#2 := by
  induction t with
  | zero =>
    change s.lsu.exclAddrR.extractLsb' 0 2 = 0#2
    rw [h0.2.exclAddr]
    rfl
  | succ t ih =>
    have hnext : (run inp s (t + 1)).lsu.exclAddrR = _ := step_excl.2
    rw [hnext]
    split
    · rename_i hlr
      obtain ⟨hcmd, hword⟩ := (Bool.and_eq_true _ _).mp hlr
      have hexcl : Decode.isExcl (run inp s t).core.ifu.ifuIrR = true :=
        (Bool.or_eq_true _ _).mpr (.inl hword)
      exact (excl_aligned (steady_run h0 t) hcmd hexcl).1
    · exact ih

/-- As long as it misses nothing, the monitor holds the reserved word. -/
theorem reserved_iff (h0 : IsReset s) (t : ℕ)
    (hno : ∀ v < t, ¬Missed (run inp s v) (inp v)) (w : BitVec 30) :
    Reserved inp s w t ↔
      (run inp s t).lsu.exclFlgR = true ∧ wordOf (run inp s t).lsu.exclAddrR = w := by
  induction t with
  | zero =>
    refine iff_of_false Lib.not_since_zero ?_
    rintro ⟨hflg, -⟩
    exact absurd (h0.2.exclFlg.symm.trans hflg) Bool.false_ne_true
  | succ t ih =>
    have ih' := ih fun v hv => hno v (by omega)
    have hmiss := hno t (by omega)
    obtain ⟨hflg, haddr⟩ := step_excl (s := run inp s t) (i := inp t)
    have hflg' : (run inp s (t + 1)).lsu.exclFlgR = _ := hflg
    have haddr' : (run inp s (t + 1)).lsu.exclAddrR = _ := haddr
    rw [Reserved, Lib.since_succ]
    change _ ∨ (Reserved inp s w t ∧ _) ↔ _
    rw [ih', hflg', haddr']
    cases hlr : lr (run inp s t) (inp t)
    case true =>
      have hnok : ¬Keeps (run inp s t) (inp t) w := fun hk =>
        absurd (hk.lr.symm.trans hlr) Bool.false_ne_true
      simp [hnok]
    case false =>
      constructor
      · rintro (⟨h, -⟩ | ⟨⟨hf, hw⟩, hk⟩)
        · cases h
        · have hother : wr (run inp s t) (inp t) = true →
              (aguCmd (run inp s t) (inp t)).addr ≠ (run inp s t).lsu.exclAddrR :=
            fun hwr heq => hk.wr hwr (by rw [heq, hw])
          refine ⟨?_, hw⟩
          rw [hf, hk.sc, hk.trap, hk.mret]
          cases hwr : wr (run inp s t) (inp t)
          · simp
          · simp [hother hwr]
      · rintro ⟨hstay, hw⟩
        rw [Bool.false_or, Bool.and_eq_true, Bool.not_eq_true', Bool.or_eq_false_iff] at hstay
        obtain ⟨hf, hst, hev⟩ := hstay
        have hother : (sc (run inp s t) (inp t) || wr (run inp s t) (inp t)) = true →
            (aguCmd (run inp s t) (inp t)).addr ≠ (run inp s t).lsu.exclAddrR := by
          intro hor
          rw [hor, Bool.true_and, beq_eq_false_iff_ne] at hst
          exact hst
        have hnoev : trap (run inp s t) (inp t) = false ∧ mret (run inp s t) (inp t) = false := by
          rw [← Bool.or_eq_false_iff]
          by_contra hor
          rw [Bool.not_eq_false] at hor
          rw [hor, Bool.and_true] at hev
          exact hmiss ⟨hf, .inr (.inl ⟨hev, (Bool.or_eq_true _ _).mp hor⟩)⟩
        have hnodret : dret (run inp s t) (inp t) = false := by
          by_contra hdret
          exact hmiss ⟨hf, .inr (.inr (Bool.not_eq_false _ ▸ hdret))⟩
        refine .inr ⟨⟨hf, hw⟩, hlr, ?_, fun hwr hword => ?_, hnoev.1, hnoev.2, hnodret⟩
        · by_contra hsc
          rw [Bool.not_eq_false] at hsc
          exact hmiss ⟨hf, .inl ⟨hother (by rw [hsc, Bool.true_or]), .inl hsc⟩⟩
        · exact hmiss ⟨hf, .inl ⟨hother (by rw [hwr, Bool.or_true]), .inr ⟨hwr, hword.trans hw.symm⟩⟩⟩

/-- What is held for the command of cycle `t` until it is answered. -/
structure HeldFor (inp : ℕ → In) (s : State) (t v : ℕ) : Prop where
  vld : (run inp s v).lsu.spltVldR = true
  dat : (run inp s v).lsu.spltDatR =
    LsuCtrl.spltFifoWdat (run inp s t).lsu (aguCmd (run inp s t) (inp t))
  rdwen : Oitf.retRdwen (run inp s v).core.exu.oitf =
    Decode.decRdwen (run inp s t).core.ifu.ifuIrR
  rdidx : Oitf.retRdidx (run inp s v).core.exu.oitf =
    Decode.decRdidx (run inp s t).core.ifu.ifuIrR

theorem HeldFor.start (h0 : IsReset s) (hcmd : cmdHsked (run inp s t) (inp t) = true)
    (hback : (aguCmd (run inp s t) (inp t)).back2agu = false) : HeldFor inp s t (t + 1) := by
  have hst : Core.Steady (run inp s t).core := steady_run h0 t
  have hena := (cmdHsked_iff hst).mp ⟨hcmd, hback⟩
  obtain ⟨-, hagu, -⟩ := ldst_of_cmd hst hcmd hback
  obtain ⟨hvld, hdat⟩ := lsu_of_cmd hcmd
  have hlong : longp (run inp s (t + 1)) = true := by
    have hnext := longp_step (s := run inp s t) (i := inp t)
    rw [hcmd, hback] at hnext
    exact hnext
  -- the tag that was sent with the command is that of the only entry
  have hptr : (run inp s (t + 1)).core.exu.oitf.retPtrR = (run inp s t).core.exu.oitf.alcPtrR := by
    rw [← ((Linked.run h0 (t + 1)).one hlong).2]
    change (step (run inp s t) (inp t)).lsu.spltDatR.usr.itag = _
    rw [hdat, usr_of_cmd hcmd]
    exact aguCmd_itag hagu
  have hoitf : (run inp s (t + 1)).core.exu.oitf = _ := step_oitf (s := run inp s t) (i := inp t)
  rw [hena] at hoitf
  refine ⟨hvld, hdat, ?_, ?_⟩
  · rw [Oitf.retRdwen, Oitf.retPtr, hptr, hoitf]
    simp [Oitf.step, Oitf.vldSet]
    rfl
  · rw [Oitf.retRdidx, Oitf.retPtr, hptr, hoitf]
    simp [Oitf.step, Oitf.vldSet]
    rfl

theorem HeldFor.next (h0 : IsReset s) {v : ℕ} (h : HeldFor inp s t v)
    (hrsp : rspHsked (run inp s v) (inp v) = false) : HeldFor inp s t (v + 1) := by
  have hno := no_cmd_of_full (lsuOk_run h0 v) h.vld hrsp
  obtain ⟨hvld, hdat⟩ := lsu_of_no_cmd hno
  have hena : Exu.oitfEna (run inp s v).core.exu (exuIn (run inp s v) (inp v)) = false := by
    by_contra hena
    rw [Bool.not_eq_false] at hena
    have hbad := (cmd_of_oitfEna (steady_run h0 v) hena).1
    exact absurd (hno.symm.trans hbad) Bool.false_ne_true
  have hlink : Linked (run inp s v) := Linked.run h0 v
  have hret := hlink.retEna_eq (i := inp v) (lsuOk_run h0 v)
  rw [hrsp, Bool.and_false] at hret
  have hoitf : (run inp s (v + 1)).core.exu.oitf = (run inp s v).core.exu.oitf := by
    have hstep : (run inp s (v + 1)).core.exu.oitf = _ :=
      step_oitf (s := run inp s v) (i := inp v)
    rw [hstep, hena, hret, Oitf.step_idle]
  refine ⟨?_, hdat.trans h.dat, ?_, ?_⟩
  · refine hvld.trans ?_
    rw [h.vld, hrsp]
    rfl
  · rw [hoitf, h.rdwen]
  · rw [hoitf, h.rdidx]

theorem Answered.held (h0 : IsReset s) {u : ℕ} (h : Answered inp s t u)
    (hcmd : cmdHsked (run inp s t) (inp t) = true)
    (hback : (aguCmd (run inp s t) (inp t)).back2agu = false) : HeldFor inp s t u := by
  have hall : ∀ n, t + 1 + n ≤ u → HeldFor inp s t (t + 1 + n) := by
    intro n
    induction n with
    | zero => exact fun _ => .start h0 hcmd hback
    | succ n ih =>
      intro hn
      exact (ih (by omega)).next h0 (h.first _ (by omega) (by omega))
  have hlt := h.lt
  have hu := hall (u - (t + 1)) (by omega)
  rwa [Nat.add_sub_cancel' hlt] at hu

/-- The response writes the register of the instruction that issued the command. -/
theorem Answered.rfWrite_eq (h0 : IsReset s) {u : ℕ} (h : Answered inp s t u)
    (hcmd : cmdHsked (run inp s t) (inp t) = true)
    (hback : (aguCmd (run inp s t) (inp t)).back2agu = false)
    (hrd : Decode.decRdwen (run inp s t).core.ifu.ifuIrR = true)
    (herr : rspErr (run inp s u) (inp u) = false) :
    Exu.rfWrite (run inp s u).core.exu (exuIn (run inp s u) (inp u)) =
      some (Decode.decRdidx (run inp s t).core.ifu.ifuIrR, result (run inp s u) (inp u)) := by
  have hheld := h.held h0 hcmd hback
  have hlong : longp (run inp s u) = true := by
    rw [longp, hheld.vld, hheld.dat, usr_of_cmd hcmd, hback]
    rfl
  have hlink : Linked (run inp s u) := Linked.run h0 u
  have hret := hlink.retEna_eq (i := inp u) (lsuOk_run h0 u)
  rw [hlong, h.rsp] at hret
  have hwbck : Exu.longpWbckOValid (run inp s u).core.exu (exuIn (run inp s u) (inp u)) = true := by
    rw [Exu.longpWbckOValid_eq, hret, hheld.rdwen, hrd]
    change (!rspErr (run inp s u) (inp u)) = true
    rw [herr]
    rfl
  rw [Exu.rfWrite_eq, if_pos hwbck, hheld.rdidx]
  rfl

theorem Answered.result_eq (h0 : IsReset s) {u : ℕ} (h : Answered inp s t u)
    (hsc : sc (run inp s t) (inp t) = true) :
    result (run inp s u) (inp u) = if scTrue (run inp s t) (inp t) then 0#32 else 1#32 := by
  obtain ⟨hcmd, hword⟩ := (Bool.and_eq_true _ _).mp hsc
  have hexcl : Decode.isExcl (run inp s t).core.ifu.ifuIrR = true :=
    (Bool.or_eq_true _ _).mpr (.inr hword)
  obtain ⟨hback, hread⟩ := cmd_of_excl (i := inp t) hcmd hexcl
  have hheld := h.held h0 hcmd hback
  have hrdat : LsuCtrl.spltRdat (run inp s u).lsu =
      LsuCtrl.spltFifoWdat (run inp s t).lsu (aguCmd (run inp s t) (inp t)) := by
    rw [LsuCtrl.spltRdat, if_pos hheld.vld, hheld.dat]
  rw [result, LsuCtrl.lsuOWbckWdat, LsuCtrl.preAguIcbRspUsr, LsuCtrl.scExclWdata, hrdat,
    usr_of_cmd hcmd, hread, (rv32ScW_bits hword).1, cmd_excl hcmd, hexcl, if_pos (by rfl)]
  change (if LsuCtrl.arbtIcbCmdScondTrue _ _ = true then _ else _) = _
  rw [scondTrue_eq hcmd hword]

/-- The monitor decides both what a store-conditional writes and what it returns. -/
theorem outcome_scTrue (h0 : IsReset s) (t : ℕ) (hsc : sc (run inp s t) (inp t) = true) :
    Outcome inp s t (scTrue (run inp s t) (inp t) = true) := by
  obtain ⟨hcmd, hword⟩ := (Bool.and_eq_true _ _).mp hsc
  have hmask := wmask_eq (steady_run h0 t) hcmd hword
  constructor
  · intro hok
    rw [hmask, if_pos hok]
  · intro hno
    rw [hmask, if_neg hno]
  · intro hok u hu
    rw [hu.result_eq h0 hsc, if_pos hok]
  · intro hno u hu
    rw [hu.result_eq h0 hsc, if_neg hno]
  · intro hrd u hu herr
    have hexcl : Decode.isExcl (run inp s t).core.ifu.ifuIrR = true :=
      (Bool.or_eq_true _ _).mpr (.inr hword)
    exact hu.rfWrite_eq h0 hcmd (cmd_of_excl hcmd hexcl).1 hrd herr

/-- A store-conditional writes its word and returns 0, or writes nothing and returns 1, by one decision.
It succeeds exactly when the last load-reserved was to the same word and nothing has ended its
reservation, if no end of a reservation was missed before. -/
theorem lr_sc (h0 : IsReset s) (t : ℕ) (hsc : sc (run inp s t) (inp t) = true) :
    (∃ ok, Outcome inp s t ok) ∧
      ((∀ v < t, ¬Missed (run inp s v) (inp v)) →
        Outcome inp s t (Reserved inp s (wordOf (aguCmd (run inp s t) (inp t)).addr) t)) := by
  have hout := outcome_scTrue h0 t hsc
  refine ⟨⟨_, hout⟩, fun hno => ?_⟩
  have hiff : (scTrue (run inp s t) (inp t) = true) =
      Reserved inp s (wordOf (aguCmd (run inp s t) (inp t)).addr) t := by
    obtain ⟨hcmd, hword⟩ := (Bool.and_eq_true _ _).mp hsc
    have hexcl : Decode.isExcl (run inp s t).core.ifu.ifuIrR = true :=
      (Bool.or_eq_true _ _).mpr (.inr hword)
    have halgn := (excl_aligned (steady_run h0 t) hcmd hexcl).1
    rw [eq_iff_iff, reserved_iff h0 t hno, scTrue, Bool.and_eq_true, beq_iff_eq, and_comm]
    refine and_congr_right fun _ => ⟨fun heq => by rw [heq], fun heq => ?_⟩
    exact (addr_eq_of_wordOf (exclAddr_aligned h0 t) halgn heq).symm
  rw [← hiff]
  exact hout

end

/-- The words `l`, from the first fetch on; the DTCM answers each command in the next cycle. -/
def fetched (l : List (BitVec 32)) (t : ℕ) : In :=
  { In.quiet with
    ifuRspValid := decide (2 ≤ t ∧ t < 2 + l.length)
    ifuRspInstr := (l[t - 2]?).getD 0#32
    dtcm := ⟨true, decide (4 ≤ t), false, 0x55#32⟩ }

/-- All registers hold an address in the DTCM. -/
def pointers : State := State.reset fun _ => 0x90000000#32

/-- `lr.w x3, (x1); sc.w x4, x2, (x1)`. -/
def lrSc : ℕ → In := fetched [0x1000a1af#32, 0x1820a22f#32]

theorem lr_sc_lrSc :
    Reserved lrSc pointers 0x24000000#30 4 ∧
      Outcome lrSc pointers 4 (Reserved lrSc pointers 0x24000000#30 4) := by
  have hsc : sc (run lrSc pointers 4) (lrSc 4) = true := by decide +kernel
  have hword : wordOf (aguCmd (run lrSc pointers 4) (lrSc 4)).addr = 0x24000000#30 := by
    decide +kernel
  have hflg : ∀ v < 4, (run lrSc pointers v).lsu.exclFlgR = false := by decide +kernel
  have hrun := (lr_sc (s := pointers) (State.isReset_reset _) 4 hsc).2 fun v hv hm =>
    absurd ((hflg v hv).symm.trans hm.flag) Bool.false_ne_true
  rw [hword] at hrun
  refine ⟨⟨3, by omega, by decide +kernel, fun v h1 h2 => ?_⟩, hrun⟩
  omega

/-- `lr.w x3, (x1); sb x2, 1(x1); sc.w x4, x2, (x1)`: the store is to another byte of the word. -/
def lrSbSc : ℕ → In := fetched [0x1000a1af#32, 0x002080a3#32, 0x1820a22f#32]

theorem not_reserved_lrSbSc : ¬Reserved lrSbSc pointers 0x24000000#30 5 := by
  rintro ⟨u, hu, ⟨hlr, -⟩, hk⟩
  have hlast : ∀ v < 5, lr (run lrSbSc pointers v) (lrSbSc v) = true → v = 3 := by decide +kernel
  obtain rfl := hlast u hu hlr
  refine (hk 4 (by omega) (by omega)).wr ?_ ?_ <;> decide +kernel

/-- `lr.w x3, (x1); nop; mret; sc.w x4, x2, (x1)`: the load has been answered when the return is
taken, and the clock of the monitor is off. -/
def lrMretSc : ℕ → In :=
  fetched [0x1000a1af#32, 0x00000013#32, 0x30200073#32, 0x30200073#32, 0x1820a22f#32]

theorem not_reserved_lrMretSc : ¬Reserved lrMretSc pointers 0x24000000#30 7 := by
  rintro ⟨u, hu, ⟨hlr, -⟩, hk⟩
  have hlast : ∀ v < 7, lr (run lrMretSc pointers v) (lrMretSc v) = true → v = 3 := by
    decide +kernel
  obtain rfl := hlast u hu hlr
  have hno := (hk 5 (by omega) (by omega)).mret
  revert hno
  decide +kernel

/-- The debug mode is entered in cycle 3; its program is `lr.w x3, (x1); nop; dret`, and
`sc.w x4, x2, (x1)` is where the return goes.  The other words are discarded. -/
def lrDretSc (t : ℕ) : In :=
  { fetched [0x00000013#32, 0x00000013#32, 0x1000a1af#32, 0x00000013#32, 0x7b200073#32, 0x00000013#32,
      0x1820a22f#32] t with dbgIrqR := t == 3 }

theorem not_reserved_lrDretSc : ¬Reserved lrDretSc pointers 0x24000000#30 9 := by
  rintro ⟨u, hu, ⟨hlr, -⟩, hk⟩
  have hlast : ∀ v < 9, lr (run lrDretSc pointers v) (lrDretSc v) = true → v = 5 := by
    decide +kernel
  obtain rfl := hlast u hu hlr
  have hno := (hk 7 (by omega) (by omega)).dret
  revert hno
  decide +kernel

/-- A store-conditional without a reservation that writes. -/
def Wrong (inp : ℕ → In) (s : State) (t : ℕ) : Prop :=
  sc (run inp s t) (inp t) = true ∧ wmask (run inp s t) (inp t) = 0xF#4 ∧
    ¬Outcome inp s t (Reserved inp s (wordOf (aguCmd (run inp s t) (inp t)).addr) t)

theorem wrong_of_not_reserved {inp : ℕ → In} {s : State} {t : ℕ} {w : BitVec 30}
    (hsc : sc (run inp s t) (inp t) = true) (hmask : wmask (run inp s t) (inp t) = 0xF#4)
    (hword : wordOf (aguCmd (run inp s t) (inp t)).addr = w) (hno : ¬Reserved inp s w t) :
    Wrong inp s t := by
  refine ⟨hsc, hmask, fun hout => ?_⟩
  rw [hword] at hout
  cases (hout.noWrite hno).symm.trans hmask

/-- The fetch adapter answers only what is outstanding. -/
theorem rspOutstanding_of_window {inp : ℕ → In} {s : State} {n : ℕ}
    (hout : ∀ k < n, (run inp s (2 + k)).core.ifu.outFlagR = true) {t : ℕ}
    (ht : 2 ≤ t ∧ t < 2 + n) : (run inp s t).core.ifu.outFlagR = true := by
  obtain ⟨k, rfl⟩ := Nat.exists_eq_add_of_le ht.1
  exact hout k (by omega)

/-- All three succeed: after a store to the word, after an `MRET` and after a `DRET`. -/
theorem sc_without_reservation :
    IsReset pointers ∧ Wrong lrSbSc pointers 5 ∧ Wrong lrMretSc pointers 7 ∧
      Wrong lrDretSc pointers 9 ∧
      (∀ t, (lrSbSc t).ifuRspValid = true →
        (run lrSbSc pointers t).core.ifu.outFlagR = true) ∧
      (∀ t, (lrMretSc t).ifuRspValid = true →
        (run lrMretSc pointers t).core.ifu.outFlagR = true) ∧
      ∀ t, (lrDretSc t).ifuRspValid = true →
        (run lrDretSc pointers t).core.ifu.outFlagR = true := by
  refine ⟨State.isReset_reset _, ?_, ?_, ?_, fun t ht => ?_, fun t ht => ?_, fun t ht => ?_⟩
  · refine wrong_of_not_reserved ?_ ?_ ?_ not_reserved_lrSbSc <;> decide +kernel
  · refine wrong_of_not_reserved ?_ ?_ ?_ not_reserved_lrMretSc <;> decide +kernel
  · refine wrong_of_not_reserved ?_ ?_ ?_ not_reserved_lrDretSc <;> decide +kernel
  · exact rspOutstanding_of_window (n := 3) (by decide +kernel) (of_decide_eq_true ht)
  · exact rspOutstanding_of_window (n := 5) (by decide +kernel) (of_decide_eq_true ht)
  · exact rspOutstanding_of_window (n := 7) (by decide +kernel) (of_decide_eq_true ht)

end CoreLsu
end E203
