import E203.Csr.Access
import E203.Lib.Counter

/-! # Retired instructions

* `Csr.instret`: the 64-bit counter; `Csr.instret_step`: what a cycle does to it.
* `Exu.raises`, `Exu.cmtInstretEna_eq`: what raises an exception, and what is counted.
* `CoreCsr.Retires`, `expected`: the instructions that retire, and the counter that counts them.
* `instret_eq_expected_iff`: over a run.
-/

namespace E203
set_option autoImplicit false

/-! ## The counter -/

namespace Csr

/-- `{minstreth, minstret}`. -/
def instret (s : State) : BitVec 64 := s.minstrethR ++ s.minstretR

/-- The value `v` with the halves that are written replaced by `x`. -/
def putHalves (wrh wrl : Bool) (x : BitVec 32) (v : BitVec 64) : BitVec 64 :=
  (if wrh then x else v.extractLsb' 32 32) ++ (if wrl then x else v.extractLsb' 0 32)

theorem putHalves_append (wrh wrl : Bool) (x h l : BitVec 32) :
    putHalves wrh wrl x (h ++ l) = (if wrh then x else h) ++ (if wrl then x else l) := by
  rw [putHalves, BitVec.extractLsb'_append_eq_left, BitVec.extractLsb'_append_eq_right]

theorem putHalves_of_not (x : BitVec 32) (v : BitVec 64) : putHalves false false x v = v := by
  rw [putHalves, if_neg Bool.false_ne_true, if_neg Bool.false_ne_true]
  exact Lib.append_parts (a := 32) (b := 32) v

theorem instret_step (s : State) (i : In) :
    instret (step s i) =
      putHalves (wrEna i 0xB82#12) (wrEna i 0xB02#12) i.wbckCsrDat
        (if !irStop s && !stopCycleInDbg i && i.cmtInstretEna then instret s + 1#64
        else instret s) := by
  have hstep : instret (step s i) =
      dfflr (minstrethEna s i) (counterNxt i (wrEna i 0xB82#12) s.minstrethR) s.minstrethR ++
        dfflr (minstretEna s i) (counterNxt i (wrEna i 0xB02#12) s.minstretR) s.minstretR := rfl
  have hcarry := Lib.append_add_one s.minstrethR s.minstretR
  rw [hstep, minstrethEna, minstretEna, instret]
  cases hc : !irStop s && !stopCycleInDbg i && i.cmtInstretEna
  · have hc' : (!irStop s && !stopCycleInDbg i &&
        (i.cmtInstretEna && s.minstretR == BitVec.allOnes 32)) = false := by
      rw [← Bool.and_assoc, hc, Bool.false_and]
    rw [hc', if_neg Bool.false_ne_true, putHalves_append]
    cases wrEna i 0xB82#12 <;> cases wrEna i 0xB02#12 <;> rfl
  · rw [← Bool.and_assoc, hc, Bool.true_and, if_pos rfl, hcarry, putHalves_append]
    by_cases hmax : s.minstretR = BitVec.allOnes 32
    · rw [if_pos hmax, beq_iff_eq.mpr hmax]
      cases wrEna i 0xB82#12 <;> cases wrEna i 0xB02#12 <;> rfl
    · rw [if_neg hmax, beq_false_of_ne hmax]
      cases wrEna i 0xB82#12 <;> cases wrEna i 0xB02#12 <;> rfl

end Csr

/-! ## The instruction that commits -/

namespace Exu
section
variable (s : State) (i : In)

/-- The instruction in the ALU raises an exception, or is a breakpoint into debug mode. -/
def raises : Bool :=
  Excp.aluNeedFlush (cmtCtl s i).toCtl (aluCmt s i).toAlu ||
    Excp.aluExcpIEbreak4dbg (cmtCtl s i).toCtl (aluCmt s i).toAlu

/-- It is a mispredicted branch or jump, a `FENCE.I` or a return. -/
def redirects : Bool := Branchslv.brchmisNeedFlush (branchslv s i)

end

section
variable {s : State} {i : In}

/-- A commit counts unless the instruction redirects the fetch. -/
theorem cmtInstretEna_eq : (csrIn s i).cmtInstretEna = (cmtEna s i && !redirects s i) := by
  have hreq : (csrIn s i).cmtInstretEna =
      (cmtEna s i && !Branchslv.brchmisFlushReq (branchslv s i) (aluCmtValid s i)) := rfl
  rw [hreq]
  cases hcmt : cmtEna s i
  · rfl
  · obtain ⟨hvalid, hready⟩ := (Bool.and_eq_true _ _).mp hcmt
    have hbr : Branchslv.cmtIReady (branchslv s i) = true := ((Bool.and_eq_true _ _).mp hready).2
    rw [Branchslv.brchmisFlushReq, Branchslv.brchmisFlushReqPre, redirects, hvalid]
    cases hneed : Branchslv.brchmisNeedFlush (branchslv s i)
    · rfl
    · -- a commit of a control transfer means that no event is pending
      have hbranch : Branchslv.cmtIIsBranch (branchslv s i) = true := by
        rw [Branchslv.brchmisNeedFlush] at hneed
        rw [Branchslv.cmtIIsBranch]
        revert hneed
        cases (branchslv s i).cmtIBjp <;> simp
      rw [Branchslv.cmtIReady, hbranch, Bool.not_true, Bool.false_or, Bool.and_eq_true,
        Bool.not_eq_true'] at hbr
      rw [hbr.2]
      rfl

theorem op_of_redirects (h : redirects s i = true) : Alu.op (alu s i) = .bjp := by
  obtain ⟨hb, hf, hm, hd, -⟩ := branchslv_flags (s := s) (i := i)
  obtain ⟨-, -, -, hop, -⟩ := Alu.op_eq (alu s i)
  have hbjp : Alu.bjpOp (alu s i) = true := by
    rw [redirects, Branchslv.brchmisNeedFlush, hb, hf, hm, hd] at h
    revert h
    cases Alu.bjpOp (alu s i) <;> simp
  exact of_decide_eq_true (hop.symm.trans hbjp)

theorem raises_eq_false (h : Alu.op (alu s i) = .bjp ∨ Alu.op (alu s i) = .csr) :
    raises s i = false := by
  obtain ⟨hneed, hebrk⟩ := no_excp_of_op h
  rw [raises, hneed, Excp.aluExcpIEbreak4dbg, hebrk]
  rfl

theorem op_of_oitfEna (h : oitfEna s i = true) : Alu.op (alu s i) = .agu := by
  obtain ⟨-, -, hop, -⟩ := Alu.op_eq (alu s i)
  exact of_decide_eq_true (hop.symm.trans (oitfEna_disReady h).2.1)

/-- The write enable of a CSR of the file is that of a committing CSR instruction. -/
theorem wrEna_eq {n : BitVec 12} (hn : isExt n = false) :
    Csr.wrEna (csrIn s i) n = (csrWriteCmt s i && csrIdx s i == n) := by
  have hwr : Csr.wrEna (csrIn s i) n =
      ((csrIdx s i == n && csrWrEn s i) && (csrWrEn s i && csrEna s i)) := rfl
  rw [hwr]
  cases hcmt : csrWriteCmt s i
  · cases hen : csrWrEn s i && csrEna s i
    · rw [Bool.and_false, Bool.false_and]
    · obtain ⟨hw, he⟩ := (Bool.and_eq_true _ _).mp hen
      rw [csrWriteCmt_of_wen hw (.inl he)] at hcmt
      cases hcmt
  · cases hidx : csrIdx s i == n
    · rw [Bool.false_and, Bool.false_and, Bool.and_false]
    · have hop := (csrWriteCmt_facts hcmt).1
      simp only [csrWriteCmt, Bool.and_eq_true] at hcmt
      obtain ⟨⟨hcsr, hw⟩, hc⟩ := hcmt
      rw [cmtEna, Commit.cmtEna, aluCmtValid, Alu.cmtOValid, Bool.and_eq_true, Bool.and_eq_true,
        Bool.and_eq_true] at hc
      obtain ⟨⟨⟨-, hov⟩, hwb⟩, hready⟩ := hc
      obtain ⟨hexcp, halu, hagu, hbjp, -, hmdv⟩ := Alu.op_eq (alu s i)
      simp only [hop, reduceCtorEq, decide_false] at hexcp halu hagu hbjp hmdv
      have hvalid : Csrctrl.csrOValid (Alu.csr (alu s i)) = true := by
        simpa [Alu.oValid, hcsr, hexcp, halu, hagu, hbjp, hmdv] using hov
      have hor : aluOReady s i = true := by
        rw [aluOReady, Alu.oReady, hwb, Bool.and_true]
        exact hready
      have hsel : Csrctrl.selEai (Alu.csr (alu s i)) = false := by
        have hidx' : Csrctrl.csrIdx (Alu.csr (alu s i)) = n := eq_of_beq hidx
        rw [Csrctrl.selEai, Csrctrl.csrSelEai, hidx']
        exact (Bool.and_true _).trans hn
      rw [hw, csrEna, Csrctrl.csrEna, hvalid, hcsr, hor, hsel]
      rfl

end
end Exu

/-! ## Runs -/

namespace CoreCsr
section
variable (inp : ℕ → In) (s : State) (t : ℕ)

def exuAt : Exu.State := (run inp s t).core.exu
def exuInAt : Exu.In := exuIn (run inp s t) (inp t)

/-- Outside debug mode, with counting not stopped. -/
def Counting : Prop := Exu.dbgMode (exuAt inp s t) = false ∧ Csr.irStop (run inp s t).csr = false

/-- An instruction commits in cycle `t`. -/
def Commits : Prop := Exu.cmtEna (exuAt inp s t) (exuInAt inp s t) = true

def allocatedAt : Bool := Exu.oitfEna (exuAt inp s t) (exuInAt inp s t)
def answeredAt : Bool := Exu.oitfRetEna (exuAt inp s t) (exuInAt inp s t)

/-- The load or store allocated in cycle `t` is answered with a bus error: the answers come in the
order of the allocations. -/
def FaultsLater : Prop :=
  allocatedAt inp s t = true ∧
    ∃ u, answeredAt inp s u = true ∧
      Nat.count (fun v => answeredAt inp s v = true) u =
        Nat.count (fun v => allocatedAt inp s v = true) t ∧
      Exu.longpExcpOValid (exuAt inp s u) (exuInAt inp s u) = true

/-- An instruction retires in cycle `t`: it commits and raises no exception, then or later. -/
def Retires : Prop :=
  Commits inp s t ∧ Exu.raises (exuAt inp s t) (exuInAt inp s t) = false ∧ ¬FaultsLater inp s t

/-- The write of a CSR instruction to a half of the counter. -/
def putAt (v : BitVec 64) : BitVec 64 :=
  Csr.putHalves
    (Exu.csrWriteCmt (exuAt inp s t) (exuInAt inp s t) &&
      Exu.csrIdx (exuAt inp s t) (exuInAt inp s t) == 0xB82#12)
    (Exu.csrWriteCmt (exuAt inp s t) (exuInAt inp s t) &&
      Exu.csrIdx (exuAt inp s t) (exuInAt inp s t) == 0xB02#12)
    (csrIn (run inp s t) (inp t)).wbckCsrDat v

open Classical in
/-- The counter that counts the retired instructions. -/
noncomputable def expected : ℕ → BitVec 64 :=
  Lib.tally (putAt inp s) (fun t => Counting inp s t ∧ Retires inp s t) (Csr.instret s.csr)

/-- A committing instruction that the counter counts as it should: it neither redirects the fetch nor
raises an exception, and its access does not fault later. -/
def Plain : Prop :=
  Exu.redirects (exuAt inp s t) (exuInAt inp s t) = false ∧
    Exu.raises (exuAt inp s t) (exuInAt inp s t) = false ∧ ¬FaultsLater inp s t

end

section
variable {inp : ℕ → In} {s : State} {t : ℕ}

theorem putAt_of_not_write (h : Exu.csrWriteCmt (exuAt inp s t) (exuInAt inp s t) = false)
    (v : BitVec 64) : putAt inp s t v = v := by
  rw [putAt, h, Bool.false_and, Bool.false_and, Csr.putHalves_of_not]

open Classical in
/-- The counter of the core counts the commits that do not redirect the fetch. -/
theorem instret_eq_tally (inp : ℕ → In) (s : State) (t : ℕ) :
    Csr.instret (run inp s t).csr =
      Lib.tally (putAt inp s) (fun t => Counting inp s t ∧ Commits inp s t ∧
        Exu.redirects (exuAt inp s t) (exuInAt inp s t) = false) (Csr.instret s.csr) t := by
  induction t with
  | zero => rfl
  | succ t ih =>
    have hstep : (run inp s (t + 1)).csr =
        Csr.step (run inp s t).csr (Exu.csrIn (exuAt inp s t) (exuInAt inp s t)) := rfl
    have hcounts : ((!Csr.irStop (run inp s t).csr &&
        !Csr.stopCycleInDbg (Exu.csrIn (exuAt inp s t) (exuInAt inp s t)) &&
        (Exu.csrIn (exuAt inp s t) (exuInAt inp s t)).cmtInstretEna) = true) =
        (Counting inp s t ∧ Commits inp s t ∧
          Exu.redirects (exuAt inp s t) (exuInAt inp s t) = false) := by
      have hdbg : Csr.stopCycleInDbg (Exu.csrIn (exuAt inp s t) (exuInAt inp s t)) =
          Exu.dbgMode (exuAt inp s t) := Bool.true_and _
      rw [hdbg, Exu.cmtInstretEna_eq, Counting, Commits]
      simp only [Bool.and_eq_true, Bool.not_eq_true', eq_iff_iff]
      exact ⟨fun ⟨⟨h1, h2⟩, h3⟩ => ⟨⟨h2, h1⟩, h3⟩, fun ⟨⟨h1, h2⟩, h3⟩ => ⟨⟨h2, h1⟩, h3⟩⟩
    rw [hstep, Csr.instret_step, Exu.wrEna_eq rfl, Exu.wrEna_eq rfl, ih, Lib.tally, putAt]
    congr 1
    exact if_congr (iff_of_eq hcounts) rfl rfl

/-- What is not plain is no CSR instruction. -/
theorem not_csr_of_not_plain (h : ¬Plain inp s t) :
    Exu.csrWriteCmt (exuAt inp s t) (exuInAt inp s t) = false := by
  by_contra hcsr
  have hop := (Exu.csrWriteCmt_facts (Bool.not_eq_false _ ▸ hcsr)).1
  refine h ⟨?_, Exu.raises_eq_false (.inr hop), fun hlater => ?_⟩
  · by_contra hred
    have hbjp := Exu.op_of_redirects (Bool.not_eq_false _ ▸ hred)
    rw [hop] at hbjp
    cases hbjp
  · have hagu := Exu.op_of_oitfEna hlater.1
    rw [hop] at hagu
    cases hagu

/-- What redirects the fetch raises nothing. -/
theorem retires_of_redirects (hcmt : Commits inp s t)
    (h : Exu.redirects (exuAt inp s t) (exuInAt inp s t) = true) : Retires inp s t := by
  have hop := Exu.op_of_redirects h
  refine ⟨hcmt, Exu.raises_eq_false (.inl hop), fun hlater => ?_⟩
  have hagu := Exu.op_of_oitfEna hlater.1
  rw [hop] at hagu
  cases hagu

theorem counted_iff_retires : (Commits inp s t ∧
      Exu.redirects (exuAt inp s t) (exuInAt inp s t) = false ↔ Retires inp s t) ↔
    (Commits inp s t → Plain inp s t) := by
  constructor
  · intro h hcmt
    cases hred : Exu.redirects (exuAt inp s t) (exuInAt inp s t)
    · obtain ⟨-, hraises, hlater⟩ := h.mp ⟨hcmt, hred⟩
      exact ⟨hred, hraises, hlater⟩
    · have hno := (h.mpr (retires_of_redirects hcmt hred)).2
      rw [hred] at hno
      cases hno
  · intro h
    constructor
    · rintro ⟨hcmt, -⟩
      exact ⟨hcmt, (h hcmt).2⟩
    · rintro ⟨hcmt, -⟩
      exact ⟨hcmt, (h hcmt).1⟩

open Classical in
/-- In every run the counter is the number of retired instructions throughout, apart from explicit
writes, exactly if the instructions that commit while it counts are all plain. -/
theorem instret_eq_expected_iff (inp : ℕ → In) (s : State) :
    (∀ t, Csr.instret (run inp s t).csr = expected inp s t) ↔
      ∀ t, Counting inp s t → Commits inp s t → Plain inp s t := by
  have hsame : ∀ t, ((Counting inp s t ∧ Commits inp s t ∧
        Exu.redirects (exuAt inp s t) (exuInAt inp s t) = false) ↔
          (Counting inp s t ∧ Retires inp s t)) ↔
      (Counting inp s t → Commits inp s t → Plain inp s t) := by
    intro t
    rw [and_congr_right_iff]
    exact forall_congr' fun _ => counted_iff_retires
  simp only [instret_eq_tally, expected]
  rw [Lib.tally_eq_iff (by omega), forall_congr' hsame]
  intro t hno x
  apply putAt_of_not_write
  by_contra hcsr
  refine hno ((hsame t).mpr fun _ _ => ?_)
  by_contra hplain
  exact hcsr (not_csr_of_not_plain hplain)

/-- A cycle in which nothing retires and nothing is written. -/
theorem expected_succ_of_quiet
    (h : Exu.cmtEna (exuAt inp s t) (exuInAt inp s t) = false ∨
      Exu.raises (exuAt inp s t) (exuInAt inp s t) = true)
    (hwr : Exu.csrWriteCmt (exuAt inp s t) (exuInAt inp s t) = false) :
    expected inp s (t + 1) = expected inp s t := by
  have hno : ¬(Counting inp s t ∧ Retires inp s t) := by
    rintro ⟨-, hcmt, hraises, -⟩
    obtain h | h := h
    · exact absurd (hcmt.symm.trans h) (by decide)
    · exact absurd (hraises.symm.trans h) (by decide)
  rw [expected, Lib.tally, if_neg hno, putAt_of_not_write hwr]

/-- `ECALL` raises an exception and is counted. -/
theorem instret_counts_ecall :
    ¬∀ t, Csr.instret (run (fetched 0x00000073#32) zeroState t).csr =
      expected (fetched 0x00000073#32) zeroState t := by
  have hactual : Csr.instret (run (fetched 0x00000073#32) zeroState 4).csr = 1#64 := by
    decide +kernel
  have hexpected : expected (fetched 0x00000073#32) zeroState 4 = 0#64 := by
    rw [expected_succ_of_quiet (.inr (by decide +kernel)) (by decide +kernel),
      expected_succ_of_quiet (.inl (by decide +kernel)) (by decide +kernel),
      expected_succ_of_quiet (.inl (by decide +kernel)) (by decide +kernel),
      expected_succ_of_quiet (.inl (by decide +kernel)) (by decide +kernel)]
    rfl
  intro h
  have heq := h 4
  rw [hactual, hexpected] at heq
  exact absurd heq (by decide)

/-- `MRET` retires and is not counted. -/
example : Exu.cmtEna (exuAt (fetched 0x30200073#32) zeroState 3)
      (exuInAt (fetched 0x30200073#32) zeroState 3) = true ∧
    Csr.instret (run (fetched 0x30200073#32) zeroState 4).csr = 0#64 := by
  decide +kernel

end
end CoreCsr
end E203
