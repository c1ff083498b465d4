import E203.Arch.Pc
import E203.Arch.Regs
import E203.Exec.Fuse

/-! # What a multiplication or division writes

* `Muldiv.Busy.wdat`: the response of an operation under way.
* `Core.Fused.result`: the response, whether it is computed, a special case, or from the buffers.
* `Core.muldiv_commits`: without a stale mark what commits writes the RV32M result of its
  registers.
-/

namespace E203
set_option autoImplicit false

namespace Muldiv
section
variable {op : MulDivOp} {a b : BitVec 32} {e : Env} {u : Unit}

theorem Busy.wdat (h : Cycle op a b e u) (hbusy : Busy op a b u) (hval : u.oValid e = true) :
    u.oWbckWdat e = rv32m op a b := by
  cases hbusy with
  | @mul k hmul hk1 hk inv =>
    have hm : MulCycle op a b e u := ⟨h, hmul⟩
    have hov : u.oValid e = decide (u.mdv.execCntR = 16#6) := hm.oValid_exec inv.sta
    obtain hlt | rfl : k ≤ 15 ∨ k = 16 := by omega
    · rw [inv.cnt, decide_eq_false (cnt_ne_last hlt)] at hov
      exact absurd (hov.symm.trans hval) Bool.false_ne_true
    · exact hm.wdat_eq inv
  | exec hdiv hs hk inv =>
    have hov := (h.div hdiv hs).oValid_eq
    simp [Unit.oValid, hov, inv.sta] at hval
  | remdChck hdiv hs inv =>
    have hd := h.div hdiv hs
    have hov := hd.oValid_eq
    refine hd.wdat_chck hs inv ?_
    simpa [Unit.oValid, hov, inv.sta] using hval
  | quotCorr hdiv hs inv hcor =>
    have hov := (h.div hdiv hs).oValid_eq
    simp [Unit.oValid, hov, inv.sta] at hval
  | remdCorr hdiv hs inv hcor => exact (h.div hdiv hs).wdat_corr hs inv hcor

end
end Muldiv

theorem Decode.transfers_of_isMulDiv {op : MulDivOp} {w : BitVec 32} (h : isMulDiv op w = true) :
    transfers w = false := by
  obtain ⟨-, -, hbjp, hmret, hdret, hfence⟩ := muldivOp_disjoint (isMulDiv_iff.mp h).1
  have hfencei : rv32FenceI w = false := by
    have hmisc : rv32Miscmem w = false := hfence
    rw [rv32FenceI, hmisc, Bool.false_and]
  rw [transfers, hbjp, hfencei, hmret, hdret]
  rfl

namespace Exu
section
variable {s : State} {i : In}

/-- Only an instruction without a destination does not write the response. -/
theorem oNeedWbck_of_mdv (hop : Alu.op (alu s i) = .mdv) :
    Alu.oNeedWbck s.alu (alu s i) = Decode.decRdwen i.iIr := by
  obtain ⟨hexcp, halu, hagu, hbjp, hcsr, hmdv⟩ := Alu.op_eq (alu s i)
  simp only [hop, decide_true, reduceCtorEq, decide_false] at hexcp halu hagu hbjp hcsr hmdv
  have hwen : (alu s i).iRdwen = Decode.decRdwen i.iIr := rfl
  simp [Alu.oNeedWbck, Alu.wbckORdwen, Alu.iLongpipe, Alu.mdvILongpipe, Alu.wbckOErr, hexcp, halu,
    hagu, hbjp, hcsr, hwen]

end
end Exu

namespace Core
section
variable {op : MulDivOp} {s : State} {i : In}

/-- The response belongs to the instruction in the IR, on whichever path it was found. -/
theorem Fused.result (h : Fused i.mdvNob2b s)
    (hidx : s.ifu.irValidR = true → Exu.Indexed (exuIn s i))
    (hop : Decode.isMulDiv op s.ifu.ifuIrR = true) (herr : s.ifu.ifuErrR = false)
    (hflush : Exu.pipeFlushReq s.exu (exuIn s i) = false)
    (hval : (Exu.mdvUnit s.exu).oValid (Exu.mdvEnv s.exu (exuIn s i)) = true) :
    Alu.wbckOWdat s.exu.alu (Exu.alu s.exu (exuIn s i)) =
      rv32m op (rs1 s s.ifu.ifuIrR) (rs2 s s.ifu.ifuIrR) := by
  have hmdv := mdvOp_of_isMulDiv (i := i) hop herr
  have hd : (Exu.alu s.exu (exuIn s i)).iValid = true := by
    have hiv : (Exu.mdvEnv s.exu (exuIn s i)).iValid = true := ((Bool.and_eq_true _ _).mp hval).2
    exact ((Bool.and_eq_true _ _).mp hiv).1
  have hidx' := hidx ((Bool.and_eq_true _ _).mp hd).2
  obtain ⟨-, -, h1, h2, hbits, hb2b⟩ := mdvEnv_of_isMulDiv (i := i) hop herr hidx'
  cases hseq : (s.ifu.ifuMuldivB2bR && !s.exu.alu.mdv.flushedR && !i.mdvNob2b)
  case true =>
    have hans : Answered s i := by
      refine ⟨hd, hmdv, ?_⟩
      rw [← hb2b] at hseq
      exact hseq
    obtain ⟨op', hop', hwdat⟩ := h.wdat hidx hans
    obtain rfl := Decode.isMulDiv_unique hop hop'
    exact hwdat
  case false =>
    rw [Exu.wbckOWdat_of_mdv (Exu.op_of_isMulDiv (s := s.exu) (i := exuIn s i) hop herr rfl).1]
    by_cases hsta : s.exu.alu.mdv.sta = .zeroTh
    · have hnone : Muldiv.iValidNb2b ((Exu.mdvEnv s.exu (exuIn s i)).ports (Exu.mdvUnit s.exu))
          s.exu.alu.mdv = false := by
        by_contra hstart
        have hbusy := busy_of_start hop herr hidx' hsta hflush (Bool.not_eq_false _ ▸ hstart)
        exact Bool.false_ne_true (hbusy.2.2.1.symm.trans hval)
      rw [iValidNb2b_eq hop herr hidx', hd, hseq] at hnone
      have hspec : op.isDiv = true ∧
          Muldiv.IsSpecial op (rs1 s s.ifu.ifuIrR) (rs2 s s.ifu.ifuIrR) := by
        simpa using hnone
      exact Muldiv.wdat_special ⟨h1, h2⟩ hbits hspec.1 hspec.2
    · obtain ⟨op', hop', hbusy⟩ := (h.working hsta).busy
      obtain rfl := Decode.isMulDiv_unique hop hop'
      exact hbusy.wdat (cycle_of_dispatched hop herr hidx' hd hflush hseq) hval

end

section
variable {inp : ℕ → In} {s : State} {c : Csr.State} {t : ℕ} {op : MulDivOp}

/-- The result of a multiplication or division that commits. -/
theorem wdat_of_muldiv (h0 : IsReset s)
    (hcsr : ∀ u ≤ t, (inp u).mdvNob2b = Csr.mdvNob2b (csrRun inp s c u))
    (hclean : ∀ u < t, ¬StaleMark (run inp s u) (inp u))
    (hop : Decode.isMulDiv op (run inp s t).ifu.ifuIrR = true)
    (hcmt : Exu.cmtEna (run inp s t).exu (exuIn (run inp s t) (inp t)) = true)
    (hflush : Exu.pipeFlushReq (run inp s t).exu (exuIn (run inp s t) (inp t)) = false) :
    Alu.oNeedWbck (run inp s t).exu.alu (Exu.alu (run inp s t).exu (exuIn (run inp s t) (inp t))) =
        Decode.decRdwen (run inp s t).ifu.ifuIrR ∧
      Alu.wbckOWdat (run inp s t).exu.alu (Exu.alu (run inp s t).exu (exuIn (run inp s t) (inp t))) =
        rv32m op (rs1 (run inp s t) (run inp s t).ifu.ifuIrR)
          (rs2 (run inp s t) (run inp s t).ifu.ifuIrR) := by
  have hsteady : Steady (run inp s t) := Steady.run h0 t
  have hleave := hsteady.iHsked_of_cmtEna hcmt
  have herr := hsteady.no_buserr hleave hflush
  have hmdv := (Exu.op_of_isMulDiv (s := (run inp s t).exu) (i := exuIn (run inp s t) (inp t)) hop
    herr rfl).1
  refine ⟨Exu.oNeedWbck_of_mdv hmdv, ?_⟩
  rw [Exu.iHsked_of_mdv hmdv, Bool.and_eq_true] at hleave
  exact (Fused.run h0 hcsr hclean).result (indexed h0 t) hop herr hflush hleave.1

/-- In a run without a stale back-to-back mark a multiplication or division that commits without a trap
writes the RV32M result of its registers, unless its destination is `x0`. -/
theorem muldiv_commits (h0 : IsReset s)
    (hcsr : ∀ u ≤ t, (inp u).mdvNob2b = Csr.mdvNob2b (csrRun inp s c u))
    (hclean : ∀ u < t, ¬StaleMark (run inp s u) (inp u)) {dst r1 r2 : BitVec 5}
    (hword : Isa.decode (run inp s t).ifu.ifuIrR = some (.mulDiv op dst r1 r2))
    (hcmt : Exu.cmtEna (run inp s t).exu (exuIn (run inp s t) (inp t)) = true)
    (hexc : Exu.excpirqFlushReq (run inp s t).exu (exuIn (run inp s t) (inp t)) = false) :
    Exu.cmtWrites (run inp s t).exu (exuIn (run inp s t) (inp t)) = !(dst == 0#5) ∧
      (dst ≠ 0#5 → (run inp s (t + 1)).exu.rf = Function.update (run inp s t).exu.rf dst
        (rv32m op ((run inp s t).exu.rf.rfR r1) ((run inp s t).exu.rf.rfR r2))) := by
  have hop := Decode.isMulDiv_of_decode hword
  have hregs := Decode.regWires_mulDiv hword
  have hlen := (Decode.muldivOp_regs (Decode.isMulDiv_iff.mp hop).1).1
  have hflush : Exu.pipeFlushReq (run inp s t).exu (exuIn (run inp s t) (inp t)) = false :=
    Exu.pipeFlushReq_of_not_transfers (Decode.transfers_of_isMulDiv hop) hexc
  obtain ⟨hneed, hdat⟩ := wdat_of_muldiv h0 hcsr hclean hop hcmt hflush
  have hwrites : Exu.cmtWrites (run inp s t).exu (exuIn (run inp s t) (inp t)) = !(dst == 0#5) := by
    rw [Exu.cmtWrites, hcmt, hneed, hregs.rdwen]
    rfl
  refine ⟨hwrites, fun hne => ?_⟩
  have hw : Exu.cmtWrites (run inp s t).exu (exuIn (run inp s t) (inp t)) = true := by
    rw [hwrites, beq_false_of_ne hne, Bool.not_false]
  obtain ⟨-, -, -, -, hr1, hr2⟩ := Isa.mulDiv_fields hword
  have hidx1 : Decode.decRs1idx (run inp s t).ifu.ifuIrR = r1 := by
    rw [Decode.decRs1idx, if_pos hlen]
    exact hr1
  have hidx2 : Decode.decRs2idx (run inp s t).ifu.ifuIrR = r2 := by
    rw [Decode.decRs2idx, if_pos hlen]
    exact hr2
  have hidx : Decode.decRdidx (run inp s t).ifu.ifuIrR = dst := hregs.rdidx hne
  rw [rs1, rs2, hidx1, hidx2] at hdat
  rw [← hdat, ← hidx]
  exact Exu.step_rf_of_cmtWrites hw

end

/-- `DIV x5, x1, x0` at the reset vector. -/
def divFirst (t : ℕ) : In :=
  { In.quiet with
    ifuRspValid := t == 2
    ifuRspInstr := 0x0200c2b3#32 }

theorem muldiv_commits_divFirst :
    (run divFirst scaledState 4).exu.rf =
      Function.update (run divFirst scaledState 3).exu.rf 5#5 0xffffffff#32 := by
  have hcsr : ∀ u ≤ 3, (divFirst u).mdvNob2b =
      Csr.mdvNob2b (csrRun divFirst scaledState Csr.State.reset u) := by decide +kernel
  have hmark : ∀ u < 3, Ifetch.ifuMuldivB2bNxt (run divFirst scaledState u).ifu
      (ifuIn (run divFirst scaledState u) (divFirst u)) = false := by decide +kernel
  have hclean : ∀ u < 3, ¬StaleMark (run divFirst scaledState u) (divFirst u) := by
    intro u hu hst
    exact Bool.false_ne_true ((hmark u hu).symm.trans hst.mark)
  have hword : Isa.decode (run divFirst scaledState 3).ifu.ifuIrR = some (.mulDiv .div 5#5 1#5 0#5) := by
    decide +kernel
  have hdiv := muldiv_commits (s := scaledState) (State.isReset_reset _) hcsr hclean hword
    (by decide +kernel) (by decide +kernel)
  have hval : rv32m .div ((run divFirst scaledState 3).exu.rf.rfR 1#5)
      ((run divFirst scaledState 3).exu.rf.rfR 0#5) = 0xffffffff#32 := by decide +kernel
  rw [hdiv.2 (by decide), hval]

end Core
end E203
