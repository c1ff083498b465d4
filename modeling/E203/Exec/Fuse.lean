import E203.Decode.Muldiv
import E203.Exec.Halt
import E203.Exec.InOrder
import E203.Muldiv.Retain
import E203.Rtl.ExuCsr

/-! # Back-to-back multiplications and divisions

The fetch stage marks an instruction by comparing it with what the IR holds; the multiplier/divider
answers a marked one from the shared buffers.

* `Exu.mdvUnit`, `Exu.mdvEnv`: the unit as the execute stage connects it.
* `Core.Fused`: what the buffers hold while the instruction that fills them is at work, has left, or
  is followed by a marked one.
* `Core.b2b_invisible`: a marked instruction gets its own result, unless it was compared with indexes
  that are not those of the instruction in the IR (`Core.StaleMark`).
-/

namespace E203
set_option autoImplicit false

namespace Exu
section
variable (s : State) (i : In)

/-- The multiplier/divider with the shared buffers. -/
def mdvUnit : Muldiv.Unit := ⟨s.alu.mdv, s.alu.sbf⟩

def mdvEnv : Muldiv.Env where
  muldivReqAlu := Alu.mdvOp (alu s i)
  mdvNob2b := i.mdvNob2b
  iValid := (alu s i).iValid && Alu.mdvOp (alu s i)
  rs1 := gate (Alu.mdvOp (alu s i)) (alu s i).iRs1
  rs2 := gate (Alu.mdvOp (alu s i)) (alu s i).iRs2
  info := gate (Alu.mdvOp (alu s i)) (alu s i).iInfo
  flushPulse := flushPulse s i
  oReady := Alu.mdvOp (alu s i) && aluOReady s i
  dpath := Alu.dpath s.alu (alu s i)
  aguSbf := Lsuagu.sbfWr s.alu.agu (Alu.agu s.alu (alu s i)) (Alu.dpathRes s.alu (alu s i))

end

section
variable {s : State} {i : In} {op : MulDivOp}

theorem step_mdvUnit : mdvUnit (step s i) = (mdvUnit s).step (mdvEnv s i) := by
  have hports : (mdvEnv s i).ports (mdvUnit s) =
      Alu.mdv s.alu (alu s i) (Alu.mdvOp (alu s i) && aluOReady s i) (flushPulse s i) := rfl
  have hres : (mdvEnv s i).res (mdvUnit s) = Alu.muldivReqAluRes s.alu (alu s i) := rfl
  rw [Muldiv.Unit.step, hports, hres]
  rfl

/-- A multiplication or division without a fetch error goes to the unit. -/
theorem op_of_isMulDiv (hop : Decode.isMulDiv op i.iIr = true) (herr : i.iBuserr = false)
    (hmis : i.iMisalgn = false) :
    Alu.op (alu s i) = .mdv ∧ (alu s i).iInfo.OpBits op ∧ (alu s i).iInfo.b2b = i.iMuldivB2b := by
  obtain ⟨hgrp, hbits, hb2b, hilegl⟩ := Decode.decInfo_of_isMulDiv (d := dec s i) hop
  have hexcp : Alu.ifuExcpOp (alu s i) = false := by
    change (Decode.decIlegl (dec s i) || i.iBuserr || i.iMisalgn) = false
    rw [hilegl, herr, hmis]
    rfl
  have hgrp' : (alu s i).iInfo.grp = GRP_MULDIV := hgrp
  refine ⟨?_, hbits, hb2b⟩
  rw [Alu.op, hexcp, hgrp']
  decide

/-- The word decides what is not asked for. -/
theorem csrOp_of_isMulDiv (hop : Decode.isMulDiv op i.iIr = true) :
    Alu.csrOp (alu s i) = false := by
  have hgrp : (alu s i).iInfo.grp = GRP_MULDIV := (Decode.decInfo_of_isMulDiv (d := dec s i) hop).1
  rw [Alu.csrOp, hgrp, Bool.and_comm]
  rfl

theorem isMulDiv_of_mdvOp (h : Alu.mdvOp (alu s i) = true) :
    ∃ op, Decode.isMulDiv op i.iIr = true := by
  have hgrp : (Decode.decInfo (dec s i)).grp = GRP_MULDIV :=
    beq_iff_eq.mp ((Bool.and_eq_true _ _).mp h).2
  exact Decode.exists_isMulDiv (Decode.decInfo_of_grp_muldiv hgrp).1

/-- What leaves the IR for the unit is what the unit answers. -/
theorem iHsked_of_mdv (hop : Alu.op (alu s i) = .mdv) :
    iHsked s i = ((mdvUnit s).oValid (mdvEnv s i) && (mdvEnv s i).oReady) := by
  obtain ⟨hexcp, halu, hagu, hbjp, hcsr, hmdv⟩ := Alu.op_eq (alu s i)
  simp only [hop, decide_true, reduceCtorEq, decide_false] at hexcp halu hagu hbjp hcsr hmdv
  have hval : (mdvUnit s).oValid (mdvEnv s i) = (Muldiv.wbckCondi (Alu.mdv s.alu (alu s i) false false)
      s.alu.mdv (Alu.muldivReqAluRes s.alu (alu s i)) && ((alu s i).iValid && true)) := by
    rw [← hmdv]
    rfl
  have hready : aluIReady s i = (Muldiv.wbckCondi (Alu.mdv s.alu (alu s i) false false)
      s.alu.mdv (Alu.muldivReqAluRes s.alu (alu s i)) && aluOReady s i) := by
    simp only [aluIReady, Alu.iReady, hexcp, halu, hagu, hbjp, hcsr, hmdv, Alu.mdvIReady,
      Muldiv.iReady, Bool.and_false, Bool.false_or, Bool.or_false, Bool.and_true, Bool.true_and]
    rfl
  have hiv : (alu s i).iValid = (Disp.dispCondition (disp s i) && i.iValid) := rfl
  have hor : (mdvEnv s i).oReady = aluOReady s i := by
    change (Alu.mdvOp (alu s i) && aluOReady s i) = _
    rw [hmdv, Bool.true_and]
  rw [hval, hor, hiv, iHsked, iReady, Disp.dispIReady, hready]
  cases i.iValid <;> cases Disp.dispCondition (disp s i) <;> simp

/-- The response is what the ALU offers for write-back. -/
theorem wbckOWdat_of_mdv (hop : Alu.op (alu s i) = .mdv) :
    Alu.wbckOWdat s.alu (alu s i) = (mdvUnit s).oWbckWdat (mdvEnv s i) := by
  obtain ⟨hexcp, halu, hagu, hbjp, hcsr, hmdv⟩ := Alu.op_eq (alu s i)
  simp only [hop, decide_true, reduceCtorEq, decide_false] at hexcp halu hagu hbjp hcsr hmdv
  simp only [Alu.wbckOWdat, halu, hbjp, hcsr, hagu, hexcp, hmdv, gate_false, gate_true,
    BitVec.zero_or, BitVec.or_zero]
  rfl

/-- It is dispatched as soon as nothing outstanding concerns its registers and no halt is asked
for. -/
theorem dispatched_iff (hop : Decode.isMulDiv op i.iIr = true) (hv : i.iValid = true)
    (hidx : Indexed i) :
    (alu s i).iValid = true ↔ s.excp.wfiHaltReqR = false ∧
      (Decode.decRs1en i.iIr = true → ¬s.oitf.Writes (Decode.decRs1idx i.iIr)) ∧
      (Decode.decRs2en i.iIr = true → ¬s.oitf.Writes (Decode.decRs2idx i.iIr)) ∧
      (Decode.decRdwen i.iIr = true → ¬s.oitf.Writes (Decode.decRdidx i.iIr)) := by
  have hgrp : (disp s i).dispIInfo.grp = GRP_MULDIV :=
    (Decode.decInfo_of_isMulDiv (d := dec s i) hop).1
  have hcond : (alu s i).iValid = (!s.excp.wfiHaltReqR &&
      !(Oitf.oitfrdMatch s.oitf (Decode.decRs1en i.iIr) i.iRs1idx ||
          Oitf.oitfrdMatch s.oitf (Decode.decRs2en i.iIr) i.iRs2idx ||
        Oitf.oitfrdMatch s.oitf (Decode.decRdwen i.iIr) (Decode.decRdidx i.iIr))) := by
    change (Disp.dispCondition (disp s i) && i.iValid) = _
    rw [hv, Bool.and_true, Disp.dispCondition, Disp.dispCsr, Disp.dispFenceFencei,
      Disp.dispAluLongpPrdt, hgrp]
    simp [GRP_MULDIV, GRP_CSR, GRP_BJP, GRP_AGU, Disp.dep, Disp.rawDep, Disp.wawDep]
    rfl
  have h1 : Oitf.oitfrdMatch s.oitf (Decode.decRs1en i.iIr) i.iRs1idx = false ↔
      (Decode.decRs1en i.iIr = true → ¬s.oitf.Writes (Decode.decRs1idx i.iIr)) := by
    rw [Oitf.oitfrdMatch_eq_false]
    exact forall_congr' fun hen => by rw [hidx.rs1 hen]
  have h2 : Oitf.oitfrdMatch s.oitf (Decode.decRs2en i.iIr) i.iRs2idx = false ↔
      (Decode.decRs2en i.iIr = true → ¬s.oitf.Writes (Decode.decRs2idx i.iIr)) := by
    rw [Oitf.oitfrdMatch_eq_false]
    exact forall_congr' fun hen => by rw [hidx.rs2 hen]
  rw [hcond, Bool.and_eq_true, Bool.not_eq_true', Bool.not_eq_true', Bool.or_eq_false_iff,
    Bool.or_eq_false_iff, h1, h2, Oitf.oitfrdMatch_eq_false, and_assoc]

/-- Its operands are the contents of the registers it names. -/
theorem operands_of_isMulDiv (hop : Decode.isMulDiv op i.iIr = true) (hidx : Indexed i) :
    (alu s i).iRs1 = s.rf.rfR (Decode.decRs1idx i.iIr) ∧
      (alu s i).iRs2 = s.rf.rfR (Decode.decRs2idx i.iIr) := by
  obtain ⟨-, hen1, hen2⟩ := Decode.muldivOp_regs (Decode.isMulDiv_iff.mp hop).1
  exact operands_of_regs hidx hen1 hen2

/-- An instruction with a fetch error leaves the IR only with a flush. -/
theorem pipeFlushReq_of_buserr (herr : i.iBuserr = true) (hcmt : cmtEna s i = true) :
    pipeFlushReq s i = true := by
  have hneed : Excp.aluNeedFlush (cmtCtl s i).toCtl (aluCmt s i).toAlu = true := by
    have hfetch : (aluCmt s i).aluExcpIIfuBuserr = true := herr
    simp [Excp.aluNeedFlush, hfetch]
  have hebrk : Excp.aluExcpIEbreak4dbg (cmtCtl s i).toCtl (aluCmt s i).toAlu = false := by
    simp [Excp.aluExcpIEbreak4dbg, hneed]
  obtain ⟨hv, hready⟩ := (Bool.and_eq_true _ _).mp hcmt
  obtain ⟨hirq, hdbg, hlongp, hempty⟩ := Excp.events_of_ready ((Bool.and_eq_true _ _).mp hready).1 hebrk
  have hflush : excpirqFlushReq s i = true := by
    have hno : Excp.aluEbreakmFlushReq (cmtCtl s i).toCtl (aluCmt s i).toAlu
        (aluCmtValid s i) = false := by
      simp [Excp.aluEbreakmFlushReq, hebrk]
    change Excp.excpirqFlushReq s.excp (cmtCtl s i).toCtl (aluCmt s i).toAlu
      (aluCmtValid s i) = true
    rw [Excp.excpirqFlushReq_of_no_event hirq hdbg hlongp hno, hv, hneed, hempty hneed]
    rfl
  change (excpirqFlushReq s i || _) = true
  rw [hflush, Bool.true_or]

theorem step_rf_of_cmtWrites (h : cmtWrites s i = true) :
    (step s i).rf =
      Function.update s.rf (Decode.decRdidx i.iIr) (Alu.wbckOWdat s.alu (alu s i)) := by
  have hlong : longpWbckOValid s i = false := by
    cases hl : longpWbckOValid s i
    · rfl
    · rw [cmtWrites_of_longp hl] at h
      cases h
  rw [step_rf, hlong, h]
  rfl

end
end Exu

/-! ## Runs of the core -/

namespace Core

/-- Nothing outstanding writes the operands of the word `w`. -/
structure Free (s : State) (w : BitVec 32) : Prop where
  src1 : Decode.decRs1idx w ≠ 0#5 → ¬s.exu.oitf.Writes (Decode.decRs1idx w)
  src2 : Decode.decRs2idx w ≠ 0#5 → ¬s.exu.oitf.Writes (Decode.decRs2idx w)

/-- The buffers hold the results of `op` on the registers that the word `w` names. -/
structure Retained (op : MulDivOp) (s : State) (w : BitVec 32) : Prop where
  holds : Muldiv.Holds op (rs1 s w) (rs2 s w) (Exu.mdvUnit s.exu)
  free : Free s w

/-- An operation is under way for the instruction in the IR. -/
structure Working (nob2b : Bool) (s : State) : Prop where
  valid : s.ifu.irValidR = true
  err : s.ifu.ifuErrR = false
  halt : s.exu.excp.wfiHaltReqR = false
  notB2b : s.ifu.ifuMuldivB2bR = true → s.exu.alu.mdv.flushedR = true ∨ nob2b = true
  free : Free s s.ifu.ifuIrR
  freeRd : Decode.decRdwen s.ifu.ifuIrR = true → ¬s.exu.oitf.Writes (Decode.decRdidx s.ifu.ifuIrR)
  busy : ∃ op, Decode.isMulDiv op s.ifu.ifuIrR = true ∧
    Muldiv.Busy op (rs1 s s.ifu.ifuIrR) (rs2 s s.ifu.ifuIrR) (Exu.mdvUnit s.exu)

/-- What the word `w` has left in the buffers once it has been executed, unless it overwrites one of
its operands. -/
def Left (s : State) (w : BitVec 32) : Prop :=
  s.exu.alu.mdv.flushedR = false → Decode.decRdidx w ≠ Decode.decRs1idx w →
    Decode.decRdidx w ≠ Decode.decRs2idx w →
    ∀ op, Decode.isMulDiv op w = true → Retained op s w

/-- What the shared buffers hold, wherever the instruction that filled them is. -/
structure Fused (nob2b : Bool) (s : State) : Prop where
  working : s.exu.alu.mdv.sta ≠ .zeroTh → Working nob2b s
  left : s.ifu.irValidR = false → s.ifu.ifuErrR = false → Left s s.ifu.ifuIrR
  err : s.ifu.irValidR = false → s.ifu.ifuErrR = true → s.exu.alu.mdv.flushedR = true
  marked : s.ifu.irValidR = true → s.ifu.ifuErrR = false → s.ifu.ifuMuldivB2bR = true →
    s.exu.alu.mdv.flushedR = false → s.exu.alu.mdv.sta = .zeroTh → nob2b = false →
    ∀ op, Decode.isMulDiv op s.ifu.ifuIrR = true →
      (op.isDiv = true ∨ op = .mul) ∧ Retained op s s.ifu.ifuIrR

/-- An instruction is marked by indexes that are not those of the instruction in the IR. -/
structure StaleMark (s : State) (i : In) : Prop where
  set : Ifetch.irValidSet s.ifu (ifuIn s i) = true
  mark : Ifetch.ifuMuldivB2bNxt s.ifu (ifuIn s i) = true
  stale : ¬(s.ifu.irRs1idxR = Decode.decRs1idx s.ifu.ifuIrR ∧
    s.ifu.irRs2idxR = Decode.decRs2idx s.ifu.ifuIrR)
  fresh : (step s i).exu.alu.mdv.flushedR = false
  b2b : i.mdvNob2b = false

section
variable {nob2b : Bool} {op : MulDivOp} {s : State} {i : In} {w : BitVec 32}

/-- Registers that are free keep their values, unless the instruction that leaves the IR writes
them. -/
theorem Free.step (h : Free s w) (hsteady : Steady s)
    (hleave : Exu.iHsked s.exu (exuIn s i) = true →
      Decode.decRdidx s.ifu.ifuIrR ≠ Decode.decRs1idx w ∧
        Decode.decRdidx s.ifu.ifuIrR ≠ Decode.decRs2idx w) :
    rs1 (Core.step s i) w = rs1 s w ∧ rs2 (Core.step s i) w = rs2 s w ∧ Free (Core.step s i) w := by
  have hreg1 := fun hne => hsteady.reg_step (h.src1 hne) fun hl _ => (hleave hl).1
  have hreg2 := fun hne => hsteady.reg_step (h.src2 hne) fun hl _ => (hleave hl).2
  refine ⟨?_, ?_, fun hne => (hreg1 hne).2, fun hne => (hreg2 hne).2⟩
  · by_cases hzero : Decode.decRs1idx w = 0#5
    · rw [rs1, rs1, hzero]
      rfl
    · exact Regfile.rfR_congr (hreg1 hzero).1
  · by_cases hzero : Decode.decRs2idx w = 0#5
    · rw [rs2, rs2, hzero]
      rfl
    · exact Regfile.rfR_congr (hreg2 hzero).1

theorem Free.retained (h : Free s w) (hsteady : Steady s)
    (hleave : Exu.iHsked s.exu (exuIn s i) = true →
      Decode.decRdidx s.ifu.ifuIrR ≠ Decode.decRs1idx w ∧
        Decode.decRdidx s.ifu.ifuIrR ≠ Decode.decRs2idx w)
    (hholds : Muldiv.Holds op (rs1 s w) (rs2 s w) (Exu.mdvUnit (Core.step s i).exu)) :
    Retained op (Core.step s i) w := by
  obtain ⟨h1, h2, hfree⟩ := h.step hsteady hleave
  refine ⟨?_, hfree⟩
  rw [h1, h2]
  exact hholds

/-! ### One cycle of the unit -/

/-- A cycle in which nothing is started. -/
theorem rest_step (hsta : s.exu.alu.mdv.sta = .zeroTh)
    (hno : Muldiv.iValidNb2b ((Exu.mdvEnv s.exu (exuIn s i)).ports (Exu.mdvUnit s.exu))
      s.exu.alu.mdv = false) :
    (step s i).exu.alu.mdv.sta = .zeroTh ∧
      (Alu.mdvOp (Exu.alu s.exu (exuIn s i)) = true → ∀ {p : MulDivOp} {a b : BitVec 32},
        Muldiv.Holds p a b (Exu.mdvUnit s.exu) →
          Muldiv.Holds p a b (Exu.mdvUnit (step s i).exu)) := by
  obtain ⟨hsta', hsbf⟩ := Muldiv.step_rest (u := Exu.mdvUnit s.exu) hsta hno
  rw [← Exu.step_mdvUnit] at hsta' hsbf
  exact ⟨hsta', fun hmdv _ _ _ hholds => hholds.congr (hsbf hmdv).1 (hsbf hmdv).2⟩

/-- Without a flush and without an answer the flush memory stays. -/
theorem flushedR_step (hflush : Exu.pipeFlushReq s.exu (exuIn s i) = false) :
    (step s i).exu.alu.mdv.flushedR =
      (s.exu.alu.mdv.flushedR &&
        !((Exu.mdvUnit s.exu).oValid (Exu.mdvEnv s.exu (exuIn s i)) &&
          (Exu.mdvEnv s.exu (exuIn s i)).oReady)) := by
  have hstep := Muldiv.step_flushedR (e := Exu.mdvEnv s.exu (exuIn s i)) (u := Exu.mdvUnit s.exu)
    hflush
  rw [← Exu.step_mdvUnit] at hstep
  exact hstep

section
variable (hop : Decode.isMulDiv op s.ifu.ifuIrR = true) (herr : s.ifu.ifuErrR = false)
include hop herr

theorem mdvOp_of_isMulDiv : Alu.mdvOp (Exu.alu s.exu (exuIn s i)) = true := by
  have hmdv := (Alu.op_eq (Exu.alu s.exu (exuIn s i))).2.2.2.2.2
  rw [(Exu.op_of_isMulDiv (i := exuIn s i) hop herr rfl).1] at hmdv
  exact hmdv

/-- What the unit samples for the instruction in the IR. -/
theorem mdvEnv_of_isMulDiv (hidx : Exu.Indexed (exuIn s i)) :
    (Exu.mdvEnv s.exu (exuIn s i)).muldivReqAlu = true ∧
      (Exu.mdvEnv s.exu (exuIn s i)).iValid = (Exu.alu s.exu (exuIn s i)).iValid ∧
      (Exu.mdvEnv s.exu (exuIn s i)).rs1 = rs1 s s.ifu.ifuIrR ∧
      (Exu.mdvEnv s.exu (exuIn s i)).rs2 = rs2 s s.ifu.ifuIrR ∧
      (Exu.mdvEnv s.exu (exuIn s i)).info.OpBits op ∧
      (Exu.mdvEnv s.exu (exuIn s i)).info.b2b = s.ifu.ifuMuldivB2bR := by
  have hmdv := mdvOp_of_isMulDiv (i := i) hop herr
  obtain ⟨-, hbits, hb2b⟩ := Exu.op_of_isMulDiv (s := s.exu) (i := exuIn s i) hop herr rfl
  obtain ⟨h1, h2⟩ := Exu.operands_of_isMulDiv (s := s.exu) (i := exuIn s i) hop hidx
  simp only [Exu.mdvEnv, hmdv, gate_true, Bool.and_true]
  exact ⟨trivial, trivial, h1, h2, hbits, hb2b⟩

/-- Whether the unit is asked to compute. -/
theorem iValidNb2b_eq (hidx : Exu.Indexed (exuIn s i)) :
    Muldiv.iValidNb2b ((Exu.mdvEnv s.exu (exuIn s i)).ports (Exu.mdvUnit s.exu)) s.exu.alu.mdv =
      ((Exu.alu s.exu (exuIn s i)).iValid &&
        !(s.ifu.ifuMuldivB2bR && !s.exu.alu.mdv.flushedR && !i.mdvNob2b) &&
        !(op.isDiv && decide (Muldiv.IsSpecial op (rs1 s s.ifu.ifuIrR) (rs2 s s.ifu.ifuIrR)))) := by
  obtain ⟨-, hval, h1, h2, hbits, hb2b⟩ := mdvEnv_of_isMulDiv (i := i) hop herr hidx
  have hspec : Muldiv.specialCases ((Exu.mdvEnv s.exu (exuIn s i)).ports (Exu.mdvUnit s.exu)) =
      (op.isDiv && decide (Muldiv.IsSpecial op (rs1 s s.ifu.ifuIrR) (rs2 s s.ifu.ifuIrR))) := by
    cases hdiv : op.isDiv
    case false =>
      rw [Bool.false_and]
      simp only [Muldiv.specialCases, Muldiv.divSpecialCases, Muldiv.iOpDiv, Muldiv.Env.ports,
        hbits.div, hbits.divu, hbits.rem, hbits.remu]
      cases op <;> first | rfl | exact absurd hdiv (by decide)
    case true => rw [Muldiv.specialCases_eq ⟨h1, h2⟩ hbits hdiv, Bool.true_and]
  rw [Muldiv.iValidNb2b, hspec, Muldiv.back2backSeq, Muldiv.iB2b]
  simp only [Muldiv.Env.ports, hval, hb2b]
  rfl

theorem cycle_of_dispatched (hidx : Exu.Indexed (exuIn s i))
    (hd : (Exu.alu s.exu (exuIn s i)).iValid = true)
    (hflush : Exu.pipeFlushReq s.exu (exuIn s i) = false)
    (hno : (s.ifu.ifuMuldivB2bR && !s.exu.alu.mdv.flushedR && !i.mdvNob2b) = false) :
    Muldiv.Cycle op (rs1 s s.ifu.ifuIrR) (rs2 s s.ifu.ifuIrR) (Exu.mdvEnv s.exu (exuIn s i))
      (Exu.mdvUnit s.exu) := by
  obtain ⟨hreq, hval, h1, h2, hbits, hb2b⟩ := mdvEnv_of_isMulDiv (i := i) hop herr hidx
  refine ⟨hreq, hval.trans hd, h1, h2, hbits, hflush, ?_⟩
  rw [Muldiv.iB2b, ← hno]
  simp only [Muldiv.Env.ports, hb2b]
  rfl

theorem busy_of_start (hidx : Exu.Indexed (exuIn s i)) (hsta : s.exu.alu.mdv.sta = .zeroTh)
    (hflush : Exu.pipeFlushReq s.exu (exuIn s i) = false)
    (hstart : Muldiv.iValidNb2b ((Exu.mdvEnv s.exu (exuIn s i)).ports (Exu.mdvUnit s.exu))
      s.exu.alu.mdv = true) :
    (Exu.alu s.exu (exuIn s i)).iValid = true ∧
      (s.ifu.ifuMuldivB2bR && !s.exu.alu.mdv.flushedR && !i.mdvNob2b) = false ∧
      (Exu.mdvUnit s.exu).oValid (Exu.mdvEnv s.exu (exuIn s i)) = false ∧
      Muldiv.Busy op (rs1 s s.ifu.ifuIrR) (rs2 s s.ifu.ifuIrR) (Exu.mdvUnit (step s i).exu) := by
  rw [iValidNb2b_eq hop herr hidx, Bool.and_eq_true, Bool.and_eq_true, Bool.not_eq_true',
    Bool.not_eq_true'] at hstart
  obtain ⟨⟨hd, hno⟩, hspec⟩ := hstart
  have hcycle := cycle_of_dispatched hop herr hidx hd hflush hno
  refine ⟨hd, hno, Muldiv.Busy.start hcycle hsta fun hdiv => ?_⟩
  rw [hdiv, Bool.true_and] at hspec
  exact of_decide_eq_false hspec

end

theorem Working.dispatched (h : Working nob2b s) (hidx : Exu.Indexed (exuIn s i)) :
    (Exu.alu s.exu (exuIn s i)).iValid = true := by
  obtain ⟨op, hop, -⟩ := h.busy
  obtain ⟨-, hen1, hen2⟩ := Decode.muldivOp_regs (Decode.isMulDiv_iff.mp hop).1
  refine (Exu.dispatched_iff (i := exuIn s i) hop h.valid hidx).mpr
    ⟨h.halt, fun hen => h.free.src1 ?_, fun hen => h.free.src2 ?_, h.freeRd⟩
  · exact Decode.decRs1idx_ne_zero hen
  · exact Decode.decRs2idx_ne_zero hen

theorem Working.noB2b (h : Working nob2b s) (hnob : i.mdvNob2b = nob2b) :
    (s.ifu.ifuMuldivB2bR && !s.exu.alu.mdv.flushedR && !i.mdvNob2b) = false := by
  rw [hnob]
  cases hmark : s.ifu.ifuMuldivB2bR
  · rfl
  · obtain hf | hn := h.notB2b hmark
    · rw [hf]
      rfl
    · rw [hn]
      simp

theorem free_of_dispatched (hop : Decode.isMulDiv op s.ifu.ifuIrR = true)
    (hv : s.ifu.irValidR = true) (hidx : Exu.Indexed (exuIn s i))
    (hd : (Exu.alu s.exu (exuIn s i)).iValid = true) : Free s s.ifu.ifuIrR := by
  obtain ⟨-, hen1, hen2⟩ := Decode.muldivOp_regs (Decode.isMulDiv_iff.mp hop).1
  obtain ⟨-, h1, h2, -⟩ := (Exu.dispatched_iff (i := exuIn s i) hop hv hidx).mp hd
  constructor
  · intro hne
    refine h1 (hen1.trans ?_)
    rw [Decode.decRs1x0, beq_false_of_ne hne]
    rfl
  · intro hne
    refine h2 (hen2.trans ?_)
    rw [Decode.decRs2x0, beq_false_of_ne hne]
    rfl

/-! ### The instruction leaves the IR -/

/-- What leaves the IR without a flush was fetched without an error. -/
theorem Steady.no_buserr (h : Steady s) (hleave : Exu.iHsked s.exu (exuIn s i) = true)
    (hflush : Exu.pipeFlushReq s.exu (exuIn s i) = false) : s.ifu.ifuErrR = false := by
  by_contra herr
  have herr' : s.ifu.ifuErrR = true := Bool.not_eq_false _ ▸ herr
  have hagu : Alu.aguOp (Exu.alu s.exu (exuIn s i)) = false := by
    change (!(_ || s.ifu.ifuErrR || _) && _) = false
    rw [herr', Bool.or_true, Bool.true_or]
    rfl
  have hdrop : ¬Dropped s i := by
    intro hd
    have hmask := ((Bool.and_eq_true _ _).mp hd.masked).1
    exact Bool.false_ne_true (hagu.symm.trans hmask)
  have hcmt := (h.iHsked_iff.mpr hdrop).mp hleave
  rw [Exu.pipeFlushReq_of_buserr herr' hcmt] at hflush
  cases hflush

/-- What has been executed has left its results in the buffers. -/
theorem Fused.leave (h : Fused nob2b s) (hsteady : Steady s) (hidx : Exu.Indexed (exuIn s i))
    (hnob : i.mdvNob2b = nob2b) (hop : Decode.isMulDiv op s.ifu.ifuIrR = true)
    (hleave : Exu.iHsked s.exu (exuIn s i) = true)
    (hflush : Exu.pipeFlushReq s.exu (exuIn s i) = false) :
    (step s i).exu.alu.mdv.sta = .zeroTh ∧ Left (step s i) s.ifu.ifuIrR := by
  have herr := hsteady.no_buserr hleave hflush
  have hv : s.ifu.irValidR = true := ((Bool.and_eq_true _ _).mp hleave).1
  obtain ⟨hval, hready⟩ : (Exu.mdvUnit s.exu).oValid (Exu.mdvEnv s.exu (exuIn s i)) = true ∧
      (Exu.mdvEnv s.exu (exuIn s i)).oReady = true := by
    have hmdv := (Exu.op_of_isMulDiv (s := s.exu) (i := exuIn s i) hop herr rfl).1
    rw [Exu.iHsked_of_mdv hmdv] at hleave
    exact (Bool.and_eq_true _ _).mp hleave
  have hd : (Exu.alu s.exu (exuIn s i)).iValid = true := by
    rw [← (mdvEnv_of_isMulDiv (i := i) hop herr hidx).2.1]
    exact ((Bool.and_eq_true _ _).mp hval).2
  have hholds : (step s i).exu.alu.mdv.sta = .zeroTh ∧
      Muldiv.Holds op (rs1 s s.ifu.ifuIrR) (rs2 s s.ifu.ifuIrR) (Exu.mdvUnit (step s i).exu) := by
    by_cases hsta : s.exu.alu.mdv.sta = .zeroTh
    · have hnone : Muldiv.iValidNb2b ((Exu.mdvEnv s.exu (exuIn s i)).ports (Exu.mdvUnit s.exu))
          s.exu.alu.mdv = false := by
        by_contra hstart
        have hbusy := busy_of_start hop herr hidx hsta hflush (Bool.not_eq_false _ ▸ hstart)
        exact Bool.false_ne_true (hbusy.2.2.1.symm.trans hval)
      obtain ⟨hsta', hkeep⟩ := rest_step hsta hnone
      refine ⟨hsta', hkeep (mdvOp_of_isMulDiv hop herr) ?_⟩
      rw [iValidNb2b_eq hop herr hidx, hd, Bool.true_and, Bool.and_eq_false_iff,
        Bool.not_eq_false', Bool.not_eq_false', Bool.and_eq_true, Bool.and_eq_true,
        Bool.and_eq_true, Bool.not_eq_true', Bool.not_eq_true', hnob] at hnone
      obtain ⟨⟨hmark, hfresh⟩, hb2b⟩ | ⟨hdiv, hspec⟩ := hnone
      · exact (h.marked hv herr hmark hfresh hsta hb2b op hop).2.holds
      · exact .of_special hdiv (of_decide_eq_true hspec)
    · have hw := h.working hsta
      obtain ⟨op', hop', hbusy⟩ := hw.busy
      obtain rfl := Decode.isMulDiv_unique hop hop'
      have hcycle := cycle_of_dispatched hop herr hidx hd hflush (hw.noB2b hnob)
      have hnext := Muldiv.Busy.step hcycle hbusy
      rw [if_pos ⟨hval, hready⟩, ← Exu.step_mdvUnit] at hnext
      exact hnext
  refine ⟨hholds.1, fun _ hrd1 hrd2 op' hop' => ?_⟩
  obtain rfl := Decode.isMulDiv_unique hop hop'
  exact (free_of_dispatched hop hv hidx hd).retained hsteady (fun _ => ⟨hrd1, hrd2⟩) hholds.2

/-! ### The instruction stays in the IR -/

/-- What belongs to the word in the IR does not change while it stays there. -/
theorem ifu_of_stay (hv : s.ifu.irValidR = true) (hno : Exu.iHsked s.exu (exuIn s i) = false)
    (hflush : Exu.pipeFlushReq s.exu (exuIn s i) = false) :
    (step s i).ifu.irValidR = true ∧ (step s i).ifu.ifuIrR = s.ifu.ifuIrR ∧
      (step s i).ifu.ifuErrR = s.ifu.ifuErrR ∧
      (step s i).ifu.ifuMuldivB2bR = s.ifu.ifuMuldivB2bR := by
  have hready : Exu.iReady s.exu (exuIn s i) = false := by
    have hvalid : (exuIn s i).iValid = true := hv
    rw [Exu.iHsked, hvalid, Bool.true_and] at hno
    exact hno
  obtain ⟨hset, hstay⟩ := Ifetch.irValidSet_of_stay (j := ifuIn s i) hv hready hflush
  obtain ⟨hir, herr⟩ := Ifetch.step_ifuIrR_of_not_set hset
  refine ⟨hstay, hir, herr, ?_⟩
  change dfflr (Ifetch.irValidSet s.ifu (ifuIn s i)) _ _ = _
  rw [hset]
  rfl

section
variable (hsteady : Steady s) (hop : Decode.isMulDiv op s.ifu.ifuIrR = true)
  (hv : s.ifu.irValidR = true) (hno : Exu.iHsked s.exu (exuIn s i) = false)
  (hflush : Exu.pipeFlushReq s.exu (exuIn s i) = false)
include hsteady hop hv hno hflush

omit hsteady hv in
theorem flushedR_of_stay (herr : s.ifu.ifuErrR = false) :
    (step s i).exu.alu.mdv.flushedR = s.exu.alu.mdv.flushedR := by
  rw [flushedR_step hflush,
    ← Exu.iHsked_of_mdv (Exu.op_of_isMulDiv (s := s.exu) (i := exuIn s i) hop herr rfl).1, hno,
    Bool.not_false, Bool.and_true]

/-- The operation for the instruction in the IR goes on. -/
theorem working_of_busy (herr : s.ifu.ifuErrR = false) (hhalt : s.exu.excp.wfiHaltReqR = false)
    (hfree : Free s s.ifu.ifuIrR)
    (hrd : Decode.decRdwen s.ifu.ifuIrR = true → ¬s.exu.oitf.Writes (Decode.decRdidx s.ifu.ifuIrR))
    (hmark : (s.ifu.ifuMuldivB2bR && !s.exu.alu.mdv.flushedR && !nob2b) = false)
    (hbusy : Muldiv.Busy op (rs1 s s.ifu.ifuIrR) (rs2 s s.ifu.ifuIrR)
      (Exu.mdvUnit (step s i).exu)) : Working nob2b (step s i) := by
  obtain ⟨hv', hir', herr', hmark'⟩ := ifu_of_stay hv hno hflush
  have hleave : ∀ {P : Prop}, Exu.iHsked s.exu (exuIn s i) = true → P := fun hl =>
    absurd (hno.symm.trans hl) Bool.false_ne_true
  obtain ⟨h1, h2, hfree'⟩ := hfree.step hsteady hleave
  refine ⟨hv', herr'.trans herr, ?_, ?_, ?_, ?_, op, ?_, ?_⟩
  · have hset : Excp.wfiHaltReqSet (Exu.cmtCtl s.exu (exuIn s i)).toCtl
        (Exu.aluCmt s.exu (exuIn s i)).toAlu (Exu.cmtEna s.exu (exuIn s i)) = false := by
      cases hcmt : Exu.cmtEna s.exu (exuIn s i)
      · simp [Excp.wfiHaltReqSet]
      · exact hleave (hsteady.iHsked_of_cmtEna hcmt)
    change (Exu.step s.exu (exuIn s i)).excp.wfiHaltReqR = false
    rw [Exu.step_wfiHaltReqR, hset, hhalt, Bool.or_false, Bool.and_false]
  · intro hmk
    rw [hmark'] at hmk
    rw [flushedR_of_stay hop hno hflush herr]
    rw [hmk, Bool.true_and, Bool.and_eq_false_iff, Bool.not_eq_false', Bool.not_eq_false'] at hmark
    exact hmark
  · rw [hir']
    exact hfree'
  · rw [hir']
    exact fun hen => (hsteady.reg_step (hrd hen) hleave).2
  · rw [hir']
    exact hop
  · rw [hir', h1, h2]
    exact hbusy

theorem Fused.stay (h : Fused nob2b s) (hidx : Exu.Indexed (exuIn s i))
    (hnob : i.mdvNob2b = nob2b) : Fused nob2b (step s i) := by
  obtain ⟨hv', hir', herr', hmark'⟩ := ifu_of_stay hv hno hflush
  have hleave : ∀ {P : Prop}, Exu.iHsked s.exu (exuIn s i) = true → P := fun hl =>
    absurd (hno.symm.trans hl) Bool.false_ne_true
  refine ⟨fun hsta' => ?_, fun hempty => ?_, fun hempty => ?_,
    fun _ herr hmk hfresh hsta' hnob' op' hop' => ?_⟩
  · cases herr : s.ifu.ifuErrR
    case true =>
      have hsta : s.exu.alu.mdv.sta = .zeroTh := by
        by_contra hbusy
        exact Bool.false_ne_true ((h.working hbusy).err.symm.trans herr)
      have hnone : Muldiv.iValidNb2b ((Exu.mdvEnv s.exu (exuIn s i)).ports (Exu.mdvUnit s.exu))
          s.exu.alu.mdv = false := by
        have hexcp : Alu.ifuExcpOp (Exu.alu s.exu (exuIn s i)) = true := by
          change (_ || s.ifu.ifuErrR || _) = true
          rw [herr, Bool.or_true, Bool.true_or]
        simp [Muldiv.iValidNb2b, Muldiv.Env.ports, Exu.mdvEnv, Alu.mdvOp, hexcp]
      exact absurd (rest_step hsta hnone).1 hsta'
    case false =>
      by_cases hsta : s.exu.alu.mdv.sta = .zeroTh
      · cases hstart : Muldiv.iValidNb2b ((Exu.mdvEnv s.exu (exuIn s i)).ports
            (Exu.mdvUnit s.exu)) s.exu.alu.mdv
        · exact absurd (rest_step hsta hstart).1 hsta'
        · obtain ⟨hd, hmk, -, hbusy⟩ := busy_of_start hop herr hidx hsta hflush hstart
          obtain ⟨hhalt, -, -, hrd⟩ := (Exu.dispatched_iff (i := exuIn s i) hop hv hidx).mp hd
          rw [hnob] at hmk
          exact working_of_busy hsteady hop hv hno hflush herr hhalt
            (free_of_dispatched hop hv hidx hd) hrd hmk hbusy
      · have hw := h.working hsta
        obtain ⟨op', hop', hbusy⟩ := hw.busy
        obtain rfl := Decode.isMulDiv_unique hop hop'
        have hmk := hw.noB2b hnob
        have hcycle := cycle_of_dispatched hop herr hidx (hw.dispatched hidx) hflush hmk
        have hnext := Muldiv.Busy.step hcycle hbusy
        have hans := Exu.iHsked_of_mdv (s := s.exu) (i := exuIn s i)
          (Exu.op_of_isMulDiv (s := s.exu) (i := exuIn s i) hop herr rfl).1
        rw [hno] at hans
        rw [if_neg fun hb => by simp [hb] at hans, ← Exu.step_mdvUnit] at hnext
        rw [hnob] at hmk
        exact working_of_busy hsteady hop hv hno hflush herr hw.halt hw.free hw.freeRd hmk hnext
  · exact absurd (hempty.symm.trans hv') Bool.false_ne_true
  · exact absurd (hempty.symm.trans hv') Bool.false_ne_true
  · rw [hir'] at hop' ⊢
    obtain rfl := Decode.isMulDiv_unique hop hop'
    rw [herr'] at herr
    rw [hmark'] at hmk
    rw [flushedR_of_stay hop hno hflush herr] at hfresh
    have hsta : s.exu.alu.mdv.sta = .zeroTh := by
      by_contra hbusy
      obtain hf | hn := (h.working hbusy).notB2b hmk
      · exact Bool.false_ne_true (hfresh.symm.trans hf)
      · exact Bool.false_ne_true (hnob'.symm.trans hn)
    obtain ⟨hkind, hret⟩ := h.marked hv herr hmk hfresh hsta hnob' op' hop'
    have hnone : Muldiv.iValidNb2b ((Exu.mdvEnv s.exu (exuIn s i)).ports (Exu.mdvUnit s.exu))
        s.exu.alu.mdv = false := by
      rw [iValidNb2b_eq hop herr hidx, hmk, hfresh, hnob, hnob']
      simp
    exact ⟨hkind, hret.free.retained hsteady hleave
      ((rest_step hsta hnone).2 (mdvOp_of_isMulDiv hop herr) hret.holds)⟩

end

/-! ### The next instruction -/

theorem flushedR_of_empty (hv : s.ifu.irValidR = false)
    (hflush : Exu.pipeFlushReq s.exu (exuIn s i) = false) :
    (step s i).exu.alu.mdv.flushedR = s.exu.alu.mdv.flushedR := by
  have hval : (Exu.mdvEnv s.exu (exuIn s i)).iValid = false := by
    change ((_ && s.ifu.irValidR) && _) = false
    rw [hv, Bool.and_false, Bool.false_and]
  have hov : (Exu.mdvUnit s.exu).oValid (Exu.mdvEnv s.exu (exuIn s i)) = false := by
    simp [Muldiv.Unit.oValid, Muldiv.oValid, Muldiv.Env.ports, hval]
  rw [flushedR_step hflush, hov, Bool.false_and, Bool.not_false, Bool.and_true]

/-- While the IR is empty, what the last instruction has left stays. -/
theorem Fused.empty (h : Fused nob2b s) (hsteady : Steady s) (hv : s.ifu.irValidR = false)
    (hflush : Exu.pipeFlushReq s.exu (exuIn s i) = false) :
    (step s i).exu.alu.mdv.sta = .zeroTh ∧
      (s.ifu.ifuErrR = false → Left (step s i) s.ifu.ifuIrR) := by
  have hsta : s.exu.alu.mdv.sta = .zeroTh := by
    by_contra hbusy
    exact Bool.false_ne_true (hv.symm.trans (h.working hbusy).valid)
  have hval : (Exu.mdvEnv s.exu (exuIn s i)).iValid = false := by
    change ((_ && s.ifu.irValidR) && _) = false
    rw [hv, Bool.and_false, Bool.false_and]
  have hnone : Muldiv.iValidNb2b ((Exu.mdvEnv s.exu (exuIn s i)).ports (Exu.mdvUnit s.exu))
      s.exu.alu.mdv = false := by
    simp [Muldiv.iValidNb2b, Muldiv.Env.ports, hval]
  have hleave : ∀ {P : Prop}, Exu.iHsked s.exu (exuIn s i) = true → P := fun hl =>
    absurd (hv.symm.trans ((Bool.and_eq_true _ _).mp hl).1) Bool.false_ne_true
  obtain ⟨hsta', hkeep⟩ := rest_step hsta hnone
  refine ⟨hsta', fun herr hfresh hrd1 hrd2 op hop => ?_⟩
  rw [flushedR_of_empty hv hflush] at hfresh
  have hret := h.left hv herr hfresh hrd1 hrd2 op hop
  exact hret.free.retained hsteady hleave (hkeep (mdvOp_of_isMulDiv hop herr) hret.holds)

theorem pair_of_mark (hmark : Ifetch.ifuMuldivB2bNxt s.ifu (ifuIn s i) = true) :
    ∃ p q, Decode.isMulDiv p s.ifu.ifuIrR = true ∧ Decode.isMulDiv q i.ifuRspInstr = true ∧
      p.fuses q = true ∧ (q.isDiv = true ∨ q = .mul) ∧
      s.ifu.irRs1idxR = Decode.decRs1idx i.ifuRspInstr ∧
      s.ifu.irRs2idxR = Decode.decRs2idx i.ifuRspInstr ∧
      s.ifu.irRs1idxR ≠ Decode.decRdidx s.ifu.ifuIrR ∧
      s.ifu.irRs2idxR ≠ Decode.decRdidx s.ifu.ifuIrR := by
  change ((((((Decode.decMul i.ifuRspInstr && Decode.decMulhsu s.ifu.ifuIrR) ||
      (Decode.decDiv i.ifuRspInstr && Decode.decRem s.ifu.ifuIrR) ||
      (Decode.decRem i.ifuRspInstr && Decode.decDiv s.ifu.ifuIrR) ||
      (Decode.decDivu i.ifuRspInstr && Decode.decRemu s.ifu.ifuIrR) ||
      (Decode.decRemu i.ifuRspInstr && Decode.decDivu s.ifu.ifuIrR)) &&
    s.ifu.irRs1idxR == Decode.decRs1idx i.ifuRspInstr) &&
    s.ifu.irRs2idxR == Decode.decRs2idx i.ifuRspInstr) &&
    !(s.ifu.irRs1idxR == Decode.decRdidx s.ifu.ifuIrR)) &&
    !(s.ifu.irRs2idxR == Decode.decRdidx s.ifu.ifuIrR)) = true at hmark
  simp only [Bool.and_eq_true, Bool.or_eq_true, Bool.not_eq_true', beq_iff_eq,
    beq_eq_false_iff_ne] at hmark
  obtain ⟨⟨⟨⟨hpair, h1⟩, h2⟩, hrd1⟩, hrd2⟩ := hmark
  obtain (((⟨hq, hp⟩ | ⟨hq, hp⟩) | ⟨hq, hp⟩) | ⟨hq, hp⟩) | ⟨hq, hp⟩ := hpair
  · obtain ⟨p, hp', hfuse⟩ := Decode.isMulDiv_of_decMulhsu hp
    exact ⟨p, .mul, hp', hq, hfuse, .inr rfl, h1, h2, hrd1, hrd2⟩
  · exact ⟨.rem, .div, hp, hq, rfl, .inl rfl, h1, h2, hrd1, hrd2⟩
  · exact ⟨.div, .rem, hp, hq, rfl, .inl rfl, h1, h2, hrd1, hrd2⟩
  · exact ⟨.remu, .divu, hp, hq, rfl, .inl rfl, h1, h2, hrd1, hrd2⟩
  · exact ⟨.divu, .remu, hp, hq, rfl, .inl rfl, h1, h2, hrd1, hrd2⟩

/-- An instruction that is marked by the indexes of the word in the IR finds its results. -/
theorem marked_of_left (hleft : Left (step s i) s.ifu.ifuIrR)
    (hset : Ifetch.irValidSet s.ifu (ifuIn s i) = true)
    (hmark : Ifetch.ifuMuldivB2bNxt s.ifu (ifuIn s i) = true)
    (hclean : s.ifu.irRs1idxR = Decode.decRs1idx s.ifu.ifuIrR ∧
      s.ifu.irRs2idxR = Decode.decRs2idx s.ifu.ifuIrR)
    (hfresh : (step s i).exu.alu.mdv.flushedR = false)
    (hop : Decode.isMulDiv op (step s i).ifu.ifuIrR = true) :
    (op.isDiv = true ∨ op = .mul) ∧ Retained op (step s i) (step s i).ifu.ifuIrR := by
  obtain ⟨p, q, hp, hq, hfuse, hkind, h1, h2, hrd1, hrd2⟩ := pair_of_mark hmark
  rw [hclean.1] at h1 hrd1
  rw [hclean.2] at h2 hrd2
  have hir : (step s i).ifu.ifuIrR = i.ifuRspInstr :=
    (Ifetch.step_ifuIrR hset).2 (Decode.muldivOp_regs (Decode.isMulDiv_iff.mp hq).1).1
  rw [hir] at hop ⊢
  obtain rfl := Decode.isMulDiv_unique hq hop
  have hret := hleft hfresh (Ne.symm hrd1) (Ne.symm hrd2) p hp
  refine ⟨hkind, ?_, ?_, ?_⟩
  · rw [rs1, rs2, ← h1, ← h2]
    exact hret.holds.fuse hfuse
  · rw [← h1]
    exact hret.free.src1
  · rw [← h2]
    exact hret.free.src2

/-- The IR is free for the next instruction. -/
theorem Fused.freed (h : Fused nob2b s) (hsteady : Steady s)
    (hidx : s.ifu.irValidR = true → Exu.Indexed (exuIn s i)) (hnob : i.mdvNob2b = nob2b)
    (hop : Decode.isMulDiv op s.ifu.ifuIrR = true)
    (hleave : s.ifu.irValidR = true → Exu.iHsked s.exu (exuIn s i) = true)
    (hflush : Exu.pipeFlushReq s.exu (exuIn s i) = false) :
    (step s i).exu.alu.mdv.sta = .zeroTh ∧
      (s.ifu.ifuErrR = false → Left (step s i) s.ifu.ifuIrR) ∧
      (s.ifu.ifuErrR = true → (step s i).exu.alu.mdv.flushedR = true) := by
  cases hv : s.ifu.irValidR
  · obtain ⟨hsta, hleft⟩ := h.empty hsteady hv hflush
    refine ⟨hsta, hleft, fun herr => ?_⟩
    rw [flushedR_of_empty hv hflush]
    exact h.err hv herr
  · obtain ⟨hsta, hleft⟩ := h.leave hsteady (hidx hv) hnob hop (hleave hv) hflush
    refine ⟨hsta, fun _ => hleft, fun herr => ?_⟩
    exact absurd ((hsteady.no_buserr (hleave hv) hflush).symm.trans herr) Bool.false_ne_true

theorem irValidR_step (hflush : Exu.pipeFlushReq s.exu (exuIn s i) = false) :
    (step s i).ifu.irValidR =
      (Ifetch.irValidSet s.ifu (ifuIn s i) ||
        (s.ifu.irValidR && !Exu.iHsked s.exu (exuIn s i))) := by
  have hclr : Ifetch.irValidClr s.ifu (ifuIn s i) = Exu.iHsked s.exu (exuIn s i) := by
    have hfl : (ifuIn s i).pipeFlushReq = false := hflush
    rw [Ifetch.irValidClr, Ifetch.pipeFlushHsked, hfl, Bool.false_and, Bool.false_and, Bool.or_false]
    rfl
  change (Ifetch.step s.ifu (ifuIn s i)).irValidR = _
  rw [Ifetch.step_irValidR, hclr]

/-- A word other than a multiplication or division leaves no claim on the buffers. -/
theorem Fused.other {nob2b' : Bool} (h : Fused nob2b s) (hsteady : Steady s)
    (hflush : Exu.pipeFlushReq s.exu (exuIn s i) = false)
    (hno : ¬∃ op, Decode.isMulDiv op s.ifu.ifuIrR = true) : Fused nob2b' (Core.step s i) := by
  have hsta : s.exu.alu.mdv.sta = .zeroTh := by
    by_contra hbusy
    obtain ⟨op, hop, -⟩ := (h.working hbusy).busy
    exact hno ⟨op, hop⟩
  have hmdv : Alu.mdvOp (Exu.alu s.exu (exuIn s i)) = false := by
    by_contra hmdv
    exact hno (Exu.isMulDiv_of_mdvOp (Bool.not_eq_false _ ▸ hmdv))
  have hnone : Muldiv.iValidNb2b ((Exu.mdvEnv s.exu (exuIn s i)).ports (Exu.mdvUnit s.exu))
      s.exu.alu.mdv = false := by
    simp [Muldiv.iValidNb2b, Muldiv.Env.ports, Exu.mdvEnv, hmdv]
  have hsame : Ifetch.irValidSet s.ifu (ifuIn s i) = false →
      ¬∃ op, Decode.isMulDiv op (Core.step s i).ifu.ifuIrR = true := fun hset => by
    rw [show (Core.step s i).ifu.ifuIrR = s.ifu.ifuIrR from (Ifetch.step_ifuIrR_of_not_set hset).1]
    exact hno
  have hv' := irValidR_step hflush
  refine ⟨fun hbusy => absurd (rest_step hsta hnone).1 hbusy, fun hempty _ _ _ _ op hop => ?_,
    fun hempty herr => ?_, fun _ _ hmark _ _ _ op hop => ?_⟩
  · rw [hempty, eq_comm, Bool.or_eq_false_iff] at hv'
    exact absurd ⟨op, hop⟩ (hsame hv'.1)
  · rw [hempty, eq_comm, Bool.or_eq_false_iff] at hv'
    rw [show (Core.step s i).ifu.ifuErrR = s.ifu.ifuErrR from
      (Ifetch.step_ifuIrR_of_not_set hv'.1).2] at herr
    cases hv : s.ifu.irValidR
    · rw [flushedR_of_empty hv hflush]
      exact h.err hv herr
    · rw [hv, Bool.true_and, Bool.not_eq_false'] at hv'
      exact absurd ((hsteady.no_buserr hv'.2 hflush).symm.trans herr) Bool.false_ne_true
  · cases hset : Ifetch.irValidSet s.ifu (ifuIn s i)
    · exact absurd ⟨op, hop⟩ (hsame hset)
    · change dfflr (Ifetch.irValidSet s.ifu (ifuIn s i)) (Ifetch.ifuMuldivB2bNxt s.ifu (ifuIn s i))
        _ = true at hmark
      rw [hset, dfflr_true] at hmark
      obtain ⟨p, -, hp, -⟩ := pair_of_mark hmark
      exact absurd ⟨p, hp⟩ hno

theorem Fused.step {nob2b' : Bool} (h : Fused nob2b s) (hsteady : Steady s)
    (hidx : s.ifu.irValidR = true → Exu.Indexed (exuIn s i)) (hnob : i.mdvNob2b = nob2b)
    (hkeep : ∀ op, Decode.isMulDiv op s.ifu.ifuIrR = true → nob2b' = nob2b)
    (hclean : ¬StaleMark s i) : Fused nob2b' (Core.step s i) := by
  cases hflush : Exu.pipeFlushReq s.exu (exuIn s i)
  case true =>
    obtain ⟨hsta, hfresh⟩ := Muldiv.step_flush (e := Exu.mdvEnv s.exu (exuIn s i))
      (u := Exu.mdvUnit s.exu) hflush
    rw [← Exu.step_mdvUnit] at hsta hfresh
    refine ⟨fun hbusy => absurd hsta hbusy, fun _ _ hf => ?_, fun _ _ => hfresh,
      fun _ _ _ hf => ?_⟩
    · exact absurd (hf.symm.trans hfresh) Bool.false_ne_true
    · exact absurd (hf.symm.trans hfresh) Bool.false_ne_true
  case false =>
    by_cases hmd : ∃ op, Decode.isMulDiv op s.ifu.ifuIrR = true
    case neg => exact h.other hsteady hflush hmd
    case pos =>
      obtain ⟨op, hop⟩ := hmd
      rw [hkeep op hop]
      by_cases hstay : s.ifu.irValidR = true ∧ Exu.iHsked s.exu (exuIn s i) = false
      · exact h.stay hsteady hop hstay.1 hstay.2 hflush (hidx hstay.1) hnob
      · have hleave : s.ifu.irValidR = true → Exu.iHsked s.exu (exuIn s i) = true := by
          intro hv
          by_contra hno
          exact hstay ⟨hv, Bool.not_eq_true _ ▸ hno⟩
        obtain ⟨hsta, hleft, herr⟩ := h.freed hsteady hidx hnob hop hleave hflush
        have hv' : (Core.step s i).ifu.irValidR = Ifetch.irValidSet s.ifu (ifuIn s i) := by
          rw [irValidR_step hflush]
          cases hv : s.ifu.irValidR
          · simp
          · simp [hleave hv]
        refine ⟨fun hbusy => absurd hsta hbusy, fun hempty herr' => ?_, fun hempty herr' => ?_,
          fun hnew _ hmark hfresh _ hnob' op' hop' => ?_⟩
        · have hset := hv'.symm.trans hempty
          obtain ⟨hir, he⟩ := Ifetch.step_ifuIrR_of_not_set hset
          change Left _ (Ifetch.step s.ifu (ifuIn s i)).ifuIrR
          rw [hir]
          exact hleft (he.symm.trans herr')
        · have hset := hv'.symm.trans hempty
          exact herr ((Ifetch.step_ifuIrR_of_not_set hset).2.symm.trans herr')
        · have hset := hv'.symm.trans hnew
          change dfflr (Ifetch.irValidSet s.ifu (ifuIn s i))
            (Ifetch.ifuMuldivB2bNxt s.ifu (ifuIn s i)) _ = true at hmark
          rw [hset, dfflr_true] at hmark
          have hno : s.ifu.ifuErrR = false := by
            by_contra he
            have hf := herr (Bool.not_eq_false _ ▸ he)
            exact Bool.false_ne_true (hfresh.symm.trans hf)
          refine marked_of_left (hleft hno) hset hmark ?_ hfresh hop'
          by_contra hstale
          exact hclean ⟨hset, hmark, hstale, hfresh, hnob.trans hnob'⟩

/-! ## Whole runs -/

/-- The CSR file that listens to the run. -/
def csrRun (inp : ℕ → In) (s : State) (c : Csr.State) : ℕ → Csr.State
  | 0 => c
  | t + 1 =>
    Csr.step (csrRun inp s c t) (Exu.csrIn (run inp s t).exu (exuIn (run inp s t) (inp t)))

/-- A multiplication or division does not write the control bit. -/
theorem mdvNob2b_step {c : Csr.State} (hop : Decode.isMulDiv op s.ifu.ifuIrR = true) :
    Csr.mdvNob2b (Csr.step c (Exu.csrIn s.exu (exuIn s i))) = Csr.mdvNob2b c := by
  have hcsr := Exu.csrOp_of_isMulDiv (s := s.exu) (i := exuIn s i) hop
  have hwr : Csr.wrEna (Exu.csrIn s.exu (exuIn s i)) 0xBF0#12 = false := by
    simp [Csr.wrEna, Csr.wbckCsrWen, Exu.csrIn, Exu.csrWrEn, Csrctrl.csrWrEn, Alu.csr, hcsr]
  simp [Csr.mdvNob2b, Csr.step, hwr]

end

section
variable {inp : ℕ → In} {s : State} {c : Csr.State} {t : ℕ}

theorem Fused.of_reset {nob2b : Bool} (h0 : IsReset s) : Fused nob2b s := by
  obtain ⟨hifu, -, hmdv, -⟩ := h0
  refine ⟨fun hbusy => ?_, fun _ _ _ _ _ op hop => ?_, fun _ herr => ?_, fun hv => ?_⟩
  · rw [hmdv] at hbusy
    exact absurd rfl hbusy
  · rw [hifu] at hop
    exact absurd hop (by cases op <;> decide)
  · rw [hifu] at herr
    cases herr
  · rw [hifu] at hv
    cases hv

theorem Fused.run (h0 : IsReset s)
    (hcsr : ∀ u ≤ t, (inp u).mdvNob2b = Csr.mdvNob2b (csrRun inp s c u))
    (hclean : ∀ u < t, ¬StaleMark (run inp s u) (inp u)) :
    Fused (inp t).mdvNob2b (run inp s t) := by
  induction t with
  | zero => exact .of_reset h0
  | succ t ih =>
    have hprev := ih (fun u hu => hcsr u (Nat.le_succ_of_le hu)) fun u hu =>
      hclean u (Nat.lt_succ_of_lt hu)
    refine hprev.step (Steady.run h0 t) (indexed h0 t) rfl (fun op hop => ?_)
      (hclean t (Nat.lt_succ_self t))
    rw [hcsr (t + 1) le_rfl, hcsr t (Nat.le_succ t)]
    exact mdvNob2b_step hop

/-- The unit answers the instruction in the IR from the shared buffers. -/
structure Answered (s : State) (i : In) : Prop where
  dispatched : (Exu.alu s.exu (exuIn s i)).iValid = true
  mdv : Alu.mdvOp (Exu.alu s.exu (exuIn s i)) = true
  b2b : Muldiv.back2backSeq ((Exu.mdvEnv s.exu (exuIn s i)).ports (Exu.mdvUnit s.exu))
    s.exu.alu.mdv = true

/-- The unit finds the results of the instruction that it answers. -/
theorem Fused.wdat {s : State} {i : In} (h : Fused i.mdvNob2b s)
    (hidx : s.ifu.irValidR = true → Exu.Indexed (exuIn s i)) (hans : Answered s i) :
    ∃ op, Decode.isMulDiv op s.ifu.ifuIrR = true ∧
      Alu.wbckOWdat s.exu.alu (Exu.alu s.exu (exuIn s i)) =
        rv32m op (rs1 s s.ifu.ifuIrR) (rs2 s s.ifu.ifuIrR) := by
  have hv : s.ifu.irValidR = true := ((Bool.and_eq_true _ _).mp hans.dispatched).2
  have herr : s.ifu.ifuErrR = false := by
    have hexcp : Alu.ifuExcpOp (Exu.alu s.exu (exuIn s i)) = false := by
      simpa using ((Bool.and_eq_true _ _).mp hans.mdv).1
    simp only [Alu.ifuExcpOp, Bool.or_eq_false_iff] at hexcp
    exact hexcp.1.2
  obtain ⟨op, hop : Decode.isMulDiv op s.ifu.ifuIrR = true⟩ := Exu.isMulDiv_of_mdvOp hans.mdv
  obtain ⟨-, -, h1, h2, hbits, hb2b⟩ := mdvEnv_of_isMulDiv (i := i) hop herr (hidx hv)
  have hseq : (s.ifu.ifuMuldivB2bR && !s.exu.alu.mdv.flushedR && !i.mdvNob2b) = true := by
    rw [← hb2b]
    exact hans.b2b
  rw [Bool.and_eq_true, Bool.and_eq_true, Bool.not_eq_true', Bool.not_eq_true'] at hseq
  obtain ⟨⟨hmark, hfresh⟩, hnob⟩ := hseq
  have hsta : s.exu.alu.mdv.sta = .zeroTh := by
    by_contra hbusy
    obtain hf | hn := (h.working hbusy).notB2b hmark
    · exact Bool.false_ne_true (hfresh.symm.trans hf)
    · exact Bool.false_ne_true (hnob.symm.trans hn)
  obtain ⟨hkind, hret⟩ := h.marked hv herr hmark hfresh hsta hnob op hop
  refine ⟨op, hop, ?_⟩
  rw [Exu.wbckOWdat_of_mdv (Exu.op_of_isMulDiv (s := s.exu) (i := exuIn s i) hop herr rfl).1]
  exact hret.holds.wdat hkind hans.b2b ⟨h1, h2⟩ hbits

/-- What is answered from the buffers is the result of the instruction on its own operands, and
that is what it writes. -/
theorem b2b_invisible (h0 : IsReset s)
    (hcsr : ∀ u ≤ t, (inp u).mdvNob2b = Csr.mdvNob2b (csrRun inp s c u))
    (hclean : ∀ u < t, ¬StaleMark (run inp s u) (inp u))
    (hans : Answered (run inp s t) (inp t)) :
    ∃ op, Decode.isMulDiv op (run inp s t).ifu.ifuIrR = true ∧
      Alu.wbckOWdat (run inp s t).exu.alu (Exu.alu (run inp s t).exu (exuIn (run inp s t) (inp t))) =
        rv32m op (rs1 (run inp s t) (run inp s t).ifu.ifuIrR)
          (rs2 (run inp s t) (run inp s t).ifu.ifuIrR) ∧
      (Exu.cmtWrites (run inp s t).exu (exuIn (run inp s t) (inp t)) = true →
        (run inp s (t + 1)).exu.rf =
          Function.update (run inp s t).exu.rf (Decode.decRdidx (run inp s t).ifu.ifuIrR)
            (rv32m op (rs1 (run inp s t) (run inp s t).ifu.ifuIrR)
              (rs2 (run inp s t) (run inp s t).ifu.ifuIrR))) := by
  obtain ⟨op, hop, hwdat⟩ := (Fused.run h0 hcsr hclean).wdat (indexed h0 t) hans
  refine ⟨op, hop, hwdat, fun hcmt => ?_⟩
  rw [← hwdat]
  exact Exu.step_rf_of_cmtWrites hcmt

end

/-- The high and the low half of a product. -/
def mulPair (t : ℕ) : In :=
  { In.quiet with
    ifuRspValid := decide (2 ≤ t ∧ t ≤ 19)
    ifuRspInstr := if t = 2 then 0x022092b3#32 else 0x02208333#32 }

theorem b2b_invisible_mulPair :
    Alu.wbckOWdat (run mulPair scaledState 20).exu.alu
        (Exu.alu (run mulPair scaledState 20).exu (exuIn (run mulPair scaledState 20) (mulPair 20))) =
      0x20000#32 := by
  have hcsr : ∀ u ≤ 20, (mulPair u).mdvNob2b =
      Csr.mdvNob2b (csrRun mulPair scaledState Csr.State.reset u) := by decide +kernel
  have hmark : ∀ u < 20, Ifetch.irValidSet (run mulPair scaledState u).ifu
        (ifuIn (run mulPair scaledState u) (mulPair u)) = true →
      Ifetch.ifuMuldivB2bNxt (run mulPair scaledState u).ifu
        (ifuIn (run mulPair scaledState u) (mulPair u)) = true → u = 19 := by decide +kernel
  have hclean : ∀ u < 20, ¬StaleMark (run mulPair scaledState u) (mulPair u) := by
    intro u hu hst
    obtain rfl := hmark u hu hst.set hst.mark
    refine hst.stale ?_
    decide +kernel
  have hans : Answered (run mulPair scaledState 20) (mulPair 20) := by
    constructor <;> decide +kernel
  obtain ⟨op, hop, hwdat, -⟩ :=
    b2b_invisible (s := scaledState) (State.isReset_reset _) hcsr hclean hans
  have hmul : Decode.isMulDiv .mul (run mulPair scaledState 20).ifu.ifuIrR = true := by
    decide +kernel
  obtain rfl := Decode.isMulDiv_unique hmul hop
  rw [hwdat]
  decide +kernel

/-- A division by `x0`, and a remainder with another divisor. -/
def staleDiv (t : ℕ) : In :=
  { In.quiet with
    ifuRspValid := decide (2 ≤ t ∧ t ≤ 4)
    ifuRspInstr :=
      if t = 2 then 0x00208233#32
      else if t = 3 then 0x0200c2b3#32
      else 0x0220e333#32 }

/-- The remainder of `x1` by `x2` is read off the buffers, which hold what they held at reset. -/
theorem staleDiv_wrong_result :
    IsReset scaledState ∧ (∀ t, RspOutstanding (staleDiv t) (run staleDiv scaledState t)) ∧
      (∀ u ≤ 5, (staleDiv u).mdvNob2b =
        Csr.mdvNob2b (csrRun staleDiv scaledState Csr.State.reset u)) ∧
      Answered (run staleDiv scaledState 5) (staleDiv 5) ∧
      Decode.isMulDiv .rem (run staleDiv scaledState 5).ifu.ifuIrR = true ∧
      Alu.wbckOWdat (run staleDiv scaledState 5).exu.alu
          (Exu.alu (run staleDiv scaledState 5).exu
            (exuIn (run staleDiv scaledState 5) (staleDiv 5))) = 0#32 ∧
      rv32m .rem (rs1 (run staleDiv scaledState 5) (run staleDiv scaledState 5).ifu.ifuIrR)
          (rs2 (run staleDiv scaledState 5) (run staleDiv scaledState 5).ifu.ifuIrR) = 0x100#32 ∧
      (run staleDiv scaledState 6).exu.rf 6#5 = 0#32 := by
  refine ⟨State.isReset_reset _, fun t hv => ?_, ?_, ⟨?_, ?_, ?_⟩, ?_⟩
  · obtain rfl | rfl | rfl : t = 2 ∨ t = 3 ∨ t = 4 := by
      have ht : 2 ≤ t ∧ t ≤ 4 := of_decide_eq_true hv
      omega
    all_goals decide +kernel
  all_goals decide +kernel

end Core
end E203
