import E203.Exec.Events

/-! # Leaving the IR and committing

The ALU hands an instruction to the commit stage and accepts the next one through two handshakes that
are written separately.

* `Exu.join`: the two are one, unless the address-generation unit is masked off.
* `Core.Dropped`: the mask and the commit stage disagree; the access leaves without effect.
* `Core.handoff_iff_commit`: outside that case leaving the IR, committing, issuing the bus command of a
  load or store and allocating it are one event.
-/

namespace E203
set_option autoImplicit false

namespace Decode

/-- The address-generation group consists of loads, stores and atomic operations. -/
theorem isLoad_or_isStore_or_isAmo {w : BitVec 32} (h : amoldstOp w = true) :
    (isLoad w || isStore w || isAmo w) = true := by
  simp only [amoldstOp, Bool.or_eq_true] at h
  simp only [isLoad, isStore, isAmo, Bool.or_eq_true, Bool.and_eq_true, Bool.not_eq_true',
    Bool.or_eq_false_iff]
  grind

end Decode

namespace Exu
section
variable {s : State} {i : In}

/-! ## The address-generation unit in its idle state -/

theorem agu_info (h : Alu.aguOp (alu s i) = true) :
    Decode.amoldstOp i.iIr = true ∧
      (Alu.agu s.alu (alu s i)).aguIInfo = Decode.aguInfoBus (dec s i) := by
  have hgrp : (Decode.decInfo (dec s i)).grp = GRP_AGU :=
    beq_iff_eq.mp ((Bool.and_eq_true _ _).mp h).2
  obtain ⟨hop, hinfo⟩ := Decode.decInfo_of_grp_agu hgrp
  refine ⟨hop, ?_⟩
  rw [← hinfo]
  simp only [Alu.agu, h, gate_true]
  rfl

theorem agu_kind (h : Alu.aguOp (alu s i) = true) :
    Lsuagu.aguILoad s.alu.agu (Alu.agu s.alu (alu s i)) =
        (Decode.isLoad i.iIr && !Lsuagu.flushBlock s.alu.agu (Alu.agu s.alu (alu s i))) ∧
      Lsuagu.aguIStore s.alu.agu (Alu.agu s.alu (alu s i)) =
        (Decode.isStore i.iIr && !Lsuagu.flushBlock s.alu.agu (Alu.agu s.alu (alu s i))) ∧
      Lsuagu.aguIAmo s.alu.agu (Alu.agu s.alu (alu s i)) =
        (Decode.isAmo i.iIr && !Lsuagu.flushBlock s.alu.agu (Alu.agu s.alu (alu s i))) := by
  obtain ⟨-, hinfo⟩ := agu_info h
  obtain ⟨hld, hst, -, hamo⟩ := Decode.aguInfoBus_bits (d := dec s i)
  rw [Lsuagu.aguILoad, Lsuagu.aguIStore, Lsuagu.aguIAmo, hinfo, hld, hst, hamo]
  exact ⟨rfl, rfl, rfl⟩

/-- The unit is masked off: a flush from outside the ALU keeps its instruction from starting. -/
def masked (s : State) (i : In) : Bool :=
  Alu.aguOp (alu s i) && Lsuagu.flushBlock s.alu.agu (Alu.agu s.alu (alu s i))

/-! ## The join of the two handshakes -/

/-- An instruction of the address-generation unit that is not masked off. -/
theorem join_agu (hidle : s.alu.agu.icbStateR = .idle) (hop : Alu.op (alu s i) = .agu)
    (hmask : masked s i = false) :
    ∃ cond, Alu.oValid s.alu (alu s i) = ((alu s i).iValid && cond) ∧
      aluIReady s i = (cond && aluOReady s i) := by
  obtain ⟨hexcp, halu, hagu, hbjp, hcsr, hmdv⟩ := Alu.op_eq (alu s i)
  simp only [hop, decide_true, reduceCtorEq, decide_false] at hexcp halu hagu hbjp hcsr hmdv
  have hblock : Lsuagu.flushBlock s.alu.agu (Alu.agu s.alu (alu s i)) = false := by
    simpa [masked, hagu] using hmask
  obtain ⟨hld, hst, hamo⟩ := agu_kind hagu
  simp only [hblock, Bool.not_false, Bool.and_true] at hld hst hamo
  have hkind := Decode.isLoad_or_isStore_or_isAmo (agu_info hagu).1
  have hidle' : Lsuagu.icbStaIsLast s.alu.agu = false := by
    simp [Lsuagu.icbStaIsLast, Lsuagu.icbStaIsWbck, hidle]
  have hvalid : (Alu.agu s.alu (alu s i)).aguIValid = (alu s i).iValid := by simp [Alu.agu, hagu]
  have hready : (Alu.agu s.alu (alu s i)).aguIcbCmdReady = i.aguIcbCmdReady := rfl
  cases halgn : Lsuagu.aguIAlgnamo s.alu.agu (Alu.agu s.alu (alu s i)) (Alu.dpathRes s.alu (alu s i))
  case true =>
    -- an aligned atomic operation starts its state machine instead
    refine ⟨false, ?_, ?_⟩
    · obtain ⟨hun, hamo'⟩ := (Bool.and_eq_true _ _).mp halgn
      rw [Bool.not_eq_true'] at hun
      obtain ⟨hld', hst', -⟩ := Decode.isAmo_exclusive (hamo.symm.trans hamo')
      simp [Alu.oValid, hexcp, halu, hagu, hbjp, hcsr, hmdv, Alu.aguOValid, Lsuagu.aguOValid,
        hidle', Lsuagu.aguIAlgnldst, Lsuagu.aguIUnalgnldst, Lsuagu.aguIUnalgnamo, hun, hld, hst,
        hld', hst']
    · simp [aluIReady, Alu.iReady, hexcp, halu, hagu, hbjp, hcsr, hmdv, Alu.aguIReady,
        Lsuagu.aguIReady, halgn, Lsuagu.stateLastExitEna, Lsuagu.stateWbckExitEna,
        Lsuagu.icbStaIsWbck, hidle]
  case false =>
    refine ⟨i.aguIcbCmdReady, ?_, ?_⟩
    · have hany : (Lsuagu.aguIAlgnldst s.alu.agu (Alu.agu s.alu (alu s i))
            (Alu.dpathRes s.alu (alu s i)) ||
          Lsuagu.aguIUnalgnldst s.alu.agu (Alu.agu s.alu (alu s i))
            (Alu.dpathRes s.alu (alu s i)) ||
          Lsuagu.aguIUnalgnamo s.alu.agu (Alu.agu s.alu (alu s i))
            (Alu.dpathRes s.alu (alu s i))) = true := by
        simp only [Lsuagu.aguIAlgnamo, hamo] at halgn
        simp only [Lsuagu.aguIAlgnldst, Lsuagu.aguIUnalgnldst, Lsuagu.aguIUnalgnamo, hld, hst, hamo]
        revert halgn hkind
        clear hld hst hamo
        generalize Lsuagu.aguAddrUnalgn s.alu.agu _ _ = u, Decode.isLoad i.iIr = l,
          Decode.isStore i.iIr = st, Decode.isAmo i.iIr = a
        revert u l st a
        decide
      simp [Alu.oValid, hexcp, halu, hagu, hbjp, hcsr, hmdv, Alu.aguOValid, Lsuagu.aguOValid,
        hidle', hany, hvalid, hready]
    · simp [aluIReady, Alu.iReady, hexcp, halu, hagu, hbjp, hcsr, hmdv, Alu.aguIReady,
        Lsuagu.aguIReady, halgn, hready]

/-- The ALU offers its instruction when `cond` holds and accepts the next one under the same
condition. -/
theorem join (hidle : s.alu.agu.icbStateR = .idle) (hmask : masked s i = false) :
    ∃ cond, Alu.oValid s.alu (alu s i) = ((alu s i).iValid && cond) ∧
      aluIReady s i = (cond && aluOReady s i) := by
  cases hop : Alu.op (alu s i)
  case agu => exact join_agu hidle hop hmask
  all_goals
    obtain ⟨hexcp, halu, hagu, hbjp, hcsr, hmdv⟩ := Alu.op_eq (alu s i)
    simp only [hop, decide_true, reduceCtorEq, decide_false] at hexcp halu hagu hbjp hcsr hmdv
  case csr =>
    refine ⟨Csrctrl.addiCondi (Alu.csr (alu s i)), ?_, ?_⟩
    · simp [Alu.oValid, hexcp, halu, hagu, hbjp, hcsr, hmdv, Csrctrl.csrOValid, Alu.csr]
    · simp only [aluIReady, Alu.iReady, hexcp, halu, hagu, hbjp, hcsr, hmdv, Csrctrl.csrIReady,
        Csrctrl.addiCondi]
      cases Csrctrl.selEai (Alu.csr (alu s i)) <;> simp
  case mdv =>
    refine ⟨Muldiv.wbckCondi (Alu.mdv s.alu (alu s i) false false) s.alu.mdv
      (Alu.muldivReqAluRes s.alu (alu s i)), ?_, ?_⟩
    · simp [Alu.oValid, hexcp, halu, hagu, hbjp, hcsr, hmdv, Alu.mdvOValid, Muldiv.oValid, Alu.mdv,
        Bool.and_comm]
    · simp only [aluIReady, Alu.iReady, hexcp, halu, hagu, hbjp, hcsr, hmdv, Alu.mdvIReady,
        Muldiv.iReady, Bool.and_false, Bool.false_or, Bool.or_false, Bool.and_true, Bool.true_and]
      rfl
  case none =>
    refine ⟨false, ?_, ?_⟩
    · simp [Alu.oValid, hexcp, halu, hagu, hbjp, hcsr, hmdv]
    · simp [aluIReady, Alu.iReady, hexcp, halu, hagu, hbjp, hcsr, hmdv]
  all_goals
    refine ⟨true, ?_, ?_⟩
    · simp [Alu.oValid, hexcp, halu, hagu, hbjp, hcsr, hmdv]
    · simp [aluIReady, Alu.iReady, hexcp, halu, hagu, hbjp, hcsr, hmdv]

/-- Hence an instruction leaves the IR when it commits. -/
theorem iHsked_eq_cmtEna (hidle : s.alu.agu.icbStateR = .idle) (hmask : masked s i = false) :
    iHsked s i = cmtEna s i := by
  obtain ⟨cond, hvalid, hready⟩ := join hidle hmask
  have hiv : (alu s i).iValid = (Disp.dispCondition (disp s i) && i.iValid) := rfl
  simp only [iHsked, iReady, Disp.dispIReady, hready, cmtEna, Commit.cmtEna, aluCmtValid,
    Alu.cmtOValid, hvalid, hiv, aluOReady, Alu.oReady, Alu.oNeedCmt, aluCmtReady]
  cases i.iValid <;> cases Disp.dispCondition (disp s i) <;> cases cond <;>
    simp [Bool.and_comm]

/-! ## A masked instruction -/

/-- The mask is due to an event that keeps the instruction from committing, or to `haltStep`. -/
theorem flushReq_of_masked (hmask : masked s i = true) :
    s.alu.agu.icbStateR = .idle ∧ flushReq s i = true := by
  have hblock := ((Bool.and_eq_true _ _).mp hmask).2
  simp only [Lsuagu.flushBlock, Bool.and_eq_true] at hblock
  obtain ⟨hreq, hidle⟩ := hblock
  exact ⟨by simpa [Lsuagu.icbStaIsIdle] using hidle, hreq⟩

theorem oValid_of_masked (hmask : masked s i = true) : Alu.oValid s.alu (alu s i) = false := by
  obtain ⟨hagu, hblock⟩ := (Bool.and_eq_true _ _).mp hmask
  have hidle := (flushReq_of_masked hmask).1
  obtain ⟨hexcp, halu, hbjp, hcsr, hmdv⟩ := aguOp_exclusive hagu
  obtain ⟨hld, hst, hamo⟩ := agu_kind hagu
  simp only [hblock, Bool.not_true, Bool.and_false] at hld hst hamo
  simp [Alu.oValid, hexcp, halu, hbjp, hcsr, hmdv, Alu.aguOValid, Lsuagu.aguOValid,
    Lsuagu.icbStaIsLast, Lsuagu.icbStaIsWbck, hidle, Lsuagu.aguIAlgnldst, Lsuagu.aguIUnalgnldst,
    Lsuagu.aguIUnalgnamo, hld, hst, hamo]

theorem cmtEna_of_masked (hmask : masked s i = true) : cmtEna s i = false := by
  simp [cmtEna, Commit.cmtEna, aluCmtValid, Alu.cmtOValid, oValid_of_masked hmask]

/-- It is accepted when the stages behind the ALU would take it. -/
theorem aluIReady_of_masked (hmask : masked s i = true) :
    aluIReady s i = (i.aguIcbCmdReady && aluOReady s i) := by
  obtain ⟨hagu, hblock⟩ := (Bool.and_eq_true _ _).mp hmask
  obtain ⟨hexcp, halu, hbjp, hcsr, hmdv⟩ := aguOp_exclusive hagu
  obtain ⟨-, -, hamo⟩ := agu_kind hagu
  simp only [hblock, Bool.not_true, Bool.and_false] at hamo
  have hready : (Alu.agu s.alu (alu s i)).aguIcbCmdReady = i.aguIcbCmdReady := rfl
  simp [aluIReady, Alu.iReady, hexcp, halu, hagu, hbjp, hcsr, hmdv, Alu.aguIReady,
    Lsuagu.aguIReady, Lsuagu.aguIAlgnamo, hamo, hready]

/-- They would take it only under `haltStep`. -/
theorem aluOReady_of_masked (hmask : masked s i = true) :
    aluOReady s i =
      (Excp.haltStep s.excp (cmtCtl s i).toCtl && !longpExcpOValid s i &&
        !(Decode.decRdwen i.iIr && longpWbckOValid s i)) := by
  obtain ⟨hagu, hblock⟩ := (Bool.and_eq_true _ _).mp hmask
  obtain ⟨hidle, hreq⟩ := flushReq_of_masked hmask
  obtain ⟨hexcp, halu, hbjp, hcsr, hmdv⟩ := aguOp_exclusive hagu
  obtain ⟨hld, hst, hamo⟩ := agu_kind hagu
  simp only [hblock, Bool.not_true, Bool.and_false] at hld hst hamo
  have hnowait : (cmtCtl s i).amoWait = false := by
    change Lsuagu.amoWait s.alu.agu = false
    simp [Lsuagu.amoWait, Lsuagu.icbStaIsIdle, hidle]
  have hraw : Excp.nonaluExcpirqFlushReqRaw s.excp (cmtCtl s i).toCtl = true := hreq
  rw [Excp.nonaluExcpirqFlushReqRaw_eq hnowait] at hraw
  have hfetch := hexcp
  simp only [Alu.ifuExcpOp, Bool.or_eq_false_iff] at hfetch
  have hmis : (aluCmt s i).aluExcpIMisalgn = false ∧ (aluCmt s i).aluExcpIBuserr = false := by
    simp [aluCmt, Alu.cmt, Lsuagu.aguOCmtMisalgn, Lsuagu.aguIUnalgnldst, Lsuagu.aguIUnalgnamo,
      Lsuagu.aguOCmtBuserr, Lsuagu.aguIAlgnamo, hld, hst, hamo]
  have hebrk : (aluCmt s i).aluExcpIEbreak = false := by simp [aluCmt, Alu.cmt, halu]
  have hneed : Excp.aluNeedFlush (cmtCtl s i).toCtl (aluCmt s i).toAlu = false := by
    rw [Excp.aluNeedFlush, Excp.aluExcpIEbreak4excp, hebrk, hmis.1, hmis.2]
    simp [aluCmt, Alu.cmt, halu, hcsr, hfetch]
  have hcmt : aluCmtReady s i =
      (!Excp.irqReq (cmtCtl s i).toCtl && !Excp.nonaluDbgEntryReq s.excp (cmtCtl s i).toCtl &&
        !longpExcpOValid s i) := by
    rw [aluCmtReady_of_plain hneed hebrk (cmtIIsBranch_of_not_bjp hbjp)]
  have hneedWbck : Alu.oNeedWbck s.alu (alu s i) = Decode.decRdwen i.iIr := by
    have hrdwen : Alu.wbckORdwen (alu s i) = Decode.decRdwen i.iIr := rfl
    simp [Alu.oNeedWbck, hrdwen, Alu.iLongpipe, Alu.mdvILongpipe, Lsuagu.aguILongpipe,
      Lsuagu.aguIAlgnldst, hld, hst, Alu.wbckOErr, halu, hbjp, hcsr, hmdv, hexcp, Lsuagu.aguOWbckErr,
      Lsuagu.aguOCmtBuserr, Lsuagu.aguIAlgnamo, hamo, Lsuagu.aguOCmtMisalgn, Lsuagu.aguIUnalgnldst,
      Lsuagu.aguIUnalgnamo]
  have hwbck : aluWbckOReady s i = !longpWbckOValid s i := by
    simp [aluWbckOReady, Wbck.aluWbckIReady, Wbck.wbckReady4alu, Wbck.rfWbckOReady]
  have hlongp : Excp.longpNeedFlush (cmtCtl s i).toCtl = longpExcpOValid s i := rfl
  rw [hlongp] at hraw
  rw [aluOReady, Alu.oReady, hcmt, hneedWbck, hwbck]
  cases hhalt : Excp.haltStep s.excp (cmtCtl s i).toCtl
  case true =>
    obtain ⟨hdbg, hirq⟩ := Excp.haltStep_exclusive hhalt
    rw [hdbg, hirq]
    cases longpExcpOValid s i <;> cases Decode.decRdwen i.iIr <;> cases longpWbckOValid s i <;> rfl
  case false =>
    rw [hhalt, Bool.or_false] at hraw
    revert hraw
    cases longpExcpOValid s i <;> cases Excp.nonaluDbgEntryReq s.excp (cmtCtl s i).toCtl <;>
      cases Excp.irqReq (cmtCtl s i).toCtl <;> simp [Alu.oNeedCmt]

/-! ## The bus command of a load or store -/

/-- An aligned load or store issues its command in the cycle in which it commits and is allocated. -/
theorem aguIcbCmdHsked_iff (hidle : s.alu.agu.icbStateR = .idle)
    (hword : (Decode.isLoad i.iIr || Decode.isStore i.iIr) = true) :
    aguIcbCmdHsked s i = true ↔ cmtEna s i = true ∧ oitfEna s i = true := by
  cases hagu : Alu.aguOp (alu s i)
  case false =>
    have hno : aguIcbCmdHsked s i = false := by
      simp [aguIcbCmdHsked, aguIcbCmdValid, Alu.aguIcbCmdValid, Lsuagu.aguIcbCmdValid, Alu.agu,
        hagu, Lsuagu.aguIAlgnamo, Lsuagu.aguIAmo, Lsuagu.aguIAlgnldst, Lsuagu.aguILoad,
        Lsuagu.aguIStore]
    have hena : oitfEna s i = false := by
      by_contra hena
      rw [(oitfEna_disReady (Bool.not_eq_false _ ▸ hena)).2.1] at hagu
      cases hagu
    simp [hno, hena]
  case true =>
    obtain ⟨hexcp, halu, hbjp, hcsr, hmdv⟩ := aguOp_exclusive hagu
    obtain ⟨hld, hst, hamo⟩ := agu_kind hagu
    have hnoamo : Lsuagu.aguIAmo s.alu.agu (Alu.agu s.alu (alu s i)) = false := by
      cases hw : Decode.isAmo i.iIr
      · rw [hamo, hw, Bool.false_and]
      · obtain ⟨hno, hno', -⟩ := Decode.isAmo_exclusive hw
        rw [hno, hno'] at hword
        cases hword
    have hvalid : (Alu.agu s.alu (alu s i)).aguIValid = (alu s i).iValid := by
      simp [Alu.agu, hagu]
    have hready : (Alu.agu s.alu (alu s i)).aguIcbCmdReady = i.aguIcbCmdReady := rfl
    have hcmd : aguIcbCmdHsked s i =
        (Lsuagu.aguIAlgnldst s.alu.agu (Alu.agu s.alu (alu s i)) (Alu.dpathRes s.alu (alu s i)) &&
          (alu s i).iValid && aluOReady s i && i.aguIcbCmdReady) := by
      simp [aguIcbCmdHsked, aguIcbCmdValid, Alu.aguIcbCmdValid, Lsuagu.aguIcbCmdValid, hagu, hvalid,
        Lsuagu.aguIAlgnamo, hnoamo]
    have hena : oitfEna s i =
        ((alu s i).iValid && (i.aguIcbCmdReady && aluOReady s i) &&
          Lsuagu.aguIAlgnldst s.alu.agu (Alu.agu s.alu (alu s i))
            (Alu.dpathRes s.alu (alu s i))) := by
      simp [oitfEna, Disp.dispOitfEna, aluIReady, Alu.iReady, hexcp, halu, hagu, hbjp, hcsr, hmdv,
        Alu.aguIReady, Lsuagu.aguIReady, Lsuagu.aguIAlgnamo, hnoamo, hready, Alu.iLongpipe,
        Alu.mdvILongpipe, Lsuagu.aguILongpipe]
      rfl
    have hcmt : cmtEna s i =
        (Alu.oValid s.alu (alu s i) &&
          (if Alu.oNeedWbck s.alu (alu s i) then aluWbckOReady s i else true) &&
          aluCmtReady s i) := by
      simp [cmtEna, Commit.cmtEna, aluCmtValid, Alu.cmtOValid, Alu.oNeedCmt, aluCmtReady]
    have hov : Lsuagu.aguIAlgnldst s.alu.agu (Alu.agu s.alu (alu s i))
          (Alu.dpathRes s.alu (alu s i)) = true →
        Alu.oValid s.alu (alu s i) = ((alu s i).iValid && i.aguIcbCmdReady) := by
      intro halgn
      simp [Alu.oValid, hexcp, halu, hagu, hbjp, hcsr, hmdv, Alu.aguOValid, Lsuagu.aguOValid,
        Lsuagu.icbStaIsLast, Lsuagu.icbStaIsWbck, hidle, halgn, hvalid, hready]
    rw [hcmd, hena, hcmt, aluOReady, Alu.oReady]
    cases halgn : Lsuagu.aguIAlgnldst s.alu.agu (Alu.agu s.alu (alu s i))
      (Alu.dpathRes s.alu (alu s i))
    case false => simp
    case true =>
      rw [hov halgn]
      simp only [Alu.oNeedCmt, if_true, Bool.and_eq_true]
      tauto

end
end Exu

/-! ## Runs of the core -/

namespace Core

/-- A load, store or atomic operation is masked off while halted and stepping, and everything behind
the ALU is ready for it. -/
def Dropped (s : State) (i : In) : Prop :=
  Disp.dispOAluValid (Exu.disp s.exu (exuIn s i)) = true ∧
    Alu.aguOp (Exu.alu s.exu (exuIn s i)) = true ∧ s.exu.alu.agu.icbStateR = .idle ∧
    Excp.haltStep s.exu.excp (Exu.cmtCtl s.exu (exuIn s i)).toCtl = true ∧
    i.aguIcbCmdReady = true ∧ Exu.longpExcpOValid s.exu (exuIn s i) = false ∧
    ¬(Decode.decRdwen s.ifu.ifuIrR = true ∧ Exu.longpWbckOValid s.exu (exuIn s i) = true)

/-- Leaving the IR is committing; the bus command of a load or store is issued in the cycle of its
commit and of its allocation. -/
def HandoffIsCommit (s : State) (i : In) : Prop :=
  (Exu.iHsked s.exu (exuIn s i) = true ↔ Exu.cmtEna s.exu (exuIn s i) = true) ∧
    (s.ifu.irValidR = true →
      (Decode.isLoad s.ifu.ifuIrR || Decode.isStore s.ifu.ifuIrR) = true →
        (Exu.aguIcbCmdHsked s.exu (exuIn s i) = true ↔
          Exu.cmtEna s.exu (exuIn s i) = true ∧ Exu.oitfEna s.exu (exuIn s i) = true))

section
variable {s : State} {i : In}

theorem Dropped.masked (h : Dropped s i) : Exu.masked s.exu (exuIn s i) = true := by
  obtain ⟨-, hagu, hidle, hhalt, -⟩ := h
  have hnowait : (Exu.cmtCtl s.exu (exuIn s i)).amoWait = false := by
    change Lsuagu.amoWait s.exu.alu.agu = false
    simp [Lsuagu.amoWait, Lsuagu.icbStaIsIdle, hidle]
  have hreq : (Alu.agu s.exu.alu (Exu.alu s.exu (exuIn s i))).flushReq = true := by
    change Exu.flushReq s.exu (exuIn s i) = true
    rw [Exu.flushReq, Commit.flushReq, Excp.nonaluExcpirqFlushReqRaw_eq hnowait, hhalt]
    simp
  simp [Exu.masked, hagu, Lsuagu.flushBlock, hreq, Lsuagu.icbStaIsIdle, hidle]

theorem iHsked_of_amoRun (h : Exu.AmoRun s.exu (exuIn s i)) :
    Exu.iHsked s.exu (exuIn s i) = Exu.cmtEna s.exu (exuIn s i) := by
  rw [Exu.iHsked, h.iReady_eq, h.cmt.2, h.valid, Bool.true_and]

theorem Steady.iHsked_iff (h : Steady s) :
    (Exu.iHsked s.exu (exuIn s i) = true ↔ Exu.cmtEna s.exu (exuIn s i) = true) ↔
      ¬Dropped s i := by
  cases hst : decide (s.exu.alu.agu.icbStateR = .idle)
  case false =>
    have hbusy := of_decide_eq_false hst
    have hno : ¬Dropped s i := fun hd => hbusy hd.2.2.1
    rw [iHsked_of_amoRun (h.amoRun i hbusy)]
    simp [hno]
  case true =>
    have hidle := of_decide_eq_true hst
    cases hmask : Exu.masked s.exu (exuIn s i)
    case false =>
      have hno : ¬Dropped s i := by
        intro hd
        rw [hd.masked] at hmask
        cases hmask
      rw [Exu.iHsked_eq_cmtEna hidle hmask]
      simp [hno]
    case true =>
      have hagu := ((Bool.and_eq_true _ _).mp hmask).1
      have hcmt : Exu.cmtEna s.exu (exuIn s i) = false := Exu.cmtEna_of_masked hmask
      have hcmd : (exuIn s i).aguIcbCmdReady = i.aguIcbCmdReady := rfl
      have hword : (exuIn s i).iIr = s.ifu.ifuIrR := rfl
      have hdisp : Disp.dispOAluValid (Exu.disp s.exu (exuIn s i)) =
          (Disp.dispCondition (Exu.disp s.exu (exuIn s i)) && (exuIn s i).iValid) := rfl
      rw [hcmt, Exu.iHsked, Exu.iReady, Disp.dispIReady, Exu.aluIReady_of_masked hmask,
        Exu.aluOReady_of_masked hmask, hcmd, hword]
      simp only [Dropped, hagu, hidle, hdisp, true_and, Bool.and_eq_true, Bool.not_eq_true',
        Bool.false_eq_true, iff_false, Bool.and_eq_false_iff]
      simp
      tauto

/-- Leaving the IR is committing, and committing a load or store is issuing its command, in exactly
the cycles in which no access is dropped. -/
theorem handoff_iff_commit {inp : ℕ → In} (h0 : IsReset s) (t : ℕ) :
    HandoffIsCommit (run inp s t) (inp t) ↔ ¬Dropped (run inp s t) (inp t) := by
  have hsteady : Steady (run inp s t) := Steady.run h0 t
  rw [HandoffIsCommit, hsteady.iHsked_iff]
  refine ⟨And.left, fun hno => ⟨hno, fun _ hword => ?_⟩⟩
  have hidle : (run inp s t).exu.alu.agu.icbStateR = .idle := by
    by_contra hbusy
    obtain ⟨hld, hst, -⟩ := Decode.isAmo_exclusive (hsteady.amo hbusy).2.1
    rw [hld, hst] at hword
    cases hword
  exact Exu.aguIcbCmdHsked_iff hidle hword

end

/-- Debug mode is entered, `dcsr` set to halt and step, debug mode left; then `w` comes. -/
def haltStepInp (w : BitVec 32) (t : ℕ) : In :=
  { In.quiet with
    ifuRspValid := decide (2 ≤ t ∧ t ≤ 8)
    ifuRspInstr :=
      if t = 5 then 0x7b065073#32
      else if t = 6 then 0x7b200073#32
      else if t = 8 then w
      else 0x00000013#32
    dbgIrqR := decide (t ≤ 4) }

/-- Outside debug mode, in the cycle after `dcsr` has been written, nothing is dropped yet. -/
theorem handoff_iff_commit_haltStepInp :
    HandoffIsCommit (run (haltStepInp 0x00002083#32) zeroState 7) (haltStepInp 0x00002083#32 7) := by
  refine (handoff_iff_commit (s := zeroState) (State.isReset_reset _) 7).mpr fun hd => ?_
  have hno : Excp.haltStep (run (haltStepInp 0x00002083#32) zeroState 7).exu.excp
      (Exu.cmtCtl (run (haltStepInp 0x00002083#32) zeroState 7).exu
        (exuIn (run (haltStepInp 0x00002083#32) zeroState 7)
          (haltStepInp 0x00002083#32 7))).toCtl = false := by decide +kernel
  rw [hd.2.2.2.1] at hno
  cases hno

theorem haltStepInp_rspOutstanding (t : ℕ) :
    RspOutstanding (haltStepInp 0x00002083#32 t) (run (haltStepInp 0x00002083#32) zeroState t) := by
  intro hv
  have ht : 2 ≤ t ∧ t ≤ 8 := of_decide_eq_true hv
  clear hv
  obtain rfl | rfl | rfl | rfl | rfl | rfl | rfl :
      t = 2 ∨ t = 3 ∨ t = 4 ∨ t = 5 ∨ t = 6 ∨ t = 7 ∨ t = 8 := by omega
  all_goals
    clear ht
    decide +kernel

/-- The load leaves the IR in cycle 9 without commit and without bus command. -/
theorem haltStepInp_drops_load :
    IsReset zeroState ∧
      (∀ t, RspOutstanding (haltStepInp 0x00002083#32 t)
        (run (haltStepInp 0x00002083#32) zeroState t)) ∧
      ¬HandoffIsCommit (run (haltStepInp 0x00002083#32) zeroState 9)
        (haltStepInp 0x00002083#32 9) := by
  refine ⟨State.isReset_reset _, haltStepInp_rspOutstanding, fun hsame => ?_⟩
  have hleaves : Exu.iHsked (run (haltStepInp 0x00002083#32) zeroState 9).exu
      (exuIn (run (haltStepInp 0x00002083#32) zeroState 9)
        (haltStepInp 0x00002083#32 9)) = true := by decide +kernel
  have hno : Exu.cmtEna (run (haltStepInp 0x00002083#32) zeroState 9).exu
      (exuIn (run (haltStepInp 0x00002083#32) zeroState 9)
        (haltStepInp 0x00002083#32 9)) = false := by decide +kernel
  rw [hsame.1.mp hleaves] at hno
  cases hno

end Core
end E203
