import E203.Exec.Halt
import E203.Exec.InOrder
import E203.Lsu.Compute

/-! # An atomic operation, cycle by cycle

* `AmoRun.dpathRes_addr`, `AmoRun.dpathRes_amoalu`: what the shared datapath computes for it.
* `AmoRun.step_sbf0`, `AmoRun.step_sbf1`: what the shared buffers keep for it.
-/

namespace E203
set_option autoImplicit false

namespace Exu
section
variable {s : State} {i : In} {op : AmoOp}

/-! ## The command -/

theorem AmoRun.aguIcbCmdValid_eq (h : AmoRun s i) :
    aguIcbCmdValid s i = decide (s.alu.agu.icbStateR = .wait2nd) := by
  obtain ⟨hamo, hldst, -⟩ := h.agu (Alu.dpathRes s.alu (alu s i))
  simp [aguIcbCmdValid, Alu.aguIcbCmdValid, Lsuagu.aguIcbCmdValid, hamo, hldst,
    Lsuagu.icbStaIsIdle, Lsuagu.icbStaIsWait2nd, h.busy]

theorem AmoRun.aguIcbCmdRead_eq (h : AmoRun s i) (res : BitVec 32) :
    Lsuagu.aguIcbCmdRead s.alu.agu (Alu.agu s.alu (alu s i)) res = false := by
  obtain ⟨-, hldst, -⟩ := h.agu res
  simp [Lsuagu.aguIcbCmdRead, hldst, Lsuagu.icbStaIsIdle, h.busy]

/-! ## The operands and the datapath -/

/-- The unit has the shared datapath for itself. -/
theorem mux_of_aguOp (hagu : Alu.aguOp (alu s i) = true) :
    AluDpath.mux (Alu.dpath s.alu (alu s i)) = Lsuagu.req s.alu.agu (Alu.agu s.alu (alu s i)) ∧
      (Alu.dpath s.alu (alu s i)).muldivReqAlu = false := by
  obtain ⟨-, halu, hbjp, -, hmdv⟩ := aguOp_exclusive hagu
  constructor
  · apply AluDpath.mux_agu
    · change (Alu.aluOp (alu s i) && _) = false
      rw [halu, Bool.false_and]
    · exact hbjp
    · exact hagu
  · exact hmdv

theorem agu_operands (hagu : Alu.aguOp (alu s i) = true) (hop : Decode.isAmoOp op i.iIr = true)
    (hidx : Indexed i) :
    (Alu.agu s.alu (alu s i)).aguIRs1 = s.rf.rfR (Decode.decRs1idx i.iIr) ∧
      (Alu.agu s.alu (alu s i)).aguIRs2 = s.rf.rfR (Decode.decRs2idx i.iIr) := by
  obtain ⟨h1, h2⟩ := operands_of_regs (s := s) hidx (Decode.rv32Amo_regs (Decode.isAmoOp_iff.mp hop).1).2.1
    (Decode.isAmoOp_rs2en hop)
  rw [← h1, ← h2]
  simp only [Alu.agu, hagu, gate_true, and_self]

theorem agu_amoOp (hagu : Alu.aguOp (alu s i) = true) (hop : Decode.isAmoOp op i.iIr = true)
    (op' : AmoOp) :
    (Alu.agu s.alu (alu s i)).aguIInfo.getLsbD (Decode.amoBit op') = decide (op = op') := by
  rw [(agu_info hagu).2, Decode.aguInfoBus_amoOp]
  exact Decode.isAmoOp_eq hop op'

theorem aguISizeW_of_amoOp (hagu : Alu.aguOp (alu s i) = true)
    (hop : Decode.isAmoOp op i.iIr = true) :
    Lsuagu.aguISizeHw (Alu.agu s.alu (alu s i)) = false ∧
      Lsuagu.aguISizeW (Alu.agu s.alu (alu s i)) = true := by
  have hsize : Lsuagu.aguISize (Alu.agu s.alu (alu s i)) = 0b10#2 := by
    rw [Lsuagu.aguISize, (agu_info hagu).2, Decode.aguInfoBus_size]
    exact Decode.isAmoOp_size hop
  rw [Lsuagu.aguISizeHw, Lsuagu.aguISizeW, hsize]
  decide

/-- In the states with its address on the datapath, the address is its first operand. -/
theorem dpathRes_of_addr (hagu : Alu.aguOp (alu s i) = true)
    (hreq : Lsuagu.req s.alu.agu (Alu.agu s.alu (alu s i)) =
      AluDpath.addReq (Alu.agu s.alu (alu s i)).aguIRs1 0#32) :
    Alu.dpathRes s.alu (alu s i) = (Alu.agu s.alu (alu s i)).aguIRs1 := by
  obtain ⟨hmux, hmdv⟩ := mux_of_aguOp hagu
  rw [Alu.dpathRes, AluDpath.dpathRes_add (hmux.trans hreq) hmdv, BitVec.add_zero]

/-- Before it starts, the address of an atomic operation that is not masked off. -/
theorem req_of_idle (hidle : s.alu.agu.icbStateR = .idle)
    (hamo : Lsuagu.aguIAmo s.alu.agu (Alu.agu s.alu (alu s i)) = true) :
    Lsuagu.req s.alu.agu (Alu.agu s.alu (alu s i)) =
      AluDpath.addReq (Alu.agu s.alu (alu s i)).aguIRs1 0#32 := by
  simp [Lsuagu.req, AluDpath.addReq, Lsuagu.icbStaIsIdle, Lsuagu.icbStaIsAmoalu, Lsuagu.amoAddr,
    Lsuagu.icbStaIsWait2nd, Lsuagu.icbStaIs2nd, Lsuagu.icbStaIsWbck, Lsuagu.aguAddrGenOp2,
    Lsuagu.aguIOfst0, hidle, hamo]

theorem AmoRun.req_of_addr (h : AmoRun s i) (hsta : s.alu.agu.icbStateR = .wait2nd) :
    Lsuagu.req s.alu.agu (Alu.agu s.alu (alu s i)) =
      AluDpath.addReq (Alu.agu s.alu (alu s i)).aguIRs1 0#32 := by
  have hamo := (h.agu 0#32).2.2.2
  simp [Lsuagu.req, AluDpath.addReq, Lsuagu.icbStaIsIdle, Lsuagu.icbStaIsAmoalu, Lsuagu.amoAddr,
    Lsuagu.icbStaIsWait2nd, Lsuagu.icbStaIs2nd, Lsuagu.icbStaIsWbck, Lsuagu.aguAddrGenOp2,
    Lsuagu.aguIOfst0, hsta, hamo]

theorem AmoRun.dpathRes_amoalu (h : AmoRun s i) (hop : Decode.isAmoOp op i.iIr = true)
    (hsta : s.alu.agu.icbStateR = .amoalu) :
    Alu.dpathRes s.alu (alu s i) =
      rv32a op (s.alu.sbf.sbf0.extractLsb' 0 32) (Alu.agu s.alu (alu s i)).aguIRs2 := by
  obtain ⟨hmux, hmdv⟩ := mux_of_aguOp h.ops.2.1
  have hbit := agu_amoOp h.ops.2.1 hop
  have hreq : Lsuagu.req s.alu.agu (Alu.agu s.alu (alu s i)) =
      AluDpath.amoReq op (s.alu.sbf.sbf0.extractLsb' 0 32)
        (Alu.agu s.alu (alu s i)).aguIRs2 := by
    have hswap : Lsuagu.aguIAmoswap (Alu.agu s.alu (alu s i)) = decide (op = .swap) := hbit .swap
    have hadd : Lsuagu.aguIAmoadd (Alu.agu s.alu (alu s i)) = decide (op = .add) := hbit .add
    have hand : Lsuagu.aguIAmoand (Alu.agu s.alu (alu s i)) = decide (op = .and) := hbit .and
    have hor : Lsuagu.aguIAmoor (Alu.agu s.alu (alu s i)) = decide (op = .or) := hbit .or
    have hxor : Lsuagu.aguIAmoxor (Alu.agu s.alu (alu s i)) = decide (op = .xor) := hbit .xor
    have hmax : Lsuagu.aguIAmomax (Alu.agu s.alu (alu s i)) = decide (op = .max) := hbit .max
    have hmin : Lsuagu.aguIAmomin (Alu.agu s.alu (alu s i)) = decide (op = .min) := hbit .min
    have hmaxu : Lsuagu.aguIAmomaxu (Alu.agu s.alu (alu s i)) = decide (op = .maxu) := hbit .maxu
    have hminu : Lsuagu.aguIAmominu (Alu.agu s.alu (alu s i)) = decide (op = .minu) := hbit .minu
    rw [Lsuagu.req, hswap, hadd, hand, hor, hxor, hmax, hmin, hmaxu, hminu]
    simp [AluDpath.amoReq, Lsuagu.icbStaIsIdle, Lsuagu.icbStaIsAmoalu, Lsuagu.amoAddr,
      Lsuagu.icbStaIsWait2nd, Lsuagu.icbStaIs2nd, Lsuagu.icbStaIsWbck, hsta]
    rfl
  exact AluDpath.dpathRes_amo (hmux.trans hreq) hmdv

theorem step_rf_of_calm (hempty : oitfEmpty s = true) (hcmt : cmtEna s i = false) :
    (step s i).rf = s.rf := by
  have hw : cmtWrites s i = false := by rw [cmtWrites, hcmt, Bool.false_and]
  rw [step_rf, (noLongp hempty).2.1, hw]
  rfl

/-! ## Before it starts -/

/-- A flush that no instruction causes is asked for from outside the ALU. -/
theorem pipeFlushReq_of_calm (hv : aluCmtValid s i = false) (hreq : flushReq s i = false)
    (hidle : s.alu.agu.icbStateR = .idle) : pipeFlushReq s i = false := by
  have hwait : (cmtCtl s i).amoWait = false := by
    change Lsuagu.amoWait s.alu.agu = false
    simp [Lsuagu.amoWait, Lsuagu.icbStaIsIdle, hidle]
  have hraw : Excp.nonaluExcpirqFlushReqRaw s.excp (cmtCtl s i).toCtl = false := hreq
  rw [Excp.nonaluExcpirqFlushReqRaw_eq hwait] at hraw
  simp only [Bool.or_eq_false_iff] at hraw
  obtain ⟨⟨hlongp, hdbg, -⟩, hirq⟩ := hraw
  have hlongp' : longpExcpOValid s i = false := hlongp
  rw [pipeFlushReq_of_not_valid hv, hlongp']
  simp [Excp.dbgEntryFlushReq, Excp.irqFlushReq, dbgEntryReq_of_not_valid, hdbg, hirq]

section
variable (hidle : s.alu.agu.icbStateR = .idle) (hop : Decode.isAmoOp op i.iIr = true)
  (hbuserr : i.iBuserr = false) (hmisalgn : i.iMisalgn = false)
include hidle hop hbuserr hmisalgn

omit hidle in
theorem noLdst_of_amoOp : Lsuagu.aguILoad s.alu.agu (Alu.agu s.alu (alu s i)) = false ∧
    Lsuagu.aguIStore s.alu.agu (Alu.agu s.alu (alu s i)) = false := by
  have hword := Decode.isAmo_of_isAmoOp hop
  obtain ⟨hld, hst, -⟩ := Decode.isAmo_exclusive hword
  obtain ⟨hload, hstore, -⟩ := agu_kind (ops_of_isAmo (s := s) hword hbuserr hmisalgn).2.1
  rw [hload, hstore, hld, hst]
  exact ⟨rfl, rfl⟩

theorem aguIcbCmdValid_of_idle : aguIcbCmdValid s i =
    (Lsuagu.aguIAlgnamo s.alu.agu (Alu.agu s.alu (alu s i)) (Alu.dpathRes s.alu (alu s i)) &&
      ((alu s i).iValid && aluOReady s i)) := by
  have hagu := (ops_of_isAmo (s := s) (Decode.isAmo_of_isAmoOp hop) hbuserr hmisalgn).2.1
  obtain ⟨hld, hst⟩ := noLdst_of_amoOp (s := s) hop hbuserr hmisalgn
  have hvalid : (Alu.agu s.alu (alu s i)).aguIValid = (alu s i).iValid := by
    simp [Alu.agu, hagu]
  simp [aguIcbCmdValid, Alu.aguIcbCmdValid, Lsuagu.aguIcbCmdValid, Lsuagu.aguIAlgnldst, hld, hst,
    Lsuagu.icbStaIsIdle, Lsuagu.icbStaIsWait2nd, hidle, hagu, hvalid]

/-- It is aligned when its address is, unless a flush masks it off. -/
theorem algnamo_of_idle (hidx : Indexed i) (hreq : flushReq s i = false)
    (halgn : (s.rf.rfR (Decode.decRs1idx i.iIr)).extractLsb' 0 2 = 0#2) :
    Lsuagu.aguIAlgnamo s.alu.agu (Alu.agu s.alu (alu s i)) (Alu.dpathRes s.alu (alu s i)) =
      true := by
  have hword := Decode.isAmo_of_isAmoOp hop
  have hagu := (ops_of_isAmo (s := s) hword hbuserr hmisalgn).2.1
  have hblock : Lsuagu.flushBlock s.alu.agu (Alu.agu s.alu (alu s i)) = false := by
    have hreq' : (Alu.agu s.alu (alu s i)).flushReq = false := hreq
    simp [Lsuagu.flushBlock, hreq']
  have hamo : Lsuagu.aguIAmo s.alu.agu (Alu.agu s.alu (alu s i)) = true := by
    rw [(agu_kind hagu).2.2, hword, hblock]
    rfl
  have hres := (dpathRes_of_addr hagu (req_of_idle hidle hamo)).trans
    (agu_operands hagu hop hidx).1
  simp [Lsuagu.aguIAlgnamo, Lsuagu.aguAddrUnalgn, Lsuagu.aguIAddrUnalgn, Lsuagu.aguIcbCmdAddr,
    aguISizeW_of_amoOp hagu hop, hamo, Lsuagu.icbStaIsIdle, hidle, hres, halgn]

/-- What is not masked off finds no flush. -/
theorem flushReq_of_algnamo (halgn : Lsuagu.aguIAlgnamo s.alu.agu (Alu.agu s.alu (alu s i))
    (Alu.dpathRes s.alu (alu s i)) = true) : flushReq s i = false := by
  have hagu := (ops_of_isAmo (s := s) (Decode.isAmo_of_isAmoOp hop) hbuserr hmisalgn).2.1
  have hamo := ((Bool.and_eq_true _ _).mp halgn).2
  rw [(agu_kind hagu).2.2, Bool.and_eq_true] at hamo
  have hreq : (Alu.agu s.alu (alu s i)).flushReq = flushReq s i := rfl
  simpa [Lsuagu.flushBlock, Lsuagu.icbStaIsIdle, hidle, hreq] using hamo.2

/-- With nothing outstanding the state machine starts when the command is accepted. -/
theorem amoStart_of_cmd (hempty : oitfEmpty s = true) (hcmd : aguIcbCmdHsked s i = true) :
    AmoStart s i := by
  have hagu := (ops_of_isAmo (s := s) (Decode.isAmo_of_isAmoOp hop) hbuserr hmisalgn).2.1
  have hcmd' := (Bool.and_eq_true _ _).mp hcmd
  rw [aguIcbCmdValid_of_idle hidle hop hbuserr hmisalgn, Bool.and_eq_true] at hcmd'
  have halgn := hcmd'.1.1
  have hv := (not_cmt_of_algnamo hidle hagu halgn
    (noLdst_of_amoOp (s := s) hop hbuserr hmisalgn)).1
  have hflush : flushPulse s i = false :=
    pipeFlushReq_of_calm hv (flushReq_of_algnamo hidle hop hbuserr hmisalgn halgn) hidle
  have hempty' : (Alu.agu s.alu (alu s i)).oitfEmpty = true := hempty
  have hhsked : Lsuagu.aguIcbCmdHsked s.alu.agu (Alu.agu s.alu (alu s i))
      (Alu.dpathRes s.alu (alu s i)) (Alu.aguOp (alu s i) && aluOReady s i) = true := hcmd
  simp [AmoStart, Lsuagu.stateIdleExitEna, Lsuagu.stateIdleToExit, halgn, hempty', hhsked, hflush,
    Lsuagu.icbStaIsIdle, hidle]

end

/-! ## The buffers -/

theorem low_append (x : BitVec 32) : (0#1 ++ x).extractLsb' 0 32 = x := by
  exact BitVec.extractLsb'_append_eq_right

/-- What has been read stays in the first buffer. -/
theorem AmoRun.step_sbf0 (h : AmoRun s i) :
    (step s i).alu.sbf.sbf0.extractLsb' 0 32 =
      if s.alu.agu.icbStateR = .first ∧ i.aguIcbRspValid = true then i.aguIcbRspRdata
      else s.alu.sbf.sbf0.extractLsb' 0 32 := by
  have hamo := (h.agu (Alu.dpathRes s.alu (alu s i))).1
  have hrsp : (Alu.agu s.alu (alu s i)).aguIcbRspValid = i.aguIcbRspValid := rfl
  have hdat : (Alu.agu s.alu (alu s i)).aguIcbRspRdata = i.aguIcbRspRdata := rfl
  have hold : (Alu.agu s.alu (alu s i)).aguSbf0R = s.alu.sbf.sbf0.extractLsb' 0 32 := rfl
  change (dfflr (if Alu.mdvOp (alu s i) then _ else _) (if Alu.mdvOp (alu s i) then _ else _)
    s.alu.sbf.sbf0).extractLsb' 0 32 = _
  simp only [h.ops.2.2.2.2.2, Bool.false_eq_true, if_false, Lsuagu.sbfWr, Lsuagu.leftoverEna,
    Lsuagu.aguIcbRspHsked, Lsuagu.aguIcbRspReady, Lsuagu.leftoverNxt, Lsuagu.amo1stuop,
    Lsuagu.amo2nduop, hamo, Bool.and_true, hrsp, hdat, Lsuagu.leftoverR, hold, Lsuagu.icbStaIs1st,
    Lsuagu.icbStaIs2nd, Lsuagu.Sta.beq_eq]
  cases hsta : s.alu.agu.icbStateR <;> cases hv : i.aguIcbRspValid <;> simp [dfflr, low_append]

/-- The new value of the word is computed in one state and stays in the second buffer. -/
theorem AmoRun.step_sbf1 (h : AmoRun s i) :
    (step s i).alu.sbf.sbf1.extractLsb' 0 32 =
      if s.alu.agu.icbStateR = .amoalu then Alu.dpathRes s.alu (alu s i)
      else s.alu.sbf.sbf1.extractLsb' 0 32 := by
  change (dfflr (if Alu.mdvOp (alu s i) then _ else _) (if Alu.mdvOp (alu s i) then _ else _)
    s.alu.sbf.sbf1).extractLsb' 0 32 = _
  simp only [h.ops.2.2.2.2.2, Bool.false_eq_true, if_false, Lsuagu.sbfWr, Lsuagu.icbStaIsAmoalu,
    Lsuagu.Sta.beq_eq]
  split_ifs with hsta
  · rw [decide_eq_true hsta, dfflr_true, low_append]
  · rw [decide_eq_false hsta, dfflr_false]

/-- An error of either access is remembered. -/
theorem AmoRun.step_leftoverErrR (h : AmoRun s i) :
    (step s i).alu.agu.leftoverErrR =
      if i.aguIcbRspValid = true ∧ s.alu.agu.icbStateR = .first then i.aguIcbRspErr
      else if i.aguIcbRspValid = true ∧ s.alu.agu.icbStateR = .second then
        i.aguIcbRspErr || s.alu.agu.leftoverErrR
      else s.alu.agu.leftoverErrR := by
  have hamo := (h.agu (Alu.dpathRes s.alu (alu s i))).1
  have hrsp : (Alu.agu s.alu (alu s i)).aguIcbRspValid = i.aguIcbRspValid := rfl
  have herr : (Alu.agu s.alu (alu s i)).aguIcbRspErr = i.aguIcbRspErr := rfl
  change dfflr (Lsuagu.leftoverEna s.alu.agu _ _) (Lsuagu.leftoverErrNxt s.alu.agu _ _) _ = _
  simp only [Lsuagu.leftoverEna, Lsuagu.aguIcbRspHsked, Lsuagu.aguIcbRspReady,
    Lsuagu.leftoverErrNxt, Lsuagu.amo1stuop, Lsuagu.amo2nduop, hamo, Bool.and_true, hrsp, herr,
    Lsuagu.icbStaIs1st, Lsuagu.icbStaIs2nd, Lsuagu.Sta.beq_eq]
  cases hsta : s.alu.agu.icbStateR <;> cases hv : i.aguIcbRspValid <;> simp [dfflr]

/-! ## The commit -/

theorem AmoRun.aluExcpIBuserr (h : AmoRun s i) :
    (aluCmt s i).aluExcpIBuserr = s.alu.agu.leftoverErrR := by
  have hamo := (h.agu (Alu.dpathRes s.alu (alu s i))).1
  simp [aluCmt, Alu.cmt, h.ops.2.1, Lsuagu.aguOCmtBuserr, hamo]

/-- In its last state it writes what it has read, unless one of its accesses was in error. -/
theorem AmoRun.rfWrite_eq (h : AmoRun s i) (hsta : s.alu.agu.icbStateR = .wbck) :
    rfWrite s i =
      if (Decode.decRdwen i.iIr && !s.alu.agu.leftoverErrR) = true then
        some (Decode.decRdidx i.iIr, s.alu.sbf.sbf0.extractLsb' 0 32)
      else none := by
  obtain ⟨hexcp, hagu, halu, hbjp, hcsr, hmdv⟩ := h.ops
  obtain ⟨hamo, hldst, hmis, -⟩ := h.agu (Alu.dpathRes s.alu (alu s i))
  have hneed : Alu.oNeedWbck s.alu (alu s i) =
      (Decode.decRdwen i.iIr && !s.alu.agu.leftoverErrR) := by
    have hrdwen : Alu.wbckORdwen (alu s i) = Decode.decRdwen i.iIr := rfl
    simp [Alu.oNeedWbck, hrdwen, Alu.iLongpipe, Alu.mdvILongpipe, Lsuagu.aguILongpipe, hldst,
      Alu.wbckOErr, halu, hbjp, hcsr, hexcp, hagu, Lsuagu.aguOWbckErr, Lsuagu.aguOCmtBuserr, hamo,
      hmis]
  have hdat : Alu.wbckOWdat s.alu (alu s i) = s.alu.sbf.sbf0.extractLsb' 0 32 := by
    simp only [Alu.wbckOWdat, halu, hbjp, hcsr, hagu, hmdv, hexcp, gate_false, gate_true,
      BitVec.zero_or, BitVec.or_zero, Lsuagu.aguOWbckWdat, hamo]
    rfl
  have hw : cmtWrites s i = (Decode.decRdwen i.iIr && !s.alu.agu.leftoverErrR) := by
    rw [cmtWrites, h.cmt.2, hsta, decide_eq_true rfl, Bool.true_and, hneed]
  rw [Exu.rfWrite_eq, (noLongp h.empty).2.1, hw, hdat]
  rfl

end
end Exu
end E203
