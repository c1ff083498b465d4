import E203.Branch.Resolve
import E203.Decode.Integer
import E203.Exec.InOrder
import E203.Exec.Steady
import E203.Integer.Datapath

/-! # Single instructions

`Executes`: what an integer instruction in the IR drives onto the write-back port, the address and
the branch outcome.  `executes` proves it for every legal word in every run, from the decoder
(`Decode.intWires`), the dispatch masks and the shared datapath.
-/

namespace E203
set_option autoImplicit false

namespace Exu

/-- The IR holds a legal integer instruction, fetched without error, with its operand registers. -/
structure IntAt (s : State) (i : In) (ins : Isa.Instr) : Prop extends Indexed i where
  word : Isa.decode i.iIr = some ins
  integer : ins.isInteger = true
  legal : Decode.decIlegl (dec s i) = false
  buserr : i.iBuserr = false
  misalgn : i.iMisalgn = false

section
variable {s : State} {i : In} {ins : Isa.Instr}

theorem IntAt.wires (h : IntAt s i ins) : Decode.IntWires (dec s i) ins :=
  Decode.intWires h.word h.integer h.legal

theorem IntAt.ifuExcpOp (h : IntAt s i ins) : Alu.ifuExcpOp (alu s i) = false := by
  have hlegal : (alu s i).iIlegl = false := h.legal
  have hbuserr : (alu s i).iBuserr = false := h.buserr
  have hmisalgn : (alu s i).iMisalgn = false := h.misalgn
  rw [Alu.ifuExcpOp, hlegal, hbuserr, hmisalgn]
  rfl

theorem IntAt.op_eq (h : IntAt s i ins) {grp : BitVec 3} {bits : List Bool}
    (hinfo : Decode.decInfo (dec s i) = Decode.bus (dec s i) grp bits) :
    Alu.op (alu s i) = if grp = GRP_ALU then .alu else if grp = GRP_AGU then .agu
      else if grp = GRP_BJP then .bjp else if grp = GRP_CSR then .csr
      else if grp = GRP_MULDIV then .mdv else .none := by
  have hgrp : (alu s i).iInfo.grp = grp := (congrArg DecInfo.grp hinfo).trans (Decode.bus_grp _ _ _)
  rw [Alu.op, h.ifuExcpOp, hgrp, if_neg Bool.false_ne_true]

/-! ## Operands -/

theorem IntAt.iRs1 (h : IntAt s i ins) {r : BitVec 5} (hr : ins.rs1 = some r) :
    (alu s i).iRs1 = s.rf.rfR r := by
  obtain ⟨hidx, hen⟩ := h.wires.rs1 r hr
  refine iRs1_eq hidx fun h0 => (h.toIndexed.rs1 (hen.trans ?_)).trans hidx
  rw [beq_false_of_ne h0, Bool.not_false]

theorem IntAt.iRs2 (h : IntAt s i ins) {r : BitVec 5} (hr : ins.rs2 = some r) :
    (alu s i).iRs2 = s.rf.rfR r := by
  obtain ⟨hidx, hen⟩ := h.wires.rs2 r hr
  refine iRs2_eq hidx fun h0 => (h.toIndexed.rs2 (hen.trans ?_)).trans hidx
  rw [beq_false_of_ne h0, Bool.not_false]

/-! ## The regular ALU -/

/-- The operands that the regular ALU chooses. -/
def aluOp1 (s : State) (i : In) (ins : Isa.Instr) : BitVec 32 :=
  if ins.isAuipc then i.iPc else (alu s i).iRs1

def aluOp2 (s : State) (i : In) (ins : Isa.Instr) : BitVec 32 :=
  if ins.hasImm then Decode.decImm i.iIr else (alu s i).iRs2

theorem IntAt.alu_ops (h : IntAt s i ins) (halu : ins.isAlu = true) (hd : ins.dest ≠ 0#5) :
    Alu.aluOp (alu s i) = true ∧ Alu.ifuExcpOp (alu s i) = false ∧ Alu.aguOp (alu s i) = false ∧
      Alu.bjpOp (alu s i) = false ∧ Alu.csrOp (alu s i) = false ∧ Alu.mdvOp (alu s i) = false := by
  have hop : Alu.op (alu s i) = .alu := h.op_eq (h.wires.alu halu hd)
  obtain ⟨h1, h2, h3, h4, h5, h6⟩ := Alu.op_eq (alu s i)
  rw [hop] at h1 h2 h3 h4 h5 h6
  exact ⟨h2, h1, h3, h4, h5, h6⟩

theorem IntAt.alu_bit (h : IntAt s i ins) (halu : ins.isAlu = true) (hd : ins.dest ≠ 0#5) {k : ℕ}
    (hk : k < 28) : (Alu.rglr (alu s i)).aluIInfo.getLsbD (k + 4) = ins.aluBits.getD k false := by
  have hinfo : (Alu.rglr (alu s i)).aluIInfo = Decode.decInfo (dec s i) := by
    change gate (Alu.aluOp (alu s i)) _ = _
    rw [(h.alu_ops halu hd).1]
    rfl
  rw [hinfo, h.wires.alu halu hd]
  exact Decode.bus_getLsbD _ _ _ hk

theorem IntAt.alu_req (h : IntAt s i ins) (halu : ins.isAlu = true) (hd : ins.dest ≠ 0#5) :
    Rglr.req (Alu.rglr (alu s i)) =
      match ins.fn with
      | some fn => AluDpath.fnReq fn (aluOp1 s i ins) (aluOp2 s i ins)
      | none => AluDpath.mvReq (aluOp1 s i ins) (aluOp2 s i ins) := by
  have hbit := fun {k : ℕ} (hk : k < 28) => h.alu_bit halu hd hk
  have hgate : ∀ {n : ℕ} (x : BitVec n), gate (Alu.aluOp (alu s i)) x = x := by
    intro n x
    rw [(h.alu_ops halu hd).1]
    rfl
  have hop1 : (if Rglr.op1pc (Alu.rglr (alu s i)) then (Alu.rglr (alu s i)).aluIPc
      else (Alu.rglr (alu s i)).aluIRs1) = aluOp1 s i ins := by
    have hsel : Rglr.op1pc (Alu.rglr (alu s i)) = ins.isAuipc := hbit (k := 12) (by omega)
    rw [hsel, aluOp1]
    exact if_congr Iff.rfl (hgate _) (hgate _)
  have hop2 : (if Rglr.op2imm (Alu.rglr (alu s i)) then (Alu.rglr (alu s i)).aluIImm
      else (Alu.rglr (alu s i)).aluIRs2) = aluOp2 s i ins := by
    have hsel : Rglr.op2imm (Alu.rglr (alu s i)) = ins.hasImm := hbit (k := 11) (by omega)
    rw [hsel, aluOp2]
    exact if_congr Iff.rfl (hgate _) (hgate _)
  have hnop : Rglr.nop (Alu.rglr (alu s i)) = false := hbit (k := 13) (by omega)
  rw [Rglr.req, hop1, hop2, hnop, hbit (k := 0) (by omega), hbit (k := 1) (by omega),
    hbit (k := 2) (by omega), hbit (k := 3) (by omega), hbit (k := 4) (by omega),
    hbit (k := 5) (by omega), hbit (k := 6) (by omega), hbit (k := 7) (by omega),
    hbit (k := 8) (by omega), hbit (k := 9) (by omega), hbit (k := 10) (by omega)]
  cases hfn : ins.fn
  case none => simp [Isa.Instr.aluBits, hfn, AluDpath.mvReq]
  case some fn => simp [Isa.Instr.aluBits, hfn, AluDpath.fnReq]

/-- What the regular ALU writes back. -/
theorem IntAt.alu_wbck (h : IntAt s i ins) (halu : ins.isAlu = true) (hd : ins.dest ≠ 0#5) :
    Alu.oNeedWbck s.alu (alu s i) = true ∧
      Alu.wbckOWdat s.alu (alu s i) =
        match ins.fn with
        | some fn => fn.eval (aluOp1 s i ins) (aluOp2 s i ins)
        | none => aluOp2 s i ins := by
  obtain ⟨hop, hexcp, hagu, hbjp, hcsr, hmdv⟩ := h.alu_ops halu hd
  have hwen : (alu s i).iRdwen = true := by
    have hw : (alu s i).iRdwen = !(ins.dest == 0#5) := h.wires.rdwen
    rw [hw, beq_false_of_ne hd, Bool.not_false]
  have hbit := fun {k : ℕ} (hk : k < 28) => h.alu_bit halu hd hk
  have herr : Rglr.aluOWbckErr (Alu.rglr (alu s i)) = false := by
    have hecall : Rglr.ecall (Alu.rglr (alu s i)) = false := hbit (k := 14) (by omega)
    have hebreak : Rglr.ebreak (Alu.rglr (alu s i)) = false := hbit (k := 15) (by omega)
    have hwfi : Rglr.wfi (Alu.rglr (alu s i)) = false := hbit (k := 16) (by omega)
    rw [Rglr.aluOWbckErr, Rglr.aluOCmtEcall, Rglr.aluOCmtEbreak, Rglr.aluOCmtWfi, hecall, hebreak,
      hwfi]
    rfl
  have hmux : AluDpath.mux (Alu.dpath s.alu (alu s i)) = Rglr.req (Alu.rglr (alu s i)) :=
    AluDpath.mux_alu (by simp [Alu.dpath, hop, hwen]) hbjp hagu
  have hreq := h.alu_req halu hd
  have hdat : Alu.wbckOWdat s.alu (alu s i) = Alu.dpathRes s.alu (alu s i) := by
    simp [Alu.wbckOWdat, hop, hexcp, hagu, hbjp, hcsr, hmdv]
  refine ⟨?_, ?_⟩
  · simp [Alu.oNeedWbck, Alu.wbckORdwen, Alu.iLongpipe, Alu.mdvILongpipe, Alu.wbckOErr, hwen, hop,
      hexcp, hagu, hbjp, hcsr, hmdv, herr]
  · rw [hdat]
    cases hfn : ins.fn
    case none =>
      rw [hfn] at hreq
      exact AluDpath.dpathRes_mv (hmux.trans hreq)
    case some fn =>
      rw [hfn] at hreq
      have hm := hmux.trans hreq
      exact AluDpath.dpathRes_fn hm hmdv (congrArg AluDpath.Req.op1 hreq)
        (congrArg AluDpath.Req.op2 hreq)

theorem IntAt.alu_value (h : IntAt s i ins) (halu : ins.isAlu = true) (hd : ins.dest ≠ 0#5)
    {v len : BitVec 32} (hv : ins.value i.iPc len s.rf.rfR = some v) :
    Alu.wbckOWdat s.alu (alu s i) = v := by
  have himm := h.wires.imm (.inr hd)
  rw [(h.alu_wbck halu hd).2]
  cases ins
  case op fn rd r1 r2 =>
    have h1 : aluOp1 s i (.op fn rd r1 r2) = s.rf.rfR r1 := h.iRs1 rfl
    have h2 : aluOp2 s i (.op fn rd r1 r2) = s.rf.rfR r2 := h.iRs2 rfl
    rw [h1, h2]
    exact Option.some.inj hv
  case opImm fn rd r1 imm =>
    have h1 : aluOp1 s i (.opImm fn rd r1 imm) = s.rf.rfR r1 := h.iRs1 rfl
    have heval : fn.eval (s.rf.rfR r1) (Decode.decImm i.iIr) = fn.eval (s.rf.rfR r1) imm := by
      cases hfn : fn.isShift
      case false => exact congrArg _ (himm.2 hfn)
      case true => exact Isa.AluFn.eval_shift hfn _ himm.1
    rw [h1]
    exact heval.trans (Option.some.inj hv)
  case lui => exact himm.trans (Option.some.inj hv)
  case auipc => exact (congrArg (i.iPc + ·) himm).trans (Option.some.inj hv)
  all_goals cases halu

/-! ## The address-generation unit -/

theorem IntAt.agu_req (h : IntAt s i ins) (hmem : ins.isLoad = true ∨ ins.isStore = true)
    (hidle : s.alu.agu.icbStateR = .idle) :
    Alu.aguOp (alu s i) = true ∧ Alu.aluOp (alu s i) = false ∧ Alu.bjpOp (alu s i) = false ∧
      Alu.mdvOp (alu s i) = false ∧
      Lsuagu.req s.alu.agu (Alu.agu s.alu (alu s i)) =
        AluDpath.addReq (alu s i).iRs1 (Decode.decImm i.iIr) := by
  have hop : Alu.op (alu s i) = .agu := h.op_eq (h.wires.agu hmem)
  obtain ⟨-, h2, h3, h4, -, h6⟩ := Alu.op_eq (alu s i)
  rw [hop] at h2 h3 h4 h6
  have hagu : Alu.aguOp (alu s i) = true := h3
  have hgate : ∀ {n : ℕ} (x : BitVec n), gate (Alu.aguOp (alu s i)) x = x := by
    intro n x
    rw [hagu]
    rfl
  have hinfo : (Alu.agu s.alu (alu s i)).aguIInfo = Decode.bus (dec s i) GRP_AGU ins.aguBits :=
    (hgate _).trans (h.wires.agu hmem)
  have hbit : ∀ {k : ℕ}, k < 28 →
      (Alu.agu s.alu (alu s i)).aguIInfo.getLsbD (k + 4) = ins.aguBits.getD k false := by
    intro k hk
    rw [hinfo]
    exact Decode.bus_getLsbD _ _ _ hk
  have hexcl : Lsuagu.aguIExcl (Alu.agu s.alu (alu s i)) = false := hbit (k := 5) (by omega)
  have hamo : Lsuagu.aguIAmo s.alu.agu (Alu.agu s.alu (alu s i)) = false := by
    have hbit10 : (Alu.agu s.alu (alu s i)).aguIInfo.getLsbD 10 = false := hbit (k := 6) (by omega)
    rw [Lsuagu.aguIAmo, hbit10, Bool.false_and]
  have hofst : Lsuagu.aguIOfst0 s.alu.agu (Alu.agu s.alu (alu s i)) = false := by
    rw [Lsuagu.aguIOfst0, hamo, hexcl, Bool.and_false, Bool.or_false]
  have hsta : Lsuagu.icbStaIsIdle s.alu.agu = true ∧ Lsuagu.icbStaIsAmoalu s.alu.agu = false := by
    rw [Lsuagu.icbStaIsIdle, Lsuagu.icbStaIsAmoalu, hidle]
    exact ⟨rfl, rfl⟩
  have himm : Lsuagu.aguAddrGenOp2 s.alu.agu (Alu.agu s.alu (alu s i)) = Decode.decImm i.iIr := by
    rw [Lsuagu.aguAddrGenOp2, hofst, if_neg Bool.false_ne_true]
    exact hgate _
  have hrs1 : (Alu.agu s.alu (alu s i)).aguIRs1 = (alu s i).iRs1 := hgate _
  refine ⟨hagu, h2, h4, h6, ?_⟩
  simp [Lsuagu.req, hsta, himm, hrs1, AluDpath.addReq]

theorem IntAt.not_amo (h : IntAt s i ins) (hmem : ins.isLoad = true ∨ ins.isStore = true) :
    Decode.isAmo i.iIr = false := by
  by_contra hne
  have hamo : Decode.isAmo (dec s i).instr = true := Bool.not_eq_false _ ▸ hne
  have hbit : (Decode.decInfo (dec s i)).getLsbD 10 = false := by
    rw [h.wires.agu hmem]
    exact Decode.bus_getLsbD _ _ _ (k := 6) (by omega)
  rw [(Decode.decInfo_of_isAmo hamo).1, Decode.aguInfoBus_bits.2.2.2] at hbit
  exact Bool.false_ne_true (hbit.symm.trans hamo)

theorem IntAt.address (h : IntAt s i ins) (hidle : s.alu.agu.icbStateR = .idle) {a : BitVec 32}
    (ha : ins.address s.rf.rfR = some a) :
    Lsuagu.aguIcbCmdAddr (Alu.dpathRes s.alu (alu s i)) = a := by
  have hmem : ins.isLoad = true ∨ ins.isStore = true := by
    cases ins
    case load => exact .inl rfl
    case store => exact .inr rfl
    all_goals cases ha
  have himm := h.wires.imm
  obtain ⟨hagu, halu, hbjp, hmdv, hreq⟩ := h.agu_req hmem hidle
  have hmux : AluDpath.mux (Alu.dpath s.alu (alu s i)) = Lsuagu.req s.alu.agu (Alu.agu s.alu (alu s i)) :=
    AluDpath.mux_agu (by simp [Alu.dpath, halu]) hbjp hagu
  have hsum : Alu.dpathRes s.alu (alu s i) = (alu s i).iRs1 + Decode.decImm i.iIr :=
    AluDpath.dpathRes_add (hmux.trans hreq) hmdv
  rw [Lsuagu.aguIcbCmdAddr, hsum]
  cases ins
  case load =>
    have hi : Decode.decImm i.iIr = _ := himm (.inl rfl)
    rw [h.iRs1 rfl, hi]
    exact Option.some.inj ha
  case store =>
    have hi : Decode.decImm i.iIr = _ := himm (.inl rfl)
    rw [h.iRs1 rfl, hi]
    exact Option.some.inj ha
  all_goals cases ha

/-! ## Branches and jumps -/

theorem IntAt.ctrlAt (h : IntAt s i ins) {op : Isa.CtrlOp} (hc : ins.ctrl = some op) :
    CtrlAt s i ⟨decide (i.iIr.extractLsb' 0 2 = 0b11#2), op⟩ := by
  have hword := Isa.ctrl_of_decode h.word hc
  have hw : CtrlWires (dec s i) _ := Decode.ctrlWires hword
  refine ⟨hword, h.buserr, h.misalgn, fun hb h0 => ?_, fun hb h0 => ?_, ?_⟩
  · have hen : Decode.decRs1en i.iIr = true :=
      (hw.rs1en hb).trans (by rw [beq_false_of_ne h0, Bool.not_false])
    exact (h.toIndexed.rs1 hen).trans (hw.rs1 hb)
  · have hen : Decode.decRs2en i.iIr = true :=
      (hw.rs2en hb).trans (by rw [beq_false_of_ne h0, Bool.not_false])
    exact (h.toIndexed.rs2 hen).trans (hw.rs2 hb)
  · rintro rfl
    cases ins <;> cases hc

theorem IntAt.outcome (h : IntAt s i ins) {b : Bool} (hb : ins.outcome s.rf.rfR = some b) :
    (branchslv s i).cmtIBjp = true ∧ (branchslv s i).cmtIBjpRslv = b := by
  cases ins
  case branch =>
    obtain ⟨hbjp, -, -, -, -, -, hrslv⟩ := (h.ctrlAt rfl).branchslv
    exact ⟨hbjp, (hrslv hbjp).trans (Option.some.inj hb)⟩
  case jal =>
    obtain ⟨hbjp, -, -, -, -, -, hrslv⟩ := (h.ctrlAt rfl).branchslv
    exact ⟨hbjp, (hrslv hbjp).trans (Option.some.inj hb)⟩
  case jalr =>
    obtain ⟨hbjp, -, -, -, -, -, hrslv⟩ := (h.ctrlAt rfl).branchslv
    exact ⟨hbjp, (hrslv hbjp).trans (Option.some.inj hb)⟩
  all_goals cases hb

theorem IntAt.link (h : IntAt s i ins) (hj : ins.isJump = true) (hd : ins.dest ≠ 0#5) :
    Alu.oNeedWbck s.alu (alu s i) = true ∧
      Alu.wbckOWdat s.alu (alu s i) = i.iPc + Isa.length i.iIr := by
  obtain ⟨op, hc, hjump, hbits⟩ : ∃ op, ins.ctrl = some op ∧ (op.isJal || op.isJalr) = true ∧
      op.bits i.iPrdtTaken = [true, i.iPrdtTaken, false, false, false, false, false, false, false,
        false, false, false, false] := by
    cases ins
    case jal => exact ⟨_, rfl, rfl, rfl⟩
    case jalr => exact ⟨_, rfl, rfl, rfl⟩
    all_goals cases hj
  have hctrl := h.ctrlAt hc
  obtain ⟨hbjp, halu, hagu, hcsr, hmdv⟩ := hctrl.ops
  have hbit := fun {n : ℕ} (hn : n < 28) => hbits ▸ hctrl.bit hn
  have hgate : ∀ {n : ℕ} (x : BitVec n), gate (Alu.bjpOp (alu s i)) x = x := by
    intro n x
    rw [hbjp]
    rfl
  have hlink : Bjp.wbckLink (Alu.bjp (alu s i)) = true := hbit (n := 0) (by omega)
  have hrv32 : (Alu.bjp (alu s i)).bjpIInfo.rv32 = decide (i.iIr.extractLsb' 0 2 = 0b11#2) := by
    have hinfo : (Alu.bjp (alu s i)).bjpIInfo = (alu s i).iInfo := hgate _
    rw [hinfo, hctrl.info, Decode.bus_rv32]
    exact hctrl.wires.rv32
  have hlen : (if (Alu.bjp (alu s i)).bjpIInfo.rv32 then 4#32 else 2#32) = Isa.length i.iIr := by
    rw [hrv32, Isa.length]
    simp only [decide_eq_true_eq]
  have hpc : (Alu.bjp (alu s i)).bjpIPc = i.iPc := hgate _
  have hreq : Bjp.req (Alu.bjp (alu s i)) = AluDpath.addReq i.iPc (Isa.length i.iIr) := by
    rw [Bjp.req, hlink, if_pos rfl, if_pos rfl, hlen, hpc, hbit (n := 2) (by omega),
      hbit (n := 3) (by omega), hbit (n := 4) (by omega), hbit (n := 5) (by omega),
      hbit (n := 6) (by omega), hbit (n := 7) (by omega)]
    rfl
  have hmux : AluDpath.mux (Alu.dpath s.alu (alu s i)) = Bjp.req (Alu.bjp (alu s i)) :=
    AluDpath.mux_bjp (by simp [Alu.dpath, halu]) hbjp hagu
  have hsum : Alu.dpathRes s.alu (alu s i) = i.iPc + Isa.length i.iIr :=
    AluDpath.dpathRes_add (hmux.trans hreq) hmdv
  have hwen : (alu s i).iRdwen = true := by
    have hw : (alu s i).iRdwen = !(ins.dest == 0#5) := h.wires.rdwen
    rw [hw, beq_false_of_ne hd, Bool.not_false]
  have hexcp := h.ifuExcpOp
  refine ⟨?_, ?_⟩
  · simp [Alu.oNeedWbck, Alu.wbckORdwen, Alu.iLongpipe, Alu.mdvILongpipe, Alu.wbckOErr, hwen, halu,
      hexcp, hagu, hbjp, hcsr, hmdv, Bjp.bjpOWbckErr]
  · rw [← hsum]
    simp [Alu.wbckOWdat, halu, hexcp, hagu, hbjp, hcsr, hmdv]

/-! ## What an instruction does -/

/-- What the instruction has to drive. -/
structure Executes (s : State) (i : In) (ins : Isa.Instr) : Prop where
  rdwen : (alu s i).iRdwen = !(ins.dest == 0#5)
  rdidx : ins.dest ≠ 0#5 → (alu s i).iRdidx = ins.dest
  /-- The value is written in the cycle of the commit. -/
  value : ∀ v, ins.value i.iPc (Isa.length i.iIr) s.rf.rfR = some v → ins.dest ≠ 0#5 →
    Alu.oNeedWbck s.alu (alu s i) = true ∧ Alu.wbckOWdat s.alu (alu s i) = v ∧
      (cmtEna s i = true → rfWrite s i = some (ins.dest, v))
  address : ∀ a, ins.address s.rf.rfR = some a →
    Lsuagu.aguIcbCmdAddr (Alu.dpathRes s.alu (alu s i)) = a
  outcome : ∀ b, ins.outcome s.rf.rfR = some b →
    (branchslv s i).cmtIBjp = true ∧ (branchslv s i).cmtIBjpRslv = b

theorem IntAt.wbck (h : IntAt s i ins) (hd : ins.dest ≠ 0#5) {v : BitVec 32}
    (hv : ins.value i.iPc (Isa.length i.iIr) s.rf.rfR = some v) :
    Alu.oNeedWbck s.alu (alu s i) = true ∧ Alu.wbckOWdat s.alu (alu s i) = v := by
  cases halu : ins.isAlu
  case true => exact ⟨(h.alu_wbck halu hd).1, h.alu_value halu hd hv⟩
  case false =>
    cases ins
    case jal =>
      obtain ⟨hneed, hdat⟩ := h.link rfl hd
      exact ⟨hneed, hdat.trans (Option.some.inj hv)⟩
    case jalr =>
      obtain ⟨hneed, hdat⟩ := h.link rfl hd
      exact ⟨hneed, hdat.trans (Option.some.inj hv)⟩
    case op | opImm | lui | auipc => cases halu
    all_goals cases hv

theorem IntAt.executes (h : IntAt s i ins)
    (hidle : ins.isLoad = true ∨ ins.isStore = true → s.alu.agu.icbStateR = .idle) :
    Executes s i ins where
  rdwen := h.wires.rdwen
  rdidx := h.wires.rdidx
  value v hv hd := by
    obtain ⟨hneed, hdat⟩ := h.wbck hd hv
    refine ⟨hneed, hdat, fun hcmt => ?_⟩
    have hw : cmtWrites s i = true := (Bool.and_eq_true _ _).mpr ⟨hcmt, hneed⟩
    have hlong : ¬longpWbckOValid s i = true := by
      intro hl
      rw [cmtWrites_of_longp hl] at hw
      cases hw
    have hidx : Decode.decRdidx i.iIr = ins.dest := h.wires.rdidx hd
    rw [rfWrite_eq, if_neg hlong, if_pos hw, hdat, hidx]
  address a ha := by
    refine h.address (hidle ?_) ha
    cases ins
    case load => exact .inl rfl
    case store => exact .inr rfl
    all_goals cases ha
  outcome _ hb := h.outcome hb

end
end Exu

namespace Core

/-- In every run, for every legal word of a 32-bit or 16-bit integer instruction in the IR: the write
port, the address and the branch outcome are those of the instruction. -/
theorem integer_executes {inp : ℕ → In} {s0 : State} (h0 : IsReset s0) (t : ℕ) {ins : Isa.Instr}
    (hint : ins.isInteger = true) (hv : (run inp s0 t).ifu.irValidR = true)
    (herr : (run inp s0 t).ifu.ifuErrR = false)
    (hword : Isa.decode (run inp s0 t).ifu.ifuIrR = some ins)
    (hlegal : Decode.decIlegl
      (Exu.dec (run inp s0 t).exu (exuIn (run inp s0 t) (inp t))) = false) :
    Exu.Executes (run inp s0 t).exu (exuIn (run inp s0 t) (inp t)) ins := by
  have h : Exu.IntAt (run inp s0 t).exu (exuIn (run inp s0 t) (inp t)) ins :=
    ⟨indexed h0 t hv, hword, hint, hlegal, herr, rfl⟩
  refine h.executes fun hmem => ?_
  -- while the address-generation unit is busy an atomic operation is in the IR
  by_contra hbusy
  obtain ⟨-, hamo, -⟩ := (Steady.run h0 t).amo hbusy
  exact Bool.false_ne_true ((h.not_amo hmem).symm.trans hamo)

/-- `SUB x10, x10, x11`, fetched after reset. -/
def subFetch (t : ℕ) : In :=
  { In.quiet with
    ifuReqReady := true
    ifuRspValid := t == 2
    ifuRspInstr := 0x40b50533#32 }

theorem integer_executes_sub :
    Exu.Executes (run subFetch scaledState 3).exu
      (exuIn (run subFetch scaledState 3) (subFetch 3)) (.op .sub 10#5 10#5 11#5) :=
  integer_executes (State.isReset_reset _) 3 rfl (by decide +kernel) (by decide +kernel)
    (by decide +kernel) (by decide +kernel)

end Core
end E203
