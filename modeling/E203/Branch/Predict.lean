import E203.Branch.Resolve
import E203.Fetch.Stream

/-! # Prediction and resolution of control transfers

* `Isa.Ctrl.prdtTaken`, `Isa.Ctrl.prdtPc`: the static prediction, as a function of the instruction.
* `Ifetch.pcNxt_eq_prdtPc`: the fetch stage goes on from the predicted address.
* `Exu.CtrlAt.redirect`: at the commit, the flush target or else the predicted address is the
  architectural next PC.
* `Core.redirect_correct`: the same for every control transfer that commits in a run of the core.
-/

namespace E203
set_option autoImplicit false

/-! ## The static prediction -/

namespace Isa

/-- Jumps are predicted taken, and branches backwards. -/
def Ctrl.prdtTaken (c : Ctrl) : Bool :=
  c.op.isJal || c.op.isJalr || (c.op.isBranch && c.op.offset.getLsbD 31)

/-- The predicted next PC, `base` being what the prediction takes for the base of a `JALR`. -/
def Ctrl.prdtPc (c : Ctrl) (pc base : BitVec 32) : BitVec 32 :=
  if c.prdtTaken then evenPc ((if c.op.isJalr then base else pc) + c.op.offset)
  else pc + if c.rv32 then 4#32 else 2#32

theorem evenPc_eq_iff (x : BitVec 32) : evenPc x = x ↔ x.getLsbD 0 = false := by
  constructor
  · intro h
    rw [← h]
    simp [evenPc]
  · intro h
    apply BitVec.eq_of_getLsbD_eq
    intro k hk
    rw [evenPc, BitVec.getLsbD_and, BitVec.getLsbD_not, BitVec.getLsbD_one]
    obtain rfl | hpos : k = 0 ∨ 0 < k := by omega
    · rw [h, Bool.false_and]
    · have hk0 : ¬k = 0 := by omega
      simp [hk, hk0]

theorem evenPc_add {x y : BitVec 32} (hx : evenPc x = x) (hy : evenPc y = y) :
    evenPc (x + y) = x + y := by
  rw [evenPc_eq_iff] at hx hy ⊢
  rw [BitVec.getLsbD_add (by omega), hx, hy, BitVec.carry_zero]
  rfl

theorem evenPc_signExtend {n : ℕ} {y : BitVec n} (h : y.getLsbD 0 = false) :
    evenPc (y.signExtend 32) = y.signExtend 32 := by
  have hmsb : n = 0 → y.msb = false := by
    rintro rfl
    exact BitVec.msb_zero_length y
  rw [evenPc_eq_iff, BitVec.getLsbD_signExtend, h]
  obtain hn | hn : n = 0 ∨ 0 < n := by omega
  · simp [hn, hmsb hn]
  · simp [hn]

/-- The offsets of `JAL` and the branches are multiples of two. -/
theorem evenPc_imm (w : BitVec 32) :
    evenPc (immB w) = immB w ∧ evenPc (immJ w) = immJ w ∧ evenPc (immCB w) = immCB w ∧
      evenPc (immCJ w) = immCJ w := by
  refine ⟨?_, ?_, ?_, ?_⟩
  all_goals
    apply evenPc_signExtend
    simp only [BitVec.getLsbD_append]
    rfl

/-- The 16-bit forms are read from the low half of the word. -/
theorem CtrlOp.decode16_congr {w w' : BitVec 32} (h : w.extractLsb' 0 16 = w'.extractLsb' 0 16) :
    CtrlOp.decode16 w = CtrlOp.decode16 w' := by
  have hfield : ∀ a k, a + k ≤ 16 → w.extractLsb' a k = w'.extractLsb' a k :=
    fun _ _ => Lib.extractLsb'_eq_of_low h
  unfold CtrlOp.decode16 immCJ immCB
  simp (disch := omega) only [hfield]

theorem evenPc_zero : evenPc 0#32 = 0#32 := by decide

theorem Ctrl.evenPc_offset {c : Ctrl} {w : BitVec 32} (h : Ctrl.decode w = some c)
    (hj : c.op.isJalr = false) : evenPc c.op.offset = c.op.offset := by
  obtain ⟨hB, hJ, hCB, hCJ⟩ := evenPc_imm w
  unfold Ctrl.decode at h
  split_ifs at h with hlen
  · obtain ⟨op, hop, rfl⟩ := Option.map_eq_some_iff.mp h
    unfold CtrlOp.decode32 at hop
    split_ifs at hop
    · obtain ⟨k, -, rfl⟩ := Option.map_eq_some_iff.mp hop
      exact hB
    all_goals obtain rfl := Option.some.inj hop
    · exact hJ
    · cases hj
    · exact evenPc_zero
    · exact evenPc_zero
    · exact evenPc_zero
  · obtain ⟨op, hop, rfl⟩ := Option.map_eq_some_iff.mp h
    unfold CtrlOp.decode16 at hop
    split_ifs at hop
    all_goals obtain rfl := Option.some.inj hop
    · exact hCJ
    · exact hCB
    · exact hCB
    · exact evenPc_zero

theorem Ctrl.eq_of_dret {c : Ctrl} {w : BitVec 32} (h : Ctrl.decode w = some c)
    (hc : c.op = .dret) : w = 0x7b200073#32 := by
  unfold Ctrl.decode at h
  split_ifs at h with hlen
  · obtain ⟨op, hop, rfl⟩ := Option.map_eq_some_iff.mp h
    obtain rfl : op = .dret := hc
    unfold CtrlOp.decode32 at hop
    split_ifs at hop with h1 h2 h3 h4 h5 h6
    · obtain ⟨k, -, hk⟩ := Option.map_eq_some_iff.mp hop
      cases hk
    all_goals first | exact h6 | cases hop
  · obtain ⟨op, hop, rfl⟩ := Option.map_eq_some_iff.mp h
    obtain rfl : op = .dret := hc
    unfold CtrlOp.decode16 at hop
    split_ifs at hop
    all_goals cases hop

end Isa

/-! ## The fetch stage -/

namespace Ifetch
section
variable {s : State} {i : In} {c : Isa.Ctrl}

/-- What the IR holds is what the response channel carried. -/
theorem decode_of_loaded (hset : irValidSet s i = true)
    (hc : Isa.Ctrl.decode (step s i).ifuIrR = some c) :
    Isa.Ctrl.decode i.ifuRspInstr = some c := by
  obtain ⟨hlo, hall⟩ := step_ifuIrR hset
  have hlow : ∀ a k, a + k ≤ 16 →
      (step s i).ifuIrR.extractLsb' a k = i.ifuRspInstr.extractLsb' a k :=
    fun _ _ => Lib.extractLsb'_eq_of_low hlo
  by_cases hlen : (step s i).ifuIrR.extractLsb' 0 2 = 0b11#2
  · have hc32 : c.rv32 = true := by
      rw [Isa.Ctrl.decode, if_pos hlen] at hc
      obtain ⟨op, -, rfl⟩ := Option.map_eq_some_iff.mp hc
      rfl
    have hir : Decode.decRv32 (step s i).ifuIrR = true :=
      (Decode.ctrlWires (d := ⟨_, 0#32, false, false, false, false, false⟩) hc).rv32.trans hc32
    rw [decRv32_step_ifuIrR hset] at hir
    rw [← hall hir, hc]
  · have hlen' : ¬i.ifuRspInstr.extractLsb' 0 2 = 0b11#2 := by rwa [← hlow 0 2 (by omega)]
    rw [Isa.Ctrl.decode, if_neg hlen] at hc
    rw [Isa.Ctrl.decode, if_neg hlen', ← Isa.CtrlOp.decode16_congr hlo, hc]

/-- The wires of the fetch stage on the instruction of the response channel. -/
def rspDec (w : BitVec 32) : Decode.In := ⟨w, 0#32, false, false, false, false, false⟩

theorem prdtTaken_eq (hc : Isa.Ctrl.decode i.ifuRspInstr = some c) :
    prdtTaken s i = c.prdtTaken := by
  have hw := Decode.ctrlWires (d := rspDec i.ifuRspInstr) hc
  have hj : (bpu s i).decJal = c.op.isJal := hw.jal
  have hjr : (bpu s i).decJalr = c.op.isJalr := hw.jalr
  have hb : (bpu s i).decBxx = c.op.isBranch := hw.bxx
  have himm : (bpu s i).decBjpImm = c.op.offset := hw.bjpImm
  rw [prdtTaken, Litebpu.prdtTaken, hj, hjr, hb, himm]
  rfl

/-- From a control transfer that goes into the IR, the fetch goes on at the predicted address. -/
theorem pcNxt_eq_prdtPc (hset : irValidSet s i = true) (hreset : s.resetReqR = false)
    (heven : Isa.evenPc s.pcR = s.pcR) (hc : Isa.Ctrl.decode i.ifuRspInstr = some c) :
    pcNxt s i = c.prdtPc s.pcR (Litebpu.prdtPcAddOp1 (bpu s i)) := by
  have hw := Decode.ctrlWires (d := rspDec i.ifuRspInstr) hc
  have hbjp : bjpReq s i = c.prdtTaken := by
    have hdec : Decode.decBjp i.ifuRspInstr = (c.op.isJal || c.op.isJalr || c.op.isBranch) := by
      rw [← hw.jal, ← hw.jalr, ← hw.bxx]
      rfl
    rw [bjpReq, prdtTaken_eq hc, hdec, Isa.Ctrl.prdtTaken]
    cases c.op.isJal <;> cases c.op.isJalr <;> cases c.op.isBranch <;> rfl
  have himm : Decode.decBjpImm i.ifuRspInstr = c.op.offset := hw.bjpImm
  rw [pcNxt_of_no_flush (irValidSet_iff.mp hset).2.1 hreset, hbjp, himm, Isa.Ctrl.prdtPc]
  cases htaken : c.prdtTaken
  · have hlen : pcIncrOfst i = if c.rv32 then 4#32 else 2#32 := by
      rw [← hw.rv32]
      rfl
    have hofst : Isa.evenPc (pcIncrOfst i) = pcIncrOfst i := by
      rw [hlen]
      cases c.rv32 <;> decide
    rw [← hlen]
    exact Isa.evenPc_add heven hofst
  · cases hjr : c.op.isJalr
    · have hbase : Litebpu.prdtPcAddOp1 (bpu s i) = s.pcR := by
        have hj : (bpu s i).decJal = c.op.isJal := hw.jal
        have hb : (bpu s i).decBxx = c.op.isBranch := hw.bxx
        have hor : (c.op.isBranch || c.op.isJal) = true := by
          simp only [Isa.Ctrl.prdtTaken, hjr, Bool.or_false, Bool.or_eq_true,
            Bool.and_eq_true] at htaken
          obtain h | h := htaken
          · simp [h]
          · simp [h.1]
        rw [Litebpu.prdtPcAddOp1, hj, hb, if_pos hor]
        rfl
      rw [hbase]
      rfl
    · rfl

end
end Ifetch

/-! ## The commit -/

namespace Exu
section
variable {s : State} {i : In} {c : Isa.Ctrl}

/-- Does the flush of a control transfer that commits happen? -/
def flushOf (c : Isa.Ctrl) (σ : Isa.CtrlState) : Bool :=
  match c.op with
  | .branch .. => c.prdtTaken != c.taken σ
  | .jal _ | .jalr .. => false
  | .mret | .dret | .fencei => true

theorem CtrlAt.flush_iff (h : CtrlAt s i c) (hcmt : cmtEna s i = true)
    (hprdt : i.iPrdtTaken = c.prdtTaken) :
    pipeFlushReq s i = flushOf c (ctrlState s i) := by
  obtain ⟨hbjp, hfencei, hmret, hdret, hp, -, hrslv⟩ := h.branchslv
  rw [(h.commit_flush hcmt).2, Branchslv.brchmisNeedFlush, hfencei, hmret, hdret, hp, hprdt]
  cases hop : c.op
  case branch k r1 r2 o =>
    have hb : (Exu.branchslv s i).cmtIBjp = true := by simp [hbjp, hop, Isa.CtrlOp.isBranch]
    rw [hb, hrslv hb]
    simp [flushOf, hop]
  case jal | jalr =>
    have hb : (Exu.branchslv s i).cmtIBjp = true := by
      simp [hbjp, hop, Isa.CtrlOp.isJal, Isa.CtrlOp.isJalr]
    rw [hb, hrslv hb]
    simp [flushOf, hop, Isa.Ctrl.taken, Isa.Ctrl.prdtTaken, Isa.CtrlOp.isJal, Isa.CtrlOp.isJalr]
  all_goals simp [flushOf, hop]

/-- The address the fetch goes on from is the architectural next PC: the flush target, or the
predicted address when there is no flush. -/
theorem CtrlAt.redirect (h : CtrlAt s i c) (hcmt : cmtEna s i = true)
    (hprdt : i.iPrdtTaken = c.prdtTaken) (heven : Isa.evenPc i.iPc = i.iPc) {base : BitVec 32}
    (hbase : c.op.isJalr = true → base = s.rf.rfR c.op.rs1) :
    (if pipeFlushReq s i then Isa.evenPc (pipeFlushPc s i) else c.prdtPc i.iPc base) =
      c.nextPc (ctrlState s i) := by
  obtain ⟨hbjp, hfencei, hmret, hdret, hp, hrv32, -⟩ := h.branchslv
  have hofst := fun hj => Isa.Ctrl.evenPc_offset h.word hj
  have hseq : Isa.evenPc (c.seqPc (ctrlState s i)) = c.seqPc (ctrlState s i) := by
    apply Isa.evenPc_add heven
    cases c.rv32 <;> decide
  have hpc : (Exu.branchslv s i).cmtIPc + Branchslv.seqOfst (Exu.branchslv s i) =
      c.seqPc (ctrlState s i) := by
    rw [Branchslv.seqOfst, hrv32]
    rfl
  rw [h.flush_iff hcmt hprdt, h.flushPc hcmt, Branchslv.brchmisFlushPc, hbjp, hfencei, hdret,
    hp, hprdt, hpc]
  cases hop : c.op
  case branch k r1 r2 o =>
    have hb : c.op.isBranch = true := by rw [hop]; rfl
    have hjr : c.op.isJalr = false := by rw [hop]; rfl
    have htarget : (Exu.branchslv s i).cmtIPc + (Exu.branchslv s i).cmtIImm = i.iPc + o := by
      have himm : (Exu.branchslv s i).cmtIImm = c.op.offset := h.wires.imm hb
      have ho : c.op.offset = o := by rw [hop]; rfl
      rw [himm, ho]
      rfl
    have heveno : Isa.evenPc (i.iPc + o) = i.iPc + o := by
      have ho := hofst hjr
      rw [hop] at ho
      exact Isa.evenPc_add heven ho
    have hnext : c.nextPc (ctrlState s i) =
        if c.taken (ctrlState s i) then i.iPc + o else c.seqPc (ctrlState s i) := by
      rw [Isa.Ctrl.nextPc, hop]
      rfl
    have hprdtPc : c.prdtPc i.iPc base =
        if c.prdtTaken then i.iPc + o else c.seqPc (ctrlState s i) := by
      rw [Isa.Ctrl.prdtPc, hjr, hop]
      cases c.prdtTaken
      · rfl
      · exact heveno
    have hflush : flushOf c (ctrlState s i) = (c.prdtTaken != c.taken (ctrlState s i)) := by
      rw [flushOf, hop]
    rw [hnext, hprdtPc, hflush, htarget]
    cases hp : c.prdtTaken <;> cases ht : c.taken (ctrlState s i)
    · rfl
    · exact heveno
    · exact hseq
    · rfl
  case jal o =>
    have ho := hofst (by rw [hop]; rfl)
    rw [hop] at ho
    simp only [flushOf, hop, Isa.Ctrl.nextPc, Isa.Ctrl.prdtPc, Isa.Ctrl.prdtTaken]
    exact Isa.evenPc_add heven ho
  case jalr r o =>
    have hb := hbase (by rw [hop]; rfl)
    simp only [flushOf, hop, Isa.Ctrl.nextPc, Isa.Ctrl.prdtPc, Isa.Ctrl.prdtTaken]
    rw [hb, hop]
    rfl
  case mret | dret =>
    simp only [flushOf, hop, Isa.Ctrl.nextPc]
    rfl
  case fencei =>
    simp only [flushOf, hop, Isa.Ctrl.nextPc]
    exact hseq

end
end Exu

/-! ## Runs of the core -/

namespace Core

/-- The control transfer `c` is in the IR and commits, without an exception of its own. -/
structure CommitsCtrl (s : State) (i : In) (c : Isa.Ctrl) : Prop where
  valid : s.ifu.irValidR = true
  word : Isa.Ctrl.decode s.ifu.ifuIrR = some c
  cmt : Exu.cmtEna s.exu (exuIn s i) = true
  noExcp : Excp.aluNeedFlush (Exu.cmtCtl s.exu (exuIn s i)).toCtl
    (Exu.aluCmt s.exu (exuIn s i)).toAlu = false

section
variable {inp : ℕ → In} {s : State} {t₀ t : ℕ} {c : Isa.Ctrl}

theorem CommitsCtrl.not_ilegl {i : In} (h : CommitsCtrl s i c) :
    s.ifu.ifuErrR = false ∧ Decode.decIlegl (Exu.dec s.exu (exuIn s i)) = false := by
  have hno := h.noExcp
  simp only [Excp.aluNeedFlush, Bool.or_eq_false_iff] at hno
  obtain ⟨⟨-, hbuserr⟩, hilegl⟩ := hno
  exact ⟨hbuserr, (Bool.or_eq_false_iff.mp hilegl).1⟩

/-- The control transfer that commits in cycle `t` is the one the fetch stage loaded in cycle
`t₀`. -/
theorem CommitsCtrl.ctrlAt (h0 : IsReset s) (hload : LoadedAt inp s t₀ t)
    (h : CommitsCtrl (run inp s t) (inp t) c) :
    Exu.CtrlAt (run inp s t).exu (exuIn (run inp s t) (inp t)) c ∧
      Isa.Ctrl.decode (inp t₀).ifuRspInstr = some c ∧
      (run inp s t).ifu.ifuPrdtTakenR = c.prdtTaken ∧
      (run inp s t).ifu.ifuPcR = (run inp s t₀).ifu.pcR := by
  have hset := hload.set
  have hrsp : Isa.Ctrl.decode (inp t₀).ifuRspInstr = some c := by
    have hword := h.word
    rw [hload.ir] at hword
    exact Ifetch.decode_of_loaded hset hword
  have hir := Decode.ctrlWires (d := Ifetch.rspDec (run inp s t).ifu.ifuIrR) h.word
  have hw := Decode.ctrlWires (d := Ifetch.rspDec (inp t₀).ifuRspInstr) hrsp
  refine ⟨⟨h.word, h.not_ilegl.1, rfl, ?_, ?_, ?_⟩, hrsp, ?_, ?_⟩
  · intro hb hx0
    have hen : Decode.decRs1en (run inp s t).ifu.ifuIrR = true :=
      (hir.rs1en hb).trans (by simpa using hx0)
    have hen₀ : Decode.decRs1en (inp t₀).ifuRspInstr = true :=
      (hw.rs1en hb).trans (by simpa using hx0)
    exact (hload.rs1idx hen).trans ((Ifetch.step_irRs1idxR hset hen₀).trans (hw.rs1 hb))
  · intro hb hx0
    have hen₀ : Decode.decRs2en (inp t₀).ifuRspInstr = true :=
      (hw.rs2en hb).trans (by simpa using hx0)
    exact hload.rs2idx.trans ((Ifetch.step_irRs2idxR hset hen₀).trans (hw.rs2 hb))
  · intro hdret
    cases hdbg : Exu.dbgMode (run inp s t).exu
    · have hill := h.not_ilegl.2
      have hword : (run inp s t).ifu.ifuIrR = 0x7b200073#32 := Isa.Ctrl.eq_of_dret h.word hdret
      rw [Decode.decIlegl_dret hword hdbg] at hill
      cases hill
    · rfl
  · rw [hload.prdt]
    simp only [Ifetch.step, hset, dfflr_true]
    exact Ifetch.prdtTaken_eq hrsp
  · rw [hload.pc]
    exact (Startup.run h0 t₀).kept.step_ifuPcR hset

variable (inp s t₀ t) in
/-- From where on the fetch stage requests what it takes for the next instruction, after the one that
was loaded in cycle `t₀` and commits in cycle `t`: from the commit if that raises a flush, from the load
if not. -/
def nextFetchFrom : ℕ :=
  if Exu.pipeFlushReq (run inp s t).exu (exuIn (run inp s t) (inp t)) then t else t₀

variable (inp s t₀) in
/-- In the cycle `r` the response channel gives the successor that it gave when the instruction of
cycle `t₀` went into the IR. -/
def SameSuccessor (r : ℕ) : Prop :=
  Ifetch.nextPc (run inp s t₀).ifu.pcR (ifuIn (run inp s r) (inp r)) =
    Ifetch.nextPc (run inp s t₀).ifu.pcR (ifuIn (run inp s t₀) (inp t₀))

variable (inp s t₀ t c) in
/-- The base the prediction took for a `JALR` is the operand it has when it commits. -/
def JalrBaseRight : Prop :=
  c.op.isJalr = true →
    Litebpu.prdtPcAddOp1 (Ifetch.bpu (run inp s t₀).ifu (ifuIn (run inp s t₀) (inp t₀))) =
      (run inp s t).exu.rf.rfR c.op.rs1

/-- Every control transfer that commits in a run was loaded into the IR in an earlier cycle, and the
request behind it is for its architectural next PC; it is made together with the load, unless there is a
flush or a halt.  A branch raises a flush exactly when its direction was mispredicted, a jump never, the
returns and `FENCE.I` always.  The flush target has its value in both encodings. -/
theorem redirect_correct (h0 : IsReset s) (hrsp : ∀ u, RspOutstanding (inp u) (run inp s u))
    (h : CommitsCtrl (run inp s t) (inp t) c) :
    (∃ t₀ < t, LoadedAt inp s t₀ t ∧
      ((ifuIn (run inp s t₀) (inp t₀)).ifuHaltReq = false →
        Ifetch.ifuReqHsked (run inp s t₀).ifu (ifuIn (run inp s t₀) (inp t₀)) = true) ∧
      (JalrBaseRight inp s t₀ t c → ∀ r, FirstRequest inp s (nextFetchFrom inp s t₀ t) r →
        (Exu.pipeFlushReq (run inp s t).exu (exuIn (run inp s t) (inp t)) = false →
          SameSuccessor inp s t₀ r) →
        Ifetch.ifuReqPc (run inp s r).ifu (ifuIn (run inp s r) (inp r)) =
          c.nextPc (Exu.ctrlState (run inp s t).exu (exuIn (run inp s t) (inp t))))) ∧
      Exu.pipeFlushReq (run inp s t).exu (exuIn (run inp s t) (inp t)) =
        Exu.flushOf c (Exu.ctrlState (run inp s t).exu (exuIn (run inp s t) (inp t))) ∧
      (Exu.pipeFlushReq (run inp s t).exu (exuIn (run inp s t) (inp t)) = true →
        Exu.pipeFlushPc (run inp s t).exu (exuIn (run inp s t) (inp t)) =
          Exu.pipeFlushAddOp1 (run inp s t).exu (exuIn (run inp s t) (inp t)) +
            Exu.pipeFlushAddOp2 (run inp s t).exu (exuIn (run inp s t) (inp t))) := by
  obtain ⟨t₀, hlt, hload⟩ := exists_loadedAt h0 h.valid
  obtain ⟨hctrl, hword, hprdt, hpc⟩ := h.ctrlAt h0 hload
  have htrace := trace h0 hrsp
  have hstart : (ifuIn (run inp s 0) (inp 0)).pipeFlushReq = false :=
    IsReset.pipeFlushReq (s := s) (i := inp 0) h0
  refine ⟨⟨t₀, hlt, hload, htrace.request_of_load hstart hload.set, fun hbase r hr hsame => ?_⟩,
    hctrl.flush_iff h.cmt hprdt, Exu.flushPc_eq_add⟩
  have hst : Startup (run inp s t₀) := .run h0 t₀
  have heven : Isa.evenPc (run inp s t).ifu.ifuPcR = (run inp s t).ifu.ifuPcR := by
    rw [hpc, hst.even]
  rw [← hctrl.redirect h.cmt hprdt heven hbase]
  rw [nextFetchFrom] at hr
  cases hflush : Exu.pipeFlushReq (run inp s t).exu (exuIn (run inp s t) (inp t))
  case true =>
    rw [hflush, if_pos rfl] at hr
    exact Ifetch.FirstRequest.of_flush hr htrace hflush
  case false =>
    rw [hflush, if_neg (by decide)] at hr
    have hreset : (run inp s t₀).ifu.resetReqR = false := hst.resetReqR (hrsp t₀) hload.set
    have hipc : (exuIn (run inp s t) (inp t)).iPc = (run inp s t₀).ifu.pcR := hpc
    calc Ifetch.ifuReqPc (run inp s r).ifu (ifuIn (run inp s r) (inp r))
        = Ifetch.nextPc (run inp s t₀).ifu.pcR (ifuIn (run inp s r) (inp r)) :=
          Ifetch.FirstRequest.of_load hr htrace hstart hload.set
      _ = Ifetch.nextPc (run inp s t₀).ifu.pcR (ifuIn (run inp s t₀) (inp t₀)) := hsame hflush
      _ = Ifetch.pcNxt (run inp s t₀).ifu (ifuIn (run inp s t₀) (inp t₀)) :=
          (Ifetch.pcNxt_eq_nextPc (Ifetch.irValidSet_iff.mp hload.set).2.1 hreset).symm
      _ = _ := by
          rw [Ifetch.pcNxt_eq_prdtPc hload.set hreset hst.even hword, hipc]
          rfl

end

/-- A quiet environment that answers the first request with the word `w`. -/
def oneWord (w : BitVec 32) (t : ℕ) : In :=
  { In.quiet with ifuRspValid := t == 2, ifuRspInstr := if t = 2 then w else 0#32 }

theorem oneWord_rspOutstanding (w : BitVec 32) (t : ℕ) :
    RspOutstanding (oneWord w t) (run (oneWord w) zeroState t) := by
  intro hv
  obtain rfl : t = 2 := by simpa [oneWord] using hv
  have hrun : run (oneWord w) zeroState 2 = step (step zeroState In.quiet) In.quiet := rfl
  rw [hrun]
  decide +kernel

/-- A taken backward branch, `beq x0, x0, -4`. -/
theorem redirect_correct_beq :
    Ifetch.ifuReqPc (run (oneWord 0xfe000ee3#32) zeroState 2).ifu
      (ifuIn (run (oneWord 0xfe000ee3#32) zeroState 2) (oneWord 0xfe000ee3#32 2)) = 0x7ffffffc#32 := by
  have hcmt : CommitsCtrl (run (oneWord 0xfe000ee3#32) zeroState 3) (oneWord 0xfe000ee3#32 3)
      ⟨true, .branch .eq 0#5 0#5 (BitVec.ofInt 32 (-4))⟩ :=
    ⟨by decide +kernel, by decide +kernel, by decide +kernel, by decide +kernel⟩
  obtain ⟨⟨t₀, hlt, hload, -, hnext⟩, -⟩ :=
    redirect_correct (State.isReset_reset _) (oneWord_rspOutstanding _) hcmt
  obtain rfl : t₀ = 2 := by
    have hv : (oneWord 0xfe000ee3#32 t₀).ifuRspValid = true := (Ifetch.irValidSet_iff.mp hload.set).1
    simpa [oneWord] using hv
  have hfrom : nextFetchFrom (oneWord 0xfe000ee3#32) zeroState 2 3 = 2 := by decide +kernel
  have hfirst : FirstRequest (oneWord 0xfe000ee3#32) zeroState 2 2 :=
    ⟨Nat.le_refl 2, by decide +kernel, fun w hw1 hw2 => by omega, fun w hw1 hw2 => by omega⟩
  refine (hnext ?_ 2 (hfrom.symm ▸ hfirst) fun _ => rfl).trans ?_
  · intro hj
    cases hj
  · decide +kernel

/-- `WFI`, then `jal x0, 256` that goes into the IR during the halt, then a timer interrupt that ends the
halt and is not taken; the response channel shows zeros between the responses. -/
def haltedJal (t : ℕ) : In :=
  { In.quiet with
    ifuRspValid := t == 2 || t == 5
    ifuRspInstr := if t = 2 then 0x10500073#32 else if t = 5 then 0x1000006f#32 else 0#32
    tmrIrqR := decide (7 ≤ t)
    mtieR := true }

/-- `FENCE.I` raises a flush although the fetch already goes on from its architectural next PC; and
behind a jump that went into the IR during a halt the fetch does not go on from its target. -/
theorem redirect_not_exact :
    (∃ c : Isa.Ctrl, CommitsCtrl (run (oneWord 0x0000100f#32) zeroState 3) (oneWord 0x0000100f#32 3) c ∧
      LoadedAt (oneWord 0x0000100f#32) zeroState 2 3 ∧
      FirstRequest (oneWord 0x0000100f#32) zeroState 2 2 ∧
      Ifetch.ifuReqPc (run (oneWord 0x0000100f#32) zeroState 2).ifu
          (ifuIn (run (oneWord 0x0000100f#32) zeroState 2) (oneWord 0x0000100f#32 2)) =
        c.nextPc (Exu.ctrlState (run (oneWord 0x0000100f#32) zeroState 3).exu
          (exuIn (run (oneWord 0x0000100f#32) zeroState 3) (oneWord 0x0000100f#32 3))) ∧
      Exu.pipeFlushReq (run (oneWord 0x0000100f#32) zeroState 3).exu
        (exuIn (run (oneWord 0x0000100f#32) zeroState 3) (oneWord 0x0000100f#32 3)) = true) ∧
      ∃ c : Isa.Ctrl, CommitsCtrl (run haltedJal zeroState 8) (haltedJal 8) c ∧
        LoadedAt haltedJal zeroState 5 8 ∧ FirstRequest haltedJal zeroState 5 7 ∧
        Exu.pipeFlushReq (run haltedJal zeroState 8).exu
          (exuIn (run haltedJal zeroState 8) (haltedJal 8)) = false ∧
        c.nextPc (Exu.ctrlState (run haltedJal zeroState 8).exu
          (exuIn (run haltedJal zeroState 8) (haltedJal 8))) = 0x80000104#32 ∧
        Ifetch.ifuReqPc (run haltedJal zeroState 7).ifu
          (ifuIn (run haltedJal zeroState 7) (haltedJal 7)) = 0x80000006#32 := by
  constructor
  · refine ⟨⟨true, .fencei⟩, ⟨?_, ?_, ?_, ?_⟩, .of_set ?_,
      ⟨Nat.le_refl 2, ?_, fun w hw1 hw2 => by omega, fun w hw1 hw2 => by omega⟩, ?_, ?_⟩
    all_goals decide +kernel
  · have hset : Ifetch.irValidSet (run haltedJal zeroState 5).ifu
        (ifuIn (run haltedJal zeroState 5) (haltedJal 5)) = true := by decide +kernel
    have hload : LoadedAt haltedJal zeroState 5 8 := by
      have h6 : LoadedAt haltedJal zeroState 5 6 := .of_set hset
      have h7 : LoadedAt haltedJal zeroState 5 7 :=
        h6.next (by decide +kernel) (by decide +kernel) (by decide +kernel)
      exact h7.next (by decide +kernel) (by decide +kernel) (by decide +kernel)
    refine ⟨⟨true, .jal 0x100#32⟩, ⟨?_, ?_, ?_, ?_⟩, hload,
      ⟨by decide, ?_, fun w hw1 hw2 => ?_, fun w hw1 hw2 => ?_⟩, ?_, ?_, ?_⟩
    case refine_6 =>
      obtain rfl | rfl : w = 5 ∨ w = 6 := by omega
      all_goals
        clear hw1 hw2
        decide +kernel
    case refine_7 =>
      obtain rfl | rfl : w = 6 ∨ w = 7 := by omega
      all_goals
        clear hw1 hw2
        decide +kernel
    all_goals decide +kernel

end Core
end E203
