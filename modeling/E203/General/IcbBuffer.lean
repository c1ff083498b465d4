import E203.General.Fifo
import E203.Rtl.GnrlIcbBuffer
import Mathlib.Algebra.GroupWithZero.Nat

/-! # What the buffer holds, and when it is active

* `FifoDp.Has`: the words of a FIFO of any depth, none without entries; `FifoDp.Has.cycle`: what is
  accepted enters, what is delivered leaves.
* `cmdUnpack_pack`, `rspUnpack_pack`: the payloads come out as they went in.
* `conserves_cmd`, `conserves_rsp`: commands and responses over a run.
* `Parity`: the outstanding count keeps only whether the number of outstanding commands is odd.
* `active_iff`: over a run.
-/

namespace E203
set_option autoImplicit false

/-! ## FIFOs -/

namespace FifoDp
section
variable {DP DW : ℕ} {s : Fifo DP DW} {l : List (BitVec DW)}

def Has (s : Fifo DP DW) (l : List (BitVec DW)) : Prop := (DP = 0 ∧ l = []) ∨ (0 < DP ∧ s.Has l)

theorem Has.of_reset (h : IsReset s) : Has s [] := by
  obtain h0 | hpos := Nat.eq_zero_or_pos DP
  · exact .inl ⟨h0, rfl⟩
  · exact .inr ⟨hpos, Fifo.Has.of_reset hpos (h hpos)⟩

theorem Has.length_le (h : Has s l) : l.length ≤ DP := by
  obtain ⟨-, rfl⟩ | ⟨-, h⟩ := h
  · exact Nat.zero_le _
  · exact h.length_le

theorem Has.oVld_eq (h : Has s l) (iVld : Bool) :
    oVld s iVld = (!l.isEmpty || (decide (DP = 0) && iVld)) := by
  obtain ⟨h0, rfl⟩ | ⟨hpos, h⟩ := h
  · rw [oVld, if_pos h0, decide_eq_true h0]
    rfl
  · have hne : ¬DP = 0 := by omega
    rw [oVld, if_neg hne, h.oVld_eq, decide_eq_false hne, Bool.false_and, Bool.or_false]

theorem Has.oDat_eq (h : Has s l) {msko iVld : Bool} {iDat : BitVec DW} (hv : oVld s iVld = true) :
    (l ++ [iDat]).head? = some (oDat msko s iDat) := by
  rw [h.oVld_eq] at hv
  obtain ⟨h0, rfl⟩ | ⟨hpos, h⟩ := h
  · rw [oDat, if_pos h0]
    rfl
  · have hne : ¬DP = 0 := by omega
    rw [decide_eq_false hne, Bool.false_and, Bool.or_false] at hv
    rw [oDat, if_neg hne]
    cases l with
    | nil => exact Bool.noConfusion hv
    | cons x l =>
      rw [h.oDat_eq]
      rfl

theorem Has.iRdy_of_empty (h : Has s []) (cutReady : Bool) : iRdy cutReady s true = true := by
  obtain ⟨h0, -⟩ | ⟨hpos, h⟩ := h
  · rw [iRdy, if_pos h0]
  · have hne : ¬DP = 0 := by omega
    have hroom : ([] : List (BitVec DW)).length < DP := hpos
    rw [iRdy, if_neg hne, h.iRdy_eq, decide_eq_true hroom]
    rfl

theorem Has.cycle (h : Has s l) (cutReady msko iVld oRdy : Bool) (iDat : BitVec DW) :
    ∃ l', Has (s.step cutReady iVld oRdy iDat) l' ∧
      l ++ (if iVld && iRdy cutReady s oRdy then [iDat] else []) =
        (if oVld s iVld && oRdy then [oDat msko s iDat] else []) ++ l' := by
  have hv := h.oVld_eq iVld
  obtain ⟨h0, rfl⟩ | ⟨hpos, h⟩ := h
  · refine ⟨[], .inl ⟨h0, rfl⟩, ?_⟩
    rw [iRdy, if_pos h0, oVld, if_pos h0, oDat, if_pos h0, List.append_nil, List.nil_append]
  · have hne : ¬DP = 0 := by omega
    rw [decide_eq_false hne, Bool.false_and, Bool.or_false] at hv
    refine ⟨_, .inr ⟨hpos, h.step cutReady iVld oRdy iDat⟩, ?_⟩
    rw [hv, iRdy, if_neg hne, oDat, if_neg hne, ← List.append_assoc]
    congr 1
    cases l with
    | nil => cases oRdy <;> rfl
    | cons x l =>
      rw [h.oDat_eq]
      cases oRdy <;> rfl

theorem Has.cycle_map {α : Type*} {pack : α → BitVec DW} {unpack : BitVec DW → α}
    (hback : ∀ x, unpack (pack x) = x) {xs : List α} (h : Has s (xs.map pack))
    (cutReady msko iVld oRdy : Bool) (x : α) :
    ∃ xs', Has (s.step cutReady iVld oRdy (pack x)) (xs'.map pack) ∧
      xs ++ (if iVld && iRdy cutReady s oRdy then [x] else []) =
        (if oVld s iVld && oRdy then [unpack (oDat msko s (pack x))] else []) ++ xs' := by
  obtain ⟨l', hl', heq⟩ := h.cycle cutReady msko iVld oRdy (pack x)
  have hin : (if iVld && iRdy cutReady s oRdy then [pack x] else []) =
      (if iVld && iRdy cutReady s oRdy then [x] else []).map pack := by split <;> rfl
  rw [hin, ← List.map_append, List.map_eq_append_iff] at heq
  obtain ⟨xs₁, xs', hsplit, hout, rfl⟩ := heq
  have hcomp : unpack ∘ pack = id := funext hback
  have hxs₁ := congrArg (List.map unpack) hout
  rw [List.map_map, hcomp, List.map_id] at hxs₁
  refine ⟨xs', hl', ?_⟩
  rw [hsplit, hxs₁]
  split <;> rfl

theorem passes_of_cycle {α : Type*} {enter leave : ℕ → List α} (fifo : ℕ → Fifo DP DW)
    (pack : α → BitVec DW) (h0 : IsReset (fifo 0))
    (hcycle : ∀ t xs, Has (fifo t) (xs.map pack) →
      ∃ xs', Has (fifo (t + 1)) (xs'.map pack) ∧ xs ++ enter t = leave t ++ xs') (t : ℕ) :
    Lib.Passes DP enter leave t := by
  obtain ⟨hcon, hhas⟩ := Lib.conserves_of_cycle (I := fun t xs => Has (fifo t) (xs.map pack))
    (Has.of_reset h0) hcycle
  refine ⟨_, hcon.emitted_eq t, ?_⟩
  have hlen := (hhas t).length_le
  rw [List.length_map] at hlen
  exact hlen

end
end FifoDp

namespace IcbBuffer

/-! ## The payloads -/

section
variable {n m AW DW USR_W : ℕ}

@[simp] theorem upper_append (x : BitVec n) (y : BitVec m) : upper (x ++ y) = x :=
  BitVec.extractLsb'_append_eq_left

@[simp] theorem lower_append (x : BitVec n) (y : BitVec m) : lower (x ++ y) = y :=
  BitVec.extractLsb'_append_eq_right

theorem cmdUnpack_pack (c : GnrlIcbCmd AW DW USR_W) : cmdUnpack (cmdPack c) = c := by
  simp only [cmdUnpack, cmdPack, lower_append, upper_append]

theorem rspUnpack_pack (r : GnrlIcbRsp DW USR_W) : rspUnpack (rspPack r) = r := by
  simp only [rspUnpack, rspPack, lower_append, upper_append]

end
/-! ## The handshakes -/

section
variable {OUTS_CNT_W CMD_DP RSP_DP AW DW USR_W : ℕ} (P : Params)
  (s : State OUTS_CNT_W CMD_DP RSP_DP AW DW USR_W) (i : In AW DW USR_W)

/-- The command that is accepted, and the one that is passed on. -/
def accepted : List (GnrlIcbCmd AW DW USR_W) :=
  if i.iIcbCmdValid && iIcbCmdReady P s i.oIcbCmdReady then [i.iIcbCmd] else []

def issued : List (GnrlIcbCmd AW DW USR_W) :=
  if oIcbCmdValid s i.iIcbCmdValid && i.oIcbCmdReady then [oIcbCmd s i.iIcbCmd] else []

/-- The response that is taken, and the one that is delivered. -/
def answered : List (GnrlIcbRsp DW USR_W) :=
  if i.oIcbRspValid && oIcbRspReady P s i.iIcbRspReady then [i.oIcbRsp] else []

def delivered : List (GnrlIcbRsp DW USR_W) :=
  if iIcbRspValid s i.oIcbRspValid && i.iIcbRspReady then [iIcbRsp s i.oIcbRsp] else []

variable {P s i} {cmds : List (GnrlIcbCmd AW DW USR_W)} {rsps : List (GnrlIcbRsp DW USR_W)}

theorem cmd_cycle (h : FifoDp.Has s.cmdFifo (cmds.map cmdPack)) :
    ∃ cmds', FifoDp.Has (step P i s).cmdFifo (cmds'.map cmdPack) ∧
      cmds ++ accepted P s i = issued s i ++ cmds' :=
  h.cycle_map cmdUnpack_pack P.cmdCutReady false i.iIcbCmdValid i.oIcbCmdReady i.iIcbCmd

theorem rsp_cycle (h : FifoDp.Has s.rspFifo (rsps.map rspPack)) :
    ∃ rsps', FifoDp.Has (step P i s).rspFifo (rsps'.map rspPack) ∧
      rsps ++ answered P s i = delivered s i ++ rsps' :=
  h.cycle_map rspUnpack_pack P.rspCutReady false i.oIcbRspValid i.iIcbRspReady i.oIcbRsp

/-! ## Runs -/

variable (P) (inp : ℕ → In AW DW USR_W) (s : State OUTS_CNT_W CMD_DP RSP_DP AW DW USR_W)

def run : ℕ → State OUTS_CNT_W CMD_DP RSP_DP AW DW USR_W := Lib.stateAt (step P) inp s

def acceptedAt (t : ℕ) : List (GnrlIcbCmd AW DW USR_W) := accepted P (run P inp s t) (inp t)
def issuedAt (t : ℕ) : List (GnrlIcbCmd AW DW USR_W) := issued (run P inp s t) (inp t)
def answeredAt (t : ℕ) : List (GnrlIcbRsp DW USR_W) := answered P (run P inp s t) (inp t)
def deliveredAt (t : ℕ) : List (GnrlIcbRsp DW USR_W) := delivered (run P inp s t) (inp t)

variable {P inp s}

theorem conserves_cmd (h0 : IsReset s) :
    Lib.Conserves (acceptedAt P inp s) (issuedAt P inp s)
        (Lib.backlog (acceptedAt P inp s) (issuedAt P inp s)) ∧
      ∀ t, FifoDp.Has (run P inp s t).cmdFifo
        ((Lib.backlog (acceptedAt P inp s) (issuedAt P inp s) t).map cmdPack) :=
  Lib.conserves_of_cycle (I := fun t l => FifoDp.Has (run P inp s t).cmdFifo (l.map cmdPack))
    (.of_reset h0.cmdFifo) fun _ _ h => cmd_cycle h

theorem conserves_rsp (h0 : IsReset s) :
    Lib.Conserves (answeredAt P inp s) (deliveredAt P inp s)
        (Lib.backlog (answeredAt P inp s) (deliveredAt P inp s)) ∧
      ∀ t, FifoDp.Has (run P inp s t).rspFifo
        ((Lib.backlog (answeredAt P inp s) (deliveredAt P inp s) t).map rspPack) :=
  Lib.conserves_of_cycle (I := fun t l => FifoDp.Has (run P inp s t).rspFifo (l.map rspPack))
    (.of_reset h0.rspFifo) fun _ _ h => rsp_cycle h

theorem passes_cmd (h0 : IsReset s) (t : ℕ) :
    Lib.Passes CMD_DP (acceptedAt P inp s) (issuedAt P inp s) t :=
  FifoDp.passes_of_cycle (fun t => (run P inp s t).cmdFifo) cmdPack h0.cmdFifo
    (fun _ _ h => cmd_cycle h) t

theorem passes_rsp (h0 : IsReset s) (t : ℕ) :
    Lib.Passes RSP_DP (answeredAt P inp s) (deliveredAt P inp s) t :=
  FifoDp.passes_of_cycle (fun t => (run P inp s t).rspFifo) rspPack h0.rspFifo
    (fun _ _ h => rsp_cycle h) t

/-- Every response is delivered if the master is ready again and again. -/
theorem rsp_eventually (h0 : IsReset s) (hready : ∀ t, ∃ u, t ≤ u ∧ (inp u).iIcbRspReady = true) (t : ℕ) :
    ∃ u, t ≤ u ∧ Lib.emitted (answeredAt P inp s) 0 t <+: Lib.emitted (deliveredAt P inp s) 0 u := by
  obtain ⟨hcon, hhas⟩ := @conserves_rsp _ _ _ _ _ _ P inp s h0
  refine hcon.eventually_of_ready (fun u hu hr => ?_) hready t
  have hv : iIcbRspValid (run P inp s u) (inp u).oIcbRspValid = true := by
    rw [iIcbRspValid, (hhas u).oVld_eq, List.isEmpty_map]
    cases hb : Lib.backlog (answeredAt P inp s) (deliveredAt P inp s) u with
    | nil => exact absurd hb hu
    | cons x l => rfl
  rw [deliveredAt, delivered, hv, hr]
  exact List.cons_ne_nil _ _

/-! ## The outstanding count -/

variable (P inp s)

/-- The accepted commands that have not delivered their response before cycle `t`. -/
def outstanding (t : ℕ) : ℕ :=
  (Lib.emitted (acceptedAt P inp s) 0 t).length - (Lib.emitted (deliveredAt P inp s) 0 t).length

/-- The other side responds to commands that it has accepted, at the earliest in that cycle. -/
def Environment : Prop := ∀ t,
  (Lib.emitted (answeredAt P inp s) 0 t).length ≤ (Lib.emitted (issuedAt P inp s) 0 t).length

variable {P inp s}

theorem delivered_le (h0 : IsReset s) (henv : Environment P inp s) (t : ℕ) :
    (Lib.emitted (deliveredAt P inp s) 0 t).length ≤ (Lib.emitted (acceptedAt P inp s) 0 t).length :=
  ((conserves_rsp h0).1.length_le t).trans ((henv t).trans ((conserves_cmd h0).1.length_le t))

/-- In a single bit, up and down are the same. -/
theorem outsCntR_step (hW : 0 < OUTS_CNT_W) (s : State OUTS_CNT_W CMD_DP RSP_DP AW DW USR_W)
    (i : In AW DW USR_W) : outsCntR (step P i s) =
      outsCntR s + BitVec.ofNat 1 ((accepted P s i).length + (delivered s i).length) := by
  have hback : ∀ x : BitVec 1, (x.setWidth OUTS_CNT_W).setWidth 1 = x := fun x =>
    BitVec.setWidth_setWidth_of_le x hW
  have hacc : (accepted P s i).length = (outsCntInc P s i).toNat := by
    rw [accepted, outsCntInc]
    split
    next h => rw [h]; rfl
    next h => rw [Bool.eq_false_iff.mpr h]; rfl
  have hdel : (delivered s i).length = (outsCntDec s i).toNat := by
    rw [delivered, outsCntDec]
    split
    next h => rw [h]; rfl
    next h => rw [Bool.eq_false_iff.mpr h]; rfl
  rw [hacc, hdel]
  change (dfflr (outsCntEna P s i) ((outsCntNxt P s i).setWidth OUTS_CNT_W) s.outsCntDfflr).setWidth 1 = _
  rw [outsCntEna, outsCntNxt]
  cases outsCntInc P s i <;> cases outsCntDec s i
  · exact (BitVec.add_zero _).symm
  · refine (hback _).trans ?_
    generalize outsCntR s = x
    revert x
    decide
  · exact hback _
  · change outsCntR s = outsCntR s + 0#1
    exact (BitVec.add_zero _).symm

theorem outsCntR_eq (hW : 0 < OUTS_CNT_W) (h0 : IsReset s) (t : ℕ) :
    outsCntR (run P inp s t) = BitVec.ofNat 1 ((Lib.emitted (acceptedAt P inp s) 0 t).length +
      (Lib.emitted (deliveredAt P inp s) 0 t).length) := by
  induction t with
  | zero =>
    change s.outsCntDfflr.setWidth 1 = _
    rw [h0.outsCnt, Lib.emitted_self, Lib.emitted_self]
    exact BitVec.eq_of_toNat_eq (by simp)
  | succ t ih =>
    have hstep : run P inp s (t + 1) = step P (inp t) (run P inp s t) := rfl
    rw [hstep, outsCntR_step hW, ih, Lib.emitted_succ (Nat.zero_le t), Lib.emitted_succ (Nat.zero_le t),
      List.length_append, List.length_append, ← BitVec.ofNat_add]
    congr 1
    rw [acceptedAt, deliveredAt]
    omega

theorem outsCntIs0_iff (s : State OUTS_CNT_W CMD_DP RSP_DP AW DW USR_W) :
    outsCntIs0 s = true ↔ outsCntR s = 0#1 := by
  rw [outsCntIs0, beq_iff_eq]
  constructor
  · intro h
    have hback := congrArg (BitVec.setWidth 1) h
    rw [BitVec.setWidth_setWidth_of_le _ (Nat.le_max_left 1 OUTS_CNT_W), BitVec.setWidth_eq] at hback
    rw [hback]
    exact BitVec.eq_of_toNat_eq (by simp)
  · intro h
    rw [h]
    exact BitVec.eq_of_toNat_eq (by simp)

/-- Beside a command that is offered, the buffer is active for an odd number of outstanding commands. -/
theorem active_eq (hW : 0 < OUTS_CNT_W) (h0 : IsReset s) (henv : Environment P inp s) (t : ℕ) :
    icbBufferActive (run P inp s t) (inp t) = true ↔
      (inp t).iIcbCmdValid = true ∨ outstanding P inp s t % 2 = 1 := by
  have hle := delivered_le h0 henv t
  have hcnt := @outsCntR_eq _ _ _ _ _ _ P inp s hW h0 t
  rw [icbBufferActive, Bool.or_eq_true, Bool.not_eq_true', Bool.eq_false_iff, ne_eq, outsCntIs0_iff,
    hcnt, outstanding]
  refine or_congr_right ?_
  rw [← BitVec.toNat_inj, BitVec.toNat_ofNat]
  change ¬_ % 2 = 0 ↔ _
  omega

/-- In every cycle of every run: the buffer is active when a command is offered or some accepted command
has not delivered its response, exactly if a command is offered or the number of these is zero or odd. -/
theorem active_iff (hW : 0 < OUTS_CNT_W) (h0 : IsReset s) (henv : Environment P inp s) (t : ℕ) :
    ((inp t).iIcbCmdValid = true ∨ 0 < outstanding P inp s t →
      icbBufferActive (run P inp s t) (inp t) = true) ↔
    (inp t).iIcbCmdValid = true ∨ outstanding P inp s t = 0 ∨ outstanding P inp s t % 2 = 1 := by
  rw [active_eq hW h0 henv t]
  constructor
  · intro h
    by_cases hv : (inp t).iIcbCmdValid = true
    · exact .inl hv
    · by_cases hout : 0 < outstanding P inp s t
      · exact .inr (.inr ((h (.inr hout)).resolve_left hv))
      · exact .inr (.inl (Nat.eq_zero_of_not_pos hout))
  · rintro (hv | hzero | hodd) h
    · exact .inl hv
    · exact .inl (h.resolve_right (by omega))
    · exact .inr hodd

/-! Reads in the first cycles, which are not answered, at a buffer without entries whose count has a
register of two bits. -/

def reads (n t : ℕ) : In 32 32 1 where
  iIcbCmdValid := t < n
  iIcbCmd := ⟨1#1, 16#32, 0#32, 0#4, 0#2, 0#2, 0#1, 0#1, 2#2, 0#1⟩
  iIcbRspReady := true
  oIcbCmdReady := true
  oIcbRspValid := false
  oIcbRsp := ⟨0#1, 0#1, 0#32, 0#1⟩

def twoReads : ℕ → In 32 32 1 := reads 2

def passThrough : State 2 0 0 32 32 1 := ⟨Fifo.reset 0 _, Fifo.reset 0 _, 0#2⟩

theorem passThrough_isReset : IsReset passThrough :=
  ⟨fun h => absurd h (Nat.lt_irrefl 0), fun h => absurd h (Nat.lt_irrefl 0), rfl⟩

theorem environment_reads (n : ℕ) : Environment ⟨true, true⟩ (reads n) passThrough := by
  intro t
  have hnone : answeredAt ⟨true, true⟩ (reads n) passThrough = fun _ => [] := rfl
  rw [hnone, Lib.emitted, List.flatMap_eq_nil_iff.mpr fun _ _ => rfl]
  exact Nat.zero_le _

theorem accepted_twoReads_le (t : ℕ) :
    (Lib.emitted (acceptedAt ⟨true, true⟩ twoReads passThrough) 0 t).length ≤ 2 := by
  induction t with
  | zero => decide
  | succ t ih =>
    obtain rfl | rfl | hle : t = 0 ∨ t = 1 ∨ 2 ≤ t := by omega
    · decide
    · decide
    · have hoff : (twoReads t).iIcbCmdValid = false := decide_eq_false (Nat.not_lt_of_le hle)
      have hnone : acceptedAt ⟨true, true⟩ twoReads passThrough t = [] := by
        rw [acceptedAt, accepted, hoff]
        rfl
      rw [Lib.emitted_succ (Nat.zero_le t), hnone, List.append_nil]
      exact ih

/-- With three reads outstanding and no command offered the buffer is active. -/
theorem active_iff_threeReads :
    (reads 3 3).iIcbCmdValid = false ∧ outstanding ⟨true, true⟩ (reads 3) passThrough 3 = 3 ∧
      icbBufferActive (run ⟨true, true⟩ (reads 3) passThrough 3) (reads 3 3) = true :=
  ⟨by decide, by decide,
    (active_iff (by decide) passThrough_isReset (environment_reads 3) 3).mpr (.inr (.inr (by decide)))
      (.inr (by decide))⟩

/-- With two outstanding it is not. -/
theorem inactive_with_two_outstanding :
    ¬∀ (OUTS_CNT_W CMD_DP RSP_DP AW DW USR_W : ℕ) (P : Params) (inp : ℕ → In AW DW USR_W)
      (s : State OUTS_CNT_W CMD_DP RSP_DP AW DW USR_W), 0 < OUTS_CNT_W → IsReset s →
      Environment P inp s → (∀ t, outstanding P inp s t ≤ 2 ^ OUTS_CNT_W - 1) → ∀ t,
      ((inp t).iIcbCmdValid = true ∨ 0 < outstanding P inp s t →
        icbBufferActive (run P inp s t) (inp t) = true) := by
  intro h
  have hbound : ∀ t, outstanding ⟨true, true⟩ twoReads passThrough t ≤ 2 ^ 2 - 1 := fun t =>
    (Nat.sub_le _ _).trans ((accepted_twoReads_le t).trans (by decide))
  have hactive := h 2 0 0 32 32 1 ⟨true, true⟩ twoReads passThrough (by decide) passThrough_isReset
    (environment_reads 2) hbound 2 (.inr (by decide))
  exact absurd hactive (by decide)

end
end IcbBuffer
end E203
