import E203.General.IcbBuffer
import E203.Lib.Merge
import E203.Rtl.GnrlIcb2axi

/-! # The bridge to AXI issues each transaction once, but for reads that wait

The valid signals of the write channels look at the FIFO of the outstanding commands, that of the read
address does not: a read that waits for room in this FIFO is issued in each cycle in which the channel is
ready.

* `arQueued_eq`, `awQueued_eq`, `wQueued_eq`: a cycle on the channels of the commands.
* `rTaken_eq`, `bTaken_eq`: a cycle on those of the responses.
* `Reissues`: a cycle that issues a read and does not accept it.
* `kinds_run`: what the FIFO of the outstanding commands holds.
* `issuesOnce_iff`: over a run.
-/

namespace E203.Icb2axi
set_option autoImplicit false
open Lib (emitted backlog ofSource Passes)

section
variable {AW MW : ℕ}

/-! ## The channels -/

theorem ofArChnl_arChnl (a : AxiAddr AW) : ofArChnl (arChnl a) = a := by
  simp only [ofArChnl, arChnl, IcbBuffer.lower_append, IcbBuffer.upper_append]

theorem ofWChnl_wChnl (w : AxiW MW) : ofWChnl (wChnl w) = w := by
  simp only [ofWChnl, wChnl, IcbBuffer.lower_append, IcbBuffer.upper_append]

theorem ofRChnl_rChnl (r : AxiR MW) : ofRChnl (rChnl r) = r := by
  simp only [ofRChnl, rChnl, IcbBuffer.lower_append, IcbBuffer.upper_append]

variable {AXI_FIFO_DP OUTS : ℕ} (P : Params) (s : State AXI_FIFO_DP OUTS AW MW) (i : In AW MW)

/-! ## The handshakes -/

/-- The command that is accepted, with whether it is a read. -/
def accepted : List (Bool × IcbCmd AW MW) :=
  if i.iIcbCmdValid && iIcbCmdReady P s i then [(i.iIcbCmd.read, i.iIcbCmd)] else []

/-- The response that the master takes, with whether it is that of a read. -/
def delivered : List (Bool × IcbRsp MW) :=
  if iIcbRspValid s i && i.iIcbRspReady then [(iIcbRspRead s, iIcbRsp s i)] else []

/-- In front of the channel buffers. -/
def arQueued : List (AxiAddr AW) := if iAxiArvalid i && iAxiArready P s i then [axiAddr i.iIcbCmd] else []

def awQueued : List (AxiAddr AW) :=
  if iAxiAwvalid P s i && iAxiAwready P s i then [axiAddr i.iIcbCmd] else []

def wQueued : List (AxiW MW) := if iAxiWvalid P s i && iAxiWready P s i then [axiW i.iIcbCmd] else []
def rTaken : List (AxiR MW) := if iAxiRvalid s i && iAxiRready s i then [iAxiR s i] else []
def bTaken : List (BitVec 2) := if iAxiBvalid s i && iAxiBready s i then [iAxiBresp s i] else []

/-- On the AXI ports. -/
def arIssued : List (AxiAddr AW) := if oAxiArvalid s i && i.oAxiArready then [oAxiAr s i] else []
def awIssued : List (AxiAddr AW) := if oAxiAwvalid P s i && i.oAxiAwready then [oAxiAw s i] else []
def wIssued : List (AxiW MW) := if oAxiWvalid P s i && i.oAxiWready then [oAxiW s i] else []
def rAnswered : List (AxiR MW) := if i.oAxiRvalid && oAxiRready P s i then [i.oAxiR] else []
def bAnswered : List (BitVec 2) := if i.oAxiBvalid && oAxiBready P s i then [i.oAxiBresp] else []

/-- A read passes to its channel while the FIFO of the outstanding commands refuses it. -/
def Reissues : Prop :=
  (i.iIcbCmdValid && i.iIcbCmd.read && rwFifoFull P s i && iAxiArready P s i) = true

instance : Decidable (Reissues P s i) := inferInstanceAs (Decidable (_ = _))

/-- The write channels have a handshake with the acceptance of a write. -/
theorem awQueued_eq : awQueued P s i = (ofSource false (accepted P s i)).map axiAddr := by
  have hboth : (iAxiAwvalid P s i && iAxiAwready P s i) =
      (i.iIcbCmdValid && iIcbCmdReady P s i && decide (i.iIcbCmd.read = false)) := by
    rw [iAxiAwvalid, iIcbCmdReady]
    cases i.iIcbCmd.read
    · cases i.iIcbCmdValid <;> cases iAxiAwready P s i <;> cases iAxiWready P s i <;>
        cases rwFifoFull P s i <;> rfl
    · simp
  rw [accepted, Lib.ofSource_ite, awQueued, hboth]
  split <;> rfl

theorem wQueued_eq : wQueued P s i = (ofSource false (accepted P s i)).map axiW := by
  have hboth : (iAxiWvalid P s i && iAxiWready P s i) =
      (i.iIcbCmdValid && iIcbCmdReady P s i && decide (i.iIcbCmd.read = false)) := by
    rw [iAxiWvalid, iIcbCmdReady]
    cases i.iIcbCmd.read
    · cases i.iIcbCmdValid <;> cases iAxiAwready P s i <;> cases iAxiWready P s i <;>
        cases rwFifoFull P s i <;> rfl
    · simp
  rw [accepted, Lib.ofSource_ite, wQueued, hboth]
  split <;> rfl

/-- The channel of the read addresses has one with the acceptance of a read, and when it is reissued. -/
theorem arQueued_eq : arQueued P s i = (ofSource true (accepted P s i)).map axiAddr ++
    if Reissues P s i then [axiAddr i.iIcbCmd] else [] := by
  rw [accepted, Lib.ofSource_ite, arQueued, iAxiArvalid, iIcbCmdReady]
  change _ = _ ++
    if i.iIcbCmdValid && i.iIcbCmd.read && rwFifoFull P s i && iAxiArready P s i then _ else _
  cases i.iIcbCmd.read
  · simp
  · cases i.iIcbCmdValid <;> cases iAxiArready P s i <;> cases rwFifoFull P s i <;> rfl

/-- The response of a read is taken from the one channel, that of a write from the other. -/
theorem rTaken_eq : (rTaken s i).map rspOfR = ofSource true (delivered s i) := by
  rw [rTaken, iAxiRready, delivered, Lib.ofSource_ite, iIcbRspValid, iIcbRsp]
  cases iIcbRspRead s <;> cases iAxiRvalid s i <;> cases iAxiBvalid s i <;> cases i.iIcbRspReady <;> rfl

theorem bTaken_eq : (bTaken s i).map rspOfB = ofSource false (delivered s i) := by
  rw [bTaken, iAxiBready, delivered, Lib.ofSource_ite, iIcbRspValid, iIcbRsp]
  cases iIcbRspRead s <;> cases iAxiRvalid s i <;> cases iAxiBvalid s i <;> cases i.iIcbRspReady <;> rfl

/-! ## The outstanding commands -/

variable {P s i} {kinds : List Bool}

/-- The FIFO says what the oldest command is, and `false` without any. -/
theorem iIcbRspRead_eq (h : s.rwFifo.Has (kinds.map BitVec.ofBool)) :
    iIcbRspRead s = kinds.headD false := by
  cases kinds with
  | nil =>
    have hempty : s.rwFifo.oVld = false := h.oVld_eq
    rw [iIcbRspRead, Fifo.oDat, if_pos rfl, hempty]
    exact BitVec.getLsbD_zero
  | cons k kinds =>
    rw [iIcbRspRead, h.oDat_eq]
    cases k <;> rfl

theorem kinds_step (h : s.rwFifo.Has (kinds.map BitVec.ofBool))
    (hsome : (delivered s i).length ≤ kinds.length) :
    (delivered s i).map Prod.fst <+: kinds ∧
    (step P i s).rwFifo.Has (((kinds ++ (accepted P s i).map Prod.fst).drop
      (delivered s i).length).map BitVec.ofBool) := by
  have hnext := h.step P.fifoCutReady (rwFifoWen P s i) (rwFifoRen s i)
    (BitVec.ofBool i.iIcbCmd.read)
  have hpush : (rwFifoWen P s i && s.rwFifo.iRdy P.fifoCutReady (rwFifoRen s i)) =
      rwFifoWen P s i := by
    rw [rwFifoWen, iIcbCmdReady, rwFifoFull, Bool.not_not]
    generalize s.rwFifo.iRdy P.fifoCutReady (rwFifoRen s i) = rdy
    cases rdy
    · rw [Bool.false_and, Bool.and_false, Bool.and_false]
    · rw [Bool.and_true]
  have hin : (if rwFifoWen P s i then [BitVec.ofBool i.iIcbCmd.read] else []) =
      ((accepted P s i).map Prod.fst).map BitVec.ofBool := by
    rw [accepted, rwFifoWen]
    split <;> rfl
  rw [hpush, hin] at hnext
  have hren : delivered s i = if rwFifoRen s i then [(iIcbRspRead s, iIcbRsp s i)] else [] := rfl
  have hhead := iIcbRspRead_eq h
  rw [hren] at hsome ⊢
  change _ ∧ (s.rwFifo.step _ _ _ _).Has _
  cases hr : rwFifoRen s i with
  | false =>
    rw [hr, if_neg Bool.false_ne_true] at hnext
    rw [if_neg Bool.false_ne_true, List.map_nil, List.length_nil, List.drop_zero, List.map_append]
    exact ⟨List.nil_prefix, hnext⟩
  | true =>
    rw [hr, if_pos rfl] at hnext hsome
    rw [if_pos rfl]
    obtain _ | ⟨k, kinds⟩ := kinds
    · exact absurd hsome (Nat.not_succ_le_zero 0)
    · rw [hhead, List.length_singleton, List.cons_append, List.drop_succ_cons, List.drop_zero,
        List.map_append]
      exact ⟨List.prefix_append [k] kinds, hnext⟩

end
/-! ## Runs -/

section
variable {AXI_FIFO_DP OUTS AW MW : ℕ} (P : Params) (inp : ℕ → In AW MW)
  (s : State AXI_FIFO_DP OUTS AW MW)

def run : ℕ → State AXI_FIFO_DP OUTS AW MW := Lib.stateAt (step P) inp s

def acceptedAt (t : ℕ) : List (Bool × IcbCmd AW MW) := accepted P (run P inp s t) (inp t)
def deliveredAt (t : ℕ) : List (Bool × IcbRsp MW) := delivered (run P inp s t) (inp t)
def arQueuedAt (t : ℕ) : List (AxiAddr AW) := arQueued P (run P inp s t) (inp t)
def awQueuedAt (t : ℕ) : List (AxiAddr AW) := awQueued P (run P inp s t) (inp t)
def wQueuedAt (t : ℕ) : List (AxiW MW) := wQueued P (run P inp s t) (inp t)
def rTakenAt (t : ℕ) : List (AxiR MW) := rTaken (run P inp s t) (inp t)
def bTakenAt (t : ℕ) : List (BitVec 2) := bTaken (run P inp s t) (inp t)
def arIssuedAt (t : ℕ) : List (AxiAddr AW) := arIssued (run P inp s t) (inp t)
def awIssuedAt (t : ℕ) : List (AxiAddr AW) := awIssued P (run P inp s t) (inp t)
def wIssuedAt (t : ℕ) : List (AxiW MW) := wIssued P (run P inp s t) (inp t)
def rAnsweredAt (t : ℕ) : List (AxiR MW) := rAnswered P (run P inp s t) (inp t)
def bAnsweredAt (t : ℕ) : List (BitVec 2) := bAnswered P (run P inp s t) (inp t)
def ReissuesAt (t : ℕ) : Prop := Reissues P (run P inp s t) (inp t)

instance (t : ℕ) : Decidable (ReissuesAt P inp s t) := inferInstanceAs (Decidable (Reissues _ _ _))

/-- What AXI demands of a slave: the response of a write comes after the handshake of its address. -/
def AnswersWrites : Prop := ∀ t, (emitted (bAnsweredAt P inp s) 0 (t + 1)).length ≤
  (emitted (awIssuedAt P inp s) 0 t).length

/-- Before cycle `t` the bridge has issued the address of each accepted read once, and address and data
of each accepted write once, in order; and the responses are those of the commands in order, the ones of
the reads from the one channel and the ones of the writes from the other. -/
structure IssuesOnce (t : ℕ) : Prop where
  ar : emitted (arQueuedAt P inp s) 0 t =
    (ofSource true (emitted (acceptedAt P inp s) 0 t)).map axiAddr
  aw : emitted (awQueuedAt P inp s) 0 t =
    (ofSource false (emitted (acceptedAt P inp s) 0 t)).map axiAddr
  w : emitted (wQueuedAt P inp s) 0 t =
    (ofSource false (emitted (acceptedAt P inp s) 0 t)).map axiW
  arPort : Passes AXI_FIFO_DP (arQueuedAt P inp s) (arIssuedAt P inp s) t
  awPort : Passes AXI_FIFO_DP (awQueuedAt P inp s) (awIssuedAt P inp s) t
  wPort : Passes AXI_FIFO_DP (wQueuedAt P inp s) (wIssuedAt P inp s) t
  rPort : Passes AXI_FIFO_DP (rAnsweredAt P inp s) (rTakenAt P inp s) t
  bPort : Passes AXI_FIFO_DP (bAnsweredAt P inp s) (bTakenAt P inp s) t
  order : (emitted (deliveredAt P inp s) 0 t).map Prod.fst <+:
    (emitted (acceptedAt P inp s) 0 t).map Prod.fst
  r : ofSource true (emitted (deliveredAt P inp s) 0 t) = (emitted (rTakenAt P inp s) 0 t).map rspOfR
  b : ofSource false (emitted (deliveredAt P inp s) 0 t) = (emitted (bTakenAt P inp s) 0 t).map rspOfB

variable {P inp s}

/-! ### The channel buffers -/

theorem passes_ar (h0 : IsReset s) (t : ℕ) :
    Passes AXI_FIFO_DP (arQueuedAt P inp s) (arIssuedAt P inp s) t :=
  FifoDp.passes_of_cycle (fun t => (run P inp s t).arFifo) arChnl h0.arFifo
    (fun t _ h => h.cycle_map ofArChnl_arChnl P.axiFifoCutReady false (iAxiArvalid (inp t))
      (inp t).oAxiArready (axiAddr (inp t).iIcbCmd)) t

theorem passes_aw (h0 : IsReset s) (t : ℕ) :
    Passes AXI_FIFO_DP (awQueuedAt P inp s) (awIssuedAt P inp s) t :=
  FifoDp.passes_of_cycle (fun t => (run P inp s t).awFifo) arChnl h0.awFifo
    (fun t _ h => h.cycle_map ofArChnl_arChnl P.axiFifoCutReady false
      (iAxiAwvalid P (run P inp s t) (inp t)) (inp t).oAxiAwready (axiAddr (inp t).iIcbCmd)) t

theorem passes_w (h0 : IsReset s) (t : ℕ) :
    Passes AXI_FIFO_DP (wQueuedAt P inp s) (wIssuedAt P inp s) t :=
  FifoDp.passes_of_cycle (fun t => (run P inp s t).wdataFifo) wChnl h0.wdataFifo
    (fun t _ h => h.cycle_map ofWChnl_wChnl P.axiFifoCutReady false
      (iAxiWvalid P (run P inp s t) (inp t)) (inp t).oAxiWready (axiW (inp t).iIcbCmd)) t

theorem passes_r (h0 : IsReset s) (t : ℕ) :
    Passes AXI_FIFO_DP (rAnsweredAt P inp s) (rTakenAt P inp s) t :=
  FifoDp.passes_of_cycle (fun t => (run P inp s t).rdataFifo) rChnl h0.rdataFifo
    (fun t _ h => h.cycle_map ofRChnl_rChnl P.axiFifoCutReady false (inp t).oAxiRvalid
      (iAxiRready (run P inp s t) (inp t)) (inp t).oAxiR) t

theorem passes_b (h0 : IsReset s) (t : ℕ) :
    Passes AXI_FIFO_DP (bAnsweredAt P inp s) (bTakenAt P inp s) t :=
  FifoDp.passes_of_cycle (fun t => (run P inp s t).brespFifo) id h0.brespFifo
    (fun t _ h => h.cycle_map (show ∀ x : BitVec 2, id (id x) = x from fun _ => rfl) P.axiFifoCutReady false
      (inp t).oAxiBvalid (iAxiBready (run P inp s t) (inp t)) (inp t).oAxiBresp) t

/-! ### The events of a run -/

theorem emitted_aw (t : ℕ) : emitted (awQueuedAt P inp s) 0 t =
    (ofSource false (emitted (acceptedAt P inp s) 0 t)).map axiAddr := by
  have heq : awQueuedAt P inp s = fun t => (ofSource false (acceptedAt P inp s t)).map axiAddr :=
    funext fun t => awQueued_eq P (run P inp s t) (inp t)
  rw [heq, Lib.emitted_map, Lib.emitted_ofSource]

theorem emitted_w (t : ℕ) : emitted (wQueuedAt P inp s) 0 t =
    (ofSource false (emitted (acceptedAt P inp s) 0 t)).map axiW := by
  have heq : wQueuedAt P inp s = fun t => (ofSource false (acceptedAt P inp s t)).map axiW :=
    funext fun t => wQueued_eq P (run P inp s t) (inp t)
  rw [heq, Lib.emitted_map, Lib.emitted_ofSource]

theorem emitted_r (t : ℕ) : ofSource true (emitted (deliveredAt P inp s) 0 t) =
    (emitted (rTakenAt P inp s) 0 t).map rspOfR := by
  have heq : (fun t => ofSource true (deliveredAt P inp s t)) = fun t => (rTakenAt P inp s t).map rspOfR :=
    funext fun t => (rTaken_eq (run P inp s t) (inp t)).symm
  rw [← Lib.emitted_map, ← heq, Lib.emitted_ofSource]

theorem emitted_b (t : ℕ) : ofSource false (emitted (deliveredAt P inp s) 0 t) =
    (emitted (bTakenAt P inp s) 0 t).map rspOfB := by
  have heq : (fun t => ofSource false (deliveredAt P inp s t)) = fun t => (bTakenAt P inp s t).map rspOfB :=
    funext fun t => (bTaken_eq (run P inp s t) (inp t)).symm
  rw [← Lib.emitted_map, ← heq, Lib.emitted_ofSource]

/-! ### The outstanding commands -/

/-- Whether the commands that await their response are reads, the oldest first. -/
def kinds (P : Params) (inp : ℕ → In AW MW) (s : State AXI_FIFO_DP OUTS AW MW) : ℕ → List Bool :=
  backlog (fun t => (acceptedAt P inp s t).map Prod.fst) (deliveredAt P inp s)

def Accounts (P : Params) (inp : ℕ → In AW MW) (s : State AXI_FIFO_DP OUTS AW MW) (t : ℕ) : Prop :=
  (emitted (acceptedAt P inp s) 0 t).map Prod.fst =
    (emitted (deliveredAt P inp s) 0 t).map Prod.fst ++ kinds P inp s t

/-- A response is for an outstanding command: without any, it could only be that of a write, and the slave
would have answered more writes than were issued. -/
theorem delivered_le (h0 : IsReset s) (henv : AnswersWrites P inp s) {t : ℕ}
    (hhas : (run P inp s t).rwFifo.Has ((kinds P inp s t).map BitVec.ofBool))
    (hacc : Accounts P inp s t) : (deliveredAt P inp s t).length ≤ (kinds P inp s t).length := by
  have hread := iIcbRspRead_eq hhas
  rw [Accounts] at hacc
  generalize kinds P inp s t = pend at hread hacc ⊢
  have hdel : deliveredAt P inp s t = if rwFifoRen (run P inp s t) (inp t) then
      [(iIcbRspRead (run P inp s t), iIcbRsp (run P inp s t) (inp t))] else [] := rfl
  obtain _ | ⟨k, pend⟩ := pend
  · rw [hread] at hdel
    cases hr : rwFifoRen (run P inp s t) (inp t) with
    | false =>
      rw [hdel, hr]
      exact Nat.le_refl 0
    | true =>
      exfalso
      rw [hr, if_pos rfl] at hdel
      have hone : (bTakenAt P inp s t).length = 1 := by
        have hb := bTaken_eq (run P inp s t) (inp t)
        change _ = ofSource false (deliveredAt P inp s t) at hb
        rw [hdel] at hb
        have hlen := congrArg List.length hb
        rw [List.length_map] at hlen
        exact hlen
      have hall : (emitted (awQueuedAt P inp s) 0 t).length =
          (emitted (bTakenAt P inp s) 0 t).length := by
        have hb := congrArg List.length (@emitted_b _ _ _ _ P inp s t)
        rw [List.length_map, Lib.length_ofSource] at hb
        rw [emitted_aw, List.length_map, Lib.length_ofSource, hacc, List.append_nil, hb]
      have hpass := (@passes_b _ _ _ _ P inp s h0 (t + 1)).length_le
      have hissue := (@passes_aw _ _ _ _ P inp s h0 t).length_le
      have hlate := henv t
      rw [Lib.emitted_succ (Nat.zero_le t), List.length_append, hone] at hpass
      omega
  · rw [hdel, List.length_cons]
    split
    · exact Nat.succ_le_succ (Nat.zero_le _)
    · exact Nat.zero_le _

theorem kinds_run (hOUTS : 0 < OUTS) (h0 : IsReset s) (henv : AnswersWrites P inp s) (t : ℕ) :
    (run P inp s t).rwFifo.Has ((kinds P inp s t).map BitVec.ofBool) ∧ Accounts P inp s t := by
  induction t with
  | zero => exact ⟨Fifo.Has.of_reset hOUTS h0.rwFifo, rfl⟩
  | succ t ih =>
    obtain ⟨hhas, hacc⟩ := ih
    have hle := delivered_le h0 henv hhas hacc
    obtain ⟨hpre, hnext⟩ := kinds_step (P := P) hhas hle
    have hsucc : kinds P inp s (t + 1) = (kinds P inp s t ++
        (acceptedAt P inp s t).map Prod.fst).drop (deliveredAt P inp s t).length := by
      apply Lib.backlog_succ
      have hlen := congrArg List.length hacc
      rw [List.length_append, List.length_map, List.length_map] at hlen
      rw [Lib.emitted_map, List.length_map]
      omega
    refine ⟨?_, ?_⟩
    · rw [hsucc]
      exact hnext
    · obtain ⟨rest, hrest⟩ := hpre
      rw [Accounts, hsucc, Lib.emitted_succ (Nat.zero_le t), Lib.emitted_succ (Nat.zero_le t),
        List.map_append, List.map_append, hacc, List.append_assoc, List.append_assoc]
      congr 1
      change (deliveredAt P inp s t).map Prod.fst ++ rest = _ at hrest
      have hdrop : (kinds P inp s t ++ (acceptedAt P inp s t).map Prod.fst).drop
          (deliveredAt P inp s t).length = rest ++ (acceptedAt P inp s t).map Prod.fst := by
        rw [← hrest, List.append_assoc]
        exact List.drop_left' (List.length_map _)
      rw [hdrop, ← List.append_assoc, hrest]

/-! ### Reads -/

/-- Without reissued reads the channel gets the accepted ones; each reissued one is one too many. -/
theorem emitted_ar_length (t : ℕ) : (emitted (arQueuedAt P inp s) 0 t).length =
    (ofSource true (emitted (acceptedAt P inp s) 0 t)).length +
      ((List.range t).filter fun u => decide (ReissuesAt P inp s u)).length := by
  induction t with
  | zero => rfl
  | succ t ih =>
    have hcycle := arQueued_eq P (run P inp s t) (inp t)
    change arQueuedAt P inp s t = (ofSource true (acceptedAt P inp s t)).map axiAddr ++
      if ReissuesAt P inp s t then _ else _ at hcycle
    rw [Lib.emitted_succ (Nat.zero_le t), Lib.emitted_succ (Nat.zero_le t), Lib.ofSource_append,
      List.length_append, List.length_append, ih, hcycle, List.length_append, List.length_map,
      List.range_succ, List.filter_append, List.length_append, List.filter_singleton]
    by_cases hre : ReissuesAt P inp s t
    · rw [if_pos hre, decide_eq_true hre]
      simp only [List.length_singleton, cond_true]
      omega
    · rw [if_neg hre, decide_eq_false hre]
      simp only [List.length_nil, cond_false]
      omega

theorem emitted_ar (hno : ∀ t, ¬ReissuesAt P inp s t) (t : ℕ) : emitted (arQueuedAt P inp s) 0 t =
    (ofSource true (emitted (acceptedAt P inp s) 0 t)).map axiAddr := by
  have heq : arQueuedAt P inp s = fun t => (ofSource true (acceptedAt P inp s t)).map axiAddr := by
    funext t
    have hcycle := arQueued_eq P (run P inp s t) (inp t)
    have hnot : ¬Reissues P (run P inp s t) (inp t) := hno t
    rw [if_neg hnot, List.append_nil] at hcycle
    exact hcycle
  rw [heq, Lib.emitted_map, Lib.emitted_ofSource]

/-- For an AXI slave whose write responses come after the address handshake: at all times each accepted
command has been issued once, with its address and data, and the responses are those of the commands in
order, exactly if no read is offered, while the FIFO of the outstanding commands is full, to a channel
that takes it. -/
theorem issuesOnce_iff (hOUTS : 0 < OUTS) (h0 : IsReset s) (henv : AnswersWrites P inp s) :
    (∀ t, IssuesOnce P inp s t) ↔ ∀ t, ¬ReissuesAt P inp s t := by
  constructor
  · intro h t hre
    have hlen := congrArg List.length (h (t + 1)).ar
    rw [emitted_ar_length, List.length_map, List.range_succ, List.filter_append, List.length_append,
      List.filter_singleton, decide_eq_true hre] at hlen
    simp only [cond_true, List.length_singleton] at hlen
    omega
  · intro hno t
    refine ⟨emitted_ar hno t, emitted_aw t, emitted_w t, passes_ar h0 t, passes_aw h0 t, passes_w h0 t,
      passes_r h0 t, passes_b h0 t, ?_, emitted_r t, emitted_b t⟩
    rw [(kinds_run hOUTS h0 henv t).2]
    exact List.prefix_append _ _

/-! Without channel buffers and for one outstanding command: a write and a read that are answered, and a
read that is offered all the time and not answered. -/

def passThrough : State 0 1 32 4 :=
  ⟨Fifo.reset 0 _, Fifo.reset 0 _, Fifo.reset 0 _, Fifo.reset 0 _, Fifo.reset 0 _, Fifo.reset 1 1⟩

theorem passThrough_isReset : IsReset passThrough :=
  ⟨fun h => absurd h (Nat.lt_irrefl 0), fun h => absurd h (Nat.lt_irrefl 0),
    fun h => absurd h (Nat.lt_irrefl 0), fun h => absurd h (Nat.lt_irrefl 0),
    fun h => absurd h (Nat.lt_irrefl 0), ⟨rfl, rfl, rfl⟩⟩

def writeThenRead (t : ℕ) : In 32 4 where
  iIcbCmdValid := t == 0 || t == 2
  iIcbCmd := ⟨t != 0, 16#32, 7#32, 15#4⟩
  iIcbRspReady := true
  oAxiArready := true
  oAxiAwready := true
  oAxiWready := true
  oAxiRvalid := t == 4
  oAxiR := ⟨9#32, 0#2, 1#1⟩
  oAxiBvalid := t == 1
  oAxiBresp := 0#2

def waitingRead (_ : ℕ) : In 32 4 where
  iIcbCmdValid := true
  iIcbCmd := ⟨true, 16#32, 0#32, 0#4⟩
  iIcbRspReady := true
  oAxiArready := true
  oAxiAwready := true
  oAxiWready := true
  oAxiRvalid := false
  oAxiR := ⟨0#32, 0#2, 1#1⟩
  oAxiBvalid := false
  oAxiBresp := 0#2

theorem emitted_writeThenRead (t : ℕ) :
    (emitted (bAnsweredAt ⟨true, true⟩ writeThenRead passThrough) 0 (t + 2)).length = 1 ∧
    1 ≤ (emitted (awIssuedAt ⟨true, true⟩ writeThenRead passThrough) 0 (t + 1)).length := by
  induction t with
  | zero => decide
  | succ t ih =>
    have hb : bAnsweredAt ⟨true, true⟩ writeThenRead passThrough (t + 2) = [] := rfl
    rw [@Lib.emitted_succ _ (bAnsweredAt ⟨true, true⟩ writeThenRead passThrough) 0 (t + 2) (Nat.zero_le _),
      @Lib.emitted_succ _ (awIssuedAt ⟨true, true⟩ writeThenRead passThrough) 0 (t + 1) (Nat.zero_le _), hb,
      List.append_nil, List.length_append]
    exact ⟨ih.1, by omega⟩

theorem answersWrites_writeThenRead : AnswersWrites ⟨true, true⟩ writeThenRead passThrough
  | 0 => by decide
  | t + 1 => by
    rw [(emitted_writeThenRead t).1]
    exact (emitted_writeThenRead t).2

theorem issuesOnce_iff_writeThenRead :
    (emitted (awIssuedAt ⟨true, true⟩ writeThenRead passThrough) 0 6).length = 1 ∧
      (emitted (arIssuedAt ⟨true, true⟩ writeThenRead passThrough) 0 6).length = 1 ∧
      IssuesOnce ⟨true, true⟩ writeThenRead passThrough 6 := by
  refine ⟨by decide, by decide,
    (issuesOnce_iff (by decide) passThrough_isReset answersWrites_writeThenRead).mpr (fun t hre => ?_) 6⟩
  have hvalid : (writeThenRead t).iIcbCmdValid = true := by
    by_contra hno
    rw [ReissuesAt, Reissues, Bool.eq_false_iff.mpr hno] at hre
    cases hre
  obtain rfl | rfl : t = 0 ∨ t = 2 := by simpa [writeThenRead] using hvalid
  · exact absurd hre (by decide)
  · exact absurd hre (by decide)

/-- The read is issued in every cycle, but accepted once. -/
theorem issues_waiting_read_again :
    ¬∀ (AXI_FIFO_DP OUTS AW MW : ℕ) (P : Params) (inp : ℕ → In AW MW)
      (s : State AXI_FIFO_DP OUTS AW MW), 0 < OUTS → IsReset s → AnswersWrites P inp s → ∀ t,
      (emitted (arIssuedAt P inp s) 0 t).length ≤
        (ofSource true (emitted (acceptedAt P inp s) 0 t)).length + 1 := by
  intro h
  have hnone : AnswersWrites ⟨true, true⟩ waitingRead passThrough := by
    intro t
    have hb : bAnsweredAt ⟨true, true⟩ waitingRead passThrough = fun _ => [] := rfl
    rw [hb, emitted, List.flatMap_eq_nil_iff.mpr fun _ _ => rfl]
    exact Nat.zero_le _
  exact absurd (h 0 1 32 4 ⟨true, true⟩ waitingRead passThrough (by decide) passThrough_isReset hnone 3)
    (by decide)

end
end E203.Icb2axi
