import E203.General.Rspid
import E203.Lib.ByteMem
import E203.Lib.Linear
import E203.Rtl.GnrlN2w

/-! # The width converter is a window to the wide memory

The FIFO holds the lane selects of the outstanding commands, so that each response takes its half from
the command that it answers.

* `has_lanes`: what the FIFO holds over a run.
* `iIcbRsp_eq`: the response for the oldest outstanding command.
* `roundTrips`: over a run.
-/

namespace E203.GnrlN2w
set_option autoImplicit false
open Lib (ByteMem)

/-! ## The two memories -/

section
variable {AW USR_W : ℕ}

/-- A command accesses the aligned bytes that its address is in. -/
def base (MW : ℕ) (addr : BitVec AW) : ℕ := MW * (addr.toNat / MW)

def wide : Lib.Object ByteMem (GnrlIcbCmd AW 64 USR_W) (GnrlIcbRsp 64 USR_W) where
  exec c m := if c.read = 1#1 then m else @ByteMem.store 8 m (base 8 c.addr) c.wmask c.wdata
  answer c m r := c.read = 1#1 → r.rdata = m.load 8 (base 8 c.addr)

/-- What the master sees. -/
def narrow : Lib.Object ByteMem (GnrlIcbCmd AW 32 USR_W) (GnrlIcbRsp 32 USR_W) where
  exec c m := if c.read = 1#1 then m else @ByteMem.store 4 m (base 4 c.addr) c.wmask c.wdata
  answer c m r := c.read = 1#1 → r.rdata = m.load 4 (base 4 c.addr)

/-- A response of the slave to the command `c`, as the master gets it. -/
def narrowRsp (c : GnrlIcbCmd AW 32 USR_W) (r : GnrlIcbRsp 64 USR_W) : GnrlIcbRsp 32 USR_W where
  err := r.err
  exclOk := r.exclOk
  rdata := if cmdYLoHi c = 1#1 then r.rdata.extractLsb' 32 32 else r.rdata.extractLsb' 0 32
  usr := r.usr

theorem cmdYLoHi_iff (c : GnrlIcbCmd AW 32 USR_W) : cmdYLoHi c = 1#1 ↔ c.addr.getLsbD 2 = true := by
  have hbit : (cmdYLoHi c).getLsbD 0 = c.addr.getLsbD 2 := by
    rw [cmdYLoHi, BitVec.getLsbD_extractLsb']
    rfl
  rw [← hbit]
  generalize cmdYLoHi c = x
  revert x
  decide

/-- A write through the converter changes the enabled ones of the four bytes. -/
theorem exec_oIcbCmd (c : GnrlIcbCmd AW 32 USR_W) (m : ByteMem) :
    wide.exec (oIcbCmd c) m = narrow.exec c m := by
  change (if c.read = 1#1 then m else _) = if c.read = 1#1 then m else _
  by_cases hread : c.read = 1#1
  · rw [if_pos hread, if_pos hread]
  · have hhalf : base 4 c.addr = base 8 c.addr + 4 * (c.addr.getLsbD 2).toNat :=
      ByteMem.half_base c.addr
    rw [if_neg hread, if_neg hread, hhalf]
    simp only [oIcbCmd, cmdYLoHi_iff]
    exact ByteMem.store_half (c.addr.getLsbD 2) c.wmask c.wdata

theorem answer_narrowRsp (c : GnrlIcbCmd AW 32 USR_W) (m : ByteMem) (r : GnrlIcbRsp 64 USR_W)
    (h : wide.answer (oIcbCmd c) m r) : narrow.answer c m (narrowRsp c r) := by
  intro hread
  have hdata : r.rdata = m.load 8 (base 8 c.addr) := h hread
  have hhalf : base 4 c.addr = base 8 c.addr + 4 * (c.addr.getLsbD 2).toNat :=
    ByteMem.half_base c.addr
  rw [hhalf, ← ByteMem.load_half]
  simp only [narrowRsp, cmdYLoHi_iff, hdata]

end
/-! ## A cycle -/

section
variable {AW USR_W OUTS : ℕ} {cutReady : Bool} {s : RspidFifo OUTS 1} {i : In AW USR_W}

/-- The command that is accepted, and the one that the slave accepts. -/
def accepted (cutReady : Bool) (s : RspidFifo OUTS 1) (i : In AW USR_W) :
    List (GnrlIcbCmd AW 32 USR_W) :=
  if i.iIcbCmdValid && iIcbCmdReady cutReady s i then [i.iIcbCmd] else []

def issued (cutReady : Bool) (s : RspidFifo OUTS 1) (i : In AW USR_W) :
    List (GnrlIcbCmd AW 64 USR_W) :=
  if oIcbCmdValid cutReady s i && i.oIcbCmdReady then [oIcbCmd i.iIcbCmd] else []

/-- The response of the slave, and that of the converter. -/
def answered (i : In AW USR_W) : List (GnrlIcbRsp 64 USR_W) :=
  if i.oIcbRspValid && oIcbRspReady i then [i.oIcbRsp] else []

def delivered (s : RspidFifo OUTS 1) (i : In AW USR_W) : List (GnrlIcbRsp 32 USR_W) :=
  if iIcbRspValid i && i.iIcbRspReady then [iIcbRsp s i.oIcbRsp] else []

/-- Both sides of the converter see the same commands. -/
theorem issued_eq (cutReady : Bool) (s : RspidFifo OUTS 1) (i : In AW USR_W) :
    issued cutReady s i = (accepted cutReady s i).map oIcbCmd := by
  have hboth : (oIcbCmdValid cutReady s i && i.oIcbCmdReady) =
      (i.iIcbCmdValid && iIcbCmdReady cutReady s i) := by
    rw [oIcbCmdValid, iIcbCmdReady, Bool.and_assoc, Bool.and_left_comm]
  rw [issued, accepted, hboth]
  split <;> rfl

variable {cmds : List (GnrlIcbCmd AW 32 USR_W)}

/-- A response takes the half that its command selects. -/
theorem iIcbRsp_eq {c : GnrlIcbCmd AW 32 USR_W} (h : s.Has ((c :: cmds).map cmdYLoHi))
    (r : GnrlIcbRsp 64 USR_W) : iIcbRsp s r = narrowRsp c r := by
  rw [iIcbRsp, rspYLoHi, h.oDat_eq]
  rfl

theorem has_step (h : s.Has (cmds.map cmdYLoHi)) (hans : (answered i).length ≤ cmds.length) :
    (step cutReady i s).Has
      (((cmds ++ accepted cutReady s i).drop (answered i).length).map cmdYLoHi) := by
  have hnext := h.step cutReady (n2wFifoWen cutReady s i) (n2wFifoRen i) (cmdYLoHi i.iIcbCmd)
  have hpush : (n2wFifoWen cutReady s i && s.iRdy cutReady (n2wFifoRen i)) =
      n2wFifoWen cutReady s i := by
    rw [n2wFifoWen, iIcbCmdReady, n2wFifoFull, Bool.not_not]
    generalize s.iRdy cutReady (n2wFifoRen i) = rdy
    cases rdy
    · rw [Bool.false_and, Bool.and_false, Bool.and_false]
    · rw [Bool.and_true]
  have hin : (if n2wFifoWen cutReady s i then [cmdYLoHi i.iIcbCmd] else []) =
      (accepted cutReady s i).map cmdYLoHi := by
    rw [accepted, n2wFifoWen]
    split <;> rfl
  rw [hpush, hin] at hnext
  change (s.step _ _ _ _).Has _
  have hren : answered i = if n2wFifoRen i then [i.oIcbRsp] else [] := rfl
  rw [hren] at hans ⊢
  cases hr : n2wFifoRen i with
  | false =>
    rw [hr] at hnext
    rw [if_neg Bool.false_ne_true] at hnext ⊢
    rw [List.length_nil, List.drop_zero, List.map_append]
    exact hnext
  | true =>
    rw [hr] at hnext hans
    rw [if_pos rfl] at hnext hans ⊢
    obtain _ | ⟨c, cmds⟩ := cmds
    · exact absurd hans (Nat.not_succ_le_zero 0)
    · rw [List.length_singleton, List.cons_append, List.drop_succ_cons, List.drop_zero, List.map_append]
      exact hnext

end
/-! ## Runs -/

section
variable {AW USR_W OUTS : ℕ} (cutReady : Bool) (inp : ℕ → In AW USR_W) (s : RspidFifo OUTS 1)

def run : ℕ → RspidFifo OUTS 1 := Lib.stateAt (step cutReady) inp s

def acceptedAt (t : ℕ) : List (GnrlIcbCmd AW 32 USR_W) := accepted cutReady (run cutReady inp s t) (inp t)
def issuedAt (t : ℕ) : List (GnrlIcbCmd AW 64 USR_W) := issued cutReady (run cutReady inp s t) (inp t)
def answeredAt (t : ℕ) : List (GnrlIcbRsp 64 USR_W) := answered (inp t)
def deliveredAt (t : ℕ) : List (GnrlIcbRsp 32 USR_W) := delivered (run cutReady inp s t) (inp t)

/-- The slave responds to commands that it has accepted, at the earliest in that cycle. -/
def Ordered : Prop := ∀ t, (Lib.emitted (answeredAt inp) 0 t).length ≤
  (Lib.emitted (issuedAt cutReady inp s) 0 t).length

/-- The slave responds to commands that it has accepted in earlier cycles. -/
def Delayed : Prop := ∀ t, (Lib.emitted (answeredAt inp) 0 (t + 1)).length ≤
  (Lib.emitted (issuedAt cutReady inp s) 0 t).length

variable {cutReady inp s}

theorem emitted_issuedAt (t : ℕ) : Lib.emitted (issuedAt cutReady inp s) 0 t =
    (Lib.emitted (acceptedAt cutReady inp s) 0 t).map oIcbCmd := by
  have heq : issuedAt cutReady inp s = fun t => (acceptedAt cutReady inp s t).map oIcbCmd :=
    funext fun t => issued_eq cutReady (run cutReady inp s t) (inp t)
  rw [heq, Lib.emitted_map]

/-- There is an outstanding command for each response. -/
theorem Delayed.answered_le (h : Delayed cutReady inp s) (t : ℕ) :
    (answeredAt inp t).length ≤
      (Lib.backlog (acceptedAt cutReady inp s) (answeredAt inp) t).length := by
  have ht := h t
  rw [emitted_issuedAt, List.length_map, Lib.emitted_succ (Nat.zero_le t), List.length_append] at ht
  rw [Lib.backlog, List.length_drop]
  omega

/-- The FIFO holds the lane selects of the outstanding commands. -/
theorem has_lanes (h0 : s.IsReset) (hdelay : Delayed cutReady inp s) (t : ℕ) :
    (run cutReady inp s t).Has
      ((Lib.backlog (acceptedAt cutReady inp s) (answeredAt inp) t).map cmdYLoHi) := by
  induction t with
  | zero => exact .of_reset h0
  | succ t ih =>
    have hle := hdelay t
    rw [emitted_issuedAt, List.length_map, Lib.emitted_succ (Nat.zero_le t), List.length_append] at hle
    rw [Lib.backlog_succ (by omega)]
    exact has_step ih (hdelay.answered_le t)

theorem delivered_eq (h0 : s.IsReset) (hdelay : Delayed cutReady inp s) (t : ℕ) :
    deliveredAt cutReady inp s t = List.zipWith narrowRsp
      (Lib.backlog (acceptedAt cutReady inp s) (answeredAt inp) t) (answeredAt inp t) := by
  have hlanes := has_lanes h0 hdelay t
  have hans := hdelay.answered_le t
  generalize Lib.backlog (acceptedAt cutReady inp s) (answeredAt inp) t = cmds at hlanes hans ⊢
  have hren : answeredAt inp t = if n2wFifoRen (inp t) then [(inp t).oIcbRsp] else [] := rfl
  have hdel : deliveredAt cutReady inp s t =
      if n2wFifoRen (inp t) then [iIcbRsp (run cutReady inp s t) (inp t).oIcbRsp] else [] := rfl
  rw [hdel, hren]
  rw [hren] at hans
  cases hr : n2wFifoRen (inp t) with
  | false => exact List.zipWith_nil_right.symm
  | true =>
    rw [hr, if_pos rfl] at hans
    rw [if_pos rfl, if_pos rfl]
    obtain _ | ⟨c, cmds⟩ := cmds
    · exact absurd hans (Nat.not_succ_le_zero 0)
    · rw [List.zipWith_cons_cons, List.zipWith_nil_right, iIcbRsp_eq hlanes]

/-- For a slave that responds in order and later than it accepts: it sees the commands that are accepted,
widened, and each of its responses is delivered with the half that its own command selects.  So when the
slave is a memory of eight-byte words, the master sees a memory of four-byte words, with the same bytes. -/
theorem roundTrips (h0 : s.IsReset) (hdelay : Delayed cutReady inp s) (t : ℕ) :
    Lib.emitted (issuedAt cutReady inp s) 0 t =
      (Lib.emitted (acceptedAt cutReady inp s) 0 t).map oIcbCmd ∧
    Lib.emitted (deliveredAt cutReady inp s) 0 t = List.zipWith narrowRsp
      (Lib.emitted (acceptedAt cutReady inp s) 0 t) (Lib.emitted (answeredAt inp) 0 t) ∧
    ∀ m m' pend, Lib.Serves wide m (Lib.emitted (issuedAt cutReady inp s) 0 t)
        (Lib.emitted (answeredAt inp) 0 t) m' pend →
      ∃ pend', pend = pend'.map oIcbCmd ∧
        Lib.Serves narrow m (Lib.emitted (acceptedAt cutReady inp s) 0 t)
          (Lib.emitted (deliveredAt cutReady inp s) 0 t) m' pend' := by
  have hzip := (Lib.emitted_zipWith hdelay.answered_le (delivered_eq h0 hdelay) t).2
  refine ⟨emitted_issuedAt t, hzip, fun m m' pend hserved => ?_⟩
  rw [emitted_issuedAt] at hserved
  rw [hzip]
  exact hserved.convert exec_oIcbCmd answer_narrowRsp

/-! A read of address 4, of a memory whose bytes are their own addresses. -/

def readFour : GnrlIcbCmd 32 32 1 := ⟨1#1, 4#32, 0#32, 0#4, 0#2, 0#2, 0#1, 0#1, 2#2, 0#1⟩
def wordZero : GnrlIcbRsp 64 1 := ⟨0#1, 0#1, 0x0706050403020100#64, 0#1⟩
def ownAddress : ByteMem := BitVec.ofNat 8
def idle : RspidFifo 1 1 := .dp1 ⟨false, 0#1⟩

theorem idle_isReset : idle.IsReset := ⟨rfl, rfl⟩

/-- Its response comes in the cycle `d`. -/
def readsFour (d t : ℕ) : In 32 1 where
  iIcbCmdValid := t == 0
  iIcbCmd := readFour
  iIcbRspReady := true
  oIcbCmdReady := true
  oIcbRspValid := t == d
  oIcbRsp := wordZero

theorem readsFour_late (d t : ℕ) (hd : d ≤ 1) : answeredAt (readsFour d) (t + 2) = [] ∧
    issuedAt false (readsFour d) idle (t + 1) = [] := by
  have hans : (t + 2 == d) = false := beq_false_of_ne (by omega)
  constructor
  · rw [answeredAt, answered, readsFour, hans]
    rfl
  · rw [issuedAt, issued, oIcbCmdValid, readsFour]
    simp

theorem emitted_readsFour (d t : ℕ) (hd : d ≤ 1) :
    (Lib.emitted (answeredAt (readsFour d)) 0 (t + 2)).length = 1 ∧
    (Lib.emitted (issuedAt false (readsFour d) idle) 0 (t + 1)).length = 1 := by
  induction t with
  | zero =>
    obtain rfl | rfl : d = 0 ∨ d = 1 := by omega
    · decide
    · decide
  | succ t ih =>
    obtain ⟨hans, hiss⟩ := readsFour_late d t hd
    rw [@Lib.emitted_succ _ (answeredAt (readsFour d)) 0 (t + 2) (Nat.zero_le _),
      @Lib.emitted_succ _ (issuedAt false (readsFour d) idle) 0 (t + 1) (Nat.zero_le _), hans, hiss,
      List.append_nil, List.append_nil]
    exact ih

theorem delayed_readsFour : Delayed false (readsFour 1) idle
  | 0 => by decide
  | t + 1 => by
    rw [(emitted_readsFour 1 t (by decide)).1, (emitted_readsFour 1 t (by decide)).2]

theorem ordered_readsFour : Ordered false (readsFour 0) idle
  | 0 => by decide
  | 1 => by decide
  | t + 2 => by
    rw [(emitted_readsFour 0 t (by decide)).1, (emitted_readsFour 0 (t + 1) (by decide)).2]

theorem serves_readsFour (d : ℕ) (hd : d ≤ 1) : Lib.Serves wide ownAddress
    (Lib.emitted (issuedAt false (readsFour d) idle) 0 2) (Lib.emitted (answeredAt (readsFour d)) 0 2)
    ownAddress [] := by
  have hiss : Lib.emitted (issuedAt false (readsFour d) idle) 0 2 = [oIcbCmd readFour] := by
    obtain rfl | rfl : d = 0 ∨ d = 1 := by omega
    · decide
    · decide
  have hans : Lib.emitted (answeredAt (readsFour d)) 0 2 = [wordZero] := by
    obtain rfl | rfl : d = 0 ∨ d = 1 := by omega
    · decide
    · decide
  rw [hiss, hans]
  exact .serve (fun _ => by decide) (.done _ _)

/-- Answered in the next cycle. -/
theorem roundTrips_readFour : ∃ pend', [] = pend'.map oIcbCmd ∧
    Lib.Serves narrow ownAddress (Lib.emitted (acceptedAt false (readsFour 1) idle) 0 2)
      (Lib.emitted (deliveredAt false (readsFour 1) idle) 0 2) ownAddress pend' :=
  (roundTrips idle_isReset delayed_readsFour 2).2.2 ownAddress ownAddress []
    (serves_readsFour 1 (by decide))

/-- Answered in the cycle of the command, it gets the half of address 0. -/
theorem wrong_half_without_delay :
    ¬∀ (AW USR_W OUTS : ℕ) (cutReady : Bool) (inp : ℕ → In AW USR_W) (s : RspidFifo OUTS 1),
      s.IsReset → Ordered cutReady inp s → ∀ t m m' pend,
        Lib.Serves wide m (Lib.emitted (issuedAt cutReady inp s) 0 t)
          (Lib.emitted (answeredAt inp) 0 t) m' pend →
        ∃ pend', pend = pend'.map oIcbCmd ∧
          Lib.Serves narrow m (Lib.emitted (acceptedAt cutReady inp s) 0 t)
            (Lib.emitted (deliveredAt cutReady inp s) 0 t) m' pend' := by
  intro h
  obtain ⟨pend', -, hserved⟩ := h 32 1 1 false (readsFour 0) idle idle_isReset ordered_readsFour 2
    ownAddress ownAddress [] (serves_readsFour 0 (by decide))
  have hacc : Lib.emitted (acceptedAt false (readsFour 0) idle) 0 2 = [readFour] := by decide
  have hdel : Lib.emitted (deliveredAt false (readsFour 0) idle) 0 2 =
      [⟨0#1, 0#1, 0x03020100#32, 0#1⟩] := by decide
  rw [hacc, hdel] at hserved
  cases hserved with
  | serve hr _ => exact absurd (hr rfl) (by decide)

end
end E203.GnrlN2w
