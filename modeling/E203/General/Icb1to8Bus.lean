import E203.General.IcbBuffer
import E203.General.IcbSplt
import E203.Rtl.Icb1to8Bus
import Mathlib.Data.List.Count

/-! # The fabric is complete and exclusive

The decoder indicates one target for each command.  The identifier FIFO of the splitter never holds the
default slave, whose response comes in the cycle of its command, so that the loop through the default
slave settles.

* `Decodes`: the target of an address.
* `deft_settles`: the wires of the default slave.
* `deft_counts`: over a run, the default slave has answered all its commands.
* `complete_exclusive`: over a run.
-/

namespace E203.Icb1to8Bus
set_option autoImplicit false
open Lib (emitted Passes)

/-! ## The ports -/

@[simp] theorem port_slot (x : Option (Fin 8)) : port (slot x) = x := by
  cases x with
  | none => rfl
  | some k =>
    have hk : ¬8 - k.val = 0 := by omega
    have hback : 8 - (8 - k.val) = k.val := by omega
    simp only [port, slot, hk, dif_neg, not_false_eq_true, hback]

@[simp] theorem slot_port (j : Fin 9) : slot (port j) = j := by
  unfold port
  split
  next h => exact Fin.ext h.symm
  next h =>
    apply Fin.ext
    change 8 - (8 - j.val) = j.val
    omega

theorem port_injective : Function.Injective port := fun j j' h => by
  rw [← slot_port j, h, slot_port]

section
variable {AW DW U V : ℕ}

@[simp] theorem cmd_withUsr_withUsr (c : GnrlIcbCmd AW DW 0) (u : BitVec U) :
    (c.withUsr u).withUsr 0#0 = c := by
  cases c
  simp only [GnrlIcbCmd.withUsr, BitVec.eq_nil]

@[simp] theorem rsp_withUsr_withUsr (r : GnrlIcbRsp DW 0) (u : BitVec U) :
    (r.withUsr u).withUsr 0#0 = r := by
  cases r
  simp only [GnrlIcbRsp.withUsr, BitVec.eq_nil]

end

/-! ## The decoder -/

section
variable {ICB_FIFO_DP OUTS AW DW : ℕ} (P : Params AW)

/-- No address is in two regions. -/
def Disjoint : Prop := ∀ j k addr, inRegion P j addr = true → inRegion P k addr = true → j = k

/-- The target of an address: the enabled port whose region it is in, or the default slave. -/
def Decodes (enable : Fin 8 → Bool) (addr : BitVec AW) : Option (Fin 8) → Prop
  | some k => inRegion P k addr = true ∧ enable k = true
  | none => ∀ k, inRegion P k addr = true → enable k = false

theorem exists_decodes (enable : Fin 8 → Bool) (addr : BitVec AW) : ∃ x, Decodes P enable addr x := by
  by_cases h : ∃ k, inRegion P k addr = true ∧ enable k = true
  · obtain ⟨k, hk⟩ := h
    exact ⟨some k, hk⟩
  · refine ⟨none, fun k hin => ?_⟩
    exact Bool.eq_false_iff.mpr fun hen => h ⟨k, hin, hen⟩

variable {P} {s : State ICB_FIFO_DP OUTS AW DW} {i : In AW DW} {x : Option (Fin 8)}

theorem indic_bit (P : Params AW) (s : State ICB_FIFO_DP OUTS AW DW) (i : In AW DW) :
    ∀ j : Fin 9, (bufIcbSpltIndic P s i).getLsbD j =
      match port j with
      | none => icbCmdDeft P s i
      | some k => icbCmdO P s i k
  | 0 => BitVec.getLsbD_ofBoolListBE
  | 1 => BitVec.getLsbD_ofBoolListBE
  | 2 => BitVec.getLsbD_ofBoolListBE
  | 3 => BitVec.getLsbD_ofBoolListBE
  | 4 => BitVec.getLsbD_ofBoolListBE
  | 5 => BitVec.getLsbD_ofBoolListBE
  | 6 => BitVec.getLsbD_ofBoolListBE
  | 7 => BitVec.getLsbD_ofBoolListBE
  | 8 => BitVec.getLsbD_ofBoolListBE

theorem icbCmdDeft_iff : icbCmdDeft P s i = true ↔ ∀ k, icbCmdO P s i k = false := by
  simp only [icbCmdDeft, Bool.and_eq_true, Bool.not_eq_true', Fin.forall_fin_succ, and_assoc,
    Fin.forall_fin_zero, and_true]
  rfl

/-- With disjoint regions a command indicates its target alone. -/
theorem indicates (hdisj : Disjoint P) (hv : bufIcbCmdValid s i = true)
    (hx : Decodes P i.oIcbEnable (bufIcbCmd s i).addr x) (a b : Bool) :
    GnrlSplt.Indicates (spltBus P s i a b) (slot x) := by
  have hbit : ∀ k, icbCmdO P s i k = decide (x = some k) := by
    intro k
    rw [icbCmdO, hv, Bool.true_and]
    cases x with
    | none =>
      cases hin : inRegion P k (bufIcbCmd s i).addr with
      | false => rfl
      | true => rw [hx k hin]; rfl
    | some j =>
      by_cases hjk : j = k
      · rw [← hjk, hx.1, hx.2]
        exact (decide_eq_true rfl).symm
      · have hne : ¬some j = some k := fun heq => hjk (Option.some.inj heq)
        rw [decide_eq_false hne]
        cases hin : inRegion P k (bufIcbCmd s i).addr with
        | false => rfl
        | true => exact absurd (hdisj j k _ hx.1 hin) hjk
  have hdeft : icbCmdDeft P s i = decide (x = none) := by
    rw [Bool.eq_iff_iff, icbCmdDeft_iff, decide_eq_true_iff]
    simp only [hbit, decide_eq_false_iff_not]
    constructor
    · intro hno
      cases x with
      | none => rfl
      | some k => exact absurd rfl (hno k)
    · rintro rfl k heq
      cases heq
  intro j
  change (bufIcbSpltIndic P s i).getLsbD j = _
  have hslot : decide (j = slot x) = decide (x = port j) := by
    apply decide_eq_decide.mpr
    constructor
    · rintro rfl
      exact (port_slot x).symm
    · rintro rfl
      exact (slot_port j).symm
  rw [indic_bit, oneHot, hslot]
  split
  next h => rw [hdeft, h]
  next k h => rw [hbit, h]

/-! ## The default slave -/

theorem rspValid_of_port {j : Fin 9} {k : Fin 8} (h : port j = some k) (a b : Bool) :
    (spltBus P s i a b).oBusIcbRspValid j = i.oIcbRspValid k := by
  change (match port j with | none => b | some k => i.oIcbRspValid k) = _
  rw [h]

variable {pend : List (Fin 9)}

/-- Whether the FIFO is full does not depend on the response of the default slave: the FIFO is empty, or
the response of another port is awaited. -/
theorem rspidFifoFull_eq (h : GnrlSplt.Outstanding s.splt pend) (hdeft : slot none ∉ pend)
    (a b a' b' : Bool) : GnrlSplt.rspidFifoFull (spltParams P) s.splt (spltBus P s i a b) =
      GnrlSplt.rspidFifoFull (spltParams P) s.splt (spltBus P s i a' b') := by
  have hhas := h.resolve_left (by decide)
  unfold GnrlSplt.rspidFifoFull
  obtain _ | ⟨k, rest⟩ := pend
  · rw [hhas.iRdy_eq, hhas.iRdy_eq, Lib.accepts, Lib.accepts, List.map_nil, List.length_nil,
      decide_eq_true hhas.pos]
    rfl
  · obtain ⟨q, hq⟩ : ∃ q, port k = some q := by
      cases hport : port k with
      | none => exact absurd ((congrArg slot hport).symm.trans (slot_port k) ▸ List.mem_cons_self) hdeft
      | some q => exact ⟨q, rfl⟩
    have hren : ∀ a b, GnrlSplt.rspidFifoRen (spltParams P) s.splt (spltBus P s i a b) =
        (i.oIcbRspValid q && bufIcbRspReady P s i) := by
      intro a b
      have hport := @GnrlSplt.port_eq 9 AW DW 1 OUTS 9 (spltParams P) s.splt (spltBus P s i a b) k _
        (Nat.le_refl 9) hhas (.inl rfl)
      have hpre : GnrlSplt.iIcbRspValidPre (spltParams P) s.splt (spltBus P s i a b) =
          (spltBus P s i a b).oBusIcbRspValid k := by
        simp only [GnrlSplt.iIcbRspValidPre, hport]
        exact any_oneHot (List.mem_finRange k) _
      rw [GnrlSplt.rspidFifoRen, GnrlSplt.manyRspValid, hpre, rspValid_of_port hq]
      rfl
    rw [hren, hren]

theorem deft_settles (h : GnrlSplt.Outstanding s.splt pend) (hdeft : slot none ∉ pend) (a b : Bool) :
    GnrlSplt.oBusIcbCmdValid (spltParams P) s.splt (spltBus P s i a b) (slot none) =
      deftIcbCmdValid P s i := by
  have hfull := @rspidFifoFull_eq ICB_FIFO_DP OUTS AW DW P s i pend h hdeft a b
    (deftIcbCmdReady P s i) false
  unfold deftIcbCmdValid GnrlSplt.oBusIcbCmdValid GnrlSplt.iIcbCmdValidPre GnrlSplt.spltStall
  rw [hfull]
  rfl

/-! ## The handshakes -/

def accepted (P : Params AW) (s : State ICB_FIFO_DP OUTS AW DW) (i : In AW DW) :
    List (GnrlIcbCmd AW DW 0) :=
  if i.iIcbCmdValid && iIcbCmdReady P s i then [i.iIcbCmd] else []

/-- The commands that a port or the default slave accepts. -/
def reached (P : Params AW) (s : State ICB_FIFO_DP OUTS AW DW) (i : In AW DW) :
    List (Option (Fin 8) × GnrlIcbCmd AW DW 0) :=
  (GnrlSplt.issued (spltParams P) s.splt (spltIn P s i)).map fun x => (port x.1, x.2.withUsr 0#0)

/-- The responses of the ports and the default slave. -/
def answered (P : Params AW) (s : State ICB_FIFO_DP OUTS AW DW) (i : In AW DW) :
    List (Option (Fin 8) × GnrlIcbRsp DW 0) :=
  (GnrlSplt.answered (spltParams P) s.splt (spltIn P s i)).map fun x => (port x.1, x.2.withUsr 0#0)

def delivered (P : Params AW) (s : State ICB_FIFO_DP OUTS AW DW) (i : In AW DW) :
    List (GnrlIcbRsp DW 0) :=
  if iIcbRspValid P s i && i.iIcbRspReady then [iIcbRsp P s i] else []

end
/-! ## Runs -/

section
variable {ICB_FIFO_DP OUTS AW DW : ℕ} (P : Params AW) (inp : ℕ → In AW DW)
  (s : State ICB_FIFO_DP OUTS AW DW)

def run : ℕ → State ICB_FIFO_DP OUTS AW DW := Lib.stateAt (step P) inp s

def acceptedAt (t : ℕ) : List (GnrlIcbCmd AW DW 0) := accepted P (run P inp s t) (inp t)

def reachedAt (t : ℕ) : List (Option (Fin 8) × GnrlIcbCmd AW DW 0) :=
  reached P (run P inp s t) (inp t)

def answeredAt (t : ℕ) : List (Option (Fin 8) × GnrlIcbRsp DW 0) :=
  answered P (run P inp s t) (inp t)

def deliveredAt (t : ℕ) : List (GnrlIcbRsp DW 0) := delivered P (run P inp s t) (inp t)

/-- The commands that a target has accepted, and its responses, before cycle `t`. -/
def reachedOf (x : Option (Fin 8)) (t : ℕ) : ℕ := ((emitted (reachedAt P inp s) 0 t).map Prod.fst).count x
def answersOf (x : Option (Fin 8)) (t : ℕ) : ℕ := ((emitted (answeredAt P inp s) 0 t).map Prod.fst).count x

/-- A slave responds to commands that it has accepted, at the earliest in the cycle of the handshake. -/
def Slaves : Prop := ∀ t k r, (some k, r) ∈ answeredAt P inp s t →
  answersOf P inp s (some k) t < reachedOf P inp s (some k) (t + 1)

/-! ### The parts -/

def spltInAt (t : ℕ) : GnrlSplt.In 9 AW DW 1 := spltIn P (run P inp s t) (inp t)
def bufInAt (t : ℕ) : IcbBuffer.In AW DW 1 := bufIn P (run P inp s t) (inp t)

theorem run_splt (t : ℕ) :
    (run P inp s t).splt = GnrlSplt.run (spltParams P) (spltInAt P inp s) s.splt t := by
  induction t with
  | zero => rfl
  | succ t ih =>
    change GnrlSplt.step (spltParams P) (spltInAt P inp s t) (run P inp s t).splt = _
    rw [ih]
    rfl

theorem run_buf (t : ℕ) :
    (run P inp s t).buf = IcbBuffer.run (bufParams P) (bufInAt P inp s) s.buf t := by
  induction t with
  | zero => rfl
  | succ t ih =>
    change IcbBuffer.step (bufParams P) (bufInAt P inp s t) (run P inp s t).buf = _
    rw [ih]
    rfl

theorem reachedAt_eq (t : ℕ) : reachedAt P inp s t =
    (GnrlSplt.issuedAt (spltParams P) (spltInAt P inp s) s.splt t).map
      fun x => (port x.1, x.2.withUsr 0#0) := by
  rw [reachedAt, reached, run_splt]
  rfl

theorem answeredAt_eq (t : ℕ) : answeredAt P inp s t =
    (GnrlSplt.answeredAt (spltParams P) (spltInAt P inp s) s.splt t).map
      fun x => (port x.1, x.2.withUsr 0#0) := by
  rw [answeredAt, answered, run_splt]
  rfl

theorem count_port {α β : Type*} {f : Fin 9 × α → Option (Fin 8) × β} (hf : ∀ y, (f y).1 = port y.1)
    (l : List (Fin 9 × α)) (x : Option (Fin 8)) :
    ((l.map f).map Prod.fst).count x = (l.map Prod.fst).count (slot x) := by
  have hcomp : (l.map f).map Prod.fst = (l.map Prod.fst).map port := by
    rw [List.map_map, List.map_map]
    exact List.map_congr_left fun y _ => hf y
  have hcount := List.count_map_of_injective (l.map Prod.fst) port port_injective (slot x)
  rw [port_slot] at hcount
  rw [hcomp, hcount]

theorem reachedOf_eq (x : Option (Fin 8)) (t : ℕ) : reachedOf P inp s x t =
    ((emitted (GnrlSplt.issuedAt (spltParams P) (spltInAt P inp s) s.splt) 0 t).map
      Prod.fst).count (slot x) := by
  rw [reachedOf, funext (reachedAt_eq P inp s), Lib.emitted_map]
  exact count_port (fun _ => rfl) _ x

theorem answersOf_eq (x : Option (Fin 8)) (t : ℕ) : answersOf P inp s x t =
    ((emitted (GnrlSplt.answeredAt (spltParams P) (spltInAt P inp s) s.splt) 0 t).map
      Prod.fst).count (slot x) := by
  rw [answersOf, funext (answeredAt_eq P inp s), Lib.emitted_map]
  exact count_port (fun _ => rfl) _ x

/-! ### The default slave over a run -/

/-- What the splitter knows, and that the default slave owes no response. -/
structure Follows (t : ℕ) : Prop where
  outstanding : GnrlSplt.Outstanding (GnrlSplt.run (spltParams P) (spltInAt P inp s) s.splt t)
    (GnrlSplt.waiting (spltParams P) (spltInAt P inp s) s.splt t)
  accounts : GnrlSplt.Accounts (spltParams P) (spltInAt P inp s) s.splt t
  deft : reachedOf P inp s none t = answersOf P inp s none t

variable {P inp s} {t : ℕ}

theorem Follows.not_waiting (h : Follows P inp s t) :
    slot none ∉ GnrlSplt.waiting (spltParams P) (spltInAt P inp s) s.splt t := by
  have hdeft := h.deft
  rw [reachedOf_eq, answersOf_eq, h.accounts, List.count_append] at hdeft
  exact List.count_eq_zero.mp (by omega)

/-- The wires of the default slave are consistent with the splitter. -/
theorem Follows.settles (h : Follows P inp s t) :
    GnrlSplt.oBusIcbCmdValid (spltParams P) (run P inp s t).splt (spltInAt P inp s t) (slot none) =
      deftIcbRspValid P (run P inp s t) (inp t) := by
  have hout := h.outstanding
  rw [← run_splt] at hout
  exact deft_settles hout h.not_waiting _ _

/-- In each cycle the default slave answers the command that it accepts. -/
theorem Follows.deft_cycle (h : Follows P inp s t) :
    ((reachedAt P inp s t).map Prod.fst).count none = ((answeredAt P inp s t).map Prod.fst).count none := by
  have hall : slot none ∈ List.finRange 9 := List.mem_finRange _
  refine (count_port (fun _ => rfl) _ none).trans
    (Eq.trans ?_ (count_port (fun _ => rfl) _ none).symm)
  rw [GnrlSplt.issued, GnrlSplt.answered, count_flatMap hall (List.nodup_finRange 9),
    count_flatMap hall (List.nodup_finRange 9)]
  change (GnrlSplt.oBusIcbCmdValid (spltParams P) (run P inp s t).splt (spltInAt P inp s t) (slot none) &&
    _).toNat = _
  rw [h.settles]
  rfl

theorem Follows.answers (h : Follows P inp s t) (hslaves : Slaves P inp s) :
    ∀ x ∈ GnrlSplt.answeredAt (spltParams P) (spltInAt P inp s) s.splt t,
      ((emitted (GnrlSplt.answeredAt (spltParams P) (spltInAt P inp s) s.splt) 0 t).map
        Prod.fst).count x.1 <
      ((emitted (GnrlSplt.issuedAt (spltParams P) (spltInAt P inp s) s.splt) 0 (t + 1)).map
        Prod.fst).count x.1 := by
  intro x hx
  have hmem : (port x.1, x.2.withUsr 0#0) ∈ answeredAt P inp s t := by
    rw [answeredAt_eq]
    exact List.mem_map_of_mem hx
  rw [← slot_port x.1, ← answersOf_eq, ← reachedOf_eq]
  cases hport : port x.1 with
  | some k =>
    rw [hport] at hmem
    exact hslaves t k _ hmem
  | none =>
    rw [hport] at hmem
    have hone : 0 < ((answeredAt P inp s t).map Prod.fst).count none :=
      List.count_pos_iff.mpr (List.mem_map.mpr ⟨_, hmem, rfl⟩)
    rw [← h.deft_cycle] at hone
    rw [← h.deft, reachedOf, reachedOf, Lib.emitted_succ (Nat.zero_le t), List.map_append,
      List.count_append]
    omega

theorem indic_spltInAt (hdisj : Disjoint P) (t : ℕ) (hv : (spltInAt P inp s t).iIcbCmdValid = true) :
    ∃ x, Decodes P (inp t).oIcbEnable (bufIcbCmd (run P inp s t) (inp t)).addr x ∧
      GnrlSplt.Indicates (spltInAt P inp s t) (slot x) := by
  obtain ⟨x, hx⟩ := exists_decodes P (inp t).oIcbEnable (bufIcbCmd (run P inp s t) (inp t)).addr
  exact ⟨x, hx, indicates hdisj hv hx _ _⟩

theorem follows (hdisj : Disjoint P) (h0 : IsReset s) (hslaves : Slaves P inp s) (t : ℕ) :
    Follows P inp s t := by
  induction t with
  | zero => exact ⟨.inr (RspidFifo.Has.of_reset h0.splt), rfl, rfl⟩
  | succ t ih =>
    obtain ⟨hout, hacc⟩ := GnrlSplt.Outstanding.next (Nat.le_refl 9)
      (fun hv => by
        obtain ⟨x, -, hind⟩ := indic_spltInAt hdisj t hv
        exact ⟨slot x, hind⟩)
      ih.outstanding ih.accounts (ih.accounts.responds (ih.answers hslaves))
    refine ⟨hout, hacc, ?_⟩
    have hcycle := ih.deft_cycle
    have hdeft := ih.deft
    rw [reachedOf, answersOf] at hdeft
    rw [reachedOf, answersOf, Lib.emitted_succ (Nat.zero_le t), Lib.emitted_succ (Nat.zero_le t),
      List.map_append, List.map_append, List.count_append, List.count_append, hcycle, hdeft]

theorem environment (hdisj : Disjoint P) (h0 : IsReset s) (hslaves : Slaves P inp s) :
    GnrlSplt.Environment (spltParams P) (spltInAt P inp s) s.splt where
  indic t hv := by
    obtain ⟨x, -, hind⟩ := indic_spltInAt hdisj t hv
    exact ⟨slot x, hind⟩
  answers t x hx := (follows hdisj h0 hslaves t).answers hslaves x hx

/-! ### Commands -/

/-- The splitter accepts what the buffer passes on. -/
theorem splt_acceptedAt (t : ℕ) : GnrlSplt.acceptedAt (spltParams P) (spltInAt P inp s) s.splt t =
    (IcbBuffer.issuedAt (bufParams P) (bufInAt P inp s) s.buf t).map fun c => c.withUsr 0#1 := by
  rw [GnrlSplt.acceptedAt, IcbBuffer.issuedAt, ← run_splt, ← run_buf]
  change (if bufIcbCmdValid (run P inp s t) (inp t) && (bufInAt P inp s t).oIcbCmdReady then _ else _) =
    List.map _ (if bufIcbCmdValid (run P inp s t) (inp t) && (bufInAt P inp s t).oIcbCmdReady then _ else _)
  split <;> rfl

theorem acceptedAt_eq (t : ℕ) : acceptedAt P inp s t =
    (IcbBuffer.acceptedAt (bufParams P) (bufInAt P inp s) s.buf t).map fun c => c.withUsr 0#0 := by
  rw [IcbBuffer.acceptedAt, ← run_buf]
  change (if (inp t).iIcbCmdValid && iIcbCmdReady P (run P inp s t) (inp t) then _ else _) =
    List.map _ (if (inp t).iIcbCmdValid && iIcbCmdReady P (run P inp s t) (inp t) then _ else _)
  split
  · exact congrArg (fun c => [c]) (cmd_withUsr_withUsr _ _).symm
  · rfl

theorem reached_snd (hdisj : Disjoint P) (h0 : IsReset s) (hslaves : Slaves P inp s) (t : ℕ) :
    (reachedAt P inp s t).map Prod.snd =
      (IcbBuffer.issuedAt (bufParams P) (bufInAt P inp s) s.buf t).map fun c => c.withUsr 0#0 := by
  have hevents := (GnrlSplt.events (Nat.le_refl 9) h0.splt (environment hdisj h0 hslaves) t).1.1
  rw [splt_acceptedAt] at hevents
  have hcomp := congrArg (List.map fun c : GnrlIcbCmd AW DW 1 => c.withUsr 0#0) hevents
  rw [List.map_map, List.map_map] at hcomp
  rw [reachedAt_eq, List.map_map]
  exact hcomp

theorem passes_cmd (hdisj : Disjoint P) (h0 : IsReset s) (hslaves : Slaves P inp s) (t : ℕ) :
    Passes ICB_FIFO_DP (acceptedAt P inp s) (fun t => (reachedAt P inp s t).map Prod.snd) t := by
  rw [funext acceptedAt_eq, funext (reached_snd hdisj h0 hslaves)]
  exact (IcbBuffer.passes_cmd h0.buf t).map _

theorem indicates_inj {i : GnrlSplt.In 9 AW DW 1} {j k : Fin 9} (hj : GnrlSplt.Indicates i j)
    (hk : GnrlSplt.Indicates i k) : j = k := by
  have hbit := hj j
  rw [hk j, oneHot, oneHot, decide_eq_true rfl] at hbit
  exact of_decide_eq_true hbit

/-- A command reaches its target and no other. -/
theorem reached_decodes (hdisj : Disjoint P) (t : ℕ) : (reachedAt P inp s t).length ≤ 1 ∧
    ∀ x ∈ reachedAt P inp s t, Decodes P (inp t).oIcbEnable x.2.addr x.1 := by
  obtain ⟨-, -, hiss⟩ | ⟨k, hh, hind, -, hiss⟩ :=
    GnrlSplt.cmd_cases (spltParams P) (run P inp s t).splt (fun hv => by
      obtain ⟨x, -, hind⟩ := indic_spltInAt (s := s) hdisj t hv
      exact ⟨slot x, hind⟩)
  · have hnil : reachedAt P inp s t = [] := congrArg (List.map _) hiss
    rw [hnil]
    exact ⟨Nat.zero_le 1, fun x hx => absurd hx List.not_mem_nil⟩
  · obtain ⟨x, hx, hind'⟩ := indic_spltInAt (s := s) hdisj t ((Bool.and_eq_true _ _).mp hh).1
    have hone : reachedAt P inp s t =
        [(x, ((bufIcbCmd (run P inp s t) (inp t)).withUsr 0#1).withUsr 0#0)] := by
      refine (congrArg (List.map _) hiss).trans ?_
      rw [indicates_inj hind hind', List.map_singleton, port_slot]
      rfl
    rw [hone]
    refine ⟨Nat.le_refl 1, fun y hy => ?_⟩
    rw [List.mem_singleton.mp hy]
    exact hx

/-! ### Responses -/

theorem buf_answeredAt (t : ℕ) : IcbBuffer.answeredAt (bufParams P) (bufInAt P inp s) s.buf t =
    (GnrlSplt.deliveredAt (spltParams P) (spltInAt P inp s) s.splt t).map fun r => r.withUsr 0#1 := by
  rw [GnrlSplt.deliveredAt, IcbBuffer.answeredAt, ← run_splt, ← run_buf]
  change (if (bufInAt P inp s t).oIcbRspValid && bufIcbRspReady P (run P inp s t) (inp t) then _ else _) =
    List.map _ (if (bufInAt P inp s t).oIcbRspValid && bufIcbRspReady P (run P inp s t) (inp t) then _ else _)
  split <;> rfl

theorem deliveredAt_eq (t : ℕ) : deliveredAt P inp s t =
    (IcbBuffer.deliveredAt (bufParams P) (bufInAt P inp s) s.buf t).map fun r => r.withUsr 0#0 := by
  rw [IcbBuffer.deliveredAt, ← run_buf]
  change (if iIcbRspValid P (run P inp s t) (inp t) && (inp t).iIcbRspReady then _ else _) =
    List.map _ (if iIcbRspValid P (run P inp s t) (inp t) && (inp t).iIcbRspReady then _ else _)
  split <;> rfl

theorem answered_snd (hdisj : Disjoint P) (h0 : IsReset s) (hslaves : Slaves P inp s) (t : ℕ) :
    (answeredAt P inp s t).map Prod.snd =
      (IcbBuffer.answeredAt (bufParams P) (bufInAt P inp s) s.buf t).map fun r => r.withUsr 0#0 := by
  have hevents := (GnrlSplt.events (Nat.le_refl 9) h0.splt (environment hdisj h0 hslaves) t).2
  have hcomp := congrArg (List.map fun r : GnrlIcbRsp DW 1 => r.withUsr 0#0) hevents
  rw [List.map_map] at hcomp
  rw [answeredAt_eq, List.map_map, buf_answeredAt, List.map_map]
  exact hcomp

theorem passes_rsp (hdisj : Disjoint P) (h0 : IsReset s) (hslaves : Slaves P inp s) (t : ℕ) :
    Passes ICB_FIFO_DP (fun t => (answeredAt P inp s t).map Prod.snd) (deliveredAt P inp s) t := by
  rw [funext deliveredAt_eq, funext (answered_snd hdisj h0 hslaves)]
  exact (IcbBuffer.passes_rsp h0.buf t).map _

/-- The default slave answers with an error. -/
theorem answered_deft (t : ℕ) : ∀ x ∈ answeredAt P inp s t, x.1 = none → x.2 = deftIcbRsp := by
  intro x hx hnone
  obtain ⟨y, hy, rfl⟩ := List.mem_map.mp hx
  obtain ⟨j, -, hj⟩ := List.mem_flatMap.mp hy
  split at hj
  · rw [List.mem_singleton.mp hj] at hnone ⊢
    change port j = none at hnone
    change ((match port j with
      | none => (deftIcbRsp : GnrlIcbRsp DW 0).withUsr 0#1
      | some k => ((inp t).oIcbRsp k).withUsr 0#1) : GnrlIcbRsp DW 1).withUsr 0#0 = _
    rw [hnone]
    exact rsp_withUsr_withUsr _ _
  · cases hj

/-- The targets answer in the order of the commands. -/
theorem answered_prefix (h : Follows P inp s t) : (emitted (answeredAt P inp s) 0 t).map Prod.fst <+:
    (emitted (reachedAt P inp s) 0 t).map Prod.fst := by
  have hacc : (emitted (GnrlSplt.issuedAt (spltParams P) (spltInAt P inp s) s.splt) 0 t).map Prod.fst = _ :=
    h.accounts
  have hmap := congrArg (List.map port) hacc
  rw [List.map_append, List.map_map, List.map_map] at hmap
  rw [funext (reachedAt_eq P inp s), funext (answeredAt_eq P inp s), Lib.emitted_map, Lib.emitted_map,
    List.map_map, List.map_map]
  exact ⟨_, hmap.symm⟩

/-! ### Progress -/

/-- The master is ready again and again; a slave takes a command that it is offered all the time, and
sometime responds, keeping its response until it is taken; the enables do not change. -/
structure Fair (P : Params AW) (inp : ℕ → In AW DW) (s : State ICB_FIFO_DP OUTS AW DW) : Prop where
  rspReady : ∀ t, ∃ u, t ≤ u ∧ (inp u).iIcbRspReady = true
  cmdReady : ∀ t k, (∀ u, t ≤ u → oIcbCmdValid P (run P inp s u) (inp u) k = true) →
    ∃ u, t ≤ u ∧ (inp u).oIcbCmdReady k = true
  answers : ∀ t k, answersOf P inp s (some k) t < reachedOf P inp s (some k) t → ∃ u, t ≤ u ∧
    ∀ v, u ≤ v → answersOf P inp s (some k) v = answersOf P inp s (some k) t →
      (inp v).oIcbRspValid k = true
  enable : ∀ t, (inp t).oIcbEnable = (inp 0).oIcbEnable

/-- When no more responses come, the buffer of the responses drains, and then lets the master decide. -/
theorem rspReady_of_quiet (h0 : IsReset s) (hfair : Fair P inp s)
    (hquiet : ∀ u, t ≤ u → GnrlSplt.deliveredAt (spltParams P) (spltInAt P inp s) s.splt u = []) (w : ℕ) :
    ∃ v, w ≤ v ∧ bufIcbRspReady P (run P inp s v) (inp v) = true := by
  obtain ⟨u, htu, hpre⟩ := @IcbBuffer.rsp_eventually _ _ _ _ _ _ (bufParams P) (bufInAt P inp s) s.buf
    h0.buf hfair.rspReady t
  obtain ⟨hcon, hhas⟩ := @IcbBuffer.conserves_rsp _ _ _ _ _ _ (bufParams P) (bufInAt P inp s) s.buf h0.buf
  obtain ⟨v, hv, hr⟩ := hfair.rspReady (max u w)
  have huv : u ≤ v := (Nat.le_max_left u w).trans hv
  refine ⟨v, (Nat.le_max_right u w).trans hv, ?_⟩
  have hsame : emitted (IcbBuffer.answeredAt (bufParams P) (bufInAt P inp s) s.buf) 0 v =
      emitted (IcbBuffer.answeredAt (bufParams P) (bufInAt P inp s) s.buf) 0 t := by
    rw [Lib.emitted_append (Nat.zero_le t) (htu.trans huv)]
    refine (congrArg _ ?_).trans (List.append_nil _)
    rw [List.eq_nil_iff_forall_not_mem]
    intro x hx
    obtain ⟨a, hta, -, hmem⟩ := (Lib.mem_emitted (htu.trans huv)).mp hx
    rw [buf_answeredAt, hquiet a hta] at hmem
    cases hmem
  have hdrained : Lib.backlog (IcbBuffer.answeredAt (bufParams P) (bufInAt P inp s) s.buf)
      (IcbBuffer.deliveredAt (bufParams P) (bufInAt P inp s) s.buf) v = [] := by
    rw [Lib.backlog, hsame]
    apply List.drop_eq_nil_of_le
    rw [Lib.emitted_append (Nat.zero_le u) huv, List.length_append]
    exact hpre.length_le.trans (Nat.le_add_right _ _)
  have hempty := hhas v
  rw [hdrained, ← run_buf] at hempty
  rw [bufIcbRspReady, IcbBuffer.oIcbRspReady, hr]
  exact FifoDp.Has.iRdy_of_empty hempty _

/-- Once something is the first to wait, it stays so until something is delivered. -/
theorem head_stays {α : Type*} {acc del pend : ℕ → List α} (h : Lib.Conserves acc del pend) {x : α}
    (hx : (pend t).head? = some x) (hquiet : ∀ u, t ≤ u → del u = []) (n : ℕ) :
    (pend (t + n)).head? = some x := by
  induction n with
  | zero => exact hx
  | succ n ih =>
    have hcycle := h.cycle (t + n)
    rw [hquiet _ (Nat.le_add_right t n), List.nil_append] at hcycle
    rw [← Nat.add_assoc, ← hcycle, List.head?_append, ih]
    rfl

/-- A slave with an outstanding command responds, and its response is taken. -/
theorem answered_live (hdisj : Disjoint P) (h0 : IsReset s) (hslaves : Slaves P inp s)
    (hfair : Fair P inp s) (t : ℕ)
    (hwait : GnrlSplt.waiting (spltParams P) (spltInAt P inp s) s.splt t ≠ []) :
    ∃ u, t ≤ u ∧ (GnrlSplt.answeredAt (spltParams P) (spltInAt P inp s) s.splt u).map Prod.fst ≠ [] := by
  by_contra hno
  have hnone : ∀ u, t ≤ u →
      (GnrlSplt.answeredAt (spltParams P) (spltInAt P inp s) s.splt u).map Prod.fst = [] :=
    fun u htu => Classical.byContradiction fun h => hno ⟨u, htu, h⟩
  have henv := environment hdisj h0 hslaves
  have hquiet : ∀ u, t ≤ u → GnrlSplt.deliveredAt (spltParams P) (spltInAt P inp s) s.splt u = [] := by
    intro u htu
    rw [← (GnrlSplt.events (Nat.le_refl 9) h0.splt henv u).2, List.map_eq_nil_iff.mp (hnone u htu)]
    rfl
  obtain ⟨j, hj⟩ := Option.isSome_iff_exists.mp (List.isSome_head?.mpr hwait)
  have hfollows := follows hdisj h0 hslaves t
  have hmem : j ∈ GnrlSplt.waiting (spltParams P) (spltInAt P inp s) s.splt t := List.mem_of_mem_head? hj
  obtain ⟨k, hk⟩ : ∃ k, port j = some k := by
    cases hport : port j with
    | none =>
      have hslot : j = slot none := by rw [← hport, slot_port]
      exact absurd (hslot ▸ hmem) hfollows.not_waiting
    | some k => exact ⟨k, rfl⟩
  have hslot : j = slot (some k) := by rw [← hk, slot_port]
  -- the slave owes a response, and offers it for good
  have howes : answersOf P inp s (some k) t < reachedOf P inp s (some k) t := by
    have hpos := List.count_pos_iff.mpr hmem
    rw [answersOf_eq, reachedOf_eq, hfollows.accounts, List.count_append, ← hslot]
    omega
  have hsame : ∀ v, t ≤ v → answersOf P inp s (some k) v = answersOf P inp s (some k) t := by
    intro v htv
    rw [answersOf, answersOf, Lib.emitted_append (Nat.zero_le t) htv, List.map_append, List.count_append]
    refine (congrArg _ (List.count_eq_zero.mpr fun hx => ?_)).trans (Nat.add_zero _)
    obtain ⟨y, hy, -⟩ := List.mem_map.mp hx
    obtain ⟨a, hta, -, hya⟩ := (Lib.mem_emitted htv).mp hy
    rw [answeredAt_eq, List.map_eq_nil_iff.mp (hnone a hta)] at hya
    cases hya
  obtain ⟨u, htu, hvalid⟩ := hfair.answers t k howes
  obtain ⟨v, huv, hready⟩ := rspReady_of_quiet h0 hfair hquiet u
  have hvalid := hvalid v huv (hsame v (htu.trans huv))
  obtain ⟨n, rfl⟩ := Nat.exists_eq_add_of_le (htu.trans huv)
  have hhead := head_stays (GnrlSplt.conserves_waiting (Nat.le_refl 9) h0.splt henv) hj hnone n
  have hh : GnrlSplt.rspHsked (spltParams P)
      (GnrlSplt.run (spltParams P) (spltInAt P inp s) s.splt (t + n)) (spltInAt P inp s (t + n)) = true :=
    (follows hdisj h0 hslaves (t + n)).outstanding.rspHsked_of_head (Nat.le_refl 9) hhead
      ((rspValid_of_port hk _ _).trans hvalid) hready
  have hdel := hquiet (t + n) (Nat.le_add_right t n)
  rw [GnrlSplt.deliveredAt, GnrlSplt.delivered, hh] at hdel
  cases hdel

theorem answered_eventually (hdisj : Disjoint P) (h0 : IsReset s) (hslaves : Slaves P inp s)
    (hfair : Fair P inp s) (t : ℕ) : ∃ u, t ≤ u ∧
    (emitted (GnrlSplt.issuedAt (spltParams P) (spltInAt P inp s) s.splt) 0 t).length ≤
      (emitted (GnrlSplt.answeredAt (spltParams P) (spltInAt P inp s) s.splt) 0 u).length := by
  obtain ⟨u, htu, hpre⟩ := (GnrlSplt.conserves_waiting (Nat.le_refl 9) h0.splt
    (environment hdisj h0 hslaves)).eventually (answered_live hdisj h0 hslaves hfair) t
  have hlen := hpre.length_le
  rw [Lib.emitted_map, Lib.emitted_map, List.length_map, List.length_map] at hlen
  exact ⟨u, htu, hlen⟩

/-- The default slave takes the command that it is offered alone, when its response is taken. -/
theorem deftIcbCmdReady_of_empty {s : State ICB_FIFO_DP OUTS AW DW} {i : In AW DW}
    (h : GnrlSplt.Outstanding s.splt ([] : List (Fin 9)))
    (hind : GnrlSplt.Indicates (spltIn P s i) (slot none)) (hready : bufIcbRspReady P s i = true) :
    deftIcbCmdReady P s i = true := by
  have hport := @GnrlSplt.port_eq 9 AW DW 1 OUTS 9 (spltParams P) s.splt (spltIn P s i) (slot none) []
    (Nat.le_refl 9) (h.resolve_left (by decide)) (.inr ⟨rfl, rfl, hind⟩) (slot none)
  change ((GnrlSplt.oIcbRspPortId (spltParams P) s.splt (spltIn P s i)).getLsbD (slot none) &&
    bufIcbRspReady P s i) = true
  rw [hport, hready, oneHot, decide_eq_true rfl]
  rfl

/-- From cycle `t` on no command leaves the buffer. -/
def NoneReached (P : Params AW) (inp : ℕ → In AW DW) (s : State ICB_FIFO_DP OUTS AW DW) (t : ℕ) : Prop :=
  ∀ u, t ≤ u → IcbBuffer.issuedAt (bufParams P) (bufInAt P inp s) s.buf u = []

section
variable {t u v : ℕ} {c : GnrlIcbCmd AW DW 1} {x : Option (Fin 8)}

theorem NoneReached.issuedAt_eq (h : NoneReached P inp s t) (hdisj : Disjoint P) (h0 : IsReset s)
    (hslaves : Slaves P inp s) (htu : t ≤ u) :
    GnrlSplt.issuedAt (spltParams P) (spltInAt P inp s) s.splt u = [] := by
  have hsnd := (GnrlSplt.events (Nat.le_refl 9) h0.splt (environment hdisj h0 hslaves) u).1.1
  rw [splt_acceptedAt, h u htu] at hsnd
  exact List.map_eq_nil_iff.mp hsnd

/-- The outstanding commands are answered, and then nothing is outstanding. -/
theorem NoneReached.exists_empty (h : NoneReached P inp s t) (hdisj : Disjoint P) (h0 : IsReset s)
    (hslaves : Slaves P inp s) (hfair : Fair P inp s) : ∃ u, t ≤ u ∧ ∀ v, u ≤ v →
      GnrlSplt.waiting (spltParams P) (spltInAt P inp s) s.splt v = [] := by
  obtain ⟨u, htu, hall⟩ := answered_eventually hdisj h0 hslaves hfair t
  refine ⟨u, htu, fun v huv => ?_⟩
  have hnil : emitted (GnrlSplt.issuedAt (spltParams P) (spltInAt P inp s) s.splt) t v = [] := by
    rw [List.eq_nil_iff_forall_not_mem]
    intro x hx
    obtain ⟨a, hta, -, hmem⟩ := (Lib.mem_emitted (htu.trans huv)).mp hx
    rw [h.issuedAt_eq hdisj h0 hslaves hta] at hmem
    cases hmem
  have hacc := congrArg List.length (follows hdisj h0 hslaves v).accounts
  rw [List.length_map, List.length_append, List.length_map,
    Lib.emitted_append (Nat.zero_le t) (htu.trans huv), hnil, List.append_nil,
    Lib.emitted_append (Nat.zero_le u) huv, List.length_append] at hacc
  exact List.length_eq_zero_iff.mp (by omega)

theorem NoneReached.deliveredAt_eq (h : NoneReached P inp s t) (hdisj : Disjoint P) (h0 : IsReset s)
    (hslaves : Slaves P inp s) (htv : t ≤ v)
    (hempty : GnrlSplt.waiting (spltParams P) (spltInAt P inp s) s.splt v = []) :
    GnrlSplt.deliveredAt (spltParams P) (spltInAt P inp s) s.splt v = [] := by
  have henv := environment hdisj h0 hslaves
  have hnil : GnrlSplt.answeredAt (spltParams P) (spltInAt P inp s) s.splt v = [] := by
    rw [List.eq_nil_iff_forall_not_mem]
    intro x hx
    have hmem := henv.responds (follows hdisj h0 hslaves v).accounts x hx
    rw [hempty, h.issuedAt_eq hdisj h0 hslaves htv] at hmem
    cases hmem
  rw [← (GnrlSplt.events (Nat.le_refl 9) h0.splt henv v).2, hnil]
  rfl

/-- The oldest command in the buffer is offered for good. -/
theorem NoneReached.offers (h : NoneReached P inp s t) (h0 : IsReset s)
    (hc : (Lib.backlog (IcbBuffer.acceptedAt (bufParams P) (bufInAt P inp s) s.buf)
      (IcbBuffer.issuedAt (bufParams P) (bufInAt P inp s) s.buf) t).head? = some c) (htv : t ≤ v) :
    bufIcbCmdValid (run P inp s v) (inp v) = true ∧ bufIcbCmd (run P inp s v) (inp v) = c := by
  obtain ⟨hcon, hhas⟩ := @IcbBuffer.conserves_cmd _ _ _ _ _ _ (bufParams P) (bufInAt P inp s) s.buf h0.buf
  obtain ⟨n, rfl⟩ := Nat.exists_eq_add_of_le htv
  have hhead := head_stays hcon hc h n
  have hfifo := hhas (t + n)
  rw [← run_buf] at hfifo
  generalize Lib.backlog (IcbBuffer.acceptedAt (bufParams P) (bufInAt P inp s) s.buf)
    (IcbBuffer.issuedAt (bufParams P) (bufInAt P inp s) s.buf) (t + n) = l at hhead hfifo
  obtain _ | ⟨x, l⟩ := l
  · cases hhead
  · obtain rfl : x = c := Option.some.inj hhead
    have hv : bufIcbCmdValid (run P inp s (t + n)) (inp (t + n)) = true := by
      rw [bufIcbCmdValid, IcbBuffer.oIcbCmdValid, hfifo.oVld_eq]
      rfl
    refine ⟨hv, ?_⟩
    have hdat := @FifoDp.Has.oDat_eq _ _ _ _ hfifo false _
      (IcbBuffer.cmdPack ((inp (t + n)).iIcbCmd.withUsr 0#1)) hv
    rw [bufIcbCmd, IcbBuffer.oIcbCmd, ← Option.some.inj hdat, IcbBuffer.cmdUnpack_pack]

/-- With nothing outstanding the splitter passes the offer on. -/
theorem cmdValid_of_empty (hdisj : Disjoint P) (h0 : IsReset s) (hslaves : Slaves P inp s)
    (hempty : GnrlSplt.waiting (spltParams P) (spltInAt P inp s) s.splt v = [])
    (hcmd : bufIcbCmdValid (run P inp s v) (inp v) = true)
    (hind : GnrlSplt.Indicates (spltInAt P inp s v) (slot x)) :
    GnrlSplt.oBusIcbCmdValid (spltParams P) (run P inp s v).splt (spltInAt P inp s v) (slot x) =
      true := by
  have hout := (follows hdisj h0 hslaves v).outstanding
  rw [hempty, ← run_splt] at hout
  have hv : (spltInAt P inp s v).iIcbCmdValid = true := hcmd
  rw [GnrlSplt.oBusIcbCmdValid, if_neg (by decide), GnrlSplt.iIcbCmdValidPre, hv,
    hout.spltStall_of_empty (by decide), hind, oneHot, decide_eq_true rfl]
  rfl

/-- The target that is offered a command is not ready. -/
theorem NoneReached.not_ready (h : NoneReached P inp s t) (htv : t ≤ v)
    (hind : GnrlSplt.Indicates (spltInAt P inp s v) (slot x))
    (hvalid : GnrlSplt.oBusIcbCmdValid (spltParams P) (run P inp s v).splt (spltInAt P inp s v)
      (slot x) = true) : (spltInAt P inp s v).oBusIcbCmdReady (slot x) ≠ true := by
  intro hready
  have hh := GnrlSplt.cmd_handshake (P := spltParams P) (s := (run P inp s v).splt) hind (slot x)
  rw [hvalid, hready, oneHot, decide_eq_true rfl] at hh
  have hacc : GnrlSplt.acceptedAt (spltParams P) (spltInAt P inp s) s.splt v = [] := by
    rw [splt_acceptedAt, h v htv]
    rfl
  rw [GnrlSplt.acceptedAt, ← run_splt, GnrlSplt.accepted, ← Bool.true_and (GnrlSplt.cmdHsked _ _ _),
    ← hh] at hacc
  cases hacc

end

/-- A command in the buffer is passed on. -/
theorem reached_live (hdisj : Disjoint P) (h0 : IsReset s) (hslaves : Slaves P inp s)
    (hfair : Fair P inp s) (t : ℕ)
    (hwait : Lib.backlog (IcbBuffer.acceptedAt (bufParams P) (bufInAt P inp s) s.buf)
      (IcbBuffer.issuedAt (bufParams P) (bufInAt P inp s) s.buf) t ≠ []) :
    ∃ u, t ≤ u ∧ IcbBuffer.issuedAt (bufParams P) (bufInAt P inp s) s.buf u ≠ [] := by
  by_contra hno
  have hnone : NoneReached P inp s t :=
    fun u htu => Classical.byContradiction fun h => hno ⟨u, htu, h⟩
  obtain ⟨u, htu, hempty⟩ := hnone.exists_empty hdisj h0 hslaves hfair
  obtain ⟨c, hc⟩ := Option.isSome_iff_exists.mp (List.isSome_head?.mpr hwait)
  obtain ⟨x, hx⟩ := exists_decodes P (inp 0).oIcbEnable c.addr
  have hind : ∀ v, t ≤ v → GnrlSplt.Indicates (spltInAt P inp s v) (slot x) := by
    intro v htv
    obtain ⟨hv, hcmd⟩ := hnone.offers h0 hc htv
    refine indicates hdisj hv ?_ _ _
    rw [hcmd, hfair.enable v]
    exact hx
  have hvalid : ∀ v, u ≤ v → GnrlSplt.oBusIcbCmdValid (spltParams P) (run P inp s v).splt
      (spltInAt P inp s v) (slot x) = true := by
    intro v huv
    exact cmdValid_of_empty hdisj h0 hslaves (hempty v huv) (hnone.offers h0 hc (htu.trans huv)).1
      (hind v (htu.trans huv))
  have hstuck : ∀ v, u ≤ v → (spltInAt P inp s v).oBusIcbCmdReady (slot x) ≠ true :=
    fun v huv => hnone.not_ready (htu.trans huv) (hind v (htu.trans huv)) (hvalid v huv)
  cases x with
  | some k =>
    obtain ⟨v, huv, hready⟩ := hfair.cmdReady u k hvalid
    refine hstuck v huv ?_
    change (match port (slot (some k)) with
      | none => deftIcbCmdReady P (run P inp s v) (inp v)
      | some k => (inp v).oIcbCmdReady k) = true
    rw [port_slot]
    exact hready
  | none =>
    obtain ⟨v, huv, hready⟩ := rspReady_of_quiet h0 hfair
      (fun w huw => hnone.deliveredAt_eq hdisj h0 hslaves (htu.trans huw) (hempty w huw)) u
    have hout := (follows hdisj h0 hslaves v).outstanding
    rw [hempty v huv, ← run_splt] at hout
    exact hstuck v huv (deftIcbCmdReady_of_empty hout (hind v (htu.trans huv)) hready)

/-- Every accepted command gets its response. -/
theorem delivered_eventually (hdisj : Disjoint P) (h0 : IsReset s) (hslaves : Slaves P inp s)
    (hfair : Fair P inp s) (t : ℕ) : ∃ u, t ≤ u ∧
    (emitted (acceptedAt P inp s) 0 t).length ≤ (emitted (deliveredAt P inp s) 0 u).length := by
  obtain ⟨hcon, -⟩ := @IcbBuffer.conserves_cmd _ _ _ _ _ _ (bufParams P) (bufInAt P inp s) s.buf h0.buf
  obtain ⟨a, hta, hreached⟩ := hcon.eventually (reached_live hdisj h0 hslaves hfair) t
  obtain ⟨b, hab, hanswered⟩ := answered_eventually hdisj h0 hslaves hfair a
  obtain ⟨u, hbu, hdelivered⟩ := @IcbBuffer.rsp_eventually _ _ _ _ _ _ (bufParams P)
    (bufInAt P inp s) s.buf h0.buf hfair.rspReady b
  refine ⟨u, by omega, ?_⟩
  have henv := environment hdisj h0 hslaves
  have hissued : (emitted (GnrlSplt.issuedAt (spltParams P) (spltInAt P inp s) s.splt) 0 a).length =
      (emitted (IcbBuffer.issuedAt (bufParams P) (bufInAt P inp s) s.buf) 0 a).length := by
    have heq : (fun t => (GnrlSplt.issuedAt (spltParams P) (spltInAt P inp s) s.splt t).map Prod.snd) =
        fun t => (IcbBuffer.issuedAt (bufParams P) (bufInAt P inp s) s.buf t).map
          fun c => c.withUsr 0#1 :=
      funext fun t => (GnrlSplt.events (Nat.le_refl 9) h0.splt henv t).1.1.trans (splt_acceptedAt t)
    have hlen := congrArg (fun ev => (emitted ev 0 a).length) heq
    rw [Lib.emitted_map, Lib.emitted_map, List.length_map, List.length_map] at hlen
    exact hlen
  have htaken : (emitted (GnrlSplt.answeredAt (spltParams P) (spltInAt P inp s) s.splt) 0 b).length =
      (emitted (IcbBuffer.answeredAt (bufParams P) (bufInAt P inp s) s.buf) 0 b).length := by
    have heq : (fun t => ((GnrlSplt.answeredAt (spltParams P) (spltInAt P inp s) s.splt t).map
        Prod.snd).map fun r => r.withUsr 0#1) =
        IcbBuffer.answeredAt (bufParams P) (bufInAt P inp s) s.buf :=
      funext fun t => (congrArg (List.map _)
        (GnrlSplt.events (Nat.le_refl 9) h0.splt henv t).2).trans (buf_answeredAt t).symm
    have hlen := congrArg (fun ev => (emitted ev 0 b).length) heq
    rw [Lib.emitted_map, Lib.emitted_map, List.length_map, List.length_map] at hlen
    exact hlen
  have h1 := hreached.length_le
  have h3 := hdelivered.length_le
  rw [funext acceptedAt_eq, funext deliveredAt_eq, Lib.emitted_map, Lib.emitted_map, List.length_map,
    List.length_map]
  omega

/-- With disjoint regions and slaves that answer what they have accepted: the wires of the default slave
are consistent; the accepted commands reach their targets once and in order, at most one in a cycle, each
the enabled port whose region has its address, or else the default slave; this one answers in the same
cycle, with an error; the responses are given in the order of the commands; and every accepted command
gets its response if nothing blocks for ever. -/
theorem complete_exclusive (hdisj : Disjoint P) (inp : ℕ → In AW DW) (h0 : IsReset s)
    (hslaves : Slaves P inp s) :
    (∀ t, GnrlSplt.oBusIcbCmdValid (spltParams P) (run P inp s t).splt
      (spltIn P (run P inp s t) (inp t)) (slot none) = deftIcbRspValid P (run P inp s t) (inp t)) ∧
    (∀ t, Passes ICB_FIFO_DP (acceptedAt P inp s) (fun t => (reachedAt P inp s t).map Prod.snd) t) ∧
    (∀ t, (reachedAt P inp s t).length ≤ 1 ∧
      ∀ x ∈ reachedAt P inp s t, Decodes P (inp t).oIcbEnable x.2.addr x.1) ∧
    (∀ t, ((reachedAt P inp s t).map Prod.fst).count none =
        ((answeredAt P inp s t).map Prod.fst).count none ∧
      ∀ x ∈ answeredAt P inp s t, x.1 = none → x.2 = deftIcbRsp) ∧
    (∀ t, (emitted (answeredAt P inp s) 0 t).map Prod.fst <+:
      (emitted (reachedAt P inp s) 0 t).map Prod.fst) ∧
    (∀ t, Passes ICB_FIFO_DP (fun t => (answeredAt P inp s t).map Prod.snd) (deliveredAt P inp s) t) ∧
    (Fair P inp s → ∀ t, ∃ u, t ≤ u ∧
      (emitted (acceptedAt P inp s) 0 t).length ≤ (emitted (deliveredAt P inp s) 0 u).length) := by
  have hfollows := follows hdisj h0 hslaves
  exact ⟨fun t => (hfollows t).settles, passes_cmd hdisj h0 hslaves, reached_decodes hdisj,
    fun t => ⟨(hfollows t).deft_cycle, answered_deft t⟩, fun t => answered_prefix (hfollows t),
    passes_rsp hdisj h0 hslaves, delivered_eventually hdisj h0 hslaves⟩

/-! Eight regions of 4 KiB, a read of the fourth of them, and a read of an address after them. -/

def pages : Params 32 := ⟨true, true, fun k => BitVec.ofNat 32 (0x1000 * k), fun _ => 12⟩

theorem pages_disjoint : Disjoint pages := by
  intro j k addr hj hk
  rw [inRegion, beq_iff_eq] at hj hk
  have heq : (BitVec.ofNat 32 (0x1000 * j)).extractLsb' 12 20 =
      (BitVec.ofNat 32 (0x1000 * k)).extractLsb' 12 20 := hj.symm.trans hk
  clear hj hk
  revert j k
  decide

def portThenNowhere (t : ℕ) : In 32 32 where
  oIcbEnable _ := true
  iIcbCmdValid := t == 0 || t == 1
  iIcbCmd := ⟨1#1, if t = 0 then 0x3004#32 else 0x9000#32, 0#32, 0#4, 0#2, 0#2, 0#1, 0#1, 2#2, 0#0⟩
  iIcbRspReady := true
  oIcbCmdReady _ := true
  oIcbRspValid k := t == 3 && k == 3
  oIcbRsp _ := ⟨0#1, 0#1, 7#32, 0#0⟩

def idle : State 2 1 32 32 := ⟨⟨Fifo.reset 2 _, Fifo.reset 2 _, 0#1⟩, .dp1 ⟨false, 0#9⟩⟩

theorem idle_isReset : IsReset idle := ⟨⟨fun _ => ⟨rfl, rfl, rfl⟩, fun _ => ⟨rfl, rfl, rfl⟩, rfl⟩, rfl, rfl⟩

theorem slaves_portThenNowhere : Slaves pages portThenNowhere idle := by
  intro t k r hmem
  have hvalid : (portThenNowhere t).oIcbRspValid k = true := by
    obtain ⟨y, hy, hport⟩ := List.mem_map.mp hmem
    obtain ⟨j, -, hj⟩ := List.mem_flatMap.mp hy
    split at hj
    next hh =>
      rw [List.mem_singleton.mp hj] at hport
      have hrsp := ((Bool.and_eq_true _ _).mp hh).1
      exact (rspValid_of_port (congrArg Prod.fst hport) _ _).symm.trans hrsp
    next => cases hj
  obtain ⟨rfl, rfl⟩ : t = 3 ∧ k = 3 := by simpa [portThenNowhere] using hvalid
  decide

theorem complete_exclusive_portThenNowhere :
    (emitted (reachedAt pages portThenNowhere idle) 0 6).map Prod.fst = [some 3, none] ∧
      (emitted (answeredAt pages portThenNowhere idle) 0 6).map Prod.fst = [some 3, none] ∧
      (emitted (answeredAt pages portThenNowhere idle) 0 6).map Prod.fst <+:
        (emitted (reachedAt pages portThenNowhere idle) 0 6).map Prod.fst :=
  ⟨by decide, by decide,
    (complete_exclusive pages_disjoint portThenNowhere idle_isReset
      slaves_portThenNowhere).2.2.2.2.1 6⟩

end
end E203.Icb1to8Bus
