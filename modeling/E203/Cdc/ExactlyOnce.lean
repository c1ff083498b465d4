import E203.Lib.Channel
import E203.Cdc.Handshake

/-! # Words cross exactly once and in order

Over every run of the pair, under every order of edges of the two clocks: what the receiver hands out
and what is in flight are together what the transmitter accepted, and the receiver samples the data bus
only when the word has been on it for as many of its edges as its synchroniser is deep.
-/

namespace E203.Cdc
set_option autoImplicit false
open Lib (stateAt emitted)

section
variable {DW TX_DP RX_DP : ℕ} [NeZero TX_DP] [NeZero RX_DP] (inp : ℕ → In DW)

/-- The pair after `t` events from reset. -/
def st (TX_DP RX_DP : ℕ) [NeZero TX_DP] [NeZero RX_DP] (inp : ℕ → In DW) (t : ℕ) :
    State DW TX_DP RX_DP :=
  stateAt step inp (reset DW TX_DP RX_DP) t

/-- The edges of the receiver's clock from event `a` on, before event `t`. -/
def rxEdges (a t : ℕ) : ℕ := (emitted (fun v => if (inp v).rxClk then [v] else []) a t).length

/-- The word on the data bus was accepted in event `u`, and none since. -/
structure LastAccepted (TX_DP RX_DP : ℕ) [NeZero TX_DP] [NeZero RX_DP] (inp : ℕ → In DW)
    (u t : ℕ) : Prop where
  before : u < t
  word : accepted (st TX_DP RX_DP inp u) (inp u) = [(st TX_DP RX_DP inp t).tx.datR]
  none_since : ∀ v, u < v → v < t → accepted (st TX_DP RX_DP inp v) (inp v) = []

variable {inp} {t u : ℕ}

theorem rxEdges_succ (h : u ≤ t) :
    rxEdges inp u (t + 1) = rxEdges inp u t + if (inp t).rxClk then 1 else 0 := by
  rw [rxEdges, Lib.emitted_succ h, List.length_append, rxEdges]
  cases (inp t).rxClk <;> rfl

/-- What is known of a request at `t`: it has passed no more registers than the receiver had edges
since the word was accepted. -/
def Requested (TX_DP RX_DP : ℕ) [NeZero TX_DP] [NeZero RX_DP] (inp : ℕ → In DW) (t k : ℕ) : Prop :=
  ∃ u, LastAccepted TX_DP RX_DP inp u t ∧ k ≤ rxEdges inp (u + 1) t

theorem datR_of_accepted {s : State DW TX_DP RX_DP} {i : In DW} (h : accepted s i ≠ []) :
    accepted s i = [(step i s).tx.datR] := by
  rw [accepted] at h ⊢
  split at h
  next hc =>
    rw [Bool.and_eq_true] at hc
    have hd : (CdcTx.step (txIn s i) s.tx).datR = i.iDat :=
      congrArg (fun c => dfflr c (txIn s i).iDat s.tx.datR) hc.2
    rw [step, if_pos (Bool.and_eq_true _ _ ▸ hc), if_pos hc.1, hd]
  next => exact absurd rfl h

theorem datR_of_not_accepted {s : State DW TX_DP RX_DP} {i : In DW} (h : accepted s i = []) :
    (step i s).tx.datR = s.tx.datR := by
  rw [accepted] at h
  split at h
  next => exact absurd h (List.cons_ne_nil _ _)
  next hc =>
    rw [step]
    cases hclk : i.txClk with
    | false => rfl
    | true =>
      rw [hclk, Bool.true_and, Bool.not_eq_true] at hc
      exact congrArg (fun c => dfflr c (txIn s i).iDat s.tx.datR) hc

theorem requested_new (h : accepted (st TX_DP RX_DP inp t) (inp t) ≠ []) :
    Requested TX_DP RX_DP inp (t + 1) 0 := by
  refine ⟨t, ⟨Nat.lt_succ_self t, datR_of_accepted h, ?_⟩, Nat.zero_le _⟩
  intro v h1 h2
  omega

theorem Requested.next {k : ℕ} (h : Requested TX_DP RX_DP inp t k)
    (ha : accepted (st TX_DP RX_DP inp t) (inp t) = []) :
    Requested TX_DP RX_DP inp (t + 1) (if (inp t).rxClk then k + 1 else k) := by
  obtain ⟨u, ⟨hu, hw, hno⟩, hk⟩ := h
  refine ⟨u, ⟨by omega, ?_, ?_⟩, ?_⟩
  · rw [hw]
    exact congrArg (fun w => [w]) (datR_of_not_accepted ha).symm
  · intro v h1 h2
    obtain hlt | rfl := Nat.lt_succ_iff_lt_or_eq.mp h2
    · exact hno v h1 hlt
    · exact ha
  · rw [rxEdges_succ (by omega)]
    cases (inp t).rxClk
    · exact hk
    · exact Nat.succ_le_succ hk

/-! ## Runs -/

omit [NeZero TX_DP] [NeZero RX_DP] in
theorem phase_reset (P : ℕ → Prop) : Phase P (reset DW TX_DP RX_DP) := by
  refine .idle ⟨rfl, rfl, fun i => ?_, ?_⟩ ⟨rfl, fun i => ?_, ?_⟩
  · exact (if_pos (Nat.lt_succ_of_lt i.isLt)).symm
  · exact (if_pos (Nat.lt_succ_self _)).symm
  · exact (if_pos (Nat.lt_succ_of_lt i.isLt)).symm
  · exact (if_pos (Nat.lt_succ_self _)).symm

theorem moves_run (h : Phase (Requested TX_DP RX_DP inp t) (st TX_DP RX_DP inp t)) :
    Moves (Requested TX_DP RX_DP inp (t + 1)) (st TX_DP RX_DP inp t) (inp t) :=
  h.step requested_new fun _ hP ha _ => hP.next ha

theorem phase_run (inp : ℕ → In DW) (t : ℕ) :
    Phase (Requested TX_DP RX_DP inp t) (st TX_DP RX_DP inp t) := by
  induction t with
  | zero => exact phase_reset _
  | succ t ih => exact (moves_run ih).phase

/-- One event appends what is accepted to what is in flight, and takes from its front. -/
theorem conserves (inp : ℕ → In DW) :
    Lib.Conserves (fun t => accepted (st TX_DP RX_DP inp t) (inp t))
      (fun t => handedOut (st TX_DP RX_DP inp t) (inp t))
      fun t => inFlight (st TX_DP RX_DP inp t) where
  start := rfl
  cycle t := by
    have hmoves : Moves _ (st TX_DP RX_DP inp t) (inp t) := moves_run (phase_run inp t)
    have htx := hmoves.word
    have hrx := rxWord_cycle (st TX_DP RX_DP inp t) (inp t)
    calc rxWord (st TX_DP RX_DP inp t) ++ txWord (st TX_DP RX_DP inp t) ++
          accepted (st TX_DP RX_DP inp t) (inp t)
        = rxWord (st TX_DP RX_DP inp t) ++ (sampled (st TX_DP RX_DP inp t) (inp t) ++
          txWord (st TX_DP RX_DP inp (t + 1))) := by rw [List.append_assoc, htx]; rfl
      _ = handedOut (st TX_DP RX_DP inp t) (inp t) ++ (rxWord (st TX_DP RX_DP inp (t + 1)) ++
          txWord (st TX_DP RX_DP inp (t + 1))) := by
        rw [← List.append_assoc, hrx, List.append_assoc]; rfl

omit [NeZero TX_DP] [NeZero RX_DP] in
theorem length_inFlight (s : State DW TX_DP RX_DP) : (inFlight s).length ≤ 2 := by
  rw [inFlight, List.length_append]
  have hone : ∀ (c : Bool) (w : BitVec DW), (if c then [w] else []).length ≤ 1 := by
    intro c w
    cases c
    · exact Nat.zero_le 1
    · exact Nat.le_refl 1
  exact Nat.add_le_add (hone _ _) (hone _ _)

/-- The words handed out are those accepted, in order, up to at most two in flight; where the
receiver samples the data bus, the transmitter does not load it, and the word has been there for at
least as many edges of the receiver's clock as its synchroniser has registers. -/
theorem exactly_once (inp : ℕ → In DW) (t : ℕ) :
    let acc := emitted (fun t => accepted (st TX_DP RX_DP inp t) (inp t)) 0 t
    let out := emitted (fun t => handedOut (st TX_DP RX_DP inp t) (inp t)) 0 t
    out <+: acc ∧ acc = out ++ inFlight (st TX_DP RX_DP inp t) ∧
      (inFlight (st TX_DP RX_DP inp t)).length ≤ 2 ∧
      (samples (st TX_DP RX_DP inp t) (inp t) = true →
        accepted (st TX_DP RX_DP inp t) (inp t) = [] ∧
        ∃ u, LastAccepted TX_DP RX_DP inp u t ∧ RX_DP ≤ rxEdges inp (u + 1) t) := by
  have hcons := @conserves _ TX_DP RX_DP _ _ inp
  refine ⟨hcons.isPrefix t, hcons.emitted_eq t, length_inFlight _, ?_⟩
  intro hs
  obtain ⟨k, hk, ⟨u, hu, hle⟩, ha⟩ := (phase_run inp t).of_samples hs
  exact ⟨ha, u, hu, Nat.le_trans hk hle⟩

end

/-- The transmitter's clock rises in every event and the receiver's in every second one; a new word
is offered in each. -/
def crossing (t : ℕ) : In 8 := ⟨true, t % 2 == 0, true, BitVec.ofNat 8 t, true⟩

theorem exactly_once_crossing :
    emitted (fun t => handedOut (st 2 2 crossing t) (crossing t)) 0 32 = [0#8, 17#8] ∧
      emitted (fun t => handedOut (st 2 2 crossing t) (crossing t)) 0 32 <+:
        emitted (fun t => accepted (st 2 2 crossing t) (crossing t)) 0 32 :=
  ⟨by decide +kernel, (@exactly_once 8 2 2 _ _ crossing 32).1⟩

end E203.Cdc
