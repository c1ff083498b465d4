import E203.Lib.Queue
import E203.Lib.Ring
import E203.Rtl.Uart

/-! # The queues of the UART

The bytes are in a ring of eight cells.  With equal pointers the queue is full or empty, and
`maybe_full` says which.

* `Queue1.Has s l`: the bytes of a queue; `Queue1.Has.step`, `Queue1.conserves`.
* `Queue1.Has.ioDeqValid_iff`, `Queue1.Has.ioEnqReady_iff`: what it shows.
-/

namespace E203.Queue1
set_option autoImplicit false
open Lib (slot InRing)

structure Has (s : State) (l : List (BitVec 8)) : Prop where
  ring : InRing s.ram s.deqPtr.val l
  enqPtr : s.enqPtr.val = slot 8 s.deqPtr.val l.length
  full : s.enqPtr = s.deqPtr → (s.maybeFull = true ↔ l.length = 8)

/-- What a queue takes in, and what it hands out. -/
def enqueued (i : In) (s : State) : List (BitVec 8) := if doEnq i s then [i.ioEnqBits] else []

def dequeued (i : In) (s : State) : List (BitVec 8) := if doDeq i s then [ioDeqBits s] else []

theorem has_reset {s : State} (h : IsReset s) : Has s [] where
  ring := .nil s.deqPtr.isLt s.ram
  enqPtr := by
    rw [h.enqPtr, h.deqPtr]
    rfl
  full _ := by
    rw [h.maybeFull]
    decide

section
variable {s : State} {i : In} {l : List (BitVec 8)}

/-! ## What it shows -/

theorem Has.ptrMatch_iff (h : Has s l) : ptrMatch s = true ↔ l.length = 0 ∨ l.length = 8 := by
  have hlen := h.ring.length_le
  have hlt := s.deqPtr.isLt
  rw [ptrMatch, beq_iff_eq, Fin.ext_iff, h.enqPtr, slot]
  split <;> omega

theorem Has.ioEnqReady_iff (h : Has s l) : ioEnqReady s = true ↔ l.length < 8 := by
  have hlen := h.ring.length_le
  have hfull : Queue1.full s = true ↔ l.length = 8 := by
    rw [Queue1.full, Bool.and_eq_true]
    constructor
    · rintro ⟨hmatch, hmf⟩
      exact (h.full (beq_iff_eq.mp hmatch)).mp hmf
    · intro h8
      have hmatch := h.ptrMatch_iff.mpr (Or.inr h8)
      exact ⟨hmatch, (h.full (beq_iff_eq.mp hmatch)).mpr h8⟩
  rw [ioEnqReady, Bool.not_eq_true', ← Bool.not_eq_true, hfull]
  omega

theorem Has.ioDeqValid_iff (h : Has s l) : ioDeqValid s = true ↔ l ≠ [] := by
  have hempty : empty s = true ↔ l = [] := by
    rw [empty, Bool.and_eq_true, Bool.not_eq_true', ← List.length_eq_zero_iff]
    constructor
    · rintro ⟨hmatch, hmf⟩
      have h8 := (h.full (beq_iff_eq.mp hmatch)).not
      rw [hmf] at h8
      have hne := h8.mp Bool.false_ne_true
      have hmatch' := h.ptrMatch_iff.mp hmatch
      omega
    · intro h0
      have hmatch := h.ptrMatch_iff.mpr (Or.inl h0)
      refine ⟨hmatch, ?_⟩
      rw [← Bool.not_eq_true, h.full (beq_iff_eq.mp hmatch)]
      omega
  rw [ioDeqValid, Bool.not_eq_true', ← Bool.not_eq_true, hempty]

theorem Has.ioDeqBits_eq {x : BitVec 8} (h : Has s (x :: l)) : ioDeqBits s = x := h.ring.head_eq

/-! ## A cycle -/

theorem val_succ (k : Fin 8) : (k + 1).val = slot 8 k.val 1 := by
  revert k
  decide

theorem length_append_enqueued (l : List (BitVec 8)) :
    (l ++ enqueued i s).length = l.length + if doEnq i s then 1 else 0 := by
  rw [enqueued, List.length_append]
  split <;> rfl

/-- Equal pointers are those of an empty ring or a full one. -/
theorem length_of_match {p e : Fin 8} {n : ℕ} (hn : n ≤ 8) (he : e.val = slot 8 p.val n) (heq : e = p) :
    n = 0 ∨ n = 8 := by
  rw [heq, slot] at he
  split at he <;> omega

theorem step_deqPtr_val : (step i s).deqPtr.val = slot 8 s.deqPtr.val (if doDeq i s then 1 else 0) := by
  change (if doDeq i s then s.deqPtr + 1 else s.deqPtr).val = _
  cases doDeq i s
  · exact (Lib.slot_zero s.deqPtr.isLt).symm
  · exact val_succ s.deqPtr

/-- The byte that is taken in goes behind the others. -/
theorem Has.ring_enqueued (h : Has s l) (i : In) :
    InRing (step i s).ram s.deqPtr.val (l ++ enqueued i s) := by
  cases henq : doEnq i s
  case true =>
    have hroom : l.length < 8 := h.ioEnqReady_iff.mp ((Bool.and_eq_true _ _).mp henq).1
    have hram : (step i s).ram =
        fun c => if c.val = slot 8 s.deqPtr.val l.length then i.ioEnqBits else s.ram c := by
      funext c
      change (if doEnq i s && c == s.enqPtr then _ else _) = _
      rw [henq, Bool.true_and, ← h.enqPtr]
      by_cases hc : c = s.enqPtr
      · rw [hc, if_pos rfl, beq_self_eq_true, if_pos rfl]
      · rw [if_neg (fun hv => hc (Fin.ext hv)), beq_eq_false_iff_ne.mpr hc, if_neg (by decide)]
    rw [hram, enqueued, if_pos henq]
    exact h.ring.push hroom i.ioEnqBits
  case false =>
    have hram : (step i s).ram = s.ram := by
      funext c
      change (if doEnq i s && c == s.enqPtr then _ else _) = _
      rw [henq, Bool.false_and]
      rfl
    rw [hram, enqueued, henq, if_neg Bool.false_ne_true, List.append_nil]
    exact h.ring

theorem Has.enqPtr_enqueued (h : Has s l) (i : In) :
    (step i s).enqPtr.val = slot 8 s.deqPtr.val (l ++ enqueued i s).length := by
  change (if doEnq i s then s.enqPtr + 1 else s.enqPtr).val = _
  rw [length_append_enqueued]
  cases henq : doEnq i s
  case true =>
    have hroom : l.length < 8 := h.ioEnqReady_iff.mp ((Bool.and_eq_true _ _).mp henq).1
    rw [if_pos rfl, if_pos rfl, val_succ, h.enqPtr, Lib.slot_succ s.deqPtr.isLt hroom]
  case false =>
    rw [if_neg Bool.false_ne_true, if_neg Bool.false_ne_true]
    exact h.enqPtr

/-- The flag of a queue that hands out a byte: it is full again if it was full and takes one in. -/
theorem Has.full_of_deq {x : BitVec 8} (h : Has s (x :: l)) (hdeq : doDeq i s = true)
    (hend : (l ++ enqueued i s).length = 0 ∨ (l ++ enqueued i s).length = 8) :
    (step i s).maybeFull = true ↔ (l ++ enqueued i s).length = 8 := by
  have hlen := h.ring.length_le
  rw [List.length_cons] at hlen
  rw [length_append_enqueued] at hend ⊢
  change (if doEnq i s != doDeq i s then doEnq i s else s.maybeFull) = true ↔ _
  rw [hdeq]
  cases henq : doEnq i s with
  | false =>
    rw [henq, if_neg Bool.false_ne_true] at hend
    change false = true ↔ _
    simp only [Bool.false_eq_true, false_iff, if_false]
    omega
  | true =>
    rw [henq, if_pos rfl] at hend
    change s.maybeFull = true ↔ _
    have hold : s.enqPtr = s.deqPtr := by
      have hpm : ptrMatch s = true := h.ptrMatch_iff.mpr (by rw [List.length_cons]; omega)
      exact beq_iff_eq.mp hpm
    rw [h.full hold, List.length_cons, if_pos rfl]

/-- The flag of a queue that hands out nothing: it is full if it was, or takes in the last byte. -/
theorem Has.full_of_keep (h : Has s l) (hdeq : doDeq i s = false)
    (hend : (l ++ enqueued i s).length = 0 ∨ (l ++ enqueued i s).length = 8) :
    (step i s).maybeFull = true ↔ (l ++ enqueued i s).length = 8 := by
  rw [length_append_enqueued] at hend ⊢
  change (if doEnq i s != doDeq i s then doEnq i s else s.maybeFull) = true ↔ _
  rw [hdeq]
  cases henq : doEnq i s with
  | false =>
    rw [henq, if_neg Bool.false_ne_true] at hend
    change s.maybeFull = true ↔ _
    have hold : s.enqPtr = s.deqPtr := by
      have hpm : ptrMatch s = true := h.ptrMatch_iff.mpr (by omega)
      exact beq_iff_eq.mp hpm
    rw [h.full hold, if_neg Bool.false_ne_true, Nat.add_zero]
  | true =>
    rw [henq, if_pos rfl] at hend
    change true = true ↔ _
    simp only [if_true, true_iff]
    omega

theorem Has.deq {x : BitVec 8} (h : Has s (x :: l)) (hdeq : doDeq i s = true) :
    Has (step i s) (l ++ enqueued i s) := by
  have hring : InRing (step i s).ram s.deqPtr.val (x :: (l ++ enqueued i s)) := h.ring_enqueued i
  have hle := hring.length_le
  rw [List.length_cons] at hle
  have hdp : (step i s).deqPtr.val = slot 8 s.deqPtr.val 1 := by
    rw [step_deqPtr_val, hdeq]
    rfl
  have hptr : (step i s).enqPtr.val = slot 8 (step i s).deqPtr.val (l ++ enqueued i s).length := by
    rw [hdp, Lib.slot_next s.deqPtr.isLt (by omega)]
    exact h.enqPtr_enqueued i
  refine ⟨?_, hptr, fun heq => h.full_of_deq hdeq (length_of_match (by omega) hptr heq)⟩
  rw [hdp]
  exact hring.pop

theorem Has.keep (h : Has s l) (hdeq : doDeq i s = false) : Has (step i s) (l ++ enqueued i s) := by
  have hring := h.ring_enqueued i
  have hdp : (step i s).deqPtr.val = s.deqPtr.val := by
    rw [step_deqPtr_val, hdeq]
    exact Lib.slot_zero s.deqPtr.isLt
  have hptr : (step i s).enqPtr.val = slot 8 (step i s).deqPtr.val (l ++ enqueued i s).length := by
    rw [hdp]
    exact h.enqPtr_enqueued i
  refine ⟨?_, hptr, fun heq => h.full_of_keep hdeq (length_of_match hring.length_le hptr heq)⟩
  rw [hdp]
  exact hring

/-- What is handed out was the first byte, and what is taken in becomes the last. -/
theorem Has.step (h : Has s l) (i : In) :
    ∃ l', Has (step i s) l' ∧ l ++ enqueued i s = dequeued i s ++ l' := by
  cases hdeq : doDeq i s
  case true =>
    have hne : l ≠ [] := h.ioDeqValid_iff.mp ((Bool.and_eq_true _ _).mp hdeq).2
    obtain ⟨x, l, rfl⟩ := List.exists_cons_of_ne_nil hne
    refine ⟨l ++ enqueued i s, h.deq hdeq, ?_⟩
    rw [dequeued, if_pos hdeq, h.ioDeqBits_eq]
    rfl
  case false =>
    refine ⟨l ++ enqueued i s, h.keep hdeq, ?_⟩
    rw [dequeued, hdeq]
    rfl

/-- A reader that comes in every cycle leaves at most one byte. -/
theorem Has.step_ready (h : Has s l) (hlen : l.length ≤ 1) (hrdy : i.ioDeqReady = true) :
    ∃ l', Has (Queue1.step i s) l' ∧ l'.length ≤ 1 := by
  obtain ⟨l', hl', heq⟩ := h.step i
  refine ⟨l', hl', ?_⟩
  have hin : (enqueued i s).length ≤ 1 := Lib.length_ite_le _ _
  have hcount := congrArg List.length heq
  rw [List.length_append, List.length_append] at hcount
  by_cases hne : l = []
  · rw [hne, List.length_nil] at hcount
    omega
  · have hdeq : doDeq i s = true := by rw [doDeq, hrdy, h.ioDeqValid_iff.mpr hne]; rfl
    have hout : (dequeued i s).length = 1 := by rw [dequeued, if_pos hdeq, List.length_singleton]
    omega

/-! ## A run -/

/-- The queue hands out what it takes in, in order. -/
theorem conserves {q : ℕ → State} {j : ℕ → In} (h0 : Has (q 0) [])
    (hstep : ∀ t, q (t + 1) = step (j t) (q t)) :
    Lib.Conserves (fun t => enqueued (j t) (q t)) (fun t => dequeued (j t) (q t))
        (Lib.backlog (fun t => enqueued (j t) (q t)) fun t => dequeued (j t) (q t)) ∧
      ∀ t, Has (q t)
        (Lib.backlog (fun t => enqueued (j t) (q t)) (fun t => dequeued (j t) (q t)) t) := by
  refine Lib.conserves_of_cycle h0 fun t l hl => ?_
  obtain ⟨l', hl', heq⟩ := hl.step (j t)
  refine ⟨l', ?_, heq⟩
  rw [hstep]
  exact hl'

end
end E203.Queue1
