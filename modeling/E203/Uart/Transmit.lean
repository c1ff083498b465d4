import E203.Lib.Serial
import E203.Rtl.Uart

/-! # The frames that the transmitter sends

A byte that is taken is on the line as a frame, which starts when the divider has run out.  The divider
keeps its value between two frames, so that a frame starts a bit and a cycle after the stop bit of the
one before it, or later.

* `Rests`: no bit is left.
* `Sends T s b N k t u`: at `t`, the state `u` has put `k` of the `N` bits of the frame of `b`, which
  starts at `s`, on the line.
* `Sends.step`, `Sends.of_load`: a cycle.
-/

namespace E203.Uarttx
set_option autoImplicit false
open Lib (frameBit level)

/-- No bit is left. -/
structure Rests (u : State) : Prop where
  counter : u.counter = 0#4
  out : u.out = true

structure Sends (T s : ℕ) (b : BitVec 8) (N k t : ℕ) (u : State) : Prop where
  bits : N = 10 ∨ N = 11
  left : k < N
  counter : u.counter.toNat = N - k
  shifter : ∀ m < 9, u.shifter.getLsbD m = frameBit b (k + m)
  out : u.out = if k = 0 then true else frameBit b (k - 1)
  time : t + u.prescaler.toNat + 1 = s + k * T
  short : k ≠ 0 → u.prescaler.toNat < T

theorem rests_reset : Rests reset := ⟨rfl, rfl⟩

section
variable {T s N k t : ℕ} {b : BitVec 8} {u : State} {i : In}

theorem busy_eq_false_iff : busy u = false ↔ u.counter = 0#4 := by
  rw [busy, bne_eq_false_iff_eq]

theorem Rests.busy_eq (h : Rests u) : busy u = false := busy_eq_false_iff.mpr h.counter

theorem Rests.shift_eq (h : Rests u) : shift u = false := by
  rw [shift, h.busy_eq, Bool.and_false]

theorem Sends.busy_eq (h : Sends T s b N k t u) : busy u = true := by
  rw [← Bool.not_eq_false, busy_eq_false_iff]
  intro hzero
  have hcnt := h.counter
  have hleft := h.left
  rw [hzero] at hcnt
  change 0 = N - k at hcnt
  omega

theorem Sends.load_eq (h : Sends T s b N k t u) : load i u = false := by
  rw [load, ioInReady, h.busy_eq, Bool.not_true, Bool.and_false, Bool.false_and]

/-! ## The line -/

theorem Sends.before (h : Sends T s b N 0 t u) : t < s := by
  have htime := h.time
  omega

theorem Sends.out_of_zero (h : Sends T s b N 0 t u) : u.out = true := h.out

/-- The line has the bits of the frame, each as long as the divider says. -/
theorem Sends.line (h : Sends T s b N k t u) (hk : k ≠ 0) : s ≤ t ∧ u.out = level T b (t - s) := by
  have hshort := h.short hk
  have htime := h.time
  have hsplit : k * T = (k - 1) * T + T := by
    rw [← Nat.succ_mul, Nat.succ_eq_add_one, Nat.sub_add_cancel (by omega)]
  refine ⟨by omega, ?_⟩
  rw [h.out, if_neg hk, Lib.level_eq (T := T) (q := k - 1) (by omega) (by omega)]

/-! ## A cycle -/

theorem prescaler_of_busy (h : busy u = true) :
    (step i u).prescaler = if pulse u then i.ioDiv else u.prescaler - 1#16 := by
  change (if busy u then _ else _) = _
  rw [if_pos h]

theorem pulse_iff : pulse u = true ↔ u.prescaler.toNat = 0 := by
  rw [pulse, beq_iff_eq, ← BitVec.toNat_inj]
  rfl

theorem Rests.step (h : Rests u) (hload : load i u = false) :
    Rests (step i u) ∧ (Uarttx.step i u).prescaler = u.prescaler := by
  refine ⟨⟨?_, ?_⟩, ?_⟩
  · change (if shift u then _ else if load i u then _ else u.counter) = 0#4
    rw [h.shift_eq, hload]
    exact h.counter
  · change (if shift u then _ else u.out) = true
    rw [h.shift_eq]
    exact h.out
  · change (if busy u then _ else u.prescaler) = _
    rw [h.busy_eq]
    rfl

/-- The frame of a byte that is taken at `t` starts when the divider has run out. -/
theorem Rests.load (h : Rests u) (hload : load i u = true) :
    ∃ N, Sends T (t + 2 + u.prescaler.toNat) i.ioInBits N 0 (t + 1) (Uarttx.step i u) := by
  have hcnt : (Uarttx.step i u).counter = bits i := by
    change (if shift u then _ else if Uarttx.load i u then _ else _) = _
    rw [h.shift_eq, hload]
    rfl
  have hshf : (Uarttx.step i u).shifter = i.ioInBits ++ 0#1 := by
    change (if shift u then _ else if Uarttx.load i u then _ else _) = _
    rw [h.shift_eq, hload]
    rfl
  have hout : (Uarttx.step i u).out = u.out := by
    change (if shift u then _ else _) = _
    rw [h.shift_eq]
    rfl
  have hpre : (Uarttx.step i u).prescaler = u.prescaler := by
    change (if busy u then _ else _) = _
    rw [h.busy_eq]
    rfl
  have hbits : (bits i).toNat = 10 ∨ (bits i).toNat = 11 := by
    rw [bits]
    cases i.ioNstop
    · exact Or.inl rfl
    · exact Or.inr rfl
  refine ⟨(bits i).toNat, hbits, by omega, ?_, fun m hm => ?_, ?_, ?_, fun h0 => absurd rfl h0⟩
  · rw [hcnt]
    rfl
  · rw [hshf, BitVec.getLsbD_append, Nat.zero_add]
    obtain _ | m := m
    · rfl
    · rw [if_neg (by omega), Nat.add_sub_cancel, Lib.frameBit_data (by omega)]
  · rw [hout]
    exact h.out
  · rw [hpre]
    omega

/-- Each cycle counts the divider down; when it has run out the next bit follows. -/
theorem Sends.step (h : Sends T s b N k t u) (hdiv : i.ioDiv.toNat + 1 = T) :
    (u.prescaler.toNat ≠ 0 ∧ Sends T s b N k (t + 1) (step i u)) ∨
      (t + 1 = s + k * T ∧ k + 1 < N ∧ Sends T s b N (k + 1) (t + 1) (Uarttx.step i u)) ∨
      (s + 9 * T ≤ t + 1 ∧ 10 ≤ k + 1 ∧ Rests (Uarttx.step i u) ∧
        (Uarttx.step i u).prescaler.toNat + 1 = T) := by
  have hbusy := h.busy_eq
  have htime := h.time
  by_cases hpulse : pulse u = true
  · -- the next bit
    have hzero := pulse_iff.mp hpulse
    have hshift : shift u = true := by rw [shift, hpulse, hbusy]; rfl
    have hpre : (Uarttx.step i u).prescaler = i.ioDiv := by rw [prescaler_of_busy hbusy, if_pos hpulse]
    have hone : (1#4).toNat ≤ u.counter.toNat := by
      have hleft := h.left
      rw [h.counter]
      change 1 ≤ N - k
      omega
    have hcnt : (Uarttx.step i u).counter.toNat = N - (k + 1) := by
      change (if shift u then u.counter - 1#4 else _).toNat = _
      rw [if_pos hshift, BitVec.toNat_sub_of_le hone, h.counter, Nat.sub_sub]
      rfl
    have hout : (Uarttx.step i u).out = frameBit b k := by
      change (if shift u then u.shifter.getLsbD 0 else _) = _
      rw [if_pos hshift, h.shifter 0 (by omega), Nat.add_zero]
    by_cases hlast : k + 1 < N
    · refine Or.inr (Or.inl ⟨by omega, hlast, h.bits, hlast, hcnt, fun m hm => ?_, ?_, ?_, fun _ => ?_⟩)
      · change (if shift u then 1#1 ++ u.shifter.extractLsb' 1 8 else _).getLsbD m = _
        rw [if_pos hshift, BitVec.getLsbD_append]
        by_cases hm8 : m < 8
        · rw [if_pos hm8, BitVec.getLsbD_extractLsb', decide_eq_true hm8, Bool.true_and,
            h.shifter (1 + m) (by omega)]
          congr 1
          omega
        · have hm' : m = 8 := by omega
          subst hm'
          exact (Lib.frameBit_rest (by omega)).symm
      · rw [hout, if_neg (Nat.succ_ne_zero k), Nat.add_sub_cancel]
      · rw [hpre, Nat.succ_mul]
        omega
      · rw [hpre]
        omega
    · have hbits := h.bits
      have hleft := h.left
      have hmul : 9 * T ≤ k * T := Nat.mul_le_mul_right T (by omega)
      refine Or.inr (Or.inr ⟨by omega, by omega, ⟨?_, ?_⟩, ?_⟩)
      · rw [← BitVec.toNat_inj, hcnt]
        change N - (k + 1) = 0
        omega
      · rw [hout]
        exact Lib.frameBit_rest (by omega)
      · rw [hpre]
        exact hdiv
  · -- the divider counts
    have hpos : u.prescaler.toNat ≠ 0 := fun hzero => hpulse (pulse_iff.mpr hzero)
    have hshift : shift u = false := by
      rw [shift, Bool.eq_false_iff.mpr hpulse, Bool.false_and]
    have hone : (1#16).toNat ≤ u.prescaler.toNat := Nat.pos_of_ne_zero hpos
    have hpre : (Uarttx.step i u).prescaler.toNat = u.prescaler.toNat - 1 := by
      rw [prescaler_of_busy hbusy, if_neg hpulse, BitVec.toNat_sub_of_le hone]
      rfl
    refine Or.inl ⟨hpos, h.bits, h.left, ?_, fun m hm => ?_, ?_, ?_, fun hk => ?_⟩
    · change (if shift u then _ else if Uarttx.load i u then _ else u.counter).toNat = _
      rw [hshift, h.load_eq]
      exact h.counter
    · change (if shift u then _ else if Uarttx.load i u then _ else u.shifter).getLsbD m = _
      rw [hshift, h.load_eq]
      exact h.shifter m hm
    · change (if shift u then _ else u.out) = _
      rw [hshift]
      exact h.out
    · rw [hpre]
      omega
    · have hshort := h.short hk
      rw [hpre]
      omega

end
end E203.Uarttx
