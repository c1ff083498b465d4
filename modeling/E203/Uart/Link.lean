import E203.Lib.Queue
import E203.Uart.Receive
import E203.Uart.Transmit

/-! # The line between two UARTs

The line of one transmitter is the input of one receiver, with the same clock.  Each has its own divider;
the ticks of the receiver have to fit to the bits of the transmitter, also when frames follow each other
without a pause.

* `Fits T τ`: the dividers that do.
* `Joined T τ s t x r l`: the states of both ends at `t`, with the bytes `l` on the way; the first one
  has its frame at `s`.
* `Joined.step`: a cycle.
* `Wired`: a run of both ends; `Wired.conserves`, `Wired.eventually`.
-/

namespace E203.UartLine
set_option autoImplicit false
open Lib (level Tolerates Conserves)
open Uarttx (Rests Sends)
open Uartrx (Waits Receives)

/-- A frame is over for the receiver before the next one can start. -/
structure Fits (T τ : ℕ) : Prop extends Tolerates T τ where
  pause : 153 * τ + 3 ≤ 10 * T

/-- Two equal dividers fit when little is left over at the end of a bit. -/
theorem fits_self {d : ℕ} (h : 10 * (15 - d % 16) + 3 ≤ 7 * (d / 16 + 1)) :
    Fits (d + 1) (d / 16 + 1) where
  short := by omega
  long := by omega
  pos := Nat.succ_pos _
  pause := by omega

-- the divider after reset
example : Fits (0x21e + 1) (0x21e / 16 + 1) := fits_self (by decide)

inductive Joined (T τ s t : ℕ) (x : Uarttx.State) (r : Uartrx.State) : List (BitVec 8) → Prop
  | rest (hx : Rests x) (hp : x.prescaler.toNat < T) (hr : Waits r) : Joined T τ s t x r []
  | ahead (N : ℕ) (b : BitVec 8) (hx : Sends T s b N 0 t x) (hr : Waits r) : Joined T τ s t x r [b]
  | frame (N k : ℕ) (b : BitVec 8) (hx : Sends T s b N k t x) (hk : k ≠ 0)
      (hr : Receives T τ s b t r) : Joined T τ s t x r [b]
  | stop (N k s' : ℕ) (b : BitVec 8) (hx : Sends T s' b N k t x) (hk : 10 ≤ k) (hr : Waits r) :
      Joined T τ s t x r []
  | ended (b : BitVec 8) (hx : Rests x) (ht : s + 9 * T ≤ t) (hp : x.prescaler.toNat + 1 = T)
      (hr : Receives T τ s b t r) : Joined T τ s t x r [b]
  | next (N s' : ℕ) (b b' : BitVec 8) (hx : Sends T s' b' N 0 t x) (ht : s + 9 * T ≤ t)
      (hs : s + 10 * T + 1 ≤ s') (hr : Receives T τ s b t r) : Joined T τ s t x r [b, b']

/-- The bytes that are taken in a cycle, and those that are handed out. -/
def taken (x : Uarttx.State) (i : Uarttx.In) : List (BitVec 8) :=
  if Uarttx.load i x then [i.ioInBits] else []

def handed (r : Uartrx.State) : List (BitVec 8) := if r.valid then [r.shifter] else []

section
variable {T τ s t : ℕ} {x : Uarttx.State} {r : Uartrx.State} {i : Uarttx.In} {j : Uartrx.In}
  {l : List (BitVec 8)}

theorem handed_of_not_valid (h : r.valid = false) : handed r = [] := by
  rw [handed, h]
  rfl

theorem handed_of_valid (h : r.valid = true) : handed r = [r.shifter] := if_pos h

/-- What the receiver sees: the frame that it is in, or the line at rest. -/
theorem Joined.le (h : Joined T τ s t x r l) (hl : l ≠ []) :
    t ≤ s + 3 + 153 * τ := by
  cases h with
  | rest | stop => exact absurd rfl hl
  | ahead N b hx hr =>
    have hbefore := hx.before
    omega
  | frame N k b hx hk hr => exact hr.le
  | ended b hx ht hp hr => exact hr.le
  | next N s' b b' hx ht hs hr => exact hr.le

/-- The cycle of the receiver while it is in a frame. -/
theorem Receives.handed {b : BitVec 8} (h : Receives T τ s b t r) (hfit : Fits T τ)
    (hen : j.ioEn = true) (hline : j.ioIn = level T b (t - s)) (hdiv : j.ioDiv.toNat / 16 + 1 = τ) :
    (Receives T τ s b (t + 1) (Uartrx.step j r) ∧ handed (Uartrx.step j r) = []) ∨
      (t = s + 3 + 153 * τ ∧ Waits (Uartrx.step j r) ∧ handed (Uartrx.step j r) = [b]) := by
  rcases h.step hfit.toTolerates hen hline hdiv with ⟨hr, hv⟩ | ⟨ht, hr, hv, hb⟩
  · exact Or.inl ⟨hr, handed_of_not_valid hv⟩
  · refine Or.inr ⟨ht, hr, ?_⟩
    rw [handed_of_valid hv, hb]

variable (T τ s t x r i j l) in
/-- What a cycle does to the bytes on the way; the first one keeps its frame until it is handed out. -/
def Joined.Next : Prop :=
  ∃ s' l', Joined T τ s' (t + 1) (Uarttx.step i x) (Uartrx.step j r) l' ∧
    l ++ taken x i = handed (Uartrx.step j r) ++ l' ∧
    (l ≠ [] → handed (Uartrx.step j r) = [] → s' = s)

/-! ## A cycle with the transmitter at rest -/

theorem Joined.rest_step (hx : Rests x) (hp : x.prescaler.toNat < T) (hr : Waits r)
    (hen : j.ioEn = true) (hline : j.ioIn = x.out) : Joined.Next T τ s t x r i j [] := by
  rw [hx.out] at hline
  obtain ⟨hr', hv⟩ := hr.step hen hline
  by_cases hload : Uarttx.load i x = true
  · obtain ⟨N, hx'⟩ := hx.load (T := T) (t := t) hload
    refine ⟨_, [i.ioInBits], .ahead N i.ioInBits hx' hr', ?_, fun h => absurd rfl h⟩
    rw [taken, if_pos hload, handed_of_not_valid hv]
  · obtain ⟨hx', hp'⟩ := hx.step (Bool.eq_false_iff.mpr hload)
    refine ⟨s, [], .rest hx' ?_ hr', ?_, fun h => absurd rfl h⟩
    · rw [hp']
      exact hp
    · rw [taken, if_neg hload, handed_of_not_valid hv]

theorem Joined.ended_step {b : BitVec 8} (hx : Rests x) (ht : s + 9 * T ≤ t)
    (hp : x.prescaler.toNat + 1 = T) (hr : Receives T τ s b t r) (hfit : Fits T τ)
    (hen : j.ioEn = true) (hline : j.ioIn = x.out) (hdiv : j.ioDiv.toNat / 16 + 1 = τ) :
    Joined.Next T τ s t x r i j [b] := by
  have hT := hfit.short
  have hseen : j.ioIn = level T b (t - s) := by
    rw [hline, hx.out, Lib.level_rest (by omega) (by omega)]
  have hcycle := Receives.handed hr hfit hen hseen hdiv
  by_cases hload : Uarttx.load i x = true
  · obtain ⟨N, hx'⟩ := hx.load (T := T) (t := t) hload
    have htaken : taken x i = [i.ioInBits] := if_pos hload
    rcases hcycle with ⟨hr', hout⟩ | ⟨hend, hr', hout⟩
    · refine ⟨s, [b, i.ioInBits], .next N _ b _ hx' (by omega) (by omega) hr', ?_, fun _ _ => rfl⟩
      rw [htaken, hout]
      rfl
    · refine ⟨_, [i.ioInBits], .ahead N _ hx' hr', ?_, fun _ hnil => ?_⟩
      · rw [htaken, hout]
      · rw [hout] at hnil
        exact absurd hnil (List.cons_ne_nil _ _)
  · obtain ⟨hx', hp'⟩ := hx.step (Bool.eq_false_iff.mpr hload)
    have htaken : taken x i = [] := if_neg hload
    rcases hcycle with ⟨hr', hout⟩ | ⟨hend, hr', hout⟩
    · refine ⟨s, [b], .ended b hx' (by omega) (by rw [hp']; exact hp) hr', ?_, fun _ _ => rfl⟩
      rw [htaken, hout, List.append_nil, List.nil_append]
    · refine ⟨s, [], .rest hx' ?_ hr', ?_, fun _ _ => rfl⟩
      · rw [hp']
        omega
      · rw [htaken, hout]

/-! ## A cycle with a frame on its way -/

theorem Sends.taken_eq {N k : ℕ} {b : BitVec 8} (h : Sends T s b N k t x) : taken x i = [] := by
  rw [taken, h.load_eq]
  rfl

theorem Joined.ahead_step {N : ℕ} {b : BitVec 8} (hx : Sends T s b N 0 t x) (hr : Waits r)
    (hen : j.ioEn = true) (hline : j.ioIn = x.out) (hdivx : i.ioDiv.toNat + 1 = T) :
    Joined.Next T τ s t x r i j [b] := by
  rw [hx.out_of_zero] at hline
  obtain ⟨hr', hv⟩ := hr.step hen hline
  have hout := handed_of_not_valid hv
  refine ⟨s, [b], ?_, ?_, fun _ _ => rfl⟩
  · rcases hx.step hdivx with ⟨-, hx'⟩ | ⟨ht, -, hx'⟩ | ⟨-, hk, -⟩
    · exact .ahead N b hx' hr'
    · -- the start bit is on the line
      exact .frame N _ b hx' (Nat.succ_ne_zero 0) (.detect 0 (by omega) hr')
    · omega
  · rw [Sends.taken_eq hx, hout, List.append_nil, List.nil_append]

theorem Joined.frame_step {N k : ℕ} {b : BitVec 8} (hx : Sends T s b N k t x) (hk : k ≠ 0)
    (hr : Receives T τ s b t r) (hfit : Fits T τ) (hen : j.ioEn = true) (hline : j.ioIn = x.out)
    (hdiv : j.ioDiv.toNat / 16 + 1 = τ) (hdivx : i.ioDiv.toNat + 1 = T) :
    Joined.Next T τ s t x r i j [b] := by
  obtain ⟨-, hlevel⟩ := hx.line hk
  have htaken := Sends.taken_eq (i := i) hx
  have hlong := hfit.long
  have htime := hx.time
  have hshort := hx.short hk
  rcases Receives.handed hr hfit hen (hline.trans hlevel) hdiv with ⟨hr', hout⟩ | ⟨hend, hr', hout⟩
  · refine ⟨s, [b], ?_, ?_, fun _ _ => rfl⟩
    · rcases hx.step hdivx with ⟨-, hx'⟩ | ⟨-, -, hx'⟩ | ⟨ht, -, hx', hp'⟩
      · exact .frame N k b hx' hk hr'
      · exact .frame N (k + 1) b hx' (Nat.succ_ne_zero k) hr'
      · exact .ended b hx' ht hp' hr'
    · rw [htaken, hout, List.append_nil, List.nil_append]
  · -- the last tick is in the stop bit
    have hrest : 10 ≤ k := by
      by_contra hlow
      have hmul : k * T ≤ 9 * T := Nat.mul_le_mul_right T (by omega)
      omega
    refine ⟨s, [], ?_, ?_, fun _ _ => rfl⟩
    · rcases hx.step hdivx with ⟨-, hx'⟩ | ⟨-, -, hx'⟩ | ⟨-, -, hx', hp'⟩
      · exact .stop N k s b hx' hrest hr'
      · exact .stop N (k + 1) s b hx' (by omega) hr'
      · exact .rest hx' (by omega) hr'
    · rw [htaken, hout]

theorem Joined.stop_step {N k s' : ℕ} {b : BitVec 8} (hx : Sends T s' b N k t x) (hk : 10 ≤ k)
    (hr : Waits r) (hen : j.ioEn = true) (hline : j.ioIn = x.out)
    (hdivx : i.ioDiv.toNat + 1 = T) : Joined.Next T τ s t x r i j [] := by
  obtain ⟨-, hlevel⟩ := hx.line (by omega)
  have htime := hx.time
  have hshort := hx.short (by omega)
  have hmul : 10 * T ≤ k * T := Nat.mul_le_mul_right T hk
  rw [Lib.level_rest (by omega) (by omega)] at hlevel
  obtain ⟨hr', hv⟩ := hr.step hen (hline.trans hlevel)
  refine ⟨s, [], ?_, ?_, fun h => absurd rfl h⟩
  · rcases hx.step hdivx with ⟨-, hx'⟩ | ⟨-, -, hx'⟩ | ⟨-, -, hx', hp'⟩
    · exact .stop N k s' b hx' hk hr'
    · exact .stop N (k + 1) s' b hx' (by omega) hr'
    · exact .rest hx' (by omega) hr'
  · rw [Sends.taken_eq hx, handed_of_not_valid hv]

theorem Joined.next_step {N s' : ℕ} {b b' : BitVec 8} (hx : Sends T s' b' N 0 t x) (ht : s + 9 * T ≤ t)
    (hs : s + 10 * T + 1 ≤ s') (hr : Receives T τ s b t r) (hfit : Fits T τ) (hen : j.ioEn = true)
    (hline : j.ioIn = x.out) (hdiv : j.ioDiv.toNat / 16 + 1 = τ) (hdivx : i.ioDiv.toNat + 1 = T) :
    Joined.Next T τ s t x r i j [b, b'] := by
  have hT := hfit.short
  have hpause := hfit.pause
  have hseen : j.ioIn = level T b (t - s) := by
    rw [hline, hx.out_of_zero, Lib.level_rest (by omega) (by omega)]
  have htaken := Sends.taken_eq (i := i) hx
  rcases Receives.handed hr hfit hen hseen hdiv with ⟨hr', hout⟩ | ⟨hend, hr', hout⟩
  · have hlast := hr'.le
    refine ⟨s, [b, b'], ?_, ?_, fun _ _ => rfl⟩
    · rcases hx.step hdivx with ⟨-, hx'⟩ | ⟨hstart, -, -⟩ | ⟨-, hk, -⟩
      · exact .next N s' b b' hx' (by omega) hs hr'
      · omega
      · omega
    · rw [htaken, hout, List.append_nil, List.nil_append]
  · refine ⟨s', [b'], ?_, ?_, fun _ hnil => ?_⟩
    · rcases hx.step hdivx with ⟨-, hx'⟩ | ⟨hstart, -, hx'⟩ | ⟨-, hk, -⟩
      · exact .ahead N b' hx' hr'
      · exact .frame N _ b' hx' (Nat.succ_ne_zero 0) (.detect 0 (by omega) hr')
      · omega
    · rw [htaken, hout]
      rfl
    · rw [hout] at hnil
      exact absurd hnil (List.cons_ne_nil _ _)

theorem Joined.step (h : Joined T τ s t x r l) (hfit : Fits T τ) (hen : j.ioEn = true)
    (hline : j.ioIn = x.out) (hdiv : j.ioDiv.toNat / 16 + 1 = τ) (hdivx : i.ioDiv.toNat + 1 = T) :
    Joined.Next T τ s t x r i j l := by
  cases h with
  | rest hx hp hr => exact rest_step hx hp hr hen hline
  | ahead N b hx hr => exact ahead_step hx hr hen hline hdivx
  | frame N k b hx hk hr => exact frame_step hx hk hr hfit hen hline hdiv hdivx
  | stop N k s' b hx hk hr => exact stop_step hx hk hr hen hline hdivx
  | ended b hx ht hp hr => exact ended_step hx ht hp hr hfit hen hline hdiv
  | next N s' b b' hx ht hs hr => exact next_step hx ht hs hr hfit hen hline hdiv hdivx

end

/-! ## A run -/

/-- A run of both ends, from a line at rest. -/
structure Wired (T τ : ℕ) (x : ℕ → Uarttx.State) (r : ℕ → Uartrx.State) (i : ℕ → Uarttx.In)
    (j : ℕ → Uartrx.In) : Prop where
  fits : Fits T τ
  rests : Rests (x 0)
  short : (x 0).prescaler.toNat < T
  waits : Waits (r 0)
  empty : (r 0).valid = false
  stepx : ∀ t, x (t + 1) = Uarttx.step (i t) (x t)
  stepr : ∀ t, r (t + 1) = Uartrx.step (j t) (r t)
  line : ∀ t, (j t).ioIn = (x t).out
  en : ∀ t, (j t).ioEn = true
  bit : ∀ t, (i t).ioDiv.toNat + 1 = T
  tick : ∀ t, (j t).ioDiv.toNat / 16 + 1 = τ

section
variable {T τ : ℕ} {x : ℕ → Uarttx.State} {r : ℕ → Uartrx.State} {i : ℕ → Uarttx.In} {j : ℕ → Uartrx.In}

variable (T τ x r) in
/-- The bytes that are taken and not handed out before `t`. -/
def Pending (t : ℕ) (l : List (BitVec 8)) : Prop :=
  ∃ s l', l = handed (r t) ++ l' ∧ Joined T τ s t (x t) (r t) l'

theorem Wired.next (h : Wired T τ x r i j) {s t : ℕ} {l : List (BitVec 8)}
    (hj : Joined T τ s t (x t) (r t) l) :
    ∃ s' l', Joined T τ s' (t + 1) (x (t + 1)) (r (t + 1)) l' ∧
      l ++ taken (x t) (i t) = handed (r (t + 1)) ++ l' ∧
      (l ≠ [] → handed (r (t + 1)) = [] → s' = s) := by
  rw [h.stepx, h.stepr]
  exact hj.step h.fits (h.en t) (h.line t) (h.tick t) (h.bit t)

/-- Nothing is lost, duplicated, changed or reordered on the line. -/
theorem Wired.conserves (h : Wired T τ x r i j) :
    Conserves (fun t => taken (x t) (i t)) (fun t => handed (r t))
        (Lib.backlog (fun t => taken (x t) (i t)) fun t => handed (r t)) ∧
      ∀ t, Pending T τ x r t (Lib.backlog (fun t => taken (x t) (i t)) (fun t => handed (r t)) t) := by
  refine Lib.conserves_of_cycle ⟨0, [], ?_, .rest h.rests h.short h.waits⟩ fun t l hl => ?_
  · rw [handed_of_not_valid h.empty]
    rfl
  · obtain ⟨s, l', rfl, hj⟩ := hl
    obtain ⟨s', l'', hj', heq, -⟩ := h.next hj
    refine ⟨handed (r (t + 1)) ++ l'', ⟨s', l'', rfl, hj'⟩, ?_⟩
    rw [List.append_assoc, heq]

/-- The first byte on the way is handed out when its frame is over. -/
theorem Wired.handed_by (h : Wired T τ x r i j) {s t : ℕ} {l : List (BitVec 8)}
    (hj : Joined T τ s t (x t) (r t) l) (hl : l ≠ []) : ∃ u, t < u ∧ handed (r u) ≠ [] := by
  by_contra hnone
  have hnot : ∀ u, t < u → handed (r u) = [] := fun u hu =>
    Classical.byContradiction fun hne => hnone ⟨u, hu, hne⟩
  -- else it would stay, beyond the end of its frame
  have hstay : ∀ n, ∃ l', l' ≠ [] ∧ Joined T τ s (t + n) (x (t + n)) (r (t + n)) l' := by
    intro n
    induction n with
    | zero => exact ⟨l, hl, hj⟩
    | succ n ih =>
      obtain ⟨l', hl', hj'⟩ := ih
      obtain ⟨s', l'', hj'', heq, hs⟩ := h.next hj'
      have hnil := hnot (t + n + 1) (by omega)
      rw [hs hl' hnil] at hj''
      refine ⟨l'', ?_, hj''⟩
      rintro rfl
      rw [hnil, List.append_nil] at heq
      exact hl' (List.append_eq_nil_iff.mp heq).1
  obtain ⟨l', hl', hj'⟩ := hstay (s + 4 + 153 * τ)
  have hle := hj'.le hl'
  omega

theorem Wired.eventually (h : Wired T τ x r i j) (t : ℕ) :
    ∃ u, t ≤ u ∧ Lib.emitted (fun t => taken (x t) (i t)) 0 t <+:
      Lib.emitted (fun t => handed (r t)) 0 u := by
  obtain ⟨hcon, hpend⟩ := h.conserves
  refine hcon.eventually (fun t ht => ?_) t
  obtain ⟨s, l', heq, hj⟩ := hpend t
  by_cases hnow : handed (r t) = []
  · rw [hnow, List.nil_append] at heq
    rw [heq] at ht
    obtain ⟨u, hu, hne⟩ := h.handed_by hj ht
    exact ⟨u, Nat.le_of_lt hu, hne⟩
  · exact ⟨t, Nat.le_refl t, hnow⟩

/-- At most three bytes are on the way. -/
theorem Pending.length_le {t : ℕ} {l : List (BitVec 8)} (h : Pending T τ x r t l) : l.length ≤ 3 := by
  obtain ⟨s, l', rfl, hj⟩ := h
  have hfirst : (handed (r t)).length ≤ 1 := Lib.length_ite_le _ _
  have hrest : l'.length ≤ 2 := by
    cases hj <;> simp only [List.length_nil, List.length_cons] <;> omega
  rw [List.length_append]
  omega

end
end E203.UartLine
