import E203.Lib.Serial
import E203.Rtl.Uart

/-! # The bytes that the receiver takes

Four low samples start the clock of the receiver.  It checks the start bit at tick 9 and then takes a
bit every 16 ticks, each as the majority of the line at three ticks before.

* `Waits`, `Receives T τ s b t u`: at `t`, the state `u` is in the frame of `b` that starts at `s`.
* `Ticks.voter_eq`: the receiver reads the bit that the frame has.
* `Waits.step`, `Waits.detect`, `Receives.step`: a cycle.
-/

namespace E203.Uartrx
set_option autoImplicit false
open Lib (frameBit level Tolerates)

/-- No frame has started, or the line has been low for `n` cycles. -/
structure Detects (n : ℕ) (u : State) : Prop where
  le : n ≤ 3
  state : u.state = 0#2
  debounce : u.debounce.toNat = n

abbrev Waits (u : State) : Prop := Detects 0 u

/-- After `j` ticks: when the next one is, and the samples. -/
structure Ticks (T τ s : ℕ) (b : BitVec 8) (j t : ℕ) (u : State) : Prop where
  debounce : u.debounce = 0#2
  time : t + u.prescaler.toNat = s + 3 + (j + 1) * τ
  sample : ∀ r < 3, r < j → u.sample.getLsbD r = level T b (3 + (j - r) * τ)

/-- The start bit is being checked. -/
structure Starts (j : ℕ) (u : State) : Prop where
  le : j ≤ 8
  state : u.state = 1#2
  timer : u.timer.toNat = 8 - j

/-- `q` bits are taken, and `r` ticks have passed since. -/
structure Takes (b : BitVec 8) (q r : ℕ) (u : State) : Prop where
  bits_le : q ≤ 8
  tick_lt : r < 16
  state : u.state = 2#2
  timer : u.timer.toNat = 15 - r
  counter : u.counter.toNat = 8 - q
  shifter : ∀ m < q, u.shifter.getLsbD (8 - q + m) = b.getLsbD m

inductive Receives (T τ s : ℕ) (b : BitVec 8) (t : ℕ) (u : State) : Prop
  | detect (n : ℕ) (ht : t = s + n) (h : Detects n u)
  | start (j : ℕ) (h : Ticks T τ s b j t u) (hp : Starts j u)
  | data (q r : ℕ) (h : Ticks T τ s b (9 + 16 * q + r) t u) (hp : Takes b q r u)

theorem waits_reset : Waits reset := ⟨Nat.zero_le 3, rfl, rfl⟩

section
variable {T τ s j q r t n : ℕ} {b : BitVec 8} {u : State} {i : In}

/-! ## The phases -/

theorem Starts.busy_eq (h : Starts j u) : busy u = true := by
  rw [busy, h.state]
  rfl

theorem Takes.busy_eq (h : Takes b q r u) : busy u = true := by
  rw [busy, h.state]
  rfl

theorem start_of_busy (h : busy u = true) : start i u = false := by
  rw [busy] at h
  rw [start]
  generalize u.state = x at h ⊢
  cases i.ioIn <;> cases debounceMax u <;> revert x <;> decide

theorem pulse_iff (h : busy u = true) : pulse u = true ↔ u.prescaler.toNat = 0 := by
  rw [pulse, h, Bool.and_true, beq_iff_eq, ← BitVec.toNat_inj]
  rfl

theorem Starts.expire_iff (h : Starts j u) : expire u = true ↔ j = 8 ∧ pulse u = true := by
  have htimer := h.timer
  have hle := h.le
  rw [expire, Bool.and_eq_true, beq_iff_eq, ← BitVec.toNat_inj, htimer]
  change 8 - j = 0 ∧ _ ↔ _
  constructor
  · exact fun hexp => ⟨by omega, hexp.2⟩
  · exact fun hexp => ⟨by omega, hexp.2⟩

theorem Takes.expire_iff (h : Takes b q r u) : expire u = true ↔ r = 15 ∧ pulse u = true := by
  have htimer := h.timer
  have hlt := h.tick_lt
  rw [expire, Bool.and_eq_true, beq_iff_eq, ← BitVec.toNat_inj, htimer]
  change 15 - r = 0 ∧ _ ↔ _
  constructor
  · exact fun hexp => ⟨by omega, hexp.2⟩
  · exact fun hexp => ⟨by omega, hexp.2⟩

theorem Takes.counter_eq_zero_iff (h : Takes b q r u) : u.counter = 0#4 ↔ q = 8 := by
  have hle := h.bits_le
  rw [← BitVec.toNat_inj, h.counter]
  change 8 - q = 0 ↔ _
  omega

/-! ## The samples -/

theorem extractLsb'_div (d : BitVec 16) : (d.extractLsb' 4 12).toNat = d.toNat / 16 := by
  have hd := d.isLt
  rw [BitVec.extractLsb'_toNat, Nat.shiftRight_eq_div_pow]
  exact Nat.mod_eq_of_lt (by omega)

/-- The majority of the three samples is the bit of the frame. -/
theorem Ticks.voter_eq (h : Ticks T τ s b j t u) (htol : Tolerates T τ) {k : ℕ} (hk : k ≤ 8)
    (hj : j = 16 * k + 8) : voter u = frameBit b k := by
  obtain ⟨hmid, hside⟩ := htol.voted (b := b) hk
  have h0 := h.sample 0 (by omega) (by omega)
  have h1 := h.sample 1 (by omega) (by omega)
  have h2 := h.sample 2 (by omega) (by omega)
  have hj0 : j - 0 = 16 * k + 8 := by omega
  have hj1 : j - 1 = 16 * k + 7 := by omega
  have hj2 : j - 2 = 16 * k + 6 := by omega
  rw [hj0] at h0
  rw [hj1, hmid] at h1
  rw [hj2] at h2
  rw [voter, h0, h1, h2]
  obtain hside | hside := hside
  · rw [hside]
    cases frameBit b k <;> cases level T b (3 + (16 * k + 8) * τ) <;> rfl
  · rw [hside]
    cases frameBit b k <;> cases level T b (3 + (16 * k + 6) * τ) <;> rfl

/-- A tick takes a sample of the line. -/
theorem Ticks.tick (h : Ticks T τ s b j t u) (hbusy : busy u = true) (hpulse : pulse u = true)
    (hline : i.ioIn = level T b (t - s)) (hdiv : i.ioDiv.toNat / 16 + 1 = τ)
    (hdeb : (step i u).debounce = 0#2) : Ticks T τ s b (j + 1) (t + 1) (step i u) := by
  have htime := h.time
  rw [(pulse_iff hbusy).mp hpulse] at htime
  have hpre : (step i u).prescaler = i.ioDiv.extractLsb' 4 12 := by
    change (if start i u || pulse u then _ else _) = _
    rw [hpulse, Bool.or_true, if_pos rfl]
  have hsam : (step i u).sample = u.sample.extractLsb' 0 2 ++ BitVec.ofBool i.ioIn := by
    change (if pulse u then _ else _) = _
    rw [if_pos hpulse]
  refine ⟨hdeb, ?_, fun r hr hrj => ?_⟩
  · rw [hpre, extractLsb'_div, Nat.succ_mul (j + 1)]
    omega
  · rw [hsam, BitVec.getLsbD_append]
    obtain _ | r := r
    · have hnow : t - s = 3 + (j + 1) * τ := by omega
      rw [Nat.sub_zero, ← hnow, ← hline]
      cases i.ioIn <;> rfl
    · rw [if_neg (by omega), Nat.add_sub_cancel, BitVec.getLsbD_extractLsb',
        decide_eq_true (show r < 2 by omega), Bool.true_and, Nat.zero_add,
        h.sample r (by omega) (by omega), Nat.add_sub_add_right]

theorem Ticks.wait (h : Ticks T τ s b j t u) (hbusy : busy u = true) (hpulse : pulse u = false)
    (hdeb : (step i u).debounce = 0#2) : Ticks T τ s b j (t + 1) (step i u) := by
  have htime := h.time
  have hpos : u.prescaler.toNat ≠ 0 := by
    intro hzero
    rw [(pulse_iff hbusy).mpr hzero] at hpulse
    exact absurd hpulse (by decide)
  have hone : (1#12).toNat ≤ u.prescaler.toNat := Nat.pos_of_ne_zero hpos
  have hpre : (step i u).prescaler.toNat = u.prescaler.toNat - 1 := by
    change (if start i u || pulse u then _ else if busy u then u.prescaler - 1#12 else _).toNat = _
    rw [start_of_busy hbusy, hpulse, if_neg (by decide), if_pos hbusy, BitVec.toNat_sub_of_le hone]
    rfl
  have hsam : (step i u).sample = u.sample := by
    change (if pulse u then _ else u.sample) = _
    rw [hpulse]
    rfl
  refine ⟨hdeb, ?_, fun r hr hrj => ?_⟩
  · rw [hpre]
    omega
  · rw [hsam]
    exact h.sample r hr hrj

/-! ## A cycle without a frame -/

theorem debounce_step (hen : i.ioEn = true) (hstate : u.state = 0#2) :
    (step i u).debounce =
      if !i.ioIn then u.debounce + 1#2 else if !debounceMin u then u.debounce - 1#2 else u.debounce := by
  change debounceNxt i u = _
  rw [debounceNxt, hen, hstate]
  rfl

theorem debounce_of_busy (hen : i.ioEn = true) (hbusy : busy u = true) :
    (step i u).debounce = u.debounce := by
  change debounceNxt i u = _
  rw [debounceNxt, hen]
  rw [busy] at hbusy
  have hne : (u.state == 0#2) = false := by
    generalize u.state = x at hbusy ⊢
    revert x
    decide
  rw [hne]
  rfl

theorem valid_of_idle (h : u.state = 0#2) : (step i u).valid = false := by
  change validNxt u = false
  rw [validNxt, h]
  rfl

theorem Waits.step (h : Waits u) (hen : i.ioEn = true) (hline : i.ioIn = true) :
    Waits (step i u) ∧ (Uartrx.step i u).valid = false := by
  have hzero : u.debounce = 0#2 := BitVec.eq_of_toNat_eq h.debounce
  refine ⟨⟨Nat.zero_le 3, ?_, ?_⟩, valid_of_idle h.state⟩
  · change stateNxt i u = 0#2
    rw [stateNxt, start, h.state, hline]
    rfl
  · rw [debounce_step hen h.state, hline, debounceMin, hzero]
    rfl

/-- The fourth low sample starts the clock. -/
theorem Detects.step (h : Detects n u) (hen : i.ioEn = true) (hline : i.ioIn = false)
    (hdiv : i.ioDiv.toNat / 16 + 1 = τ) (ht : t = s + n) :
    Receives T τ s b (t + 1) (step i u) ∧ (Uartrx.step i u).valid = false := by
  refine ⟨?_, valid_of_idle h.state⟩
  have hle := h.le
  have hdeb := debounce_step hen h.state
  rw [hline] at hdeb
  change (Uartrx.step i u).debounce = u.debounce + 1#2 at hdeb
  have hstart : start i u = decide (n = 3) := by
    rw [start, h.state, hline, debounceMax, Bool.eq_iff_iff, decide_eq_true_iff, ← h.debounce]
    change (u.debounce == 3#2) = true ↔ _
    rw [beq_iff_eq, ← BitVec.toNat_inj]
    rfl
  have hstate : (Uartrx.step i u).state = if start i u then 1#2 else u.state := by
    change stateNxt i u = _
    rw [stateNxt, h.state]
    rfl
  by_cases hlast : n = 3
  · rw [decide_eq_true hlast] at hstart
    refine .start 0 ⟨?_, ?_, fun r _ hr => absurd hr (Nat.not_lt_zero r)⟩ ⟨Nat.zero_le 8, ?_, ?_⟩
    · have hthree : u.debounce = 3#2 := BitVec.eq_of_toNat_eq (h.debounce.trans hlast)
      rw [hdeb, hthree]
      rfl
    · change _ + (if start i u || pulse u then i.ioDiv.extractLsb' 4 12 else _).toNat = _
      rw [hstart, Bool.true_or, if_pos rfl, extractLsb'_div]
      omega
    · rw [hstate, if_pos hstart]
    · change (if start i u then 8#5 else _).toNat = _
      rw [if_pos hstart]
      rfl
  · rw [decide_eq_false hlast] at hstart
    refine .detect (n + 1) (by omega) ⟨by omega, ?_, ?_⟩
    · rw [hstate, hstart]
      exact h.state
    · rw [hdeb, BitVec.toNat_add, h.debounce]
      change (n + 1) % 4 = _
      omega

/-! ## A cycle in a frame -/

theorem Starts.step (hp : Starts j u) (h : Ticks T τ s b j t u) (htol : Tolerates T τ)
    (hen : i.ioEn = true) (hline : i.ioIn = level T b (t - s)) (hdiv : i.ioDiv.toNat / 16 + 1 = τ) :
    Receives T τ s b (t + 1) (step i u) ∧ (Uartrx.step i u).valid = false := by
  have hbusy := hp.busy_eq
  have hle := hp.le
  have hdeb : (Uartrx.step i u).debounce = 0#2 := (debounce_of_busy hen hbusy).trans h.debounce
  have hstate : (Uartrx.step i u).state =
      if expire u then (if voter u then 0#2 else 2#2) else u.state := by
    change stateNxt i u = _
    rw [stateNxt, hp.state]
    rfl
  have hsched : sched u = expire u := by
    rw [sched, hp.state]
    rfl
  have htimer : (Uartrx.step i u).timer =
      if expire u then 15#5 else if pulse u then u.timer - 1#5 else u.timer := by
    change timerNxt i u = _
    rw [timerNxt, start_of_busy hbusy, hsched]
    rfl
  constructor
  · by_cases hpulse : pulse u = true
    · have hnext := h.tick hbusy hpulse hline hdiv hdeb
      by_cases hlast : j = 8
      · -- the start bit is low, and the first bit of the byte follows
        subst hlast
        have hexp : expire u = true := hp.expire_iff.mpr ⟨rfl, hpulse⟩
        have hvote : voter u = false := h.voter_eq htol (Nat.zero_le 8) rfl
        refine .data 0 0 hnext ⟨Nat.zero_le 8, by omega, ?_, ?_, ?_, fun m hm => absurd hm (Nat.not_lt_zero m)⟩
        · rw [hstate, if_pos hexp, hvote]
          rfl
        · rw [htimer, if_pos hexp]
          rfl
        · change (counterNxt u).toNat = 8
          rw [counterNxt, hp.state, hexp, hvote]
          rfl
      · have hexp : ¬expire u = true := fun hexp => hlast (hp.expire_iff.mp hexp).1
        have hone : (1#5).toNat ≤ u.timer.toNat := by
          rw [hp.timer]
          change 1 ≤ 8 - j
          omega
        refine .start (j + 1) hnext ⟨by omega, ?_, ?_⟩
        · rw [hstate, if_neg hexp]
          exact hp.state
        · rw [htimer, if_neg hexp, if_pos hpulse, BitVec.toNat_sub_of_le hone, hp.timer]
          change 8 - j - 1 = _
          omega
    · have hexp : ¬expire u = true := fun hexp => hpulse (hp.expire_iff.mp hexp).2
      refine .start j (h.wait hbusy (Bool.eq_false_iff.mpr hpulse) hdeb) ⟨hle, ?_, ?_⟩
      · rw [hstate, if_neg hexp]
        exact hp.state
      · rw [htimer, if_neg hexp, if_neg hpulse]
        exact hp.timer
  · change validNxt u = false
    rw [validNxt, hp.state]
    rfl

/-! ### The bits of the byte -/

theorem Takes.state_step (hp : Takes b q r u) :
    (Uartrx.step i u).state = if expire u && u.counter == 0#4 then 0#2 else u.state := by
  change stateNxt i u = _
  rw [stateNxt, hp.state]
  rfl

theorem Takes.timer_step (hp : Takes b q r u) : (Uartrx.step i u).timer =
    if expire u && !(u.counter == 0#4) then 15#5 else if pulse u then u.timer - 1#5 else u.timer := by
  change timerNxt i u = _
  rw [timerNxt, start_of_busy hp.busy_eq, sched, hp.state]
  rfl

theorem Takes.counter_step (hp : Takes b q r u) :
    (Uartrx.step i u).counter = if expire u then u.counter - 1#4 else u.counter := by
  change counterNxt u = _
  rw [counterNxt, hp.state]
  rfl

theorem Takes.shifter_step (hp : Takes b q r u) : (Uartrx.step i u).shifter =
    if expire u && !(u.counter == 0#4) then BitVec.ofBool (voter u) ++ u.shifter.extractLsb' 1 7
    else u.shifter := by
  change shifterNxt u = _
  rw [shifterNxt, hp.state]
  rfl

theorem Takes.valid_step (hp : Takes b q r u) :
    (Uartrx.step i u).valid = (expire u && u.counter == 0#4) := by
  change validNxt u = _
  rw [validNxt, hp.state]
  rfl

/-- Between the bits the timer counts alone. -/
theorem Takes.hold (hp : Takes b q r u) (hexp : expire u = false) {r' : ℕ} (hr' : r' < 16)
    (ht : (Uartrx.step i u).timer.toNat = 15 - r') : Takes b q r' (Uartrx.step i u) := by
  refine ⟨hp.bits_le, hr', ?_, ht, ?_, fun m hm => ?_⟩
  · rw [hp.state_step, hexp]
    exact hp.state
  · rw [hp.counter_step, hexp]
    exact hp.counter
  · rw [hp.shifter_step, hexp]
    exact hp.shifter m hm

theorem Takes.next (hp : Takes b q r u) (h : Ticks T τ s b (9 + 16 * q + r) t u) (hexp : expire u = false)
    (hline : i.ioIn = level T b (t - s)) (hdiv : i.ioDiv.toNat / 16 + 1 = τ)
    (hdeb : (Uartrx.step i u).debounce = 0#2) : Receives T τ s b (t + 1) (step i u) := by
  have htimer := hp.timer_step (i := i)
  rw [hexp, Bool.false_and, if_neg Bool.false_ne_true] at htimer
  have hrlt := hp.tick_lt
  by_cases hpulse : pulse u = true
  · have hr15 : r ≠ 15 := by
      intro hr
      rw [hp.expire_iff.mpr ⟨hr, hpulse⟩] at hexp
      cases hexp
    have hone : (1#5).toNat ≤ u.timer.toNat := by
      rw [hp.timer]
      change 1 ≤ 15 - r
      omega
    refine .data q (r + 1) (h.tick hp.busy_eq hpulse hline hdiv hdeb) (hp.hold hexp (by omega) ?_)
    rw [htimer, if_pos hpulse, BitVec.toNat_sub_of_le hone, hp.timer]
    change 15 - r - 1 = _
    omega
  · refine .data q r (h.wait hp.busy_eq (Bool.eq_false_iff.mpr hpulse) hdeb) (hp.hold hexp hrlt ?_)
    rw [htimer, if_neg hpulse]
    exact hp.timer

/-- The last tick of a bit shifts it in. -/
theorem Takes.shift (hp : Takes b q 15 u) (hexp : expire u = true) (hq : q ≠ 8)
    (hvote : voter u = b.getLsbD q) : Takes b (q + 1) 0 (Uartrx.step i u) := by
  have hqle := hp.bits_le
  have hne : (u.counter == 0#4) = false := by
    rw [Bool.eq_false_iff, ne_eq, beq_iff_eq, hp.counter_eq_zero_iff]
    exact hq
  have hone : (1#4).toNat ≤ u.counter.toNat := by
    rw [hp.counter]
    change 1 ≤ 8 - q
    omega
  refine ⟨by omega, by omega, ?_, ?_, ?_, fun m hm => ?_⟩
  · rw [hp.state_step, hexp, hne]
    exact hp.state
  · rw [hp.timer_step, hexp, hne]
    rfl
  · rw [hp.counter_step, if_pos hexp, BitVec.toNat_sub_of_le hone, hp.counter]
    change 8 - q - 1 = _
    omega
  · rw [hp.shifter_step, hexp, hne]
    change (BitVec.ofBool (voter u) ++ u.shifter.extractLsb' 1 7).getLsbD _ = _
    rw [BitVec.getLsbD_append]
    by_cases hold : m < q
    · have hidx : 1 + (8 - (q + 1) + m) = 8 - q + m := by omega
      rw [if_pos (by omega), BitVec.getLsbD_extractLsb', decide_eq_true (by omega), Bool.true_and,
        hidx, hp.shifter m hold]
    · have hmq : m = q := by omega
      subst hmq
      have hidx : 8 - (m + 1) + m - 7 = 0 := by omega
      rw [if_neg (by omega), hidx, hvote]
      cases b.getLsbD m <;> rfl

/-- After the eighth bit the byte is handed out. -/
theorem Takes.finish (hp : Takes b 8 15 u) (hexp : expire u = true)
    (hdeb : (Uartrx.step i u).debounce = 0#2) :
    Waits (Uartrx.step i u) ∧ (Uartrx.step i u).valid = true ∧ (Uartrx.step i u).shifter = b := by
  have hzero : u.counter = 0#4 := hp.counter_eq_zero_iff.mpr rfl
  refine ⟨⟨Nat.zero_le 3, ?_, ?_⟩, ?_, ?_⟩
  · rw [hp.state_step, hexp, hzero]
    rfl
  · rw [hdeb]
    rfl
  · rw [hp.valid_step, hexp, hzero]
    rfl
  · rw [hp.shifter_step, hexp, hzero]
    refine BitVec.eq_of_getLsbD_eq fun m hm => ?_
    have hm' := hp.shifter m hm
    rw [Nat.sub_self, Nat.zero_add] at hm'
    exact hm'

/-- The last tick hands the byte out. -/
theorem Takes.step (hp : Takes b q r u) (h : Ticks T τ s b (9 + 16 * q + r) t u) (htol : Tolerates T τ)
    (hen : i.ioEn = true) (hline : i.ioIn = level T b (t - s)) (hdiv : i.ioDiv.toNat / 16 + 1 = τ) :
    (Receives T τ s b (t + 1) (step i u) ∧ (Uartrx.step i u).valid = false) ∨
      (t = s + 3 + 153 * τ ∧ Waits (Uartrx.step i u) ∧ (Uartrx.step i u).valid = true ∧
        (Uartrx.step i u).shifter = b) := by
  have hbusy := hp.busy_eq
  have hqle := hp.bits_le
  have hdeb : (Uartrx.step i u).debounce = 0#2 := (debounce_of_busy hen hbusy).trans h.debounce
  by_cases hexp : expire u = true
  · obtain ⟨rfl, hpulse⟩ := hp.expire_iff.mp hexp
    by_cases hlast : q = 8
    · subst hlast
      refine Or.inr ⟨?_, hp.finish hexp hdeb⟩
      have htime := h.time
      rw [(pulse_iff hbusy).mp hpulse] at htime
      exact htime
    · have hvote : voter u = b.getLsbD q := by
        rw [h.voter_eq htol (show q + 1 ≤ 8 by omega) (by omega), Lib.frameBit_data (by omega)]
      have hne : (u.counter == 0#4) = false := by
        rw [Bool.eq_false_iff, ne_eq, beq_iff_eq, hp.counter_eq_zero_iff]
        exact hlast
      refine Or.inl ⟨.data (q + 1) 0 (h.tick hbusy hpulse hline hdiv hdeb) (hp.shift hexp hlast hvote), ?_⟩
      rw [hp.valid_step, hne, Bool.and_false]
  · have hexp' : expire u = false := Bool.eq_false_iff.mpr hexp
    refine Or.inl ⟨hp.next h hexp' hline hdiv hdeb, ?_⟩
    rw [hp.valid_step, hexp', Bool.false_and]

/-- In a frame the receiver follows it, and at last it hands out the byte. -/
theorem Receives.step (h : Receives T τ s b t u) (htol : Tolerates T τ) (hen : i.ioEn = true)
    (hline : i.ioIn = level T b (t - s)) (hdiv : i.ioDiv.toNat / 16 + 1 = τ) :
    (Receives T τ s b (t + 1) (step i u) ∧ (Uartrx.step i u).valid = false) ∨
      (t = s + 3 + 153 * τ ∧ Waits (Uartrx.step i u) ∧ (Uartrx.step i u).valid = true ∧
        (Uartrx.step i u).shifter = b) := by
  cases h with
  | detect n ht h =>
    have hle := h.le
    refine Or.inl (h.step hen ?_ hdiv ht)
    rw [hline]
    exact htol.start (by omega)
  | start j h hp => exact Or.inl (hp.step h htol hen hline hdiv)
  | data q r h hp => exact hp.step h htol hen hline hdiv

/-- The frame is not over before its last tick. -/
theorem Receives.le (h : Receives T τ s b t u) : t ≤ s + 3 + 153 * τ := by
  have hmul : ∀ j, j + 1 ≤ 153 → (j + 1) * τ ≤ 153 * τ := fun j hj => Nat.mul_le_mul_right τ hj
  cases h with
  | detect n ht h =>
    have hle := h.le
    omega
  | start j h hp =>
    have hle := hp.le
    have hlast := hmul j (by omega)
    have htime := h.time
    omega
  | data q r h hp =>
    have hq := hp.bits_le
    have hr := hp.tick_lt
    have hlast := hmul _ (show 9 + 16 * q + r + 1 ≤ 153 by omega)
    have htime := h.time
    omega

end
end E203.Uartrx
