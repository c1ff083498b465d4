import E203.General.OneHot
import E203.Icb.Arbt
import E203.Lib.Queue
import E203.Lib.Ring
import E203.Rtl.GnrlFifo

/-! # The FIFO is a bounded queue

The words are in a ring of registers.  The read and the write pointer are one-hot, and the fill level
is a vector with as many bits set, above bit 0, as there are words.

* `Points`, `Level`: what the pointers and the vector say; `Points.next`, `Level.push`, `Level.pop`.
* `Fifo.Has`: the words of a FIFO; `Fifo.Has.step`: what is popped leaves, what is accepted enters.
* `Fifo.refines_bounded_queue`: for every depth, and for the pipeline stage.
-/

namespace E203
set_option autoImplicit false

open Lib (slot InRing)

section
variable {n k : ℕ}

/-- Bit `k` alone is set. -/
def Points (v : BitVec n) (k : ℕ) : Prop := ∀ j, j < n → v.getLsbD j = decide (j = k)

theorem points_one (n : ℕ) : Points (BitVec.ofNat n 1) 0 := by
  intro j hj
  have hn : 0 < n := by omega
  rw [BitVec.getLsbD_one]
  simp only [hn, decide_true, Bool.true_and]

theorem Points.next {v : BitVec n} (h : Points v k) (hk : k < n) :
    Points (Fifo.ptrVecNxt v) (slot n k 1) := by
  unfold Fifo.ptrVecNxt slot
  by_cases hn : n = 1
  · have hk0 : ¬k + 1 < n := by omega
    have hzero : k + 1 - n = 0 := by omega
    rw [if_pos hn, if_neg hk0, hzero]
    exact points_one n
  · rw [if_neg hn, h (n - 1) (by omega)]
    by_cases hlast : n - 1 = k
    · have hk0 : ¬k + 1 < n := by omega
      have hzero : k + 1 - n = 0 := by omega
      rw [decide_eq_true hlast, if_pos rfl, if_neg hk0, hzero]
      exact points_one n
    · have hk1 : k + 1 < n := by omega
      rw [decide_eq_false hlast, if_neg Bool.false_ne_true, if_pos hk1]
      intro j hj
      rw [BitVec.getLsbD_shiftLeft, decide_eq_true hj, Bool.true_and]
      obtain _ | j := j
      · simp
      · rw [Nat.add_sub_cancel, h j (by omega)]
        simp

/-- The bits up to `k` are set. -/
def Level (v : BitVec (n + 1)) (k : ℕ) : Prop := ∀ j, j ≤ n → v.getLsbD j = decide (j ≤ k)

theorem level_one (n : ℕ) : Level (BitVec.ofNat (n + 1) 1) 0 := by
  intro j _
  rw [BitVec.getLsbD_one]
  simp only [Nat.zero_lt_succ, decide_true, Bool.true_and, Nat.le_zero]

theorem Level.push {v : BitVec (n + 1)} (h : Level v k) :
    Level (v.setWidth n ++ 1#1) (k + 1) := by
  intro j hj
  rw [BitVec.getLsbD_append]
  obtain _ | j := j
  · simp
  · have hlt : ¬j + 1 < 1 := by omega
    have hjn : j < n := by omega
    rw [if_neg hlt, Nat.add_sub_cancel, BitVec.getLsbD_setWidth,
      h j (Nat.le_of_lt hjn)]
    simp [hjn]

theorem Level.pop {v : BitVec (n + 1)} (h : Level v (k + 1)) (hk : k < n) : Level (v >>> 1) k := by
  intro j hj
  rw [BitVec.getLsbD_ushiftRight]
  obtain hlt | rfl := Nat.lt_or_eq_of_le hj
  · rw [Nat.add_comm 1 j, h (j + 1) hlt]
    simp
  · rw [BitVec.getLsbD_of_ge _ _ (by omega)]
    exact (decide_eq_false (by omega)).symm

end

namespace Fifo
section
variable {DP DW : ℕ} {s : Fifo DP DW} {l : List (BitVec DW)} {cutReady msko iVld oRdy : Bool}

/-- The FIFO holds the words `l`, the oldest first. -/
def Has (s : Fifo DP DW) (l : List (BitVec DW)) : Prop :=
  ∃ head, InRing s.fifoRfR head l ∧ Points s.rptrVecR head ∧
    Points s.wptrVecR (slot DP head l.length) ∧ Level s.vecR l.length

theorem Has.of_reset (hDP : 0 < DP) (h : s.IsReset) : s.Has [] := by
  refine ⟨0, .nil hDP _, ?_, ?_, ?_⟩
  · rw [h.rptr]
    exact points_one DP
  · rw [h.wptr, List.length_nil, Lib.slot_zero hDP]
    exact points_one DP
  · rw [h.vec]
    exact level_one DP

theorem Has.pos (h : s.Has l) : 0 < DP := by
  obtain ⟨head, hring, -⟩ := h
  exact Nat.lt_of_le_of_lt (Nat.zero_le head) hring.head_lt

theorem Has.length_le (h : s.Has l) : l.length ≤ DP := by
  obtain ⟨head, hring, -⟩ := h
  exact hring.length_le

theorem Has.oVld_eq (h : s.Has l) : s.oVld = !l.isEmpty := by
  have hpos := h.pos
  obtain ⟨head, -, -, -, hlevel⟩ := h
  have hbit := hlevel 1 hpos
  have hvec : s.oVld = s.vecR.getLsbD 1 := by rw [oVld, oVec, BitVec.getLsbD_ushiftRight]
  rw [hvec, hbit]
  cases l <;> simp

theorem Has.full_eq (h : s.Has l) : s.iVec.getLsbD (DP - 1) = decide (l.length = DP) := by
  have hpos := h.pos
  have hle := h.length_le
  obtain ⟨head, -, -, -, hlevel⟩ := h
  have htop : 1 + (DP - 1) = DP := by omega
  rw [iVec, BitVec.getLsbD_ushiftRight, htop, hlevel DP (Nat.le_refl DP)]
  exact decide_eq_decide.mpr ⟨fun h1 => by omega, fun h1 => by omega⟩

theorem Has.ren_eq (h : s.Has l) : s.ren oRdy = (!l.isEmpty && oRdy) := by rw [ren, h.oVld_eq]

/-- It refuses when it is full, unless it is a single entry that pops. -/
theorem Has.iRdy_eq (h : s.Has l) : s.iRdy cutReady oRdy =
    (decide (l.length < DP) || (decide (DP = 1) && !cutReady && oRdy)) := by
  have hle := h.length_le
  have hfull : (!decide (l.length = DP)) = decide (l.length < DP) := by
    rw [← decide_not]
    exact decide_eq_decide.mpr ⟨fun h1 => by omega, fun h1 => by omega⟩
  rw [iRdy, h.full_eq, h.ren_eq, hfull]
  by_cases hDP : DP = 1
  · rw [if_pos hDP, decide_eq_true hDP]
    obtain _ | ⟨x, l⟩ := l
    · have hroom : ([] : List (BitVec DW)).length < DP := by rw [hDP]; exact Nat.zero_lt_one
      rw [decide_eq_true hroom]
      cases cutReady <;> simp
    · cases cutReady <;> simp
  · rw [if_neg hDP, decide_eq_false hDP]
    simp

/-- The OR of the words that the read pointer selects. -/
theorem Has.oDat_eq {x : BitVec DW} (h : s.Has (x :: l)) : s.oDat msko = x := by
  have hvld : s.oVld = true := h.oVld_eq
  obtain ⟨head, hring, hrptr, -⟩ := h
  have hsel : ∀ j : Fin DP, s.rptrVecR.getLsbD j = oneHot ⟨head, hring.head_lt⟩ j := fun j => by
    rw [hrptr j j.isLt, oneHot]
    apply decide_eq_decide.mpr
    rw [Fin.ext_iff]
  have hmux : s.muxRdat = x := by
    simp only [muxRdat, hsel]
    rw [foldl_oneHot, if_pos (List.mem_finRange _), hring.head_eq]
    exact BitVec.zero_or
  rw [oDat, hvld, hmux, gate_true, ite_self]

/-- The read side of a cycle. -/
theorem Has.read {head : ℕ} (h : InRing s.fifoRfR head l) (hrptr : Points s.rptrVecR head)
    (hren : s.ren oRdy = (!l.isEmpty && oRdy)) :
    ∃ head', InRing s.fifoRfR head' (if oRdy then l.tail else l) ∧
      Points (dfflr (s.ren oRdy) (ptrVecNxt s.rptrVecR) s.rptrVecR) head' ∧
      slot DP head l.length = slot DP head' (if oRdy then l.tail else l).length := by
  obtain _ | ⟨x, l⟩ := l
  · refine ⟨head, ?_, ?_, ?_⟩
    · cases oRdy <;> exact h
    · rw [hren]
      exact hrptr
    · cases oRdy <;> rfl
  · cases oRdy
    · rw [hren]
      exact ⟨head, h, hrptr, rfl⟩
    · have hlen : l.length + 1 ≤ DP := h.length_le
      rw [hren]
      exact ⟨slot DP head 1, h.pop, hrptr.next h.head_lt, (Lib.slot_next h.head_lt hlen).symm⟩

theorem Has.level {m : ℕ} (hlevel : Level s.vecR l.length) (hle : l.length ≤ DP)
    (hren : s.ren oRdy = (!l.isEmpty && oRdy)) (hm : m = (if oRdy then l.tail else l).length) :
    Level (dfflr (s.vecEn cutReady iVld oRdy) (s.vecNxt cutReady iVld oRdy) s.vecR)
      (if s.wen cutReady iVld oRdy then m + 1 else m) := by
  rw [vecEn, vecNxt, hren]
  obtain _ | ⟨x, l⟩ := l
  · have hzero : m = 0 := by rw [hm]; cases oRdy <;> rfl
    subst hzero
    cases s.wen cutReady iVld oRdy
    · exact hlevel
    · exact hlevel.push
  · cases oRdy
    · rw [hm]
      cases s.wen cutReady iVld false
      · exact hlevel
      · exact hlevel.push
    · rw [hm]
      cases s.wen cutReady iVld true
      · exact Level.pop hlevel hle
      · exact hlevel

theorem Has.step (h : s.Has l) (cutReady iVld oRdy : Bool) (iDat : BitVec DW) :
    (s.step cutReady iVld oRdy iDat).Has
      ((if oRdy then l.tail else l) ++ if iVld && s.iRdy cutReady oRdy then [iDat] else []) := by
  have hren : s.ren oRdy = (!l.isEmpty && oRdy) := h.ren_eq
  have hrdy : s.iRdy cutReady oRdy = _ := h.iRdy_eq
  have hle := h.length_le
  obtain ⟨head, hring, hrptr, hwptr, hlevel⟩ := h
  obtain ⟨head', hring', hrptr', hslot⟩ := Has.read hring hrptr hren
  have hlevel' := @Has.level DP DW s l cutReady iVld oRdy _ hlevel hle hren rfl
  rw [hslot] at hwptr
  have hwen : s.wen cutReady iVld oRdy = (iVld && s.iRdy cutReady oRdy) := rfl
  rw [hwen] at hlevel'
  cases hw : iVld && s.iRdy cutReady oRdy
  · rw [hw] at hwen hlevel'
    rw [if_neg Bool.false_ne_true] at hlevel' ⊢
    rw [List.append_nil]
    refine ⟨head', ?_, hrptr', ?_, hlevel'⟩
    · simp only [Fifo.step, fifoRfEn, hwen, Bool.false_and, dfflr_false]
      exact hring'
    · simp only [Fifo.step, hwen, dfflr_false]
      exact hwptr
  · -- an accepted word finds room after the read
    have hroom : (if oRdy then l.tail else l).length < DP := by
      have hr := ((Bool.and_eq_true _ _).mp hw).2
      rw [hrdy, Bool.or_eq_true, decide_eq_true_iff] at hr
      obtain hlt | hflow := hr
      · cases oRdy
        · exact hlt
        · rw [if_pos rfl, List.length_tail]
          omega
      · simp only [Bool.and_eq_true, decide_eq_true_iff] at hflow
        rw [hflow.2, if_pos rfl, List.length_tail]
        omega
    rw [hw] at hwen hlevel'
    rw [if_pos rfl] at hlevel' ⊢
    refine ⟨head', ?_, hrptr', ?_, ?_⟩
    · have hcells : (s.step cutReady iVld oRdy iDat).fifoRfR = fun c =>
          if c.val = slot DP head' (if oRdy then l.tail else l).length then iDat
          else s.fifoRfR c := by
        funext c
        simp only [Fifo.step, fifoRfEn, hwen, Bool.true_and, hwptr c c.isLt, dfflr, decide_eq_true_iff]
      rw [hcells]
      exact hring'.push hroom iDat
    · have hlast := hwptr.next (Lib.slot_lt hring'.head_lt (Nat.le_of_lt hroom))
      rw [Lib.slot_succ hring'.head_lt hroom] at hlast
      rw [List.length_append]
      simp only [Fifo.step, hwen, dfflr_true]
      exact hlast
    · rw [List.length_append]
      exact hlevel'

/-! ## Runs -/

variable (cutReady msko : Bool) (inp : ℕ → Lib.Offer (BitVec DW)) (s : Fifo DP DW)

def run : ℕ → Fifo DP DW := Lib.stateAt (fun i s => s.step cutReady i.iVld i.oRdy i.iDat) inp s

def answer (t : ℕ) : Lib.Answer (BitVec DW) where
  iRdy := (run cutReady inp s t).iRdy cutReady (inp t).oRdy
  oVld := (run cutReady inp s t).oVld
  oDat := (run cutReady inp s t).oDat msko

end

section
variable {DP DW : ℕ} {cutReady : Bool} {inp : ℕ → Lib.Offer (BitVec DW)}

theorem Has.run {s : Fifo DP DW} (hDP : 0 < DP) (h : s.IsReset) (t : ℕ) :
    (run cutReady inp s t).Has
      (Lib.contents DP (decide (DP = 1) && !cutReady) inp t) := by
  induction t with
  | zero => exact Has.of_reset hDP h
  | succ t ih =>
    have hnext := ih.step cutReady (inp t).iVld (inp t).oRdy (inp t).iDat
    rw [ih.iRdy_eq] at hnext
    exact hnext

end
end Fifo

namespace PipeStage
section
variable {α : Type*} (cutReady : Bool) (inp : ℕ → Lib.Offer α) (s : PipeStage α)

def run : ℕ → PipeStage α := Lib.stateAt (fun i s => s.step cutReady i.iVld i.oRdy i.iDat) inp s

def answer (t : ℕ) : Lib.Answer α where
  iRdy := (run cutReady inp s t).iRdy cutReady (inp t).oRdy
  oVld := (run cutReady inp s t).oVld
  oDat := (run cutReady inp s t).oDat

variable {cutReady inp s}

theorem Has.oVld_eq {l : List α} (h : s.Has l) : s.oVld = !l.isEmpty := by
  obtain _ | ⟨x, _ | _⟩ := l
  · exact h
  · exact h.1
  · exact h.elim

theorem Has.iRdy_eq {l : List α} (h : s.Has l) (cutReady oRdy : Bool) :
    s.iRdy cutReady oRdy = Lib.accepts 1 (!cutReady) l oRdy := by
  obtain _ | ⟨x, _ | _⟩ := l
  · have hv : s.vldR = false := h
    cases cutReady <;> simp [iRdy, hv, Lib.accepts]
  · have hv : s.vldR = true := h.1
    cases cutReady <;> simp [iRdy, vldClr, oVld, hv, Lib.accepts]
  · exact h.elim

theorem Has.run (h : s.vldR = false) (t : ℕ) :
    (run cutReady inp s t).Has (Lib.contents 1 (!cutReady) inp t) := by
  induction t with
  | zero => exact h
  | succ t ih =>
    have hnext := ih.step cutReady (inp t).iVld (inp t).oRdy (inp t).iDat
    rw [vldSet, ih.iRdy_eq] at hnext
    exact hnext

end
end PipeStage

namespace Fifo
section
variable {DP DW : ℕ} {s : Fifo DP DW} {p : PipeStage (BitVec DW)}

/-- For every depth, and the pipeline stage for one entry. -/
theorem refines_bounded_queue (hDP : 0 < DP) (cutReady msko : Bool) (inp : ℕ → Lib.Offer (BitVec DW))
    (hs : s.IsReset) (hp : p.vldR = false) :
    Lib.IsQueue inp (answer cutReady msko inp s) DP (decide (DP = 1) && !cutReady) ∧
      Lib.IsQueue inp (PipeStage.answer cutReady inp p) 1 (!cutReady) := by
  constructor
  · apply Lib.Behaves.isQueue
    apply Lib.Behaves.of_contents hDP
    · exact fun t => (Has.run hDP hs t).oVld_eq
    · intro t x l hl
      have hrun := @Has.run DP DW cutReady inp s hDP hs t
      rw [hl] at hrun
      exact hrun.oDat_eq
    · exact fun t => (Has.run hDP hs t).iRdy_eq
  · apply Lib.Behaves.isQueue
    apply Lib.Behaves.of_contents Nat.zero_lt_one
    · exact fun t => (PipeStage.Has.run hp t).oVld_eq
    · intro t x l hl
      have hrun := @PipeStage.Has.run _ cutReady inp p hp t
      rw [hl] at hrun
      obtain _ | _ := l
      · exact hrun.2
      · exact hrun.elim
    · exact fun t => (PipeStage.Has.run hp t).iRdy_eq cutReady (inp t).oRdy

/-- The state that reset leaves. -/
def reset (DP DW : ℕ) : Fifo DP DW :=
  ⟨BitVec.ofNat DP 1, BitVec.ofNat DP 1, BitVec.ofNat (DP + 1) 1, fun _ => BitVec.ofNat DW 0⟩

/-- Three entries, offered in every cycle and taken in every other one. -/
theorem refines_bounded_queue_three :
    Lib.IsQueue (fun t => ⟨true, BitVec.ofNat 8 t, t % 2 == 1⟩)
      (answer false false (fun t => ⟨true, BitVec.ofNat 8 t, t % 2 == 1⟩) (reset 3 8)) 3 false ∧
    Lib.IsQueue (fun t => ⟨true, BitVec.ofNat 8 t, t % 2 == 1⟩)
      (PipeStage.answer false (fun t => ⟨true, BitVec.ofNat 8 t, t % 2 == 1⟩) ⟨false, 0#8⟩) 1 true :=
  refines_bounded_queue (by decide) false false _ ⟨rfl, rfl, rfl⟩ rfl

end
end Fifo
end E203
