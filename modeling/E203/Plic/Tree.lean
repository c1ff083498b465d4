import E203.Plic.Claim
import E203.Rtl.PlicTree

/-! # The priority tree picks the maximum

* `Best`: an enabled pending source of the largest non-zero priority, the first of these.
* `prio_leaf`: the leaves with a priority are the enabled pending sources.
* `irqId_best`: the tree, for every number of sources it has room for.
* `Plic.irqId_eq`, `Plic.irqO_eq`: the tree of the interrupt controller is the one for its parameters.
-/

namespace E203.PlicTree
set_option autoImplicit false

section
variable {PRIO_WIDTH IRQ_NUM IRQ_NUM_LOG2 : ℕ} {r : Regs PRIO_WIDTH} {n : ℕ}

/-- An enabled pending source with a priority other than zero. -/
structure Eligible (IRQ_NUM : ℕ) (r : Regs PRIO_WIDTH) (n : ℕ) : Prop where
  source : 1 ≤ n ∧ n < IRQ_NUM
  pend : r.irqPendR n = true
  enab : irqEnab r n = true
  prio : 0 < (r.irqPrioR n).toNat

/-- The first one of the largest priority. -/
structure Best (IRQ_NUM : ℕ) (r : Regs PRIO_WIDTH) (n : ℕ) : Prop where
  eligible : Eligible IRQ_NUM r n
  max : ∀ m, Eligible IRQ_NUM r m → (r.irqPrioR m).toNat ≤ (r.irqPrioR n).toNat
  first : ∀ m, Eligible IRQ_NUM r m → r.irqPrioR m = r.irqPrioR n → n ≤ m

theorem Best.unique {m : ℕ} (h : Best IRQ_NUM r n) (h' : Best IRQ_NUM r m) : n = m := by
  have heq : r.irqPrioR n = r.irqPrioR m :=
    BitVec.eq_of_toNat_eq (Nat.le_antisymm (h'.max n h.eligible) (h.max m h'.eligible))
  exact Nat.le_antisymm (h.first m h'.eligible heq.symm) (h'.first n h.eligible heq)

/-- A leaf has the priority of its source, if that is enabled and pending. -/
theorem prio_leaf (n : ℕ) : (leaf IRQ_NUM IRQ_NUM_LOG2 r n).prio =
    if (1 ≤ n ∧ n < IRQ_NUM) ∧ r.irqPendR n = true ∧ irqEnab r n = true then r.irqPrioR n
    else BitVec.ofNat PRIO_WIDTH 0 := by
  unfold leaf
  by_cases h0 : n = 0
  · have hno : ¬((1 ≤ n ∧ n < IRQ_NUM) ∧ r.irqPendR n = true ∧ irqEnab r n = true) := by omega
    rw [if_pos h0, if_neg hno]
  · rw [if_neg h0]
    by_cases hn : n < IRQ_NUM
    · have hsrc : 1 ≤ n ∧ n < IRQ_NUM := ⟨by omega, hn⟩
      rw [if_pos hn, irqPrioMasked]
      cases hp : r.irqPendR n
      · simp
      · cases he : irqEnab r n
        · simp
        · simp [hsrc]
    · have hno : ¬((1 ≤ n ∧ n < IRQ_NUM) ∧ r.irqPendR n = true ∧ irqEnab r n = true) :=
        fun h => hn h.1.2
      rw [if_neg hn, if_neg hno]

theorem eligible_iff (IRQ_NUM_LOG2 : ℕ) : Eligible IRQ_NUM r n ↔
    0 < (leaf IRQ_NUM IRQ_NUM_LOG2 r n).prio.toNat := by
  rw [prio_leaf]
  constructor
  · intro h
    rw [if_pos ⟨h.source, h.pend, h.enab⟩]
    exact h.prio
  · intro h
    split at h
    · rename_i hall
      exact ⟨hall.1, hall.2.1, hall.2.2, h⟩
    · rw [BitVec.toNat_ofNat, Nat.zero_mod] at h
      exact absurd h (Nat.lt_irrefl 0)

theorem Eligible.prio_eq (h : Eligible IRQ_NUM r n) :
    (leaf IRQ_NUM IRQ_NUM_LOG2 r n).prio = r.irqPrioR n := by
  rw [prio_leaf, if_pos ⟨h.source, h.pend, h.enab⟩]

theorem Eligible.leaf_eq (h : Eligible IRQ_NUM r n) (hid : IRQ_NUM ≤ 2 ^ IRQ_NUM_LOG2) :
    (leaf IRQ_NUM IRQ_NUM_LOG2 r n).id.toNat = n ∧ (leaf IRQ_NUM IRQ_NUM_LOG2 r n).ip = true := by
  have h0 : n ≠ 0 := by
    have := h.source.1
    omega
  rw [leaf, if_neg h0, if_pos h.source.2]
  constructor
  · change (BitVec.ofNat IRQ_NUM_LOG2 n).toNat = n
    rw [BitVec.toNat_ofNat]
    exact Nat.mod_eq_of_lt (Nat.lt_of_lt_of_le h.source.2 hid)
  · change (r.irqPendR n && irqEnab r n) = true
    rw [h.pend, h.enab]
    rfl

/-- The top is the leaf of an index: those before it have smaller priorities, no one a larger one. -/
theorem irqTop_eq (IRQ_NUM IRQ_NUM_LOG2 : ℕ) (r : Regs PRIO_WIDTH) :
    ∃ k, k < 1024 ∧ irqTop IRQ_NUM IRQ_NUM_LOG2 r = leaf IRQ_NUM IRQ_NUM_LOG2 r k ∧
      (∀ m, m < k → (leaf IRQ_NUM IRQ_NUM_LOG2 r m).prio.toNat <
        (leaf IRQ_NUM IRQ_NUM_LOG2 r k).prio.toNat) ∧
      ∀ m, m < 1024 → (leaf IRQ_NUM IRQ_NUM_LOG2 r m).prio.toNat ≤
        (leaf IRQ_NUM IRQ_NUM_LOG2 r k).prio.toNat := by
  have hlen : (lvl10 IRQ_NUM IRQ_NUM_LOG2 r).length = 2 ^ 10 := by
    rw [lvl10, List.length_map]
    exact List.length_range
  obtain ⟨w, hw, hmax⟩ := Lib.firstMax_rounds
    (fun e : Entry PRIO_WIDTH IRQ_NUM_LOG2 => e.prio.toNat) 10 _ hlen
  obtain ⟨k, hk, hwk, hbefore, hall⟩ := hmax.of_range
  refine ⟨k, hk, ?_, hbefore, hall⟩
  rw [irqTop, hw, ← hwk]
  rfl

/-- The identifier is that of the best source, or zero when there is none, and the request is raised if
and only if the priority of the best source is above the threshold. -/
theorem irqId_best (hnum : IRQ_NUM ≤ 1024) (hid : IRQ_NUM ≤ 2 ^ IRQ_NUM_LOG2)
    (r : Regs PRIO_WIDTH) :
    ((∃ n, Eligible IRQ_NUM r n) → Best IRQ_NUM r (irqId IRQ_NUM IRQ_NUM_LOG2 r).toNat) ∧
      ((∀ n, ¬Eligible IRQ_NUM r n) → irqId IRQ_NUM IRQ_NUM_LOG2 r = BitVec.ofNat IRQ_NUM_LOG2 0) ∧
      (irqO IRQ_NUM IRQ_NUM_LOG2 r = true ↔
        ∃ n, Best IRQ_NUM r n ∧ r.irqThodR.toNat < (r.irqPrioR n).toNat) := by
  obtain ⟨k, -, htop, hbefore, hall⟩ := irqTop_eq IRQ_NUM IRQ_NUM_LOG2 r
  have hbest : (∃ n, Eligible IRQ_NUM r n) → Best IRQ_NUM r k := by
    rintro ⟨n, hn⟩
    have hpos := (eligible_iff IRQ_NUM_LOG2).mp hn
    have hk : Eligible IRQ_NUM r k := (eligible_iff IRQ_NUM_LOG2).mpr
      (Nat.lt_of_lt_of_le hpos (hall n (Nat.lt_of_lt_of_le hn.source.2 hnum)))
    refine ⟨hk, fun m hm => ?_, fun m hm heq => ?_⟩
    · have hle := hall m (Nat.lt_of_lt_of_le hm.source.2 hnum)
      rw [hm.prio_eq, hk.prio_eq] at hle
      exact hle
    · by_contra hlt
      have hless := hbefore m (Nat.lt_of_not_le hlt)
      rw [hm.prio_eq, hk.prio_eq, heq] at hless
      exact absurd hless (Nat.lt_irrefl _)
  refine ⟨fun hex => ?_, fun hnone => ?_, ?_⟩
  · have hk := hbest hex
    rw [irqId, htop, (hk.eligible.leaf_eq hid).1]
    exact hk
  · -- all priorities are zero, so that the left entry wins in every comparison
    have hk : k = 0 := by
      by_contra hne
      have hlt := hbefore 0 (Nat.pos_of_ne_zero hne)
      exact hnone k ((eligible_iff IRQ_NUM_LOG2).mpr (Nat.lt_of_le_of_lt (Nat.zero_le _) hlt))
    rw [irqId, htop, hk]
    rfl
  · rw [irqO, htop, Bool.and_eq_true, decide_eq_true_iff]
    constructor
    · rintro ⟨-, hthod⟩
      have hk : Eligible IRQ_NUM r k := (eligible_iff IRQ_NUM_LOG2).mpr (Nat.lt_of_le_of_lt (Nat.zero_le _) hthod)
      rw [hk.prio_eq] at hthod
      exact ⟨k, hbest ⟨k, hk⟩, hthod⟩
    · rintro ⟨n, hn, hthod⟩
      have hk := hbest ⟨n, hn.eligible⟩
      have hnk := hn.unique hk
      subst hnk
      rw [hn.eligible.prio_eq]
      exact ⟨(hn.eligible.leaf_eq hid).2, hthod⟩

/-- Three sources; the second and the third have the larger priority. -/
def threeRegs : Regs 3 :=
  ⟨fun _ => true, fun n => if n = 1 then 1#3 else 5#3, fun _ => 0xe#32, 2#3⟩

theorem irqId_best_three :
    ((∃ n, Eligible 4 threeRegs n) → Best 4 threeRegs (irqId 4 2 threeRegs).toNat) ∧
      ((∀ n, ¬Eligible 4 threeRegs n) → irqId 4 2 threeRegs = BitVec.ofNat 2 0) ∧
      (irqO 4 2 threeRegs = true ↔
        ∃ n, Best 4 threeRegs n ∧ threeRegs.irqThodR.toNat < (threeRegs.irqPrioR n).toNat) :=
  irqId_best (by decide) (by decide) threeRegs

end
end E203.PlicTree

/-! ## The tree of the interrupt controller -/

namespace E203.Plic
set_option autoImplicit false

section
variable (s : State)

def treeRegs : PlicTree.Regs PLIC_PRIO_WIDTH := ⟨irqPend s, irqPrio s, s.irqEnabR, s.irqThodR⟩

def ofTree (e : PlicTree.Entry PLIC_PRIO_WIDTH PLIC_IRQ_NUM_LOG2) : Entry := ⟨e.prio, e.id, e.ip⟩

theorem leaf_eq (n : ℕ) :
    leaf s n = ofTree (PlicTree.leaf PLIC_IRQ_NUM PLIC_IRQ_NUM_LOG2 (treeRegs s) n) := by
  unfold leaf PlicTree.leaf
  by_cases h0 : n = 0
  · rw [if_pos h0, if_pos h0]
    rfl
  · rw [if_neg h0, if_neg h0]
    by_cases hn : n < PLIC_IRQ_NUM
    · have hsrc : IsSource n := ⟨Nat.pos_of_ne_zero h0, hn⟩
      rw [if_pos hsrc, if_pos hn]
      rfl
    · have hno : ¬IsSource n := fun h => hn h.2
      rw [if_neg hno, if_neg hn]
      rfl

theorem irqTop_eq :
    irqTop s = ofTree (PlicTree.irqTop PLIC_IRQ_NUM PLIC_IRQ_NUM_LOG2 (treeRegs s)) := by
  have hlvl : lvl10 s =
      (PlicTree.lvl10 PLIC_IRQ_NUM PLIC_IRQ_NUM_LOG2 (treeRegs s)).map ofTree := by
    rw [lvl10, PlicTree.lvl10, List.map_map]
    exact List.map_congr_left fun n _ => leaf_eq s n
  have hlen : (PlicTree.lvl10 PLIC_IRQ_NUM PLIC_IRQ_NUM_LOG2 (treeRegs s)).length = 2 ^ 10 := by
    rw [PlicTree.lvl10, List.length_map]
    exact List.length_range
  obtain ⟨w, hw, -⟩ := Lib.firstMax_rounds
    (fun e : PlicTree.Entry PLIC_PRIO_WIDTH PLIC_IRQ_NUM_LOG2 => e.prio.toNat) 10 _ hlen
  rw [irqTop, PlicTree.irqTop, hlvl, Lib.rounds_map]
  change (List.map ofTree (Lib.rounds (fun e : PlicTree.Entry PLIC_PRIO_WIDTH PLIC_IRQ_NUM_LOG2 =>
    e.prio.toNat) 10 _)).headI = _
  rw [hw]
  rfl

theorem irqId_eq : irqId s = PlicTree.irqId PLIC_IRQ_NUM PLIC_IRQ_NUM_LOG2 (treeRegs s) := by
  rw [irqId, irqTop_eq, PlicTree.irqId]
  generalize PlicTree.irqTop PLIC_IRQ_NUM PLIC_IRQ_NUM_LOG2 (treeRegs s) = e
  rfl

theorem irqO_eq : irqO s = PlicTree.irqO PLIC_IRQ_NUM PLIC_IRQ_NUM_LOG2 (treeRegs s) := by
  rw [irqO, irqTop_eq, PlicTree.irqO]
  generalize PlicTree.irqTop PLIC_IRQ_NUM PLIC_IRQ_NUM_LOG2 (treeRegs s) = e
  rfl

end
end E203.Plic
