import E203.Rtl.IfuIft2icb
import Mathlib.Tactic.SplitIfs

/-! # Memory lanes

Memory is read at halfwords.  A fetch wants the two halfwords at its PC and after it (`word`); a read
returns the aligned lane around its address: four halfwords from the ITCM, two from elsewhere.
-/

namespace E203.Ift2icb
set_option autoImplicit false

/-- The halfwords of the memory, at even addresses. -/
abbrev Mem := BitVec 32 → BitVec 16

/-- What a fetch at `pc` wants: the low half at `pc`, the high half at `pc + 2`. -/
def word (mem : Mem) (pc : BitVec 32) : BitVec 32 := mem (pc + 2#32) ++ mem pc

/-- The address of the 64-bit lane. -/
def base8 (a : BitVec 32) : BitVec 32 := a.extractLsb' 3 29 ++ 0#3

/-- The address of the 32-bit lane. -/
def base4 (a : BitVec 32) : BitVec 32 := a.extractLsb' 2 30 ++ 0#2

/-- The lane of the ITCM around `a`. -/
def itcmLane (mem : Mem) (a : BitVec 32) : BitVec 64 :=
  mem (base8 a + 6#32) ++ (mem (base8 a + 4#32) ++ (mem (base8 a + 2#32) ++ mem (base8 a)))

/-- The lane of the system memory around `a`. -/
def biuLane (mem : Mem) (a : BitVec 32) : BitVec 32 := mem (base4 a + 2#32) ++ mem (base4 a)

def IsEven (a : BitVec 32) : Prop := a.toNat % 2 = 0

instance (a : BitVec 32) : Decidable (IsEven a) := inferInstanceAs (Decidable (a.toNat % 2 = 0))

/-- A 32-bit fetch at `pc` does not fit into the lane of `pc`. -/
def cross (region pc : BitVec 32) : Bool :=
  if inItcm region pc then pc.extractLsb' 1 2 == 0b11#2 else pc.getLsbD 1

section
variable {region a b : BitVec 32} {mem : Mem}

/-! ## Address arithmetic -/

theorem toNat_base8 : (base8 a).toNat = a.toNat / 8 * 8 := by
  simp only [base8, BitVec.toNat_append, BitVec.extractLsb'_toNat, Nat.shiftRight_eq_div_pow,
    Nat.shiftLeft_eq]
  have hlt := a.isLt
  have h0 : (0#3 : BitVec 3).toNat = 0 := rfl
  rw [h0, Nat.or_zero]
  simp only [Nat.reducePow]
  omega

theorem toNat_base4 : (base4 a).toNat = a.toNat / 4 * 4 := by
  simp only [base4, BitVec.toNat_append, BitVec.extractLsb'_toNat, Nat.shiftRight_eq_div_pow,
    Nat.shiftLeft_eq]
  have hlt := a.isLt
  have h0 : (0#2 : BitVec 2).toNat = 0 := rfl
  rw [h0, Nat.or_zero]
  simp only [Nat.reducePow]
  omega

theorem bits21_eq_iff (k : BitVec 2) : a.extractLsb' 1 2 = k ↔ a.toNat / 2 % 4 = k.toNat := by
  rw [← BitVec.toNat_inj, BitVec.extractLsb'_toNat, Nat.shiftRight_eq_div_pow]

theorem bit1_eq : a.getLsbD 1 = decide (a.toNat / 2 % 2 = 1) := by
  rw [BitVec.getLsbD, Nat.testBit_eq_decide_div_mod_eq]

theorem inItcm_iff : inItcm region a = true ↔ a.toNat / 65536 = region.toNat / 65536 := by
  rw [inItcm, beq_iff_eq, ← BitVec.toNat_inj, BitVec.extractLsb'_toNat, BitVec.extractLsb'_toNat,
    Nat.shiftRight_eq_div_pow, Nat.shiftRight_eq_div_pow]
  have ha := a.isLt
  have hr := region.isLt
  simp only [Nat.reducePow]
  omega

theorem cross_iff : cross region a = true ↔
    (inItcm region a = true ∧ a.toNat / 2 % 4 = 3) ∨
      (inItcm region a = false ∧ a.toNat / 2 % 2 = 1) := by
  cases h : inItcm region a
  · rw [cross, h, bit1_eq]
    simp
  · simp [cross, h, bits21_eq_iff]

/-- Addresses in one lane are in one region. -/
theorem inItcm_congr (h : base8 a = base8 b) : inItcm region a = inItcm region b := by
  have hn : (base8 a).toNat = (base8 b).toNat := by rw [h]
  rw [toNat_base8, toNat_base8] at hn
  rw [Bool.eq_iff_iff, inItcm_iff, inItcm_iff]
  omega

theorem itcmLane_congr (h : base8 a = base8 b) : itcmLane mem a = itcmLane mem b := by
  rw [itcmLane, itcmLane, h]

/-! ## What the lanes hold -/

/-- The halfwords of a lane of the ITCM. -/
theorem itcmLane_halves :
    (itcmLane mem a).extractLsb' 0 16 = mem (base8 a) ∧
      (itcmLane mem a).extractLsb' 16 16 = mem (base8 a + 2#32) ∧
      (itcmLane mem a).extractLsb' 32 16 = mem (base8 a + 4#32) ∧
      (itcmLane mem a).extractLsb' 48 16 = mem (base8 a + 6#32) := by
  refine ⟨?_, ?_, ?_, BitVec.extractLsb'_append_eq_left⟩
  · rw [itcmLane, BitVec.extractLsb'_append_eq_of_add_le (by omega),
      BitVec.extractLsb'_append_eq_of_add_le (by omega), BitVec.extractLsb'_append_eq_right]
  · rw [itcmLane, BitVec.extractLsb'_append_eq_of_add_le (by omega),
      BitVec.extractLsb'_append_eq_of_add_le (by omega), BitVec.extractLsb'_append_eq_left]
  · rw [itcmLane, BitVec.extractLsb'_append_eq_of_add_le (by omega),
      BitVec.extractLsb'_append_eq_left]

/-- The instruction at `pc`, aligned out of the lane of the ITCM. -/
theorem itcmLane_word {pc : BitVec 32} (heven : IsEven pc) :
    (pc.extractLsb' 1 2 = 0b00#2 → (itcmLane mem pc).extractLsb' 0 32 = word mem pc) ∧
      (pc.extractLsb' 1 2 = 0b01#2 → (itcmLane mem pc).extractLsb' 16 32 = word mem pc) ∧
      (pc.extractLsb' 1 2 = 0b10#2 → (itcmLane mem pc).extractLsb' 32 32 = word mem pc) := by
  obtain ⟨h0, h1, h2, h3⟩ := @itcmLane_halves pc mem
  have hsplit : ∀ k, (itcmLane mem pc).extractLsb' k 32 =
      (itcmLane mem pc).extractLsb' (k + 16) 16 ++ (itcmLane mem pc).extractLsb' k 16 := by
    intro k
    rw [BitVec.extractLsb'_append_extractLsb'_eq_extractLsb' rfl]
  have hbase : (base8 pc).toNat = pc.toNat / 8 * 8 := toNat_base8
  have hlt := pc.isLt
  unfold IsEven at heven
  refine ⟨fun hpc => ?_, fun hpc => ?_, fun hpc => ?_⟩ <;>
    rw [hsplit, word] <;> rw [bits21_eq_iff] at hpc <;> simp only [BitVec.toNat_ofNat] at hpc
  · have hb : base8 pc = pc := by
      apply BitVec.eq_of_toNat_eq
      omega
    rw [h0, h1, hb]
  · have hb : base8 pc + 2#32 = pc := by
      apply BitVec.eq_of_toNat_eq
      rw [BitVec.toNat_add, BitVec.toNat_ofNat]
      omega
    have hb' : base8 pc + 4#32 = pc + 2#32 := by
      apply BitVec.eq_of_toNat_eq
      rw [BitVec.toNat_add, BitVec.toNat_add, BitVec.toNat_ofNat, BitVec.toNat_ofNat]
      omega
    rw [h1, h2, hb, hb']
  · have hb : base8 pc + 4#32 = pc := by
      apply BitVec.eq_of_toNat_eq
      rw [BitVec.toNat_add, BitVec.toNat_ofNat]
      omega
    have hb' : base8 pc + 6#32 = pc + 2#32 := by
      apply BitVec.eq_of_toNat_eq
      rw [BitVec.toNat_add, BitVec.toNat_add, BitVec.toNat_ofNat, BitVec.toNat_ofNat]
      omega
    rw [h2, h3, hb, hb']

/-- The instruction at an aligned `pc` of the system memory. -/
theorem biuLane_word {pc : BitVec 32} (heven : IsEven pc) (h : pc.getLsbD 1 = false) :
    biuLane mem pc = word mem pc := by
  have hb : base4 pc = pc := by
    apply BitVec.eq_of_toNat_eq
    rw [bit1_eq, decide_eq_false_iff_not] at h
    have hbase : (base4 pc).toNat = pc.toNat / 4 * 4 := toNat_base4
    unfold IsEven at heven
    omega
  rw [biuLane, word, hb]

theorem exists_word (pc w : BitVec 32) : ∃ mem, word mem pc = w := by
  have hne : pc + 2#32 ≠ pc := by simp
  refine ⟨fun a => if a = pc then w.extractLsb' 0 16 else w.extractLsb' 16 16, ?_⟩
  rw [word, if_neg hne, if_pos rfl, BitVec.extractLsb'_append_extractLsb'_eq_extractLsb' (by rfl)]
  simp

/-- The upper halfword of a lane is the low half of a crossing fetch. -/
theorem lane_high {pc : BitVec 32} (heven : IsEven pc) (hcross : cross region pc = true) :
    (inItcm region pc = true → (itcmLane mem pc).extractLsb' 48 16 = mem pc) ∧
      (inItcm region pc = false → (biuLane mem pc).extractLsb' 16 16 = mem pc) := by
  rw [cross_iff] at hcross
  unfold IsEven at heven
  have hlt := pc.isLt
  constructor
  · intro hr
    have hb : base8 pc + 6#32 = pc := by
      apply BitVec.eq_of_toNat_eq
      have hbase : (base8 pc).toNat = pc.toNat / 8 * 8 := toNat_base8
      rw [BitVec.toNat_add, BitVec.toNat_ofNat]
      simp only [hr, Bool.true_eq_false, false_and, or_false, true_and] at hcross
      omega
    rw [itcmLane_halves.2.2.2, hb]
  · intro hr
    have hb : base4 pc + 2#32 = pc := by
      apply BitVec.eq_of_toNat_eq
      have hbase : (base4 pc).toNat = pc.toNat / 4 * 4 := toNat_base4
      rw [BitVec.toNat_add, BitVec.toNat_ofNat]
      simp only [hr, Bool.false_eq_true, false_and, false_or, true_and] at hcross
      omega
    rw [biuLane, BitVec.extractLsb'_append_eq_left, hb]

/-- The lowest halfword of the next lane is the high half of a crossing fetch, also when the fetch
crosses into or out of the ITCM. -/
theorem lane_low {pc : BitVec 32} (heven : IsEven pc) (hcross : cross region pc = true) :
    (inItcm region (pc + 2#32) = true →
      (itcmLane mem (pc + 2#32)).extractLsb' 0 16 = mem (pc + 2#32)) ∧
      (inItcm region (pc + 2#32) = false →
        (biuLane mem (pc + 2#32)).extractLsb' 0 16 = mem (pc + 2#32)) := by
  have hr := @inItcm_iff region pc
  have hr2 := @inItcm_iff region (pc + 2#32)
  have h8 : (base8 (pc + 2#32)).toNat = (pc + 2#32).toNat / 8 * 8 := toNat_base8
  have h4 : (base4 (pc + 2#32)).toNat = (pc + 2#32).toNat / 4 * 4 := toNat_base4
  have hlt := pc.isLt
  have hltr := region.isLt
  rw [cross_iff] at hcross
  unfold IsEven at heven
  constructor
  · intro hr2t
    have hb : base8 (pc + 2#32) = pc + 2#32 := by
      apply BitVec.eq_of_toNat_eq
      rw [h8]
      rw [hr2] at hr2t
      rw [BitVec.toNat_add, BitVec.toNat_ofNat] at hr2t ⊢
      obtain ⟨-, hoff⟩ | ⟨hout, hoff⟩ := hcross
      · omega
      · have hne : ¬pc.toNat / 65536 = region.toNat / 65536 := by
          rw [← hr, hout]
          exact Bool.false_ne_true
        omega
    rw [itcmLane_halves.1, hb]
  · intro _
    have hb : base4 (pc + 2#32) = pc + 2#32 := by
      apply BitVec.eq_of_toNat_eq
      rw [h4, BitVec.toNat_add, BitVec.toNat_ofNat]
      omega
    rw [biuLane, BitVec.extractLsb'_append_eq_right, hb]

end
end E203.Ift2icb
