import Mathlib.Logic.Function.Basic
import Mathlib.Order.Basic

/-! # Memories of bytes

A memory maps addresses to bytes.  Words are little-endian: byte `k` of a word at `a` is the byte at
`a + k`.  Nothing here names a circuit.

* `ofBytes`: the word of some bytes; `byte`: a byte of a word.
* `load`, `store`: whole words; a store has one write enable for each byte.
* `Holds`: a memory of words has the bytes of a memory of bytes; a masked write of one word is a store.
-/

namespace E203.Lib
set_option autoImplicit false

/-! ## Words and their bytes -/

/-- Byte `k` of a word. -/
def byte {w : ℕ} (d : BitVec w) (k : ℕ) : BitVec 8 := d.extractLsb' (8 * k) 8

/-- The word of the bytes `f 0`, `f 1`, ... -/
def ofBytes : (n : ℕ) → (ℕ → BitVec 8) → BitVec (8 * n)
  | 0, _ => 0#0
  | n + 1, f => (f n ++ ofBytes n f).cast (by omega)

section
variable {n : ℕ} {f g : ℕ → BitVec 8} {k : ℕ}

theorem byte_ofBytes (hk : k < n) : byte (ofBytes n f) k = f k := by
  induction n with
  | zero => exact absurd hk (Nat.not_lt_zero k)
  | succ n ih =>
    have hcast : byte (ofBytes (n + 1) f) k = (f n ++ ofBytes n f).extractLsb' (8 * k) 8 := by
      apply BitVec.eq_of_getLsbD_eq
      intro i _
      simp only [byte, ofBytes, BitVec.getLsbD_extractLsb', BitVec.getLsbD_cast]
    rw [hcast]
    obtain hlt | rfl := Nat.lt_succ_iff_lt_or_eq.mp hk
    · rw [← ih hlt]
      apply BitVec.eq_of_getLsbD_eq
      intro i hi
      have hlow : 8 * k + i < 8 * n := by omega
      simp only [byte, BitVec.getLsbD_extractLsb', BitVec.getLsbD_append, hlow, if_true]
    · apply BitVec.eq_of_getLsbD_eq
      intro i hi
      have hhigh : ¬8 * k + i < 8 * k := by omega
      simp only [BitVec.getLsbD_extractLsb', BitVec.getLsbD_append, hi, hhigh, decide_true,
        if_false, Bool.true_and, Nat.add_sub_cancel_left]

/-- Words with the same bytes are equal. -/
theorem eq_of_byte_eq {d e : BitVec (8 * n)} (h : ∀ k, k < n → byte d k = byte e k) : d = e := by
  apply BitVec.eq_of_getLsbD_eq
  intro i hi
  have hbit : ∀ x : BitVec (8 * n), x.getLsbD i = (byte x (i / 8)).getLsbD (i % 8) := by
    intro x
    have hpos : i % 8 < 8 := Nat.mod_lt i (by decide)
    rw [byte, BitVec.getLsbD_extractLsb', Nat.div_add_mod, decide_eq_true hpos, Bool.true_and]
  rw [hbit d, hbit e, h _ (by omega)]

theorem ofBytes_congr (h : ∀ k, k < n → f k = g k) : ofBytes n f = ofBytes n g := by
  apply eq_of_byte_eq
  intro k hk
  rw [byte_ofBytes hk, byte_ofBytes hk, h k hk]

/-- Byte `k` of what is cut out at byte `j`. -/
theorem byte_extractLsb' {w l j : ℕ} (d : BitVec w) (hk : 8 * k + 8 ≤ l) :
    byte (d.extractLsb' (8 * j) l) k = byte d (j + k) := by
  apply BitVec.eq_of_getLsbD_eq
  intro i hi
  have hin : 8 * k + i < l := by omega
  have hpos : 8 * j + (8 * k + i) = 8 * (j + k) + i := by omega
  simp only [byte, BitVec.getLsbD_extractLsb', hin, decide_true, Bool.true_and, hpos]

theorem byte_append_low {v w : ℕ} (x : BitVec v) (y : BitVec w) (hk : 8 * k + 8 ≤ w) :
    byte (x ++ y) k = byte y k := by
  apply BitVec.eq_of_getLsbD_eq
  intro i hi
  have hin : 8 * k + i < w := by omega
  simp only [byte, BitVec.getLsbD_extractLsb', BitVec.getLsbD_append, hin, if_true]

theorem byte_append_high {v : ℕ} (x : BitVec v) (y : BitVec (8 * n)) (hk : n ≤ k) :
    byte (x ++ y) k = byte x (k - n) := by
  apply BitVec.eq_of_getLsbD_eq
  intro i hi
  have hout : ¬8 * k + i < 8 * n := by omega
  have hpos : 8 * k + i - 8 * n = 8 * (k - n) + i := by omega
  simp only [byte, BitVec.getLsbD_extractLsb', BitVec.getLsbD_append, hout, if_false, hpos]

end

/-- A word with some bytes replaced. -/
def merge {n : ℕ} (mask : BitVec n) (data old : BitVec (8 * n)) : BitVec (8 * n) :=
  ofBytes n fun k => if mask.getLsbD k then byte data k else byte old k

/-! ## Memories -/

abbrev ByteMem := ℕ → BitVec 8

namespace ByteMem
variable {n : ℕ} (m : ByteMem)

/-- The `n` bytes from `a` on. -/
def load (n a : ℕ) : BitVec (8 * n) := ofBytes n fun k => m (a + k)

/-- The `n` bytes from `a` on are replaced where the mask has a one. -/
def store (a : ℕ) (mask : BitVec n) (data : BitVec (8 * n)) : ByteMem := fun x =>
  if a ≤ x ∧ x < a + n ∧ mask.getLsbD (x - a) then byte data (x - a) else m x

variable {m} {a b : ℕ} {mask : BitVec n} {data : BitVec (8 * n)}

theorem store_of_out (h : b < a ∨ a + n ≤ b) : m.store a mask data b = m b :=
  if_neg fun hin => by omega

theorem store_at {k : ℕ} (hk : k < n) :
    m.store a mask data (a + k) = if mask.getLsbD k then byte data k else m (a + k) := by
  have hin : a ≤ a + k := Nat.le_add_right a k
  have hend : a + k < a + n := Nat.add_lt_add_left hk a
  simp only [store, hin, hend, true_and, Nat.add_sub_cancel_left]

theorem load_store_self : (m.store a mask data).load n a = merge mask data (m.load n a) := by
  apply ofBytes_congr
  intro k hk
  rw [store_at hk, load, byte_ofBytes hk]

theorem load_store_of_disjoint {l : ℕ} (h : b + l ≤ a ∨ a + n ≤ b) :
    (m.store a mask data).load l b = m.load l b := by
  apply ofBytes_congr
  intro k hk
  exact store_of_out (by omega)

/-! ## Parts of a word -/

theorem store_part {l k : ℕ} {mask' : BitVec k} {data' : BitVec (8 * k)} (hl : l + k ≤ n)
    (hmask : ∀ j, j < n → mask.getLsbD j = (decide (l ≤ j) && mask'.getLsbD (j - l)))
    (hdata : ∀ j, j < k → byte data (l + j) = byte data' j) :
    m.store a mask data = m.store (a + l) mask' data' := by
  funext x
  have hcond : (a ≤ x ∧ x < a + n ∧ mask.getLsbD (x - a) = true) ↔
      (a + l ≤ x ∧ x < a + l + k ∧ mask'.getLsbD (x - (a + l)) = true) := by
    constructor
    · rintro ⟨hlo, hhi, hm⟩
      rw [hmask _ (by omega), Bool.and_eq_true, decide_eq_true_eq] at hm
      have hlt := BitVec.lt_of_getLsbD hm.2
      have hsub : x - a - l = x - (a + l) := by omega
      exact ⟨by omega, by omega, hsub ▸ hm.2⟩
    · rintro ⟨hlo, hhi, hm⟩
      have hsub : x - a - l = x - (a + l) := by omega
      have hle : l ≤ x - a := by omega
      refine ⟨by omega, by omega, ?_⟩
      rw [hmask _ (by omega), hsub, hm, decide_eq_true hle]
      rfl
  rw [store, store]
  by_cases h : a ≤ x ∧ x < a + n ∧ mask.getLsbD (x - a) = true
  · have h' := hcond.mp h
    have hsum : x - a = l + (x - (a + l)) := by omega
    rw [if_pos h, if_pos h', hsum, hdata _ (by omega)]
  · rw [if_neg h, if_neg fun h' => h (hcond.mpr h')]

theorem extractLsb'_load {j l : ℕ} (h : j + l ≤ n) :
    (m.load n a).extractLsb' (8 * j) (8 * l) = m.load l (a + j) := by
  apply eq_of_byte_eq
  intro k hk
  rw [byte_extractLsb' _ (by omega), load, byte_ofBytes (by omega), load, byte_ofBytes hk,
    Nat.add_assoc]

/-! ## The halves of eight bytes -/

/-- The lower half has the lower address. -/
theorem store_half (hi : Bool) (mask' : BitVec 4) (d : BitVec 32) :
    @store 8 m a (if hi then mask' ++ 0#4 else 0#4 ++ mask') (d ++ d) =
      @store 4 m (a + 4 * hi.toNat) mask' d := by
  cases hi with
  | false =>
    apply store_part (by decide)
    · intro j hj
      rw [if_neg Bool.false_ne_true, BitVec.getLsbD_append]
      by_cases hlt : j < 4
      · simp [hlt]
      · simp [hlt, BitVec.getLsbD_of_ge mask' j (by omega)]
    · intro j hj
      have hpos : 4 * false.toNat + j = j := by simp
      rw [hpos]
      exact byte_append_low d d (by omega)
  | true =>
    apply store_part (by decide)
    · intro j hj
      have hfour : 4 * true.toNat = 4 := rfl
      rw [if_pos rfl, BitVec.getLsbD_append, hfour]
      by_cases hlt : j < 4
      · have hno : ¬4 ≤ j := by omega
        simp [hlt, hno]
      · have hge : 4 ≤ j := by omega
        simp [hlt, hge]
    · intro j hj
      have hfour : 4 * true.toNat + j = 4 + j := rfl
      rw [hfour]
      have hhigh := @byte_append_high 4 (4 + j) 32 d d (by omega)
      rw [Nat.add_sub_cancel_left] at hhigh
      exact hhigh

theorem load_half (hi : Bool) :
    (if hi then (m.load 8 a).extractLsb' 32 32 else (m.load 8 a).extractLsb' 0 32) =
      m.load 4 (a + 4 * hi.toNat) := by
  cases hi
  · exact @extractLsb'_load 8 m a 0 4 (by decide)
  · exact @extractLsb'_load 8 m a 4 4 (by decide)

/-- The half that bit 2 of an address says. -/
theorem half_base {w : ℕ} (x : BitVec w) :
    4 * (x.toNat / 4) = 8 * (x.toNat / 8) + 4 * (x.getLsbD 2).toNat := by
  have hbit : (x.getLsbD 2).toNat = x.toNat / 4 % 2 := by
    rw [BitVec.getLsbD, Nat.testBit, Nat.shiftRight_eq_div_pow, Nat.one_and_eq_mod_two]
    obtain h | h : x.toNat / 4 % 2 = 0 ∨ x.toNat / 4 % 2 = 1 := by omega
    · simp [h]
    · simp [h]
  rw [hbit]
  omega

end ByteMem

/-! ## Memories of words -/

section
variable {aw n : ℕ} {ram : BitVec aw → BitVec (8 * n)} {m : ByteMem}

/-- Word `l` of the memory of words has the `n` bytes from `n * l` on. -/
def Holds (ram : BitVec aw → BitVec (8 * n)) (m : ByteMem) : Prop :=
  ∀ l, ram l = m.load n (n * l.toNat)

/-- Some bytes of one word are written. -/
def writeWord (ram : BitVec aw → BitVec (8 * n)) (l : BitVec aw) (mask : BitVec n)
    (data : BitVec (8 * n)) : BitVec aw → BitVec (8 * n) :=
  Function.update ram l (merge mask data (ram l))

theorem Holds.writeWord (h : Holds ram m) (l : BitVec aw) (mask : BitVec n) (data : BitVec (8 * n)) :
    Holds (writeWord ram l mask data) (m.store (n * l.toNat) mask data) := by
  intro l'
  by_cases heq : l' = l
  · rw [heq, Lib.writeWord, Function.update_self, h l, ByteMem.load_store_self]
  · have hne : l'.toNat ≠ l.toNat := fun hnat => heq (BitVec.eq_of_toNat_eq hnat)
    have hdisj : n * l'.toNat + n ≤ n * l.toNat ∨ n * l.toNat + n ≤ n * l'.toNat := by
      obtain hlt | hgt := Nat.lt_or_gt_of_ne hne
      · exact .inl (Nat.mul_succ n _ ▸ Nat.mul_le_mul_left n hlt)
      · exact .inr (Nat.mul_succ n _ ▸ Nat.mul_le_mul_left n hgt)
    rw [Lib.writeWord, Function.update_of_ne heq, h l', ByteMem.load_store_of_disjoint hdisj]

theorem holds_zero : Holds (fun _ : BitVec aw => 0#(8 * n)) fun _ => 0#8 := by
  intro l
  apply eq_of_byte_eq
  intro k hk
  rw [ByteMem.load, byte_ofBytes hk, byte]
  exact BitVec.extractLsb'_zero ..

/-- Every memory of words has the bytes of some memory. -/
theorem exists_holds (ram : BitVec aw → BitVec (8 * n)) : ∃ m, Holds ram m := by
  refine ⟨fun x => byte (ram (BitVec.ofNat aw (x / n))) (x % n), fun l => ?_⟩
  apply eq_of_byte_eq
  intro k hk
  have hdiv : (n * l.toNat + k) / n = l.toNat := by
    rw [Nat.mul_add_div (by omega), Nat.div_eq_of_lt hk, Nat.add_zero]
  have hmod : (n * l.toNat + k) % n = k := by rw [Nat.mul_add_mod, Nat.mod_eq_of_lt hk]
  rw [ByteMem.load, byte_ofBytes hk, hdiv, hmod, BitVec.ofNat_toNat, BitVec.setWidth_eq]

end
end E203.Lib
