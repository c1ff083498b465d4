import E203.Isa.RV32I
import E203.Lib.BitVecArith
import E203.Lsu.Routing
import E203.Rtl.AluLsuagu
import E203.Tcm.Memory

/-! # Bytes, halfwords and words of a memory of words

* `Lsuagu.exec_store`: the command of a store, with its bytes in every place and the mask on their own,
  stores these bytes.
* `LsuCtrl.wbck_load`: from the word that the memory answers a load takes its own bytes.
-/

namespace E203
set_option autoImplicit false
open Lib (ByteMem byte)

/-- The accesses that do not cross a word. -/
def Aligned (sz : MemSize) (a : BitVec 32) : Prop := a.toNat % sz.bytes = 0

section
variable {sz : MemSize} {a : BitVec 32}

/-- The place of the first byte in its word. -/
theorem Aligned.place (h : Aligned sz a) : a.toNat % 4 % sz.bytes = 0 ∧ a.toNat % 4 + sz.bytes ≤ 4 := by
  rw [Aligned] at h
  cases sz with
  | byte => exact ⟨Nat.mod_one _, by simp only [MemSize.bytes]; omega⟩
  | half => simp only [MemSize.bytes] at h ⊢; omega
  | word => simp only [MemSize.bytes] at h ⊢; omega

theorem toNat_place (a : BitVec 32) : (a.extractLsb' 0 2).toNat = a.toNat % 4 := by
  rw [BitVec.extractLsb'_toNat, Nat.shiftRight_zero]

/-- The word of a byte, and its place in it. -/
theorem word_add_place {c : IcbCmd 16 4} (h : c.addr = a.extractLsb' 0 16) :
    Tcm.base c + a.toNat % 4 = a.toNat % 2 ^ 16 := by
  have haddr : c.addr.toNat = a.toNat % 2 ^ 16 := by
    rw [h, BitVec.extractLsb'_toNat, Nat.shiftRight_zero]
  rw [Tcm.base, haddr]
  omega

end

/-! ## Stores -/

namespace Lsuagu
section
variable {i : In} {res : BitVec 32} {sz : MemSize}

theorem size_eq (h : aguISize i = sz.code) :
    aguISizeB i = decide (sz = .byte) ∧ aguISizeHw i = decide (sz = .half) ∧
      aguISizeW i = decide (sz = .word) := by
  rw [aguISizeB, aguISizeHw, aguISizeW, h]
  cases sz <;> exact ⟨rfl, rfl, rfl⟩

/-- The unit takes an access for misaligned when it is. -/
theorem addrUnalgn_iff (h : aguISize i = sz.code) :
    aguIAddrUnalgn i res = false ↔ Aligned sz res := by
  obtain ⟨-, hh, hw⟩ := size_eq h
  have hplace := toNat_place res
  have hlow : res.getLsbD 0 = (res.extractLsb' 0 2).getLsbD 0 := by
    rw [BitVec.getLsbD_extractLsb']
    rfl
  rw [aguIAddrUnalgn, hh, hw, aguIcbCmdAddr, Aligned, hlow]
  generalize res.extractLsb' 0 2 = x at hplace
  have hmod : ∀ n, n ∣ 4 → res.toNat % n = x.toNat % n := fun n hn => by
    rw [hplace, Nat.mod_mod_of_dvd _ hn]
  cases sz with
  | byte => simp [MemSize.bytes, Nat.mod_one]
  | half =>
    rw [MemSize.bytes, hmod 2 (by decide)]
    clear hmod hplace
    revert x
    decide
  | word =>
    rw [MemSize.bytes, hmod 4 (by decide)]
    clear hmod hplace
    revert x
    decide

theorem wmask_eq (h : aguISize i = sz.code) (ha : Aligned sz res) {j : ℕ} (hj : j < 4) :
    (algnstWmask i res).getLsbD j =
      (decide (res.toNat % 4 ≤ j) && (BitVec.allOnes sz.bytes).getLsbD (j - res.toNat % 4)) := by
  obtain ⟨hb, hh, hw⟩ := size_eq h
  obtain ⟨hplace, -⟩ := ha.place
  have hhalf : (aguIcbCmdAddr res).extractLsb' 1 1 ++ 0#1 =
      (res.extractLsb' 0 2).extractLsb' 1 1 ++ 0#1 :=
    congrArg (· ++ 0#1) (@Lib.extractLsb'_of_extractLsb' 32 2 res _ 0 rfl 1 1 (by decide))
  rw [algnstWmask, hb, hh, hw, hhalf, aguIcbCmdAddr, ← toNat_place]
  rw [← toNat_place] at hplace
  generalize res.extractLsb' 0 2 = x at hplace
  cases sz <;> revert hplace j x <;> decide

theorem byte_replicate {m n k : ℕ} (x : BitVec (8 * m)) (hk : k < m * n) :
    byte (x.replicate n) k = byte x (k % m) := by
  apply BitVec.eq_of_getLsbD_eq
  intro j hj
  have hin : 8 * k + j < 8 * m * n := by
    rw [Nat.mul_assoc]
    omega
  have hpos : (8 * k + j) % (8 * m) = 8 * (k % m) + j := by
    have hdiv := Nat.div_add_mod k m
    have hlt : k % m < m := Nat.mod_lt k (Nat.pos_of_ne_zero fun hm => by simp [hm] at hk)
    have hsum : 8 * k + j = 8 * (k % m) + j + 8 * m * (k / m) := by
      rw [Nat.mul_assoc]
      omega
    rw [hsum, Nat.add_mul_mod_self_left, Nat.mod_eq_of_lt (by omega)]
  simp only [byte, BitVec.getLsbD_extractLsb', BitVec.getLsbD_replicate, hin, hpos, decide_true,
    Bool.true_and]

theorem wdata_eq (h : aguISize i = sz.code) {l k : ℕ} (hl : l % sz.bytes = 0)
    (hk : l + k < 4) (hsz : k < sz.bytes) :
    byte (algnstWdata i) (l + k) = byte (i.aguIRs2.setWidth (8 * sz.bytes)) k := by
  obtain ⟨hb, hh, hw⟩ := size_eq h
  have hlow : ∀ n, k < n → byte (i.aguIRs2.setWidth (8 * n)) k = byte i.aguIRs2 k := by
    intro n hn
    apply BitVec.eq_of_getLsbD_eq
    intro j hj
    have hin : 8 * k + j < 8 * n := by omega
    simp only [byte, BitVec.getLsbD_extractLsb', BitVec.getLsbD_setWidth, hin, decide_true,
      Bool.true_and]
  have hcut : ∀ n, k < n → byte (i.aguIRs2.extractLsb' (8 * 0) (8 * n)) k = byte i.aguIRs2 k :=
    fun n hn => by rw [Lib.byte_extractLsb' _ (by omega), Nat.zero_add]
  rw [algnstWdata, hb, hh, hw, hlow _ hsz]
  cases sz with
  | byte =>
    simp only [MemSize.bytes] at hl hsz
    have hrep := @byte_replicate 1 4 (l + k) (i.aguIRs2.extractLsb' (8 * 0) (8 * 1)) (by omega)
    have hmod : (l + k) % 1 = k := by omega
    rw [hmod, hcut 1 hsz] at hrep
    simpa using hrep
  | half =>
    simp only [MemSize.bytes] at hl hsz
    have hrep := @byte_replicate 2 2 (l + k) (i.aguIRs2.extractLsb' (8 * 0) (8 * 2)) (by omega)
    have hmod : (l + k) % 2 = k := by omega
    rw [hmod, hcut 2 hsz] at hrep
    simpa using hrep
  | word =>
    simp only [MemSize.bytes] at hl hsz
    have hzero : l = 0 := by omega
    rw [hzero, Nat.zero_add]
    simp

/-- A store changes its own bytes in the memory of words. -/
theorem exec_store (h : aguISize i = sz.code) (ha : Aligned sz res) {c : IcbCmd 16 4}
    (hread : c.read = false) (haddr : c.addr = res.extractLsb' 0 16)
    (hdata : c.wdata = algnstWdata i) (hmask : c.wmask = algnstWmask i res) (m : ByteMem) :
    Tcm.exec c m = rv32Store sz i.aguIRs2 m (res.toNat % 2 ^ 16) := by
  obtain ⟨hplace, hlen⟩ := ha.place
  rw [Tcm.exec, hread, if_neg Bool.false_ne_true, hdata, hmask, rv32Store, ← word_add_place haddr]
  exact ByteMem.store_part hlen (fun j hj => wmask_eq h ha hj)
    fun j hj => wdata_eq h hplace (by omega) hj

end
end Lsuagu

/-! ## Loads -/

namespace LsuCtrl
section
variable {s : State} {b : Bus} {sz : MemSize}

theorem rsp_size (h : (preAguIcbRspUsr s).size = sz.code) :
    rspLbu s = (decide (sz = .byte) && (preAguIcbRspUsr s).usign) ∧
      rspLb s = (decide (sz = .byte) && !(preAguIcbRspUsr s).usign) ∧
      rspLhu s = (decide (sz = .half) && (preAguIcbRspUsr s).usign) ∧
      rspLh s = (decide (sz = .half) && !(preAguIcbRspUsr s).usign) ∧
      rspLw s = decide (sz = .word) := by
  rw [rspLbu, rspLb, rspLhu, rspLh, rspLw, h]
  cases sz <;> exact ⟨rfl, rfl, rfl, rfl, rfl⟩

/-- The bytes of the load, moved down. -/
theorem rdataAlgn_eq {m : ByteMem} {a n : ℕ} (hdata : arbtIcbRspRdata s b = m.load 4 a)
    (hn : (preAguIcbRspUsr s).addr.toNat % 4 + n ≤ 4) :
    (rdataAlgn s b).extractLsb' 0 (8 * n) = m.load n (a + (preAguIcbRspUsr s).addr.toNat % 4) := by
  have hshift : ((preAguIcbRspUsr s).addr.extractLsb' 0 2 ++ 0#3).toNat =
      8 * ((preAguIcbRspUsr s).addr.toNat % 4) := by
    rw [← toNat_place]
    generalize (preAguIcbRspUsr s).addr.extractLsb' 0 2 = x
    revert x
    decide
  have hcut : (rdataAlgn s b).extractLsb' 0 (8 * n) =
      (m.load 4 a).extractLsb' (8 * ((preAguIcbRspUsr s).addr.toNat % 4)) (8 * n) := by
    apply BitVec.eq_of_getLsbD_eq
    intro j hj
    simp only [rdataAlgn, hdata, BitVec.getLsbD_extractLsb', BitVec.ushiftRight_eq',
      BitVec.getLsbD_ushiftRight, hshift, Nat.zero_add]
  rw [hcut, ByteMem.extractLsb'_load hn]

/-- The word that is written back is the load's. -/
theorem wbck_load {m : ByteMem} {c : IcbCmd 16 4}
    (hsize : (preAguIcbRspUsr s).size = sz.code) (hread : (preAguIcbRspUsr s).read = true)
    (ha : Aligned sz (preAguIcbRspUsr s).addr)
    (haddr : c.addr = (preAguIcbRspUsr s).addr.extractLsb' 0 16)
    (hdata : arbtIcbRspRdata s b = m.load 4 (Tcm.base c)) :
    lsuOWbckWdat s b = rv32Load sz (preAguIcbRspUsr s).usign m
      ((preAguIcbRspUsr s).addr.toNat % 2 ^ 16) := by
  obtain ⟨-, hlen⟩ := ha.place
  have hcut := rdataAlgn_eq hdata hlen
  rw [word_add_place haddr] at hcut
  obtain ⟨hbu, hb, hhu, hh, hw⟩ := rsp_size hsize
  rw [lsuOWbckWdat, hread, hbu, hb, hhu, hh, hw, rv32Load, ← hcut]
  generalize rdataAlgn s b = x
  cases sz with
  | byte =>
    have hsign : x.getLsbD 7 = (x.extractLsb' 0 8).msb := by simp [BitVec.msb_eq_getLsbD_last]
    rw [hsign, Lib.fill_append_msb, Lib.zero_append_eq_setWidth]
    cases (preAguIcbRspUsr s).usign <;> simp [MemSize.bytes]
  | half =>
    have hsign : x.getLsbD 15 = (x.extractLsb' 0 16).msb := by simp [BitVec.msb_eq_getLsbD_last]
    rw [hsign, Lib.fill_append_msb, @Lib.zero_append_eq_setWidth 16 16]
    cases (preAguIcbRspUsr s).usign <;> simp [MemSize.bytes]
  | word =>
    cases (preAguIcbRspUsr s).usign <;> simp [MemSize.bytes]

end
end LsuCtrl
end E203
