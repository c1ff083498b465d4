import E203.Rtl.ExuOitf

/-! # The outstanding-instruction FIFO: pointers and valid bits

`Oitf.State.Ok`: the valid bits are those between the two pointers.  It holds after reset and is kept
as long as nothing is allocated in a full FIFO and nothing retired from an empty one.  `Oitf.single`:
there is one outstanding instruction.
-/

namespace E203.Oitf
set_option autoImplicit false

structure State.Ok (s : State) : Prop where
  /-- The valid entries are those between the retire and the allocate pointer. -/
  vld : ∀ k, (s.entry k).vldR = (oitfFull s || (!oitfEmpty s && s.retPtrR == k))
  /-- The allocate pointer is at most one turn ahead. -/
  flg : (s.retPtrR == s.alcPtrR) = false →
    (s.alcPtrFlgR ^^ s.retPtrFlgR) = (s.alcPtrR == 0#1)

section
variable {s : State} {d : Disp} {disEna retEna : Bool}

theorem bit_cases (b : BitVec 1) : b = 0#1 ∨ b = 1#1 := by
  have hlt := b.isLt
  obtain h | h : b.toNat = 0 ∨ b.toNat = 1 := by omega
  · exact .inl (BitVec.eq_of_toNat_eq h)
  · exact .inr (BitVec.eq_of_toNat_eq h)

theorem State.Ok.of_reset (h : s.IsReset) : s.Ok := by
  obtain ⟨halc, halcf, hret, hretf, hvld⟩ := h
  constructor
  · intro k
    rw [hvld k]
    simp [oitfFull, oitfEmpty, halc, halcf, hret, hretf]
  · simp [halc, hret]

theorem ptr_eq (p : BitVec 1) (ena : Bool) :
    dfflr ena (if p == 1#1 && ena then 0#1 else p + 1#1) p = if ena then p + 1#1 else p := by
  obtain rfl | rfl := bit_cases p <;> cases ena <;> decide

theorem flg_eq (f ena : Bool) : dfflr ena (!f) f = (f ^^ ena) := by cases f <;> cases ena <;> rfl

/-- The pointers count modulo two; the flags count their turns. -/
theorem step_ptr :
    (step s d disEna retEna).alcPtrR = (if disEna then s.alcPtrR + 1#1 else s.alcPtrR) ∧
      (step s d disEna retEna).retPtrR = (if retEna then s.retPtrR + 1#1 else s.retPtrR) ∧
      (step s d disEna retEna).alcPtrFlgR = (s.alcPtrFlgR ^^ (s.alcPtrR == 1#1 && disEna)) ∧
      (step s d disEna retEna).retPtrFlgR = (s.retPtrFlgR ^^ (s.retPtrR == 1#1 && retEna)) :=
  ⟨ptr_eq _ _, ptr_eq _ _, flg_eq _ _, flg_eq _ _⟩

theorem State.Ok.step (h : s.Ok) (hdis : disEna = true → oitfFull s = false)
    (hret : retEna = true → oitfEmpty s = false) : (step s d disEna retEna).Ok := by
  obtain ⟨halc, hrp, halcf, hretf⟩ := @step_ptr s d disEna retEna
  obtain ⟨hvld, hflg⟩ := h
  have hnext : ∀ k, ((Oitf.step s d disEna retEna).entry k).vldR =
      ((disEna && s.alcPtrR == k) || ((s.entry k).vldR && !(retEna && s.retPtrR == k))) := by
    intro k
    simp only [Oitf.step, vldSet, vldClr]
    cases disEna && s.alcPtrR == k <;> cases retEna && s.retPtrR == k <;> simp
  simp only [oitfFull, oitfEmpty] at hdis hret hvld
  constructor
  · intro k
    rw [hnext k, hvld k]
    simp only [oitfFull, oitfEmpty, halc, hrp, halcf, hretf]
    clear hnext halc hrp halcf hretf hvld
    generalize s.alcPtrR = a, s.retPtrR = r, s.alcPtrFlgR = fa, s.retPtrFlgR = fr at *
    obtain rfl | rfl := bit_cases a <;> obtain rfl | rfl := bit_cases r <;>
      obtain rfl | rfl := bit_cases k <;> revert hdis hret hflg <;> cases disEna <;>
      cases retEna <;> cases fa <;> cases fr <;> decide
  · simp only [halc, hrp, halcf, hretf]
    clear hnext halc hrp halcf hretf hvld
    generalize s.alcPtrR = a, s.retPtrR = r, s.alcPtrFlgR = fa, s.retPtrFlgR = fr at *
    obtain rfl | rfl := bit_cases a <;> obtain rfl | rfl := bit_cases r <;>
      revert hdis hret hflg <;> cases disEna <;> cases retEna <;> cases fa <;> cases fr <;> decide

theorem State.Ok.vldR_of_empty (h : s.Ok) (hempty : oitfEmpty s = true) (k : BitVec 1) :
    (s.entry k).vldR = false := by
  have hflg : (s.retPtrFlgR == s.alcPtrFlgR) = true := ((Bool.and_eq_true _ _).mp hempty).2
  rw [h.vld k, hempty, oitfFull, hflg]
  simp

/-- An empty FIFO matches no register. -/
theorem State.Ok.oitfrdMatch_of_empty (h : s.Ok) (hempty : oitfEmpty s = true) (en : Bool)
    (idx : BitVec 5) : oitfrdMatch s en idx = false := by
  simp [oitfrdMatch, Entry.rdMatch, h.vldR_of_empty hempty]

theorem State.Ok.disReady_of_empty (hempty : oitfEmpty s = true) : disReady s = true := by
  have hflg : (s.retPtrFlgR == s.alcPtrFlgR) = true := ((Bool.and_eq_true _ _).mp hempty).2
  simp [disReady, oitfFull, hflg]

/-! ## One outstanding instruction -/

/-- Exactly one entry, at the retire pointer. -/
def single (s : State) : Bool := !oitfEmpty s && !oitfFull s

/-- The first entry is allocated where the retire pointer stands. -/
theorem single_of_alloc (hempty : oitfEmpty s = true) :
    single (step s d true false) = true ∧ (step s d true false).retPtrR = s.alcPtrR := by
  obtain ⟨halc, hret, halcf, hretf⟩ := @step_ptr s d true false
  simp only [single, oitfEmpty, oitfFull, halc, hret, halcf, hretf]
  simp only [oitfEmpty] at hempty
  clear halc hret halcf hretf
  generalize s.alcPtrR = a, s.retPtrR = r, s.alcPtrFlgR = fa, s.retPtrFlgR = fr at *
  obtain rfl | rfl := bit_cases a <;> obtain rfl | rfl := bit_cases r <;> revert hempty <;>
    cases fa <;> cases fr <;> decide

/-- The next one is allocated while the only one is retired. -/
theorem single_of_swap (hone : single s = true) :
    single (step s d true true) = true ∧ (step s d true true).retPtrR = s.alcPtrR := by
  obtain ⟨halc, hret, halcf, hretf⟩ := @step_ptr s d true true
  simp only [single, oitfEmpty, oitfFull, halc, hret, halcf, hretf]
  simp only [single, oitfEmpty, oitfFull] at hone
  clear halc hret halcf hretf
  generalize s.alcPtrR = a, s.retPtrR = r, s.alcPtrFlgR = fa, s.retPtrFlgR = fr at *
  obtain rfl | rfl := bit_cases a <;> obtain rfl | rfl := bit_cases r <;> revert hone <;>
    cases fa <;> cases fr <;> decide

theorem empty_of_retire (h : s.Ok) (hone : single s = true) :
    oitfEmpty (step s d false true) = true := by
  obtain ⟨halc, hret, halcf, hretf⟩ := @step_ptr s d false true
  obtain ⟨-, hflg⟩ := h
  simp only [oitfEmpty, halc, hret, halcf, hretf]
  simp only [single, oitfEmpty, oitfFull] at hone
  clear halc hret halcf hretf
  generalize s.alcPtrR = a, s.retPtrR = r, s.alcPtrFlgR = fa, s.retPtrFlgR = fr at *
  obtain rfl | rfl := bit_cases a <;> obtain rfl | rfl := bit_cases r <;> revert hone hflg <;>
    cases fa <;> cases fr <;> decide

theorem step_idle : step s d false false = s := by
  obtain ⟨halc, hret, halcf, hretf⟩ := @step_ptr s d false false
  have hentry : (step s d false false).entry = s.entry := by
    funext k
    simp [step, vldSet, vldClr]
  rcases s with ⟨a, fa, r, fr, entry⟩
  simp_all [step]

end
end E203.Oitf
