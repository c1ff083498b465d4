import E203.Isa.Hart

/-! # A hart that fetches its instructions

* `Hart.exec`: a step in which the instruction is the one that the program has at the program counter.
* `decode_congr`: of a 16-bit instruction only the low half of the word matters.
* `Hart.run_exec`: a run in which every instruction is from the program.
-/

namespace E203.Isa
set_option autoImplicit false

/-- The word at `pc` in a memory of halfwords. -/
def fetch (prog : BitVec 32 → BitVec 16) (pc : BitVec 32) : BitVec 32 := prog (pc + 2#32) ++ prog pc

def Hart.exec (prog : BitVec 32 → BitVec 16) (h : Hart) (e : Cause × Option (BitVec 32)) :
    Option Hart :=
  match e.1 with
  | .retire r => h.step (.retire { r with word := fetch prog h.pc }, e.2)
  | .enter _ => h.step e

/-- What the program has at the program counter is the instruction: the low half of the word, and the
high half of a 32-bit instruction. -/
def Retired.From (prog : BitVec 32 → BitVec 16) (r : Retired) : Prop :=
  prog r.pc = r.word.extractLsb' 0 16 ∧
    (r.word.extractLsb' 0 2 = 0b11#2 → prog (r.pc + 2#32) = r.word.extractLsb' 16 16)

def Cause.From (prog : BitVec 32 → BitVec 16) : Cause → Prop
  | .retire r => r.From prog
  | .enter _ => True

/-! ## Words with the same instruction -/

section
variable {w w' : BitVec 32} {prog : BitVec 32 → BitVec 16}

theorem decode_congr (hlo : w.extractLsb' 0 16 = w'.extractLsb' 0 16)
    (hall : w.extractLsb' 0 2 = 0b11#2 → w = w') : decode w = decode w' := by
  have hfield : ∀ a k, a + k ≤ 16 → w.extractLsb' a k = w'.extractLsb' a k :=
    fun _ _ => Lib.extractLsb'_eq_of_low hlo
  have hbit : w.getLsbD 12 = w'.getLsbD 12 := by
    have hmsb := congrArg BitVec.msb (hfield 12 1 (by decide))
    simpa [Lib.extractLsb'_one] using hmsb
  have hlen := hfield 0 2 (by decide)
  by_cases h32 : w.extractLsb' 0 2 = 0b11#2
  · rw [hall h32]
  · have h32' : ¬w'.extractLsb' 0 2 = 0b11#2 := by rwa [← hlen]
    have hC0 : decodeC0 w = decodeC0 w' := by
      unfold decodeC0 funct3C rdP rs1P immCIW immCL
      simp (disch := omega) only [hfield]
    have hC1 : decodeC1 w = decodeC1 w' := by
      have himm : immCI w = immCI w' ∧ immCI16sp w = immCI16sp w' ∧ immCLui w = immCLui w' ∧
          immCJ w = immCJ w' ∧ immCB w = immCB w' := by
        unfold immCI immCI16sp immCLui immCJ immCB
        simp (disch := omega) only [hfield, and_self]
      have hAlu : decodeCAlu w = decodeCAlu w' := by
        unfold decodeCAlu rdP rs1P shamtC
        simp (disch := omega) only [hfield, hbit, himm]
      unfold decodeC1 funct3C rdC rs2C rs1P
      simp (disch := omega) only [hfield, hbit, himm, hAlu]
    have hC2 : decodeC2 w = decodeC2 w' := by
      unfold decodeC2 decodeCr funct3C rdC rs2C immCLwsp immCSwsp shamtC
      simp (disch := omega) only [hfield, hbit]
    rw [decode, decode, if_neg h32, if_neg h32', hlen, hC0, hC1, hC2]

theorem Retired.From.fetch {r : Retired} (h : r.From prog) :
    decode (fetch prog r.pc) = decode r.word ∧ length (fetch prog r.pc) = length r.word := by
  obtain ⟨hlow, hhigh⟩ := h
  have hlo : (Isa.fetch prog r.pc).extractLsb' 0 16 = r.word.extractLsb' 0 16 := by
    rw [Isa.fetch, BitVec.extractLsb'_append_eq_right, hlow]
  have hlen : (Isa.fetch prog r.pc).extractLsb' 0 2 = r.word.extractLsb' 0 2 :=
    Lib.extractLsb'_eq_of_low hlo (by decide)
  refine ⟨decode_congr hlo fun h32 => ?_, by rw [length, length, hlen]⟩
  rw [Isa.fetch, hlow, hhigh (hlen.symm.trans h32)]
  exact (BitVec.extractLsb'_append_extractLsb'_eq_extractLsb' (by omega)).trans (by simp)

end

/-! ## Runs -/

section
variable {prog : BitVec 32 → BitVec 16} {h h' : Hart} {e : Cause × Option (BitVec 32)}
  {l : List (Cause × Option (BitVec 32))}

theorem Hart.exec_of_step (hstep : h.step e = some h') (he : e.1.From prog) :
    h.exec prog e = some h' := by
  obtain ⟨c, v⟩ := e
  cases c with
  | enter pc => exact hstep
  | retire r =>
    obtain ⟨ins, hins, hr⟩ := Option.bind_eq_some_iff.mp hstep
    have hpc : r.pc = h.pc := by
      split_ifs at hr with hok
      exact hok.1
    obtain ⟨hdec, hlen⟩ := Retired.From.fetch he
    rw [hpc] at hdec hlen
    refine Option.bind_eq_some_iff.mpr ⟨ins, hdec.trans hins, ?_⟩
    rw [← hlen] at hr
    exact hr

/-- If every instruction of a run is the one that the program has there, it is a run of the program. -/
theorem Hart.run_exec (hrun : h.run l = some h') (hl : ∀ e ∈ l, e.1.From prog) :
    l.foldlM (Hart.exec prog) h = some h' := by
  induction l generalizing h with
  | nil => exact hrun
  | cons e l ih =>
    obtain ⟨h₁, hstep, hrest⟩ := Option.bind_eq_some_iff.mp hrun
    refine Option.bind_eq_some_iff.mpr ⟨h₁, exec_of_step hstep (hl e List.mem_cons_self), ?_⟩
    exact ih hrest fun e' he' => hl e' (List.mem_cons_of_mem e he')

end
end E203.Isa
