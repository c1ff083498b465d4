import E203.Lib.Linear
import E203.Rtl.SramCtrl

/-! # What the SRAM controller holds

* `UsrCmd.lane`, `UsrCmd.access`: the word that a command accesses, and what it does to the SRAM.
* `SramCtrl.Holding`: the commands in the stage and in the bypass buffer, oldest first, with the
  contents of the SRAM before the oldest.
* `SramCtrl.Holding.wait`, `SramCtrl.Holding.answer`: a cycle without and with a response.
-/

namespace E203
set_option autoImplicit false

section
variable {AW MW : ℕ} {USR : Type*}

/-- The word of a command. -/
def UsrCmd.lane (AW_LSB : ℕ) (c : UsrCmd AW MW USR) : BitVec (AW - AW_LSB) :=
  c.addr.extractLsb' AW_LSB (AW - AW_LSB)

/-- The SRAM after a command. -/
def UsrCmd.access {AW_LSB : ℕ} (c : UsrCmd AW MW USR) (mem : BitVec (AW - AW_LSB) → BitVec (8 * MW)) :
    BitVec (AW - AW_LSB) → BitVec (8 * MW) :=
  if c.read then mem else Lib.writeWord mem (c.lane AW_LSB) c.wmask c.wdata

end

namespace SramCtrl
section
variable {AW MW AW_LSB : ℕ} {USR : Type*}

/-- The command `c` is in the stage, and has accessed the SRAM. -/
structure InE1 (s : State AW MW AW_LSB USR) (mem : BitVec (AW - AW_LSB) → BitVec (8 * MW))
    (c : UsrCmd AW MW USR) : Prop where
  vld : s.e1.vldR = true
  usr : s.e1.datR = c.usr
  mem : s.ram.memR = c.access mem
  addr : c.read = true → s.ram.addrR = c.lane AW_LSB

def Holding (s : State AW MW AW_LSB USR) (mem : BitVec (AW - AW_LSB) → BitVec (8 * MW)) :
    List (UsrCmd AW MW USR) → Prop
  | [] => s.e1.vldR = false ∧ s.byp.vld = false ∧ s.ram.memR = mem
  | [c] => InE1 s mem c ∧ s.byp.vld = false
  | [c, c'] => InE1 s mem c ∧ s.byp.vld = true ∧ s.byp.dat = c'
  | _ => False

variable {s : State AW MW AW_LSB USR} {mem : BitVec (AW - AW_LSB) → BitVec (8 * MW)}
  {c c₀ : UsrCmd AW MW USR} {pend : List (UsrCmd AW MW USR)} {v r : Bool}

/-! ## The outputs -/

theorem Holding.length_le (h : Holding s mem pend) : pend.length ≤ 2 := by
  obtain _ | ⟨c, _ | ⟨c', _ | _⟩⟩ := pend
  · exact Nat.zero_le 2
  · exact Nat.le_succ 1
  · exact Nat.le_refl 2
  · exact h.elim

theorem Holding.rspValid_eq (h : Holding s mem pend) : iIcbRspValid s = !pend.isEmpty := by
  obtain _ | ⟨c, _ | ⟨c', _ | _⟩⟩ := pend
  · exact h.1
  · exact h.1.vld
  · exact h.1.vld
  · exact h.elim

theorem Holding.cmdReady_eq (h : Holding s mem pend) : iIcbCmdReady s = decide (pend.length < 2) := by
  obtain _ | ⟨c, _ | ⟨c', _ | _⟩⟩ := pend
  · simp [iIcbCmdReady, Bypbuf.iRdy, h.2.1]
  · simp [iIcbCmdReady, Bypbuf.iRdy, h.2]
  · simp [iIcbCmdReady, Bypbuf.iRdy, h.2.1]
  · exact h.elim

theorem Holding.inE1 (h : Holding s mem (c :: pend)) : InE1 s mem c := by
  obtain _ | ⟨c', _ | _⟩ := pend
  · exact h.1
  · exact h.1
  · exact h.elim

theorem InE1.rdata (h : InE1 s mem c) (hread : c.read = true) :
    iIcbRspRdata s = mem (c.lane AW_LSB) := by
  rw [iIcbRspRdata, SimRam.dout, h.mem, h.addr hread, UsrCmd.access, if_pos hread]

/-! ## The clock edge -/

/-- The command that accesses the SRAM is in the stage after the edge. -/
theorem inE1_of_ramCs (hcs : ramCs s v r = true) :
    InE1 (step s v c r) s.ram.memR (bypIcbCmd s c) := by
  obtain ⟨hvld, hrdy⟩ := (Bool.and_eq_true _ _).mp hcs
  have hset : s.e1.vldSet false (bypIcbCmdValid s v) r = true := hcs
  have hwe : ramWe s c = !(bypIcbCmd s c).read := rfl
  constructor
  · simp only [step, PipeStage.step, hset, Bool.true_or, dfflr_true]
  · simp only [step, PipeStage.step, hset, dfflr_true]
  · simp only [step, SimRam.step, hcs, Bool.true_and, hwe, UsrCmd.access]
    cases (bypIcbCmd s c).read
    · rfl
    · rfl
  · intro hread
    simp only [step, SimRam.step, SimRam.ren, hcs, hwe, hread, Bool.not_true, Bool.not_false,
      Bool.and_self, dfflr_true]
    rfl

theorem step_of_not_ramCs (hcs : ramCs s v r = false) :
    (step s v c r).ram = s.ram ∧ (step s v c r).e1 = ⟨s.e1.vldR && !r, s.e1.datR⟩ := by
  have hset : s.e1.vldSet false (bypIcbCmdValid s v) r = false := hcs
  constructor
  · simp only [step, SimRam.step, SimRam.ren, hcs, Bool.false_and, dfflr_false]
    rfl
  · simp only [step, PipeStage.step, hset, Bool.false_or, PipeStage.vldClr, PipeStage.oVld,
      dfflr_false]
    cases s.e1.vldR <;> cases r <;> rfl

/-- The buffer takes a command when the stage does not. -/
theorem step_byp (s : State AW MW AW_LSB USR) (v : Bool) (c : UsrCmd AW MW USR) (r : Bool) :
    (step s v c r).byp.vld = (bypIcbCmdValid s v && !bypIcbCmdReady s r) ∧
      (bypIcbCmdReady s r = false → (step s v c r).byp.dat = if s.byp.vld then s.byp.dat else
        if v then c else s.byp.dat) := by
  constructor
  · simp only [step, Bypbuf.step, Bypbuf.ren, Bypbuf.wen, Bypbuf.byp, Bypbuf.iRdy, bypIcbCmdValid,
      Bypbuf.oVld]
    cases s.byp.vld <;> cases v <;> cases bypIcbCmdReady s r <;> rfl
  · intro hrdy
    simp only [step, Bypbuf.step, Bypbuf.wen, Bypbuf.byp, Bypbuf.iRdy, hrdy]
    cases s.byp.vld <;> cases v <;> rfl

/-- The commands that are accepted in a cycle. -/
def accepted (s : State AW MW AW_LSB USR) (v : Bool) (c : UsrCmd AW MW USR) :
    List (UsrCmd AW MW USR) :=
  if v && iIcbCmdReady s then [c] else []

/-- The stage is free, and takes the oldest command of the buffer and the port. -/
theorem holding_of_free (hfree : bypIcbCmdReady s r = true) :
    Holding (step s v c r) s.ram.memR
      ((if s.byp.vld then [s.byp.dat] else []) ++ accepted s v c) := by
  obtain ⟨hbyp, -⟩ := step_byp s v c r
  rw [hfree, Bool.not_true, Bool.and_false] at hbyp
  have hcs : ramCs s v r = (s.byp.vld || v) := by
    rw [ramCs, hfree, Bool.and_true]
    rfl
  have hrdy : iIcbCmdReady s = !s.byp.vld := rfl
  have hcmd : bypIcbCmd s c = if s.byp.vld then s.byp.dat else c := rfl
  rw [accepted, hrdy]
  cases hb : s.byp.vld
  · rw [hb] at hcs hcmd
    cases v
    · obtain ⟨hram, he1⟩ := step_of_not_ramCs hcs (c := c)
      refine ⟨?_, hbyp, by rw [hram]⟩
      rw [he1]
      cases hv : s.e1.vldR
      · rfl
      · cases r
        · simp [bypIcbCmdReady, PipeStage.iRdy, PipeStage.vldClr, PipeStage.oVld, hv] at hfree
        · rfl
    · have hin := inE1_of_ramCs hcs (c := c)
      rw [hcmd] at hin
      exact ⟨hin, hbyp⟩
  · rw [hb, Bool.true_or] at hcs
    rw [hb] at hcmd
    have hin := inE1_of_ramCs hcs (c := c)
    rw [hcmd] at hin
    rw [Bool.not_true, Bool.and_false]
    exact ⟨hin, hbyp⟩

/-- The oldest command gets its response. -/
theorem Holding.answer (h : Holding s mem (c₀ :: pend)) :
    Holding (step s v c true) (c₀.access mem) (pend ++ accepted s v c) := by
  have hin := h.inE1
  have hfree : bypIcbCmdReady s true = true := by
    simp [bypIcbCmdReady, PipeStage.iRdy, PipeStage.vldClr, PipeStage.oVld]
  have hnext := holding_of_free (v := v) (c := c) hfree
  rw [hin.mem] at hnext
  obtain _ | ⟨c', _ | _⟩ := pend
  · rw [h.2] at hnext
    exact hnext
  · rw [h.2.1, h.2.2] at hnext
    exact hnext
  · exact h.elim

/-- A cycle in which no command gets its response. -/
theorem Holding.wait (h : Holding s mem pend) (hno : (iIcbRspValid s && r) = false) :
    Holding (step s v c r) mem (pend ++ accepted s v c) := by
  obtain _ | ⟨c₀, rest⟩ := pend
  · have hfree : bypIcbCmdReady s r = true := by
      simp [bypIcbCmdReady, PipeStage.iRdy, h.1]
    have hnext := holding_of_free (v := v) (c := c) hfree
    rw [h.2.1, h.2.2] at hnext
    exact hnext
  · have hin := h.inE1
    have hr : r = false := by
      rw [h.rspValid_eq] at hno
      exact hno
    subst hr
    have hfull : bypIcbCmdReady s false = false := by
      simp [bypIcbCmdReady, PipeStage.iRdy, PipeStage.vldClr, PipeStage.oVld, hin.vld]
    have hcs : ramCs s v false = false := by rw [ramCs, hfull, Bool.and_false]
    obtain ⟨hram, he1⟩ := step_of_not_ramCs hcs (c := c)
    obtain ⟨hbyp, hdat⟩ := step_byp s v c false
    have hdat := hdat hfull
    rw [hfull, Bool.not_false, Bool.and_true] at hbyp
    have hin' : InE1 (step s v c false) mem c₀ := by
      refine ⟨?_, ?_, ?_, ?_⟩
      · rw [he1, hin.vld]
        rfl
      · rw [he1]
        exact hin.usr
      · rw [hram]
        exact hin.mem
      · rw [hram]
        exact hin.addr
    have hacc : accepted s v c = if v && !s.byp.vld then [c] else [] := rfl
    rw [hacc]
    obtain _ | ⟨c', _ | _⟩ := rest
    · have hb := h.2
      rw [bypIcbCmdValid, Bypbuf.oVld, hb, Bool.false_or] at hbyp
      rw [hb] at hdat ⊢
      cases v
      · exact ⟨hin', hbyp⟩
      · exact ⟨hin', hbyp, hdat⟩
    · have hb := h.2.1
      rw [bypIcbCmdValid, Bypbuf.oVld, hb, Bool.true_or] at hbyp
      rw [hb, if_pos rfl, h.2.2] at hdat
      rw [hb, Bool.not_true, Bool.and_false]
      exact ⟨hin', hbyp, hdat⟩
    · exact h.elim

end
end SramCtrl
end E203
