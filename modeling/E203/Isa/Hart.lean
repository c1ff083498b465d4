import E203.Isa.RV32I
import E203.Isa.RV32MA

/-! # A hart

* `Instr.transfer`: the control transfer that an instruction is, if it is one.
* `Instr.nextPc`: the program counter after an instruction that does not trap.
* `Hart.step`: a program counter and a register file take one instruction, or go to a handler.  What
  comes from a memory or a CSR is given with the step.
-/

namespace E203.Isa
set_option autoImplicit false

namespace Instr

/-- The instructions behind which execution may go on elsewhere, or anew. -/
def transfer : Instr → Option CtrlOp
  | .branch cond rs1 rs2 offset => some (.branch cond rs1 rs2 offset)
  | .jal _ offset => some (.jal offset)
  | .jalr _ rs1 offset => some (.jalr rs1 offset)
  | .fencei => some .fencei
  | .mret => some .mret
  | .dret => some .dret
  | _ => none

/-- Execution goes on at a target or behind the instruction, which is `len` bytes long. -/
def nextPc (len : BitVec 32) (σ : CtrlState) : Instr → BitVec 32
  | .branch cond rs1 rs2 offset =>
    if cond.holds (σ.reg rs1) (σ.reg rs2) then σ.pc + offset else σ.pc + len
  | .jal _ offset => σ.pc + offset
  | .jalr _ rs1 offset => evenPc (σ.reg rs1 + offset)
  | .mret => evenPc σ.mepc
  | .dret => evenPc σ.dpc
  | _ => σ.pc + len

/-- The destination register; `x0` where there is none. -/
def rd : Instr → BitVec 5
  | .mulDiv _ rd _ _ | .lr rd _ | .sc rd _ _ | .amo _ rd _ _ | .csr _ rd _ _ _ => rd
  | ins => ins.dest

/-- The registers on which the value, the access or the next program counter depends. -/
def srcs : Instr → List (BitVec 5)
  | .op _ _ rs1 rs2 | .branch _ rs1 rs2 _ | .mulDiv _ _ rs1 rs2 | .store _ rs1 rs2 _
  | .sc _ rs1 rs2 => [rs1, rs2]
  | .opImm _ _ rs1 _ | .load _ _ _ rs1 _ | .jalr _ rs1 _ | .lr _ rs1 => [rs1]
  | _ => []

/-- What the instruction itself computes for its destination. -/
def computes (pc len : BitVec 32) (reg : BitVec 5 → BitVec 32) : Instr → Option (BitVec 32)
  | .mulDiv fn _ rs1 rs2 => some (rv32m fn (reg rs1) (reg rs2))
  | ins => ins.value pc len reg

end Instr

/-- The data of a store on every lane of a word. -/
def Size.lanes (d : BitVec 32) : Size → BitVec 32
  | .byte => (d.extractLsb' 0 8).replicate 4
  | .half => (d.extractLsb' 0 16).replicate 2
  | .word => d

/-- A read, or a write with its data. -/
structure Access where
  addr : BitVec 32
  data : Option (BitVec 32)
deriving DecidableEq

/-- The access of a load, a store, a load-reserved or a store-conditional. -/
def Instr.access (reg : BitVec 5 → BitVec 32) : Instr → Option Access
  | .load _ _ _ rs1 offset => some ⟨reg rs1 + offset, none⟩
  | .store z rs1 rs2 offset => some ⟨reg rs1 + offset, some (z.lanes (reg rs2))⟩
  | .lr _ rs1 => some ⟨reg rs1, none⟩
  | .sc _ rs1 rs2 => some ⟨reg rs1, some (Size.lanes (reg rs2) .word)⟩
  | _ => none

/-! ## Steps -/

structure Hart where
  pc : BitVec 32
  reg : BitVec 5 → BitVec 32

/-- An instruction that leaves the pipeline, with what it does outside. -/
structure Retired where
  pc : BitVec 32
  word : BitVec 32
  mepc : BitVec 32
  dpc : BitVec 32
  access : Option Access

inductive Cause
  | retire (r : Retired)
  | enter (pc : BitVec 32)

/-- Register zero reads as zero. -/
def read (reg : BitVec 5 → BitVec 32) (r : BitVec 5) : BitVec 32 := if r = 0#5 then 0#32 else reg r

def write (reg : BitVec 5 → BitVec 32) (r : BitVec 5) (v : Option (BitVec 32)) :
    BitVec 5 → BitVec 32 :=
  match v with
  | some x => if r = 0#5 then reg else Function.update reg r x
  | none => reg

/-- One step; an instruction is taken at the program counter, with the access that it makes.  A
destination that the instruction does not compute is written with what comes from outside. -/
def Hart.step (h : Hart) (e : Cause × Option (BitVec 32)) : Option Hart :=
  match e.1 with
  | .retire r =>
    (decode r.word).bind fun ins =>
      if r.pc = h.pc ∧ r.access = ins.access (read h.reg) then
        some ⟨ins.nextPc (length r.word) ⟨h.pc, read h.reg, r.mepc, r.dpc⟩,
          write h.reg ins.rd ((ins.computes h.pc (length r.word) (read h.reg)).or e.2)⟩
      else none
  | .enter pc => some { h with pc := pc }

def Hart.run (h : Hart) (l : List (Cause × Option (BitVec 32))) : Option Hart :=
  l.foldlM Hart.step h

/-! ## Only the sources matter -/

section
variable {ins : Instr} {reg reg' : BitVec 5 → BitVec 32} {pc len mepc dpc : BitVec 32}

theorem Instr.nextPc_congr (h : ∀ r ∈ ins.srcs, reg r = reg' r) :
    ins.nextPc len ⟨pc, reg, mepc, dpc⟩ = ins.nextPc len ⟨pc, reg', mepc, dpc⟩ := by
  cases ins
  case branch cond rs1 rs2 offset =>
    have h1 : reg rs1 = reg' rs1 := h rs1 List.mem_cons_self
    have h2 : reg rs2 = reg' rs2 := h rs2 (List.mem_cons_of_mem _ List.mem_cons_self)
    change (if cond.holds (reg rs1) (reg rs2) then pc + offset else pc + len) =
      if cond.holds (reg' rs1) (reg' rs2) then pc + offset else pc + len
    rw [h1, h2]
  case jalr rd rs1 offset =>
    have h1 : reg rs1 = reg' rs1 := h rs1 List.mem_cons_self
    change evenPc (reg rs1 + offset) = evenPc (reg' rs1 + offset)
    rw [h1]
  all_goals rfl

theorem Instr.computes_congr (h : ∀ r ∈ ins.srcs, reg r = reg' r) :
    ins.computes pc len reg = ins.computes pc len reg' := by
  cases ins
  case op fn rd rs1 rs2 =>
    have h1 := h rs1 (by simp [srcs])
    have h2 := h rs2 (by simp [srcs])
    simp only [computes, value, h1, h2]
  case mulDiv fn rd rs1 rs2 =>
    have h1 := h rs1 (by simp [srcs])
    have h2 := h rs2 (by simp [srcs])
    simp only [computes, h1, h2]
  case opImm fn rd rs1 imm =>
    have h1 := h rs1 (by simp [srcs])
    simp only [computes, value, h1]
  all_goals rfl

theorem Instr.access_congr (h : ∀ r ∈ ins.srcs, reg r = reg' r) :
    ins.access reg = ins.access reg' := by
  cases ins
  case load z u rd rs1 offset =>
    have h1 := h rs1 (by simp [srcs])
    simp only [access, h1]
  case store z rs1 rs2 offset =>
    have h1 := h rs1 (by simp [srcs])
    have h2 := h rs2 (by simp [srcs])
    simp only [access, h1, h2]
  case lr rd rs1 =>
    have h1 := h rs1 (by simp [srcs])
    simp only [access, h1]
  case sc rd rs1 rs2 =>
    have h1 := h rs1 (by simp [srcs])
    have h2 := h rs2 (by simp [srcs])
    simp only [access, h1, h2]
  all_goals rfl

end

section
variable {w : BitVec 32} {ins : Instr} {op : CtrlOp} {σ : CtrlState}

theorem seqPc_eq : Ctrl.seqPc ⟨decide (w.extractLsb' 0 2 = 0b11#2), op⟩ σ = σ.pc + length w := by
  rw [Ctrl.seqPc, length]
  simp only [decide_eq_true_eq]

/-- A control transfer goes where `Ctrl.nextPc` says. -/
theorem nextPc_of_transfer (h : ins.transfer = some op) :
    Ctrl.nextPc ⟨decide (w.extractLsb' 0 2 = 0b11#2), op⟩ σ = ins.nextPc (length w) σ := by
  cases ins
  case branch cond rs1 rs2 offset =>
    cases h
    rw [Ctrl.nextPc, seqPc_eq]
    rfl
  case fencei =>
    cases h
    rw [Ctrl.nextPc, seqPc_eq]
    rfl
  case jal | jalr | mret | dret =>
    cases h
    rfl
  all_goals cases h

/-- Any other instruction is followed by the one behind it. -/
theorem nextPc_of_not_transfer (h : ins.transfer = none) :
    ins.nextPc (length w) σ = σ.pc + length w := by
  cases ins
  case branch | jal | jalr | mret | dret | fencei => cases h
  all_goals rfl

end
end E203.Isa
