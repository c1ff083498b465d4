import E203.Lib.Knockout
import E203.Rtl.Defines

/-! # The priority tree of the interrupt controller (`sirv_plic_man.v`)

For every `PLIC_IRQ_NUM`, `PLIC_PRIO_WIDTH` and `PLIC_IRQ_NUM_LOG2`.
-/

namespace E203.PlicTree
set_option autoImplicit false

section
variable {PRIO_WIDTH : ℕ}

/-- What the tree reads, by the index of the source and of the word of enable bits. -/
structure Regs (PRIO_WIDTH : ℕ) where
  irqPendR : ℕ → Bool
  irqPrioR : ℕ → BitVec PRIO_WIDTH
  irqEnabR : ℕ → BitVec 32
  irqThodR : BitVec PRIO_WIDTH

/-- An entry of `irq_prio_lvl_*`, `irq_id_lvl_*`, `irq_ip_lvl_*`. -/
structure Entry (PRIO_WIDTH IRQ_NUM_LOG2 : ℕ) where
  prio : BitVec PRIO_WIDTH
  id : BitVec IRQ_NUM_LOG2
  ip : Bool
deriving DecidableEq

variable (IRQ_NUM IRQ_NUM_LOG2 : ℕ) (r : Regs PRIO_WIDTH)

def irqPrioMasked (n : ℕ) : BitVec PRIO_WIDTH :=
  r.irqPrioR n &&& gate (r.irqPendR n) (BitVec.allOnes PRIO_WIDTH)

/-- `irq_enab_r[n/32][n%32]`. -/
def irqEnab (n : ℕ) : Bool := (r.irqEnabR (n / 32)).getLsbD (n % 32)

/-- An entry of level 10; source 0 and the unused ones are tied to zero. -/
def leaf (n : ℕ) : Entry PRIO_WIDTH IRQ_NUM_LOG2 :=
  if n = 0 then ⟨BitVec.ofNat PRIO_WIDTH 0, BitVec.ofNat IRQ_NUM_LOG2 0, false⟩
  else if n < IRQ_NUM then
    ⟨irqPrioMasked r n &&& gate (irqEnab r n) (BitVec.allOnes PRIO_WIDTH),
      BitVec.ofNat IRQ_NUM_LOG2 n, r.irqPendR n && irqEnab r n⟩
  else ⟨BitVec.ofNat PRIO_WIDTH 0, BitVec.ofNat IRQ_NUM_LOG2 n, false⟩

def lvl10 : List (Entry PRIO_WIDTH IRQ_NUM_LOG2) := (List.range 1024).map (leaf IRQ_NUM IRQ_NUM_LOG2 r)

/-- `irq_prio_top`, `irq_id_top`, `irq_ip_top`: levels 9 to 1 and the top compare in pairs. -/
def irqTop : Entry PRIO_WIDTH IRQ_NUM_LOG2 :=
  (Lib.rounds (fun e : Entry PRIO_WIDTH IRQ_NUM_LOG2 => e.prio.toNat) 10
    (lvl10 IRQ_NUM IRQ_NUM_LOG2 r)).headD (leaf IRQ_NUM IRQ_NUM_LOG2 r 0)

def irqO : Bool :=
  (irqTop IRQ_NUM IRQ_NUM_LOG2 r).ip &&
    decide (r.irqThodR.toNat < (irqTop IRQ_NUM IRQ_NUM_LOG2 r).prio.toNat)

def irqId : BitVec IRQ_NUM_LOG2 := (irqTop IRQ_NUM IRQ_NUM_LOG2 r).id

end
end E203.PlicTree
