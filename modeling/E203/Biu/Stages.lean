import E203.Icb.Splt
import E203.Lib.BitVecArith
import E203.Rtl.Biu

/-! # The command in the bus interface unit

The unit works on one command at a time.  It waits in the command buffer, then at its slave; its response
waits in the response buffer.

* `decode`, `route`: the slave of an address; `indic_eq`: the splitter selects it.
* `Stage`: where the command is; `InStage`: what the registers say then.
* `nextStage`: what a cycle does; `InStage.step`: the registers follow.
-/

namespace E203.Biu
set_option autoImplicit false

/-! ## The slave of a command -/

section
variable (cfg : Cfg)

def decode (addr : BitVec 32) : Slave :=
  if cmdPpi cfg addr then .ppi
  else if cmdClint cfg addr then .clint
  else if cmdPlic cfg addr then .plic
  else if cmdFio cfg addr then .fio
  else .mem

/-- A fetch (port 1) from a peripheral goes to the error slave. -/
def route (p : Fin 2) (addr : BitVec 32) : Slave :=
  if p = 1 ∧ decode cfg addr ≠ .mem then .ifuerr else decode cfg addr

/-- No address is in two regions, and the memory interface is enabled. -/
structure Cfg.Disjoint : Prop where
  regions : ∀ a, [cmdPpi cfg a, cmdClint cfg a, cmdPlic cfg a, cmdFio cfg a].count true ≤ 1
  mem : cfg.memIcbEnable = true

end

variable {cfg : Cfg}

theorem Cfg.e203_disjoint : Cfg.e203.Disjoint where
  regions a := by
    have hplic : a.extractLsb' 24 8 = (a.extractLsb' 16 16).extractLsb' 8 8 :=
      Lib.extractLsb'_of_extractLsb' (a := 16) (b := 8) rfl (by decide)
    have htop : a.extractLsb' 28 4 = (a.extractLsb' 24 8).extractLsb' 4 4 :=
      Lib.extractLsb'_of_extractLsb' (a := 24) (b := 4) rfl (by decide)
    simp only [cmdPpi, cmdClint, cmdPlic, cmdFio, htop]
    by_cases hclint : a.extractLsb' 16 16 = Cfg.e203.clintRegionIndic.extractLsb' 16 16
    · rw [hplic, hclint]
      decide
    · rw [beq_false_of_ne hclint]
      generalize a.extractLsb' 24 8 = x
      revert x
      decide +kernel
  mem := rfl

/-- The splitter is given the slave of the command alone. -/
theorem indic_eq (hcfg : cfg.Disjoint) (p : Fin 2) (c : Cmd) :
    bufIcbSpltIndic cfg ⟨c, p == 1⟩ = oneHot (route cfg p c.addr) := by
  have hcount := hcfg.regions c.addr
  have hp : ∀ usr : Bool, ∀ b₁ b₂ b₃ b₄ : Bool, [b₁, b₂, b₃, b₄].count true ≤ 1 →
      let j := if b₁ then Slave.ppi else if b₂ then .clint else if b₃ then .plic
        else if b₄ then .fio else .mem
      let k := if usr = true ∧ j ≠ .mem then .ifuerr else j
      (oneHot k .mem = (true && !((b₁ || b₂ || b₃ || b₄) && usr) && !(b₁ && !usr) && !(b₂ && !usr) &&
        !(b₃ && !usr) && !(b₄ && !usr))) ∧ oneHot k .fio = (b₄ && !usr) ∧
        oneHot k .plic = (b₃ && !usr) ∧ oneHot k .clint = (b₂ && !usr) ∧
        oneHot k .ppi = (b₁ && !usr) ∧ oneHot k .ifuerr = ((b₁ || b₂ || b₃ || b₄) && usr) := by
    decide
  obtain ⟨hmem, hfio, hplic, hclint, hppi, hifu⟩ := hp (p == 1) _ _ _ _ hcount
  have hroute : route cfg p c.addr = if (p == 1) = true ∧ decode cfg c.addr ≠ .mem then .ifuerr
      else decode cfg c.addr := by
    simp only [route, beq_iff_eq]
  rw [hroute, decode]
  funext j
  cases j
  · rw [hmem, ← hcfg.mem]
    rfl
  · rw [hfio]
    rfl
  · rw [hplic]
    rfl
  · rw [hclint]
    rfl
  · rw [hppi]
    rfl
  · rw [hifu]
    rfl

theorem Slave.mem_all (j : Slave) : j ∈ Slave.all := by cases j <;> decide

theorem Slave.nodup_all : Slave.all.Nodup := by decide

/-! ## Stages -/

/-- Where the command of port `p` is: in the command buffer, at its slave, or answered. -/
inductive Stage
  | buffered (p : Fin 2) (c : Cmd)
  | forwarded (p : Fin 2) (c : Cmd)
  | answered (p : Fin 2) (c : Cmd) (r : Rsp)

namespace Stage

def ports : Option Stage → List (Fin 2)
  | none => []
  | some (buffered p _) => [p]
  | some (forwarded p _) => [p]
  | some (answered p _ _) => [p]

def cmds : Option Stage → List BufCmd
  | some (buffered p c) => [⟨c, p == 1⟩]
  | _ => []

def targets (cfg : Cfg) : Option Stage → List (Slave → Bool)
  | some (forwarded p c) => [oneHot (route cfg p c.addr)]
  | _ => []

def rsps : Option Stage → List Rsp
  | some (answered _ _ r) => [r]
  | _ => []

end Stage

/-- A fetch from a peripheral is answered at once, with an error. -/
def Stage.Ok (cfg : Cfg) : Option Stage → Prop
  | some (forwarded p c) => route cfg p c.addr ≠ .ifuerr
  | some (answered p c r) => route cfg p c.addr = .ifuerr → r.err = true
  | _ => True

/-- The registers in each stage. -/
structure InStage (cfg : Cfg) (s : State) (st : Option Stage) : Prop where
  ok : Stage.Ok cfg st
  arbt : Arbt.Tracks s.arbt (Stage.ports st)
  cmdFifo : s.cmdFifo.Has (Stage.cmds st)
  rspFifo : s.rspFifo.Has (Stage.rsps st)
  splt : s.splt.rspid.Has (Stage.targets cfg st)

theorem InStage.of_reset {s : State} (h : IsReset s) : InStage cfg s none :=
  ⟨trivial, h.rspid, h.cmdFifo, h.rspFifo, h.splt⟩

/-! ## The events of a cycle -/

section
variable (cfg : Cfg) (s : State) (i : In)

def accepted : List (Fin 2 × Cmd) :=
  handshakes (arbtBusIcbCmdValid i) (arbtBusIcbCmdReady s i) fun p => (p, (arbtBus i p).cmd)

def issued : List (Slave × Cmd) :=
  Slave.all.flatMap fun j =>
    if spltBusIcbCmdValid cfg s j && spltBusIcbCmdReady cfg s i j then [(j, spltBusIcbCmd s j)] else []

def taken : List (Slave × Rsp) :=
  Slave.all.flatMap fun j =>
    if spltBusIcbRspValid cfg s i j && spltBusIcbRspReady cfg s j then [(j, (slave cfg s i j).rsp)]
    else []

def delivered : List (Fin 2 × Rsp) :=
  handshakes (arbtBusIcbRspValid s) (arbtBusIcbRspReady i) fun p => (p, arbtIcbRsp s)

end

/-- What a cycle does to the command: the stage after it, and what the cycle emits. -/
inductive Moves (cfg : Cfg) : Option Stage → List (Fin 2 × Cmd) → List (Slave × Cmd) →
    List (Slave × Rsp) → List (Fin 2 × Rsp) → Option Stage → Prop
  | idle : Moves cfg none [] [] [] [] none
  | accept (p : Fin 2) (c : Cmd) : Moves cfg none [(p, c)] [] [] [] (some (.buffered p c))
  | wait (st : Stage) : Moves cfg (some st) [] [] [] [] (some st)
  | forward (p : Fin 2) (c : Cmd) : Moves cfg (some (.buffered p c)) []
      [(route cfg p c.addr, c)] [] [] (some (.forwarded p c))
  | answerAtOnce (p : Fin 2) (c : Cmd) (r : Rsp) : Moves cfg (some (.buffered p c)) []
      [(route cfg p c.addr, c)] [(route cfg p c.addr, r)] [] (some (.answered p c r))
  | answer (p : Fin 2) (c : Cmd) (r : Rsp) :
      Moves cfg (some (.forwarded p c)) [] [] [(route cfg p c.addr, r)] [] (some (.answered p c r))
  | deliver (p : Fin 2) (c : Cmd) (r : Rsp)
      (herr : route cfg p c.addr = .ifuerr → r.err = true) :
      Moves cfg (some (.answered p c r)) [] [] [] [(p, r)] none

/-! ## The wires in each stage -/

section
variable {s : State} {i : In} {st : Option Stage} {p : Fin 2} {c : Cmd} {r : Rsp} {k : Slave}

theorem InStage.vld_of_empty (h : InStage cfg s st) (hc : Stage.cmds st = []) :
    bufIcbCmdValid s = false := by
  have hfifo := h.cmdFifo
  rw [hc] at hfifo
  exact hfifo

/-- While a command is in the unit the arbiter accepts no other. -/
theorem InStage.no_wen (h : InStage cfg s st) (hp : Stage.ports st = [p]) :
    Arbt.rspidFifoWen true s.arbt (arbtIcbRspValid s) (arbtBusIcbRspReady i) (arbtBusIcbCmdValid i)
      (arbtIcbCmdReady s) = false := by
  have harbt := h.arbt
  rw [hp] at harbt
  have hv : s.arbt.rspid.vldR = true := harbt.1
  simp [Arbt.rspidFifoWen, Arbt.oIcbCmdValid, Arbt.rspidFifoFull, PipeStage.iRdy, hv]

theorem InStage.accepted_nil (h : InStage cfg s st) (hp : Stage.ports st = [p]) :
    accepted s i = [] := by
  rw [accepted]
  change handshakes _ (Arbt.iBusIcbCmdReady true s.arbt _ _ _ _) _ = _
  rw [Arbt.cmd_handshakes, h.no_wen hp, if_neg Bool.false_ne_true]

theorem issued_of_invalid (h : bufIcbCmdValid s = false) : issued cfg s i = [] := by
  rw [issued, List.flatMap_eq_nil_iff]
  intro j _
  have hno : spltBusIcbCmdValid cfg s j = false := by
    simp [spltBusIcbCmdValid, Splt.oIcbCmdValid, Splt.iIcbCmdValidPre, h]
  rw [hno]
  rfl

theorem delivered_of_empty (h : s.rspFifo.vld = false) : delivered s i = [] := by
  have hno : ∀ q, arbtBusIcbRspValid s q = false := by
    intro q
    have hv : arbtIcbRspValid s = false := h
    rw [arbtBusIcbRspValid, Arbt.iBusIcbRspValid, Arbt.oIcbRspValidPre, hv, Bool.and_false,
      Bool.false_and]
  rw [delivered, handshakes, hno, hno]
  rfl

/-- What is taken when the splitter listens to a single slave. -/
theorem taken_of_port (hport : Splt.oIcbRspPortId s.splt (spltIndic cfg s) = oneHot k)
    (hready : bufIcbRspReady s = true) : taken cfg s i =
      if spltBusIcbRspValid cfg s i k then [(k, (slave cfg s i k).rsp)] else [] := by
  have hone : ∀ j, (spltBusIcbRspValid cfg s i j && spltBusIcbRspReady cfg s j) =
      (oneHot k j && spltBusIcbRspValid cfg s i k) := by
    intro j
    rw [spltBusIcbRspReady, Splt.oIcbRspReady, hport, hready, Bool.and_true, Bool.and_comm]
    by_cases hj : j = k
    · rw [hj]
    · have hne : oneHot k j = false := decide_eq_false hj
      rw [hne]
      rfl
  simp only [taken, hone]
  rw [flatMap_oneHot k.mem_all Slave.nodup_all]

theorem bufIcbRsp_of_port (hport : Splt.oIcbRspPortId s.splt (spltIndic cfg s) = oneHot k) :
    bufIcbRspValid cfg s i = spltBusIcbRspValid cfg s i k ∧
      bufIcbRsp cfg s i = (slave cfg s i k).rsp := by
  constructor
  · exact Splt.iIcbRspValid_of_port k.mem_all hport
  · rw [bufIcbRsp, Splt.selBit_of_port k.mem_all hport, Splt.selBus_of_port k.mem_all hport,
      Splt.selBit_of_port k.mem_all hport]

theorem taken_of_not_ready (h : bufIcbRspReady s = false) : taken cfg s i = [] := by
  rw [taken, List.flatMap_eq_nil_iff]
  intro j _
  rw [spltBusIcbRspReady, Splt.oIcbRspReady, h, Bool.and_false, Bool.and_false]
  rfl

/-! ### The command buffer holds a command -/

theorem InStage.indic_eq (h : InStage cfg s (some (.buffered p c))) (hcfg : cfg.Disjoint) :
    spltIndic cfg s = oneHot (route cfg p c.addr) ∧ bufIcbCmd s = ⟨c, p == 1⟩ := by
  have hdat : bufIcbCmd s = ⟨c, p == 1⟩ := h.cmdFifo.2
  refine ⟨?_, hdat⟩
  rw [spltIndic, hdat]
  exact Biu.indic_eq hcfg p c

theorem InStage.issued_eq (h : InStage cfg s (some (.buffered p c))) (hcfg : cfg.Disjoint) :
    issued cfg s i = if spltBusIcbCmdReady cfg s i (route cfg p c.addr) then
      [(route cfg p c.addr, c)] else [] := by
  obtain ⟨hindic, hdat⟩ := h.indic_eq hcfg
  have hvld : bufIcbCmdValid s = true := h.cmdFifo.1
  have hone : ∀ j, (spltBusIcbCmdValid cfg s j && spltBusIcbCmdReady cfg s i j) =
      (oneHot (route cfg p c.addr) j && spltBusIcbCmdReady cfg s i (route cfg p c.addr)) := by
    intro j
    have hsplt : s.splt.rspid.Has [] := h.splt
    rw [spltBusIcbCmdValid, hindic, hvld, Splt.cmdValid_of_empty hsplt, Bool.and_true]
    by_cases hj : j = route cfg p c.addr
    · rw [hj]
    · have hne : oneHot (route cfg p c.addr) j = false := decide_eq_false hj
      rw [hne]
      rfl
  simp only [issued, hone, spltBusIcbCmd, hdat]
  rw [flatMap_oneHot (Slave.mem_all _) Slave.nodup_all]

end
end E203.Biu
