import E203.Icb.Arbt
import E203.Rtl.DtcmCtrl
import E203.Tcm.Memory

/-! # The DTCM controller implements the memory

* `DtcmCtrl.accepted`, `DtcmCtrl.offered`, `DtcmCtrl.responded`: what the ports exchange in a cycle.
* `DtcmCtrl.Pending`: the controller holds the pending commands, and its SRAM what the answered ones
  left and the oldest pending one did.
* `DtcmCtrl.Pending.cycle`: a cycle keeps it; `DtcmCtrl.linearizes`: and so does every run.
-/

namespace E203.DtcmCtrl
set_option autoImplicit false
open Lib (ByteMem Holds)

section
variable (s : State) (i : In)

def accepted : List Tcm.Cmd :=
  handshakes (arbtBusIcbCmdValid i) (arbtBusIcbCmdReady s i) fun p => .bus p (arbtBus i p).cmd

def offered : List Tcm.Rsp :=
  handshakes (arbtBusIcbRspValid s) (fun _ => true) fun p => .bus p (arbtBusIcbRsp s)

def takes : Tcm.Rsp → Bool
  | .bus p _ => arbtBusIcbRspReady i p
  | .ifu _ => false

def responded : List Tcm.Rsp := (offered s).filter (takes i)

end

/-! ## What the controller holds -/

def toSram (x : Fin 2 × IcbCmd 16 4) : UsrCmd 16 4 Bool := ⟨x.2, x.2.read⟩

def toCmd (x : Fin 2 × IcbCmd 16 4) : Tcm.Cmd := .bus x.1 x.2

structure Holding (s : State) (m : ByteMem) (l : List (Fin 2 × IcbCmd 16 4)) : Prop where
  sram : ∃ mem, Holds mem m ∧ SramCtrl.Holding s.sram mem (l.map toSram)
  rspid : Arbt.Tracks s.arbt (l.map Prod.fst)

def Pending (s : State) (m : ByteMem) (pend : List Tcm.Cmd) : Prop :=
  ∃ l, pend = l.map toCmd ∧ Holding s m l

section
variable {s : State} {i : In} {m : ByteMem} {l : List (Fin 2 × IcbCmd 16 4)} {pend : List Tcm.Cmd}
  {x : Fin 2 × IcbCmd 16 4}

theorem Holding.length_le (h : Holding s m l) : l.length ≤ 1 := by
  have hlen := PipeStage.Has.length_le h.rspid
  rwa [List.length_map] at hlen

theorem Holding.rspValid_eq (h : Holding s m l) : arbtIcbRspValid s = !l.isEmpty := by
  obtain ⟨mem, -, hsram⟩ := h.sram
  rw [arbtIcbRspValid, hsram.rspValid_eq, List.isEmpty_map]

theorem Holding.offered_nil (h : Holding s m []) : offered s = [] := by
  have hno : ∀ p, arbtBusIcbRspValid s p = false := by
    intro p
    rw [arbtBusIcbRspValid, h.rspid.rspValid_eq, h.rspValid_eq]
    rfl
  rw [offered, handshakes, hno 0, hno 1]
  rfl

theorem Holding.offered_one (h : Holding s m [x]) : offered s = [.bus x.1 (arbtBusIcbRsp s)] := by
  have hone : ∀ p, (arbtBusIcbRspValid s p && true) = (true && decide (p = x.1)) := by
    intro p
    rw [arbtBusIcbRspValid, h.rspid.rspValid_eq, h.rspValid_eq]
    have hcomm : decide ([x.1] = [p]) = decide (p = x.1) :=
      decide_eq_decide.mpr ⟨fun heq => (List.cons.inj heq).1.symm, fun heq => heq ▸ rfl⟩
    simpa using hcomm
  rw [offered, handshakes_of_only hone, if_pos rfl]

theorem Holding.answer (h : Holding s m [x]) :
    Tcm.memory.answer (toCmd x) m (.bus x.1 (arbtBusIcbRsp s)) := by
  obtain ⟨mem, hmem, hsram⟩ := h.sram
  refine ⟨rfl, rfl, fun hread => ?_⟩
  have hdata := hsram.inE1.rdata hread
  rw [Tcm.access_load (by decide) hmem] at hdata
  exact hdata

theorem Pending.offers (h : Pending s m pend) : Lib.Offers Tcm.memory m pend (offered s) := by
  obtain ⟨l, rfl, h⟩ := h
  have hlen := h.length_le
  obtain _ | ⟨x, _ | ⟨y, rest⟩⟩ := l
  · exact h.offered_nil
  · exact ⟨_, h.offered_one, h.answer⟩
  · exact absurd hlen (by simp)

/-! ## The cycle -/

def cmdHsked (s : State) (i : In) : Bool :=
  Arbt.rspidFifoWen false s.arbt (arbtIcbRspValid s) (arbtBusIcbRspReady i) (arbtBusIcbCmdValid i)
    (arbtIcbCmdReady s)

def granted (i : In) : Fin 2 × IcbCmd 16 4 :=
  (Arbt.iArbtIndicId (arbtBusIcbCmdValid i),
    (arbtBus i (Arbt.iArbtIndicId (arbtBusIcbCmdValid i))).cmd)

def entering (s : State) (i : In) : List (Fin 2 × IcbCmd 16 4) :=
  if cmdHsked s i then [granted i] else []

theorem accepted_eq : accepted s i = (entering s i).map toCmd := by
  have hpass := Arbt.cmd_handshakes false s.arbt (arbtIcbRspValid s) (arbtBusIcbRspReady i)
    (arbtBusIcbCmdValid i) (arbtIcbCmdReady s) fun p => Tcm.Cmd.bus p (arbtBus i p).cmd
  refine hpass.trans ?_
  rw [entering, cmdHsked]
  split
  · rfl
  · rfl

theorem sram_accepted_eq :
    SramCtrl.accepted s.sram (arbtIcbCmdValid s i) (sramIcbCmd i) = (entering s i).map toSram := by
  have hwen : (arbtIcbCmdValid s i && SramCtrl.iIcbCmdReady s.sram) = cmdHsked s i := rfl
  rw [SramCtrl.accepted, hwen, entering]
  cases h : cmdHsked s i
  · rfl
  · have hcmd : arbtIcbCmd i = (granted i).2 := Arbt.oIcbCmd_eq h
    rw [if_pos rfl, if_pos rfl, sramIcbCmd, hcmd]
    rfl

theorem rspid_step (h : Holding s m l) (popped : Bool)
    (hpop : (!l.isEmpty && (l.map Prod.fst).any (arbtBusIcbRspReady i)) = popped) :
    Arbt.Tracks (step i s).arbt
      (((if popped then l.tail else l) ++ entering s i).map Prod.fst) := by
  have hnext := h.rspid.step false (arbtIcbRspValid s) (arbtBusIcbRspReady i)
    (arbtBusIcbCmdValid i) (arbtIcbCmdReady s)
  have hren : Arbt.rspidFifoRen s.arbt (arbtIcbRspValid s) (arbtBusIcbRspReady i) = popped := by
    rw [h.rspid.rspidFifoRen_eq, h.rspValid_eq, hpop]
  rw [hren] at hnext
  have hent : (entering s i).map Prod.fst =
      if cmdHsked s i then [Arbt.iArbtIndicId (arbtBusIcbCmdValid i)] else [] := by
    rw [entering]
    split
    · rfl
    · rfl
  have htail : (if popped then l.tail else l).map Prod.fst =
      if popped then (l.map Prod.fst).tail else l.map Prod.fst := by
    cases popped
    · rfl
    · exact List.map_tail
  rw [List.map_append, hent, htail]
  exact hnext

theorem Holding.step_taken (h : Holding s m [x]) (htake : arbtBusIcbRspReady i x.1 = true) :
    Holding (step i s) (Tcm.exec x.2 m) (entering s i) := by
  obtain ⟨mem, hmem, hsram⟩ := h.sram
  have hready : arbtIcbRspReady s i = true := by
    rw [arbtIcbRspReady, h.rspid.oIcbRspReady_eq]
    exact htake
  constructor
  · refine ⟨(toSram x).access mem, Tcm.access_exec (by decide) hmem, ?_⟩
    rw [step, ← sram_accepted_eq, hready]
    exact hsram.answer
  · refine rspid_step h true ?_
    simp [htake]

theorem Holding.step_kept (h : Holding s m l)
    (hkeep : ∀ x, l = [x] → arbtBusIcbRspReady i x.1 = false) :
    Holding (step i s) m (l ++ entering s i) := by
  obtain ⟨mem, hmem, hsram⟩ := h.sram
  have hlen := h.length_le
  have hpop : (!l.isEmpty && (l.map Prod.fst).any (arbtBusIcbRspReady i)) = false := by
    obtain _ | ⟨x, _ | ⟨y, rest⟩⟩ := l
    · rfl
    · simp [hkeep x rfl]
    · exact absurd hlen (by simp)
  constructor
  · refine ⟨mem, hmem, ?_⟩
    rw [List.map_append, ← sram_accepted_eq]
    refine hsram.wait ?_
    obtain _ | ⟨x, _ | ⟨y, rest⟩⟩ := l
    · rw [hsram.rspValid_eq]
      rfl
    · rw [arbtIcbRspReady, h.rspid.oIcbRspReady_eq, hkeep x rfl, Bool.and_false]
    · exact absurd hlen (by simp)
  · exact rspid_step h false hpop

/-- One cycle serves the memory. -/
theorem Pending.cycle (h : Pending s m pend) : ∃ m' pend',
    Lib.Cycle Tcm.memory m pend (accepted s i) (responded s i) m' pend' ∧
      Pending (step i s) m' pend' := by
  obtain ⟨l, rfl, h⟩ := h
  have hlen := h.length_le
  rw [accepted_eq, responded]
  obtain _ | ⟨x, _ | ⟨y, rest⟩⟩ := l
  · refine ⟨m, _, ?_, _, (List.map_append ..).symm, h.step_kept fun x hx => by cases hx⟩
    rw [h.offered_nil]
    exact .wait
  · rw [h.offered_one]
    cases htake : arbtBusIcbRspReady i x.1
    · refine ⟨m, _, ?_, _, (List.map_append ..).symm, h.step_kept ?_⟩
      · simp only [List.filter, takes, htake]
        exact .wait
      · intro y hy
        cases hy
        exact htake
    · refine ⟨Tcm.exec x.2 m, _, ?_, entering s i, rfl, h.step_taken htake⟩
      simp only [List.filter, takes, htake]
      exact .answer rfl h.answer
  · exact absurd hlen (by simp)

end

/-! ## Runs -/

section
variable (inp : ℕ → In) (s₀ : State)

def st (t : ℕ) : State := Lib.stateAt step inp s₀ t

variable {inp s₀} {m₀ : ByteMem}

theorem pending_reset (h : IsReset s₀) (hmem : Holds s₀.sram.ram.memR m₀) : Pending s₀ m₀ [] :=
  ⟨[], rfl, ⟨_, hmem, h.e1, h.byp, rfl⟩, h.rspid⟩

theorem serves (h : IsReset s₀) (hmem : Holds s₀.sram.ram.memR m₀) (t : ℕ) :
    ∃ m pend, Lib.Serves Tcm.memory m₀
      (Lib.emitted (fun t => accepted (st inp s₀ t) (inp t)) 0 t)
      (Lib.emitted (fun t => responded (st inp s₀ t) (inp t)) 0 t) m pend ∧
        Pending (st inp s₀ t) m pend :=
  Lib.Serves.of_cycles (pending_reset h hmem) (fun _ _ _ hpend => hpend.cycle) t

theorem linearizes (inp : ℕ → In) (h : IsReset s₀) (hmem : Holds s₀.sram.ram.memR m₀) :
    Lib.Linearizes Tcm.memory m₀ (fun t => accepted (st inp s₀ t) (inp t))
      (fun t => offered (st inp s₀ t)) fun t => responded (st inp s₀ t) (inp t) := by
  intro t
  obtain ⟨m, pend, hserves, hpend⟩ := serves h hmem t
  exact ⟨m, pend, hserves, hpend.offers⟩

end
end E203.DtcmCtrl
