import E203.Icb.Arbt
import E203.Rtl.ItcmCtrl
import E203.Tcm.Memory

/-! # The ITCM controller implements the memory

As for the DTCM, with two more things in step with the pending commands: the halves that the width
converters keep, and the bit that says whether a command is of the fetch unit.
-/

namespace E203.ItcmCtrl
set_option autoImplicit false
open Lib (ByteMem Holds)

section
variable (s : State) (i : In)

def accepted : List Tcm.Cmd :=
  handshakes (fun p => (bus i p).cmdValid) (busIcbCmdReady s i) (fun p => .bus p (bus i p).cmd) ++
    if i.ifu2itcm.cmdValid && ifu2itcmIcbCmdReady s i then [.ifu i.ifu2itcm.cmd] else []

def offered : List Tcm.Rsp :=
  handshakes (busIcbRspValid s) (fun _ => true) (fun p => .bus p (busIcbRsp s p)) ++
    if ifu2itcmIcbRspValid s then [.ifu (ifu2itcmIcbRsp s)] else []

def takes : Tcm.Rsp → Bool
  | .bus p _ => busIcbRspReady i p
  | .ifu _ => i.ifu2itcm.rspReady

def responded : List Tcm.Rsp := (offered s).filter (takes i)

end

/-! ## What the controller holds -/

def toSram : Tcm.Cmd → UsrCmd 16 8 Usr
  | .bus _ c => ⟨N2w.oIcbCmd c, ⟨false, c.read⟩⟩
  | .ifu c => ⟨c, ⟨true, c.read⟩⟩

/-- The half of a command that passes the converter of a port. -/
def half (p : Fin 2) : Tcm.Cmd → Option Bool
  | .bus q c => if q = p then some (N2w.cmdYLoHi c) else none
  | .ifu _ => none

structure Pending (s : State) (m : ByteMem) (pend : List Tcm.Cmd) : Prop where
  sram : ∃ mem, Holds mem m ∧ SramCtrl.Holding s.sram mem (pend.map toSram)
  rspid : Arbt.Tracks s.arbt (pend.filterMap Tcm.port)
  n2w : ∀ p, (s.n2w p).fifo.Has (pend.filterMap (half p))

section
variable {s : State} {i : In} {m : ByteMem} {pend rest : List Tcm.Cmd} {c : IcbCmd 16 4}
  {d : IcbCmd 16 8} {x : Tcm.Cmd} {p q : Fin 2}

theorem Pending.length_le (h : Pending s m pend) : pend.length ≤ 2 := by
  obtain ⟨mem, -, hsram⟩ := h.sram
  have hlen := hsram.length_le
  rwa [List.length_map] at hlen

theorem Pending.rspValid_eq (h : Pending s m pend) : sramIcbRspValid s = !pend.isEmpty := by
  obtain ⟨mem, -, hsram⟩ := h.sram
  rw [sramIcbRspValid, hsram.rspValid_eq, List.isEmpty_map]

theorem Pending.rspIfu_eq (h : Pending s m (x :: rest)) :
    sramIcbRspIfu s = (toSram x).usr.ifu := by
  obtain ⟨mem, -, hsram⟩ := h.sram
  exact congrArg Usr.ifu hsram.inE1.usr

/-- A command that passes the arbiter is the only one. -/
theorem Pending.port_rest (h : Pending s m (.bus p c :: rest)) : rest.filterMap Tcm.port = [] := by
  have hlen := PipeStage.Has.length_le h.rspid
  have hcons : (Tcm.Cmd.bus p c :: rest).filterMap Tcm.port = p :: rest.filterMap Tcm.port := rfl
  rw [hcons, List.length_cons] at hlen
  exact List.length_eq_zero_iff.mp (by omega)

theorem Pending.ports (h : Pending s m (.bus p c :: rest)) :
    (Tcm.Cmd.bus p c :: rest).filterMap Tcm.port = [p] := by
  change p :: rest.filterMap Tcm.port = [p]
  rw [h.port_rest]

theorem half_eq_none (h : Tcm.port x = none) : half p x = none := by
  cases x with
  | bus q c => cases h
  | ifu d => rfl

theorem filterMap_half_of_port (h : pend.filterMap Tcm.port = []) : pend.filterMap (half p) = [] :=
  List.filterMap_eq_nil_iff.mpr fun x hx => half_eq_none (List.filterMap_eq_nil_iff.mp h x hx)

/-! ## The responses -/

theorem Pending.busRspValid_bus (h : Pending s m (.bus p c :: rest)) :
    busIcbRspValid s q = decide (q = p) := by
  have hports := h.ports
  have hval : arbtIcbRspValid s = true := by
    rw [arbtIcbRspValid, h.rspValid_eq, h.rspIfu_eq]
    rfl
  rw [busIcbRspValid, h.rspid.rspValid_eq, hports, hval, Bool.true_and]
  exact decide_eq_decide.mpr ⟨fun heq => (List.cons.inj heq).1.symm, fun heq => heq ▸ rfl⟩

theorem Pending.busRspValid_ifu (h : Pending s m (.ifu d :: rest)) : busIcbRspValid s q = false := by
  have hval : arbtIcbRspValid s = false := by
    rw [arbtIcbRspValid, h.rspIfu_eq]
    exact Bool.and_false _
  rw [busIcbRspValid, h.rspid.rspValid_eq, hval, Bool.false_and]

theorem Pending.offered_nil (h : Pending s m []) : offered s = [] := by
  have hval : sramIcbRspValid s = false := h.rspValid_eq
  have hno : ∀ p, busIcbRspValid s p = false := by
    intro p
    rw [busIcbRspValid, h.rspid.rspValid_eq, arbtIcbRspValid, hval, Bool.false_and, Bool.false_and]
  rw [offered, handshakes, hno 0, hno 1, ifu2itcmIcbRspValid, hval]
  rfl

theorem Pending.offered_bus (h : Pending s m (.bus p c :: rest)) :
    offered s = [.bus p (busIcbRsp s p)] := by
  have hifu : ifu2itcmIcbRspValid s = false := by
    rw [ifu2itcmIcbRspValid, h.rspIfu_eq]
    exact Bool.and_false _
  have hone : ∀ q, (busIcbRspValid s q && true) = (true && decide (q = p)) := by
    intro q
    rw [h.busRspValid_bus, Bool.and_true, Bool.true_and]
  rw [offered, handshakes_of_only hone, hifu]
  rfl

theorem Pending.offered_ifu (h : Pending s m (.ifu d :: rest)) :
    offered s = [.ifu (ifu2itcmIcbRsp s)] := by
  have hifu : ifu2itcmIcbRspValid s = true := by
    rw [ifu2itcmIcbRspValid, h.rspIfu_eq, h.rspValid_eq]
    rfl
  rw [offered, handshakes, h.busRspValid_ifu, h.busRspValid_ifu, hifu]
  rfl

theorem Pending.rdata_eq (h : Pending s m (x :: rest)) (hread : (toSram x).read = true) :
    sramIcbRspRdata s = m.load 8 (Tcm.base (toSram x).toIcbCmd) := by
  obtain ⟨mem, hmem, hsram⟩ := h.sram
  have hdata := hsram.inE1.rdata hread
  rw [Tcm.access_load (by decide) hmem] at hdata
  exact hdata

theorem Pending.offers (h : Pending s m pend) : Lib.Offers Tcm.memory m pend (offered s) := by
  obtain _ | ⟨x, rest⟩ := pend
  · exact h.offered_nil
  · cases x with
    | bus p c =>
      refine ⟨_, h.offered_bus, rfl, rfl, fun hread => ?_⟩
      have hhalf : N2w.rspYLoHi (s.n2w p) = N2w.cmdYLoHi c := by
        have hhas := h.n2w p
        have hself : half p (.bus p c) = some (N2w.cmdYLoHi c) := if_pos rfl
        rw [List.filterMap_cons_some hself, filterMap_half_of_port h.port_rest] at hhas
        exact hhas.2
      have hdata := h.rdata_eq hread
      rw [busIcbRsp, hdata]
      exact Tcm.load_n2w hhalf
    | ifu d => exact ⟨_, h.offered_ifu, rfl, fun hread => h.rdata_eq hread⟩

/-! ## What leaves -/

def takesFor (i : In) : Tcm.Cmd → Bool
  | .bus p _ => busIcbRspReady i p
  | .ifu _ => i.ifu2itcm.rspReady

/-- The oldest command gets its response. -/
def taken (i : In) (pend : List Tcm.Cmd) : Bool := pend.head?.any (takesFor i)

def left (i : In) (pend : List Tcm.Cmd) : List Tcm.Cmd := if taken i pend then pend.tail else pend

theorem Pending.sramRsp_hsked (h : Pending s m pend) :
    (sramIcbRspValid s && sramIcbRspReady s i) = taken i pend := by
  rw [h.rspValid_eq]
  obtain _ | ⟨x, rest⟩ := pend
  · rfl
  · rw [sramIcbRspReady, h.rspIfu_eq]
    cases x with
    | bus p c =>
      have hports := h.ports
      have htracks := h.rspid
      rw [hports] at htracks
      have hready : arbtIcbRspReady s i = busIcbRspReady i p := htracks.oIcbRspReady_eq
      change (true && arbtIcbRspReady s i) = busIcbRspReady i p
      rw [hready, Bool.true_and]
    | ifu d => rfl

/-- The arbiter forgets the command that leaves. -/
theorem Pending.rspid_left (h : Pending s m pend) :
    (if Arbt.rspidFifoRen s.arbt (arbtIcbRspValid s) (busIcbRspReady i)
      then (pend.filterMap Tcm.port).tail else pend.filterMap Tcm.port) = (left i pend).filterMap Tcm.port := by
  rw [h.rspid.rspidFifoRen_eq, arbtIcbRspValid, h.rspValid_eq, left]
  obtain _ | ⟨x, rest⟩ := pend
  · rfl
  · rw [h.rspIfu_eq]
    cases x with
    | bus p c =>
      have hports := h.ports
      have htaken : taken i (.bus p c :: rest) = busIcbRspReady i p := rfl
      rw [hports, htaken]
      cases hr : busIcbRspReady i p
      · simpa [hr] using hports.symm
      · simpa [hr, toSram] using h.port_rest.symm
    | ifu d =>
      have hports : (Tcm.Cmd.ifu d :: rest).filterMap Tcm.port = rest.filterMap Tcm.port :=
        List.filterMap_cons_none rfl
      rw [hports]
      cases htaken : taken i (.ifu d :: rest)
      · simpa [toSram] using hports.symm
      · simp [toSram]

/-- The converter of a port forgets its command when it leaves. -/
theorem Pending.n2w_left (h : Pending s m pend) :
    (if N2w.n2wFifoRen (busIcbRspValid s p) (busIcbRspReady i p)
      then (pend.filterMap (half p)).tail else pend.filterMap (half p)) =
        (left i pend).filterMap (half p) := by
  rw [N2w.n2wFifoRen, left]
  obtain _ | ⟨x, rest⟩ := pend
  · exact ite_self _
  · cases x with
    | bus q c =>
      have hrest := filterMap_half_of_port (p := p) h.port_rest
      have htaken : taken i (.bus q c :: rest) = busIcbRspReady i q := rfl
      rw [h.busRspValid_bus, htaken]
      by_cases hpq : p = q
      · subst hpq
        have hself : half p (.bus p c) = some (N2w.cmdYLoHi c) := if_pos rfl
        rw [List.filterMap_cons_some hself, hrest, decide_eq_true rfl, Bool.true_and]
        cases busIcbRspReady i p
        · exact (List.filterMap_cons_some hself).symm ▸ hrest ▸ rfl
        · exact hrest.symm
      · have hother : half p (.bus q c) = none := if_neg fun heq => hpq heq.symm
        rw [List.filterMap_cons_none hother, hrest, decide_eq_false hpq, Bool.false_and]
        cases busIcbRspReady i q
        · exact (List.filterMap_cons_none hother).symm ▸ hrest.symm
        · exact hrest.symm
    | ifu d =>
      have hother : half p (.ifu d) = none := rfl
      rw [h.busRspValid_ifu, Bool.false_and, if_neg Bool.false_ne_true,
        List.filterMap_cons_none hother]
      cases taken i (.ifu d :: rest)
      · exact (List.filterMap_cons_none hother).symm
      · rfl

/-! ## What enters -/

def cmdHsked (s : State) (i : In) : Bool :=
  Arbt.rspidFifoWen false s.arbt (arbtIcbRspValid s) (busIcbRspReady i) (arbtBusIcbCmdValid s i)
    (arbtIcbCmdReady s)

def granted (s : State) (i : In) : Fin 2 := Arbt.iArbtIndicId (arbtBusIcbCmdValid s i)

def entering (s : State) (i : In) : List Tcm.Cmd :=
  if cmdHsked s i then [.bus (granted s i) (bus i (granted s i)).cmd]
  else if i.ifu2itcm.cmdValid && ifu2itcmIcbCmdReady s i then [.ifu i.ifu2itcm.cmd]
  else []

theorem cmdHsked_eq : cmdHsked s i = (arbtIcbCmdValid s i && sramIcbCmdReady s) := rfl

theorem ifu_not_ready (h : arbtIcbCmdValid s i = true) : ifu2itcmIcbCmdReady s i = false := by
  rw [ifu2itcmIcbCmdReady, sramReady2ifu, h]
  rfl

/-- A port of the converters exchanges a command when it passes the arbiter. -/
theorem bus_handshake (p : Fin 2) : ((bus i p).cmdValid && busIcbCmdReady s i p) =
    (cmdHsked s i && decide (p = granted s i)) := by
  rw [busIcbCmdReady, N2w.cmd_handshake]
  exact Arbt.cmd_handshake false s.arbt (arbtIcbRspValid s) (busIcbRspReady i)
    (arbtBusIcbCmdValid s i) (arbtIcbCmdReady s) p

theorem accepted_eq : accepted s i = entering s i := by
  rw [accepted, handshakes_of_only bus_handshake, entering]
  cases h : cmdHsked s i
  · rfl
  · rw [cmdHsked_eq, Bool.and_eq_true] at h
    rw [ifu_not_ready h.1, Bool.and_false]
    rfl

theorem sramIcbCmd_of_arbt (h : arbtIcbCmdValid s i = true) :
    sramIcbCmd s i = ⟨arbtIcbCmd s i, ⟨false, (arbtIcbCmd s i).read⟩⟩ := by
  have hifu : sramSelIfu s i = false := by
    rw [sramSelIfu, sramReady2ifu, h]
    rfl
  have harbt : sramSelArbt s i = true := h
  simp only [sramIcbCmd, sramIcbCmdIfu, hifu, harbt, gate_true, gate_false, Bool.false_and,
    Bool.true_and, Bool.false_or, BitVec.zero_or]

theorem sramIcbCmd_of_ifu (hno : arbtIcbCmdValid s i = false)
    (hifu : i.ifu2itcm.cmdValid = true) :
    sramIcbCmd s i = ⟨i.ifu2itcm.cmd, ⟨true, i.ifu2itcm.cmd.read⟩⟩ := by
  have hsel : sramSelIfu s i = true := by
    rw [sramSelIfu, sramReady2ifu, hno, hifu]
    rfl
  have harbt : sramSelArbt s i = false := hno
  simp only [sramIcbCmd, sramIcbCmdIfu, hsel, harbt, gate_true, gate_false, Bool.false_and,
    Bool.true_and, Bool.or_false, BitVec.or_zero]

theorem sramIcbCmdValid_eq : sramIcbCmdValid s i =
    (arbtIcbCmdValid s i || i.ifu2itcm.cmdValid) := by
  rw [sramIcbCmdValid, sramSelArbt, sramSelIfu, sramReady2ifu]
  cases arbtIcbCmdValid s i <;> cases i.ifu2itcm.cmdValid <;> rfl

theorem sram_accepted_eq :
    SramCtrl.accepted s.sram (sramIcbCmdValid s i) (sramIcbCmd s i) =
      (entering s i).map toSram := by
  have hrdy : SramCtrl.iIcbCmdReady s.sram = sramIcbCmdReady s := rfl
  rw [SramCtrl.accepted, sramIcbCmdValid_eq, hrdy, entering, cmdHsked_eq]
  cases hv : arbtIcbCmdValid s i
  · cases hifu : i.ifu2itcm.cmdValid
    · rfl
    · have hready : ifu2itcmIcbCmdReady s i = sramIcbCmdReady s := by
        rw [ifu2itcmIcbCmdReady, sramReady2ifu, hv]
        rfl
      rw [sramIcbCmd_of_ifu hv hifu, hready]
      cases sramIcbCmdReady s <;> rfl
  · cases hr : sramIcbCmdReady s
    · rw [ifu_not_ready hv]
      cases i.ifu2itcm.cmdValid <;> rfl
    · have hwen : cmdHsked s i = true := by rw [cmdHsked_eq, hv, hr]; rfl
      have hcmd : arbtIcbCmd s i = N2w.oIcbCmd (bus i (granted s i)).cmd := Arbt.oIcbCmd_eq hwen
      rw [sramIcbCmd_of_arbt hv, hcmd]
      rfl

theorem port_entering : (entering s i).filterMap Tcm.port =
    if cmdHsked s i then [granted s i] else [] := by
  rw [entering]
  cases cmdHsked s i
  · cases i.ifu2itcm.cmdValid && ifu2itcmIcbCmdReady s i <;> rfl
  · rfl

theorem half_entering (p : Fin 2) : (entering s i).filterMap (half p) =
    if (bus i p).cmdValid && busIcbCmdReady s i p then [N2w.cmdYLoHi (bus i p).cmd] else [] := by
  rw [bus_handshake, entering]
  cases cmdHsked s i
  · cases i.ifu2itcm.cmdValid && ifu2itcmIcbCmdReady s i <;> rfl
  · by_cases hp : p = granted s i
    · rw [hp, decide_eq_true rfl]
      exact List.filterMap_cons_some (if_pos rfl)
    · rw [decide_eq_false hp]
      exact List.filterMap_cons_none (if_neg fun heq => hp heq.symm)

/-! ## The cycle -/

/-- The memory after a command that the SRAM executes. -/
theorem access_toSram {mem : BitVec (16 - 3) → BitVec (8 * 8)} (x : Tcm.Cmd) (hmem : Holds mem m) :
    Holds ((toSram x).access mem) (Tcm.memory.exec x m) := by
  have hacc : Holds ((toSram x).access mem) (Tcm.exec (toSram x).toIcbCmd m) :=
    Tcm.access_exec (by decide) hmem
  cases x with
  | bus p c =>
    change Holds _ (Tcm.exec (N2w.oIcbCmd c) m) at hacc
    rw [Tcm.exec_n2w] at hacc
    exact hacc
  | ifu d => exact hacc

/-- The registers beside the SRAM controller follow what leaves and what enters. -/
theorem Pending.step_of_sram (h : Pending s m pend) (m' : ByteMem)
    (hsram : ∃ mem, Holds mem m' ∧
      SramCtrl.Holding (step i s).sram mem ((left i pend ++ entering s i).map toSram)) :
    Pending (step i s) m' (left i pend ++ entering s i) where
  sram := hsram
  rspid := by
    have hnext := h.rspid.step false (arbtIcbRspValid s) (busIcbRspReady i)
      (arbtBusIcbCmdValid s i) (arbtIcbCmdReady s)
    rw [h.rspid_left] at hnext
    rw [List.filterMap_append, port_entering]
    exact hnext
  n2w p := by
    have hnext := N2w.step_has (h.n2w p) (bus i p).cmd (busIcbRspValid s p) (busIcbRspReady i p)
      (bus i p).cmdValid (arbtBusIcbCmdReady s i p)
    rw [h.n2w_left] at hnext
    rw [List.filterMap_append, half_entering]
    exact hnext

theorem Pending.step_taken (h : Pending s m (x :: rest)) (htake : taken i (x :: rest) = true) :
    Pending (step i s) (Tcm.memory.exec x m) (rest ++ entering s i) := by
  have hleft : left i (x :: rest) = rest := if_pos htake
  have hnext := h.step_of_sram (i := i) (Tcm.memory.exec x m)
  rw [hleft] at hnext
  apply hnext
  obtain ⟨mem, hmem, hsram⟩ := h.sram
  have hready : sramIcbRspReady s i = true :=
    ((Bool.and_eq_true _ _).mp (h.sramRsp_hsked.trans htake)).2
  refine ⟨(toSram x).access mem, access_toSram x hmem, ?_⟩
  rw [List.map_append, ← sram_accepted_eq, step, hready]
  exact hsram.answer

theorem Pending.step_kept (h : Pending s m pend) (hkeep : taken i pend = false) :
    Pending (step i s) m (pend ++ entering s i) := by
  have hleft : left i pend = pend := if_neg (by rw [hkeep]; exact Bool.false_ne_true)
  have hnext := h.step_of_sram (i := i) m
  rw [hleft] at hnext
  apply hnext
  obtain ⟨mem, hmem, hsram⟩ := h.sram
  refine ⟨mem, hmem, ?_⟩
  rw [List.map_append, ← sram_accepted_eq]
  exact hsram.wait (h.sramRsp_hsked.trans hkeep)

/-- The response of the oldest command is taken when its port takes it. -/
theorem takes_of_answer {r : Tcm.Rsp} (h : Tcm.memory.answer x m r) : takes i r = takesFor i x := by
  cases x with
  | bus p c =>
    cases r with
    | bus q r => exact congrArg (busIcbRspReady i) h.1
    | ifu r => exact h.elim
  | ifu d =>
    cases r with
    | bus q r => exact h.elim
    | ifu r => rfl

theorem Pending.cycle (h : Pending s m pend) : ∃ m' pend',
    Lib.Cycle Tcm.memory m pend (accepted s i) (responded s i) m' pend' ∧
      Pending (step i s) m' pend' := by
  have hoff := h.offers
  rw [accepted_eq, responded]
  obtain _ | ⟨x, rest⟩ := pend
  · refine ⟨m, _, ?_, h.step_kept rfl⟩
    have hnil : offered s = [] := hoff
    rw [hnil]
    exact .wait
  · obtain ⟨r, hr, hans⟩ := hoff
    have htake : takes i r = taken i (x :: rest) := takes_of_answer hans
    rw [hr, List.filter, htake]
    cases ht : taken i (x :: rest)
    · exact ⟨m, _, .wait, h.step_kept ht⟩
    · exact ⟨_, _, .answer rfl hans, h.step_taken ht⟩

end

/-! ## Runs -/

section
variable (inp : ℕ → In) (s₀ : State)

def st (t : ℕ) : State := Lib.stateAt step inp s₀ t

variable {inp s₀} {m₀ : ByteMem}

theorem pending_reset (h : IsReset s₀) (hmem : Holds s₀.sram.ram.memR m₀) : Pending s₀ m₀ [] where
  sram := ⟨_, hmem, h.e1, h.byp, rfl⟩
  rspid := h.rspid
  n2w := h.n2w

theorem serves (h : IsReset s₀) (hmem : Holds s₀.sram.ram.memR m₀) (t : ℕ) :
    ∃ m pend, Lib.Serves Tcm.memory m₀
      (Lib.emitted (fun t => accepted (st inp s₀ t) (inp t)) 0 t)
      (Lib.emitted (fun t => responded (st inp s₀ t) (inp t)) 0 t) m pend ∧
        Pending (st inp s₀ t) m pend :=
  Lib.Serves.of_cycles (pending_reset h hmem) (fun _ _ _ hpend => hpend.cycle) t

theorem linearizes (inp : ℕ → In) (h : IsReset s₀) (hmem : Holds s₀.sram.ram.memR m₀) :
    Lib.Linearizes Tcm.memory m₀ (fun t => accepted (st inp s₀ t) (inp t))
      (fun t => offered (st inp s₀ t)) fun t => responded (st inp s₀ t) (inp t) := by
  intro t
  obtain ⟨m, pend, hserves, hpend⟩ := serves h hmem t
  exact ⟨m, pend, hserves, hpend.offers⟩

end
end E203.ItcmCtrl
