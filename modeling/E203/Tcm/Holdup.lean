import E203.Lib.Channel
import E203.Tcm.Itcm

/-! # The hold-up flag of the ITCM

* `ItcmCtrl.FetchSide`: what the fetch unit does: it reads only, it takes its responses when they come,
  and has one command outstanding.
* `ItcmCtrl.pendAt`: the pending commands of a run; `ItcmCtrl.byp_fetch`: one that waits in the bypass
  buffer is of the fetch unit.
* `ItcmCtrl.holdup_nxt`: an access that raises the flag is a read of the fetch unit.
* `ItcmCtrl.holdup_honest`: while the flag is one, the output of the SRAM is that of this read.
-/

namespace E203.ItcmCtrl
set_option autoImplicit false
open Lib (ByteMem Holds emitted)

/-! ## The fetch unit -/

/-- The command of the fetch unit that is accepted in a cycle. -/
def ifuCmds (s : State) (i : In) : List (IcbCmd ADDR_WIDTH 8) :=
  if i.ifu2itcm.cmdValid && ifu2itcmIcbCmdReady s i then [i.ifu2itcm.cmd] else []

/-- The response that the fetch unit takes in a cycle. -/
def ifuRsps (s : State) (i : In) : List (IcbRsp 8) :=
  if ifu2itcmIcbRspValid s && i.ifu2itcm.rspReady then [ifu2itcmIcbRsp s] else []

/-- The fetch unit reads, takes a response when it comes, and gives a command when the one before has
its response, at the earliest in the same cycle. -/
structure FetchSide (inp : ℕ → In) (s₀ : State) : Prop where
  reads : ∀ t, (inp t).ifu2itcm.cmdValid = true → (inp t).ifu2itcm.cmd.read = true
  accepts : ∀ t, ifu2itcmIcbRspValid (st inp s₀ t) = true → (inp t).ifu2itcm.rspReady = true
  one : ∀ t, (inp t).ifu2itcm.cmdValid = true →
    (emitted (fun t => ifuCmds (st inp s₀ t) (inp t)) 0 t).length =
      (emitted (fun t => ifuRsps (st inp s₀ t) (inp t)) 0 (t + 1)).length

/-! ## The pending commands of a run -/

/-- The command that leaves in a cycle. -/
def leaving (i : In) (pend : List Tcm.Cmd) : List Tcm.Cmd :=
  if taken i pend then pend.take 1 else []

def pendAt (inp : ℕ → In) (s₀ : State) : ℕ → List Tcm.Cmd
  | 0 => []
  | t + 1 => left (inp t) (pendAt inp s₀ t) ++ entering (st inp s₀ t) (inp t)

theorem Pending.next {s : State} {m : ByteMem} {pend : List Tcm.Cmd} (h : Pending s m pend)
    (i : In) : ∃ m', Pending (step i s) m' (left i pend ++ entering s i) := by
  cases ht : taken i pend
  · rw [left, ht]
    exact ⟨m, h.step_kept ht⟩
  · obtain _ | ⟨x, rest⟩ := pend
    · cases ht
    · rw [left, ht]
      exact ⟨_, h.step_taken ht⟩

theorem leaving_append_left (i : In) (pend : List Tcm.Cmd) : leaving i pend ++ left i pend = pend := by
  rw [leaving, left]
  cases taken i pend
  · rfl
  · cases pend <;> rfl

def isIfu : Tcm.Cmd → Bool
  | .bus _ _ => false
  | .ifu _ => true

section
variable {inp : ℕ → In} {s₀ s : State} {i : In} {m : ByteMem} {pend rest : List Tcm.Cmd}
  {x y : Tcm.Cmd} {t : ℕ}

theorem pending_at (inp : ℕ → In) (h : IsReset s₀) (t : ℕ) : ∃ m, Pending (st inp s₀ t) m (pendAt inp s₀ t) := by
  induction t with
  | zero =>
    obtain ⟨m₀, hmem⟩ := Lib.exists_holds s₀.sram.ram.memR
    exact ⟨m₀, pending_reset h hmem⟩
  | succ t ih =>
    obtain ⟨m, hpend⟩ := ih
    exact hpend.next (inp t)

theorem conserves (inp : ℕ → In) (s₀ : State) :
    Lib.Conserves (fun t => entering (st inp s₀ t) (inp t))
      (fun t => leaving (inp t) (pendAt inp s₀ t)) (pendAt inp s₀) where
  start := rfl
  cycle t := by
    rw [pendAt, ← List.append_assoc, leaving_append_left]

/-! ## How many of them are of the fetch unit -/

theorem length_ifuCmds : (ifuCmds s i).length = ((entering s i).filter isIfu).length := by
  rw [ifuCmds, entering]
  cases hc : cmdHsked s i
  · cases i.ifu2itcm.cmdValid && ifu2itcmIcbCmdReady s i <;> rfl
  · rw [cmdHsked_eq, Bool.and_eq_true] at hc
    rw [ifu_not_ready hc.1, Bool.and_false]
    rfl

theorem Pending.length_ifuRsps (h : Pending s m pend) :
    (ifuRsps s i).length = ((leaving i pend).filter isIfu).length := by
  rw [ifuRsps, ifu2itcmIcbRspValid, leaving]
  obtain _ | ⟨x, rest⟩ := pend
  · rw [h.rspValid_eq]
    rfl
  · rw [h.rspValid_eq, h.rspIfu_eq]
    cases x with
    | bus p c =>
      have hnone : ((Tcm.Cmd.bus p c :: rest).take 1).filter isIfu = [] := rfl
      cases taken i (.bus p c :: rest)
      · rfl
      · rw [if_pos rfl, hnone]
        rfl
    | ifu d =>
      have htaken : taken i (.ifu d :: rest) = i.ifu2itcm.rspReady := rfl
      rw [htaken]
      cases i.ifu2itcm.rspReady <;> rfl

theorem length_emitted_congr {α β : Type*} {f : ℕ → List α} {g : ℕ → List β}
    (h : ∀ t, (f t).length = (g t).length) (t : ℕ) :
    (emitted f 0 t).length = (emitted g 0 t).length := by
  induction t with
  | zero => rw [Lib.emitted_self, Lib.emitted_self]; rfl
  | succ t ih =>
    rw [Lib.emitted_succ (Nat.zero_le t), Lib.emitted_succ (Nat.zero_le t), List.length_append,
      List.length_append, ih, h]

/-- The commands of the fetch unit without a response are the pending ones. -/
theorem ifu_count (inp : ℕ → In) (h : IsReset s₀) (t : ℕ) :
    (emitted (fun t => ifuCmds (st inp s₀ t) (inp t)) 0 t).length =
      (emitted (fun t => ifuRsps (st inp s₀ t) (inp t)) 0 t).length +
        ((pendAt inp s₀ t).filter isIfu).length := by
  have hcons := ((conserves inp s₀).filter isIfu).emitted_eq t
  rw [length_emitted_congr (fun t => length_ifuCmds), hcons, List.length_append]
  congr 1
  apply length_emitted_congr
  intro t
  obtain ⟨m, hpend⟩ := pending_at inp h t
  exact hpend.length_ifuRsps.symm

/-- While a command of the fetch unit waits behind another, the fetch unit gives none. -/
theorem FetchSide.no_cmd (henv : FetchSide inp s₀) (h : IsReset s₀)
    (hx : isIfu x = false) (hy : isIfu y = true) (hpend : pendAt inp s₀ t = [x, y]) :
    (inp t).ifu2itcm.cmdValid = false := by
  by_contra hvalid
  rw [Bool.not_eq_false] at hvalid
  obtain ⟨m, hp⟩ := pending_at inp h t
  have hone := henv.one t hvalid
  have hcount := ifu_count inp h t
  have hnone : (ifuRsps (st inp s₀ t) (inp t)).length = 0 := by
    rw [hp.length_ifuRsps, leaving, hpend]
    cases taken (inp t) [x, y] <;> simp [hx]
  rw [Lib.emitted_succ (Nat.zero_le t), List.length_append, hnone, Nat.add_zero] at hone
  have hlen : ((pendAt inp s₀ t).filter isIfu).length = 1 := by
    rw [hpend]
    simp [hx, hy]
  omega

/-! ## The bypass buffer -/

theorem Pending.shape (hp : Pending s m pend) :
    pend = [] ∨ (∃ x, pend = [x]) ∨ ∃ x y, pend = [x, y] := by
  have hlen := hp.length_le
  obtain _ | ⟨x, _ | ⟨y, _ | ⟨z, rest⟩⟩⟩ := pend
  · exact .inl rfl
  · exact .inr (.inl ⟨x, rfl⟩)
  · exact .inr (.inr ⟨x, y, rfl⟩)
  · simp only [List.length_cons] at hlen
    omega

/-- A response that the oldest command waits with is not for the fetch unit. -/
theorem FetchSide.head_bus (henv : FetchSide inp s₀) (hp : Pending (st inp s₀ t) m (x :: rest))
    (hkeep : taken (inp t) (x :: rest) = false) : isIfu x = false := by
  cases x with
  | bus p c => rfl
  | ifu d =>
    have hvalid : ifu2itcmIcbRspValid (st inp s₀ t) = true := by
      rw [ifu2itcmIcbRspValid, hp.rspValid_eq, hp.rspIfu_eq]
      rfl
    have hready : taken (inp t) (.ifu d :: rest) = true := henv.accepts t hvalid
    rw [hready] at hkeep
    cases hkeep

/-- Of two commands, the second is of the fetch unit: the arbiter passes one at a time. -/
theorem Pending.snd_ifu (hp : Pending s m [x, y]) (hx : isIfu x = false) : isIfu y = true := by
  cases y with
  | ifu d => rfl
  | bus q c' =>
    cases x with
    | bus p c => cases hp.port_rest
    | ifu d => cases hx

/-- With two commands the buffer is full. -/
theorem Pending.entering_nil (hp : Pending s m [x, y]) : entering s i = [] := by
  obtain ⟨mem, -, hsram⟩ := hp.sram
  have hrdy : SramCtrl.iIcbCmdReady s.sram = false := hsram.cmdReady_eq
  have hacc := sram_accepted_eq (s := s) (i := i)
  rw [SramCtrl.accepted, hrdy, Bool.and_false] at hacc
  exact List.map_eq_nil_iff.mp hacc.symm

/-- What waits in the bypass buffer is of the fetch unit, behind a command that is not. -/
theorem byp_fetch (henv : FetchSide inp s₀) (h : IsReset s₀) (t : ℕ) :
    ∀ x y, pendAt inp s₀ t = [x, y] → isIfu x = false ∧ isIfu y = true := by
  intro x y hxy
  cases t with
  | zero => cases hxy
  | succ t =>
    obtain ⟨m, hp⟩ := pending_at inp h t
    obtain ⟨m', hp'⟩ := pending_at inp h (t + 1)
    have hent : (entering (st inp s₀ t) (inp t)).length ≤ 1 := by
      rw [entering]
      split
      · exact Nat.le_refl 1
      · split
        · exact Nat.le_refl 1
        · exact Nat.zero_le 1
    rw [hxy] at hp'
    have hxbus : isIfu x = false := by
      rw [pendAt] at hxy
      cases ht : taken (inp t) (pendAt inp s₀ t)
      · rw [left, ht, if_neg Bool.false_ne_true] at hxy
        cases hz : pendAt inp s₀ t with
        | nil =>
          rw [hz, List.nil_append] at hxy
          rw [hxy] at hent
          exact absurd hent (by simp)
        | cons z rest =>
          rw [hz, List.cons_append] at hxy
          obtain ⟨rfl, -⟩ := List.cons.inj hxy
          rw [hz] at hp ht
          exact henv.head_bus hp ht
      · -- two commands after one left: the buffer was full, and took none
        rw [left, ht, if_pos rfl] at hxy
        have hlen := congrArg List.length hxy
        rw [List.length_append, List.length_cons, List.length_singleton] at hlen
        obtain hz | ⟨z, hz⟩ | ⟨z, w, hz⟩ := hp.shape
        · rw [hz, List.tail_nil, List.length_nil] at hlen
          omega
        · rw [hz, List.tail_cons, List.length_nil] at hlen
          omega
        · rw [hz] at hp
          rw [hp.entering_nil, hz] at hxy
          cases hxy
    exact ⟨hxbus, hp'.snd_ifu hxbus⟩

/-! ## The flag -/

/-- The command that accesses the SRAM. -/
def ramCmd (s : State) (i : In) : UsrCmd ADDR_WIDTH 8 Usr :=
  SramCtrl.bypIcbCmd s.sram (sramIcbCmd s i)

/-- The SRAM is read for the fetch unit. -/
structure FetchRead (s : State) (i : In) : Prop where
  cs : itcmRamCs s i = true
  ifu : (ramCmd s i).usr.ifu = true
  read : (ramCmd s i).read = true

theorem holdup_step : (step i s).ifuHoldupR =
    if itcmRamCs s i then sramIcbCmdIfu s i else s.ifuHoldupR := by
  simp only [step, ifuHoldupEna, ifuHoldupNxt, ifuHoldupSet, ifuHoldupClr]
  cases itcmRamCs s i <;> cases sramIcbCmdIfu s i <;> rfl

/-- When the fetch unit gives a command, the bypass buffer is empty. -/
theorem FetchSide.byp_empty (henv : FetchSide inp s₀) (h : IsReset s₀)
    (hvalid : (inp t).ifu2itcm.cmdValid = true) : (st inp s₀ t).sram.byp.vld = false := by
  obtain ⟨m, hp⟩ := pending_at inp h t
  have hbyp := byp_fetch henv h t
  obtain ⟨mem, -, hsram⟩ := hp.sram
  obtain hpend | ⟨x, hpend⟩ | ⟨x, y, hpend⟩ := hp.shape
  · rw [hpend] at hsram
    exact hsram.2.1
  · rw [hpend] at hsram
    exact hsram.2
  · obtain ⟨hx, hy⟩ := hbyp x y hpend
    rw [henv.no_cmd h hx hy hpend] at hvalid
    cases hvalid

/-- An access that raises the flag is a read of the fetch unit. -/
theorem FetchSide.fetchRead (henv : FetchSide inp s₀) (h : IsReset s₀)
    (hcs : itcmRamCs (st inp s₀ t) (inp t) = true)
    (hup : sramIcbCmdIfu (st inp s₀ t) (inp t) = true) : FetchRead (st inp s₀ t) (inp t) := by
  obtain ⟨hsel, hvalid⟩ := (Bool.and_eq_true _ _).mp hup
  have hno : arbtIcbCmdValid (st inp s₀ t) (inp t) = false := by
    rw [sramReady2ifu] at hsel
    simpa using hsel
  -- the command is the one that is granted now
  have hbyp := henv.byp_empty h hvalid
  have hcmd : ramCmd (st inp s₀ t) (inp t) =
      ⟨(inp t).ifu2itcm.cmd, ⟨true, (inp t).ifu2itcm.cmd.read⟩⟩ := by
    rw [ramCmd, SramCtrl.bypIcbCmd, Bypbuf.oDat, hbyp, if_neg Bool.false_ne_true]
    exact sramIcbCmd_of_ifu hno hvalid
  exact ⟨hcs, by rw [hcmd], by rw [hcmd]; exact henv.reads t hvalid⟩

/-- The output of the SRAM is that of a read of the fetch unit, and the SRAM has not been accessed
since. -/
def HeldUp (inp : ℕ → In) (s₀ : State) (t : ℕ) : Prop :=
  ∃ u, u < t ∧ FetchRead (st inp s₀ u) (inp u) ∧
    (st inp s₀ t).sram.ram.addrR = SramCtrl.ramAddr (st inp s₀ u).sram (sramIcbCmd (st inp s₀ u) (inp u)) ∧
    (st inp s₀ t).sram.ram.memR = (st inp s₀ u).sram.ram.memR ∧
    ∀ v, u < v → v < t → itcmRamCs (st inp s₀ v) (inp v) = false

theorem heldUp_of_read (hread : FetchRead (st inp s₀ t) (inp t)) : HeldUp inp s₀ (t + 1) := by
  have hin := SramCtrl.inE1_of_ramCs (c := sramIcbCmd (st inp s₀ t) (inp t)) hread.cs
  refine ⟨t, Nat.lt_succ_self t, hread, hin.addr hread.read, ?_, fun v h1 h2 => by omega⟩
  have hacc : (SramCtrl.bypIcbCmd (st inp s₀ t).sram (sramIcbCmd (st inp s₀ t) (inp t))).access
      (st inp s₀ t).sram.ram.memR = (st inp s₀ t).sram.ram.memR := by
    rw [UsrCmd.access]
    exact if_pos hread.read
  exact hin.mem.trans hacc

theorem HeldUp.next (hheld : HeldUp inp s₀ t) (hcs : itcmRamCs (st inp s₀ t) (inp t) = false) :
    HeldUp inp s₀ (t + 1) := by
  obtain ⟨u, hu, hread, haddr, hmem, hno⟩ := hheld
  have hram : (st inp s₀ (t + 1)).sram.ram = (st inp s₀ t).sram.ram :=
    (SramCtrl.step_of_not_ramCs hcs).1
  refine ⟨u, by omega, hread, by rw [hram, haddr], by rw [hram, hmem], fun v h1 h2 => ?_⟩
  obtain hlt | rfl := Nat.lt_succ_iff_lt_or_eq.mp h2
  · exact hno v h1 hlt
  · exact hcs

theorem heldUp_of_holdup (henv : FetchSide inp s₀) (h : IsReset s₀) (t : ℕ)
    (hup : ifu2itcmHoldup (st inp s₀ t) = true) : HeldUp inp s₀ t := by
  induction t with
  | zero => exact absurd (h.holdup.symm.trans hup) Bool.false_ne_true
  | succ t ih =>
    have hnxt : (if itcmRamCs (st inp s₀ t) (inp t) then sramIcbCmdIfu (st inp s₀ t) (inp t)
        else (st inp s₀ t).ifuHoldupR) = true := holdup_step.symm.trans hup
    cases hcs : itcmRamCs (st inp s₀ t) (inp t)
    · rw [hcs] at hnxt
      exact (ih hnxt).next hcs
    · rw [hcs] at hnxt
      exact heldUp_of_read (henv.fetchRead h hcs hnxt)

/-- While the flag is one, the output of the SRAM is the lane of the last read for the fetch unit, with
what that read found in it, and the SRAM has been neither written nor read since. -/
theorem holdup_honest (inp : ℕ → In) (s₀ : State) (h : IsReset s₀) (henv : FetchSide inp s₀) (t : ℕ)
    (hup : ifu2itcmHoldup (st inp s₀ t) = true) :
    ∃ u lane, u < t ∧ FetchRead (st inp s₀ u) (inp u) ∧
      lane = SramCtrl.ramAddr (st inp s₀ u).sram (sramIcbCmd (st inp s₀ u) (inp u)) ∧
      (st inp s₀ t).sram.ram.addrR = lane ∧
      (st inp s₀ t).sram.ram.dout = (st inp s₀ u).sram.ram.memR lane ∧
      ∀ v, u < v → v < t → itcmRamCs (st inp s₀ v) (inp v) = false := by
  obtain ⟨u, hu, hread, haddr, hmem, hno⟩ := heldUp_of_holdup henv h t hup
  refine ⟨u, _, hu, hread, rfl, haddr, ?_, hno⟩
  rw [SimRam.dout, haddr, hmem]

/-- A fetch, then a write of the load/store unit that comes together with the next fetch and goes first,
which ends the hold-up of the first; the flag outlasts the second fetch by two cycles. -/
theorem holdup_honest_contended :
    let idle : IcbMaster 16 4 := ⟨false, .zero 16 4, true⟩
    let s₀ : State :=
      ⟨fun _ => ⟨⟨false, false⟩⟩, ⟨⟨false, 0⟩⟩,
        ⟨⟨false, ⟨.zero 16 8, ⟨false, false⟩⟩⟩, ⟨false, ⟨false, false⟩⟩,
          ⟨fun a => a.setWidth 64, 0#13⟩⟩, false⟩
    let inp : ℕ → In := fun t =>
      ⟨⟨t == 0 || t == 2 || t == 3, ⟨true, 0x18#16, 0#64, 0#8⟩, true⟩,
        ⟨t == 2, ⟨false, 0x40#16, 5#32, 0xF#4⟩, true⟩, idle⟩
    ∃ u lane, u < 6 ∧ FetchRead (st inp s₀ u) (inp u) ∧
      lane = SramCtrl.ramAddr (st inp s₀ u).sram (sramIcbCmd (st inp s₀ u) (inp u)) ∧
      (st inp s₀ 6).sram.ram.addrR = lane ∧
      (st inp s₀ 6).sram.ram.dout = (st inp s₀ u).sram.ram.memR lane ∧
      ∀ v, u < v → v < 6 → itcmRamCs (st inp s₀ v) (inp v) = false := by
  intro idle s₀ inp
  refine holdup_honest inp s₀ ⟨fun _ => rfl, rfl, rfl, rfl, rfl⟩ ⟨fun _ _ => rfl, fun _ _ => rfl, ?_⟩ 6
    (by decide +kernel)
  intro t ht
  obtain (rfl | rfl) | rfl : (t = 0 ∨ t = 2) ∨ t = 3 := by simpa [inp] using ht
  · decide +kernel
  · decide +kernel
  · decide +kernel

end
end E203.ItcmCtrl
