import E203.Tcm.Dtcm
import E203.Tcm.Itcm

/-! # The tightly coupled memories are linearizable

* `DtcmCtrl.takes_of_answer`, `ItcmCtrl.takes_of_answer`: a response is taken when the port of its
  command is ready.
* `Tcm.linearizable`: over every run, each memory serves the accepted commands one at a time.
-/

namespace E203
set_option autoImplicit false
open Lib (ByteMem Holds Linearizes emitted)

namespace DtcmCtrl
section
variable {s : State} {i : In} {m : ByteMem} {c : Tcm.Cmd} {r : Tcm.Rsp}

theorem accepted_length (s : State) (i : In) : (accepted s i).length ≤ 1 := by
  rw [accepted_eq, List.length_map, entering]
  split
  · exact Nat.le_refl 1
  · exact Nat.zero_le 1

theorem takes_of_answer {p : Fin 2} (h : Tcm.memory.answer c m r) (hp : Tcm.port c = some p)
    (hready : arbtBusIcbRspReady i p = true) : takes i r = true := by
  cases c with
  | bus q c =>
    cases r with
    | bus q' r =>
      obtain rfl : q = p := Option.some.inj hp
      have hport : q' = q := h.1
      rw [← hport] at hready
      exact hready
    | ifu r => exact h.elim
  | ifu d => cases hp

theorem port_of_offered (hr : offered s = [r]) (h : Tcm.memory.answer c m r) :
    ∃ p, Tcm.port c = some p := by
  cases c with
  | bus p c => exact ⟨p, rfl⟩
  | ifu d =>
    cases r with
    | bus q r => exact h.elim
    | ifu r =>
      have hmem : Tcm.Rsp.ifu r ∈ offered s := by rw [hr]; exact List.mem_singleton_self _
      rw [offered, handshakes, List.mem_append] at hmem
      obtain hmem | hmem := hmem
      · split at hmem
        · cases List.mem_singleton.mp hmem
        · cases hmem
      · split at hmem
        · cases List.mem_singleton.mp hmem
        · cases hmem

end
end DtcmCtrl

namespace ItcmCtrl

theorem accepted_length (s : State) (i : In) : (accepted s i).length ≤ 1 := by
  rw [accepted_eq, entering]
  split
  · exact Nat.le_refl 1
  · split
    · exact Nat.le_refl 1
    · exact Nat.zero_le 1

/-- The port of a command, the fetch unit's included, takes a response. -/
def ready (i : In) : Option (Fin 2) → Bool
  | some p => busIcbRspReady i p
  | none => i.ifu2itcm.rspReady

theorem takesFor_eq (i : In) (c : Tcm.Cmd) : takesFor i c = ready i (Tcm.port c) := by
  cases c <;> rfl

end ItcmCtrl

namespace Tcm

/-- Both controllers, from reset, for every interleaving of commands and back-pressure: at most one
command is accepted in a cycle; the responses answer the accepted commands in order, each on its own
port, as one memory to which the commands are applied one at a time; the next command is offered its
response; and if every port takes responses at some time, every command gets its own. -/
theorem linearizable :
    (∀ (s₀ : DtcmCtrl.State) (m₀ : ByteMem) (inp : ℕ → DtcmCtrl.In), DtcmCtrl.IsReset s₀ →
      Holds s₀.sram.ram.memR m₀ →
        let acc := fun t => DtcmCtrl.accepted (DtcmCtrl.st inp s₀ t) (inp t)
        let rsp := fun t => DtcmCtrl.responded (DtcmCtrl.st inp s₀ t) (inp t)
        (∀ t, (acc t).length ≤ 1) ∧
          Linearizes memory m₀ acc (fun t => DtcmCtrl.offered (DtcmCtrl.st inp s₀ t)) rsp ∧
          ((∀ p t, ∃ u, t ≤ u ∧ DtcmCtrl.arbtBusIcbRspReady (inp u) p = true) →
            ∀ t, ∃ u, t ≤ u ∧ (emitted acc 0 t).length ≤ (emitted rsp 0 u).length)) ∧
    (∀ (s₀ : ItcmCtrl.State) (m₀ : ByteMem) (inp : ℕ → ItcmCtrl.In), ItcmCtrl.IsReset s₀ →
      Holds s₀.sram.ram.memR m₀ →
        let acc := fun t => ItcmCtrl.accepted (ItcmCtrl.st inp s₀ t) (inp t)
        let rsp := fun t => ItcmCtrl.responded (ItcmCtrl.st inp s₀ t) (inp t)
        (∀ t, (acc t).length ≤ 1) ∧
          Linearizes memory m₀ acc (fun t => ItcmCtrl.offered (ItcmCtrl.st inp s₀ t)) rsp ∧
          ((∀ p t, ∃ u, t ≤ u ∧ ItcmCtrl.ready (inp u) p = true) →
            ∀ t, ∃ u, t ≤ u ∧ (emitted acc 0 t).length ≤ (emitted rsp 0 u).length)) := by
  constructor
  · intro s₀ m₀ inp hreset hmem
    have hlin := DtcmCtrl.linearizes inp hreset hmem
    refine ⟨fun t => DtcmCtrl.accepted_length _ _, hlin, fun hfair => ?_⟩
    apply hlin.eventually (fun c => (port c).getD 0)
      fun t p => DtcmCtrl.arbtBusIcbRspReady (inp t) p = true
    · intro t c m r hr hans hready
      obtain ⟨p, hp⟩ := DtcmCtrl.port_of_offered hr hans
      rw [hp] at hready
      have htake := DtcmCtrl.takes_of_answer hans hp hready
      rw [DtcmCtrl.responded, hr, List.filter, htake]
      exact List.cons_ne_nil _ _
    · exact hfair
  · intro s₀ m₀ inp hreset hmem
    have hlin := ItcmCtrl.linearizes inp hreset hmem
    refine ⟨fun t => ItcmCtrl.accepted_length _ _, hlin, fun hfair => ?_⟩
    apply hlin.eventually port fun t p => ItcmCtrl.ready (inp t) p = true
    · intro t c m r hr hans hready
      have htake : ItcmCtrl.takes (inp t) r = true := by
        rw [ItcmCtrl.takes_of_answer hans, ItcmCtrl.takesFor_eq]
        exact hready
      rw [ItcmCtrl.responded, hr, List.filter, htake]
      exact List.cons_ne_nil _ _
    · exact hfair

/-- The load/store unit stores two bytes of a word; meanwhile another port asks for the word. -/
theorem linearizable_store_load :
    let store : IcbMaster 16 4 := ⟨true, ⟨false, 0x14#16, 0xaabbccdd#32, 0b0011#4⟩, true⟩
    let load : IcbMaster 16 4 := ⟨true, ⟨true, 0x14#16, 0#32, 0#4⟩, true⟩
    let idle : IcbMaster 16 4 := ⟨false, .zero 16 4, true⟩
    let d₀ : DtcmCtrl.State :=
      ⟨⟨⟨false, 0⟩⟩, ⟨⟨false, ⟨.zero 16 4, false⟩⟩, ⟨false, false⟩, ⟨fun _ => 0#32, 0#14⟩⟩⟩
    let i₀ : ItcmCtrl.State :=
      ⟨fun _ => ⟨⟨false, false⟩⟩, ⟨⟨false, 0⟩⟩,
        ⟨⟨false, ⟨.zero 16 8, ⟨false, false⟩⟩⟩, ⟨false, ⟨false, false⟩⟩, ⟨fun _ => 0#64, 0#13⟩⟩, false⟩
    let inpd : ℕ → DtcmCtrl.In := fun t => if t = 0 then ⟨store, load⟩ else ⟨idle, load⟩
    let inpi : ℕ → ItcmCtrl.In := fun t =>
      if t = 0 then ⟨⟨true, ⟨true, 0x10#16, 0#64, 0#8⟩, false⟩, store, idle⟩
      else ⟨⟨true, ⟨true, 0x10#16, 0#64, 0#8⟩, true⟩, idle, idle⟩
    let rspd := fun t => DtcmCtrl.responded (DtcmCtrl.st inpd d₀ t) (inpd t)
    let rspi := fun t => ItcmCtrl.responded (ItcmCtrl.st inpi i₀ t) (inpi t)
    (Linearizes memory (fun _ => 0#8) (fun t => DtcmCtrl.accepted (DtcmCtrl.st inpd d₀ t) (inpd t))
        (fun t => DtcmCtrl.offered (DtcmCtrl.st inpd d₀ t)) rspd ∧
      emitted rspd 0 3 = [.bus 0 ⟨false, 0#32⟩, .bus 1 ⟨false, 0xccdd#32⟩]) ∧
    (Linearizes memory (fun _ => 0#8) (fun t => ItcmCtrl.accepted (ItcmCtrl.st inpi i₀ t) (inpi t))
        (fun t => ItcmCtrl.offered (ItcmCtrl.st inpi i₀ t)) rspi ∧
      emitted rspi 0 3 = [.bus 0 ⟨false, 0#32⟩, .ifu ⟨false, 0x0000ccdd00000000#64⟩]) := by
  intro store load idle d₀ i₀ inpd inpi rspd rspi
  refine ⟨⟨?_, by decide +kernel⟩, ?_, by decide +kernel⟩
  · exact (linearizable.1 d₀ _ inpd ⟨rfl, rfl, rfl⟩ Lib.holds_zero).2.1
  · exact (linearizable.2 i₀ _ inpi ⟨fun _ => rfl, rfl, rfl, rfl, rfl⟩ Lib.holds_zero).2.1

end Tcm
end E203
