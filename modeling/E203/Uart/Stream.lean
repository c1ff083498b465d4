import E203.Uart.Link
import E203.Uart.Queue

/-! # A stream of bytes from one UART to another

Software on one side writes bytes to the data register of its UART, and on the other side reads them
from the data register of the other one.  In between are a queue, the line and another queue.

* `UartPair`: two UARTs, with the line of the near one at the input of the far one.
* `written`, `readOut`: the bytes of both sides, as the bus shows them.
* `Configured`: the dividers and the enables, while the stream lasts.
* `stream`: what is read is what was written, in order and whole.
-/

namespace E203.UartPair
set_option autoImplicit false
open Lib (stateAt emitted Conserves backlog)
open UartLine (Fits Wired taken handed)

structure State where
  near : Uart.State
  far : Uart.State

structure In where
  near : UartTop.In
  far : UartTop.In

/-- The line is the input of the far one. -/
def farIn (i : In) (s : State) : UartTop.In := { i.far with ioPortRxd := Uart.txd s.near }

def step (i : In) (s : State) : State where
  near := UartTop.step i.near s.near
  far := UartTop.step (farIn i s) s.far

/-! ## What software sees -/

/-- A word that is written to the data register while bit 31 of it reads 0. -/
def written (i : UartTop.In) (s : Uart.State) : List (BitVec 8) :=
  if i.iIcbCmdValid && UartTop.iIcbCmdReady i && !i.iIcbCmdRead && Uart.sel (UartTop.uartIn i) 0 &&
      !((Uart.registers s).getD 0 0#32).getLsbD 31 then
    [i.iIcbCmdWdata.extractLsb' 0 8]
  else []

/-- A word that is read from the data register, with bit 31 of it 0. -/
def readOut (i : UartTop.In) (s : Uart.State) : List (BitVec 8) :=
  if UartTop.iIcbRspValid i && i.iIcbRspReady && i.iIcbCmdRead && Uart.sel (UartTop.uartIn i) 1 &&
      !(UartTop.iIcbRspRdata i s).getLsbD 31 then
    [(UartTop.iIcbRspRdata i s).extractLsb' 0 8]
  else []

section
variable (i : UartTop.In) (s : Uart.State)

theorem read_uartIn : Uart.read (UartTop.uartIn i) = i.iIcbCmdRead := by
  change ((if i.iIcbCmdRead then 4#3 else 0#3) == 4#3) = _
  cases i.iIcbCmdRead <;> rfl

theorem lane_uartIn {k : ℕ} (h : k < 4) : Uart.lane (UartTop.uartIn i) k = true := by
  change (0b1111#4).getLsbD k = true
  revert k
  decide

/-- Writing the data register puts the byte into the queue. -/
theorem written_eq : written i s = Queue1.enqueued (Uart.txqIn (UartTop.uartIn i) s) s.txq := by
  have hfull : ((Uart.registers s).getD 0 0#32).getLsbD 31 = !Queue1.ioEnqReady s.txq := by
    change (BitVec.ofBool (!Queue1.ioEnqReady s.txq) ++ 0#31).getLsbD 31 = _
    cases Queue1.ioEnqReady s.txq <;> rfl
  have hwen : Uart.txdataWen (UartTop.uartIn i) = (i.iIcbCmdValid && UartTop.iIcbCmdReady i &&
      !i.iIcbCmdRead && Uart.sel (UartTop.uartIn i) 0) := by
    rw [Uart.txdataWen, lane_uartIn i (by decide), Bool.and_true, Uart.woready, read_uartIn]
    rfl
  have hdo : Queue1.doEnq (Uart.txqIn (UartTop.uartIn i) s) s.txq =
      (Queue1.ioEnqReady s.txq && Uart.txdataWen (UartTop.uartIn i)) := rfl
  rw [written, hfull, Queue1.enqueued, hdo, hwen, Bool.not_not,
    Bool.and_comm (Queue1.ioEnqReady s.txq)]
  rfl

/-- Reading the data register takes the first byte out of the queue. -/
theorem readOut_eq : readOut i s = Queue1.dequeued (Uart.rxqIn (UartTop.uartIn i) s) s.rxq := by
  have hren : Uart.rxdataRen (UartTop.uartIn i) = (UartTop.iIcbRspValid i && i.iIcbRspReady &&
      i.iIcbCmdRead && Uart.sel (UartTop.uartIn i) 1) := by
    rw [Uart.rxdataRen, lane_uartIn i (by decide), Bool.and_true, Uart.roready, read_uartIn]
    rfl
  have hdo : Queue1.doDeq (Uart.rxqIn (UartTop.uartIn i) s) s.rxq =
      (Uart.rxdataRen (UartTop.uartIn i) && Queue1.ioDeqValid s.rxq) := rfl
  rw [readOut, Queue1.dequeued, hdo, ← hren]
  by_cases hsel : Uart.rxdataRen (UartTop.uartIn i) = true
  · have hdata : UartTop.iIcbRspRdata i s =
        BitVec.ofBool (!Queue1.ioDeqValid s.rxq) ++ 0#23 ++ Queue1.ioDeqBits s.rxq := by
      rw [hren, Bool.and_eq_true] at hsel
      obtain ⟨hlow, hhigh⟩ := (Bool.and_eq_true _ _).mp hsel.2
      rw [UartTop.iIcbRspRdata, Uart.dData, hhigh, beq_iff_eq.mp hlow]
      rfl
    have hlow : (UartTop.iIcbRspRdata i s).extractLsb' 0 8 = Queue1.ioDeqBits s.rxq := by
      rw [hdata]
      exact (BitVec.extractLsb'_append_eq_of_add_le (Nat.le_refl 8)).trans BitVec.extractLsb'_eq_self
    have htop : (UartTop.iIcbRspRdata i s).getLsbD 31 = !Queue1.ioDeqValid s.rxq := by
      rw [hdata, BitVec.getLsbD_append, BitVec.getLsbD_append]
      cases Queue1.ioDeqValid s.rxq <;> rfl
    rw [hlow, htop, Bool.not_not]
  · rw [Bool.not_eq_true] at hsel
    rw [hsel, Bool.false_and, Bool.false_and]
    rfl

/-- A byte of the receiver is lost if its queue is full. -/
theorem enqueued_rxq (j : Uart.In) (h : s.rxm.valid = true → Queue1.ioEnqReady s.rxq = true) :
    Queue1.enqueued (Uart.rxqIn j s) s.rxq = handed s.rxm := by
  have hdo : Queue1.doEnq (Uart.rxqIn j s) s.rxq = s.rxm.valid := by
    change (Queue1.ioEnqReady s.rxq && s.rxm.valid) = _
    cases hv : s.rxm.valid with
    | false => rw [Bool.and_false]
    | true => rw [h hv]; rfl
  rw [Queue1.enqueued, hdo]
  rfl

end

/-! ## Runs -/

/-- Both sides are at rest. -/
structure Quiet (T : ℕ) (s : State) : Prop where
  rests : Uarttx.Rests s.near.txm
  short : s.near.txm.prescaler.toNat < T
  txq : Queue1.Has s.near.txq []
  waits : Uartrx.Waits s.far.rxm
  empty : s.far.rxm.valid = false
  rxq : Queue1.Has s.far.rxq []

/-- The dividers, and the receiver is enabled. -/
structure Configured (T τ : ℕ) (s : State) : Prop where
  near : s.near.div.toNat + 1 = T
  far : s.far.div.toNat / 16 + 1 = τ
  rxen : s.far.rxen = true

section
variable {inp : ℕ → In} {s : State} {T τ : ℕ}

variable (inp s) in
/-- What the two sides write and read in a cycle. -/
def writes (t : ℕ) : List (BitVec 8) := written (inp t).near (stateAt step inp s t).near

variable (inp s) in
def reads (t : ℕ) : List (BitVec 8) :=
  readOut (farIn (inp t) (stateAt step inp s t)) (stateAt step inp s t).far

theorem wired (hfit : Fits T τ) (hquiet : Quiet T s)
    (hconf : ∀ t, Configured T τ (stateAt step inp s t)) :
    Wired T τ (fun t => (stateAt step inp s t).near.txm) (fun t => (stateAt step inp s t).far.rxm)
      (fun t => Uart.txmIn (stateAt step inp s t).near)
      (fun t => Uart.rxmIn (UartTop.uartIn (farIn (inp t) (stateAt step inp s t)))
        (stateAt step inp s t).far) where
  fits := hfit
  rests := hquiet.rests
  short := hquiet.short
  waits := hquiet.waits
  empty := hquiet.empty
  stepx _ := rfl
  stepr _ := rfl
  line _ := rfl
  en t := (hconf t).rxen
  bit t := (hconf t).near
  tick t := (hconf t).far

/-- The queue, the line and the other queue in a row. -/
theorem conserves (hfit : Fits T τ) (hquiet : Quiet T s)
    (hconf : ∀ t, Configured T τ (stateAt step inp s t))
    (hroom : ∀ t, (stateAt step inp s t).far.rxm.valid = true →
      Queue1.ioEnqReady (stateAt step inp s t).far.rxq = true) :
    ∃ txq line rxq : ℕ → List (BitVec 8),
      Conserves (writes inp s)
        (fun t => taken (stateAt step inp s t).near.txm (Uart.txmIn (stateAt step inp s t).near)) txq ∧
      (∀ t, Queue1.Has (stateAt step inp s t).near.txq (txq t)) ∧
      Conserves
        (fun t => taken (stateAt step inp s t).near.txm (Uart.txmIn (stateAt step inp s t).near))
        (fun t => handed (stateAt step inp s t).far.rxm) line ∧
      (∀ t, (line t).length ≤ 3) ∧
      Conserves (fun t => handed (stateAt step inp s t).far.rxm) (reads inp s) rxq ∧
      ∀ t, Queue1.Has (stateAt step inp s t).far.rxq (rxq t) := by
  obtain ⟨htxq, htxhas⟩ := Queue1.conserves (q := fun t => (stateAt step inp s t).near.txq)
    (j := fun t => Uart.txqIn (UartTop.uartIn (inp t).near) (stateAt step inp s t).near)
    hquiet.txq fun _ => rfl
  obtain ⟨hline, hpend⟩ := (wired hfit hquiet hconf).conserves
  obtain ⟨hrxq, hrxhas⟩ := Queue1.conserves (q := fun t => (stateAt step inp s t).far.rxq)
    (j := fun t => Uart.rxqIn (UartTop.uartIn (farIn (inp t) (stateAt step inp s t)))
      (stateAt step inp s t).far)
    hquiet.rxq fun _ => rfl
  have hwrites : writes inp s = fun t => Queue1.enqueued
      (Uart.txqIn (UartTop.uartIn (inp t).near) (stateAt step inp s t).near)
      (stateAt step inp s t).near.txq := funext fun _ => written_eq _ _
  have hreads : reads inp s = fun t => Queue1.dequeued
      (Uart.rxqIn (UartTop.uartIn (farIn (inp t) (stateAt step inp s t))) (stateAt step inp s t).far)
      (stateAt step inp s t).far.rxq := funext fun _ => readOut_eq _ _
  have hin : (fun t => handed (stateAt step inp s t).far.rxm) = fun t => Queue1.enqueued
      (Uart.rxqIn (UartTop.uartIn (farIn (inp t) (stateAt step inp s t))) (stateAt step inp s t).far)
      (stateAt step inp s t).far.rxq := funext fun t => (enqueued_rxq _ _ (hroom t)).symm
  refine ⟨_, _, _, ?_, htxhas, hline, fun t => (hpend t).length_le, ?_, hrxhas⟩
  · rw [hwrites]
    exact htxq
  · rw [hreads, hin]
    exact hrxq

/-- A frame ends, and then the transmitter is ready for the next byte. -/
theorem rests_again (hfit : Fits T τ) (hquiet : Quiet T s)
    (hconf : ∀ t, Configured T τ (stateAt step inp s t)) (t : ℕ) :
    ∃ u, t ≤ u ∧ Uarttx.Rests (stateAt step inp s u).near.txm := by
  by_contra hnone
  have hnot : ∀ u, t ≤ u → ¬Uarttx.Rests (stateAt step inp s u).near.txm := fun u hu hr =>
    hnone ⟨u, hu, hr⟩
  obtain ⟨s', l', -, hj⟩ := (wired hfit hquiet hconf).conserves.2 t
  have hsends : ∃ a b N k, Uarttx.Sends T a b N k t (stateAt step inp s t).near.txm := by
    cases hj with
    | rest hx hp hr => exact absurd hx (hnot t (Nat.le_refl t))
    | ahead N b hx hr => exact ⟨_, _, _, _, hx⟩
    | frame N k b hx hk hr => exact ⟨_, _, _, _, hx⟩
    | stop N k a b hx hk hr => exact ⟨_, _, _, _, hx⟩
    | ended b hx ht hp hr => exact absurd hx (hnot t (Nat.le_refl t))
    | next N a b b' hx ht hs hr => exact ⟨_, _, _, _, hx⟩
  obtain ⟨a, b, N, k, hx⟩ := hsends
  have hstay : ∀ n, ∃ k, Uarttx.Sends T a b N k (t + n) (stateAt step inp s (t + n)).near.txm := by
    intro n
    induction n with
    | zero => exact ⟨k, hx⟩
    | succ n ih =>
      obtain ⟨k, hk⟩ := ih
      have hdiv : (Uart.txmIn (stateAt step inp s (t + n)).near).ioDiv.toNat + 1 = T := (hconf (t + n)).near
      rcases hk.step hdiv with ⟨-, hx'⟩ | ⟨-, -, hx'⟩ | ⟨-, -, hr, -⟩
      · exact ⟨k, hx'⟩
      · exact ⟨k + 1, hx'⟩
      · exact absurd hr (hnot (t + n + 1) (by omega))
  obtain ⟨k', hk'⟩ := hstay (a + N * T)
  have htime := hk'.time
  have hmul : k' * T ≤ N * T := Nat.mul_le_mul_right T (Nat.le_of_lt hk'.left)
  omega

/-- In every run, what has been read is what was written first, and all but at most 19 bytes; with the
transmitter enabled, and a reader that comes again and again, every byte that is written is read. -/
theorem stream (hfit : Fits T τ) (hquiet : Quiet T s)
    (hconf : ∀ t, Configured T τ (stateAt step inp s t))
    (hroom : ∀ t, (stateAt step inp s t).far.rxm.valid = true →
      Queue1.ioEnqReady (stateAt step inp s t).far.rxq = true) :
    (∀ t, ∃ l, emitted (writes inp s) 0 t = emitted (reads inp s) 0 t ++ l ∧ l.length ≤ 19) ∧
      ((∀ t, (stateAt step inp s t).near.txen = true) →
        (∀ t, ∃ u, t ≤ u ∧ Uart.rxdataRen (UartTop.uartIn (farIn (inp u) (stateAt step inp s u))) = true) →
        ∀ t, ∃ u, t ≤ u ∧ emitted (writes inp s) 0 t <+: emitted (reads inp s) 0 u) := by
  obtain ⟨txq, line, rxq, htxq, htxhas, hline, hlen, hrxq, hrxhas⟩ := conserves hfit hquiet hconf hroom
  constructor
  · intro t
    refine ⟨rxq t ++ (line t ++ txq t), ((htxq.trans hline).trans hrxq).emitted_eq t, ?_⟩
    have htx := (htxhas t).ring.length_le
    have hrx := (hrxhas t).ring.length_le
    have hmid := hlen t
    rw [List.length_append, List.length_append]
    omega
  · intro htxen hread t
    -- out of the queue of the transmitter
    have hsend : ∀ v, txq v ≠ [] → Uarttx.Rests (stateAt step inp s v).near.txm →
        taken (stateAt step inp s v).near.txm (Uart.txmIn (stateAt step inp s v).near) ≠ [] := by
      intro v hne hr
      have hvalid := (htxhas v).ioDeqValid_iff.mpr hne
      have hload : Uarttx.load (Uart.txmIn (stateAt step inp s v).near)
          (stateAt step inp s v).near.txm = true := by
        change (((stateAt step inp s v).near.txen && !Uarttx.busy _) && Queue1.ioDeqValid _) = true
        rw [htxen v, hr.busy_eq, hvalid]
        rfl
      rw [taken, if_pos hload]
      exact List.cons_ne_nil _ _
    obtain ⟨u, htu, hu⟩ := htxq.eventually_of_ready hsend (rests_again hfit hquiet hconf) t
    -- over the line
    obtain ⟨v, huv, hv⟩ := (wired hfit hquiet hconf).eventually u
    -- out of the queue of the receiver
    have hget : ∀ x, rxq x ≠ [] →
        Uart.rxdataRen (UartTop.uartIn (farIn (inp x) (stateAt step inp s x))) = true →
        reads inp s x ≠ [] := by
      intro x hne hr
      have hvalid := (hrxhas x).ioDeqValid_iff.mpr hne
      have hdeq : Queue1.doDeq (Uart.rxqIn (UartTop.uartIn (farIn (inp x) (stateAt step inp s x)))
          (stateAt step inp s x).far) (stateAt step inp s x).far.rxq = true := by
        rw [Queue1.doDeq, hvalid, Bool.and_true]
        exact hr
      rw [reads, readOut_eq, Queue1.dequeued, if_pos hdeq]
      exact List.cons_ne_nil _ _
    obtain ⟨w, hvw, hw⟩ := hrxq.eventually_of_ready hget hread v
    exact ⟨w, by omega, hu.trans (hv.trans hw)⟩

end

/-! ## A writer and a reader that do not pause -/

/-- The near side writes 0x55 and the far side reads, in every cycle. -/
def busyIn : In where
  near := ⟨true, 0#32, false, 0x55#32, true, true⟩
  far := ⟨true, 4#32, true, 0#32, true, true⟩

/-- A bit has 16 cycles, and each is a tick of the receiver. -/
def configured : State where
  near := ⟨15#16, true, false, 0#4, 0#4, false, false, false, Uarttx.reset,
    ⟨fun _ => 0#8, 0, 0, false⟩, Uartrx.reset, ⟨fun _ => 0#8, 0, 0, false⟩⟩
  far := ⟨15#16, false, true, 0#4, 0#4, false, false, false, Uarttx.reset,
    ⟨fun _ => 0#8, 0, 0, false⟩, Uartrx.reset, ⟨fun _ => 0#8, 0, 0, false⟩⟩

theorem fits_one : Fits 16 1 := ⟨⟨by decide, by decide, by decide⟩, by decide⟩

theorem quiet_configured : Quiet 16 configured where
  rests := Uarttx.rests_reset
  short := by decide
  txq := Queue1.has_reset ⟨rfl, rfl, rfl⟩
  waits := Uartrx.waits_reset
  empty := rfl
  rxq := Queue1.has_reset ⟨rfl, rfl, rfl⟩

theorem rxdataRen_busyIn (s : State) :
    Uart.rxdataRen (UartTop.uartIn (farIn busyIn s)) = true := by
  have hall : ∀ rxd, Uart.rxdataRen (UartTop.uartIn ⟨true, 4#32, true, 0#32, true, rxd⟩) = true := by
    decide
  exact hall _

theorem div_of_divWen {i : Uart.In} {s : Uart.State} (h : Uart.divWen i = false) :
    (Uart.step i s).div = s.div := by
  change dfflr (Uart.divWen i) (i.aData.extractLsb' 0 16) s.div = s.div
  rw [h]
  rfl

theorem txen_of_txctrlWen {i : Uart.In} {s : Uart.State} (h : Uart.txctrlWen i = false) :
    (Uart.step i s).txen = s.txen := by
  change dfflr (Uart.txctrlWen i) (i.aData.getLsbD 0) s.txen = s.txen
  rw [h]
  rfl

theorem rxen_of_rxctrlWen {i : Uart.In} {s : Uart.State} (h : Uart.rxctrlWen i = false) :
    (Uart.step i s).rxen = s.rxen := by
  change dfflr (Uart.rxctrlWen i) (i.aData.getLsbD 0) s.rxen = s.rxen
  rw [h]
  rfl

/-- No register is written. -/
theorem busyIn_stays (t : ℕ) :
    Configured 16 1 (stateAt step (fun _ => busyIn) configured t) ∧
      (stateAt step (fun _ => busyIn) configured t).near.txen = true := by
  have hnear : Uart.divWen (UartTop.uartIn busyIn.near) = false ∧
      Uart.txctrlWen (UartTop.uartIn busyIn.near) = false := by decide
  have hfar : ∀ rxd, Uart.divWen (UartTop.uartIn ⟨true, 4#32, true, 0#32, true, rxd⟩) = false ∧
      Uart.rxctrlWen (UartTop.uartIn ⟨true, 4#32, true, 0#32, true, rxd⟩) = false := by decide
  induction t with
  | zero => exact ⟨⟨by decide, by decide, by decide⟩, rfl⟩
  | succ t ih =>
    obtain ⟨hconf, htxen⟩ := ih
    obtain ⟨hdiv, hrxctrl⟩ := hfar (Uart.txd (stateAt step (fun _ => busyIn) configured t).near)
    have hdivn : (stateAt step (fun _ => busyIn) configured (t + 1)).near.div =
        (stateAt step (fun _ => busyIn) configured t).near.div := div_of_divWen hnear.1
    have hdivf : (stateAt step (fun _ => busyIn) configured (t + 1)).far.div =
        (stateAt step (fun _ => busyIn) configured t).far.div := div_of_divWen hdiv
    refine ⟨⟨?_, ?_, (rxen_of_rxctrlWen hrxctrl).trans hconf.rxen⟩,
      (txen_of_txctrlWen hnear.2).trans htxen⟩
    · rw [hdivn]
      exact hconf.near
    · rw [hdivf]
      exact hconf.far

theorem busyIn_room (t : ℕ) :
    ∃ l, Queue1.Has (stateAt step (fun _ => busyIn) configured t).far.rxq l ∧ l.length ≤ 1 := by
  induction t with
  | zero => exact ⟨[], quiet_configured.rxq, Nat.zero_le 1⟩
  | succ t ih =>
    obtain ⟨l, hl, hlen⟩ := ih
    exact hl.step_ready hlen (rxdataRen_busyIn _)

theorem stream_busyIn :
    emitted (writes (fun _ => busyIn) configured) 0 3 = [0x55#8, 0x55#8, 0x55#8] ∧
      ∃ u, 3 ≤ u ∧ emitted (writes (fun _ => busyIn) configured) 0 3 <+:
        emitted (reads (fun _ => busyIn) configured) 0 u := by
  refine ⟨by decide, ?_⟩
  have hroom : ∀ t, (stateAt step (fun _ => busyIn) configured t).far.rxm.valid = true →
      Queue1.ioEnqReady (stateAt step (fun _ => busyIn) configured t).far.rxq = true := by
    intro t _
    obtain ⟨l, hl, hlen⟩ := busyIn_room t
    exact hl.ioEnqReady_iff.mpr (by omega)
  exact (stream fits_one quiet_configured (fun t => (busyIn_stays t).1) hroom).2
    (fun t => (busyIn_stays t).2) (fun t => ⟨t, Nat.le_refl t, rxdataRen_busyIn _⟩) 3

end E203.UartPair
