import E203.Rtl.Defines

/-! # The UART (`sirv_uarttx.v`, `sirv_uartrx.v`, `sirv_queue_1.v`, `sirv_uart.v`, `sirv_uart_top.v`)

The source is generated: registers and ports keep their names, the numbered wires between them have
none here.

* `Uarttx`, `Uartrx`: the two shift registers with their clock dividers.
* `Queue1`: the queue of eight bytes.
* `Uart`: both, each with its queue, behind the registers that the bus sees.
* `UartTop`: the port of the bus.
-/

namespace E203
set_option autoImplicit false

/-! ## The transmitter -/

namespace Uarttx

structure State where
  prescaler : BitVec 16
  counter : BitVec 4
  shifter : BitVec 9
  out : Bool
deriving DecidableEq

def reset : State := ⟨0#16, 0#4, 0#9, true⟩

structure In where
  ioEn : Bool
  ioInValid : Bool
  ioInBits : BitVec 8
  ioDiv : BitVec 16
  ioNstop : Bool

section
variable (i : In) (s : State)

def pulse : Bool := s.prescaler == 0#16
def busy : Bool := s.counter != 0#4

def ioInReady : Bool := i.ioEn && !busy s

/-- A byte is taken with its start bit, and with one stop bit or two. -/
def load : Bool := ioInReady i s && i.ioInValid

def bits : BitVec 4 := (if !i.ioNstop then 10#4 else 0#4) ||| (if i.ioNstop then 11#4 else 0#4)

def shift : Bool := pulse s && busy s

def step : State where
  prescaler := if busy s then (if pulse s then i.ioDiv else s.prescaler - 1#16) else s.prescaler
  counter := if shift s then s.counter - 1#4 else if load i s then bits i else s.counter
  shifter :=
    if shift s then 1#1 ++ s.shifter.extractLsb' 1 8
    else if load i s then i.ioInBits ++ 0#1 else s.shifter
  out := if shift s then s.shifter.getLsbD 0 else s.out

end
end Uarttx

/-! ## The receiver -/

namespace Uartrx

structure State where
  debounce : BitVec 2
  prescaler : BitVec 12
  sample : BitVec 3
  timer : BitVec 5
  counter : BitVec 4
  shifter : BitVec 8
  valid : Bool
  state : BitVec 2
deriving DecidableEq

def reset : State := ⟨0#2, 0#12, 0#3, 0#5, 0#4, 0#8, false, 0#2⟩

structure In where
  ioEn : Bool
  ioIn : Bool
  ioDiv : BitVec 16

section
variable (i : In) (s : State)

def debounceMax : Bool := s.debounce == 3#2
def debounceMin : Bool := s.debounce == 0#2

/-- State 0 waits for a start bit, state 1 checks it, and state 2 takes the bits of the byte. -/
def busy : Bool := if s.state == 2#2 then true else s.state == 1#2

def start : Bool := s.state == 0#2 && !i.ioIn && debounceMax s
def pulse : Bool := s.prescaler == 0#12 && busy s

/-- Two of the three samples. -/
def voter : Bool :=
  (s.sample.getLsbD 0 && s.sample.getLsbD 1) || (s.sample.getLsbD 0 && s.sample.getLsbD 2) ||
    (s.sample.getLsbD 1 && s.sample.getLsbD 2)

def expire : Bool := s.timer == 0#5 && pulse s

def sched : Bool :=
  if s.state == 2#2 then expire s && !(s.counter == 0#4) else s.state == 1#2 && expire s

def debounceNxt : BitVec 2 :=
  if !i.ioEn then 0#2
  else if s.state == 0#2 then
    if !i.ioIn then s.debounce + 1#2 else if !debounceMin s then s.debounce - 1#2 else s.debounce
  else s.debounce

def prescalerNxt : BitVec 12 :=
  if start i s || pulse s then i.ioDiv.extractLsb' 4 12
  else if busy s then s.prescaler - 1#12 else s.prescaler

def timerNxt : BitVec 5 :=
  if start i s then 8#5
  else if sched s then 15#5 else if pulse s then s.timer - 1#5 else s.timer

def counterNxt : BitVec 4 :=
  if s.state == 2#2 then if expire s then s.counter - 1#4 else s.counter
  else if s.state == 1#2 && expire s && !voter s then 8#4 else s.counter

def shifterNxt : BitVec 8 :=
  if s.state == 2#2 && expire s && !(s.counter == 0#4) then
    BitVec.ofBool (voter s) ++ s.shifter.extractLsb' 1 7
  else s.shifter

def validNxt : Bool := s.state == 2#2 && expire s && s.counter == 0#4

def stateNxt : BitVec 2 :=
  if s.state == 2#2 then if expire s && s.counter == 0#4 then 0#2 else s.state
  else if s.state == 1#2 then
    if expire s then (if voter s then 0#2 else 2#2) else s.state
  else if start i s then 1#2 else s.state

def step : State where
  debounce := debounceNxt i s
  prescaler := prescalerNxt i s
  sample := if pulse s then s.sample.extractLsb' 0 2 ++ BitVec.ofBool i.ioIn else s.sample
  timer := timerNxt i s
  counter := counterNxt s
  shifter := shifterNxt s
  valid := validNxt s
  state := stateNxt i s

end
end Uartrx

/-! ## The queue -/

namespace Queue1

structure State where
  ram : Fin 8 → BitVec 8
  /-- `T_27`. -/
  enqPtr : Fin 8
  /-- `T_29`. -/
  deqPtr : Fin 8
  maybeFull : Bool

/-- After reset; the RAM has none. -/
structure IsReset (s : State) : Prop where
  enqPtr : s.enqPtr = 0
  deqPtr : s.deqPtr = 0
  maybeFull : s.maybeFull = false

structure In where
  ioEnqValid : Bool
  ioEnqBits : BitVec 8
  ioDeqReady : Bool

section
variable (i : In) (s : State)

def ptrMatch : Bool := s.enqPtr == s.deqPtr
def empty : Bool := ptrMatch s && !s.maybeFull
def full : Bool := ptrMatch s && s.maybeFull

def ioEnqReady : Bool := !full s
def ioDeqValid : Bool := !empty s
def ioDeqBits : BitVec 8 := s.ram s.deqPtr

def doEnq : Bool := ioEnqReady s && i.ioEnqValid
def doDeq : Bool := i.ioDeqReady && ioDeqValid s

def ioCount : BitVec 4 :=
  BitVec.ofBool (s.maybeFull && ptrMatch s) ++ BitVec.ofNat 3 (s.enqPtr - s.deqPtr).val

def step : State where
  ram k := if doEnq i s && k == s.enqPtr then i.ioEnqBits else s.ram k
  enqPtr := if doEnq i s then s.enqPtr + 1 else s.enqPtr
  deqPtr := if doDeq i s then s.deqPtr + 1 else s.deqPtr
  maybeFull := if doEnq i s != doDeq i s then doEnq i s else s.maybeFull

end
end Queue1

/-! ## The registers and the two halves -/

namespace Uart

structure State where
  div : BitVec 16
  txen : Bool
  rxen : Bool
  txwm : BitVec 4
  rxwm : BitVec 4
  nstop : Bool
  ieRxwm : Bool
  ieTxwm : Bool
  txm : Uarttx.State
  txq : Queue1.State
  rxm : Uartrx.State
  rxq : Queue1.State

structure IsReset (s : State) : Prop where
  div : s.div = 0x21e#16
  txen : s.txen = false
  rxen : s.rxen = false
  txwm : s.txwm = 0#4
  rxwm : s.rxwm = 0#4
  nstop : s.nstop = false
  ieRxwm : s.ieRxwm = false
  ieTxwm : s.ieTxwm = false
  txm : s.txm = Uarttx.reset
  txq : Queue1.IsReset s.txq
  rxm : s.rxm = Uartrx.reset
  rxq : Queue1.IsReset s.rxq

/-- A request `io_in_0_a`, `io_in_0_d_ready` and the line. -/
structure In where
  aValid : Bool
  aOpcode : BitVec 3
  aAddress : BitVec 29
  aMask : BitVec 4
  aData : BitVec 32
  dReady : Bool
  rxd : Bool

section
variable (i : In) (s : State)

def read : Bool := i.aOpcode == 4#3
def index : BitVec 10 := i.aAddress.extractLsb' 2 10

/-- Which of the eight registers; the address is decoded down to the last bit. -/
def sel (k : ℕ) : Bool :=
  (index i).extractLsb' 0 3 == BitVec.ofNat 3 k && (index i).extractLsb' 3 7 == 0#7

/-- No register delays a request or its response. -/
def aReady : Bool := i.dReady
def dValid : Bool := i.aValid

def roready (k : ℕ) : Bool := dValid i && i.dReady && read i && sel i k
def woready (k : ℕ) : Bool := dValid i && i.dReady && !read i && sel i k

/-! ### The enabled writes -/

def lane (k : ℕ) : Bool := i.aMask.getLsbD k

def txdataWen : Bool := woready i 0 && lane i 0
def txctrlWen : Bool := woready i 2 && lane i 0
def txwmWen : Bool := woready i 2 && lane i 2
def rxctrlWen : Bool := woready i 3 && lane i 0
def rxwmWen : Bool := woready i 3 && lane i 2
def ieWen : Bool := woready i 4 && lane i 0
def divWen : Bool := woready i 6 && (lane i 0 && lane i 1)

/-! ### What the parts see -/

/-- Reading the received byte takes it out of the queue. -/
def rxdataRen : Bool := roready i 1 && lane i 0

def txmIn : Uarttx.In := ⟨s.txen, Queue1.ioDeqValid s.txq, Queue1.ioDeqBits s.txq, s.div, s.nstop⟩
def txqIn : Queue1.In := ⟨txdataWen i, i.aData.extractLsb' 0 8, Uarttx.ioInReady (txmIn s) s.txm⟩
def rxmIn : Uartrx.In := ⟨s.rxen, i.rxd, s.div⟩
def rxqIn : Queue1.In := ⟨s.rxm.valid, s.rxm.shifter, rxdataRen i⟩

def txd : Bool := s.txm.out

/-! ### Interrupts and what a read returns -/

def ipTxwm : Bool := (Queue1.ioCount s.txq).ult s.txwm
def ipRxwm : Bool := s.rxwm.ult (Queue1.ioCount s.rxq)
def interrupt : Bool := (ipTxwm s && s.ieTxwm) || (ipRxwm s && s.ieRxwm)

def registers : List (BitVec 32) :=
  [BitVec.ofBool (!Queue1.ioEnqReady s.txq) ++ 0#31,
    BitVec.ofBool (!Queue1.ioDeqValid s.rxq) ++ 0#23 ++ Queue1.ioDeqBits s.rxq,
    0#12 ++ s.txwm ++ 0#14 ++ BitVec.ofBool s.nstop ++ BitVec.ofBool s.txen,
    0#12 ++ s.rxwm ++ 0#15 ++ BitVec.ofBool s.rxen,
    0#30 ++ BitVec.ofBool s.ieRxwm ++ BitVec.ofBool s.ieTxwm,
    0#30 ++ BitVec.ofBool (ipRxwm s) ++ BitVec.ofBool (ipTxwm s),
    0#16 ++ s.div,
    0#32]

def dData : BitVec 32 :=
  if (index i).extractLsb' 3 7 == 0#7 || (index i).extractLsb' 0 3 == 7#3 then
    (registers s).getD ((index i).extractLsb' 0 3).toNat 0#32
  else 0#32

def step : State where
  div := dfflr (divWen i) (i.aData.extractLsb' 0 16) s.div
  txen := dfflr (txctrlWen i) (i.aData.getLsbD 0) s.txen
  rxen := dfflr (rxctrlWen i) (i.aData.getLsbD 0) s.rxen
  txwm := dfflr (txwmWen i) (i.aData.extractLsb' 16 4) s.txwm
  rxwm := dfflr (rxwmWen i) (i.aData.extractLsb' 16 4) s.rxwm
  nstop := dfflr (txctrlWen i) (i.aData.getLsbD 1) s.nstop
  ieRxwm := dfflr (ieWen i) (i.aData.getLsbD 1) s.ieRxwm
  ieTxwm := dfflr (ieWen i) (i.aData.getLsbD 0) s.ieTxwm
  txm := Uarttx.step (txmIn s) s.txm
  txq := Queue1.step (txqIn i s) s.txq
  rxm := Uartrx.step (rxmIn i s) s.rxm
  rxq := Queue1.step (rxqIn i s) s.rxq

end
end Uart

/-! ## The port of the bus -/

namespace UartTop

structure In where
  iIcbCmdValid : Bool
  iIcbCmdAddr : BitVec 32
  iIcbCmdRead : Bool
  iIcbCmdWdata : BitVec 32
  iIcbRspReady : Bool
  ioPortRxd : Bool

section
variable (i : In) (s : Uart.State)

def uartIn : Uart.In where
  aValid := i.iIcbCmdValid
  aOpcode := if i.iIcbCmdRead then 4#3 else 0#3
  aAddress := i.iIcbCmdAddr.extractLsb' 0 29
  aMask := 0b1111#4
  aData := i.iIcbCmdWdata
  dReady := i.iIcbRspReady
  rxd := i.ioPortRxd

def iIcbCmdReady : Bool := Uart.aReady (uartIn i)
def iIcbRspValid : Bool := Uart.dValid (uartIn i)
def iIcbRspRdata : BitVec 32 := Uart.dData (uartIn i) s

def step : Uart.State := Uart.step (uartIn i) s

end
end UartTop
end E203
