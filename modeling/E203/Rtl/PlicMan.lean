import E203.Lib.Knockout
import E203.Lib.Machine
import E203.Rtl.Defines

/-! # The interrupt controller (`sirv_plic_man.v`, `sirv_LevelGateway.v`)

With the parameters `sirv_plic_top.v` gives: 52 sources and source 0 tied to zero, and a flop on the
interrupt inputs, on the winner of the priority tree and on the bus response.
-/

namespace E203.Plic
set_option autoImplicit false

abbrev PLIC_PRIO_WIDTH : ℕ := 3
abbrev PLIC_IRQ_NUM : ℕ := 53
abbrev PLIC_IRQ_NUM_LOG2 : ℕ := 6
abbrev PLIC_PEND_ARRAY : ℕ := 2

/-- The range of the `source_gen` loop. -/
def IsSource (i : ℕ) : Prop := 1 ≤ i ∧ i < PLIC_IRQ_NUM

instance (i : ℕ) : Decidable (IsSource i) := inferInstanceAs (Decidable (_ ∧ _))

/-- The registers.  Those of a source are indexed by it, and only indices that are a source are
read. -/
structure State where
  plicIrqIR : ℕ → Bool
  /-- `inFlight` of each gateway. -/
  inFlightR : ℕ → Bool
  irqPendR : ℕ → Bool
  irqPrioR : ℕ → BitVec PLIC_PRIO_WIDTH
  irqEnabR : ℕ → BitVec 32
  irqThodR : BitVec PLIC_PRIO_WIDTH
  plicIrqOR : Bool
  plicIrqIdR : BitVec PLIC_IRQ_NUM_LOG2
  /-- `vld_r` of `u_buf_icb_rsp_buf`. -/
  rspVldR : Bool
  /-- `o_dat` of `u_buf_icb_rsp_buf`. -/
  icbRspRdataR : BitVec 32

structure In where
  icbCmdValid : Bool
  icbCmdAddr : BitVec 24
  icbCmdRead : Bool
  icbCmdWdata : BitVec 32
  icbRspReady : Bool
  plicIrqI : ℕ → Bool

/-- After reset.  The data register of the response has none. -/
structure IsReset (s : State) : Prop where
  irqI : ∀ i, s.plicIrqIR i = false
  inFlight : ∀ i, s.inFlightR i = false
  pend : ∀ i, s.irqPendR i = false
  prio : ∀ i, s.irqPrioR i = 0#3
  enab : ∀ i, s.irqEnabR i = 0#32
  thod : s.irqThodR = 0#3
  irqO : s.plicIrqOR = false
  irqId : s.plicIrqIdR = 0#6
  rspVld : s.rspVldR = false

section
variable (s : State) (i : In)

/-! ## The bus -/

/-- `CUT_READY`: only an empty response stage accepts. -/
def icbCmdReady : Bool := !s.rspVldR

def icbRspValid : Bool := s.rspVldR

def icbRspRdata : BitVec 32 := s.icbRspRdataR

def icbCmdHsked : Bool := i.icbCmdValid && icbCmdReady s

def icbCmdWrHsked : Bool := icbCmdHsked s i && !i.icbCmdRead

def icbCmdRdHsked : Bool := icbCmdHsked s i && i.icbCmdRead

def icbRspHsked : Bool := icbRspValid s && i.icbRspReady

def icbCmdSelPrio (n : ℕ) : Bool := i.icbCmdAddr == BitVec.ofNat 24 (n * 4)

def icbCmdSelPend (k : ℕ) : Bool := i.icbCmdAddr == BitVec.ofNat 24 (k * 4 + 0x1000)

def icbCmdSelEnab (k : ℕ) : Bool := i.icbCmdAddr == BitVec.ofNat 24 (k * 4 + 0x2000)

def icbCmdSelThod : Bool := i.icbCmdAddr == 0x200000#24

def icbCmdSelClam : Bool := i.icbCmdAddr == 0x200004#24

/-! ## The sources -/

/-- `icb_claim_irq`: the data is that of the response channel. -/
def icbClaimIrq (n : ℕ) : Bool :=
  (icbRspRdata s == BitVec.ofNat 32 n) && icbCmdSelClam i && icbCmdRdHsked s i

def icbCompleteIrq (n : ℕ) : Bool :=
  (i.icbCmdWdata.extractLsb' 0 PLIC_IRQ_NUM_LOG2 == BitVec.ofNat PLIC_IRQ_NUM_LOG2 n) &&
    icbCmdSelClam i && icbCmdWrHsked s i

def irqPend (n : ℕ) : Bool := if IsSource n then s.irqPendR n else false

def irqPrio (n : ℕ) : BitVec PLIC_PRIO_WIDTH := if IsSource n then s.irqPrioR n else 0#3

def irqIGatedValid (n : ℕ) : Bool :=
  if IsSource n then s.plicIrqIR n && (s.inFlightR n == false) else false

def irqIGatedReady (n : ℕ) : Bool := if IsSource n then !irqPend s n else false

def irqIGatedHsked (n : ℕ) : Bool := irqIGatedValid s n && irqIGatedReady s n

/-- The gateway.  A completion goes before a new interrupt. -/
def inFlightNxt (n : ℕ) : Bool :=
  if icbCompleteIrq s i n then false
  else if s.plicIrqIR n && irqIGatedReady s n then true else s.inFlightR n

def irqPendSet (n : ℕ) : Bool := irqIGatedHsked s n

def irqPendClr (n : ℕ) : Bool := icbClaimIrq s i n

def irqPendEna (n : ℕ) : Bool := irqPendSet s n || irqPendClr s i n

def irqPendNxt (n : ℕ) : Bool := irqPendSet s n || !irqPendClr s i n

def irqPrioEna (n : ℕ) : Bool := icbCmdWrHsked s i && icbCmdSelPrio i n

def irqPrioNxt : BitVec PLIC_PRIO_WIDTH := i.icbCmdWdata.extractLsb' 0 PLIC_PRIO_WIDTH

def irqPrioMasked (n : ℕ) : BitVec PLIC_PRIO_WIDTH := irqPrio s n &&& gate (irqPend s n) 7#3

def irqEnabEna (k : ℕ) : Bool := icbCmdSelEnab i k && icbCmdWrHsked s i

/-- The bit of source 0 is zero, and the last word ends with the last source. -/
def irqEnabNxt (k : ℕ) : BitVec 32 :=
  if k = 0 then (i.icbCmdWdata.extractLsb' 1 31) ++ 0#1
  else (i.icbCmdWdata.extractLsb' 0 (PLIC_IRQ_NUM % 32)).setWidth 32

/-- `irq_enab_r[n/32][n%32]`. -/
def irqEnab (n : ℕ) : Bool := (s.irqEnabR (n / 32)).getLsbD (n % 32)

def irqThodEna : Bool := icbCmdWrHsked s i && icbCmdSelThod i

def irqThodNxt : BitVec PLIC_PRIO_WIDTH := i.icbCmdWdata.extractLsb' 0 PLIC_PRIO_WIDTH

end

/-! ## The priority tree -/

/-- An entry of `irq_prio_lvl_*`, `irq_id_lvl_*`, `irq_ip_lvl_*`. -/
structure Entry where
  prio : BitVec PLIC_PRIO_WIDTH
  id : BitVec PLIC_IRQ_NUM_LOG2
  ip : Bool
deriving DecidableEq, Inhabited

section
variable (s : State) (i : In)

/-- An entry of level 10. -/
def leaf (n : ℕ) : Entry :=
  if n = 0 then ⟨0#3, 0#6, false⟩
  else if IsSource n then
    ⟨irqPrioMasked s n &&& gate (irqEnab s n) 7#3, BitVec.ofNat PLIC_IRQ_NUM_LOG2 n,
      irqPend s n && irqEnab s n⟩
  else ⟨0#3, BitVec.ofNat PLIC_IRQ_NUM_LOG2 n, false⟩

def lvl10 : List Entry := (List.range 1024).map (leaf s)

/-- `irq_prio_top`, `irq_id_top`, `irq_ip_top`. -/
def irqTop : Entry := (Lib.rounds (fun e : Entry => e.prio.toNat) 10 (lvl10 s)).headI

def irqO : Bool := (irqTop s).ip && decide (s.irqThodR.toNat < (irqTop s).prio.toNat)

def irqId : BitVec PLIC_IRQ_NUM_LOG2 := (irqTop s).id

/-! ## The read data -/

def rspRdataPrio : BitVec 32 :=
  (List.range PLIC_IRQ_NUM).foldl
    (fun acc n => acc ||| gate (icbCmdSelPrio i n) ((irqPrio s n).setWidth 32)) 0#32

/-- The bits `irq_pend_r[k*32+31]` down to `irq_pend_r[k*32]`. -/
def irqPendWord (k : ℕ) : BitVec 32 :=
  (List.range 32).foldl
    (fun acc j => acc ||| (BitVec.ofBool (irqPend s (k * 32 + j))).setWidth 32 <<< j) 0#32

def rspRdataPend : BitVec 32 :=
  (List.range PLIC_PEND_ARRAY).foldl
    (fun acc k => acc ||| gate (icbCmdSelPend i k) (irqPendWord s k)) 0#32

def rspRdataTarg : BitVec 32 :=
  (List.range PLIC_PEND_ARRAY).foldl
    (fun acc k => acc ||| gate (icbCmdSelEnab i k) (s.irqEnabR k))
    (gate (icbCmdSelThod i) (s.irqThodR.setWidth 32) |||
      gate (icbCmdSelClam i) (s.plicIrqIdR.setWidth 32))

def rspRdata : BitVec 32 := rspRdataPrio s i ||| rspRdataPend s i ||| rspRdataTarg s i

/-! ## The clock edge -/

def step : State where
  plicIrqIR := i.plicIrqI
  inFlightR := inFlightNxt s i
  irqPendR := fun n => dfflr (irqPendEna s i n) (irqPendNxt s i n) (s.irqPendR n)
  irqPrioR := fun n => dfflr (irqPrioEna s i n) (irqPrioNxt i) (s.irqPrioR n)
  irqEnabR := fun k => dfflr (irqEnabEna s i k) (irqEnabNxt i k) (s.irqEnabR k)
  irqThodR := dfflr (irqThodEna s i) (irqThodNxt i) s.irqThodR
  plicIrqOR := irqO s
  plicIrqIdR := irqId s
  rspVldR := dfflr (icbCmdHsked s i || icbRspHsked s i)
    (icbCmdHsked s i || !icbRspHsked s i) s.rspVldR
  icbRspRdataR := dfflr (icbCmdHsked s i) (rspRdata s i) s.icbRspRdataR

end

def run (inp : ℕ → In) (s : State) (t : ℕ) : State := Lib.stateAt (fun i s => step s i) inp s t

end E203.Plic
