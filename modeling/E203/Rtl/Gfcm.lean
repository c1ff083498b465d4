import Mathlib.Data.BitVec

/-! # The glitch-free clock mux (`e203_subsys_gfcm.v`)

Each of the two clocks has a three-stage register for the request to use it.  An event of the run is
a value of the select input with an edge of the one clock, of the other, or of both at once, where
both registers are read as they were before the edge.
-/

namespace E203.Gfcm
set_option autoImplicit false

abbrev SYNC_LEVEL : ℕ := 3

structure State where
  clk0SyncR : BitVec SYNC_LEVEL
  clk1SyncR : BitVec SYNC_LEVEL
deriving DecidableEq

def reset : State := ⟨0#3, 0#3⟩

structure Event where
  sel1 : Bool
  clk0 : Bool
  clk1 : Bool
deriving DecidableEq

section
variable (s : State) (e : Event)

def clk0Sel (e : Event) : Bool := !e.sel1
def clk1Sel (e : Event) : Bool := e.sel1

def clk0SyncIn : Bool := !s.clk1SyncR.getLsbD (SYNC_LEVEL - 1) && clk0Sel e
def clk1SyncIn : Bool := !s.clk0SyncR.getLsbD (SYNC_LEVEL - 1) && clk1Sel e

def clk0GateEn : Bool := s.clk0SyncR.getLsbD 1
def clk1GateEn : Bool := s.clk1SyncR.getLsbD 1

end

/-- `{sync_r[SYNC_LEVEL-2:0], sync_in}` -/
def shift (r : BitVec SYNC_LEVEL) (x : Bool) : BitVec SYNC_LEVEL :=
  r.extractLsb' 0 (SYNC_LEVEL - 1) ++ BitVec.ofBool x

def step (e : Event) (s : State) : State where
  clk0SyncR := if e.clk0 then shift s.clk0SyncR (clk0SyncIn s e) else s.clk0SyncR
  clk1SyncR := if e.clk1 then shift s.clk1SyncR (clk1SyncIn s e) else s.clk1SyncR

/-- The registers after the events `es`, from reset. -/
def run (es : List Event) : State := es.foldl (fun s e => step e s) reset

end E203.Gfcm
