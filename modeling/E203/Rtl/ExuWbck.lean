import E203.Rtl.Defines

/-! # Write-back and register file

The write-back of the long-pipe instructions (`e203_exu_longpwbck.v`), the final write-back arbiter
(`e203_exu_wbck.v`) and the register file (`e203_exu_regfile.v`).  `E203_FLEN` is 32 and there are no
floating-point registers.
-/

namespace E203
set_option autoImplicit false

/-! ## Long-pipe write-back -/

namespace Longpwbck

/-- The response of the load/store unit and the oldest entry of the FIFO. -/
structure In where
  lsuWbckIValid : Bool
  lsuWbckIWdat : BitVec 32
  lsuWbckIItag : BitVec 1
  lsuWbckIErr : Bool
  lsuCmtIBuserr : Bool
  lsuCmtIBadaddr : BitVec 32
  lsuCmtILd : Bool
  lsuCmtISt : Bool
  oitfEmpty : Bool
  oitfRetPtr : BitVec 1
  oitfRetRdidx : BitVec 5
  oitfRetPc : BitVec 32
  oitfRetRdwen : Bool
deriving DecidableEq

section
variable (i : In)

/-- Long-pipe results are written back in order. -/
def wbckReady4lsu : Bool := i.lsuWbckIItag == i.oitfRetPtr && !i.oitfEmpty
def wbckSelLsu : Bool := i.lsuWbckIValid && wbckReady4lsu i

def longpExcpOInsterr : Bool := wbckSelLsu i && false
def longpExcpOLd : Bool := wbckSelLsu i && i.lsuCmtILd
def longpExcpOSt : Bool := wbckSelLsu i && i.lsuCmtISt
def longpExcpOBuserr : Bool := wbckSelLsu i && i.lsuCmtIBuserr
def longpExcpOBadaddr : BitVec 32 := gate (wbckSelLsu i) i.lsuCmtIBadaddr

def wbckIValid : Bool := wbckSelLsu i && i.lsuWbckIValid
def wbckIWdat : BitVec 32 := gate (wbckSelLsu i) i.lsuWbckIWdat
def wbckIErr : Bool := wbckSelLsu i && i.lsuWbckIErr
def needWbck : Bool := i.oitfRetRdwen && !wbckIErr i
def needExcp : Bool := wbckIErr i

variable (longpWbckOReady longpExcpOReady : Bool)

def wbckIReady : Bool :=
  (if needWbck i then longpWbckOReady else true) && (if needExcp i then longpExcpOReady else true)

def lsuWbckIReady : Bool := wbckReady4lsu i && wbckIReady i longpWbckOReady longpExcpOReady

def longpWbckOValid : Bool :=
  needWbck i && wbckIValid i && (if needExcp i then longpExcpOReady else true)

def longpExcpOValid : Bool :=
  needExcp i && wbckIValid i && (if needWbck i then longpWbckOReady else true)

def longpWbckOWdat : BitVec 32 := wbckIWdat i
def longpWbckORdidx : BitVec 5 := i.oitfRetRdidx
def longpExcpOPc : BitVec 32 := i.oitfRetPc

def oitfRetEna : Bool := wbckIValid i && wbckIReady i longpWbckOReady longpExcpOReady

end
end Longpwbck

/-! ## Final write-back -/

namespace Wbck

/-- The two requests for the one write port. -/
structure In where
  aluWbckIValid : Bool
  aluWbckIWdat : BitVec 32
  aluWbckIRdidx : BitVec 5
  longpWbckIValid : Bool
  longpWbckIWdat : BitVec 32
  longpWbckIRdidx : BitVec 5
deriving DecidableEq

/-- The ALU has the lowest priority. -/
def wbckReady4alu (longpWbckIValid : Bool) : Bool := !longpWbckIValid
def wbckReady4longp : Bool := true
def rfWbckOReady : Bool := true
def aluWbckIReady (longpWbckIValid : Bool) : Bool := wbckReady4alu longpWbckIValid && rfWbckOReady
def longpWbckIReady : Bool := wbckReady4longp && rfWbckOReady

section
variable (i : In)

def wbckSelAlu : Bool := i.aluWbckIValid && wbckReady4alu i.longpWbckIValid
def wbckIValid : Bool := if wbckSelAlu i then i.aluWbckIValid else i.longpWbckIValid
def rfWbckOEna : Bool := wbckIValid i && rfWbckOReady
def rfWbckOWdat : BitVec 32 := if wbckSelAlu i then i.aluWbckIWdat else i.longpWbckIWdat
def rfWbckORdidx : BitVec 5 := if wbckSelAlu i then i.aluWbckIRdidx else i.longpWbckIRdidx

end
end Wbck

/-! ## The register file -/

/-- The registers; `x0` is not a register. -/
abbrev Regfile := BitVec 5 → BitVec 32

namespace Regfile

/-- `rf_r`: `x0` is constant zero. -/
def rfR (rf : Regfile) (idx : BitVec 5) : BitVec 32 := if idx = 0#5 then 0#32 else rf idx

def rfWen (wen : Bool) (dest idx : BitVec 5) : Bool := wen && dest == idx

def step (wen : Bool) (dest : BitVec 5) (dat : BitVec 32) (rf : Regfile) : Regfile :=
  fun idx => dfflr (rfWen wen dest idx) dat (rf idx)

end Regfile
end E203
