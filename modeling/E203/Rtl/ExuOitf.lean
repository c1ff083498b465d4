import E203.Rtl.Defines

/-! # Outstanding-instruction FIFO and dispatch (`e203_exu_oitf.v`, `e203_exu_disp.v`)

The FIFO has two entries, addressed by a one-bit tag (`E203_OITF_DEPTH`, `E203_ITAG_WIDTH`).  There
is no floating-point unit: the `fpu` flags of the entries are zero.
-/

namespace E203
set_option autoImplicit false

/-! ## The outstanding-instruction FIFO -/

namespace Oitf

/-- One entry; the payload keeps its value when the entry is retired. -/
structure Entry where
  vldR : Bool
  rdwenR : Bool
  rdidxR : BitVec 5
  pcR : BitVec 32
deriving DecidableEq

structure State where
  alcPtrR : BitVec 1
  alcPtrFlgR : Bool
  retPtrR : BitVec 1
  retPtrFlgR : Bool
  entry : BitVec 1 → Entry

/-- The pointers and valid bits after reset; the payload has no reset. -/
def State.IsReset (s : State) : Prop :=
  s.alcPtrR = 0#1 ∧ s.alcPtrFlgR = false ∧ s.retPtrR = 0#1 ∧ s.retPtrFlgR = false ∧
    ∀ k, (s.entry k).vldR = false

/-- What the dispatch stage asks about and allocates. -/
structure Disp where
  dispIRs1en : Bool
  dispIRs2en : Bool
  dispIRdwen : Bool
  dispIRs1idx : BitVec 5
  dispIRs2idx : BitVec 5
  dispIRdidx : BitVec 5
  dispIPc : BitVec 32
deriving DecidableEq

section
variable (s : State) (d : Disp)

def oitfEmpty : Bool := s.retPtrR == s.alcPtrR && s.retPtrFlgR == s.alcPtrFlgR
def oitfFull : Bool := s.retPtrR == s.alcPtrR && !(s.retPtrFlgR == s.alcPtrFlgR)
def disReady : Bool := !oitfFull s
def retPtr : BitVec 1 := s.retPtrR
def disPtr : BitVec 1 := s.alcPtrR

def retRdidx : BitVec 5 := (s.entry (retPtr s)).rdidxR
def retRdwen : Bool := (s.entry (retPtr s)).rdwenR
def retPc : BitVec 32 := (s.entry (retPtr s)).pcR

/-- Does entry `k` write register `idx`, which is read or written when `en`? -/
def Entry.rdMatch (e : Entry) (en : Bool) (idx : BitVec 5) : Bool :=
  e.vldR && e.rdwenR && en && e.rdidxR == idx

def oitfrdMatch (en : Bool) (idx : BitVec 5) : Bool :=
  (s.entry 0#1).rdMatch en idx || (s.entry 1#1).rdMatch en idx

def oitfrdMatchDisprs1 : Bool := oitfrdMatch s d.dispIRs1en d.dispIRs1idx
def oitfrdMatchDisprs2 : Bool := oitfrdMatch s d.dispIRs2en d.dispIRs2idx
def oitfrdMatchDisprd : Bool := oitfrdMatch s d.dispIRdwen d.dispIRdidx

variable (disEna retEna : Bool)

def alcPtrFlgEna : Bool := s.alcPtrR == 1#1 && disEna
def retPtrFlgEna : Bool := s.retPtrR == 1#1 && retEna

def vldSet (k : BitVec 1) : Bool := disEna && s.alcPtrR == k
def vldClr (k : BitVec 1) : Bool := retEna && s.retPtrR == k

def step : State where
  alcPtrR := dfflr disEna (if alcPtrFlgEna s disEna then 0#1 else s.alcPtrR + 1#1) s.alcPtrR
  alcPtrFlgR := dfflr (alcPtrFlgEna s disEna) (!s.alcPtrFlgR) s.alcPtrFlgR
  retPtrR := dfflr retEna (if retPtrFlgEna s retEna then 0#1 else s.retPtrR + 1#1) s.retPtrR
  retPtrFlgR := dfflr (retPtrFlgEna s retEna) (!s.retPtrFlgR) s.retPtrFlgR
  entry k :=
    { vldR :=
        dfflr (vldSet s disEna k || vldClr s retEna k) (vldSet s disEna k || !vldClr s retEna k)
          (s.entry k).vldR
      rdwenR := dfflr (vldSet s disEna k) d.dispIRdwen (s.entry k).rdwenR
      rdidxR := dfflr (vldSet s disEna k) d.dispIRdidx (s.entry k).rdidxR
      pcR := dfflr (vldSet s disEna k) d.dispIPc (s.entry k).pcR }

end
end Oitf

/-! ## Dispatch -/

namespace Disp

/-- The input ports except the ALU's answer and what is passed through to the FIFO. -/
structure In where
  wfiHaltExuReq : Bool
  oitfEmpty : Bool
  amoWait : Bool
  dispIValid : Bool
  dispIRs1x0 : Bool
  dispIRs2x0 : Bool
  dispIInfo : DecInfo
  dispIRs1 : BitVec 32
  dispIRs2 : BitVec 32
  dispOitfReady : Bool
  oitfrdMatchDisprs1 : Bool
  oitfrdMatchDisprs2 : Bool
  oitfrdMatchDisprd : Bool
deriving DecidableEq

section
variable (i : In)

def dispCsr : Bool := i.dispIInfo.grp == GRP_CSR
def dispAluLongpPrdt : Bool := i.dispIInfo.grp == GRP_AGU

/-- FENCE and FENCE.I wait for all outstanding instructions. -/
def dispFenceFencei : Bool :=
  i.dispIInfo.grp == GRP_BJP && (i.dispIInfo.getLsbD 15 || i.dispIInfo.getLsbD 16)

def rawDep : Bool := i.oitfrdMatchDisprs1 || i.oitfrdMatchDisprs2
def wawDep : Bool := i.oitfrdMatchDisprd
def dep : Bool := rawDep i || wawDep i

def wfiHaltExuAck : Bool := i.oitfEmpty && !i.amoWait

def dispCondition : Bool :=
  (if dispCsr i then i.oitfEmpty else true) &&
    (if dispFenceFencei i then i.oitfEmpty else true) && !i.wfiHaltExuReq && !dep i &&
    (if dispAluLongpPrdt i then i.dispOitfReady else true)

def dispOAluValid : Bool := dispCondition i && i.dispIValid

def dispIReady (dispOAluReady : Bool) : Bool := dispCondition i && dispOAluReady

/-- Register `x0` reads as zero. -/
def dispORs1 : BitVec 32 := i.dispIRs1 &&& gate (!i.dispIRs1x0) (BitVec.allOnes 32)
def dispORs2 : BitVec 32 := i.dispIRs2 &&& gate (!i.dispIRs2x0) (BitVec.allOnes 32)

theorem and_gate_allOnes (sel : Bool) (x : BitVec 32) :
    x &&& gate sel (BitVec.allOnes 32) = gate sel x := by
  cases sel
  · exact BitVec.and_zero
  · exact BitVec.and_allOnes

theorem dispORs1_eq : dispORs1 i = gate (!i.dispIRs1x0) i.dispIRs1 := and_gate_allOnes _ _
theorem dispORs2_eq : dispORs2 i = gate (!i.dispIRs2x0) i.dispIRs2 := and_gate_allOnes _ _

/-- An entry is allocated for what is really dispatched as a long-pipe instruction. -/
def dispOitfEna (dispOAluReady dispOAluLongpipe : Bool) : Bool :=
  dispOAluValid i && dispOAluReady && dispOAluLongpipe

end
end Disp
end E203
