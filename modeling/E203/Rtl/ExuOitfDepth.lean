import E203.Rtl.Defines

/-! # The outstanding-instruction FIFO of any depth (`e203_exu_oitf.v`)

For each `E203_OITF_DEPTH` and `E203_ITAG_WIDTH`, with the third operand and the register files of a
floating-point unit.
-/

namespace E203.OitfDepth
set_option autoImplicit false

/-- The payload of an entry. -/
structure Payload where
  rdidx : BitVec 5
  pc : BitVec 32
  rdwen : Bool
  rdfpu : Bool
deriving DecidableEq

structure Entry where
  vldR : Bool
  /-- Only set, not cleared. -/
  payloadR : Payload

/-- The pointers are registers with a depth of more than 1 only. -/
structure State (DEPTH W : ℕ) where
  alcPtrR : BitVec W
  alcPtrFlgR : Bool
  retPtrR : BitVec W
  retPtrFlgR : Bool
  entry : Fin DEPTH → Entry

/-- A register operand of the instruction that is dispatched. -/
structure Operand where
  en : Bool
  fpu : Bool
  idx : BitVec 5
deriving DecidableEq

structure In where
  disEna : Bool
  retEna : Bool
  dispIRs1 : Operand
  dispIRs2 : Operand
  dispIRs3 : Operand
  /-- `disp_i_rdwen`, `disp_i_rdfpu` and `disp_i_rdidx`. -/
  dispIRd : Operand
  dispIPc : BitVec 32

section
variable {DEPTH W : ℕ}

/-- After reset; the payload has none. -/
structure IsReset (s : State DEPTH W) : Prop where
  alcPtr : s.alcPtrR = BitVec.ofNat W 0
  alcPtrFlg : s.alcPtrFlgR = false
  retPtr : s.retPtrR = BitVec.ofNat W 0
  retPtrFlg : s.retPtrFlgR = false
  vld : ∀ i, (s.entry i).vldR = false

variable (s : State DEPTH W) (i : In)

def alcPtr : BitVec W := if 1 < DEPTH then s.alcPtrR else BitVec.ofNat W 0
def retPtr : BitVec W := if 1 < DEPTH then s.retPtrR else BitVec.ofNat W 0
def disPtr : BitVec W := alcPtr s

def vld0 : Bool := if h : 0 < DEPTH then (s.entry ⟨0, h⟩).vldR else false

def oitfEmpty : Bool :=
  if 1 < DEPTH then s.retPtrR == s.alcPtrR && s.retPtrFlgR == s.alcPtrFlgR else !vld0 s

def oitfFull : Bool :=
  if 1 < DEPTH then s.retPtrR == s.alcPtrR && !(s.retPtrFlgR == s.alcPtrFlgR) else vld0 s

def disReady : Bool := !oitfFull s

/-- `ret_rdidx`, `ret_pc`, `ret_rdwen` and `ret_rdfpu`; the pointer is in range. -/
def retPayload : Payload :=
  if h : (retPtr s).toNat < DEPTH then (s.entry ⟨(retPtr s).toNat, h⟩).payloadR
  else ⟨0#5, 0#32, false, false⟩

/-- `rd_match_rs1idx[i]` and the others. -/
def Entry.rdMatch (e : Entry) (o : Operand) : Bool :=
  e.vldR && e.payloadR.rdwen && o.en && e.payloadR.rdfpu == o.fpu && e.payloadR.rdidx == o.idx

def oitfrdMatch (o : Operand) : Bool := (List.finRange DEPTH).any fun k => (s.entry k).rdMatch o

def oitfrdMatchDisprs1 : Bool := oitfrdMatch s i.dispIRs1
def oitfrdMatchDisprs2 : Bool := oitfrdMatch s i.dispIRs2
def oitfrdMatchDisprs3 : Bool := oitfrdMatch s i.dispIRs3
def oitfrdMatchDisprd : Bool := oitfrdMatch s i.dispIRd

/-- The last entry, compared as a number. -/
def isLast (DEPTH : ℕ) (ptr : BitVec W) : Bool := ptr.toNat == DEPTH - 1

def alcPtrFlgEna : Bool := isLast DEPTH s.alcPtrR && i.disEna
def retPtrFlgEna : Bool := isLast DEPTH s.retPtrR && i.retEna

def alcPtrNxt : BitVec W :=
  if alcPtrFlgEna s i then BitVec.ofNat W 0 else s.alcPtrR + BitVec.ofNat W 1

def retPtrNxt : BitVec W :=
  if retPtrFlgEna s i then BitVec.ofNat W 0 else s.retPtrR + BitVec.ofNat W 1

def vldSet (k : Fin DEPTH) : Bool := i.disEna && (alcPtr s).toNat == k.val
def vldClr (k : Fin DEPTH) : Bool := i.retEna && (retPtr s).toNat == k.val

/-- What an entry is allocated with. -/
def dispPayload : Payload := ⟨i.dispIRd.idx, i.dispIPc, i.dispIRd.en, i.dispIRd.fpu⟩

def step (i : In) (s : State DEPTH W) : State DEPTH W where
  alcPtrR := dfflr i.disEna (alcPtrNxt s i) s.alcPtrR
  alcPtrFlgR := dfflr (alcPtrFlgEna s i) (!s.alcPtrFlgR) s.alcPtrFlgR
  retPtrR := dfflr i.retEna (retPtrNxt s i) s.retPtrR
  retPtrFlgR := dfflr (retPtrFlgEna s i) (!s.retPtrFlgR) s.retPtrFlgR
  entry k :=
    { vldR :=
        dfflr (vldSet s i k || vldClr s i k) (vldSet s i k || !vldClr s i k) (s.entry k).vldR
      payloadR := dfflr (vldSet s i k) (dispPayload i) (s.entry k).payloadR }

end
end E203.OitfDepth
