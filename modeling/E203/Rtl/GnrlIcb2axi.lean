import E203.Rtl.GnrlIcbBuffer
import E203.Rtl.GnrlIcbs

/-! # The bridge to AXI (`sirv_gnrl_icb2axi` and `sirv_gnrl_axi_buffer` in `sirv_gnrl_icbs.v`)

For every `AXI_FIFO_DP`, `AXI_FIFO_CUT_READY`, `FIFO_OUTS_NUM` and `FIFO_CUT_READY`.  The size of the
command is a port that nothing reads.
-/

namespace E203.Icb2axi
set_option autoImplicit false
open IcbBuffer (upper lower)

/-! ## The channels -/

/-- Address and attributes, of a read or of a write. -/
structure AxiAddr (AW : ℕ) where
  addr : BitVec AW
  cache : BitVec 4
  prot : BitVec 3
  lock : BitVec 2
  burst : BitVec 2
  len : BitVec 4
  size : BitVec 3
deriving DecidableEq

structure AxiW (MW : ℕ) where
  wdata : BitVec (8 * MW)
  wstrb : BitVec MW
  wlast : BitVec 1
deriving DecidableEq

structure AxiR (MW : ℕ) where
  rdata : BitVec (8 * MW)
  rresp : BitVec 2
  rlast : BitVec 1
deriving DecidableEq

section
variable {AW MW : ℕ}

abbrev arChnlW (AW : ℕ) : ℕ := AW + 4 + 3 + 2 + 2 + 4 + 3
abbrev wChnlW (MW : ℕ) : ℕ := 8 * MW + MW + 1
abbrev rChnlW (MW : ℕ) : ℕ := 8 * MW + 2 + 1

def arChnl (a : AxiAddr AW) : BitVec (arChnlW AW) :=
  a.addr ++ a.cache ++ a.prot ++ a.lock ++ a.burst ++ a.len ++ a.size

def ofArChnl (x : BitVec (arChnlW AW)) : AxiAddr AW where
  size := lower x
  len := lower (upper x)
  burst := lower (upper (upper x))
  lock := lower (upper (upper (upper x)))
  prot := lower (upper (upper (upper (upper x))))
  cache := lower (upper (upper (upper (upper (upper x)))))
  addr := upper (upper (upper (upper (upper (upper x)))))

def wChnl (w : AxiW MW) : BitVec (wChnlW MW) := w.wdata ++ w.wstrb ++ w.wlast

def ofWChnl (x : BitVec (wChnlW MW)) : AxiW MW where
  wlast := lower x
  wstrb := lower (upper x)
  wdata := upper (upper x)

def rChnl (r : AxiR MW) : BitVec (rChnlW MW) := r.rdata ++ r.rresp ++ r.rlast

def ofRChnl (x : BitVec (rChnlW MW)) : AxiR MW where
  rlast := lower x
  rresp := lower (upper x)
  rdata := upper (upper x)

end

/-! ## The bridge -/

structure Params where
  axiFifoCutReady : Bool
  fifoCutReady : Bool

structure State (AXI_FIFO_DP OUTS AW MW : ℕ) where
  /-- The FIFOs of `u_sirv_gnrl_axi_buffer`. -/
  arFifo : Fifo AXI_FIFO_DP (arChnlW AW)
  awFifo : Fifo AXI_FIFO_DP (arChnlW AW)
  wdataFifo : Fifo AXI_FIFO_DP (wChnlW MW)
  rdataFifo : Fifo AXI_FIFO_DP (rChnlW MW)
  brespFifo : Fifo AXI_FIFO_DP 2
  /-- `u_sirv_gnrl_rw_fifo`. -/
  rwFifo : Fifo OUTS 1

structure IsReset {AXI_FIFO_DP OUTS AW MW : ℕ} (s : State AXI_FIFO_DP OUTS AW MW) : Prop where
  arFifo : FifoDp.IsReset s.arFifo
  awFifo : FifoDp.IsReset s.awFifo
  wdataFifo : FifoDp.IsReset s.wdataFifo
  rdataFifo : FifoDp.IsReset s.rdataFifo
  brespFifo : FifoDp.IsReset s.brespFifo
  rwFifo : s.rwFifo.IsReset

/-- What the ICB master and the AXI slave drive. -/
structure In (AW MW : ℕ) where
  iIcbCmdValid : Bool
  iIcbCmd : IcbCmd AW MW
  iIcbRspReady : Bool
  oAxiArready : Bool
  oAxiAwready : Bool
  oAxiWready : Bool
  oAxiRvalid : Bool
  oAxiR : AxiR MW
  oAxiBvalid : Bool
  oAxiBresp : BitVec 2

section
variable {AXI_FIFO_DP OUTS AW MW : ℕ} (P : Params) (s : State AXI_FIFO_DP OUTS AW MW) (i : In AW MW)

/-! ### The channels behind the buffer -/

def iAxiArready : Bool := FifoDp.iRdy P.axiFifoCutReady s.arFifo i.oAxiArready
def iAxiAwready : Bool := FifoDp.iRdy P.axiFifoCutReady s.awFifo i.oAxiAwready
def iAxiWready : Bool := FifoDp.iRdy P.axiFifoCutReady s.wdataFifo i.oAxiWready

def iAxiRvalid : Bool := FifoDp.oVld s.rdataFifo i.oAxiRvalid
def iAxiR : AxiR MW := ofRChnl (FifoDp.oDat false s.rdataFifo (rChnl i.oAxiR))
def iAxiBvalid : Bool := FifoDp.oVld s.brespFifo i.oAxiBvalid
def iAxiBresp : BitVec 2 := FifoDp.oDat false s.brespFifo i.oAxiBresp

/-! ### Responses -/

/-- The output of the FIFO is masked, so that it is 0 when the FIFO is empty. -/
def iIcbRspRead : Bool := (s.rwFifo.oDat true).getLsbD 0

def iIcbRspValid : Bool := if iIcbRspRead s then iAxiRvalid s i else iAxiBvalid s i
def iAxiRready : Bool := iIcbRspRead s && i.iIcbRspReady
def iAxiBready : Bool := !iIcbRspRead s && i.iIcbRspReady

/-- `SLVERR` and `DECERR` have the upper bit set. -/
def rspOfR (r : AxiR MW) : IcbRsp MW := ⟨r.rresp.getLsbD 1, r.rdata⟩
def rspOfB (b : BitVec 2) : IcbRsp MW := ⟨b.getLsbD 1, BitVec.ofNat (8 * MW) 0⟩

def iIcbRsp : IcbRsp MW := if iIcbRspRead s then rspOfR (iAxiR s i) else rspOfB (iAxiBresp s i)

/-! ### Commands -/

def rwFifoRen : Bool := iIcbRspValid s i && i.iIcbRspReady
def rwFifoFull : Bool := !s.rwFifo.iRdy P.fifoCutReady (rwFifoRen s i)

/-- The only valid signal that does not look at `rw_fifo_full`. -/
def iAxiArvalid : Bool := i.iIcbCmdValid && i.iIcbCmd.read

def iIcbCmdReady : Bool := !rwFifoFull P s i &&
  if i.iIcbCmd.read then iAxiArready P s i else iAxiAwready P s i && iAxiWready P s i

def iAxiAwvalid : Bool :=
  i.iIcbCmdValid && !i.iIcbCmd.read && iAxiWready P s i && !rwFifoFull P s i

def iAxiWvalid : Bool :=
  i.iIcbCmdValid && !i.iIcbCmd.read && iAxiAwready P s i && !rwFifoFull P s i

def rwFifoWen : Bool := i.iIcbCmdValid && iIcbCmdReady P s i

/-- `3'b10` for 32 bits, `3'b11` for 64 bits. -/
def axiAddr (c : IcbCmd AW MW) : AxiAddr AW :=
  ⟨c.addr, 0#4, 0#3, 0#2, 0#2, 0#4, if MW = 4 then 0b10#3 else 0b11#3⟩

def axiW (c : IcbCmd AW MW) : AxiW MW := ⟨c.wdata, c.wmask, 1#1⟩

/-! ### The AXI ports -/

def oAxiArvalid : Bool := FifoDp.oVld s.arFifo (iAxiArvalid i)
def oAxiAr : AxiAddr AW := ofArChnl (FifoDp.oDat false s.arFifo (arChnl (axiAddr i.iIcbCmd)))
def oAxiAwvalid : Bool := FifoDp.oVld s.awFifo (iAxiAwvalid P s i)
def oAxiAw : AxiAddr AW := ofArChnl (FifoDp.oDat false s.awFifo (arChnl (axiAddr i.iIcbCmd)))
def oAxiWvalid : Bool := FifoDp.oVld s.wdataFifo (iAxiWvalid P s i)
def oAxiW : AxiW MW := ofWChnl (FifoDp.oDat false s.wdataFifo (wChnl (axiW i.iIcbCmd)))
def oAxiRready : Bool := FifoDp.iRdy P.axiFifoCutReady s.rdataFifo (iAxiRready s i)
def oAxiBready : Bool := FifoDp.iRdy P.axiFifoCutReady s.brespFifo (iAxiBready s i)

def step (i : In AW MW) (s : State AXI_FIFO_DP OUTS AW MW) : State AXI_FIFO_DP OUTS AW MW where
  arFifo :=
    s.arFifo.step P.axiFifoCutReady (iAxiArvalid i) i.oAxiArready (arChnl (axiAddr i.iIcbCmd))
  awFifo :=
    s.awFifo.step P.axiFifoCutReady (iAxiAwvalid P s i) i.oAxiAwready (arChnl (axiAddr i.iIcbCmd))
  wdataFifo :=
    s.wdataFifo.step P.axiFifoCutReady (iAxiWvalid P s i) i.oAxiWready (wChnl (axiW i.iIcbCmd))
  rdataFifo := s.rdataFifo.step P.axiFifoCutReady i.oAxiRvalid (iAxiRready s i) (rChnl i.oAxiR)
  brespFifo := s.brespFifo.step P.axiFifoCutReady i.oAxiBvalid (iAxiBready s i) i.oAxiBresp
  rwFifo :=
    s.rwFifo.step P.fifoCutReady (rwFifoWen P s i) (rwFifoRen s i) (BitVec.ofBool i.iIcbCmd.read)

end
end E203.Icb2axi
