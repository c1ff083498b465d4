import E203.Rtl.Defines

/-! # The load/store unit (`e203_lsu_ctrl.v`, `e203_lsu.v`)

The commands of the address-generation unit go through an arbiter, whose other port `e203_lsu.v` ties
to zero, and are split over the DTCM, the ITCM and the system bus.  One command is outstanding at a
time: the arbiter keeps its port and the split stage the attributes that the response needs.

* `aguIcbCmdReady`, `preAguIcbRspValid`: the two handshakes; `step`: one clock edge.
* `exclFlgR`, `exclAddrR`: the reservation of the last load-reserved.
-/

namespace E203.LsuCtrl
set_option autoImplicit false

abbrev ITCM_ADDR_WIDTH : ℕ := 16
abbrev DTCM_ADDR_WIDTH : ℕ := 16
abbrev ITCM_ADDR_BASE : BitVec 32 := 0x80000000#32
abbrev DTCM_ADDR_BASE : BitVec 32 := 0x90000000#32

/-- `agu_icb_cmd_usr`: what comes back with the response. -/
structure Usr where
  back2agu : Bool
  usign : Bool
  read : Bool
  size : BitVec 2
  itag : BitVec 1
  addr : BitVec 32
  excl : Bool
deriving DecidableEq

def Usr.zero : Usr := ⟨false, false, false, 0#2, 0#1, 0#32, false⟩

/-- The data of the split stage. -/
structure Splt where
  biu : Bool
  dtcm : Bool
  itcm : Bool
  scondTrue : Bool
  usr : Usr
deriving DecidableEq

def Splt.zero : Splt := ⟨false, false, false, false, .zero⟩

structure State where
  /-- `u_sirv_gnrl_rspid_fifo` of the arbiter. -/
  rspidVldR : Bool
  rspidDatR : BitVec 1
  /-- `u_e203_lsu_splt_stage`. -/
  spltVldR : Bool
  spltDatR : Splt
  exclFlgR : Bool
  exclAddrR : BitVec 32
deriving DecidableEq

/-- After reset; the data of the two stages has none. -/
structure IsReset (s : State) : Prop where
  rspid : s.rspidVldR = false
  splt : s.spltVldR = false
  exclFlg : s.exclFlgR = false
  exclAddr : s.exclAddrR = 0#32

/-- The command of the address-generation unit. -/
structure Cmd where
  valid : Bool
  addr : BitVec 32
  read : Bool
  wdata : BitVec 32
  wmask : BitVec 4
  lock : Bool
  excl : Bool
  size : BitVec 2
  back2agu : Bool
  usign : Bool
  itag : BitVec 1
deriving DecidableEq

/-- What one of the targets answers. -/
structure Icb where
  cmdReady : Bool
  rspValid : Bool
  rspErr : Bool
  rspRdata : BitVec 32
deriving DecidableEq

/-- The three targets. -/
structure Bus where
  biu : Icb
  dtcm : Icb
  itcm : Icb
deriving DecidableEq

/-- The targets, and whether the execute stage takes a response. -/
structure In extends Bus where
  aguIcbRspReady : Bool
  lsuOReady : Bool
deriving DecidableEq

/-! ## The response channel -/

section
variable (s : State) (b : Bus)

/-- The outputs of the split stage, masked by its valid bit. -/
def spltRdat : Splt := if s.spltVldR then s.spltDatR else .zero

def arbtIcbRspValid : Bool :=
  ((spltRdat s).biu && b.biu.rspValid) || ((spltRdat s).dtcm && b.dtcm.rspValid) ||
    ((spltRdat s).itcm && b.itcm.rspValid)

def arbtIcbRspErr : Bool :=
  ((spltRdat s).biu && b.biu.rspErr) || ((spltRdat s).dtcm && b.dtcm.rspErr) ||
    ((spltRdat s).itcm && b.itcm.rspErr)

def arbtIcbRspRdata : BitVec 32 :=
  gate (spltRdat s).biu b.biu.rspRdata ||| gate (spltRdat s).dtcm b.dtcm.rspRdata |||
    gate (spltRdat s).itcm b.itcm.rspRdata

def oIcbRspPortId : BitVec 1 := if s.rspidVldR then s.rspidDatR else 0#1

def preAguIcbRspValid : Bool := s.rspidVldR && arbtIcbRspValid s b && oIcbRspPortId s == 1#1

/-- `pre_agu_icb_rsp_usr` split up again. -/
def preAguIcbRspUsr : Usr := (spltRdat s).usr

def lsuOValid : Bool := preAguIcbRspValid s b && !(preAguIcbRspUsr s).back2agu
def aguIcbRspValid : Bool := preAguIcbRspValid s b && (preAguIcbRspUsr s).back2agu
def aguIcbRspErr : Bool := arbtIcbRspErr s b
def aguIcbRspRdata : BitVec 32 := arbtIcbRspRdata s b

def lsuOWbckItag : BitVec 1 := (preAguIcbRspUsr s).itag

def rdataAlgn : BitVec 32 :=
  arbtIcbRspRdata s b >>> ((preAguIcbRspUsr s).addr.extractLsb' 0 2 ++ 0#3)

def rspLbu : Bool := (preAguIcbRspUsr s).size == 0b00#2 && (preAguIcbRspUsr s).usign
def rspLb : Bool := (preAguIcbRspUsr s).size == 0b00#2 && !(preAguIcbRspUsr s).usign
def rspLhu : Bool := (preAguIcbRspUsr s).size == 0b01#2 && (preAguIcbRspUsr s).usign
def rspLh : Bool := (preAguIcbRspUsr s).size == 0b01#2 && !(preAguIcbRspUsr s).usign
def rspLw : Bool := (preAguIcbRspUsr s).size == 0b10#2

def scExclWdata : BitVec 32 := if (spltRdat s).scondTrue then 0#32 else 1#32

/-- A store-conditional answers with its outcome. -/
def lsuOWbckWdat : BitVec 32 :=
  if !(preAguIcbRspUsr s).read && (preAguIcbRspUsr s).excl then scExclWdata s
  else
    gate (rspLbu s) (0#24 ++ (rdataAlgn s b).extractLsb' 0 8) |||
      gate (rspLb s)
        (BitVec.fill 24 ((rdataAlgn s b).getLsbD 7) ++ (rdataAlgn s b).extractLsb' 0 8) |||
      gate (rspLhu s) (0#16 ++ (rdataAlgn s b).extractLsb' 0 16) |||
      gate (rspLh s)
        (BitVec.fill 16 ((rdataAlgn s b).getLsbD 15) ++ (rdataAlgn s b).extractLsb' 0 16) |||
      gate (rspLw s) (rdataAlgn s b)

def lsuOWbckErr : Bool := arbtIcbRspErr s b
def lsuOCmtBuserr : Bool := arbtIcbRspErr s b
def lsuOCmtBadaddr : BitVec 32 := (preAguIcbRspUsr s).addr
def lsuOCmtLd : Bool := (preAguIcbRspUsr s).read
def lsuOCmtSt : Bool := !(preAguIcbRspUsr s).read

end

/-! ## The command channel -/

section
variable (s : State) (i : In)

def preAguIcbRspReady : Bool :=
  if (preAguIcbRspUsr s).back2agu then i.aguIcbRspReady else i.lsuOReady

/-- Port 0 of the arbiter is tied to zero. -/
def arbtIcbRspReady : Bool :=
  s.rspidVldR && (if oIcbRspPortId s == 1#1 then preAguIcbRspReady s i else false)

/-- A response is taken: `rspid_fifo_ren`, `splt_fifo_ren`. -/
def arbtIcbRspHsked : Bool := arbtIcbRspValid s i.toBus && arbtIcbRspReady s i

/-- Both stages accept while they are emptied. -/
def rspidFifoIReady : Bool := !s.rspidVldR || (s.rspidVldR && arbtIcbRspHsked s i)

def spltFifoIReady : Bool := !s.spltVldR || (s.spltVldR && arbtIcbRspHsked s i)

def allIcbCmdReady : Bool := i.biu.cmdReady && i.dtcm.cmdReady && i.itcm.cmdReady

def arbtIcbCmdAddiCondi : Bool := spltFifoIReady s i

def arbtIcbCmdReady : Bool := arbtIcbCmdAddiCondi s i && allIcbCmdReady i

def aguIcbCmdReady : Bool := arbtIcbCmdReady s i && rspidFifoIReady s i

variable (c : Cmd)

def arbtIcbCmdValid : Bool := c.valid && rspidFifoIReady s i

/-- The priority arbiter gates the command with the selection. -/
def arbtIcbCmdAddr : BitVec 32 := gate c.valid c.addr
def arbtIcbCmdRead : Bool := c.valid && c.read
def arbtIcbCmdWdata : BitVec 32 := gate c.valid c.wdata
def arbtIcbCmdWmask : BitVec 4 := gate c.valid c.wmask
def arbtIcbCmdExcl : Bool := c.valid && c.excl
def arbtIcbCmdSize : BitVec 2 := gate c.valid c.size

def arbtIcbCmdUsr : Usr :=
  if c.valid then ⟨c.back2agu, c.usign, c.read, c.size, c.itag, c.addr, c.excl⟩ else .zero

def iArbtIndicId : BitVec 1 := gate c.valid 1#1

def arbtIcbCmdItcm : Bool :=
  (arbtIcbCmdAddr c).extractLsb' ITCM_ADDR_WIDTH (32 - ITCM_ADDR_WIDTH) ==
    ITCM_ADDR_BASE.extractLsb' ITCM_ADDR_WIDTH (32 - ITCM_ADDR_WIDTH)

def arbtIcbCmdDtcm : Bool :=
  (arbtIcbCmdAddr c).extractLsb' DTCM_ADDR_WIDTH (32 - DTCM_ADDR_WIDTH) ==
    DTCM_ADDR_BASE.extractLsb' DTCM_ADDR_WIDTH (32 - DTCM_ADDR_WIDTH)

def arbtIcbCmdBiu : Bool := !arbtIcbCmdItcm c && !arbtIcbCmdDtcm c

/-- A command is accepted: `rspid_fifo_wen`, `splt_fifo_wen`. -/
def spltFifoWen : Bool := arbtIcbCmdValid s i c && arbtIcbCmdReady s i

/-! ### The exclusive monitor -/

def icbCmdaddrEqExcladdr : Bool := arbtIcbCmdAddr c == s.exclAddrR

def exclFlgSet : Bool :=
  spltFifoWen s i c && (arbtIcbCmdUsr c).excl && arbtIcbCmdRead c && arbtIcbCmdExcl c

/-- A store to the reserved address, a trap or a return. -/
def exclFlgClr (commitTrap commitMret : Bool) : Bool :=
  (spltFifoWen s i c && !arbtIcbCmdRead c && icbCmdaddrEqExcladdr s c &&
    s.exclFlgR) || commitTrap || commitMret

def arbtIcbCmdScond : Bool := (arbtIcbCmdUsr c).excl && !arbtIcbCmdRead c
def arbtIcbCmdScondTrue : Bool := arbtIcbCmdScond c && icbCmdaddrEqExcladdr s c && s.exclFlgR

/-- A store-conditional that fails writes nothing. -/
def arbtIcbCmdWmaskPos : BitVec 4 :=
  if arbtIcbCmdScond c && !arbtIcbCmdScondTrue s c then 0#4 else arbtIcbCmdWmask c

/-! ### The commands to the targets -/

def arbtIcbCmdValidPos : Bool := arbtIcbCmdAddiCondi s i && arbtIcbCmdValid s i c

/-- All targets are asked to be ready, whichever the command is for. -/
def dtcmIcbCmdValid : Bool :=
  arbtIcbCmdValidPos s i c && arbtIcbCmdDtcm c && (i.biu.cmdReady && i.itcm.cmdReady)

def itcmIcbCmdValid : Bool :=
  arbtIcbCmdValidPos s i c && arbtIcbCmdItcm c && (i.biu.cmdReady && i.dtcm.cmdReady)

def biuIcbCmdValid : Bool :=
  arbtIcbCmdValidPos s i c && arbtIcbCmdBiu c && (i.dtcm.cmdReady && i.itcm.cmdReady)

def lsuCtrlActive : Bool := c.valid || s.spltVldR

def dtcmIcbRspReady : Bool := (spltRdat s).dtcm && arbtIcbRspReady s i
def itcmIcbRspReady : Bool := (spltRdat s).itcm && arbtIcbRspReady s i
def biuIcbRspReady : Bool := (spltRdat s).biu && arbtIcbRspReady s i

/-! ### The clock edge -/

def spltFifoWdat : Splt where
  biu := arbtIcbCmdBiu c
  dtcm := arbtIcbCmdDtcm c
  itcm := arbtIcbCmdItcm c
  scondTrue := arbtIcbCmdScondTrue s c
  usr := arbtIcbCmdUsr c

variable (commitTrap commitMret : Bool)

def step : State where
  rspidVldR :=
    dfflr (spltFifoWen s i c || (s.rspidVldR && arbtIcbRspHsked s i))
      (spltFifoWen s i c || !(s.rspidVldR && arbtIcbRspHsked s i)) s.rspidVldR
  rspidDatR := dfflr (spltFifoWen s i c) (iArbtIndicId c) s.rspidDatR
  spltVldR :=
    dfflr (spltFifoWen s i c || (s.spltVldR && arbtIcbRspHsked s i))
      (spltFifoWen s i c || !(s.spltVldR && arbtIcbRspHsked s i)) s.spltVldR
  spltDatR := dfflr (spltFifoWen s i c) (spltFifoWdat s c) s.spltDatR
  exclFlgR :=
    dfflr (exclFlgSet s i c || exclFlgClr s i c commitTrap commitMret)
      (exclFlgSet s i c || !exclFlgClr s i c commitTrap commitMret) s.exclFlgR
  exclAddrR := dfflr (exclFlgSet s i c) (arbtIcbCmdAddr c) s.exclAddrR

end
end E203.LsuCtrl
