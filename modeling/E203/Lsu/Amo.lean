import E203.Exec.AtomicOp
import E203.Lsu.Outstanding

/-! # What an atomic operation does on the bus

* `CoreLsu.events`: the response that a cycle takes and the command that it issues.
* `Phase`: where an operation under way stands, with what it has sent and received so far.
* `Phase.step`: one cycle; `Phase.run`: a run.
-/

namespace E203
set_option autoImplicit false

namespace CoreLsu

/-- A command accepted by the load/store unit, or a response with the command that it answers. -/
inductive Ev
  | read (addr : BitVec 32)
  | write (addr wdata : BitVec 32) (wmask : BitVec 4)
  | rsp (read : Bool) (addr rdata : BitVec 32) (err : Bool)
deriving DecidableEq

section
variable (s : State) (i : In)

def cmdEv : Ev :=
  if (aguCmd s i).read then .read (aguCmd s i).addr
  else .write (aguCmd s i).addr (aguCmd s i).wdata (LsuCtrl.arbtIcbCmdWmaskPos s.lsu (aguCmd s i))

def rspEv : Ev :=
  .rsp (LsuCtrl.preAguIcbRspUsr s.lsu).read (LsuCtrl.preAguIcbRspUsr s.lsu).addr
    (LsuCtrl.arbtIcbRspRdata s.lsu i.toBus) (LsuCtrl.arbtIcbRspErr s.lsu i.toBus)

/-- The response is that of an older command. -/
def events : List Ev :=
  (if rspHsked s i then [rspEv s i] else []) ++ (if cmdHsked s i then [cmdEv s i] else [])

end

/-- What is sent and received in the cycles from `a` on, before `t`. -/
def trace (inp : ℕ → In) (s : State) (a t : ℕ) : List Ev :=
  Lib.emitted (fun u => events (run inp s u) (inp u)) a t

/-! ## One cycle -/

/-- The unit holds a command of the address-generation unit that waits for its response. -/
structure Holds (l : LsuCtrl.State) (read : Bool) (x : BitVec 32) : Prop where
  vld : l.spltVldR = true
  back2agu : l.spltDatR.usr.back2agu = true
  read : l.spltDatR.usr.read = read
  addr : l.spltDatR.usr.addr = x

/-- What the address-generation unit keeps of the responses. -/
structure Kept (a : Alu.State) (v : BitVec 32) (e : Bool) : Prop where
  sbf0 : a.sbf.sbf0.extractLsb' 0 32 = v
  err : a.agu.leftoverErrR = e

/-- The events of an operation that has written. -/
def written (op : AmoOp) (x y v : BitVec 32) (e : Bool) : List Ev :=
  [.read x, .rsp true x v e, .write x (rv32a op v y) (if e then 0x0#4 else 0xF#4)]

/-- Where an atomic operation on the word at `x` stands, after the events `evs`. -/
inductive Phase (op : AmoOp) (x y : BitVec 32) (s : State) : Lsuagu.Sta → List Ev → Prop
  | first : Holds s.lsu true x → Phase op x y s .first [.read x]
  | amoalu (v : BitVec 32) (e : Bool) :
    Kept s.core.exu.alu v e → s.lsu.spltVldR = false →
      Phase op x y s .amoalu [.read x, .rsp true x v e]
  | amordy (v : BitVec 32) (e : Bool) :
    Kept s.core.exu.alu v e → s.core.exu.alu.sbf.sbf1.extractLsb' 0 32 = rv32a op v y →
      s.lsu.spltVldR = false → Phase op x y s .amordy [.read x, .rsp true x v e]
  | wait2nd (v : BitVec 32) (e : Bool) :
    Kept s.core.exu.alu v e → s.core.exu.alu.sbf.sbf1.extractLsb' 0 32 = rv32a op v y →
      s.lsu.spltVldR = false → Phase op x y s .wait2nd [.read x, .rsp true x v e]
  | second (v : BitVec 32) (e : Bool) :
    Kept s.core.exu.alu v e → Holds s.lsu false x → Phase op x y s .second (written op x y v e)
  | wbck (v : BitVec 32) (e : Bool) (z : BitVec 32) (e' : Bool) :
    Kept s.core.exu.alu v (e || e') → s.lsu.spltVldR = false →
      Phase op x y s .wbck (written op x y v e ++ [.rsp false x z e'])

section
variable {s : State} {i : In} {op : AmoOp} {x y : BitVec 32}

theorem rspHsked_of_empty (h : s.lsu.spltVldR = false) : rspHsked s i = false :=
  LsuCtrl.hsked_of_empty h

/-- A response that is held up by nobody: what the address-generation unit sees is taken. -/
theorem Holds.rspHsked_eq {read : Bool} (h : Holds s.lsu read x) (hok : LsuCtrl.Ok s.lsu) :
    rspHsked s i = (exuIn s i).aguIcbRspValid :=
  hok.hsked_iff h.vld h.back2agu rfl

theorem Holds.rspEv_eq {read : Bool} (h : Holds s.lsu read x) :
    rspEv s i = .rsp read x (exuIn s i).aguIcbRspRdata (exuIn s i).aguIcbRspErr := by
  have husr : LsuCtrl.preAguIcbRspUsr s.lsu = s.lsu.spltDatR.usr := by
    rw [LsuCtrl.preAguIcbRspUsr, LsuCtrl.spltRdat, if_pos h.vld]
  rw [rspEv, husr, h.read, h.addr]
  rfl

theorem aguRspValid_of_empty (h : s.lsu.spltVldR = false) :
    (exuIn s i).aguIcbRspValid = false := by
  change LsuCtrl.aguIcbRspValid s.lsu i.toBus = false
  rw [LsuCtrl.aguIcbRspValid, LsuCtrl.preValid_of_empty h, Bool.false_and]

section
variable (hrun : Exu.AmoRun s.core.exu (exuIn s i))
include hrun

theorem cmdHsked_eq :
    cmdHsked s i =
      (decide (s.core.exu.alu.agu.icbStateR = .wait2nd) && (exuIn s i).aguIcbCmdReady) := by
  rw [cmdHsked, aguCmd_valid, hrun.aguIcbCmdValid_eq]
  rfl

/-- The command of the operation's second access. -/
theorem writeCmd (hop : Decode.isAmoOp op s.core.ifu.ifuIrR = true)
    (hidx : Exu.Indexed (exuIn s i)) (hsta : s.core.exu.alu.agu.icbStateR = .wait2nd) :
    cmdEv s i =
        .write (Core.rs1 s.core s.core.ifu.ifuIrR) (s.core.exu.alu.sbf.sbf1.extractLsb' 0 32)
          (if s.core.exu.alu.agu.leftoverErrR then 0x0#4 else 0xF#4) ∧
      (LsuCtrl.spltFifoWdat s.lsu (aguCmd s i)).usr.back2agu = true ∧
      (LsuCtrl.spltFifoWdat s.lsu (aguCmd s i)).usr.read = false ∧
      (LsuCtrl.spltFifoWdat s.lsu (aguCmd s i)).usr.addr = Core.rs1 s.core s.core.ifu.ifuIrR := by
  have hagu := hrun.ops.2.1
  have hvalid : (aguCmd s i).valid = true := by
    rw [aguCmd_valid, hrun.aguIcbCmdValid_eq, hsta]
    rfl
  have hread : (aguCmd s i).read = false := hrun.aguIcbCmdRead_eq _
  have hback : (aguCmd s i).back2agu = true := (hrun.agu _).1
  have hexcl : (aguCmd s i).excl = false := by
    change (Alu.agu s.core.exu.alu (Exu.alu s.core.exu (exuIn s i))).aguIInfo.getLsbD 9 = false
    rw [(Exu.agu_info hagu).2, Decode.aguInfoBus_bits.2.2.1]
    exact (Decode.isAmo_exclusive hrun.word).2.2
  have haddr : (aguCmd s i).addr = Core.rs1 s.core s.core.ifu.ifuIrR := by
    change Alu.dpathRes s.core.exu.alu (Exu.alu s.core.exu (exuIn s i)) = _
    rw [Exu.dpathRes_of_addr hagu (hrun.req_of_addr hsta), (Exu.agu_operands hagu hop hidx).1]
    rfl
  have hdata : (aguCmd s i).wdata = s.core.exu.alu.sbf.sbf1.extractLsb' 0 32 := by
    change Lsuagu.aguIcbCmdWdata s.core.exu.alu.agu _ = _
    rw [Lsuagu.aguIcbCmdWdata, if_pos (hrun.agu 0#32).2.2.2]
    rfl
  have hmask : LsuCtrl.arbtIcbCmdWmaskPos s.lsu (aguCmd s i) =
      if s.core.exu.alu.agu.leftoverErrR then 0x0#4 else 0xF#4 := by
    have hwmask : (aguCmd s i).wmask =
        if s.core.exu.alu.agu.leftoverErrR then 0x0#4 else 0xF#4 := by
      change Lsuagu.aguIcbCmdWmask s.core.exu.alu.agu _ _ = _
      rw [Lsuagu.aguIcbCmdWmask, if_pos (hrun.agu 0#32).2.2.2]
    simp [LsuCtrl.arbtIcbCmdWmaskPos, LsuCtrl.arbtIcbCmdScond, LsuCtrl.arbtIcbCmdUsr,
      LsuCtrl.arbtIcbCmdWmask, hvalid, hexcl, hwmask]
  refine ⟨?_, ?_, ?_, ?_⟩
  · rw [cmdEv, hread, haddr, hdata, hmask]
    rfl
  all_goals simp [LsuCtrl.spltFifoWdat, LsuCtrl.arbtIcbCmdUsr, hvalid, hback, hread, haddr]

end

theorem Phase.step {evs : List Ev}
    (h : Phase op x y s s.core.exu.alu.agu.icbStateR evs)
    (hrun : Exu.AmoRun s.core.exu (exuIn s i)) (hok : LsuCtrl.Ok s.lsu)
    (hop : Decode.isAmoOp op s.core.ifu.ifuIrR = true) (hidx : Exu.Indexed (exuIn s i))
    (hx : Core.rs1 s.core s.core.ifu.ifuIrR = x) (hy : Core.rs2 s.core s.core.ifu.ifuIrR = y)
    (hlast : s.core.exu.alu.agu.icbStateR ≠ .wbck) :
    Phase op x y (CoreLsu.step s i) (CoreLsu.step s i).core.exu.alu.agu.icbStateR
      (evs ++ events s i) := by
  have hcmd := cmdHsked_eq hrun
  have hsta' : (CoreLsu.step s i).core.exu.alu.agu.icbStateR = _ := hrun.step_icbStateR
  have hsbf0 : (CoreLsu.step s i).core.exu.alu.sbf.sbf0.extractLsb' 0 32 = _ := hrun.step_sbf0
  have hsbf1 : (CoreLsu.step s i).core.exu.alu.sbf.sbf1.extractLsb' 0 32 = _ := hrun.step_sbf1
  have herr' : (CoreLsu.step s i).core.exu.alu.agu.leftoverErrR = _ := hrun.step_leftoverErrR
  generalize hsta : s.core.exu.alu.agu.icbStateR = sta at h hcmd hsta' hsbf0 hsbf1 herr' hlast
  cases h with
  | first hhold =>
    have hno : cmdHsked s i = false := hcmd
    obtain ⟨hvld, hdat⟩ := lsu_of_no_cmd hno
    rw [hhold.rspHsked_eq hok, hhold.vld, Bool.true_and] at hvld
    rw [events, hno, hhold.rspHsked_eq hok, hhold.rspEv_eq]
    cases hrsp : (exuIn s i).aguIcbRspValid
    · rw [hrsp] at hvld hsta'
      rw [hsta']
      exact .first ⟨hvld, hdat ▸ hhold.back2agu, hdat ▸ hhold.read, hdat ▸ hhold.addr⟩
    · rw [hrsp] at hvld hsta' hsbf0 herr'
      rw [hsta']
      exact .amoalu _ _ ⟨hsbf0, herr'⟩ hvld
  | amoalu v e hkept hempty =>
    have hno : cmdHsked s i = false := hcmd
    obtain ⟨hvld, -⟩ := lsu_of_no_cmd hno
    have hrsp := rspHsked_of_empty (i := i) hempty
    rw [events, hno, hrsp]
    rw [hempty] at hvld
    rw [hsta']
    rw [aguRspValid_of_empty hempty] at herr'
    have hval := hrun.dpathRes_amoalu hop hsta
    rw [hkept.sbf0, (Exu.agu_operands hrun.ops.2.1 hop hidx).2] at hval
    refine .amordy v e ⟨hsbf0.trans hkept.sbf0, herr'.trans hkept.err⟩ ?_ hvld
    exact hsbf1.trans (hval.trans (congrArg (rv32a op v) hy))
  | amordy v e hkept hdata hempty =>
    have hno : cmdHsked s i = false := hcmd
    obtain ⟨hvld, -⟩ := lsu_of_no_cmd hno
    have hrsp := rspHsked_of_empty (i := i) hempty
    rw [events, hno, hrsp]
    rw [hempty] at hvld
    rw [hsta']
    rw [aguRspValid_of_empty hempty] at herr'
    exact .wait2nd v e ⟨hsbf0.trans hkept.sbf0, herr'.trans hkept.err⟩ (hsbf1.trans hdata) hvld
  | wait2nd v e hkept hdata hempty =>
    have hrsp := rspHsked_of_empty (i := i) hempty
    rw [aguRspValid_of_empty hempty] at herr'
    have hkept' : Kept (CoreLsu.step s i).core.exu.alu v e :=
      ⟨hsbf0.trans hkept.sbf0, herr'.trans hkept.err⟩
    have hcmd' : cmdHsked s i = (exuIn s i).aguIcbCmdReady := hcmd
    rw [events, hrsp, hcmd']
    cases hready : (exuIn s i).aguIcbCmdReady
    · rw [hready] at hcmd' hsta'
      obtain ⟨hvld, -⟩ := lsu_of_no_cmd hcmd'
      rw [hempty] at hvld
      rw [hsta']
      exact .wait2nd v e hkept' (hsbf1.trans hdata) hvld
    · rw [hready] at hcmd' hsta'
      obtain ⟨hvld, hdat⟩ := lsu_of_cmd hcmd'
      obtain ⟨hev, hback, hread, haddr⟩ := writeCmd hrun hop hidx hsta
      rw [hev, hkept.err, hdata, hx, hsta']
      rw [hx] at haddr
      exact .second v e hkept' ⟨hvld, hdat ▸ hback, hdat ▸ hread, hdat ▸ haddr⟩
  | second v e hkept hhold =>
    have hno : cmdHsked s i = false := hcmd
    obtain ⟨hvld, hdat⟩ := lsu_of_no_cmd hno
    rw [hhold.rspHsked_eq hok, hhold.vld, Bool.true_and] at hvld
    rw [events, hno, hhold.rspHsked_eq hok, hhold.rspEv_eq]
    cases hrsp : (exuIn s i).aguIcbRspValid
    · rw [hrsp] at hvld hsta' herr'
      rw [hsta']
      exact .second v e ⟨hsbf0.trans hkept.sbf0, herr'.trans hkept.err⟩
        ⟨hvld, hdat ▸ hhold.back2agu, hdat ▸ hhold.read, hdat ▸ hhold.addr⟩
    · rw [hrsp] at hvld hsta' herr'
      rw [hsta']
      rw [hkept.err, Bool.or_comm] at herr'
      exact .wbck v e _ _ ⟨hsbf0.trans hkept.sbf0, herr'⟩ hvld
  | wbck => exact absurd rfl hlast

/-- The first command of an operation whose state machine starts. -/
theorem Phase.of_start (hs : Exu.AmoStart s.core.exu (exuIn s i))
    (hop : Decode.isAmoOp op s.core.ifu.ifuIrR = true) (hidx : Exu.Indexed (exuIn s i))
    (hx : Core.rs1 s.core s.core.ifu.ifuIrR = x) :
    cmdHsked s i = true ∧ cmdEv s i = .read x ∧
      Phase op x y (CoreLsu.step s i) (CoreLsu.step s i).core.exu.alu.agu.icbStateR [.read x] := by
  have hst := hs.starts
  have hcmd : cmdHsked s i = true := by
    have hand := hs
    simp only [Exu.AmoStart, Lsuagu.stateIdleExitEna, Bool.and_eq_true] at hand
    exact hand.1.2
  have hamo := ((Bool.and_eq_true _ _).mp hst.algnamo).2
  have hvalid : (aguCmd s i).valid = true := ((Bool.and_eq_true _ _).mp hcmd).1
  have hread : (aguCmd s i).read = true := by
    change Lsuagu.aguIcbCmdRead s.core.exu.alu.agu _ _ = true
    rw [Lsuagu.aguIcbCmdRead, hst.algnamo, Lsuagu.icbStaIsIdle, hst.idle]
    simp
  have hback : (aguCmd s i).back2agu = true := hst.algnamo
  have haddr : (aguCmd s i).addr = x := by
    change Alu.dpathRes s.core.exu.alu (Exu.alu s.core.exu (exuIn s i)) = _
    rw [Exu.dpathRes_of_addr hst.agu (Exu.req_of_idle hst.idle hamo),
      (Exu.agu_operands hst.agu hop hidx).1]
    exact hx
  refine ⟨hcmd, ?_, ?_⟩
  · rw [cmdEv, hread, haddr]
    rfl
  · obtain ⟨hvld, hdat⟩ := lsu_of_cmd hcmd
    have hsta : (CoreLsu.step s i).core.exu.alu.agu.icbStateR = .first := if_pos hs
    rw [hsta]
    refine .first ⟨hvld, ?_, ?_, ?_⟩ <;> rw [hdat]
    all_goals simp [LsuCtrl.spltFifoWdat, LsuCtrl.arbtIcbCmdUsr, hvalid, hback, hread, haddr]

end
end CoreLsu
end E203
