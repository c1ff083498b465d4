import E203.Lsu.Access
import E203.Lsu.Compute
import E203.Rtl.DataMem
import E203.Tcm.Linearizable

/-! # Loads and stores on their way to the tightly coupled memories

* `Plain`: the loads and stores of RV32I; `aguCmd_of_valid`: the command that is given for one.
* `served`, `offered`, `responded`: what a memory exchanges with its ports in a cycle.
* `served_eq`: a memory is given the commands whose address it has, beside those of its other ports.
* `own_responded`: the load/store unit takes a response from the memory that gives it one.
-/

namespace E203.DataMem
set_option autoImplicit false
open Lib (ByteMem)
open LsuCtrl (Target decode)

/-! ## Instructions -/

section
variable (i : In)

def load : Bool := i.aguIInfo.getLsbD 4

def size : MemSize :=
  if i.aguIInfo.extractLsb' 6 2 = 0b00#2 then .byte
  else if i.aguIInfo.extractLsb' 6 2 = 0b01#2 then .half
  else .word

def usign : Bool := i.aguIInfo.getLsbD 8

def addr : BitVec 32 := i.aguIRs1 + i.aguIImm

/-- A load or a store, and no atomic operation. -/
structure Plain : Prop where
  size : i.aguIInfo.extractLsb' 6 2 = (size i).code
  store : i.aguIInfo.getLsbD 5 = !load i
  excl : i.aguIInfo.getLsbD 9 = false
  amo : i.aguIInfo.getLsbD 10 = false

instance : Decidable (Plain i) :=
  decidable_of_iff (i.aguIInfo.extractLsb' 6 2 = (DataMem.size i).code ∧
    i.aguIInfo.getLsbD 5 = !load i ∧ i.aguIInfo.getLsbD 9 = false ∧ i.aguIInfo.getLsbD 10 = false)
    ⟨fun h => ⟨h.1, h.2.1, h.2.2.1, h.2.2.2⟩, fun h => ⟨h.1, h.2, h.3, h.4⟩⟩

/-- What the instruction does to the memory of its address. -/
def perform (m : ByteMem) : ByteMem :=
  if load i then m else rv32Store (size i) i.aguIRs2 m ((addr i).toNat % 2 ^ 16)

/-- What a load brings back. -/
def result (m : ByteMem) : BitVec 32 := rv32Load (size i) (usign i) m ((addr i).toNat % 2 ^ 16)

end

section
variable {s : State} {i : In}

theorem Plain.aguIAmo_eq (h : Plain i) : Lsuagu.aguIAmo s.agu (aguIn s i) = false := by
  rw [Lsuagu.aguIAmo, show (aguIn s i).aguIInfo = i.aguIInfo from rfl, h.amo, Bool.false_and]

theorem Plain.aguIExcl_eq (h : Plain i) : Lsuagu.aguIExcl (aguIn s i) = false := h.excl

theorem Plain.aguISize_eq (h : Plain i) : Lsuagu.aguISize (aguIn s i) = (DataMem.size i).code := h.size

theorem dpathRes_eq (hidle : s.agu.icbStateR = .idle) (hplain : Plain i) : dpathRes s i = addr i := by
  have hreq : Lsuagu.req s.agu (aguIn s i) = AluDpath.addReq i.aguIRs1 i.aguIImm := by
    simp [Lsuagu.req, AluDpath.addReq, Lsuagu.icbStaIsIdle, Lsuagu.icbStaIsAmoalu, Lsuagu.amoAddr,
      Lsuagu.icbStaIsWait2nd, Lsuagu.icbStaIs2nd, Lsuagu.icbStaIsWbck, Lsuagu.aguAddrGenOp2,
      Lsuagu.aguIOfst0, hidle, hplain.aguIAmo_eq, hplain.aguIExcl_eq]
    exact ⟨rfl, rfl⟩
  exact AluDpath.dpathRes_add ((AluDpath.mux_agu rfl rfl rfl).trans hreq) rfl

theorem agu_idle (hidle : s.agu.icbStateR = .idle) (hplain : i.aguIValid = true → Plain i) :
    (step i s).agu.icbStateR = .idle := by
  change Lsuagu.icbStateNxt s.agu _ _ _ _ = .idle
  have hno : Lsuagu.stateIdleExitEna s.agu (aguIn s i) (dpathRes s i) i.aguOReady
      i.flushPulse = false := by
    cases hv : i.aguIValid
    · simp [Lsuagu.stateIdleExitEna, Lsuagu.aguIcbCmdHsked, Lsuagu.aguIcbCmdValid,
        Lsuagu.icbStaIsWait2nd, hidle, aguIn, hv]
    · simp [Lsuagu.stateIdleExitEna, Lsuagu.stateIdleToExit, Lsuagu.aguIAlgnamo,
        (hplain hv).aguIAmo_eq]
  simp [Lsuagu.icbStateNxt, hno, hidle, Lsuagu.state1stExitEna, Lsuagu.stateAmoaluExitEna,
    Lsuagu.stateAmordyExitEna, Lsuagu.stateWait2ndExitEna, Lsuagu.state2ndExitEna,
    Lsuagu.stateWbckExitEna, Lsuagu.icbStaIs1st, Lsuagu.icbStaIsAmoalu, Lsuagu.icbStaIsAmordy,
    Lsuagu.icbStaIsWait2nd, Lsuagu.icbStaIs2nd, Lsuagu.icbStaIsWbck]

/-- What is given to the load/store unit for an instruction. -/
structure Issued (s : State) (i : In) : Prop where
  plain : Plain i
  aligned : Aligned (size i) (addr i)
  read : (aguCmd s i).read = load i
  addr : (aguCmd s i).addr = addr i
  wdata : (aguCmd s i).wdata = Lsuagu.algnstWdata (aguIn s i)
  wmask : (aguCmd s i).wmask = Lsuagu.algnstWmask (aguIn s i) (DataMem.addr i)
  excl : (aguCmd s i).excl = false
  usr : (aguCmd s i).usr =
    ⟨false, usign i, load i, (size i).code, i.aguIItag, DataMem.addr i, false⟩

theorem aguCmd_of_valid (hidle : s.agu.icbStateR = .idle) (hplain : i.aguIValid = true → Plain i)
    (hv : (aguCmd s i).valid = true) : Issued s i := by
  have hidleb : Lsuagu.icbStaIsIdle s.agu = true := by simp [Lsuagu.icbStaIsIdle, hidle]
  have hwait : Lsuagu.icbStaIsWait2nd s.agu = false := by simp [Lsuagu.icbStaIsWait2nd, hidle]
  change Lsuagu.aguIcbCmdValid s.agu (aguIn s i) (dpathRes s i) i.aguOReady = true at hv
  have hi : i.aguIValid = true := by
    by_contra hi
    simp [Lsuagu.aguIcbCmdValid, hwait, aguIn, hi] at hv
  have hp := hplain hi
  have hamo := hp.aguIAmo_eq (s := s)
  have hres := dpathRes_eq hidle hp
  have halgn : Lsuagu.aguIAlgnldst s.agu (aguIn s i) (addr i) = true := by
    simp only [Lsuagu.aguIcbCmdValid, Lsuagu.aguIAlgnamo, hamo, Bool.and_false, Bool.false_and,
      Bool.or_false, Bool.and_eq_true, hres] at hv
    exact hv.1.1
  have hunalgn : Lsuagu.aguAddrUnalgn s.agu (aguIn s i) (addr i) = false := by
    by_contra hno
    simp [Lsuagu.aguIAlgnldst, hno] at halgn
  have hblock : Lsuagu.flushBlock s.agu (aguIn s i) = false := by
    by_contra hno
    simp [Lsuagu.aguIAlgnldst, Lsuagu.aguILoad, Lsuagu.aguIStore, hno] at halgn
  have hload : Lsuagu.aguILoad s.agu (aguIn s i) = load i := by
    rw [Lsuagu.aguILoad, hblock]
    exact Bool.and_true _
  have hcmdamo : Lsuagu.aguIAlgnamo s.agu (aguIn s i) (addr i) = false := by
    rw [Lsuagu.aguIAlgnamo, hamo, Bool.and_false]
  have hread : Lsuagu.aguIcbCmdRead s.agu (aguIn s i) (addr i) = load i := by
    rw [Lsuagu.aguIcbCmdRead, halgn, hcmdamo, hload, Bool.true_and, Bool.false_and, Bool.or_false]
  refine ⟨hp, ?_, ?_, hres, ?_, ?_, hp.excl, ?_⟩
  · rw [Lsuagu.aguAddrUnalgn, if_pos hidleb] at hunalgn
    exact (Lsuagu.addrUnalgn_iff hp.aguISize_eq).mp hunalgn
  · rw [aguCmd, hres]
    exact hread
  · rw [aguCmd, Lsuagu.aguIcbCmdWdata, hamo]
    rfl
  · rw [aguCmd, Lsuagu.aguIcbCmdWmask, hamo, hres]
    rfl
  · rw [aguCmd, LsuCtrl.Cmd.usr, hres]
    simp only [Lsuagu.aguIcbCmdBack2agu, hcmdamo, hread, Lsuagu.aguIcbCmdExcl, Lsuagu.aguIcbCmdItag,
      Lsuagu.aguIcbCmdAddr]
    exact congrArg₂ (fun x y => (⟨false, usign i, load i, x, i.aguIItag, addr i, y⟩ : LsuCtrl.Usr))
      hp.size hp.excl

theorem Issued.tcmCmd_read (h : Issued s i) (hv : (aguCmd s i).valid = true) :
    (tcmCmd s i).read = load i := by
  rw [tcmCmd, LsuCtrl.arbtIcbCmdRead, hv, Bool.true_and, h.read]

theorem Issued.tcmCmd_addr (h : Issued s i) (hv : (aguCmd s i).valid = true) :
    (tcmCmd s i).addr = (DataMem.addr i).extractLsb' 0 16 := by
  rw [tcmCmd, LsuCtrl.arbtIcbCmdAddr, hv, gate_true, h.addr]

theorem Issued.exec_tcmCmd (h : Issued s i) (hv : (aguCmd s i).valid = true) (m : ByteMem) :
    Tcm.exec (tcmCmd s i) m = perform i m := by
  have hread := h.tcmCmd_read hv
  rw [perform]
  cases hld : load i
  · have hscond : LsuCtrl.arbtIcbCmdScond (aguCmd s i) = false := by
      rw [LsuCtrl.arbtIcbCmdScond, LsuCtrl.arbtIcbCmdUsr, if_pos hv, h.excl, Bool.false_and]
    have hsize := h.plain.aguISize_eq (s := s)
    refine Lsuagu.exec_store hsize h.aligned (hread.trans hld) (h.tcmCmd_addr hv) ?_ ?_ m
    · rw [tcmCmd, LsuCtrl.arbtIcbCmdWdata, hv, gate_true, h.wdata]
    · rw [tcmCmd, LsuCtrl.arbtIcbCmdWmaskPos, hscond, Bool.false_and, if_neg Bool.false_ne_true,
        LsuCtrl.arbtIcbCmdWmask, hv, gate_true, h.wmask]
  · rw [Tcm.exec, hread, hld, if_pos rfl, if_pos rfl]

end

/-! ## The ports of the memories -/

section
variable (s : State) (i : In)

/-- Everything that the load/store unit samples. -/
def lsuEnv : LsuCtrl.Env where
  toIn := lsuIn s i
  cmd := aguCmd s i
  commitTrap := i.commitTrap
  commitMret := i.commitMret

/-- The commands that a memory accepts. -/
def served : Target → List Tcm.Cmd
  | .biu => []
  | .dtcm => DtcmCtrl.accepted s.dtcm (dtcmIn s i)
  | .itcm => ItcmCtrl.accepted s.itcm (itcmIn s i)

/-- Those of the external agent and of the fetch unit. -/
def others : Target → List Tcm.Cmd
  | .biu => []
  | .dtcm =>
    if i.ext2dtcm.cmdValid && DtcmCtrl.arbtBusIcbCmdReady s.dtcm (dtcmIn s i) 1
      then [.bus 1 i.ext2dtcm.cmd] else []
  | .itcm =>
    (if i.ext2itcm.cmdValid && ItcmCtrl.busIcbCmdReady s.itcm (itcmIn s i) 1
      then [.bus 1 i.ext2itcm.cmd] else []) ++
    if i.ifu2itcm.cmdValid && ItcmCtrl.ifu2itcmIcbCmdReady s.itcm (itcmIn s i)
      then [.ifu i.ifu2itcm.cmd] else []

/-- The responses that a memory offers. -/
def offered : Target → List Tcm.Rsp
  | .biu => []
  | .dtcm => DtcmCtrl.offered s.dtcm
  | .itcm => ItcmCtrl.offered s.itcm

/-- And those that are taken. -/
def takes : Target → Tcm.Rsp → Bool
  | .biu, _ => false
  | .dtcm, r => DtcmCtrl.takes (dtcmIn s i) r
  | .itcm, r => ItcmCtrl.takes (itcmIn s i) r

def responded (T : Target) : List Tcm.Rsp := (offered s T).filter (takes s i T)

/-- What a memory holds. -/
def Pending : Target → ByteMem → List Tcm.Cmd → Prop
  | .biu, _, l => l = []
  | .dtcm, m, l => DtcmCtrl.Pending s.dtcm m l
  | .itcm, m, l => ItcmCtrl.Pending s.itcm m l

end

/-- The commands and the responses of the load/store unit. -/
def Own (c : Tcm.Cmd) : Prop := Tcm.port c = some 0

def OwnRsp : Tcm.Rsp → Prop
  | .bus p _ => p = 0
  | .ifu _ => False

section
variable {s : State} {i : In} {T : Target} {m : ByteMem} {l : List Tcm.Cmd} {c : Tcm.Cmd}
  {r : Tcm.Rsp}

theorem Pending.cycle (h : Pending s T m l) : ∃ m' l',
    Lib.Cycle Tcm.memory m l (served s i T) (responded s i T) m' l' ∧ Pending (step i s) T m' l' := by
  cases T with
  | biu =>
    obtain rfl : l = [] := h
    exact ⟨m, [], .wait, rfl⟩
  | dtcm => exact DtcmCtrl.Pending.cycle h
  | itcm => exact ItcmCtrl.Pending.cycle h

theorem Pending.offers (h : Pending s T m l) : Lib.Offers Tcm.memory m l (offered s T) := by
  cases T with
  | biu =>
    obtain rfl : l = [] := h
    rfl
  | dtcm => exact DtcmCtrl.Pending.offers h
  | itcm => exact ItcmCtrl.Pending.offers h

theorem own_answer (h : Tcm.memory.answer c m r) : OwnRsp r ↔ Own c := by
  cases c with
  | bus p c =>
    cases r with
    | bus q r =>
      obtain rfl : q = p := h.1
      exact Option.some_inj.symm
    | ifu r => exact h.elim
  | ifu d =>
    cases r with
    | bus q r => exact h.elim
    | ifu r => exact ⟨False.elim, fun heq => by cases heq⟩

theorem not_own_of_others (hc : c ∈ others s i T) : ¬Own c := by
  have hbus : ∀ d : IcbCmd 16 4, ¬Own (.bus 1 d) := fun d heq => by cases heq
  have hifu : ∀ d : IcbCmd 16 8, ¬Own (.ifu d) := fun d heq => by cases heq
  cases T with
  | biu => exact absurd hc List.not_mem_nil
  | dtcm =>
    rw [others, List.mem_ite_nil_right, List.mem_singleton] at hc
    rw [hc.2]
    exact hbus _
  | itcm =>
    rw [others, List.mem_append, List.mem_ite_nil_right, List.mem_ite_nil_right,
      List.mem_singleton, List.mem_singleton] at hc
    obtain ⟨-, rfl⟩ | ⟨-, rfl⟩ := hc
    · exact hbus _
    · exact hifu _

theorem served_length_le : (served s i T).length ≤ 1 := by
  cases T with
  | biu => exact Nat.zero_le 1
  | dtcm => exact DtcmCtrl.accepted_length _ _
  | itcm => exact ItcmCtrl.accepted_length _ _

/-- A memory is given a command of the load/store unit when that accepts it and it is its own. -/
theorem served_eq (hT : T ≠ .biu) : served s i T =
    (if LsuCtrl.aguCmd s.lsu (lsuEnv s i) && decide (decode (aguCmd s i).addr = T)
      then [.bus 0 (tcmCmd s i)] else []) ++ others s i T := by
  have hcmd := LsuCtrl.targetCmd_eq (s := s.lsu) (e := lsuEnv s i) T
  cases T with
  | biu => exact absurd rfl hT
  | dtcm =>
    have hready : DtcmCtrl.arbtBusIcbCmdReady s.dtcm (dtcmIn s i) 0 = dtcmIcbCmdReady s i := by
      have hrsp : DtcmCtrl.arbtBusIcbRspReady (dtcmIn s i) =
          DtcmCtrl.arbtBusIcbRspReady (dtcmInPre s i) := by
        funext p
        obtain rfl | rfl : p = 0 ∨ p = 1 := by omega
        · rfl
        · rfl
      rw [dtcmIcbCmdReady, DtcmCtrl.arbtBusIcbCmdReady, DtcmCtrl.arbtBusIcbCmdReady, hrsp]
      rfl
    have hhs : (DtcmCtrl.arbtBusIcbCmdValid (dtcmIn s i) 0 &&
        DtcmCtrl.arbtBusIcbCmdReady s.dtcm (dtcmIn s i) 0) =
        (LsuCtrl.aguCmd s.lsu (lsuEnv s i) && decide (decode (aguCmd s i).addr = .dtcm)) := by
      rw [hready]
      exact hcmd
    rw [served, DtcmCtrl.accepted, handshakes, hhs]
    rfl
  | itcm =>
    have hready : ItcmCtrl.busIcbCmdReady s.itcm (itcmIn s i) 0 = itcmIcbCmdReady s i := by
      have hrsp : ItcmCtrl.busIcbRspReady (itcmIn s i) =
          ItcmCtrl.busIcbRspReady (itcmInPre s i) := by
        funext p
        obtain rfl | rfl : p = 0 ∨ p = 1 := by omega
        · rfl
        · rfl
      rw [itcmIcbCmdReady, ItcmCtrl.busIcbCmdReady, ItcmCtrl.busIcbCmdReady,
        ItcmCtrl.arbtBusIcbCmdReady, ItcmCtrl.arbtBusIcbCmdReady, hrsp]
      rfl
    have hhs : ((ItcmCtrl.bus (itcmIn s i) 0).cmdValid &&
        ItcmCtrl.busIcbCmdReady s.itcm (itcmIn s i) 0) =
        (LsuCtrl.aguCmd s.lsu (lsuEnv s i) && decide (decode (aguCmd s i).addr = .itcm)) := by
      rw [hready]
      exact hcmd
    rw [served, ItcmCtrl.accepted, handshakes, hhs, List.append_assoc]
    rfl

/-- What is offered to the load/store unit is what it reads. -/
theorem eq_of_own_offered (hr : r ∈ offered s T) (hown : OwnRsp r) :
    ((lsuEnv s i).icb T).rspValid = true ∧
      r = .bus 0 ⟨((lsuEnv s i).icb T).rspErr, ((lsuEnv s i).icb T).rspRdata⟩ := by
  cases T with
  | biu => exact absurd hr List.not_mem_nil
  | dtcm =>
    rw [offered, DtcmCtrl.offered, handshakes, List.mem_append, List.mem_ite_nil_right,
      List.mem_ite_nil_right, List.mem_singleton, List.mem_singleton] at hr
    obtain ⟨hv, rfl⟩ | ⟨-, rfl⟩ := hr
    · exact ⟨((Bool.and_eq_true _ _).mp hv).1, rfl⟩
    · cases hown
  | itcm =>
    rw [offered, ItcmCtrl.offered, handshakes, List.mem_append, List.mem_append,
      List.mem_ite_nil_right, List.mem_ite_nil_right, List.mem_ite_nil_right, List.mem_singleton,
      List.mem_singleton, List.mem_singleton] at hr
    obtain (⟨hv, rfl⟩ | ⟨-, rfl⟩) | ⟨-, rfl⟩ := hr
    · exact ⟨((Bool.and_eq_true _ _).mp hv).1, rfl⟩
    · cases hown
    · cases hown

theorem own_offered (hT : T ≠ .biu) (hv : ((lsuEnv s i).icb T).rspValid = true) :
    .bus 0 ⟨((lsuEnv s i).icb T).rspErr, ((lsuEnv s i).icb T).rspRdata⟩ ∈ offered s T := by
  cases T with
  | biu => exact absurd rfl hT
  | dtcm =>
    have hval : DtcmCtrl.arbtBusIcbRspValid s.dtcm 0 = true := hv
    rw [offered, DtcmCtrl.offered, handshakes, hval]
    exact List.mem_append_left _ (List.mem_singleton.mpr rfl)
  | itcm =>
    have hval : ItcmCtrl.busIcbRspValid s.itcm 0 = true := hv
    rw [offered, ItcmCtrl.offered, handshakes, hval]
    exact List.mem_append_left _ (List.mem_append_left _ (List.mem_singleton.mpr rfl))

/-- The load/store unit takes a response from the memory that offers it one. -/
theorem own_responded (hT : T ≠ .biu) : (∃ r ∈ responded s i T, OwnRsp r) ↔
    LsuCtrl.targetRsp s.lsu (lsuEnv s i) T = true := by
  have htakes : ∀ r, takes s i T (.bus 0 r) = LsuCtrl.rspReady s.lsu (lsuEnv s i) T := by
    intro r
    cases T with
    | biu => exact absurd rfl hT
    | dtcm => rfl
    | itcm => rfl
  rw [LsuCtrl.targetRsp, Bool.and_eq_true]
  constructor
  · rintro ⟨r, hr, hown⟩
    obtain ⟨hoff, htake⟩ := List.mem_filter.mp hr
    obtain ⟨hv, rfl⟩ := eq_of_own_offered (i := i) hoff hown
    exact ⟨hv, (htakes _).symm.trans htake⟩
  · rintro ⟨hv, hready⟩
    exact ⟨_, List.mem_filter.mpr ⟨own_offered hT hv, (htakes _).trans hready⟩, rfl⟩

end
end E203.DataMem
