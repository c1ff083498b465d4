import E203.Lib.Channel
import E203.Tcm.DataPath

/-! # The tightly coupled memories as an array of bytes

* `memAt`: the bytes, as the accepted instructions leave them.
* `expected`, `written`: the write-back that an instruction asks for, and what is written back.
* `Inv`, `Inv.step`: what a memory holds, with the instruction that waits for its response.
* `byteArray`: over a run the write-backs are those of the instructions, in order.
-/

namespace E203.DataMem
set_option autoImplicit false
open Lib (ByteMem)
open LsuCtrl (Target decode)

/-! ## What is asked for -/

/-- A write-back of the load/store unit; that of a store has no data. -/
structure Wbck where
  itag : BitVec 1
  addr : BitVec 32
  ld : Bool
  wdat : BitVec 32
  err : Bool
deriving DecidableEq

section
variable (s : State) (i : In)

/-- The write-back of an instruction that finds these bytes. -/
def expected (m : ByteMem) : Wbck :=
  ⟨i.aguIItag, addr i, load i, if load i then result i m else 0#32, false⟩

/-- The load/store unit accepts the instruction. -/
def issue : Bool := LsuCtrl.aguCmd s.lsu (lsuEnv s i)

/-- The instruction accesses this memory. -/
def accesses (T : Target) : Bool := issue s i && decide (decode (addr i) = T)

/-- What is to be written back for the instruction that is accepted, unless it goes to the bus. -/
def issued (mem : Target → ByteMem) : List Wbck :=
  if issue s i && decide (decode (addr i) ≠ .biu) then [expected i (mem (decode (addr i)))] else []

/-- What is written back, unless it comes from the bus. -/
def written : List Wbck :=
  if LsuCtrl.lsuO s.lsu (lsuEnv s i) && decide (decode (LsuCtrl.lsuOCmtBadaddr s.lsu) ≠ .biu) then
    [⟨LsuCtrl.lsuOWbckItag s.lsu, LsuCtrl.lsuOCmtBadaddr s.lsu, LsuCtrl.lsuOCmtLd s.lsu,
      if LsuCtrl.lsuOCmtLd s.lsu then LsuCtrl.lsuOWbckWdat s.lsu (lsuIn s i).toBus else 0#32,
      LsuCtrl.lsuOWbckErr s.lsu (lsuIn s i).toBus⟩]
  else []

/-- The bytes after a cycle. -/
def memNext (mem : Target → ByteMem) (T : Target) : ByteMem :=
  Lib.execAll Tcm.memory (others s i T) (if accesses s i T then perform i (mem T) else mem T)

end

/-! ## What waits -/

/-- The load/store unit holds the command of an instruction, with the bytes that this finds. -/
inductive Waits (s : LsuCtrl.State) : List Wbck → (Target → Option (Tcm.Cmd × ByteMem)) → Prop
  | idle (h : s.spltVldR = true → decode s.spltDatR.usr.addr = .biu) : Waits s [] fun _ => none
  | held (i : In) (c : IcbCmd 16 4) (m : ByteMem) (hv : s.spltVldR = true)
      (hT : decode (addr i) ≠ .biu) (hal : Aligned (size i) (addr i))
      (husr : s.spltDatR.usr =
        ⟨false, usign i, load i, (size i).code, i.aguIItag, addr i, false⟩)
      (hread : c.read = load i) (haddr : c.addr = (addr i).extractLsb' 0 16) :
      Waits s [expected i m] fun T => if T = decode (addr i) then some (.bus 0 c, m) else none

/-- What the memories hold. -/
def Serving (s : State) (mem : Target → ByteMem) (x : Target → Option (Tcm.Cmd × ByteMem)) : Prop :=
  ∀ T, T ≠ .biu → ∃ m l, Pending s T m l ∧ Lib.execAll Tcm.memory l m = mem T ∧
    Lib.Sole Tcm.memory Own m l (x T)

structure Inv (s : State) (mem : Target → ByteMem) (pend : List Wbck) : Prop where
  idle : s.agu.icbStateR = .idle
  held : LsuCtrl.Held s.lsu
  waits : ∃ x, Waits s.lsu pend x ∧ Serving s mem x

section
variable {s : State} {i : In} {mem : Target → ByteMem} {pend : List Wbck}
  {x : Target → Option (Tcm.Cmd × ByteMem)} {T : Target}

/-! ## The response -/

/-- The load/store unit takes a response. -/
def rspHsked (s : State) (i : In) : Bool := LsuCtrl.arbtIcbRspHsked s.lsu (lsuIn s i)

/-- What still waits at the memories after the responses of a cycle. -/
def left (s : State) (i : In) (x : Target → Option (Tcm.Cmd × ByteMem)) :
    Target → Option (Tcm.Cmd × ByteMem) := fun T => if rspHsked s i then none else x T

theorem Waits.pend_nil (h : Waits s.lsu pend x) (hv : s.lsu.spltVldR = false) :
    pend = [] ∧ x = fun _ => none := by
  cases h with
  | idle _ => exact ⟨rfl, rfl⟩
  | held _ _ _ hv' => exact absurd (hv.symm.trans hv') Bool.false_ne_true

/-- Only the memory of the command that is held has something waiting. -/
theorem Waits.eq_none (h : Waits s.lsu pend x) (hT : T ≠ decode s.lsu.spltDatR.usr.addr) :
    x T = none := by
  cases h with
  | idle _ => rfl
  | held i c m hv _ _ husr =>
    rw [husr] at hT
    exact if_neg hT

theorem written_nil (hheld : LsuCtrl.Held s.lsu) (hno : rspHsked s i = false) : written s i = [] := by
  have hlsu : LsuCtrl.lsuO s.lsu (lsuEnv s i) = false := by
    by_contra hlsu
    obtain ⟨T, hT⟩ := (hheld.routed (e := lsuEnv s i)).port (.inr (Bool.not_eq_false _ ▸ hlsu))
    rw [hheld.targetRsp_eq] at hT
    exact Bool.false_ne_true (hno.symm.trans ((Bool.and_eq_true _ _).mp hT).1)
  rw [written, hlsu]
  rfl

/-- The response that is taken is the one that the instruction asks for. -/
theorem Waits.written_eq (h : Waits s.lsu pend x) (hheld : LsuCtrl.Held s.lsu)
    (hserve : Serving s mem x) (hrsp : rspHsked s i = true) : written s i = pend := by
  obtain ⟨hv, hval, -⟩ := hheld.hsked_iff (e := lsuEnv s i) |>.mp hrsp
  have husr' : LsuCtrl.preAguIcbRspUsr s.lsu = s.lsu.spltDatR.usr := by
    rw [LsuCtrl.preAguIcbRspUsr, LsuCtrl.spltRdat, if_pos hv]
  have hbad : LsuCtrl.lsuOCmtBadaddr s.lsu = s.lsu.spltDatR.usr.addr := congrArg _ husr'
  cases h with
  | idle hbiu =>
    rw [written, hbad, hbiu hv, decide_eq_false (fun hne => hne rfl), Bool.and_false]
    rfl
  | held i' c m _ hT hal husr hread haddr =>
    obtain ⟨-, hlsu⟩ := hheld.port_eq (e := lsuEnv s i) hrsp
    obtain ⟨-, herr, hdat⟩ := hheld.response (e := lsuEnv s i) hv
    rw [husr] at hval herr hdat husr' hbad hlsu
    obtain ⟨m', l, hpend, -, hsole⟩ := hserve _ hT
    obtain ⟨c', hx, hans⟩ := hsole.offer hpend.offers (fun c m r => own_answer)
      (own_offered hT hval) rfl
    have hx' : some (Tcm.Cmd.bus 0 c, m) = some (c', m') := (if_pos rfl).symm.trans hx
    obtain ⟨rfl, rfl⟩ := Prod.mk.inj (Option.some.inj hx')
    obtain ⟨-, hnoerr, hload⟩ := hans
    have hld : LsuCtrl.lsuOCmtLd s.lsu = load i' := congrArg LsuCtrl.Usr.read husr'
    have hitag : LsuCtrl.lsuOWbckItag s.lsu = i'.aguIItag := congrArg LsuCtrl.Usr.itag husr'
    have hdone : LsuCtrl.lsuOWbckErr s.lsu (lsuIn s i).toBus = false := herr.trans hnoerr
    have hword : load i' = true →
        LsuCtrl.lsuOWbckWdat s.lsu (lsuIn s i).toBus = result i' m := by
      intro hl
      have hwbck := @LsuCtrl.wbck_load s.lsu (lsuIn s i).toBus (size i') m c
      rw [husr'] at hwbck
      exact hwbck rfl hl hal haddr (hdat.trans (hload (hread.trans hl)))
    rw [written, hlsu, hbad, decide_eq_true hT, hitag, hld, hdone, expected]
    cases hl : load i'
    · rfl
    · rw [hword hl]
      rfl

/-! ## The memories -/

/-- A cycle of a memory: what it is given comes last, and a response leaves before. -/
theorem Serving.cycle (h : Serving s mem x) (hwaits : Waits s.lsu pend x)
    (hheld : LsuCtrl.Held s.lsu) (i : In) (hT : T ≠ .biu) :
    ∃ m l, Pending (step i s) T m (l ++ served s i T) ∧ Lib.execAll Tcm.memory l m = mem T ∧
      Lib.Sole Tcm.memory Own m l (left s i x T) := by
  obtain ⟨m, l, hpend, hmem, hsole⟩ := h T hT
  obtain ⟨m', l', hcycle, hpend'⟩ := hpend.cycle (i := i)
  obtain ⟨rest, rfl, hrest, hcase⟩ := hsole.cycle hcycle fun c m r => own_answer
  refine ⟨m', rest, hpend', hrest.trans hmem, ?_⟩
  have hown := own_responded (s := s) (i := i) hT
  rw [hheld.targetRsp_eq] at hown
  have hrsp : LsuCtrl.arbtIcbRspHsked s.lsu (lsuEnv s i).toIn = rspHsked s i := rfl
  rw [hrsp, Bool.and_eq_true, decide_eq_true_eq] at hown
  rw [left]
  obtain ⟨hsole', hnone⟩ | ⟨hsole', c, m₁, r, hx, hr, hr'⟩ := hcase
  · split
    · rename_i htaken
      have hother : T ≠ decode s.lsu.spltDatR.usr.addr := by
        intro heq
        obtain ⟨r, hr, hr'⟩ := hown.mpr ⟨htaken, heq.symm⟩
        exact hnone r hr hr'
      rw [hwaits.eq_none hother] at hsole'
      exact hsole'
    · exact hsole'
  · have htaken := (hown.mp ⟨r, hr ▸ List.mem_singleton.mpr rfl, hr'⟩).1
    rw [if_pos htaken]
    exact hsole'

/-! ## The cycle -/

/-- Without a new command what is held stays until its response. -/
theorem Waits.keep (h : Waits s.lsu pend x) (hno : issue s i = false) :
    Waits (step i s).lsu (if rspHsked s i then [] else pend) (left s i x) := by
  obtain ⟨hvld, hdat⟩ := LsuCtrl.next_keep (s := s.lsu) (e := lsuEnv s i) hno
  change (step i s).lsu.spltVldR = (s.lsu.spltVldR && !rspHsked s i) at hvld
  change (step i s).lsu.spltDatR = s.lsu.spltDatR at hdat
  cases hrsp : rspHsked s i
  · have hleft : left s i x = x := by
      funext T
      rw [left, hrsp, if_neg Bool.false_ne_true]
    rw [hrsp, Bool.not_false, Bool.and_true] at hvld
    rw [hleft, if_neg Bool.false_ne_true]
    cases h with
    | idle hbiu => exact .idle (by rw [hvld, hdat]; exact hbiu)
    | held i c m hv hT hal husr hread haddr =>
      exact .held i c m (hvld.trans hv) hT hal (by rw [hdat]; exact husr) hread haddr
  · have hleft : left s i x = fun _ => none := by
      funext T
      rw [left, hrsp, if_pos rfl]
    rw [hrsp, Bool.not_true, Bool.and_false] at hvld
    rw [hleft, if_pos rfl]
    exact .idle fun hv => absurd (hvld.symm.trans hv) Bool.false_ne_true

/-- A command is accepted when nothing is held any more. -/
theorem Waits.left_none (h : Waits s.lsu pend x) (hheld : LsuCtrl.Held s.lsu)
    (hcmd : issue s i = true) :
    (if rspHsked s i then [] else pend) = [] ∧ left s i x = fun _ => none := by
  cases hrsp : rspHsked s i
  · have hv : s.lsu.spltVldR = false := by
      by_contra hv
      have hfull := LsuCtrl.aguCmd_of_full (e := lsuEnv s i) hheld (Bool.not_eq_false _ ▸ hv) hrsp
      exact Bool.false_ne_true (hfull.symm.trans hcmd)
    obtain ⟨rfl, rfl⟩ := h.pend_nil hv
    exact ⟨rfl, funext fun T => ite_self _⟩
  · exact ⟨rfl, funext fun T => if_pos hrsp⟩

/-- What a new command waits for, unless it goes to the bus. -/
def taken (s : State) (i : In) (mem : Target → ByteMem) : Target → Option (Tcm.Cmd × ByteMem) :=
  if decode (addr i) = .biu then fun _ => none
  else fun T =>
    if T = decode (addr i) then some (.bus 0 (tcmCmd s i), mem (decode (addr i))) else none

theorem taken_eq (hT : T ≠ .biu) :
    taken s i mem T = if decode (addr i) = T then some (.bus 0 (tcmCmd s i), mem T) else none := by
  rw [taken]
  by_cases heq : decode (addr i) = T
  · subst heq
    rw [if_neg hT, if_pos rfl]
  · rw [if_neg heq]
    split
    · rfl
    · exact if_neg fun h => heq h.symm

theorem waits_of_issue (h : Issued s i) (hcmd : issue s i = true) :
    Waits (step i s).lsu (issued s i mem) (taken s i mem) := by
  obtain ⟨hvld, hdat⟩ := LsuCtrl.next_accept (s := s.lsu) (e := lsuEnv s i) hcmd
  change (step i s).lsu.spltVldR = true at hvld
  change (step i s).lsu.spltDatR = LsuCtrl.spltFifoWdat s.lsu (aguCmd s i) at hdat
  have husr : (step i s).lsu.spltDatR.usr = (aguCmd s i).usr := by
    rw [hdat]
    exact (LsuCtrl.spltFifoWdat_of_cmd (e := lsuEnv s i) hcmd).1
  have hv := ((Bool.and_eq_true _ _).mp hcmd).1
  rw [h.usr] at husr
  rw [issued, hcmd, taken]
  by_cases hT : decode (addr i) = .biu
  · rw [if_pos hT, decide_eq_false fun hne => hne hT]
    exact .idle fun _ => by rw [husr]; exact hT
  · rw [if_neg hT, decide_eq_true hT]
    exact .held i _ _ hvld hT h.aligned husr (h.tcmCmd_read hv) (h.tcmCmd_addr hv)

/-- The memories with a new command or without. -/
theorem Serving.next (h : Serving s mem x) (hwaits : Waits s.lsu pend x) (hheld : LsuCtrl.Held s.lsu)
    (hissued : issue s i = true → Issued s i) : Serving (step i s) (memNext s i mem)
      (if issue s i then taken s i mem else left s i x) := by
  intro T hT
  obtain ⟨m, l, hpend, hmem, hsole⟩ := h.cycle hwaits hheld i hT
  have hserved := served_eq (s := s) (i := i) hT
  have hother : ∀ c ∈ others s i T, ¬Own c := fun c hc => not_own_of_others hc
  change served s i T = (if issue s i && _ then _ else _) ++ _ at hserved
  refine ⟨m, _, hpend, ?_, ?_⟩
  · rw [Lib.execAll_append, hmem, hserved, Lib.execAll_append, memNext, accesses]
    cases hcmd : issue s i
    · rfl
    · have hi := hissued hcmd
      rw [hi.addr, Bool.true_and]
      cases decide (decode (addr i) = T)
      · rfl
      · rw [if_pos rfl, if_pos rfl, ← hi.exec_tcmCmd ((Bool.and_eq_true _ _).mp hcmd).1]
        rfl
  · rw [hserved]
    cases hcmd : issue s i
    · exact hsole.append hother
    · have hi := hissued hcmd
      rw [(hwaits.left_none hheld hcmd).2] at hsole
      rw [hi.addr, Bool.true_and, if_pos rfl, taken_eq hT]
      by_cases heq : decode (addr i) = T
      · rw [decide_eq_true heq, if_pos rfl, if_pos heq, ← hmem]
        exact hsole.accept rfl hother
      · rw [decide_eq_false heq, if_neg heq]
        exact hsole.append hother

theorem Inv.step (h : Inv s mem pend) (hplain : i.aguIValid = true → Plain i) :
    ∃ pend', Inv (step i s) (memNext s i mem) pend' ∧
      pend ++ issued s i mem = written s i ++ pend' := by
  obtain ⟨x, hwaits, hserve⟩ := h.waits
  have hissued : issue s i = true → Issued s i := fun hcmd =>
    aguCmd_of_valid h.idle hplain ((Bool.and_eq_true _ _).mp hcmd).1
  have hserve' := hserve.next hwaits h.held hissued
  have hidle := agu_idle h.idle hplain
  have hheld : LsuCtrl.Held (DataMem.step i s).lsu := h.held.step (lsuEnv s i)
  have hwritten : pend = written s i ++ if rspHsked s i then [] else pend := by
    cases hrsp : rspHsked s i
    · rw [written_nil h.held hrsp]
      rfl
    · rw [hwaits.written_eq h.held hserve hrsp, if_pos rfl, List.append_nil]
  cases hcmd : issue s i
  · rw [hcmd] at hserve'
    refine ⟨_, ⟨hidle, hheld, _, hwaits.keep hcmd, hserve'⟩, ?_⟩
    have hnone : issued s i mem = [] := by
      rw [issued, hcmd]
      rfl
    rw [hnone, List.append_nil]
    exact hwritten
  · rw [hcmd] at hserve'
    refine ⟨_, ⟨hidle, hheld, _, waits_of_issue (hissued hcmd) hcmd, hserve'⟩, ?_⟩
    rw [(hwaits.left_none h.held hcmd).1, List.append_nil] at hwritten
    rw [hwritten]

/-! ## The SRAM -/

/-- What the SRAM of a memory has. -/
def HoldsRam (s : State) (m : ByteMem) : Target → Prop
  | .biu => True
  | .dtcm => Lib.Holds s.dtcm.sram.ram.memR m
  | .itcm => Lib.Holds s.itcm.sram.ram.memR m

theorem Pending.holdsRam {m : ByteMem} (h : Pending s T m []) : HoldsRam s m T := by
  cases T with
  | biu => trivial
  | dtcm =>
    obtain ⟨l, hl, hold⟩ := h
    obtain rfl := List.map_eq_nil_iff.mp hl.symm
    obtain ⟨ram, hram, -, -, hmem⟩ := hold.sram
    rw [HoldsRam, hmem]
    exact hram
  | itcm =>
    obtain ⟨ram, hram, -, -, hmem⟩ := ItcmCtrl.Pending.sram h
    rw [HoldsRam, hmem]
    exact hram

/-- What has been stored is in the SRAM when no response is offered. -/
theorem Inv.holdsRam (h : Inv s mem pend) (hT : T ≠ .biu) (hoff : offered s T = []) :
    HoldsRam s (mem T) T := by
  obtain ⟨x, -, hserve⟩ := h.waits
  obtain ⟨m, l, hpend, hmem, -⟩ := hserve T hT
  obtain _ | ⟨c, l⟩ := l
  · obtain rfl : m = mem T := hmem
    exact hpend.holdsRam
  · obtain ⟨r, hr, -⟩ := hpend.offers
    exact absurd (hoff.symm.trans hr) (List.cons_ne_nil _ _).symm

theorem Inv.of_reset (h0 : IsReset s) (hram : ∀ T, HoldsRam s (mem T) T) : Inv s mem [] where
  idle := by rw [h0.agu]; rfl
  held := .of_reset h0.lsu
  waits := by
    refine ⟨fun _ => none, .idle fun hv => ?_, fun T hT => ?_⟩
    · exact absurd (h0.lsu.splt.symm.trans hv) Bool.false_ne_true
    · refine ⟨mem T, [], ?_, rfl, fun d hd => absurd hd List.not_mem_nil⟩
      cases T with
      | biu => exact absurd rfl hT
      | dtcm => exact DtcmCtrl.pending_reset h0.dtcm (hram .dtcm)
      | itcm => exact ItcmCtrl.pending_reset h0.itcm (hram .itcm)

/-- When an instruction accesses a memory no other port does. -/
theorem others_nil (hissued : issue s i = true → Issued s i) (hT : T ≠ .biu)
    (hacc : accesses s i T = true) : others s i T = [] := by
  have hlen := served_length_le (s := s) (i := i) (T := T)
  have hserved := served_eq (s := s) (i := i) hT
  change served s i T = (if issue s i && _ then _ else _) ++ _ at hserved
  have hcmd := ((Bool.and_eq_true _ _).mp hacc).1
  have hown : (issue s i && decide (decode (addr i) = T)) = true := hacc
  rw [(hissued hcmd).addr, hown, if_pos rfl] at hserved
  rw [hserved, List.length_append, List.length_singleton] at hlen
  exact List.length_eq_zero_iff.mp (by omega)

/-! ## Progress -/

def portReady (i : In) (T : Target) : Tcm.Cmd → Bool
  | .bus p _ =>
    if p = 0 then i.lsuOReady
    else if T = .itcm then i.ext2itcm.rspReady
    else i.ext2dtcm.rspReady
  | .ifu _ => i.ifu2itcm.rspReady

/-- The load/store unit takes a response that it is offered when the write-back takes it. -/
theorem Inv.rspReady_eq (h : Inv s mem pend) (hT : T ≠ .biu)
    (hv : ((lsuEnv s i).icb T).rspValid = true) :
    LsuCtrl.rspReady s.lsu (lsuEnv s i) T = i.lsuOReady ∧
      (i.lsuOReady = true → written s i ≠ []) := by
  obtain ⟨x, hwaits, hserve⟩ := h.waits
  obtain ⟨m, l, hpend, -, hsole⟩ := hserve T hT
  obtain ⟨c, hx, -⟩ := hsole.offer hpend.offers (fun c m r => own_answer) (own_offered hT hv) rfl
  have hrsp := h.held.targetRsp_eq (e := lsuEnv s i) T
  rw [LsuCtrl.targetRsp, hv, Bool.true_and] at hrsp
  have hiff := h.held.hsked_iff (e := lsuEnv s i)
  cases hwaits with
  | idle _ => cases hx
  | held i' c' m' hvld hT' hal husr hread haddr =>
    have hwaits := Waits.held i' c' m' hvld hT' hal husr hread haddr
    have heq : decode (addr i') = T := by
      by_contra hne
      have hnone : (none : Option (Tcm.Cmd × ByteMem)) = some (c, m) :=
        (if_neg fun h => hne h.symm).symm.trans hx
      cases hnone
    rw [husr] at hrsp hiff
    change _ = (_ && decide (decode (addr i') = T)) at hrsp
    rw [heq, decide_eq_true rfl, Bool.and_true] at hrsp
    change _ ↔ _ ∧ ((lsuEnv s i).icb (decode (addr i'))).rspValid = true ∧ i.lsuOReady = true at hiff
    rw [heq] at hiff
    have hhsked : rspHsked s i = true ↔ i.lsuOReady = true :=
      ⟨fun hr => (hiff.mp hr).2.2, fun hr => hiff.mpr ⟨hvld, hv, hr⟩⟩
    refine ⟨hrsp.trans (Bool.eq_iff_iff.mpr hhsked), fun hr => ?_⟩
    rw [hwaits.written_eq h.held hserve (hhsked.mpr hr)]
    exact List.cons_ne_nil _ _

theorem Inv.takes_eq (h : Inv s mem pend) (hT : T ≠ .biu) {m : ByteMem} {d : Tcm.Cmd}
    {l : List Tcm.Cmd} {r : Tcm.Rsp} (hpend : Pending s T m (d :: l)) (hr : r ∈ offered s T)
    (hans : Tcm.memory.answer d m r) : takes s i T r = portReady i T d := by
  cases d with
  | bus p c =>
    cases r with
    | ifu r => exact hans.elim
    | bus q r =>
      obtain rfl : q = p := hans.1
      obtain rfl | rfl : q = 0 ∨ q = 1 := by omega
      · obtain ⟨hv, hr⟩ := eq_of_own_offered (i := i) hr rfl
        refine Eq.trans ?_ (h.rspReady_eq hT hv).1
        cases T with
        | biu => exact absurd rfl hT
        | dtcm => rfl
        | itcm => rfl
      · cases T with
        | biu => exact absurd rfl hT
        | dtcm => rfl
        | itcm => rfl
  | ifu d =>
    cases r with
    | bus q r => exact hans.elim
    | ifu r =>
      cases T with
      | biu => exact absurd rfl hT
      | dtcm =>
        obtain ⟨_ | ⟨x, l'⟩, hl, -⟩ := hpend
        · cases hl
        · cases hl
      | itcm => rfl

/-- The oldest command leaves when its port takes its response. -/
theorem Inv.head_step (h : Inv s mem pend) (hT : T ≠ .biu) {m : ByteMem} {d : Tcm.Cmd}
    {l : List Tcm.Cmd} (hpend : Pending s T m (d :: l)) : ∃ m', Pending (DataMem.step i s) T m'
      ((if portReady i T d then l else d :: l) ++ served s i T) := by
  obtain ⟨r, hoff, hans⟩ := hpend.offers
  have htakes := h.takes_eq (i := i) hT hpend (hoff ▸ List.mem_singleton.mpr rfl) hans
  obtain ⟨m', l', hcycle, hpend'⟩ := hpend.cycle (i := i)
  have hresp : responded s i T = if portReady i T d then [r] else [] := by
    rw [responded, hoff, List.filter, htakes]
    cases portReady i T d
    · rfl
    · rfl
  rw [hresp] at hcycle
  generalize served s i T = acc at hcycle ⊢
  cases hready : portReady i T d
  · rw [hready, if_neg Bool.false_ne_true] at hcycle
    cases hcycle with
    | wait => exact ⟨_, hpend'⟩
  · rw [hready, if_pos rfl] at hcycle
    cases hcycle with
    | answer hp _ =>
      obtain ⟨rfl, rfl⟩ := List.cons.inj hp
      exact ⟨_, hpend'⟩

end

/-! ## Runs -/

section
variable (inp : ℕ → In) (s₀ : State) (m₀ : Target → ByteMem)

/-- The bytes of the memories before a cycle. -/
def memAt : ℕ → Target → ByteMem
  | 0 => m₀
  | t + 1 => memNext (run inp s₀ t) (inp t) (memAt t)

/-- What is asked for in a cycle, and what is written back. -/
def issuedAt (t : ℕ) : List Wbck := issued (run inp s₀ t) (inp t) (memAt inp s₀ m₀ t)
def writtenAt (t : ℕ) : List Wbck := written (run inp s₀ t) (inp t)

variable {inp s₀ m₀}

theorem conserves (h0 : IsReset s₀) (hram : ∀ T, HoldsRam s₀ (m₀ T) T)
    (hplain : ∀ t, (inp t).aguIValid = true → Plain (inp t)) :
    Lib.Conserves (issuedAt inp s₀ m₀) (writtenAt inp s₀)
        (Lib.backlog (issuedAt inp s₀ m₀) (writtenAt inp s₀)) ∧
      ∀ t, Inv (run inp s₀ t) (memAt inp s₀ m₀ t)
        (Lib.backlog (issuedAt inp s₀ m₀) (writtenAt inp s₀) t) :=
  Lib.conserves_of_cycle (.of_reset h0 hram) fun t _ h => h.step (hplain t)

/-- The ports take responses again and again. -/
structure Fair (inp : ℕ → In) : Prop where
  lsuO : ∀ t, ∃ u, t ≤ u ∧ (inp u).lsuOReady = true
  ext2dtcm : ∀ t, ∃ u, t ≤ u ∧ (inp u).ext2dtcm.rspReady = true
  ext2itcm : ∀ t, ∃ u, t ≤ u ∧ (inp u).ext2itcm.rspReady = true
  ifu2itcm : ∀ t, ∃ u, t ≤ u ∧ (inp u).ifu2itcm.rspReady = true

theorem Fair.portReady (h : Fair inp) (T : Target) (c : Tcm.Cmd) (t : ℕ) :
    ∃ u, t ≤ u ∧ portReady (inp u) T c = true := by
  cases c with
  | bus p c =>
    simp only [DataMem.portReady]
    split
    · exact h.lsuO t
    · split
      · exact h.ext2itcm t
      · exact h.ext2dtcm t
  | ifu d => exact h.ifu2itcm t

/-- A pending command comes to the front and its response is taken. -/
theorem exists_taken (hinv : ∀ t, ∃ pend, Inv (run inp s₀ t) (memAt inp s₀ m₀ t) pend)
    (hfair : Fair inp) {T : Target} (hT : T ≠ .biu) {c : Tcm.Cmd} (pre : List Tcm.Cmd) :
    ∀ {t : ℕ} {m : ByteMem} {post : List Tcm.Cmd}, Pending (run inp s₀ t) T m (pre ++ c :: post) →
      ∃ u m' post', t ≤ u ∧ Pending (run inp s₀ u) T m' (c :: post') ∧
        portReady (inp u) T c = true := by
  -- the front command stays until its port is ready
  have hmeet : ∀ {d : Tcm.Cmd} {l : List Tcm.Cmd} {t : ℕ} {m : ByteMem},
      Pending (run inp s₀ t) T m (d :: l) → ∃ u, t ≤ u ∧
        (∃ m' l', Pending (run inp s₀ u) T m' (d :: (l ++ l'))) ∧
          portReady (inp u) T d = true := by
    intro d l t m hpend
    refine Lib.exists_meeting ⟨m, [], by rw [List.append_nil]; exact hpend⟩ ?_ (hfair.portReady T d t)
    rintro u - ⟨m', l', hpend'⟩ hno
    obtain ⟨pend, h⟩ := hinv u
    obtain ⟨m'', hnext⟩ := h.head_step (i := inp u) hT hpend'
    rw [if_neg hno, List.cons_append, List.append_assoc] at hnext
    exact ⟨m'', _, hnext⟩
  induction pre with
  | nil =>
    intro t m post hpend
    obtain ⟨u, htu, ⟨m', l', hpend'⟩, hready⟩ := hmeet hpend
    exact ⟨u, m', _, htu, hpend', hready⟩
  | cons d pre ih =>
    intro t m post hpend
    rw [List.cons_append] at hpend
    obtain ⟨u, htu, ⟨m', l', hpend'⟩, hready⟩ := hmeet hpend
    obtain ⟨pend, h⟩ := hinv u
    obtain ⟨m'', hnext⟩ := h.head_step (i := inp u) hT hpend'
    rw [if_pos hready, List.append_assoc, List.append_assoc, List.cons_append] at hnext
    obtain ⟨v, m₃, post', huv, hv⟩ := @ih (u + 1) _ _ hnext
    exact ⟨v, m₃, post', by omega, hv⟩

theorem Inv.length_le {s : State} {mem : Target → ByteMem} {pend : List Wbck} (h : Inv s mem pend) :
    pend.length ≤ 1 := by
  obtain ⟨x, hwaits, -⟩ := h.waits
  cases hwaits with
  | idle _ => exact Nat.zero_le 1
  | held _ _ _ => exact Nat.le_refl 1

theorem exists_written (hinv : ∀ t, ∃ pend, Inv (run inp s₀ t) (memAt inp s₀ m₀ t) pend)
    (hfair : Fair inp) {t : ℕ} {w : Wbck} (h : Inv (run inp s₀ t) (memAt inp s₀ m₀ t) [w]) :
    ∃ u, t ≤ u ∧ writtenAt inp s₀ u ≠ [] := by
  obtain ⟨x, hwaits, hserve⟩ := h.waits
  generalize hl : [w] = l at hwaits
  cases hwaits with
  | idle _ => cases hl
  | held i c m hv hT _ _ _ _ =>
    obtain ⟨m', l, hpend, -, hsole⟩ := hserve _ hT
    simp only [if_pos] at hsole
    obtain ⟨hown, pre, post, rfl, -⟩ := hsole
    obtain ⟨u, m₂, post', htu, hu, hready⟩ := exists_taken hinv hfair hT pre hpend
    obtain ⟨pend, hi⟩ := hinv u
    obtain ⟨r, hoff, hans⟩ := hu.offers
    obtain ⟨hval, -⟩ := eq_of_own_offered (i := inp u) (hoff ▸ List.mem_singleton.mpr rfl)
      ((own_answer hans).mpr hown)
    exact ⟨u, htu, (hi.rspReady_eq hT hval).2 hready⟩

/-- What a cycle does to the bytes of a memory. -/
structure Stores (s : State) (i : In) (T : Target) (m m' : ByteMem) : Prop where
  own : accesses s i T = true → load i = false →
    ∀ k < (size i).bytes, m' ((addr i).toNat % 2 ^ 16 + k) = Lib.byte i.aguIRs2 k
  frame : accesses s i T = true → load i = false → ∀ b,
    b < (addr i).toNat % 2 ^ 16 ∨ (addr i).toNat % 2 ^ 16 + (size i).bytes ≤ b → m' b = m b
  keep : accesses s i T = false ∨ load i = true → others s i T = [] → m' = m

theorem stores {s : State} {i : In} {mem : Target → ByteMem} {T : Target}
    (hissued : issue s i = true → Issued s i) (hT : T ≠ .biu) :
    Stores s i T (mem T) (memNext s i mem T) := by
  have hstore : accesses s i T = true → load i = false → memNext s i mem T =
      rv32Store (size i) i.aguIRs2 (mem T) ((addr i).toNat % 2 ^ 16) := by
    intro hacc hld
    rw [memNext, others_nil hissued hT hacc, if_pos hacc, perform, hld]
    rfl
  constructor
  · intro hacc hld k hk
    rw [hstore hacc hld]
    exact rv32Store_at hk
  · intro hacc hld b hb
    rw [hstore hacc hld]
    exact rv32Store_of_out hb
  · intro hno hnone
    rw [memNext, hnone, perform]
    obtain hno | hno := hno
    · rw [hno]
      rfl
    · rw [hno, if_pos rfl, ite_self]
      rfl

/-- The memories are arrays of bytes.  The accepted instructions are aligned; those of a memory are
written back in order, with the bytes that they find; a store changes its own bytes and nothing else
does, but for the other ports; the SRAM has the bytes whenever no response is due; and every
instruction is written back when the ports go on taking responses. -/
theorem byteArray (inp : ℕ → In) (h0 : IsReset s₀) (hram : ∀ T, HoldsRam s₀ (m₀ T) T)
    (hplain : ∀ t, (inp t).aguIValid = true → Plain (inp t)) :
    (∀ t, issue (run inp s₀ t) (inp t) = true → Aligned (size (inp t)) (addr (inp t))) ∧
      (∀ t, Lib.Passes 1 (issuedAt inp s₀ m₀) (writtenAt inp s₀) t) ∧
      (∀ t T, T ≠ .biu → Stores (run inp s₀ t) (inp t) T (memAt inp s₀ m₀ t T)
        (memAt inp s₀ m₀ (t + 1) T)) ∧
      (∀ t T, T ≠ .biu → offered (run inp s₀ t) T = [] →
        HoldsRam (run inp s₀ t) (memAt inp s₀ m₀ t T) T) ∧
      (Fair inp → ∀ t, ∃ u, Lib.emitted (issuedAt inp s₀ m₀) 0 t <+:
        Lib.emitted (writtenAt inp s₀) 0 u) := by
  obtain ⟨hcons, hinv⟩ := conserves h0 hram hplain
  have hissued : ∀ t, issue (run inp s₀ t) (inp t) = true → Issued (run inp s₀ t) (inp t) :=
    fun t hcmd => aguCmd_of_valid (hinv t).idle (hplain t) ((Bool.and_eq_true _ _).mp hcmd).1
  refine ⟨fun t hcmd => (hissued t hcmd).aligned,
    fun t => ⟨_, hcons.emitted_eq t, (hinv t).length_le⟩, fun t T hT => stores (hissued t) hT,
    fun t T hT => (hinv t).holdsRam hT, fun hfair t => ?_⟩
  have hsplit := hcons.emitted_eq t
  have hone := hinv t
  have hlen := hone.length_le
  generalize Lib.backlog _ _ t = pend at hsplit hone hlen
  obtain _ | ⟨w, _ | _⟩ := pend
  · exact ⟨t, [], (List.append_nil _).trans (hsplit.trans (List.append_nil _))⟩
  · obtain ⟨u, htu, hu⟩ := exists_written (fun t => ⟨_, hinv t⟩) hfair hone
    refine ⟨u + 1, List.prefix_of_prefix_length_le ?_ (hcons.isPrefix (u + 1)) ?_⟩
    · rw [Lib.emitted_append (Nat.zero_le t) (show t ≤ u + 1 by omega)]
      exact List.prefix_append _ _
    · have hpos := List.length_pos_iff.mpr hu
      rw [hsplit, Lib.emitted_append (Nat.zero_le t) (show t ≤ u + 1 by omega),
        Lib.emitted_succ htu, List.length_append, List.length_append, List.length_append,
        List.length_singleton]
      omega
  · exact absurd hlen (by simp)

/-- A halfword is stored in the DTCM and its second byte loaded, a word in the ITCM and its upper half
loaded without its sign, with the fetch unit reading the ITCM and a response held up. -/
theorem byteArray_four :
    let instr : ℕ → DecInfo × BitVec 32 × BitVec 32 := fun t =>
      match t with
      | 0 => (0x60#32, 0x90000012#32, 0xa5c3#32)
      | 4 => (0x10#32, 0x90000013#32, 0#32)
      | 8 => (0xa0#32, 0x80000014#32, 0x89abcdef#32)
      | 12 => (0x150#32, 0x80000016#32, 0#32)
      | _ => (0#32, 0#32, 0#32)
    let inp : ℕ → In := fun t =>
      { aguIValid := t % 4 == 0 && t < 16, aguIRs1 := (instr t).2.1, aguIRs2 := (instr t).2.2,
        aguIImm := 0#32, aguIInfo := (instr t).1, aguIItag := BitVec.ofNat 1 (t / 4),
        flushReq := false, flushPulse := false, oitfEmpty := true, aguOReady := true,
        aguSbf0R := 0#32, aguSbf1R := 0#32, commitTrap := false, commitMret := false,
        lsuOReady := t % 2 == 0, biu := ⟨true, false, false, 0#32⟩,
        ext2dtcm := ⟨false, .zero 16 4, true⟩, ext2itcm := ⟨false, .zero 16 4, true⟩,
        ifu2itcm := ⟨true, ⟨true, 0x10#16, 0#64, 0#8⟩, true⟩ }
    let s₀ : State :=
      { agu := .reset, lsu := ⟨false, 0#1, false, .zero, false, 0#32⟩,
        dtcm := ⟨⟨⟨false, 0⟩⟩, ⟨⟨false, ⟨.zero 16 4, false⟩⟩, ⟨false, false⟩, ⟨fun _ => 0#32, 0#14⟩⟩⟩,
        itcm := ⟨fun _ => ⟨⟨false, false⟩⟩, ⟨⟨false, 0⟩⟩, ⟨⟨false, ⟨.zero 16 8, ⟨false, false⟩⟩⟩,
          ⟨false, ⟨false, false⟩⟩, ⟨fun _ => 0#64, 0#13⟩⟩, false⟩ }
    Lib.Passes 1 (issuedAt inp s₀ fun _ _ => 0#8) (writtenAt inp s₀) 18 ∧
      Lib.emitted (writtenAt inp s₀) 0 18 =
        [⟨0#1, 0x90000012#32, false, 0#32, false⟩, ⟨1#1, 0x90000013#32, true, 0xffffffa5#32, false⟩,
          ⟨0#1, 0x80000014#32, false, 0#32, false⟩, ⟨1#1, 0x80000016#32, true, 0x89ab#32, false⟩] := by
  intro instr inp s₀
  have hreset : IsReset s₀ :=
    ⟨rfl, ⟨rfl, rfl, rfl, rfl⟩, ⟨rfl, rfl, rfl⟩, ⟨fun _ => rfl, rfl, rfl, rfl, rfl⟩⟩
  have hram : ∀ T, HoldsRam s₀ ((fun _ _ => 0#8 : Target → ByteMem) T) T := by
    intro T
    cases T with
    | biu => trivial
    | dtcm => exact @Lib.holds_zero 14 4
    | itcm => exact @Lib.holds_zero 13 8
  have hplain : ∀ t, (inp t).aguIValid = true → Plain (inp t) := by
    intro t hv
    have hcase : t = 0 ∨ t = 4 ∨ t = 8 ∨ t = 12 := by
      simp only [inp, Bool.and_eq_true, beq_iff_eq, decide_eq_true_eq] at hv
      omega
    obtain rfl | rfl | rfl | rfl := hcase <;> decide
  exact ⟨(byteArray inp hreset hram hplain).2.1 18, by decide +kernel⟩

end
end E203.DataMem
