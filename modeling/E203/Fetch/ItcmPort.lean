import E203.Fetch.AdapterData
import E203.Fetch.Renewed
import E203.Tcm.Holdup

/-! # The ITCM controller behind the fetch adapter

* `ItcmRun`: a run of the adapter whose ITCM port is wired to the controller.
* `ItcmRun.pending`: the command of the fetch unit that is pending in the controller is the read that the
  adapter waits for; so the adapter is the `ItcmCtrl.FetchSide` of the controller.
* `ItcmRun.holdup_of_keep`: the flag stays up while the port is ready and not used.
* `ItcmRun.heldAt`: while the flag is up, the SRAM presents the lane of the last read.
* `ItcmRun.env`, `Ifu.memories_of_itcm`: what the adapter and the fetch unit are promised of the ITCM.
-/

namespace E203
set_option autoImplicit false
open Lib (emitted)

/-! ## The controller -/

namespace ItcmCtrl
section
variable {inp : ℕ → In} {s₀ s : State} {i : In} {t : ℕ}

theorem filter_entering :
    (entering s i).filter isIfu = (ifuCmds s i).map Tcm.Cmd.ifu := by
  rw [ifuCmds, entering]
  cases hc : cmdHsked s i
  · cases i.ifu2itcm.cmdValid && ifu2itcmIcbCmdReady s i <;> rfl
  · rw [cmdHsked_eq, Bool.and_eq_true] at hc
    rw [ifu_not_ready hc.1, Bool.and_false]
    rfl

/-- What leaves and what stays of the commands of the fetch unit. -/
theorem filter_leaving (i : In) (pend : List Tcm.Cmd) :
    (leaving i pend).filter isIfu ++ (left i pend).filter isIfu = pend.filter isIfu := by
  rw [← List.filter_append, leaving_append_left]

/-- While the port of the fetch unit is ready and not used, the SRAM is not accessed. -/
theorem not_ramCs_of_ready (hready : ifu2itcmIcbCmdReady s i = true)
    (hno : i.ifu2itcm.cmdValid = false) : itcmRamCs s i = false := by
  rw [ifu2itcmIcbCmdReady, Bool.and_eq_true, sramReady2ifu, Bool.not_eq_true'] at hready
  obtain ⟨harbt, hbyp⟩ := hready
  have hvld : s.sram.byp.vld = false := by
    simpa [sramIcbCmdReady, SramCtrl.iIcbCmdReady, Bypbuf.iRdy] using hbyp
  have hv : sramIcbCmdValid s i = false := by rw [sramIcbCmdValid_eq, harbt, hno]; rfl
  rw [itcmRamCs, SramCtrl.ramCs, SramCtrl.bypIcbCmdValid, Bypbuf.oVld, hvld, hv]
  rfl

/-- So the flag stays up. -/
theorem holdup_kept (hup : ifu2itcmHoldup s = true) (hready : ifu2itcmIcbCmdReady s i = true)
    (hno : i.ifu2itcm.cmdValid = false) : ifu2itcmHoldup (step i s) = true := by
  rw [ifu2itcmHoldup, holdup_step, not_ramCs_of_ready hready hno]
  exact hup

/-- A command of the fetch unit that is accepted when the stage holds nothing, or a response of the fetch
unit, accesses the SRAM at once. -/
theorem FetchSide.ramCs_of_cmd (henv : FetchSide inp s₀)
    (hvalid : (inp t).ifu2itcm.cmdValid = true)
    (hifu : (st inp s₀ t).sram.e1.vldR = true → (st inp s₀ t).sram.e1.datR.ifu = true) :
    itcmRamCs (st inp s₀ t) (inp t) = true := by
  have hv : sramIcbCmdValid (st inp s₀ t) (inp t) = true := by
    rw [sramIcbCmdValid_eq, hvalid, Bool.or_true]
  have hrdy : SramCtrl.bypIcbCmdReady (st inp s₀ t).sram (sramIcbRspReady (st inp s₀ t) (inp t)) =
      true := by
    cases hvld : (st inp s₀ t).sram.e1.vldR
    · simp [SramCtrl.bypIcbCmdReady, PipeStage.iRdy, hvld]
    · have hrsp : ifu2itcmIcbRspValid (st inp s₀ t) = true := by
        rw [ifu2itcmIcbRspValid, Bool.and_eq_true]
        exact ⟨hvld, hifu hvld⟩
      have hsel : sramIcbRspReady (st inp s₀ t) (inp t) = true := by
        have hsrc : sramIcbRspIfu (st inp s₀ t) = true := hifu hvld
        rw [sramIcbRspReady, hsrc, if_pos rfl]
        exact henv.accepts t hrsp
      simp [SramCtrl.bypIcbCmdReady, PipeStage.iRdy, PipeStage.vldClr, PipeStage.oVld, hvld, hsel]
  rw [itcmRamCs, SramCtrl.ramCs, hrdy, SramCtrl.bypIcbCmdValid, Bypbuf.oVld, hv, Bool.or_true]
  rfl

end
end ItcmCtrl

/-! ## The adapter wired to it -/

namespace Ift2icb

/-- The halfwords of the SRAM, which the region repeats. -/
def sramMem (m : BitVec 13 → BitVec 64) : Mem := fun a =>
  (m (a.extractLsb' 3 13)).extractLsb' (16 * (a.toNat / 2 % 4)) 16

theorem sramMem_base8 (m : BitVec 13 → BitVec 64) (a : BitVec 32) {k : ℕ} (hk : k < 4) :
    sramMem m (base8 a + BitVec.ofNat 32 (2 * k)) = (m (a.extractLsb' 3 13)).extractLsb' (16 * k) 16 := by
  have hbase : (base8 a).toNat = a.toNat / 8 * 8 := toNat_base8
  have hlt := a.isLt
  have haddr : (base8 a + BitVec.ofNat 32 (2 * k)).toNat = a.toNat / 8 * 8 + 2 * k := by
    rw [BitVec.toNat_add, BitVec.toNat_ofNat, hbase]
    omega
  have hlane : (base8 a + BitVec.ofNat 32 (2 * k)).extractLsb' 3 13 = a.extractLsb' 3 13 := by
    apply BitVec.eq_of_toNat_eq
    rw [BitVec.extractLsb'_toNat, BitVec.extractLsb'_toNat, Nat.shiftRight_eq_div_pow,
      Nat.shiftRight_eq_div_pow, haddr]
    simp only [Nat.reducePow]
    omega
  have hhalf : (a.toNat / 8 * 8 + 2 * k) / 2 % 4 = k := by omega
  rw [sramMem, hlane, haddr, hhalf]

theorem itcmLane_sramMem (m : BitVec 13 → BitVec 64) (a : BitVec 32) :
    itcmLane (sramMem m) a = m (a.extractLsb' 3 13) := by
  have h0 := sramMem_base8 m a (k := 0) (by decide)
  rw [Nat.mul_zero, BitVec.add_zero] at h0
  rw [itcmLane, h0, sramMem_base8 m a (k := 1) (by decide), sramMem_base8 m a (k := 2) (by decide),
    sramMem_base8 m a (k := 3) (by decide),
    BitVec.extractLsb'_append_extractLsb'_eq_extractLsb' (by rfl),
    BitVec.extractLsb'_append_extractLsb'_eq_extractLsb' (by rfl),
    BitVec.extractLsb'_append_extractLsb'_eq_extractLsb' (by rfl)]
  exact BitVec.extractLsb'_eq_self

/-- The command that the fetch unit gives to the ITCM (`e203_cpu.v` ties all but the address). -/
def itcmCmd (a : BitVec 32) : IcbCmd 16 8 := ⟨true, a.extractLsb' 0 16, 0#64, 0#8⟩

/-- The lane that it reads. -/
theorem lane_itcmCmd {a : BitVec 32} : (itcmCmd a).addr.extractLsb' 3 13 = a.extractLsb' 3 13 := by
  rw [itcmCmd, BitVec.extractLsb'_extractLsb'_of_le (by decide)]

/-- The ITCM port of the adapter and that of the controller are connected. -/
structure Wired (i : In) (s : State) (ci : ItcmCtrl.In) (c : ItcmCtrl.State) : Prop where
  cmdValid : ci.ifu2itcm.cmdValid = ifu2itcmIcbCmdValid s i
  cmd : ci.ifu2itcm.cmd = itcmCmd (ifuIcbCmdAddr s i)
  rspReady : ci.ifu2itcm.rspReady = ifu2itcmIcbRspReady s
  cmdReady : i.ifu2itcmIcbCmdReady = ItcmCtrl.ifu2itcmIcbCmdReady c ci
  rspValid : i.ifu2itcmIcbRspValid = ItcmCtrl.ifu2itcmIcbRspValid c
  rdata : i.ifu2itcmIcbRspRdata = ItcmCtrl.sramIcbRspRdata c
  holdup : i.ifu2itcmHoldup = ItcmCtrl.ifu2itcmHoldup c

/-- A run of the adapter with the controller, both from reset; the other ports are free. -/
structure ItcmRun (region : BitVec 32) (inp : ℕ → In) (ad : ℕ → Sys) (cin : ℕ → ItcmCtrl.In)
    (c₀ : ItcmCtrl.State) : Prop where
  next : ∀ t, ad (t + 1) = Sys.step (inp t) (ad t)
  ctl : ∀ t, Ctl region (ad t)
  proto : ∀ t, Proto region (inp t) (ad t)
  cmd : (ad 0).cmd = none
  keep : (ad 0).keep = false
  reset : ItcmCtrl.IsReset c₀
  wired : ∀ t, Wired (inp t) (ad t).ift (cin t) (ItcmCtrl.st cin c₀ t)

/-- The read that the adapter waits for, if the ITCM has it. -/
def pendingRead (region : BitVec 32) : Option (BitVec 32) → List Tcm.Cmd
  | some a => if inItcm region a then [.ifu (itcmCmd a)] else []
  | none => []

section
variable {region : BitVec 32} {s : Sys} {i : In}

/-- A read is given when none is outstanding, or together with the response to it. -/
theorem Ctl.free_of_cmdValid (h : Ctl region s) (hp : Proto region i s)
    (hv : ifuIcbCmdValid s.ift i = true) : s.cmd = none ∨ memRspHsked s.ift i = true := by
  rw [ifuIcbCmdValid, Bool.or_eq_true] at hv
  obtain hreq | hsecond := hv
  · have hcondi : ifuReqReadyCondi s.ift i = true := by
      have hpos : ifuReqValidPos s.ift i = true := ((Bool.and_eq_true _ _).mp hreq).1
      exact ((Bool.and_eq_true _ _).mp hpos).2
    have hturn := h.turn_of_condi hp hcondi
    by_cases hcmd : s.cmd = none
    · exact .inl hcmd
    · obtain ⟨hbusy, hmem⟩ := hturn.mem h hcmd
      right
      rw [h.memRspHsked_eq hp, ifuIcbRspHsked, hmem, hturn.ready hbusy]
      rfl
  · rw [Bool.and_eq_true, Bool.or_eq_true, Bool.and_eq_true] at hsecond
    obtain ⟨-, ⟨-, hrsp⟩ | hwait⟩ := hsecond
    · right
      rw [h.memRspHsked_eq hp]
      exact hrsp
    · left
      have hsta : s.ift.icbStateR = .wait2nd := by simpa [icbStaIsWait2nd] using hwait
      have hst := h.state
      unfold Sys.StateOk at hst
      rw [hsta] at hst
      exact hst.2.2.1

/-- A read of the ITCM is accepted. -/
def readsItcm (s : State) (i : In) : Bool := ifuIcbCmdHsked s i && ifuIcbCmd2itcm s i

theorem readsItcm_eq : readsItcm s.ift i = (ifu2itcmIcbCmdValid s.ift i && i.ifu2itcmIcbCmdReady) := by
  rw [readsItcm, ifuIcbCmdHsked, ifu2itcmIcbCmdValid, ifuIcbCmdReady, ifuIcbCmd2biu]
  cases ifuIcbCmd2itcm s.ift i <;> cases ifuIcbCmdValid s.ift i <;> simp

end

namespace ItcmRun
section
variable {region : BitVec 32} {inp : ℕ → In} {ad : ℕ → Sys} {cin : ℕ → ItcmCtrl.In}
  {c₀ : ItcmCtrl.State} {t : ℕ} {a : BitVec 32}

/-! ### What is pending -/

theorem filter_entering (h : ItcmRun region inp ad cin c₀) (t : ℕ) :
    (ItcmCtrl.entering (ItcmCtrl.st cin c₀ t) (cin t)).filter ItcmCtrl.isIfu =
      if readsItcm (ad t).ift (inp t) then [.ifu (itcmCmd (ifuIcbCmdAddr (ad t).ift (inp t)))]
      else [] := by
  have hw := h.wired t
  rw [ItcmCtrl.filter_entering, ItcmCtrl.ifuCmds, hw.cmdValid, ← hw.cmdReady, ← readsItcm_eq, hw.cmd]
  cases readsItcm (ad t).ift (inp t) <;> rfl

/-- The controller has a response for the adapter, and the adapter takes it. -/
theorem length_leaving (h : ItcmRun region inp ad cin c₀) (t : ℕ) :
    ((ItcmCtrl.leaving (cin t) (ItcmCtrl.pendAt cin c₀ t)).filter ItcmCtrl.isIfu).length =
      ((inp t).ifu2itcmIcbRspValid && ifuIcbRspReady (ad t).ift).toNat := by
  have hw := h.wired t
  obtain ⟨m, hp⟩ := ItcmCtrl.pending_at cin h.reset t
  have hready : (cin t).ifu2itcm.rspReady = ifuIcbRspReady (ad t).ift := hw.rspReady
  rw [← hp.length_ifuRsps, ItcmCtrl.ifuRsps, ← hw.rspValid, hready]
  cases (inp t).ifu2itcmIcbRspValid && ifuIcbRspReady (ad t).ift <;> rfl

/-- What is left of the commands of the fetch unit, when the read that the adapter waits for is the
pending one. -/
theorem filter_left (h : ItcmRun region inp ad cin c₀)
    (hpend : (ItcmCtrl.pendAt cin c₀ t).filter ItcmCtrl.isIfu = pendingRead region (ad t).cmd) :
    (ItcmCtrl.left (cin t) (ItcmCtrl.pendAt cin c₀ t)).filter ItcmCtrl.isIfu =
      if memRspHsked (ad t).ift (inp t) then [] else pendingRead region (ad t).cmd := by
  have hsplit := ItcmCtrl.filter_leaving (cin t) (ItcmCtrl.pendAt cin c₀ t)
  have hlen := h.length_leaving t
  rw [hpend] at hsplit
  cases hrsp : memRspHsked (ad t).ift (inp t)
  case false =>
    have hnone : ((inp t).ifu2itcmIcbRspValid && ifuIcbRspReady (ad t).ift) = false := by
      rw [memRspHsked] at hrsp
      cases hv : (inp t).ifu2itcmIcbRspValid
      · rfl
      · simpa [hv] using hrsp
    rw [hnone] at hlen
    rw [List.length_eq_zero_iff.mp hlen, List.nil_append] at hsplit
    exact hsplit
  case true =>
    rw [memRspHsked, Bool.and_eq_true, Bool.or_eq_true] at hrsp
    obtain ⟨hitcm | hbiu, hready⟩ := hrsp
    · obtain ⟨a, ha, hin⟩ := (h.proto t).itcmRsp hitcm
      rw [hitcm, hready] at hlen
      have hone : (pendingRead region (ad t).cmd).length = 1 := by rw [ha, pendingRead, hin]; rfl
      have hsum := congrArg List.length hsplit
      rw [List.length_append, hlen, hone] at hsum
      exact List.length_eq_zero_iff.mp (by simpa using hsum)
    · obtain ⟨a, ha, hin⟩ := (h.proto t).biuRsp hbiu
      rw [ha, pendingRead, hin] at hsplit
      exact (List.append_eq_nil_iff.mp hsplit).2

/-- The pending command of the fetch unit is the read that the adapter waits for. -/
theorem pending (h : ItcmRun region inp ad cin c₀) (t : ℕ) :
    (ItcmCtrl.pendAt cin c₀ t).filter ItcmCtrl.isIfu = pendingRead region (ad t).cmd := by
  induction t with
  | zero =>
    rw [h.cmd]
    rfl
  | succ t ih =>
    have hreg := (h.proto t).regionEq
    have hitcm : ifuIcbCmd2itcm (ad t).ift (inp t) =
        inItcm region (ifuIcbCmdAddr (ad t).ift (inp t)) := by rw [ifuIcbCmd2itcm, hreg]
    rw [ItcmCtrl.pendAt, List.filter_append, h.filter_left ih, h.filter_entering, h.next, Sys.step,
      readsItcm, hitcm]
    cases hcmd : ifuIcbCmdHsked (ad t).ift (inp t)
    case false =>
      rw [Bool.false_and, if_neg Bool.false_ne_true, List.append_nil, if_neg Bool.false_ne_true]
      cases memRspHsked (ad t).ift (inp t) <;> rfl
    case true =>
      have hold : (if memRspHsked (ad t).ift (inp t) then [] else pendingRead region (ad t).cmd) =
          ([] : List Tcm.Cmd) := by
        obtain hnone | hrsp := (h.ctl t).free_of_cmdValid (h.proto t)
          ((Bool.and_eq_true _ _).mp hcmd).1
        · rw [hnone]
          cases memRspHsked (ad t).ift (inp t) <;> rfl
        · rw [hrsp, if_pos rfl]
      rw [hold, List.nil_append, if_pos rfl, Bool.true_and]
      rfl

/-- The adapter is what the controller expects of the fetch unit. -/
theorem fetchSide (h : ItcmRun region inp ad cin c₀) : ItcmCtrl.FetchSide cin c₀ where
  reads t _ := by rw [(h.wired t).cmd]; rfl
  accepts t hv := by
    have hw := h.wired t
    obtain ⟨a, ha, -⟩ := (h.proto t).itcmRsp (hw.rspValid.trans hv)
    rw [hw.rspReady]
    exact (h.ctl t).rspReady_of_cmd (by rw [ha]; exact Option.some_ne_none a)
  one t hv := by
    have hw := h.wired t
    obtain ⟨m, hp⟩ := ItcmCtrl.pending_at cin h.reset t
    have hvalid : ifuIcbCmdValid (ad t).ift (inp t) = true := by
      rw [hw.cmdValid] at hv
      exact ((Bool.and_eq_true _ _).mp hv).1
    have hleft : (ItcmCtrl.left (cin t) (ItcmCtrl.pendAt cin c₀ t)).filter ItcmCtrl.isIfu = [] := by
      rw [h.filter_left (h.pending t)]
      obtain hnone | hrsp := (h.ctl t).free_of_cmdValid (h.proto t) hvalid
      · rw [hnone]
        cases memRspHsked (ad t).ift (inp t) <;> rfl
      · rw [hrsp, if_pos rfl]
    have hsplit := ItcmCtrl.filter_leaving (cin t) (ItcmCtrl.pendAt cin c₀ t)
    rw [hleft, List.append_nil] at hsplit
    rw [ItcmCtrl.ifu_count cin h.reset t, Lib.emitted_succ (Nat.zero_le t), List.length_append,
      hp.length_ifuRsps, hsplit]

/-! ### The held lane -/

/-- The flag stays up while the port is ready and not used. -/
theorem holdup_of_keep (h : ItcmRun region inp ad cin c₀) (hkeep : (ad t).keep = true) :
    (inp t).ifu2itcmHoldup = true := by
  cases t with
  | zero =>
    rw [h.keep] at hkeep
    cases hkeep
  | succ t =>
    have hw := h.wired t
    rw [h.next] at hkeep
    simp only [Sys.step, Bool.and_eq_true, Bool.not_eq_true'] at hkeep
    obtain ⟨⟨hup, hready⟩, hno⟩ := hkeep
    rw [(h.wired (t + 1)).holdup]
    exact ItcmCtrl.holdup_kept (hw.holdup.symm.trans hup) (hw.cmdReady.symm.trans hready)
      (hw.cmdValid.trans hno)

/-- In cycle `u` the lane around `a` was read for the fetch unit, and it is what the SRAM presents; the
fetch unit has read nothing else there since. -/
structure HeldAt (region : BitVec 32) (inp : ℕ → In) (ad : ℕ → Sys) (cin : ℕ → ItcmCtrl.In)
    (c₀ : ItcmCtrl.State) (t u : ℕ) (a : BitVec 32) : Prop where
  lt : u < t
  read : readsItcm (ad u).ift (inp u) = true
  held : (ad t).held = some a
  itcm : inItcm region a = true
  addr : (ItcmCtrl.st cin c₀ t).sram.ram.addrR = a.extractLsb' 3 13
  mem : (ItcmCtrl.st cin c₀ t).sram.ram.memR = (ItcmCtrl.st cin c₀ u).sram.ram.memR
  none : ∀ v, u < v → v < t → readsItcm (ad v).ift (inp v) = false
  stage : (ItcmCtrl.st cin c₀ t).sram.e1.vldR = true → (ItcmCtrl.st cin c₀ t).sram.e1.datR.ifu = true

/-- A read of the fetch unit that accesses the SRAM. -/
theorem heldAt_of_read (h : ItcmRun region inp ad cin c₀)
    (hcs : ItcmCtrl.itcmRamCs (ItcmCtrl.st cin c₀ t) (cin t) = true)
    (hup : ItcmCtrl.sramIcbCmdIfu (ItcmCtrl.st cin c₀ t) (cin t) = true) :
    HeldAt region inp ad cin c₀ (t + 1) t (ifuIcbCmdAddr (ad t).ift (inp t)) := by
  have hw := h.wired t
  obtain ⟨hsel, hvalid⟩ := (Bool.and_eq_true _ _).mp hup
  have hno : ItcmCtrl.arbtIcbCmdValid (ItcmCtrl.st cin c₀ t) (cin t) = false := by
    rw [ItcmCtrl.sramReady2ifu] at hsel
    simpa using hsel
  have hbyp := h.fetchSide.byp_empty h.reset hvalid
  have hcmd : SramCtrl.bypIcbCmd (ItcmCtrl.st cin c₀ t).sram
      (ItcmCtrl.sramIcbCmd (ItcmCtrl.st cin c₀ t) (cin t)) =
        ⟨itcmCmd (ifuIcbCmdAddr (ad t).ift (inp t)), ⟨true, true⟩⟩ := by
    rw [SramCtrl.bypIcbCmd, Bypbuf.oDat, hbyp, if_neg Bool.false_ne_true,
      ItcmCtrl.sramIcbCmd_of_ifu hno hvalid, hw.cmd]
    rfl
  have hin := SramCtrl.inE1_of_ramCs
    (c := ItcmCtrl.sramIcbCmd (ItcmCtrl.st cin c₀ t) (cin t)) hcs
  rw [hcmd] at hin
  have hread : readsItcm (ad t).ift (inp t) = true := by
    rw [readsItcm_eq, ← hw.cmdValid, hvalid, hw.cmdReady, ItcmCtrl.ifu2itcmIcbCmdReady, hsel,
      ItcmCtrl.sramIcbCmdReady, SramCtrl.iIcbCmdReady, Bypbuf.iRdy, hbyp]
    rfl
  refine ⟨Nat.lt_succ_self t, hread, ?_, ?_, ?_, hin.mem, fun v hv1 hv2 => by omega, fun _ => ?_⟩
  · rw [h.next]
    exact if_pos hread
  · have hitcm := ((Bool.and_eq_true _ _).mp hread).2
    rw [ifuIcbCmd2itcm, (h.proto t).regionEq] at hitcm
    exact hitcm
  · refine (hin.addr rfl).trans ?_
    exact lane_itcmCmd
  · exact congrArg ItcmCtrl.Usr.ifu hin.usr

/-- A cycle without an access. -/
theorem HeldAt.next (h : ItcmRun region inp ad cin c₀) {u : ℕ}
    (hheld : HeldAt region inp ad cin c₀ t u a)
    (hcs : ItcmCtrl.itcmRamCs (ItcmCtrl.st cin c₀ t) (cin t) = false) :
    HeldAt region inp ad cin c₀ (t + 1) u a := by
  have hno : readsItcm (ad t).ift (inp t) = false := by
    by_contra hread
    rw [Bool.not_eq_false, readsItcm_eq, Bool.and_eq_true, ← (h.wired t).cmdValid] at hread
    rw [h.fetchSide.ramCs_of_cmd hread.1 hheld.stage] at hcs
    cases hcs
  obtain ⟨hram, he1⟩ := SramCtrl.step_of_not_ramCs
    (c := ItcmCtrl.sramIcbCmd (ItcmCtrl.st cin c₀ t) (cin t)) hcs
  refine ⟨Nat.lt_succ_of_lt hheld.lt, hheld.read, ?_, hheld.itcm, ?_, ?_, fun v hv1 hv2 => ?_,
    fun hvld => ?_⟩
  · rw [h.next]
    change (if readsItcm (ad t).ift (inp t) then _ else _) = _
    rw [hno]
    exact hheld.held
  · exact (congrArg SimRam.addrR hram).trans hheld.addr
  · exact (congrArg SimRam.memR hram).trans hheld.mem
  · obtain hlt | rfl := Nat.lt_succ_iff_lt_or_eq.mp hv2
    · exact hheld.none v hv1 hlt
    · exact hno
  · have he1' : (ItcmCtrl.st cin c₀ (t + 1)).sram.e1 = _ := he1
    rw [he1'] at hvld ⊢
    exact hheld.stage ((Bool.and_eq_true _ _).mp hvld).1

/-- While the flag is up, the SRAM presents the lane of the last read for the fetch unit. -/
theorem heldAt (h : ItcmRun region inp ad cin c₀) (t : ℕ) (hup : (inp t).ifu2itcmHoldup = true) :
    ∃ u a, HeldAt region inp ad cin c₀ t u a := by
  rw [(h.wired t).holdup] at hup
  induction t with
  | zero => exact absurd (h.reset.holdup.symm.trans hup) Bool.false_ne_true
  | succ t ih =>
    have hnxt : (if ItcmCtrl.itcmRamCs (ItcmCtrl.st cin c₀ t) (cin t) then
        ItcmCtrl.sramIcbCmdIfu (ItcmCtrl.st cin c₀ t) (cin t)
          else (ItcmCtrl.st cin c₀ t).ifuHoldupR) = true := ItcmCtrl.holdup_step.symm.trans hup
    cases hcs : ItcmCtrl.itcmRamCs (ItcmCtrl.st cin c₀ t) (cin t)
    · rw [hcs] at hnxt
      obtain ⟨u, a, hheld⟩ := ih hnxt
      exact ⟨u, a, hheld.next h hcs⟩
    · rw [hcs] at hnxt
      exact ⟨t, _, h.heldAt_of_read hcs hnxt⟩

theorem HeldAt.rdata (h : ItcmRun region inp ad cin c₀) {u : ℕ}
    (hheld : HeldAt region inp ad cin c₀ t u a) :
    (inp t).ifu2itcmIcbRspRdata = (ItcmCtrl.st cin c₀ u).sram.ram.memR (a.extractLsb' 3 13) := by
  rw [(h.wired t).rdata, ← hheld.mem, ← hheld.addr]
  rfl

/-- The response has what the SRAM holds then. -/
theorem rdata_of_rsp (h : ItcmRun region inp ad cin c₀) (hv : (inp t).ifu2itcmIcbRspValid = true)
    (hcmd : (ad t).cmd = some a) :
    (inp t).ifu2itcmIcbRspRdata = (ItcmCtrl.st cin c₀ t).sram.ram.memR (a.extractLsb' 3 13) := by
  have hw := h.wired t
  obtain ⟨m, hp⟩ := ItcmCtrl.pending_at cin h.reset t
  obtain ⟨a', ha', hin⟩ := (h.proto t).itcmRsp hv
  obtain rfl : a = a' := Option.some.inj (hcmd.symm.trans ha')
  have hpend := h.pending t
  rw [hcmd, pendingRead, hin, if_pos rfl] at hpend
  rw [hw.rspValid, ItcmCtrl.ifu2itcmIcbRspValid, Bool.and_eq_true] at hv
  -- the oldest command is of the fetch unit, so it is this one
  obtain hx | ⟨x, rest, hx⟩ : ItcmCtrl.pendAt cin c₀ t = [] ∨
      ∃ x rest, ItcmCtrl.pendAt cin c₀ t = x :: rest := by
    cases ItcmCtrl.pendAt cin c₀ t with
    | nil => exact .inl rfl
    | cons x rest => exact .inr ⟨x, rest, rfl⟩
  · rw [hx] at hpend
    cases hpend
  · rw [hx] at hp hpend
    have hifu : ItcmCtrl.isIfu x = true := by
      have husr := hp.rspIfu_eq.symm.trans hv.2
      cases x with
      | bus p c => cases husr
      | ifu d => rfl
    rw [List.filter_cons_of_pos hifu] at hpend
    obtain ⟨rfl, -⟩ := List.cons.inj hpend
    obtain ⟨mem, -, hsram⟩ := hp.sram
    have hin1 := SramCtrl.Holding.inE1 hsram
    rw [hw.rdata]
    have hmem : (ItcmCtrl.st cin c₀ t).sram.ram.memR = mem := hin1.mem
    rw [hmem]
    refine (hin1.rdata rfl).trans ?_
    congr 1
    exact lane_itcmCmd

/-! ### What the adapter is promised -/

/-- An SRAM that does not change has what `mem` has in the region. -/
def Stores (region : BitVec 32) (mem : Mem) (cin : ℕ → ItcmCtrl.In) (c₀ : ItcmCtrl.State) (t : ℕ) :
    Prop :=
  ∀ a, inItcm region a = true →
    (ItcmCtrl.st cin c₀ t).sram.ram.memR (a.extractLsb' 3 13) = itcmLane mem a

theorem stores_sramMem : Stores region (sramMem (ItcmCtrl.st cin c₀ t).sram.ram.memR) cin c₀ t :=
  fun a _ => (itcmLane_sramMem _ a).symm

/-- With the controller behind its ITCM port the adapter has the environment that it needs. -/
theorem env (h : ItcmRun region inp ad cin c₀) {mem : Mem}
    (hmem : ∀ t, Stores region mem cin c₀ t)
    (heven : (inp t).ifuReqValid = true → IsEven (inp t).ifuReqPc)
    (hseq : (inp t).ifuReqValid = true → (inp t).ifuReqSeq = true →
      (ad t).reqs.getLast? = some (inp t).ifuReqLastPc ∧
        (inp t).ifuReqPc = (inp t).ifuReqLastPc + if (inp t).ifuReqSeqRv32 then 4#32 else 2#32)
    (hlast : (ad t).reqs.length = (ad t).rsps.length + 1 →
      (ad t).reqs.getLast? = some (inp t).ifuReqLastPc)
    (hbiu : ∀ a, (inp t).ifu2biuIcbRspValid = true → (ad t).cmd = some a →
      (inp t).ifu2biuIcbRspRdata = biuLane mem a) : Env mem region (inp t) (ad t) := by
  have hheld : (inp t).ifu2itcmHoldup = true →
      ∃ a, (ad t).held = some a ∧ (inp t).ifu2itcmIcbRspRdata = itcmLane mem a := by
    intro hup
    obtain ⟨u, a, hlane⟩ := h.heldAt t hup
    exact ⟨a, hlane.held, (hlane.rdata h).trans (hmem u a hlane.itcm)⟩
  refine ⟨⟨h.proto t, heven, hseq, hlast, fun a hv hcmd => ?_, hbiu, hheld⟩, fun a hkeep ha => ?_⟩
  · obtain ⟨a', ha', hin⟩ := (h.proto t).itcmRsp hv
    obtain rfl : a = a' := Option.some.inj (hcmd.symm.trans ha')
    exact (h.rdata_of_rsp hv hcmd).trans (hmem t a hin)
  · obtain ⟨a', ha', hdata⟩ := hheld (h.holdup_of_keep hkeep)
    obtain rfl : a = a' := Option.some.inj (ha.symm.trans ha')
    exact hdata

end
end ItcmRun
end Ift2icb

/-! ## The fetch unit -/

namespace Ifu
section
variable {region : BitVec 32} {mem : ℕ → Ift2icb.Mem} {inp : ℕ → In} {s : Sys}
  {cin : ℕ → ItcmCtrl.In} {c₀ : ItcmCtrl.State}

/-- With the controller behind its ITCM port, and answers of the system memory that are not older than
their reads, the fetch unit has the memories that it needs. -/
theorem memories_of_itcm
    (h : Ift2icb.ItcmRun region (adapterAt inp s) (fun t => (run inp s t).adapter) cin c₀)
    (hmem : ∀ t, Ift2icb.ItcmRun.Stores region (mem t) cin c₀ t)
    (hbiu : ∀ t a, (run inp s t).adapter.cmd = some a → (inp t).ifu2biuIcbRspValid = true →
      ∃ v ≤ t, (∀ r < t, ∀ b, ReadAt inp s r b → r ≤ v) ∧
        (inp t).ifu2biuIcbRspRdata = Ift2icb.biuLane (mem v) a) (t : ℕ) :
    Memories mem region inp s t := by
  refine ⟨fun a hcmd hv => ?_, fun a ha hup => ?_⟩
  · rw [Bool.or_eq_true] at hv
    obtain hitcm | hsys := hv
    · obtain ⟨a', ha', hin⟩ := (h.proto t).itcmRsp hitcm
      obtain rfl : a = a' := Option.some.inj (hcmd.symm.trans ha')
      refine ⟨t, le_rfl, fun r hr _ _ => hr.le, fun _ => ?_, fun hout => ?_⟩
      · exact (h.rdata_of_rsp hitcm hcmd).trans (hmem t a hin)
      · rw [hin] at hout
        cases hout
    · obtain ⟨a', ha', hout⟩ := (h.proto t).biuRsp hsys
      obtain rfl : a = a' := Option.some.inj (hcmd.symm.trans ha')
      obtain ⟨v, hvt, hlast, hdata⟩ := hbiu t a hcmd hsys
      refine ⟨v, hvt, hlast, fun hin => ?_, fun _ => hdata⟩
      rw [hin] at hout
      cases hout
  · have hup' : (adapterAt inp s t).ifu2itcmHoldup = true := hup.elim id h.holdup_of_keep
    obtain ⟨u, a', hlane⟩ := h.heldAt t hup'
    obtain rfl : a = a' := Option.some.inj (ha.symm.trans hlane.held)
    refine ⟨u, hlane.lt.le, fun r hr b hread hin => ?_, ?_⟩
    · by_contra hlt
      have hno := hlane.none r (by omega) hr
      have hitcm : Ift2icb.ifuIcbCmd2itcm (run inp s r).adapter.ift (adapterAt inp s r) = true := by
        rw [Ift2icb.ifuIcbCmd2itcm, (h.proto r).regionEq, hread.2]
        exact hin
      rw [Ift2icb.readsItcm, hread.1, hitcm] at hno
      cases hno
    · exact (hlane.rdata h).trans (hmem u a hlane.itcm)

end
end Ifu
end E203
