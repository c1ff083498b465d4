import E203.Fetch.AdapterData

/-! # Bus errors in the fetch adapter

* `fault region reads a`: the last of the reads that returned the halfword at `a` returned an error.
* `mergedFault`: what the adapter reports for a fetch of 32 bits, the errors of both lanes.
* `Reading`: how far the outstanding fetch has come, with the errors so far; `Reading.rsp`: the response
  carries the merged error.
-/

namespace E203.Ift2icb
set_option autoImplicit false

/-! ## The errors of the reads -/

/-- A read at `b` returns the halfword at `a`. -/
def covers (region b a : BitVec 32) : Bool :=
  if inItcm region b then base8 b == base8 a else base4 b == base4 a

/-- Whether the halfword at `a` was returned with an error, by the last of the `reads` with it. -/
def fault (region : BitVec 32) (reads : List (BitVec 32 × Bool)) (a : BitVec 32) : Bool :=
  (reads.filter fun r => covers region r.1 a).getLast?.any Prod.snd

/-- The errors of the lane of `pc` and of the next one, if 32 bits at `pc` reach into it. -/
def mergedFault (region : BitVec 32) (reads : List (BitVec 32 × Bool)) (pc : BitVec 32) : Bool :=
  fault region reads pc || (cross region pc && fault region reads (pc + 2#32))

/-- The read that returns in a cycle, with its error. -/
def readRsp (region : BitVec 32) (i : In) (s : Sys) : List (BitVec 32 × Bool) :=
  if memRspHsked s.ift i then
    s.cmd.toList.map fun a =>
      (a, if inItcm region a then i.ifu2itcmIcbRspErr else i.ifu2biuIcbRspErr)
  else []

section
variable {region a b pc : BitVec 32} {reads : List (BitVec 32 × Bool)} {r : BitVec 32 × Bool}

theorem fault_snoc : fault region (reads ++ [r]) a =
    if covers region r.1 a then r.2 else fault region reads a := by
  rw [fault, List.filter_append]
  by_cases h : covers region r.1 a = true
  · simp [h]
  · simp [h, fault]

theorem base8_of_base4 (h : base4 a = base4 b) : base8 a = base8 b := by
  have hn : (base4 a).toNat = (base4 b).toNat := by rw [h]
  rw [toNat_base4, toNat_base4] at hn
  apply BitVec.eq_of_toNat_eq
  rw [toNat_base8, toNat_base8]
  omega

/-- The lane of an address is in the region of the address. -/
theorem inItcm_of_covers (h : covers region b a = true) : inItcm region b = inItcm region a := by
  rw [covers] at h
  split at h
  · exact inItcm_congr (eq_of_beq h)
  · exact inItcm_congr (base8_of_base4 (eq_of_beq h))

theorem covers_self : covers region a a = true := by
  rw [covers]
  split <;> exact beq_self_eq_true _

/-- Both halfwords of a fetch that does not cross are in one lane. -/
theorem base_of_uncrossed (heven : IsEven pc) (h : cross region pc = false) :
    base8 pc = base8 (pc + 2#32) ∧ (inItcm region pc = false → base4 pc = base4 (pc + 2#32)) := by
  have hcross := @cross_iff region pc
  have hlt := pc.isLt
  rw [h] at hcross
  unfold IsEven at heven
  have hnat : (pc + 2#32).toNat = (pc.toNat + 2) % 2 ^ 32 := by rw [BitVec.toNat_add]; rfl
  constructor
  · apply BitVec.eq_of_toNat_eq
    rw [toNat_base8, toNat_base8, hnat]
    cases hr : inItcm region pc <;> rw [hr] at hcross <;> simp at hcross <;> omega
  · intro hr
    apply BitVec.eq_of_toNat_eq
    rw [toNat_base4, toNat_base4, hnat]
    rw [hr] at hcross
    simp at hcross
    omega

theorem covers_of_uncrossed (heven : IsEven pc) (h : cross region pc = false) :
    covers region b (pc + 2#32) = covers region b pc := by
  obtain ⟨h8, h4⟩ := base_of_uncrossed heven h
  cases hr : inItcm region pc
  · rw [covers, covers, ← h8, ← h4 hr]
  · rw [covers, covers, ← h8]
    split
    · rfl
    · -- a read outside the ITCM returns neither
      rename_i hb
      have hno : ∀ x, inItcm region x = true → (base4 b == base4 x) = false := by
        intro x hx
        apply beq_false_of_ne
        intro heq
        rw [inItcm_congr (base8_of_base4 heq), hx] at hb
        exact hb rfl
      rw [hno pc hr, hno (pc + 2#32) ((inItcm_congr h8).symm.trans hr)]

theorem fault_of_uncrossed (heven : IsEven pc) (h : cross region pc = false) :
    fault region reads (pc + 2#32) = fault region reads pc := by
  simp only [fault, covers_of_uncrossed heven h]

/-- The second read of a crossing fetch does not return the first halfword. -/
theorem not_covers_of_crossed (heven : IsEven pc) (h : cross region pc = true) :
    covers region (pc + 2#32) pc = false := by
  have hlt := pc.isLt
  have hltr := region.isLt
  have hr1 := @inItcm_iff region pc
  have hr2 := @inItcm_iff region (pc + 2#32)
  rw [cross_iff] at h
  unfold IsEven at heven
  have hnat : (pc + 2#32).toNat = (pc.toNat + 2) % 2 ^ 32 := by rw [BitVec.toNat_add]; rfl
  have h8 : base8 (pc + 2#32) = base8 pc → (pc.toNat + 2) % 2 ^ 32 / 8 * 8 = pc.toNat / 8 * 8 := by
    intro heq
    rw [← hnat, ← toNat_base8, heq, toNat_base8]
  have h4 : base4 (pc + 2#32) = base4 pc → (pc.toNat + 2) % 2 ^ 32 / 4 * 4 = pc.toNat / 4 * 4 := by
    intro heq
    rw [← hnat, ← toNat_base4, heq, toNat_base4]
  rw [hnat] at hr2
  rw [covers]
  split
  · rename_i hin
    apply beq_false_of_ne
    intro heq
    have h8' := h8 heq
    rw [inItcm_congr heq] at hin
    rw [hin] at h
    simp at h
    omega
  · apply beq_false_of_ne
    intro heq
    have h4' := h4 heq
    obtain ⟨-, hoff⟩ | ⟨-, hoff⟩ := h <;> omega

end

/-! ## The outstanding fetch -/

/-- How far the fetch at `pc` has come, after the `reads`. -/
inductive Reading (region : BitVec 32) (s : Sys) (reads : List (BitVec 32 × Bool)) (pc : BitVec 32) :
    Prop
  /-- The response waits in the buffer. -/
  | buffered (sta : s.ift.icbStateR = .idle) (vld : s.ift.bypbuf.vld = true)
      (err : s.ift.bypbuf.dat.1 = mergedFault region reads pc)
  /-- The lane that the ITCM holds up is used again. -/
  | reuse (sta : s.ift.icbStateR = .first) (need2 : s.ift.reqNeed2uopR = false)
      (joined : s.ift.reqSameCrossHoldupR = false) (itcm : inItcm region pc = true)
      (uncrossed : cross region pc = false)
      (route : s.ift.icbCmd2itcmR = true ∧ s.ift.icbCmd2biuR = false)
      (need0 : s.ift.reqNeed0uopR = true)
  /-- One lane is read. -/
  | single (sta : s.ift.icbStateR = .first) (need2 : s.ift.reqNeed2uopR = false)
      (joined : s.ift.reqSameCrossHoldupR = false) (uncrossed : cross region pc = false)
      (cmd : s.cmd = some pc)
  /-- The low half came from the held lane, the next lane is read. -/
  | joined (sta : s.ift.icbStateR = .first) (need2 : s.ift.reqNeed2uopR = false)
      (joined : s.ift.reqSameCrossHoldupR = true) (itcm : inItcm region pc = true)
      (crossed : cross region pc = true) (cmd : s.cmd = some (pc + 2#32))
      (leftover : s.ift.leftoverErrR = false)
  /-- The first of two lanes is read. -/
  | firstHalf (sta : s.ift.icbStateR = .first) (need2 : s.ift.reqNeed2uopR = true)
      (crossed : cross region pc = true) (cmd : s.cmd = some pc)
  /-- The second read is not accepted yet. -/
  | waiting (sta : s.ift.icbStateR = .wait2nd) (crossed : cross region pc = true)
      (leftover : s.ift.leftoverErrR = fault region reads pc)
  /-- The second of two lanes is read. -/
  | secondHalf (sta : s.ift.icbStateR = .second) (crossed : cross region pc = true)
      (cmd : s.cmd = some (pc + 2#32)) (leftover : s.ift.leftoverErrR = fault region reads pc)

section
variable {region pc a : BitVec 32} {reads : List (BitVec 32 × Bool)} {s : Sys} {i : In}

/-! ### The read that returns -/

theorem readRsp_of_no_rsp (hc : Ctl region s) (hp : Proto region i s)
    (h : ifuIcbRspValid s.ift i = false) : readRsp region i s = [] := by
  rw [readRsp, hc.memRspHsked_eq hp, ifuIcbRspHsked, h, Bool.false_and, if_neg Bool.false_ne_true]

theorem readRsp_of_no_cmd (h : s.cmd = none) : readRsp region i s = [] := by
  rw [readRsp, h]
  exact ite_self _

/-- The error that the adapter sees is that of the read. -/
theorem readRsp_of_cmd (hc : Ctl region s) (hp : Proto region i s) (hcmd : s.cmd = some a)
    (h : ifuIcbRspValid s.ift i = true) :
    readRsp region i s = [(a, ifuIcbRspErr s.ift i)] := by
  have hready : ifuIcbRspReady s.ift = true := hc.rspReady_of_cmd (by simp [hcmd])
  obtain ⟨h1, h2⟩ := hc.route a hcmd
  rw [readRsp, hc.memRspHsked_eq hp, ifuIcbRspHsked, h, hready, hcmd, ifuIcbRspErr, h1, h2]
  cases hr : inItcm region a <;> simp [hr]

/-- The ITCM returns no errors. -/
theorem fault_of_itcm (hno : ∀ r ∈ reads, inItcm region r.1 = true → r.2 = false)
    (h : inItcm region a = true) : fault region reads a = false := by
  rw [fault]
  cases hlast : (reads.filter fun r => covers region r.1 a).getLast? with
  | none => rfl
  | some r =>
    obtain ⟨hmem, hcov⟩ := List.mem_filter.mp (List.mem_of_getLast? hlast)
    exact hno r hmem ((inItcm_of_covers hcov).trans h)

theorem no_itcm_error_step (hno : ∀ r ∈ reads, inItcm region r.1 = true → r.2 = false)
    (hitcm : i.ifu2itcmIcbRspErr = false) :
    ∀ r ∈ reads ++ readRsp region i s, inItcm region r.1 = true → r.2 = false := by
  intro r hr hin
  obtain hr | hr := List.mem_append.mp hr
  · exact hno r hr hin
  · rw [readRsp] at hr
    split at hr
    · obtain ⟨b, -, rfl⟩ := List.mem_map.mp hr
      exact (if_pos hin).trans hitcm
    · cases hr

/-! ### The response -/

theorem mergedFault_of_uncrossed (h : cross region pc = false) :
    mergedFault region reads pc = fault region reads pc := by
  rw [mergedFault, h, Bool.false_and, Bool.or_false]

/-- The response of a turn carries the merged errors of the reads, the last one included. -/
theorem Reading.rsp (h : Reading region s reads pc) (hc : Ctl region s) (hp : Proto region i s)
    (hitcm : i.ifu2itcmIcbRspErr = false)
    (hno : ∀ r ∈ reads, inItcm region r.1 = true → r.2 = false) (heven : IsEven pc)
    (ht : Turn s.ift i) :
    ifuRspErr s.ift i = mergedFault region (reads ++ readRsp region i s) pc := by
  have hdirect : s.ift.icbStateR ≠ .idle → ifuRspErr s.ift i = iIfuRspErr s.ift i := by
    intro hne
    have hvld : s.ift.bypbuf.vld = false := (ht.sta.resolve_left hne).2
    simp [ifuRspErr, Bypbuf.oDat, hvld]
  -- a read of the next lane, behind the leftover
  have hsecond : cross region pc = true → s.cmd = some (pc + 2#32) →
      rspInstrSelLeftover s.ift = true → s.ift.leftoverErrR = fault region reads pc →
      iIfuRspErr s.ift i = mergedFault region (reads ++ readRsp region i s) pc := by
    intro hcross hcmd hsel hleft
    have hread := readRsp_of_cmd hc hp hcmd (ht.mem hc (by simp [hcmd])).2
    rw [hread, mergedFault, fault_snoc, fault_snoc, not_covers_of_crossed heven hcross, covers_self,
      hcross, iIfuRspErr, rspInstrSelIcbRsp, hsel, hleft]
    simp [Bool.or_comm]
  cases h with
  | buffered sta vld err =>
    have hst := hc.state
    unfold Sys.StateOk at hst
    rw [sta] at hst
    rw [readRsp_of_no_cmd hst.1, List.append_nil, ← err]
    simp [ifuRspErr, Bypbuf.oDat, vld]
  | reuse sta need2 joined itcm uncrossed route need0 =>
    have hst := hc.state
    unfold Sys.StateOk at hst
    rw [sta] at hst
    rw [hdirect (by simp [sta]), readRsp_of_no_cmd (hst.2.2.1.mpr need0), List.append_nil,
      mergedFault_of_uncrossed uncrossed, fault_of_itcm hno itcm]
    simp [iIfuRspErr, rspInstrSelIcbRsp, rspInstrSelLeftover, joined, icbStaIs2nd, sta, ifuIcbRspErr,
      route, hitcm]
  | single sta need2 joined uncrossed cmd =>
    have hread := readRsp_of_cmd hc hp cmd (ht.mem hc (by simp [cmd])).2
    rw [hdirect (by simp [sta]), hread, mergedFault_of_uncrossed uncrossed, fault_snoc, covers_self]
    simp [iIfuRspErr, rspInstrSelIcbRsp, rspInstrSelLeftover, joined, icbStaIs2nd, sta]
  | joined sta need2 joined itcm crossed cmd leftover =>
    rw [hdirect (by simp [sta])]
    refine hsecond crossed cmd ?_ (leftover.trans (fault_of_itcm hno itcm).symm)
    simp [rspInstrSelLeftover, joined, icbStaIs1st, sta]
  | firstHalf sta need2 crossed cmd => exact absurd (ht.sta'.2 sta) (by simp [need2])
  | waiting sta crossed leftover => exact absurd sta ht.sta'.1
  | secondHalf sta crossed cmd leftover =>
    rw [hdirect (by simp [sta])]
    refine hsecond crossed cmd ?_ leftover
    simp [rspInstrSelLeftover, icbStaIs2nd, sta]

/-! ### Every cycle -/

theorem Begins.reading (h : Begins region i s) :
    Reading region (Sys.step i s) reads i.ifuReqPc := by
  cases h with
  | reuse sta need2 joined uncrossed addr route keep need0 held up =>
    exact .reuse sta need2 joined up.itcm uncrossed route need0
  | single sta need2 joined uncrossed addr cmd => exact .single sta need2 joined uncrossed cmd
  | joined sta need2 joined crossed cmd leftover err up =>
    exact .joined sta need2 joined up.itcm crossed cmd err
  | firstHalf sta need2 crossed cmd => exact .firstHalf sta need2 crossed cmd

theorem Reading.step_stall (h : Reading region s reads pc) (hs : Stall s.ift i) (hc : Ctl region s)
    (hp : Proto region i s) : Reading region (Sys.step i s) (reads ++ readRsp region i s) pc := by
  have hift := hs.step_ift
  have hcmd := hs.step_cmd hc hp
  rw [readRsp_of_no_rsp hc hp hs.mem, List.append_nil]
  cases h with
  | buffered sta vld err => exact absurd (hs.buf.symm.trans vld) (by simp)
  | reuse sta need2 joined itcm uncrossed route need0 =>
    exact .reuse (by rwa [hift]) (by rwa [hift]) (by rwa [hift]) itcm uncrossed (by rwa [hift])
      (by rwa [hift])
  | single sta need2 joined uncrossed cmd =>
    exact .single (by rwa [hift]) (by rwa [hift]) (by rwa [hift]) uncrossed (by rwa [hcmd])
  | joined sta need2 joined itcm crossed cmd leftover =>
    exact .joined (by rwa [hift]) (by rwa [hift]) (by rwa [hift]) itcm crossed (by rwa [hcmd])
      (by rwa [hift])
  | firstHalf sta need2 crossed cmd =>
    exact .firstHalf (by rwa [hift]) (by rwa [hift]) crossed (by rwa [hcmd])
  | waiting sta crossed leftover => exact .waiting (by rwa [hift]) crossed (by rwa [hift])
  | secondHalf sta crossed cmd leftover =>
    exact .secondHalf (by rwa [hift]) crossed (by rwa [hcmd]) (by rwa [hift])

theorem Reading.step_firstRsp (h : Reading region s reads pc) (hf : FirstRsp s.ift i)
    (hc : Ctl region s) (hp : Proto region i s) (hpc : i.ifuReqLastPc = pc)
    (hlane : LastLane region s pc) :
    LastLane region (Sys.step i s) pc ∧
      Reading region (Sys.step i s) (reads ++ readRsp region i s) pc := by
  have hsta : (Sys.step i s).ift.icbStateR = _ := hf.state
  have hstep := hf.step_cmd hc hp
  have haddr := hf.addr hpc
  cases h with
  | firstHalf _ _ crossed cmd =>
    have hleft : (Sys.step i s).ift.leftoverErrR = fault region (reads ++ readRsp region i s) pc := by
      rw [readRsp_of_cmd hc hp cmd hf.mem, fault_snoc, covers_self, if_pos rfl, hf.leftover.2]
      simp [leftoverErrNxt, uop1st2leftoverSel, ifuIcbRsp2leftover, hf.need2uop, icbStaIs1st, hf.sta]
    refine ⟨hlane.step_firstRsp hf hp haddr crossed, ?_⟩
    cases hready : ifuIcbCmdReady s.ift i
    · simp only [hready, Bool.false_eq_true, if_false] at hsta
      exact .waiting hsta crossed hleft
    · simp only [hready, if_true] at hsta hstep
      rw [haddr] at hstep
      exact .secondHalf hsta crossed hstep hleft
  | buffered sta => exact absurd (hf.sta.symm.trans sta) (by simp)
  | reuse _ need2 | single _ need2 | joined _ need2 =>
    exact absurd (hf.need2uop.symm.trans need2) (by simp)
  | waiting sta | secondHalf sta => exact absurd (hf.sta.symm.trans sta) (by simp)

theorem Reading.step_secondCmd (h : Reading region s reads pc) (hw : SecondCmd s.ift i)
    (hc : Ctl region s) (hp : Proto region i s) (hpc : i.ifuReqLastPc = pc)
    (hlane : LastLane region s pc) :
    LastLane region (Sys.step i s) pc ∧
      Reading region (Sys.step i s) (reads ++ readRsp region i s) pc := by
  have haddr := hw.addr hc hpc
  rw [readRsp_of_no_rsp hc hp hw.mem, List.append_nil]
  cases h with
  | waiting _ crossed leftover =>
    refine ⟨hlane.step_of_second hp hw.cmd hw.req haddr crossed, .secondHalf hw.state crossed ?_
      (hw.leftover.2.trans leftover)⟩
    rw [hw.step_cmd, haddr]
  | buffered sta | reuse sta | single sta | joined sta | firstHalf sta | secondHalf sta =>
    exact absurd (hw.sta.symm.trans sta) (by simp)

/-- A response that is not taken waits with its error. -/
theorem Reading.step_turn (h : Reading region s reads pc) (ht : Turn s.ift i) (hc : Ctl region s)
    (hp : Proto region i s) (hitcm : i.ifu2itcmIcbRspErr = false)
    (hno : ∀ r ∈ reads, inItcm region r.1 = true → r.2 = false) (heven : IsEven pc)
    (hq : ifuReqHsked s.ift i = false) (hv : ifuRspValid s.ift i = true)
    (hr : ifuRspHsked s.ift i = false) :
    Reading region (Sys.step i s) (reads ++ readRsp region i s) pc := by
  have herr := h.rsp hc hp hitcm hno heven ht
  have hready : i.ifuRspReady = false := by
    rw [ifuRspHsked, hv, Bool.true_and] at hr
    exact hr
  have hvld : (Sys.step i s).ift.bypbuf.vld = true := by
    refine ht.step_bypbuf.trans ?_
    rw [hv, hready]
    rfl
  refine .buffered (ht.state.trans (if_neg (by simp [hq]))) hvld ?_
  have hdat : (Sys.step i s).ift.bypbuf.dat =
      s.ift.bypbuf.oDat (iIfuRspErr s.ift i, iIfuRspInstr s.ift i) := Bypbuf.step_dat ht.buf hvld
  rw [hdat]
  exact herr

end
end E203.Ift2icb
