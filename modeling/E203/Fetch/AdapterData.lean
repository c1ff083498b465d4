import E203.Fetch.Adapter

/-! # The fetch adapter returns the right instruction

* `Returning`: the protocol, the hints of the requests, and what the memories return; `Env`: and a lane
  that is held up stays while the port of the ITCM is free and not used.
* `Stage`: how far the outstanding fetch has come; `LastLane`: what the ITCM presents after it.
* `Data.step`: every cycle keeps both; `responses_correct`: exactly one response for each request,
  in order, with the 32 bits of memory at its PC.
-/

namespace E203.Ift2icb
set_option autoImplicit false

/-- The address of the last read of a fetch at `pc`. -/
def fetchEnd (region pc : BitVec 32) : BitVec 32 := if cross region pc then pc + 2#32 else pc

/-- The protocol of the channels, requests with consistent hints, and memories that return the lanes
they are asked for. -/
structure Returning (mem : Mem) (region : BitVec 32) (i : In) (s : Sys) : Prop
    extends Proto region i s where
  even : i.ifuReqValid = true → IsEven i.ifuReqPc
  /-- A sequential request follows the last one. -/
  seq : i.ifuReqValid = true → i.ifuReqSeq = true →
    s.reqs.getLast? = some i.ifuReqLastPc ∧
      i.ifuReqPc = i.ifuReqLastPc + if i.ifuReqSeqRv32 then 4#32 else 2#32
  /-- While a fetch is outstanding, its PC is the last PC. -/
  last : s.reqs.length = s.rsps.length + 1 → s.reqs.getLast? = some i.ifuReqLastPc
  itcmData : ∀ a, i.ifu2itcmIcbRspValid = true → s.cmd = some a →
    i.ifu2itcmIcbRspRdata = itcmLane mem a
  biuData : ∀ a, i.ifu2biuIcbRspValid = true → s.cmd = some a →
    i.ifu2biuIcbRspRdata = biuLane mem a
  /-- The ITCM presents the lane that was read last. -/
  holdup : i.ifu2itcmHoldup = true →
    ∃ a, s.held = some a ∧ i.ifu2itcmIcbRspRdata = itcmLane mem a

/-- The environment: no other agent uses the ITCM in a cycle in which its port is free for the fetch, so
that a lane it held up then is still presented in the next cycle. -/
structure Env (mem : Mem) (region : BitVec 32) (i : In) (s : Sys) : Prop
    extends Returning mem region i s where
  keep : ∀ a, s.keep = true → s.held = some a → i.ifu2itcmIcbRspRdata = itcmLane mem a

/-- The lane around `a`, as the memory of `a` returns it. -/
structure Returns (mem : Mem) (region : BitVec 32) (i : In) (a : BitVec 32) : Prop where
  itcm : inItcm region a = true → i.ifu2itcmIcbRspRdata = itcmLane mem a
  biu : inItcm region a = false → i.ifu2biuIcbRspRdata = biuLane mem a

/-- How far the fetch at `pc` has come. -/
inductive Stage (mem : Mem) (region : BitVec 32) (s : Sys) (pc : BitVec 32) : Prop
  /-- The response waits in the buffer. -/
  | buffered (sta : s.ift.icbStateR = .idle) (vld : s.ift.bypbuf.vld = true)
      (dat : s.ift.bypbuf.dat.2 = word mem pc)
  /-- The lane that the ITCM holds up is used again. -/
  | reuse (sta : s.ift.icbStateR = .first) (need2 : s.ift.reqNeed2uopR = false)
      (joined : s.ift.reqSameCrossHoldupR = false) (itcm : inItcm region pc = true)
      (uncrossed : cross region pc = false) (addr : s.ift.icbCmdAddr21R = pc.extractLsb' 1 2)
      (route : s.ift.icbCmd2itcmR = true ∧ s.ift.icbCmd2biuR = false)
      (keep : s.keep = true) (need0 : s.ift.reqNeed0uopR = true)
      (held : ∃ a, s.held = some a ∧ base8 a = base8 pc)
  /-- One lane is read. -/
  | single (sta : s.ift.icbStateR = .first) (need2 : s.ift.reqNeed2uopR = false)
      (joined : s.ift.reqSameCrossHoldupR = false) (uncrossed : cross region pc = false)
      (addr : s.ift.icbCmdAddr21R = pc.extractLsb' 1 2) (cmd : s.cmd = some pc)
  /-- The low half came from the held lane, the next lane is read. -/
  | joined (sta : s.ift.icbStateR = .first) (need2 : s.ift.reqNeed2uopR = false)
      (joined : s.ift.reqSameCrossHoldupR = true) (crossed : cross region pc = true)
      (cmd : s.cmd = some (pc + 2#32)) (leftover : s.ift.leftoverR = mem pc)
  /-- The first of two lanes is read. -/
  | firstHalf (sta : s.ift.icbStateR = .first) (need2 : s.ift.reqNeed2uopR = true)
      (crossed : cross region pc = true) (cmd : s.cmd = some pc)
  /-- The second read is not accepted yet. -/
  | waiting (sta : s.ift.icbStateR = .wait2nd) (crossed : cross region pc = true)
      (leftover : s.ift.leftoverR = mem pc)
  /-- The second of two lanes is read. -/
  | secondHalf (sta : s.ift.icbStateR = .second) (crossed : cross region pc = true)
      (cmd : s.cmd = some (pc + 2#32)) (leftover : s.ift.leftoverR = mem pc)

/-- All reads of the last request have been issued. -/
def Issued (s : State) : Prop :=
  s.icbStateR ≠ .wait2nd ∧ (s.icbStateR = .first → s.reqNeed2uopR = false)

/-- What the last request, at `pc`, leaves behind for a sequential one. -/
structure LastLane (region : BitVec 32) (s : Sys) (pc : BitVec 32) : Prop where
  crossR : s.ift.reqLaneCrossR = cross region pc
  route : Issued s.ift → s.ift.icbCmd2itcmR = inItcm region (fetchEnd region pc) ∧
    s.ift.icbCmd2biuR = !inItcm region (fetchEnd region pc)
  held : Issued s.ift → inItcm region (fetchEnd region pc) = true →
    ∃ a, s.held = some a ∧ base8 a = base8 (fetchEnd region pc)

/-- Every request but the last has its response; the last one has it too, or is at some stage. -/
inductive Data (mem : Mem) (region : BitVec 32) (s : Sys) : Prop
  | empty (reqs : s.reqs = []) (rsps : s.rsps = []) (sta : s.ift.icbStateR = .idle)
      (vld : s.ift.bypbuf.vld = false)
  | last (done : List (BitVec 32)) (pc : BitVec 32) (reqs : s.reqs = done ++ [pc])
      (even : IsEven pc) (lane : LastLane region s pc)
      (rsps : s.rsps = (done ++ [pc]).map (word mem) ∨
        s.rsps = done.map (word mem) ∧ Stage mem region s pc)

section
variable {mem mem' : Mem} {region pc last : BitVec 32} {s : Sys} {i : In}

/-! ## Sequential requests -/

/-- A sequential request stays in the lane of the last read, unless it begins a lane that the last
request did not reach. -/
theorem base8_fetchEnd (heven : IsEven last) (hpc : pc = last + 4#32 ∨ pc = last + 2#32)
    (hin : inItcm region pc = true)
    (hbegin : pc.extractLsb' 1 2 = 0#2 → cross region last = true) :
    base8 (fetchEnd region last) = base8 pc := by
  have hlast := @inItcm_iff region last
  have hcross := @cross_iff region last
  have hltl := last.isLt
  have hltr := region.isLt
  have hnat : pc.toNat = (last.toNat + 4) % 2 ^ 32 ∨ pc.toNat = (last.toNat + 2) % 2 ^ 32 :=
    hpc.imp (fun h => by rw [h, BitVec.toNat_add]; rfl) (fun h => by rw [h, BitVec.toNat_add]; rfl)
  have hzero : (0#2 : BitVec 2).toNat = 0 := rfl
  rw [bits21_eq_iff, hzero] at hbegin
  rw [inItcm_iff] at hin
  unfold IsEven at heven
  apply BitVec.eq_of_toNat_eq
  rw [toNat_base8, toNat_base8, fetchEnd]
  cases hc : cross region last <;> rw [hc] at hcross hbegin
  · rw [if_neg Bool.false_ne_true]
    cases hr : inItcm region last <;> rw [hr] at hlast hcross <;> simp at hlast hcross hbegin <;>
      omega
  · rw [if_pos rfl, BitVec.toNat_add, BitVec.toNat_ofNat]
    cases hr : inItcm region last <;> rw [hr] at hlast hcross <;> simp at hlast hcross <;>
      omega

/-! ## Command addresses -/

theorem addr_of_sel2nd (h : icbAddrSel2ndnxtalgn s.ift = true) :
    ifuIcbCmdAddr s.ift i = i.ifuReqLastPc + 2#32 := by
  simp [ifuIcbCmdAddr, icbAddrSelCur, icbAlgnNxtLaneAddr, nxtalgnPlusOffset, h]

theorem Turn.addr (h : Turn s.ift i) :
    ifuIcbCmdAddr s.ift i =
      if reqSameCrossHoldup s.ift i then
        i.ifuReqLastPc + if i.ifuReqSeqRv32 then 6#32 else 4#32
      else i.ifuReqPc := by
  have hsel : icbAddrSel2ndnxtalgn s.ift = false := by
    obtain ⟨hw, hf⟩ := h.sta'
    cases hsta : s.ift.icbStateR <;>
      simp_all [icbAddrSel2ndnxtalgn, icbStaIs1st, icbStaIsWait2nd]
  cases hs : reqSameCrossHoldup s.ift i <;>
    simp [ifuIcbCmdAddr, icbAddrSel1stnxtalgn, holdup2leftoverSel, icbAddrSelCur,
      icbAlgnNxtLaneAddr, nxtalgnPlusOffset, hsel, hs]

/-! ## Responses -/

/-- Data of the outstanding read, from where it went. -/
theorem Ctl.returns (h : Ctl region s) (he : Env mem region i s) {a : BitVec 32}
    (hcmd : s.cmd = some a) (hv : ifuIcbRspValid s.ift i = true) : Returns mem region i a := by
  obtain ⟨h1, h2⟩ := h.route a hcmd
  refine ⟨fun hr => ?_, fun hr => ?_⟩
  · apply he.itcmData a _ hcmd
    simpa [ifuIcbRspValid, h1, h2, hr] using hv
  · apply he.biuData a _ hcmd
    simpa [ifuIcbRspValid, h1, h2, hr] using hv

/-- The halfword that goes into the leftover buffer from the lane of a crossing fetch. -/
theorem put2leftover_eq (heven : IsEven pc) (hcross : cross region pc = true)
    (hroute : s.ift.icbCmd2itcmR = inItcm region pc ∧ s.ift.icbCmd2biuR = !inItcm region pc)
    (hret : Returns mem region i pc) : put2leftoverData s.ift i = mem pc := by
  obtain ⟨hhi, hlo⟩ := @lane_high region mem pc heven hcross
  rw [put2leftoverData, hroute.1, hroute.2]
  cases hr : inItcm region pc
  · simp [hret.biu hr, hlo hr]
  · simp [hret.itcm hr, hhi hr]

theorem joined_word (heven : IsEven pc) (hcross : cross region pc = true)
    (hsel : rspInstrSelLeftover s.ift = true)
    (hroute : s.ift.icbCmd2itcmR = inItcm region (pc + 2#32) ∧
      s.ift.icbCmd2biuR = !inItcm region (pc + 2#32))
    (hret : Returns mem region i (pc + 2#32)) :
    iIfuRspInstr s.ift i = mem (pc + 2#32) ++ s.ift.leftoverR := by
  obtain ⟨h8, h4⟩ := @lane_low region mem pc heven hcross
  have hlsb : ifuIcbRspRdataLsb16 s.ift i = mem (pc + 2#32) := by
    rw [ifuIcbRspRdataLsb16, hroute.1, hroute.2]
    cases hr : inItcm region (pc + 2#32)
    · simp [hret.biu hr, h4 hr]
    · simp [hret.itcm hr, h8 hr]
  simp [iIfuRspInstr, rspInstrSelIcbRsp, hsel, hlsb]

theorem single_word (heven : IsEven pc) (hcross : cross region pc = false)
    (hsel : rspInstrSelLeftover s.ift = false)
    (haddr : s.ift.icbCmdAddr21R = pc.extractLsb' 1 2)
    (hroute : s.ift.icbCmd2itcmR = inItcm region pc ∧ s.ift.icbCmd2biuR = !inItcm region pc)
    (hret : Returns mem region i pc) : iIfuRspInstr s.ift i = word mem pc := by
  have hicb : ifuIcbRspInstr s.ift i = word mem pc := by
    rw [ifuIcbRspInstr, hroute.1, hroute.2]
    cases hr : inItcm region pc
    · have hbit : pc.getLsbD 1 = false := by simpa [cross, hr] using hcross
      rw [ifu2biuIcbRspInstr, hret.biu hr, biuLane_word heven hbit]
      simp
    · have hne : pc.extractLsb' 1 2 ≠ 0b11#2 := by simpa [cross, hr] using hcross
      obtain ⟨h0, h1, h2⟩ := @itcmLane_word mem pc heven
      rw [ifu2itcmIcbRspInstr, hret.itcm hr, haddr]
      have hcases : ∀ k : BitVec 2, k = 0b00#2 ∨ k = 0b01#2 ∨ k = 0b10#2 ∨ k = 0b11#2 := by
        decide
      obtain hk | hk | hk | hk := hcases (pc.extractLsb' 1 2)
      · rw [hk, h0 hk]
        simp
      · rw [hk, h1 hk]
        simp
      · rw [hk, h2 hk]
        simp
      · exact absurd hk hne
  simp [iIfuRspInstr, rspInstrSelIcbRsp, hsel, hicb]

/-- Where the instruction that a turn offers comes from: the buffer, one lane that is returned or held
up, or a lane behind the leftover. -/
inductive Answer (region : BitVec 32) (i : In) (s : Sys) (pc : BitVec 32) : Prop
  | buffered (vld : s.ift.bypbuf.vld = true) (dat : ifuRspInstr s.ift i = s.ift.bypbuf.dat.2)
  | single (uncrossed : cross region pc = false) (cmd : s.cmd = some pc)
      (rsp : ifuIcbRspValid s.ift i = true)
      (dat : ∀ mem, Returns mem region i pc → ifuRspInstr s.ift i = word mem pc)
  | reused (uncrossed : cross region pc = false) (itcm : inItcm region pc = true)
      (keep : s.keep = true) (held : ∃ a, s.held = some a ∧ base8 a = base8 pc)
      (dat : ∀ mem, Returns mem region i pc → ifuRspInstr s.ift i = word mem pc)
  | joined (sel : rspInstrSelLeftover s.ift = true) (cmd : s.cmd = some (pc + 2#32))
      (rsp : ifuIcbRspValid s.ift i = true)
      (dat : ∀ mem, Returns mem region i (pc + 2#32) →
        ifuRspInstr s.ift i = mem (pc + 2#32) ++ s.ift.leftoverR)

theorem Stage.answer (h : Stage mem region s pc) (hc : Ctl region s) (heven : IsEven pc)
    (ht : Turn s.ift i) : Answer region i s pc := by
  have hdirect : s.ift.icbStateR ≠ .idle → ifuRspInstr s.ift i = iIfuRspInstr s.ift i := by
    intro hne
    have hvld : s.ift.bypbuf.vld = false := (ht.sta.resolve_left hne).2
    simp [ifuRspInstr, Bypbuf.oDat, hvld]
  have hread : ∀ a, s.cmd = some a → ifuIcbRspValid s.ift i = true := fun a hcmd =>
    (ht.mem hc (by simp [hcmd])).2
  cases h with
  | buffered sta vld dat => exact .buffered vld (by simp [ifuRspInstr, Bypbuf.oDat, vld])
  | reuse sta need2 joined itcm uncrossed addr route keep need0 held =>
    refine .reused uncrossed itcm keep held fun m hret => ?_
    rw [hdirect (by simp [sta])]
    refine single_word heven uncrossed ?_ addr (by simp [route, itcm]) hret
    simp [rspInstrSelLeftover, joined, icbStaIs2nd, sta]
  | single sta need2 joined uncrossed addr cmd =>
    refine .single uncrossed cmd (hread _ cmd) fun m hret => ?_
    rw [hdirect (by simp [sta])]
    refine single_word heven uncrossed ?_ addr (hc.route _ cmd) hret
    simp [rspInstrSelLeftover, joined, icbStaIs2nd, sta]
  | joined sta need2 joined crossed cmd leftover =>
    have hsel : rspInstrSelLeftover s.ift = true := by
      simp [rspInstrSelLeftover, joined, icbStaIs1st, sta]
    refine .joined hsel cmd (hread _ cmd) fun m hret => ?_
    rw [hdirect (by simp [sta])]
    exact joined_word heven crossed hsel (hc.route _ cmd) hret
  | firstHalf sta need2 crossed cmd => exact absurd (ht.sta'.2 sta) (by simp [need2])
  | waiting sta crossed leftover => exact absurd sta ht.sta'.1
  | secondHalf sta crossed cmd leftover =>
    have hsel : rspInstrSelLeftover s.ift = true := by simp [rspInstrSelLeftover, icbStaIs2nd, sta]
    refine .joined hsel cmd (hread _ cmd) fun m hret => ?_
    rw [hdirect (by simp [sta])]
    exact joined_word heven crossed hsel (hc.route _ cmd) hret

theorem Stage.bypbuf_dat (h : Stage mem region s pc) (hc : Ctl region s)
    (hvld : s.ift.bypbuf.vld = true) : s.ift.bypbuf.dat.2 = word mem pc := by
  have hst := hc.state
  unfold Sys.StateOk at hst
  cases h with
  | buffered sta vld dat => exact dat
  | reuse sta | single sta | joined sta | firstHalf sta | waiting sta | secondHalf sta =>
    rw [sta] at hst
    exact absurd (hst.1.symm.trans hvld) Bool.false_ne_true

theorem Stage.leftoverR (h : Stage mem region s pc) (hissued : Issued s.ift)
    (hsel : rspInstrSelLeftover s.ift = true) : s.ift.leftoverR = mem pc := by
  cases h with
  | joined sta need2 joined crossed cmd leftover => exact leftover
  | waiting sta crossed leftover => exact leftover
  | secondHalf sta crossed cmd leftover => exact leftover
  | reuse sta need2 joined | single sta need2 joined =>
    simp [rspInstrSelLeftover, joined, icbStaIs2nd, sta] at hsel
  | buffered sta => simp [rspInstrSelLeftover, icbStaIs1st, icbStaIs2nd, sta] at hsel
  | firstHalf sta need2 => exact absurd (need2.symm.trans (hissued.2 sta)) (by simp)

theorem Stage.rsp (h : Stage mem region s pc) (hc : Ctl region s) (he : Env mem region i s)
    (heven : IsEven pc) (ht : Turn s.ift i) : ifuRspInstr s.ift i = word mem pc := by
  obtain ⟨vld, dat⟩ | ⟨-, cmd, rsp, dat⟩ | ⟨-, itcm, keep, held, dat⟩ | ⟨sel, cmd, rsp, dat⟩ :=
    h.answer hc heven ht
  · exact dat.trans (h.bypbuf_dat hc vld)
  · exact dat mem (hc.returns he cmd rsp)
  · obtain ⟨a, hheld, hbase⟩ := held
    refine dat mem ⟨fun _ => ?_, by simp [itcm]⟩
    rw [he.keep a keep hheld, itcmLane_congr hbase]
  · rw [dat mem (hc.returns he cmd rsp), h.leftoverR ht.sta' sel, word]

/-! ## A new request -/

/-- The leftover that a turn takes from a held lane has no error. -/
theorem Turn.leftoverErrNxt (h : Turn s.ift i) : leftoverErrNxt s.ift i = false := by
  have hsel : uop1st2leftoverSel s.ift = false := by
    cases hsta : icbStaIs1st s.ift
    · simp [uop1st2leftoverSel, ifuIcbRsp2leftover, hsta]
    · simp [uop1st2leftoverSel, ifuIcbRsp2leftover, h.sta'.2 (eq_of_beq hsta)]
  rw [Ift2icb.leftoverErrNxt, hsel, Bool.and_false, Bool.false_and]
  rfl

/-- The flags of a request that is accepted. -/
theorem Turn.accept (h : Turn s.ift i) (hq : ifuReqHsked s.ift i = true) :
    (Sys.step i s).ift.icbStateR = .first ∧
      (Sys.step i s).ift.reqSameCrossHoldupR = reqSameCrossHoldup s.ift i ∧
      (Sys.step i s).ift.reqNeed2uopR = reqNeed2uop s.ift i ∧
      (Sys.step i s).ift.reqNeed0uopR = reqNeed0uop s.ift i ∧
      (Sys.step i s).ift.reqLaneCrossR = ifuReqLaneCross i ∧
      (Sys.step i s).ift.icbCmdAddr21R = (ifuIcbCmdAddr s.ift i).extractLsb' 1 2 := by
  refine ⟨?_, ?_, ?_, ?_, ?_, ?_⟩
  · exact h.state.trans (by simp [hq])
  all_goals simp [Sys.step, Ift2icb.step, hq]

theorem ifuReqLaneCross_eq (hp : Proto region i s) :
    ifuReqLaneCross i = cross region i.ifuReqPc := by
  cases h : inItcm region i.ifuReqPc <;>
    simp [ifuReqLaneCross, cross, ifuReqPc2mem, ifuReqPc2itcm, hp.regionEq, h]

theorem ifuReqLaneBegin_of_itcm (hp : Proto region i s) (h : inItcm region i.ifuReqPc = true) :
    ifuReqLaneBegin i = (i.ifuReqPc.extractLsb' 1 2 == 0b00#2) := by
  simp [ifuReqLaneBegin, ifuReqPc2mem, ifuReqPc2itcm, hp.regionEq, h]

/-- The request finds its lane held up: the last fetch read that lane, from the ITCM. -/
structure HeldUp (region : BitVec 32) (i : In) (s : Sys) : Prop where
  itcm : inItcm region i.ifuReqPc = true
  up : i.ifu2itcmHoldup = true
  next : i.ifuReqPc + 2#32 = i.ifuReqLastPc + if i.ifuReqSeqRv32 then 6#32 else 4#32
  route : s.ift.icbCmd2itcmR = true ∧ s.ift.icbCmd2biuR = false
  held : ∃ a, s.held = some a ∧ base8 a = base8 i.ifuReqPc

theorem LastLane.heldUp (hlane : LastLane region s i.ifuReqLastPc) (hp : Proto region i s)
    (heven : IsEven i.ifuReqLastPc) (hissued : Issued s.ift)
    (hseq : i.ifuReqSeq = true →
      i.ifuReqPc = i.ifuReqLastPc + if i.ifuReqSeqRv32 then 4#32 else 2#32)
    (hsame : ifuReqLaneSame s.ift i = true) (hhold : ifuReqLaneHoldup i = true) :
    HeldUp region i s := by
  simp only [ifuReqLaneHoldup, ifuReqPc2itcm, hp.regionEq, Bool.and_eq_true] at hhold
  obtain ⟨⟨hin, hup⟩, -⟩ := hhold
  simp only [ifuReqLaneSame, Bool.and_eq_true] at hsame
  obtain ⟨hsq, hbegin⟩ := hsame
  have hpc := hseq hsq
  rw [ifuReqLaneBegin_of_itcm hp hin, hlane.crossR] at hbegin
  have hbase : base8 (fetchEnd region i.ifuReqLastPc) = base8 i.ifuReqPc := by
    apply base8_fetchEnd heven _ hin
    · intro h0
      simpa [h0] using hbegin
    · rw [hpc]
      cases i.ifuReqSeqRv32
      · exact .inr rfl
      · exact .inl rfl
  have hend : inItcm region (fetchEnd region i.ifuReqLastPc) = true := by
    rw [inItcm_congr hbase, hin]
  obtain ⟨a, ha, hab⟩ := hlane.held hissued hend
  refine ⟨hin, hup, ?_, by simpa [hend] using hlane.route hissued, a, ha, hab.trans hbase⟩
  rw [hpc, BitVec.add_assoc]
  cases i.ifuReqSeqRv32 <;> rfl

/-- How a fetch begins whose request is accepted, whatever the memories return. -/
inductive Begins (region : BitVec 32) (i : In) (s : Sys) : Prop
  | reuse (sta : (Sys.step i s).ift.icbStateR = .first)
      (need2 : (Sys.step i s).ift.reqNeed2uopR = false)
      (joined : (Sys.step i s).ift.reqSameCrossHoldupR = false)
      (uncrossed : cross region i.ifuReqPc = false)
      (addr : (Sys.step i s).ift.icbCmdAddr21R = i.ifuReqPc.extractLsb' 1 2)
      (route : (Sys.step i s).ift.icbCmd2itcmR = true ∧ (Sys.step i s).ift.icbCmd2biuR = false)
      (keep : (Sys.step i s).keep = true) (need0 : (Sys.step i s).ift.reqNeed0uopR = true)
      (held : (Sys.step i s).held = s.held) (up : HeldUp region i s)
  | single (sta : (Sys.step i s).ift.icbStateR = .first)
      (need2 : (Sys.step i s).ift.reqNeed2uopR = false)
      (joined : (Sys.step i s).ift.reqSameCrossHoldupR = false)
      (uncrossed : cross region i.ifuReqPc = false)
      (addr : (Sys.step i s).ift.icbCmdAddr21R = i.ifuReqPc.extractLsb' 1 2)
      (cmd : (Sys.step i s).cmd = some i.ifuReqPc)
  | joined (sta : (Sys.step i s).ift.icbStateR = .first)
      (need2 : (Sys.step i s).ift.reqNeed2uopR = false)
      (joined : (Sys.step i s).ift.reqSameCrossHoldupR = true)
      (crossed : cross region i.ifuReqPc = true)
      (cmd : (Sys.step i s).cmd = some (i.ifuReqPc + 2#32))
      (leftover : (Sys.step i s).ift.leftoverR = put2leftoverData s.ift i)
      (err : (Sys.step i s).ift.leftoverErrR = false) (up : HeldUp region i s)
  | firstHalf (sta : (Sys.step i s).ift.icbStateR = .first)
      (need2 : (Sys.step i s).ift.reqNeed2uopR = true) (crossed : cross region i.ifuReqPc = true)
      (cmd : (Sys.step i s).cmd = some i.ifuReqPc)

/-- A request is accepted: the registers after the cycle, and the read that is issued. -/
structure Accepts (region : BitVec 32) (i : In) (s : Sys) : Prop where
  req : ifuReqHsked s.ift i = true
  ready : ifuIcbCmdReady s.ift i = true
  sta : (Sys.step i s).ift.icbStateR = .first
  joined : (Sys.step i s).ift.reqSameCrossHoldupR = reqSameCrossHoldup s.ift i
  need2 : (Sys.step i s).ift.reqNeed2uopR = reqNeed2uop s.ift i
  need0 : (Sys.step i s).ift.reqNeed0uopR = reqNeed0uop s.ift i
  crossR : (Sys.step i s).ift.reqLaneCrossR = cross region i.ifuReqPc
  addr21 : (Sys.step i s).ift.icbCmdAddr21R = (ifuIcbCmdAddr s.ift i).extractLsb' 1 2
  hsked : ifuIcbCmdHsked s.ift i = !reqNeed0uop s.ift i
  cmd : (Sys.step i s).cmd = if reqNeed0uop s.ift i then none else some (ifuIcbCmdAddr s.ift i)

theorem Turn.accepts (h : Turn s.ift i) (hc : Ctl region s) (hp : Proto region i s)
    (hq : ifuReqHsked s.ift i = true) : Accepts region i s := by
  obtain ⟨hsta, hjoined, h2, h0, hcr, haddr⟩ := h.accept hq
  have hcmd : ifuIcbCmdHsked s.ift i = !reqNeed0uop s.ift i := by simp [h.cmd, hq]
  refine ⟨hq, ?_, hsta, hjoined, h2, h0, hcr.trans (ifuReqLaneCross_eq hp), haddr, hcmd, ?_⟩
  · rw [h.req, Bool.and_eq_true] at hq
    exact hq.2
  · rw [h.step_cmd hc hp, hcmd]
    cases reqNeed0uop s.ift i <;> rfl

/-- A read of the last lane of the fetch leaves its registers behind. -/
theorem Accepts.lastLane (h : Accepts region i s) (hp : Proto region i s)
    (hn0 : reqNeed0uop s.ift i = false)
    (haddr : ifuIcbCmdAddr s.ift i = fetchEnd region i.ifuReqPc) :
    LastLane region (Sys.step i s) i.ifuReqPc := by
  have hhsked : ifuIcbCmdHsked s.ift i = true := by simp [h.hsked, hn0]
  have hroute := Ift2icb.route_step hp hhsked
  refine ⟨h.crossR, fun _ => by rw [← haddr]; exact hroute, fun _ hi => ?_⟩
  refine ⟨fetchEnd region i.ifuReqPc, ?_, rfl⟩
  simp [Sys.step, hhsked, ifuIcbCmd2itcm, haddr, hp.regionEq, hi]

/-- A crossing fetch whose first lane is held up reads the second. -/
theorem Accepts.joins (ha : Accepts region i s) (h : Turn s.ift i) (hp : Proto region i s)
    (hheld : ifuReqLaneSame s.ift i = true → ifuReqLaneHoldup i = true → HeldUp region i s)
    (hs : reqSameCrossHoldup s.ift i = true) :
    LastLane region (Sys.step i s) i.ifuReqPc ∧ Begins region i s := by
  have hflags := hs
  simp only [reqSameCrossHoldup, Bool.and_eq_true] at hflags
  obtain ⟨⟨hsame, hx⟩, hup⟩ := hflags
  have hheldUp := hheld hsame hup
  have hn2 : reqNeed2uop s.ift i = false := by simp [reqNeed2uop, hsame, hup]
  have hn0 : reqNeed0uop s.ift i = false := by simp [reqNeed0uop, hx]
  have hcross : cross region i.ifuReqPc = true := (ifuReqLaneCross_eq hp).symm.trans hx
  have hfetch : ifuIcbCmdAddr s.ift i = i.ifuReqPc + 2#32 := by
    rw [h.addr, hs, if_pos rfl, hheldUp.next]
  have hend : fetchEnd region i.ifuReqPc = i.ifuReqPc + 2#32 := by simp [fetchEnd, hcross]
  have hena : leftoverEna s.ift i = true := by
    simp [leftoverEna, holdup2leftoverEna, ha.req, holdup2leftoverSel, hs]
  refine ⟨ha.lastLane hp hn0 (hfetch.trans hend.symm),
    .joined ha.sta (ha.need2.trans hn2) (ha.joined.trans hs) hcross ?_ ?_ ?_ hheldUp⟩
  · rw [ha.cmd, hn0, hfetch]
    rfl
  · simp only [Sys.step, Ift2icb.step, hena, dfflr_true]
  · simp only [Sys.step, Ift2icb.step, hena, dfflr_true]
    exact h.leftoverErrNxt

/-- A crossing fetch whose lane is not held up needs two reads. -/
theorem Accepts.crosses (ha : Accepts region i s) (h : Turn s.ift i) (hp : Proto region i s)
    (hs : reqSameCrossHoldup s.ift i = false) (hx : cross region i.ifuReqPc = true) :
    LastLane region (Sys.step i s) i.ifuReqPc ∧ Begins region i s := by
  have hlx : ifuReqLaneCross i = true := (ifuReqLaneCross_eq hp).trans hx
  have hn2 : reqNeed2uop s.ift i = true := by
    have hs' := hs
    simp only [reqSameCrossHoldup, hlx, Bool.and_true] at hs'
    simp only [reqNeed2uop, hlx, Bool.and_true]
    cases hsame : ifuReqLaneSame s.ift i <;> simp_all
  have hn0 : reqNeed0uop s.ift i = false := by simp [reqNeed0uop, hlx]
  -- the second read is not issued yet
  have hnot : ¬Issued (Sys.step i s).ift := fun hi => by
    have hno := hi.2 ha.sta
    rw [ha.need2, hn2] at hno
    cases hno
  refine ⟨⟨ha.crossR, fun hi => absurd hi hnot, fun hi => absurd hi hnot⟩,
    .firstHalf ha.sta (ha.need2.trans hn2) hx ?_⟩
  rw [ha.cmd, hn0, h.addr, hs]
  rfl

/-- A fetch in one lane that is not held up reads it. -/
theorem Accepts.reads (ha : Accepts region i s) (h : Turn s.ift i) (hp : Proto region i s)
    (hs : reqSameCrossHoldup s.ift i = false) (hx : cross region i.ifuReqPc = false)
    (hn0 : reqNeed0uop s.ift i = false) :
    LastLane region (Sys.step i s) i.ifuReqPc ∧ Begins region i s := by
  have hn2 : reqNeed2uop s.ift i = false := by
    simp [reqNeed2uop, (ifuReqLaneCross_eq hp).trans hx]
  have hfetch : ifuIcbCmdAddr s.ift i = i.ifuReqPc := by rw [h.addr, hs, if_neg Bool.false_ne_true]
  have hend : fetchEnd region i.ifuReqPc = i.ifuReqPc := by simp [fetchEnd, hx]
  refine ⟨ha.lastLane hp hn0 (hfetch.trans hend.symm),
    .single ha.sta (ha.need2.trans hn2) (ha.joined.trans hs) hx ?_ ?_⟩
  · rw [ha.addr21, hfetch]
  · rw [ha.cmd, hn0, hfetch]
    rfl

/-- Without a read at a free port the ITCM keeps the lane. -/
theorem Accepts.keep (ha : Accepts region i s) (hup : i.ifu2itcmHoldup = true)
    (hitcm : ifuIcbCmd2itcm s.ift i = true) (hn0 : reqNeed0uop s.ift i = true) :
    (Sys.step i s).keep = true := by
  have hready : i.ifu2itcmIcbCmdReady = true := by
    simpa [ifuIcbCmdReady, ifuIcbCmd2biu, hitcm] using ha.ready
  have hnov : ifuIcbCmdValid s.ift i = false := by
    have hno := ha.hsked
    rw [hn0] at hno
    simpa [ifuIcbCmdHsked, ha.ready] using hno
  simp [Sys.step, hup, hready, ifu2itcmIcbCmdValid, hnov]

/-- A fetch in a lane that is held up reads nothing. -/
theorem Accepts.reuses (ha : Accepts region i s) (h : Turn s.ift i) (hp : Proto region i s)
    (hheld : ifuReqLaneSame s.ift i = true → ifuReqLaneHoldup i = true → HeldUp region i s)
    (hs : reqSameCrossHoldup s.ift i = false) (hx : cross region i.ifuReqPc = false)
    (hn0 : reqNeed0uop s.ift i = true) :
    LastLane region (Sys.step i s) i.ifuReqPc ∧ Begins region i s := by
  have hflags := hn0
  simp only [reqNeed0uop, Bool.and_eq_true] at hflags
  obtain ⟨⟨hsame, -⟩, hup⟩ := hflags
  have hheldUp := hheld hsame hup
  obtain ⟨a, hlast, hbase⟩ := hheldUp.held
  have hn2 : reqNeed2uop s.ift i = false := by
    simp [reqNeed2uop, (ifuReqLaneCross_eq hp).trans hx]
  have hfetch : ifuIcbCmdAddr s.ift i = i.ifuReqPc := by rw [h.addr, hs, if_neg Bool.false_ne_true]
  have hend : fetchEnd region i.ifuReqPc = i.ifuReqPc := by simp [fetchEnd, hx]
  have hno : ifuIcbCmdHsked s.ift i = false := by simp [ha.hsked, hn0]
  have hroute : (Sys.step i s).ift.icbCmd2itcmR = true ∧ (Sys.step i s).ift.icbCmd2biuR = false := by
    simp [Sys.step, Ift2icb.step, hno, hheldUp.route]
  have hsameHeld : (Sys.step i s).held = s.held := by simp [Sys.step, hno]
  have hitcm : ifuIcbCmd2itcm s.ift i = true := by
    rw [ifuIcbCmd2itcm, hfetch, hp.regionEq, hheldUp.itcm]
  refine ⟨⟨ha.crossR, fun _ => ?_, fun _ _ => ?_⟩,
    .reuse ha.sta (ha.need2.trans hn2) (ha.joined.trans hs) hx ?_ hroute (ha.keep hheldUp.up hitcm hn0)
      (ha.need0.trans hn0) hsameHeld hheldUp⟩
  · rw [hend, hheldUp.itcm]
    exact hroute
  · rw [hend]
    exact ⟨a, hsameHeld.trans hlast, hbase⟩
  · rw [ha.addr21, hfetch]

theorem Turn.begins (h : Turn s.ift i) (hc : Ctl region s) (hp : Proto region i s)
    (hq : ifuReqHsked s.ift i = true)
    (hheld : ifuReqLaneSame s.ift i = true → ifuReqLaneHoldup i = true → HeldUp region i s) :
    LastLane region (Sys.step i s) i.ifuReqPc ∧ Begins region i s := by
  have ha := h.accepts hc hp hq
  cases hs : reqSameCrossHoldup s.ift i
  case true => exact ha.joins h hp hheld hs
  case false =>
    cases hx : cross region i.ifuReqPc
    case true => exact ha.crosses h hp hs hx
    case false =>
      cases hn0 : reqNeed0uop s.ift i
      · exact ha.reads h hp hs hx hn0
      · exact ha.reuses h hp hheld hs hx hn0

theorem HeldUp.leftover (h : HeldUp region i s) (heven : IsEven i.ifuReqPc)
    (hcross : cross region i.ifuReqPc = true)
    (hdata : ∀ a, s.held = some a → i.ifu2itcmIcbRspRdata = itcmLane mem a) :
    put2leftoverData s.ift i = mem i.ifuReqPc := by
  obtain ⟨a, ha, hab⟩ := h.held
  refine put2leftover_eq heven hcross (by simp [h.route, h.itcm]) ⟨fun _ => ?_, by simp [h.itcm]⟩
  rw [hdata a ha, itcmLane_congr hab]

theorem Begins.stage (h : Begins region i s)
    (hleft : HeldUp region i s → cross region i.ifuReqPc = true →
      put2leftoverData s.ift i = mem i.ifuReqPc) :
    Stage mem region (Sys.step i s) i.ifuReqPc := by
  cases h with
  | reuse sta need2 joined uncrossed addr route keep need0 held up =>
    obtain ⟨a, ha, hab⟩ := up.held
    exact .reuse sta need2 joined up.itcm uncrossed addr route keep need0 ⟨a, held.trans ha, hab⟩
  | single sta need2 joined uncrossed addr cmd => exact .single sta need2 joined uncrossed addr cmd
  | joined sta need2 joined crossed cmd leftover err up =>
    exact .joined sta need2 joined crossed cmd (leftover.trans (hleft up crossed))
  | firstHalf sta need2 crossed cmd => exact .firstHalf sta need2 crossed cmd

theorem Env.stage (he : Env mem region i s) (hv : i.ifuReqValid = true) (h : Begins region i s) :
    Stage mem region (Sys.step i s) i.ifuReqPc := by
  refine h.stage fun up crossed => up.leftover (he.even hv) crossed fun a ha => ?_
  obtain ⟨b, hb, hdata⟩ := he.holdup up.up
  obtain rfl : a = b := Option.some.inj (ha.symm.trans hb)
  exact hdata

/-! ## Every cycle keeps the data invariant -/

/-- A cycle in which no read is issued keeps what the last request leaves behind. -/
theorem LastLane.step_of_no_cmd (h : LastLane region s pc) (hcmd : ifuIcbCmdHsked s.ift i = false)
    (hreq : ifuReqHsked s.ift i = false) (hissued : Issued (Sys.step i s).ift → Issued s.ift) :
    LastLane region (Sys.step i s) pc where
  crossR := by simpa [Sys.step, Ift2icb.step, hreq] using h.crossR
  route hi := by simpa [Sys.step, Ift2icb.step, hcmd] using h.route (hissued hi)
  held hi := by simpa [Sys.step, hcmd] using h.held (hissued hi)

/-- The second read of a crossing fetch has been issued. -/
theorem LastLane.step_of_second (h : LastLane region s pc) (he : Proto region i s)
    (hcmd : ifuIcbCmdHsked s.ift i = true) (hreq : ifuReqHsked s.ift i = false)
    (haddr : ifuIcbCmdAddr s.ift i = pc + 2#32) (hcross : cross region pc = true) :
    LastLane region (Sys.step i s) pc where
  crossR := by simpa [Sys.step, Ift2icb.step, hreq] using h.crossR
  route _ := by
    have hroute := Ift2icb.route_step he hcmd
    rw [haddr] at hroute
    rwa [fetchEnd, if_pos hcross]
  held _ hi := by
    rw [fetchEnd, if_pos hcross] at hi ⊢
    refine ⟨pc + 2#32, ?_, rfl⟩
    simp [Sys.step, hcmd, ifuIcbCmd2itcm, haddr, he.regionEq, hi]

/-- The first of two reads returns; the second one is issued with it, or waits. -/
theorem LastLane.step_firstRsp (h : LastLane region s pc) (hf : FirstRsp s.ift i)
    (hp : Proto region i s) (haddr : ifuIcbCmdAddr s.ift i = pc + 2#32)
    (hcross : cross region pc = true) : LastLane region (Sys.step i s) pc := by
  have hsta : (Sys.step i s).ift.icbStateR = _ := hf.state
  cases hready : ifuIcbCmdReady s.ift i
  · rw [hready, if_neg Bool.false_ne_true] at hsta
    exact h.step_of_no_cmd (hf.cmd.trans hready) hf.req fun hi => absurd hsta hi.1
  · exact h.step_of_second hp (hf.cmd.trans hready) hf.req haddr hcross

theorem Data.last_pc {done : List (BitVec 32)} (he : Env mem region i s)
    (hreqs : s.reqs = done ++ [pc]) (hlen : s.reqs.length = s.rsps.length + 1) :
    i.ifuReqLastPc = pc := by
  have hlast := he.last hlen
  rw [hreqs, List.getLast?_append, List.getLast?_singleton] at hlast
  exact (Option.some.inj hlast).symm

theorem FirstRsp.addr (hf : FirstRsp s.ift i) (hpc : i.ifuReqLastPc = pc) :
    ifuIcbCmdAddr s.ift i = pc + 2#32 := by
  rw [addr_of_sel2nd, hpc]
  simp [icbAddrSel2ndnxtalgn, hf.need2uop, icbStaIs1st, hf.sta]

theorem SecondCmd.addr (hw : SecondCmd s.ift i) (hc : Ctl region s) (hpc : i.ifuReqLastPc = pc) :
    ifuIcbCmdAddr s.ift i = pc + 2#32 := by
  have h2 : s.ift.reqNeed2uopR = true := by
    have hst := hc.state
    unfold Sys.StateOk at hst
    rw [hw.sta] at hst
    exact hst.2.2.2.1
  rw [addr_of_sel2nd, hpc]
  simp [icbAddrSel2ndnxtalgn, h2, icbStaIsWait2nd, hw.sta]

/-- The first of two reads fills the leftover. -/
theorem FirstRsp.leftover (hf : FirstRsp s.ift i) :
    (Sys.step i s).ift.leftoverR = put2leftoverData s.ift i ∧
      (Sys.step i s).ift.leftoverErrR = leftoverErrNxt s.ift i := by
  have hena : leftoverEna s.ift i = true := by
    simp [leftoverEna, uop1st2leftoverEna, ifuIcbRspHsked, hf.mem, hf.ready,
      uop1st2leftoverSel, ifuIcbRsp2leftover, hf.need2uop, icbStaIs1st, hf.sta]
  simp only [Sys.step, Ift2icb.step, hena, dfflr_true, and_self]

theorem SecondCmd.leftover (hw : SecondCmd s.ift i) :
    (Sys.step i s).ift.leftoverR = s.ift.leftoverR ∧
      (Sys.step i s).ift.leftoverErrR = s.ift.leftoverErrR := by
  have hena : leftoverEna s.ift i = false := by
    simp [leftoverEna, holdup2leftoverEna, hw.req, uop1st2leftoverEna, ifuIcbRspHsked, hw.mem]
  simp only [Sys.step, Ift2icb.step, hena, dfflr_false, and_self]

theorem Stage.firstHalf_of_firstRsp (h : Stage mem region s pc) (hf : FirstRsp s.ift i) :
    cross region pc = true ∧ s.cmd = some pc := by
  cases h with
  | firstHalf _ _ crossed cmd => exact ⟨crossed, cmd⟩
  | buffered sta => exact absurd (hf.sta.symm.trans sta) (by simp)
  | reuse _ need2 | single _ need2 | joined _ need2 =>
    exact absurd (hf.need2uop.symm.trans need2) (by simp)
  | waiting sta | secondHalf sta => exact absurd (hf.sta.symm.trans sta) (by simp)

theorem Stage.step_firstRsp (h : Stage mem region s pc) (hf : FirstRsp s.ift i)
    (hc : Ctl region s) (hp : Proto region i s) (hlane : LastLane region s pc)
    (hpc : i.ifuReqLastPc = pc)
    (hleft : cross region pc = true → s.cmd = some pc → put2leftoverData s.ift i = mem' pc) :
    LastLane region (Sys.step i s) pc ∧ Stage mem' region (Sys.step i s) pc := by
  have hsta : (Sys.step i s).ift.icbStateR = _ := hf.state
  have hstep := hf.step_cmd hc hp
  have haddr := hf.addr hpc
  obtain ⟨crossed, cmd⟩ := h.firstHalf_of_firstRsp hf
  have hleft' : (Sys.step i s).ift.leftoverR = mem' pc := hf.leftover.1.trans (hleft crossed cmd)
  refine ⟨hlane.step_firstRsp hf hp haddr crossed, ?_⟩
  cases hready : ifuIcbCmdReady s.ift i
  · simp only [hready, Bool.false_eq_true, if_false] at hsta
    exact .waiting hsta crossed hleft'
  · simp only [hready, if_true] at hsta hstep
    rw [haddr] at hstep
    exact .secondHalf hsta crossed hstep hleft'

theorem Stage.step_secondCmd (h : Stage mem region s pc) (hw : SecondCmd s.ift i)
    (hc : Ctl region s) (hp : Proto region i s) (hlane : LastLane region s pc)
    (hpc : i.ifuReqLastPc = pc) :
    LastLane region (Sys.step i s) pc ∧ Stage mem region (Sys.step i s) pc := by
  have hsta : (Sys.step i s).ift.icbStateR = .second := hw.state
  have haddr := hw.addr hc hpc
  cases h with
  | waiting _ crossed leftover =>
    refine ⟨hlane.step_of_second hp hw.cmd hw.req haddr crossed, .secondHalf hsta crossed ?_
      (hw.leftover.1.trans leftover)⟩
    rw [hw.step_cmd, haddr]
  | buffered sta | reuse sta | single sta | joined sta | firstHalf sta | secondHalf sta =>
    exact absurd (hw.sta.symm.trans sta) (by simp)

/-- Waiting changes nothing; a fetch that uses the held lane never waits. -/
theorem Stage.step_stall (h : Stage mem region s pc) (hs : Stall s.ift i) (hc : Ctl region s)
    (hp : Proto region i s) : Stage mem region (Sys.step i s) pc := by
  have hift := hs.step_ift
  have hcmd := hs.step_cmd hc hp
  cases h with
  | buffered sta vld dat => exact absurd (hs.buf.symm.trans vld) (by simp)
  | reuse sta need2 joined itcm uncrossed addr route keep need0 held =>
    have hrsp := hs.rsp
    simp [iIfuRspValid, holdupGenFakeRspValid, icbStaIs1st, sta, need0] at hrsp
  | single sta need2 joined uncrossed addr cmd =>
    exact .single (by rwa [hift]) (by rwa [hift]) (by rwa [hift]) uncrossed (by rwa [hift])
      (by rwa [hcmd])
  | joined sta need2 joined crossed cmd leftover =>
    exact .joined (by rwa [hift]) (by rwa [hift]) (by rwa [hift]) crossed (by rwa [hcmd])
      (by rwa [hift])
  | firstHalf sta need2 crossed cmd =>
    exact .firstHalf (by rwa [hift]) (by rwa [hift]) crossed (by rwa [hcmd])
  | waiting sta crossed leftover => exact .waiting (by rwa [hift]) crossed (by rwa [hift])
  | secondHalf sta crossed cmd leftover =>
    exact .secondHalf (by rwa [hift]) crossed (by rwa [hcmd]) (by rwa [hift])

/-- A fetch that has not been answered is the only one. -/
theorem Stage.outstanding {done : List (BitVec 32)} (hreqs : s.reqs = done ++ [pc])
    (hrsps : s.rsps = done.map (word mem)) : s.reqs.length = s.rsps.length + 1 := by
  rw [hreqs, hrsps, List.length_append, List.length_map]
  rfl

theorem Turn.rspValid (h : Turn s.ift i) (hc : Ctl region s) (hp : Proto region i s)
    (hlen : s.reqs.length = s.rsps.length + 1) : ifuRspValid s.ift i = true := by
  have hst := h.step_rsps hc hp
  rw [h.step_bypbuf] at hst
  cases hv : Ift2icb.ifuRspValid s.ift i
  · simp [Sys.step, ifuRspHsked, hv] at hst
    omega
  · rfl

/-- The response part of a turn: the last request is answered, or its response is buffered. -/
theorem Turn.rsps {done : List (BitVec 32)} (h : Turn s.ift i) (hc : Ctl region s)
    (he : Env mem region i s) (hreqs : s.reqs = done ++ [pc]) (heven : IsEven pc)
    (hrsps : s.rsps = (done ++ [pc]).map (word mem) ∨
      s.rsps = done.map (word mem) ∧ Stage mem region s pc) :
    (Sys.step i s).rsps = (done ++ [pc]).map (word mem) ∨
      ((Sys.step i s).rsps = done.map (word mem) ∧ (Sys.step i s).ift.bypbuf.vld = true ∧
        (Sys.step i s).ift.bypbuf.dat.2 = word mem pc) := by
  obtain hall | ⟨hdone, hstage⟩ := hrsps
  · left
    have hno : ifuRspValid s.ift i = false := by
      by_contra hv
      have hlen := hc.outstanding_of_ifuRspValid he.toProto (by simpa using hv)
      rw [hreqs, hall, List.length_map] at hlen
      omega
    simp [Sys.step, ifuRspHsked, hno, hall]
  · have hlen := Stage.outstanding hreqs hdone
    have hword := hstage.rsp hc he heven h
    have hv := h.rspValid hc he.toProto hlen
    cases hr : i.ifuRspReady
    · right
      have hvld : (Ift2icb.step s.ift i).bypbuf.vld = true := by rw [h.step_bypbuf, hv, hr]; rfl
      have hdat := @Bypbuf.step_dat _ _ _ i.ifuRspReady
        (iIfuRspErr s.ift i, iIfuRspInstr s.ift i) h.buf hvld
      refine ⟨by simp [Sys.step, ifuRspHsked, hr, hdone], hvld, ?_⟩
      have hdat' : (Sys.step i s).ift.bypbuf.dat =
          s.ift.bypbuf.oDat (iIfuRspErr s.ift i, iIfuRspInstr s.ift i) := hdat
      rw [hdat']
      exact hword
    · left
      simp [Sys.step, ifuRspHsked, hv, hr, hdone, hword]

theorem Data.step (h : Data mem region s) (hc : Ctl region s) (he : Env mem region i s) :
    Data mem region (Sys.step i s) := by
  cases h with
  | empty reqs rsps sta vld =>
    obtain hs | hf | hw | ht := hc.cases he.toProto
    · obtain ⟨hreqs, hrsps, -⟩ := hs.toQuiet.step_eq
      exact .empty (hreqs.trans reqs) (hrsps.trans rsps) (by rw [hs.step_ift, sta])
        (by rw [hs.step_ift, vld])
    · exact absurd (hf.sta.symm.trans sta) (by simp)
    · exact absurd (hw.sta.symm.trans sta) (by simp)
    · have hno : ifuRspValid s.ift i = false := by
        by_contra hv
        have hlen := hc.outstanding_of_ifuRspValid he.toProto (by simpa using hv)
        simp [reqs, rsps] at hlen
      have hrsps : (Sys.step i s).rsps = [] := by simp [Sys.step, ifuRspHsked, hno, rsps]
      cases hq : ifuReqHsked s.ift i
      · refine .empty (by simp [Sys.step, hq, reqs]) hrsps (ht.state.trans (by simp [hq])) ?_
        exact ht.step_bypbuf.trans (by simp [hno])
      · have hv : i.ifuReqValid = true := by
          rw [ht.req, Bool.and_eq_true] at hq
          exact hq.1
        have hnew := ht.begins hc he.toProto hq (by
          -- the first request is not sequential
          intro hsame _
          simp only [ifuReqLaneSame, Bool.and_eq_true] at hsame
          have hlast := (he.seq hv hsame.1).1
          simp [reqs] at hlast)
        exact .last [] i.ifuReqPc (by simp [Sys.step, hq, reqs]) (he.even hv) hnew.1
          (.inr ⟨hrsps, he.stage hv hnew.2⟩)
  | last done pc reqs even lane rsps =>
    obtain hs | hf | hw | ht := hc.cases he.toProto
    · obtain ⟨hreqs, hrsps, -⟩ := hs.toQuiet.step_eq
      refine .last done pc (hreqs.trans reqs) even
        (lane.step_of_no_cmd hs.cmd hs.req (by rw [hs.step_ift]; exact id)) ?_
      rw [hrsps]
      exact rsps.imp id (And.imp id fun hst => hst.step_stall hs hc he.toProto)
    · obtain ⟨hreqs, hrsps, -⟩ := hf.toQuiet.step_eq
      have hst := hc.state
      unfold Sys.StateOk at hst
      rw [hf.sta] at hst
      obtain hall | ⟨hdone, hstage⟩ := rsps
      · rw [reqs, hall] at hst
        simp at hst
      · obtain ⟨hl, hst'⟩ := hstage.step_firstRsp hf hc he.toProto lane
          (Data.last_pc he reqs hst.2.1) fun crossed cmd =>
            put2leftover_eq even crossed (hc.route _ cmd) (hc.returns he cmd hf.mem)
        exact .last done pc (hreqs.trans reqs) even hl (.inr ⟨hrsps.trans hdone, hst'⟩)
    · obtain ⟨hreqs, hrsps, -⟩ := hw.toQuiet.step_eq
      have hst := hc.state
      unfold Sys.StateOk at hst
      rw [hw.sta] at hst
      obtain hall | ⟨hdone, hstage⟩ := rsps
      · rw [reqs, hall] at hst
        simp at hst
      · obtain ⟨hl, hst'⟩ := hstage.step_secondCmd hw hc he.toProto lane (Data.last_pc he reqs hst.2.1)
        exact .last done pc (hreqs.trans reqs) even hl (.inr ⟨hrsps.trans hdone, hst'⟩)
    · have hrsps := ht.rsps hc he reqs even rsps
      cases hq : ifuReqHsked s.ift i
      · have hcmd : ifuIcbCmdHsked s.ift i = false := by simp [ht.cmd, hq]
        have hsta : (Sys.step i s).ift.icbStateR = .idle := ht.state.trans (by simp [hq])
        refine .last done pc (by simp [Sys.step, hq, reqs]) even
          (lane.step_of_no_cmd hcmd hq fun _ => ht.sta') ?_
        exact hrsps.imp id fun hbuf => ⟨hbuf.1, .buffered hsta hbuf.2.1 hbuf.2.2⟩
      · have hv : i.ifuReqValid = true := by
          rw [ht.req, Bool.and_eq_true] at hq
          exact hq.1
        have hnew := ht.begins hc he.toProto hq fun hsame hhold => by
          have hsq : i.ifuReqSeq = true := ((Bool.and_eq_true _ _).mp hsame).1
          obtain ⟨hlast, hpc⟩ := he.seq hv hsq
          rw [reqs, List.getLast?_append, List.getLast?_singleton] at hlast
          obtain rfl : pc = i.ifuReqLastPc := Option.some.inj hlast
          exact lane.heldUp he.toProto even ht.sta' (fun _ => hpc) hsame hhold
        have hempty := ht.buf_empty hc he.toProto hq
        have hall : (Sys.step i s).rsps = (done ++ [pc]).map (word mem) := by
          obtain hall | ⟨-, hvld, -⟩ := hrsps
          · exact hall
          · rw [hempty] at hvld
            cases hvld
        exact .last (done ++ [pc]) i.ifuReqPc (by simp [Sys.step, hq, reqs]) (he.even hv) hnew.1
          (.inr ⟨hall, he.stage hv hnew.2⟩)

end
end E203.Ift2icb
