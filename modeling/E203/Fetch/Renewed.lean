import E203.Fetch.Fault
import E203.Fetch.Requests

/-! # What goes into the IR after a flush is read after the flush

* `Memories`: memories that change from cycle to cycle; a response has the lane of some cycle since its
  read was accepted.
* `ReadSince`: a halfword that was read since a cycle.
* `Renewed`: all that the outstanding fetch and the next one use was read since the flush;
  `Renewed.of_req` begins it, `Renewed.follow` keeps it.
* `wordSince_of_flush`: so was every instruction that goes into the IR.
-/

namespace E203.Ifu
set_option autoImplicit false

def adapterAt (inp : ℕ → In) (s : Sys) (t : ℕ) : Ift2icb.In := ift2icbIn (run inp s t).regs (inp t)

/-- In cycle `t` a read at `a` is accepted. -/
def ReadAt (inp : ℕ → In) (s : Sys) (t : ℕ) (a : BitVec 32) : Prop :=
  Ift2icb.ifuIcbCmdHsked (run inp s t).adapter.ift (adapterAt inp s t) = true ∧
    Ift2icb.ifuIcbCmdAddr (run inp s t).adapter.ift (adapterAt inp s t) = a

/-- What the memories return in cycle `t`, where `mem v` is what they hold in cycle `v`. -/
structure Memories (mem : ℕ → Ift2icb.Mem) (region : BitVec 32) (inp : ℕ → In) (s : Sys) (t : ℕ) :
    Prop where
  /-- The lane of a read is read after the read is accepted. -/
  rsp : ∀ a, (run inp s t).adapter.cmd = some a →
    ((inp t).ifu2itcmIcbRspValid || (inp t).ifu2biuIcbRspValid) = true →
      ∃ v ≤ t, (∀ r < t, ∀ b, ReadAt inp s r b → r ≤ v) ∧
        Ift2icb.Returns (mem v) region (adapterAt inp s t) a
  /-- The lane that the ITCM holds up is the one that was read last. -/
  held : ∀ a, (run inp s t).adapter.held = some a →
    ((inp t).ifu2itcmHoldup = true ∨ (run inp s t).adapter.keep = true) →
      ∃ v ≤ t, (∀ r < t, ∀ b, ReadAt inp s r b → Ift2icb.inItcm region b = true → r ≤ v) ∧
        (inp t).ifu2itcmIcbRspRdata = Ift2icb.itcmLane (mem v) a

section
variable (mem : ℕ → Ift2icb.Mem) (region : BitVec 32) (inp : ℕ → In) (s : Sys) (c t : ℕ)

/-- The halfword `x` at `a` was in memory in a cycle up to `t`, after a read that covers it was
accepted, not before cycle `c`. -/
def ReadSince (a : BitVec 32) (x : BitVec 16) : Prop :=
  ∃ r v b, c ≤ r ∧ r ≤ v ∧ v ≤ t ∧ ReadAt inp s r b ∧ Ift2icb.covers region b a = true ∧ x = mem v a

/-- Both halfwords of an instruction at `pc`. -/
def WordSince (pc w : BitVec 32) : Prop :=
  ReadSince mem region inp s c t pc (w.extractLsb' 0 16) ∧
    ReadSince mem region inp s c t (pc + 2#32) (w.extractLsb' 16 16)

/-- The address `a` was read since cycle `c`. -/
def Since (a : BitVec 32) : Prop := ∃ r, c ≤ r ∧ r < t ∧ ReadAt inp s r a

end

/-- The low half of the outstanding fetch is in the leftover buffer. -/
def HasLeft (s : Ift2icb.State) : Prop :=
  s.icbStateR = .wait2nd ∨ Ift2icb.Issued s ∧ Ift2icb.rspInstrSelLeftover s = true

/-- The outstanding fetch, and what it leaves to the next one, was read since cycle `c`. -/
structure Renewed (mem : ℕ → Ift2icb.Mem) (region : BitVec 32) (inp : ℕ → In) (s : Sys) (c t : ℕ) :
    Prop where
  lane : Ift2icb.LastLane region (run inp s t).adapter (run inp s t).ifetch.pcR
  stage : (run inp s t).ifetch.outFlagR = true →
    ∃ m, Ift2icb.Stage m region (run inp s t).adapter (run inp s t).ifetch.pcR
  leftover : HasLeft (run inp s t).adapter.ift →
    ReadSince mem region inp s c t (run inp s t).ifetch.pcR (run inp s t).adapter.ift.leftoverR
  buffer : (run inp s t).adapter.ift.bypbuf.vld = true →
    WordSince mem region inp s c t (run inp s t).ifetch.pcR
      (run inp s t).adapter.ift.bypbuf.dat.2
  cmd : ∀ a, (run inp s t).adapter.cmd = some a → Since inp s c t a
  held : (run inp s t).adapter.ift.icbCmd2itcmR = true →
    ∀ a, (run inp s t).adapter.held = some a → Since inp s c t a

section
variable {mem : ℕ → Ift2icb.Mem} {region : BitVec 32} {inp : ℕ → In} {s : Sys} {c t u : ℕ}
  {a pc w : BitVec 32} {x y : BitVec 16}

/-! ## Halfwords -/

theorem ReadSince.mono (h : ReadSince mem region inp s c t a x) (htu : t ≤ u) :
    ReadSince mem region inp s c u a x := by
  obtain ⟨r, v, b, hr, hv, hvt, hread⟩ := h
  exact ⟨r, v, b, hr, hv, hvt.trans htu, hread⟩

theorem WordSince.mono (h : WordSince mem region inp s c t pc w) (htu : t ≤ u) :
    WordSince mem region inp s c u pc w :=
  ⟨h.1.mono htu, h.2.mono htu⟩

theorem Since.mono (h : Since inp s c t a) (htu : t ≤ u) : Since inp s c u a := by
  obtain ⟨r, hr, hrt, hread⟩ := h
  exact ⟨r, hr, hrt.trans_le htu, hread⟩

theorem wordSince_append (hx : ReadSince mem region inp s c t pc x)
    (hy : ReadSince mem region inp s c t (pc + 2#32) y) :
    WordSince mem region inp s c t pc (y ++ x) := by
  rw [WordSince, BitVec.extractLsb'_append_eq_right, BitVec.extractLsb'_append_eq_left]
  exact ⟨hx, hy⟩

theorem wordSince_of_lane {r v : ℕ} {b : BitVec 32} (hcr : c ≤ r) (hrv : r ≤ v) (hvt : v ≤ t)
    (hread : ReadAt inp s r b) (heven : Ift2icb.IsEven pc)
    (hcross : Ift2icb.cross region pc = false) (hcov : Ift2icb.covers region b pc = true) :
    WordSince mem region inp s c t pc (Ift2icb.word (mem v) pc) := by
  refine wordSince_append ⟨r, v, b, hcr, hrv, hvt, hread, hcov, rfl⟩
    ⟨r, v, b, hcr, hrv, hvt, hread, ?_, rfl⟩
  rw [Ift2icb.covers_of_uncrossed heven hcross]
  exact hcov

theorem covers_of_base8 {b : BitVec 32} (hin : Ift2icb.inItcm region a = true)
    (hbase : Ift2icb.base8 b = Ift2icb.base8 a) : Ift2icb.covers region b a = true := by
  rw [Ift2icb.covers, Ift2icb.inItcm_congr hbase, hin, if_pos rfl, hbase]
  exact beq_self_eq_true _

/-! ## The reads of a cycle -/

/-- After a cycle with a read, that read is the outstanding one and the last one. -/
theorem since_of_read (hct : c ≤ t)
    (hcmd : Ift2icb.ifuIcbCmdHsked (run inp s t).adapter.ift (adapterAt inp s t) = true) :
    Since inp s c (t + 1)
      (Ift2icb.ifuIcbCmdAddr (run inp s t).adapter.ift (adapterAt inp s t)) :=
  ⟨t, hct, Nat.lt_succ_self t, hcmd, rfl⟩

/-- A cycle keeps the address of the last read of the ITCM, or reads there itself. -/
theorem held_step (hct : c ≤ t)
    (hold : Ift2icb.ifuIcbCmdHsked (run inp s t).adapter.ift (adapterAt inp s t) = false →
      (run inp s t).adapter.ift.icbCmd2itcmR = true →
        ∀ a, (run inp s t).adapter.held = some a → Since inp s c t a)
    (hitcm : (run inp s (t + 1)).adapter.ift.icbCmd2itcmR = true)
    (ha : (run inp s (t + 1)).adapter.held = some a) : Since inp s c (t + 1) a := by
  change dfflr (Ift2icb.ifuIcbCmdHsked (run inp s t).adapter.ift (adapterAt inp s t))
    (Ift2icb.ifuIcbCmd2itcm (run inp s t).adapter.ift (adapterAt inp s t))
    (run inp s t).adapter.ift.icbCmd2itcmR = true at hitcm
  change (if Ift2icb.ifuIcbCmdHsked (run inp s t).adapter.ift (adapterAt inp s t) &&
    Ift2icb.ifuIcbCmd2itcm (run inp s t).adapter.ift (adapterAt inp s t) then _ else _) =
      some a at ha
  cases hcmd : Ift2icb.ifuIcbCmdHsked (run inp s t).adapter.ift (adapterAt inp s t)
  · rw [hcmd, Bool.false_and, if_neg Bool.false_ne_true] at ha
    rw [hcmd, dfflr_false] at hitcm
    exact (hold hcmd hitcm a ha).mono (Nat.le_succ t)
  · rw [hcmd, dfflr_true] at hitcm
    rw [hcmd, hitcm, Bool.and_self, if_pos rfl] at ha
    rw [← Option.some.inj ha]
    exact since_of_read hct hcmd

theorem Memories.returns (hm : Memories mem region inp s t) (hbegun : Begun region (run inp s t))
    (hb : Bus region (inp t) (run inp s t)) (hcmd : (run inp s t).adapter.cmd = some a)
    (hv : Ift2icb.ifuIcbRspValid (run inp s t).adapter.ift (adapterAt inp s t) = true)
    (hsince : Since inp s c t a) :
    ∃ r v, c ≤ r ∧ r ≤ v ∧ v ≤ t ∧ ReadAt inp s r a ∧
      Ift2icb.Returns (mem v) region (adapterAt inp s t) a := by
  obtain ⟨r, hcr, hrt, hread⟩ := hsince
  obtain ⟨v, hvt, hlast, hret⟩ := hm.rsp a hcmd
    ((hbegun.sync.ctl.ifuIcbRspValid_eq (hbegun.sync.proto hb)).symm.trans hv)
  exact ⟨r, v, hcr, hlast r hrt a hread, hvt, hread, hret⟩

theorem Memories.holds (hm : Memories mem region inp s t)
    (hheld : (run inp s t).adapter.held = some a)
    (hup : (inp t).ifu2itcmHoldup = true ∨ (run inp s t).adapter.keep = true)
    (hin : Ift2icb.inItcm region a = true) (hsince : Since inp s c t a) :
    ∃ r v, c ≤ r ∧ r ≤ v ∧ v ≤ t ∧ ReadAt inp s r a ∧
      (inp t).ifu2itcmIcbRspRdata = Ift2icb.itcmLane (mem v) a := by
  obtain ⟨r, hcr, hrt, hread⟩ := hsince
  obtain ⟨v, hvt, hlast, hret⟩ := hm.held a hheld hup
  exact ⟨r, v, hcr, hlast r hrt a hread hin, hvt, hread, hret⟩

/-! ## What is offered to the fetch stage -/

theorem Renewed.word (h : Renewed mem region inp s c t) (hbegun : Begun region (run inp s t))
    (hb : Bus region (inp t) (run inp s t)) (hm : Memories mem region inp s t)
    (hout : (run inp s t).ifetch.outFlagR = true)
    (ht : Ift2icb.Turn (run inp s t).adapter.ift (adapterAt inp s t)) :
    WordSince mem region inp s c t (run inp s t).ifetch.pcR
      (Ift2icb.ifuRspInstr (run inp s t).adapter.ift (adapterAt inp s t)) := by
  obtain ⟨m, hstage⟩ := h.stage hout
  obtain ⟨vld, dat⟩ | ⟨uncrossed, cmd, rsp, dat⟩ | ⟨uncrossed, itcm, keep, held, dat⟩ |
    ⟨sel, cmd, rsp, dat⟩ := hstage.answer hbegun.sync.ctl hbegun.even ht
  · rw [dat]
    exact h.buffer vld
  · obtain ⟨r, v, hcr, hrv, hvt, hread, hret⟩ := hm.returns hbegun hb cmd rsp (h.cmd _ cmd)
    rw [dat _ hret]
    exact wordSince_of_lane hcr hrv hvt hread hbegun.even uncrossed Ift2icb.covers_self
  · obtain ⟨a, ha, hbase⟩ := held
    have hin : Ift2icb.inItcm region a = true := (Ift2icb.inItcm_congr hbase).trans itcm
    have hroute := (h.lane.route ht.sta').1
    rw [Ift2icb.fetchEnd, uncrossed, if_neg Bool.false_ne_true, itcm] at hroute
    obtain ⟨r, v, hcr, hrv, hvt, hread, hret⟩ := hm.holds ha (.inr keep) hin (h.held hroute a ha)
    rw [dat (mem v) ⟨fun _ => hret.trans (Ift2icb.itcmLane_congr hbase), by simp [itcm]⟩]
    exact wordSince_of_lane hcr hrv hvt hread hbegun.even uncrossed (covers_of_base8 itcm hbase)
  · obtain ⟨r, v, hcr, hrv, hvt, hread, hret⟩ := hm.returns hbegun hb cmd rsp (h.cmd _ cmd)
    rw [dat _ hret]
    exact wordSince_append (h.leftover (.inr ⟨ht.sta', sel⟩))
      ⟨r, v, _, hcr, hrv, hvt, hread, Ift2icb.covers_self, rfl⟩

/-! ## Every cycle -/

/-- What a request that uses the held lane needs. -/
def HeldSince (region : BitVec 32) (inp : ℕ → In) (s : Sys) (c t : ℕ) : Prop :=
  Ift2icb.ifuReqLaneSame (run inp s t).adapter.ift (adapterAt inp s t) = true →
    Ift2icb.ifuReqLaneHoldup (adapterAt inp s t) = true →
      Ift2icb.HeldUp region (adapterAt inp s t) (run inp s t).adapter ∧
        ∀ a, (run inp s t).adapter.held = some a → Since inp s c t a

theorem Renewed.of_req (hbegun : Begun region (run inp s t)) (hb : Bus region (inp t) (run inp s t))
    (hm : Memories mem region inp s t) (hct : c ≤ t)
    (hq : Ifetch.ifuReqHsked (run inp s t).ifetch (ifetchAt inp s t) = true)
    (hheld : HeldSince region inp s c t) : Renewed mem region inp s c (t + 1) := by
  have hp := hbegun.sync.proto hb
  have hc := hbegun.sync.ctl
  have ht := hbegun.sync.turn_of_req hb hq
  have hpc : (run inp s (t + 1)).ifetch.pcR = (adapterAt inp s t).ifuReqPc := step_pcR_of_req hq
  obtain ⟨hlane, hbegins⟩ := ht.begins hc hp hq fun hsame hup => (hheld hsame hup).1
  obtain ⟨-, hjoined, -, hneed0, -⟩ := ht.accept hq
  have heven : Ift2icb.IsEven (adapterAt inp s t).ifuReqPc := by
    rw [← hpc]
    exact isEven_step_pcR hbegun.even
  -- the low half that comes from the held lane
  have hleft : Ift2icb.reqSameCrossHoldup (run inp s t).adapter.ift (adapterAt inp s t) = true →
      Ift2icb.cross region (adapterAt inp s t).ifuReqPc = true →
        ReadSince mem region inp s c (t + 1) (adapterAt inp s t).ifuReqPc
          (Ift2icb.put2leftoverData (run inp s t).adapter.ift (adapterAt inp s t)) := by
    intro hreuse hcross
    simp only [Ift2icb.reqSameCrossHoldup, Bool.and_eq_true] at hreuse
    obtain ⟨hup, hsince⟩ := hheld hreuse.1.1 hreuse.2
    obtain ⟨a, ha, hbase⟩ := hup.held
    have hin : Ift2icb.inItcm region a = true := (Ift2icb.inItcm_congr hbase).trans hup.itcm
    obtain ⟨r, v, hcr, hrv, hvt, hread, hret⟩ := hm.holds ha (.inl hup.up) hin (hsince a ha)
    refine ⟨r, v, a, hcr, hrv, hvt.trans (Nat.le_succ t), hread, covers_of_base8 hup.itcm hbase, ?_⟩
    refine hup.leftover heven hcross fun b hb => ?_
    obtain rfl : a = b := Option.some.inj (ha.symm.trans hb)
    exact hret
  refine ⟨by rw [hpc]; exact hlane, fun _ => ?_, fun hhas => ?_, fun hvld => ?_, fun a ha => ?_,
    fun hitcm a ha => held_step hct (fun hcmd _ a ha => ?_) hitcm ha⟩
  · rw [hpc]
    exact ⟨fun _ => Ift2icb.put2leftoverData _ _, hbegins.stage fun _ _ => rfl⟩
  · rw [hpc]
    cases hbegins with
    | joined sta need2 joined crossed cmd leftover err up =>
      rw [show (run inp s (t + 1)).adapter.ift.leftoverR = _ from leftover]
      exact hleft (hjoined.symm.trans joined) crossed
    | reuse sta need2 joined | single sta need2 joined =>
      obtain hw | ⟨-, hsel⟩ := hhas
      · exact absurd (sta.symm.trans hw) (by simp)
      · have hno : Ift2icb.rspInstrSelLeftover (Sys.step (inp t) (run inp s t)).adapter.ift = false := by
          simp [Ift2icb.rspInstrSelLeftover, joined, Ift2icb.icbStaIs2nd, sta, Sys.step]
        exact absurd (hno.symm.trans hsel) Bool.false_ne_true
    | firstHalf sta need2 =>
      obtain hw | ⟨hissued, -⟩ := hhas
      · exact absurd (sta.symm.trans hw) (by simp)
      · exact absurd (need2.symm.trans (hissued.2 sta)) (by simp)
  · exact absurd ((ht.buf_empty hc hp hq).symm.trans hvld) Bool.false_ne_true
  · have hstep := ht.step_cmd hc hp
    rw [show (run inp s (t + 1)).adapter.cmd = _ from hstep] at ha
    split_ifs at ha with hcmd
    rw [← Option.some.inj ha]
    exact since_of_read hct hcmd
  · -- no read: the held lane is used again
    have hreuse : Ift2icb.reqNeed0uop (run inp s t).adapter.ift (adapterAt inp s t) = true := by
      have hcmd' := ht.cmd.symm.trans hcmd
      rw [show Ift2icb.ifuReqHsked (run inp s t).adapter.ift
        (ift2icbIn (run inp s t).regs (inp t)) = true from hq, Bool.true_and,
        Bool.not_eq_false'] at hcmd'
      exact hcmd'
    simp only [Ift2icb.reqNeed0uop, Bool.and_eq_true] at hreuse
    exact (hheld hreuse.1.1 hreuse.2).2 a ha

/-! A cycle without a request: what the adapter does, by its four kinds of cycle. -/

theorem Renewed.cmd_step (h : Renewed mem region inp s c t) (hct : c ≤ t)
    (ha : (run inp s (t + 1)).adapter.cmd = some a) : Since inp s c (t + 1) a := by
  change (if _ then _ else if _ then _ else _) = some a at ha
  split_ifs at ha with hread
  · rw [← Option.some.inj ha]
    exact since_of_read hct hread
  · exact (h.cmd a ha).mono (Nat.le_succ t)

theorem Renewed.follow_stall (h : Renewed mem region inp s c t) (hbegun : Begun region (run inp s t))
    (hb : Bus region (inp t) (run inp s t)) (hct : c ≤ t)
    (hq : Ifetch.ifuReqHsked (run inp s t).ifetch (ifetchAt inp s t) = false)
    (hpc : (run inp s (t + 1)).ifetch.pcR = (run inp s t).ifetch.pcR)
    (hs : Ift2icb.Stall (run inp s t).adapter.ift (adapterAt inp s t)) :
    Renewed mem region inp s c (t + 1) := by
  have hift : (run inp s (t + 1)).adapter.ift = (run inp s t).adapter.ift := hs.step_ift
  refine ⟨?_, fun hnext => ?_, fun hhas => ?_, fun hvld => ?_, fun a => h.cmd_step hct,
    fun hitcm a ha => held_step hct (fun _ => h.held) hitcm ha⟩
  · have hissued : Ift2icb.Issued (run inp s (t + 1)).adapter.ift →
        Ift2icb.Issued (run inp s t).adapter.ift := by
      rw [hift]
      exact id
    rw [hpc]
    exact h.lane.step_of_no_cmd hs.cmd hs.req hissued
  · obtain ⟨m, hstage⟩ := h.stage (outstanding_of_step hq hnext).1
    rw [hpc]
    exact ⟨m, hstage.step_stall hs hbegun.sync.ctl (hbegun.sync.proto hb)⟩
  · rw [hift] at hhas
    rw [hpc, hift]
    exact (h.leftover hhas).mono (Nat.le_succ t)
  · rw [hift] at hvld
    exact absurd (hs.buf.symm.trans hvld) Bool.false_ne_true

/-- The response of the first read goes into the leftover buffer. -/
theorem Renewed.follow_firstRsp (h : Renewed mem region inp s c t) (hbegun : Begun region (run inp s t))
    (hb : Bus region (inp t) (run inp s t)) (hm : Memories mem region inp s t) (hct : c ≤ t)
    (hpc : (run inp s (t + 1)).ifetch.pcR = (run inp s t).ifetch.pcR)
    (hf : Ift2icb.FirstRsp (run inp s t).adapter.ift (adapterAt inp s t)) :
    Renewed mem region inp s c (t + 1) := by
  have hp := hbegun.sync.proto hb
  have hc := hbegun.sync.ctl
  obtain ⟨hout, -⟩ := hbegun.sync.busy (.inl hf.sta)
  obtain ⟨m, hstage⟩ := h.stage hout
  obtain ⟨hcross, hcmd⟩ := hstage.firstHalf_of_firstRsp hf
  obtain ⟨hlane, hstage'⟩ := @Ift2icb.Stage.step_firstRsp m
    (fun _ => Ift2icb.put2leftoverData (run inp s t).adapter.ift (adapterAt inp s t)) _ _ _ _ hstage
    hf hc hp h.lane rfl fun _ _ => rfl
  refine ⟨by rw [hpc]; exact hlane, fun _ => by rw [hpc]; exact ⟨_, hstage'⟩, fun _ => ?_,
    fun hvld => ?_, fun a => h.cmd_step hct,
    fun hitcm a ha => held_step hct (fun _ => h.held) hitcm ha⟩
  · obtain ⟨r, v, hcr, hrv, hvt, hread, hret⟩ := hm.returns hbegun hb hcmd hf.mem (h.cmd _ hcmd)
    rw [hpc, show (run inp s (t + 1)).adapter.ift.leftoverR = _ from hf.leftover.1]
    exact ⟨r, v, _, hcr, hrv, hvt.trans (Nat.le_succ t), hread, Ift2icb.covers_self,
      Ift2icb.put2leftover_eq hbegun.even hcross (hc.route _ hcmd) hret⟩
  · have hbuf : (run inp s (t + 1)).adapter.ift.bypbuf = _ := hf.toQuiet.step_eq.2.2.1
    rw [hbuf] at hvld
    exact absurd (hf.buf.symm.trans hvld) Bool.false_ne_true

/-- The second read is issued. -/
theorem Renewed.follow_secondCmd (h : Renewed mem region inp s c t)
    (hbegun : Begun region (run inp s t)) (hb : Bus region (inp t) (run inp s t)) (hct : c ≤ t)
    (hpc : (run inp s (t + 1)).ifetch.pcR = (run inp s t).ifetch.pcR)
    (hw : Ift2icb.SecondCmd (run inp s t).adapter.ift (adapterAt inp s t)) :
    Renewed mem region inp s c (t + 1) := by
  obtain ⟨hout, -⟩ := hbegun.sync.busy (.inr hw.sta)
  obtain ⟨m, hstage⟩ := h.stage hout
  obtain ⟨hlane, hstage'⟩ :=
    hstage.step_secondCmd hw hbegun.sync.ctl (hbegun.sync.proto hb) h.lane rfl
  refine ⟨by rw [hpc]; exact hlane, fun _ => by rw [hpc]; exact ⟨_, hstage'⟩, fun _ => ?_,
    fun hvld => ?_, fun a => h.cmd_step hct,
    fun hitcm a ha => held_step hct (fun _ => h.held) hitcm ha⟩
  · rw [hpc, show (run inp s (t + 1)).adapter.ift.leftoverR = _ from hw.leftover.1]
    exact (h.leftover (.inl hw.sta)).mono (Nat.le_succ t)
  · have hbuf : (run inp s (t + 1)).adapter.ift.bypbuf = _ := hw.toQuiet.step_eq.2.2.1
    rw [hbuf] at hvld
    exact absurd (hw.buf.symm.trans hvld) Bool.false_ne_true

/-- An answer that the fetch stage does not take stays in the buffer. -/
theorem stage_of_refused (hbegun : Begun region (run inp s t)) (hb : Bus region (inp t) (run inp s t))
    (hq : Ifetch.ifuReqHsked (run inp s t).ifetch (ifetchAt inp s t) = false)
    (ht : Ift2icb.Turn (run inp s t).adapter.ift (adapterAt inp s t))
    (hidle : (run inp s (t + 1)).adapter.ift.icbStateR = .idle)
    (hnext : (run inp s (t + 1)).ifetch.outFlagR = true) :
    ∃ m, Ift2icb.Stage m region (run inp s (t + 1)).adapter (run inp s t).ifetch.pcR := by
  obtain ⟨hold, hrsp⟩ := outstanding_of_step hq hnext
  have hvalid := ht.rspValid hbegun.sync.ctl (hbegun.sync.proto hb) (hbegun.sync.outstanding hold)
  have hnot : (adapterAt inp s t).ifuRspReady = false := by
    have hrsp' : (Ift2icb.ifuRspValid (run inp s t).adapter.ift (adapterAt inp s t) &&
        (adapterAt inp s t).ifuRspReady) = false := rspHsked_eq.trans hrsp
    rw [hvalid, Bool.true_and] at hrsp'
    exact hrsp'
  have hvld : (run inp s (t + 1)).adapter.ift.bypbuf.vld = true := by
    refine ht.step_bypbuf.trans ?_
    rw [hvalid, hnot]
    rfl
  obtain ⟨m, hword⟩ := Ift2icb.exists_word (run inp s t).ifetch.pcR
    (run inp s (t + 1)).adapter.ift.bypbuf.dat.2
  exact ⟨m, .buffered hidle hvld hword.symm⟩

/-- The fetch is answered. -/
theorem Renewed.follow_turn (h : Renewed mem region inp s c t) (hbegun : Begun region (run inp s t))
    (hb : Bus region (inp t) (run inp s t)) (hm : Memories mem region inp s t) (hct : c ≤ t)
    (hq : Ifetch.ifuReqHsked (run inp s t).ifetch (ifetchAt inp s t) = false)
    (hpc : (run inp s (t + 1)).ifetch.pcR = (run inp s t).ifetch.pcR)
    (ht : Ift2icb.Turn (run inp s t).adapter.ift (adapterAt inp s t)) :
    Renewed mem region inp s c (t + 1) := by
  have hqa : Ift2icb.ifuReqHsked (run inp s t).adapter.ift (adapterAt inp s t) = false :=
    reqHsked_eq.trans hq
  have hidle : (run inp s (t + 1)).adapter.ift.icbStateR = .idle :=
    ht.state.trans (if_neg fun hreq => Bool.false_ne_true (hqa.symm.trans hreq))
  refine ⟨?_, fun hnext => ?_, fun hhas => ?_, fun hvld => ?_, fun a => h.cmd_step hct,
    fun hitcm a ha => held_step hct (fun _ => h.held) hitcm ha⟩
  · have hno : Ift2icb.ifuIcbCmdHsked (run inp s t).adapter.ift (adapterAt inp s t) = false :=
      ht.cmd.trans ((Bool.and_eq_false_iff).mpr (.inl hqa))
    rw [hpc]
    exact h.lane.step_of_no_cmd hno hqa fun _ => ht.sta'
  · rw [hpc]
    exact stage_of_refused hbegun hb hq ht hidle hnext
  · obtain hwait | ⟨-, hsel⟩ := hhas
    · exact absurd (hidle.symm.trans hwait) (by simp)
    · simp [Ift2icb.rspInstrSelLeftover, Ift2icb.icbStaIs1st, Ift2icb.icbStaIs2nd, hidle] at hsel
  · have hvalid := ht.step_bypbuf.symm.trans hvld
    have hold := hbegun.sync.outFlagR_of_rspValid hb ((Bool.and_eq_true _ _).mp hvalid).1
    have hdat : (run inp s (t + 1)).adapter.ift.bypbuf.dat = _ := Bypbuf.step_dat ht.buf hvld
    rw [hpc, hdat]
    exact (h.word hbegun hb hm hold ht).mono (Nat.le_succ t)

theorem Renewed.follow (h : Renewed mem region inp s c t) (hbegun : Begun region (run inp s t))
    (hb : Bus region (inp t) (run inp s t)) (hm : Memories mem region inp s t) (hct : c ≤ t)
    (hq : Ifetch.ifuReqHsked (run inp s t).ifetch (ifetchAt inp s t) = false)
    (hpc : (run inp s (t + 1)).ifetch.pcR = (run inp s t).ifetch.pcR) :
    Renewed mem region inp s c (t + 1) := by
  obtain hs | hf | hw | ht := hbegun.sync.ctl.cases (hbegun.sync.proto hb)
  · exact h.follow_stall hbegun hb hct hq hpc hs
  · exact h.follow_firstRsp hbegun hb hm hct hpc hf
  · exact h.follow_secondCmd hbegun hb hct hpc hw
  · exact h.follow_turn hbegun hb hm hct hq hpc ht

theorem Renewed.heldSince (h : Renewed mem region inp s c t) (hbegun : Begun region (run inp s t))
    (hb : Bus region (inp t) (run inp s t))
    (hq : Ifetch.ifuReqHsked (run inp s t).ifetch (ifetchAt inp s t) = true) :
    HeldSince region inp s c t := by
  intro hsame hhold
  have hup := hbegun.heldUp hb (fun _ _ => h.lane) (hbegun.sync.turn_of_req hb hq).sta' hq hsame hhold
  exact ⟨hup, h.held hup.route.1⟩

/-- A request for a flush target uses nothing that was there. -/
theorem heldSince_of_flush
    (hflush : Ifetch.pipeFlushReqReal (run inp s t).ifetch (ifetchAt inp s t) = true) :
    HeldSince region inp s c t := by
  intro hsame _
  have hseq : Ifetch.ifuReqSeq (run inp s t).ifetch (ifetchAt inp s t) = true :=
    ((Bool.and_eq_true _ _).mp hsame).1
  rw [Ifetch.ifuReqSeq, hflush] at hseq
  cases hseq

section
variable (h0 : s.IsReset) (hbus : ∀ t, Bus region (inp t) (run inp s t))
  (hmem : ∀ t, Memories mem region inp s t) (hflush : (inp c).pipeFlushReq = true)
include h0 hbus hmem hflush

theorem Renewed.run (hct : c < t) (hdly : (Ifu.run inp s t).ifetch.dlyFlushR = false) :
    Renewed mem region inp s c t := by
  induction t with
  | zero => exact absurd hct (Nat.not_lt_zero c)
  | succ t ih =>
    have hct' : c ≤ t := Nat.lt_succ_iff.mp hct
    have hbegun := Begun.run h0 hbus t
    obtain hq | ⟨hq, hold, hno, hpc⟩ := calm_or_req hdly
    · refine .of_req hbegun (hbus t) (hmem t) hct' hq ?_
      obtain rfl | hlt := Nat.eq_or_lt_of_le hct'
      · exact heldSince_of_flush ((Bool.or_eq_true _ _).mpr (.inl hflush))
      · cases hold : (Ifu.run inp s t).ifetch.dlyFlushR
        · exact (ih hlt hold).heldSince hbegun (hbus t) hq
        · exact heldSince_of_flush ((Bool.or_eq_true _ _).mpr (.inr hold))
    · obtain rfl | hlt := Nat.eq_or_lt_of_le hct'
      · exact absurd (hno.symm.trans hflush) Bool.false_ne_true
      · exact (ih hlt hold).follow hbegun (hbus t) (hmem t) hct' hq hpc

/-- Whatever goes into the IR since the flush was read since the flush: the low halfword, and the high
halfword of a 32-bit instruction. -/
theorem readSince_of_flush (hct : c ≤ t)
    (hload : Ifetch.irValidSet (Ifu.run inp s t).ifetch (ifetchAt inp s t) = true) :
    ReadSince mem region inp s c t (Ifu.run inp s (t + 1)).ifetch.ifuPcR
        ((Ifu.run inp s (t + 1)).ifetch.ifuIrR.extractLsb' 0 16) ∧
      (Decode.decRv32 (Ifu.run inp s (t + 1)).ifetch.ifuIrR = true →
        ReadSince mem region inp s c t ((Ifu.run inp s (t + 1)).ifetch.ifuPcR + 2#32)
          ((Ifu.run inp s (t + 1)).ifetch.ifuIrR.extractLsb' 16 16)) := by
  have hbegun := Begun.run h0 hbus t
  obtain ⟨hv, hcalm, -⟩ := Ifetch.irValidSet_iff.mp hload
  obtain ⟨hno, hdly⟩ := Ifetch.pipeFlushReqReal_eq_false.mp hcalm
  have hlt : c < t := by
    obtain rfl | hlt := Nat.eq_or_lt_of_le hct
    · exact absurd (hno.symm.trans hflush) Bool.false_ne_true
    · exact hlt
  have hword := (Renewed.run h0 hbus hmem hflush hlt hdly).word hbegun (hbus t) (hmem t)
    (hbegun.sync.outFlagR_of_rspValid (hbus t) hv) (hbegun.sync.turn_of_irValidSet (hbus t) hload)
  have hpc : (Ifu.run inp s (t + 1)).ifetch.ifuPcR = (Ifu.run inp s t).ifetch.pcR :=
    hbegun.kept.step_ifuPcR hload
  obtain ⟨hlo, hall⟩ := Ifetch.step_ifuIrR hload
  have hlen := Ifetch.decRv32_step_ifuIrR hload
  rw [hpc]
  constructor
  · rw [show (Ifu.run inp s (t + 1)).ifetch.ifuIrR.extractLsb' 0 16 = _ from hlo]
    exact hword.1
  · intro hrv32
    rw [show (Ifu.run inp s (t + 1)).ifetch.ifuIrR = _ from hall (hlen.symm.trans hrv32)]
    exact hword.2

end

end
end E203.Ifu
