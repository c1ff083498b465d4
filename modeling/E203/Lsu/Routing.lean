import E203.Lib.Channel
import E203.Lsu.Ctrl

/-! # Routing of commands and responses in the load/store unit

* `Target`, `decode`: the three targets and the one that an address belongs to.
* `Routed`: a command is accepted by one target, the one of its address, or by none.
* `routing`: over a run each command is answered once, by its target, in order.
-/

namespace E203.LsuCtrl
set_option autoImplicit false

inductive Target
  | biu | dtcm | itcm
deriving DecidableEq

def decode (a : BitVec 32) : Target :=
  if a.extractLsb' ITCM_ADDR_WIDTH (32 - ITCM_ADDR_WIDTH) =
      ITCM_ADDR_BASE.extractLsb' ITCM_ADDR_WIDTH (32 - ITCM_ADDR_WIDTH) then .itcm
  else if a.extractLsb' DTCM_ADDR_WIDTH (32 - DTCM_ADDR_WIDTH) =
      DTCM_ADDR_BASE.extractLsb' DTCM_ADDR_WIDTH (32 - DTCM_ADDR_WIDTH) then .dtcm
  else .biu

def Bus.icb (b : Bus) : Target → Icb
  | .biu => b.biu
  | .dtcm => b.dtcm
  | .itcm => b.itcm

/-- Everything that the unit samples in a cycle. -/
structure Env extends In where
  cmd : Cmd
  commitTrap : Bool
  commitMret : Bool

section
variable (s : State) (e : Env)

def cmdValid : Target → Bool
  | .biu => biuIcbCmdValid s e.toIn e.cmd
  | .dtcm => dtcmIcbCmdValid s e.toIn e.cmd
  | .itcm => itcmIcbCmdValid s e.toIn e.cmd

def rspReady : Target → Bool
  | .biu => biuIcbRspReady s e.toIn
  | .dtcm => dtcmIcbRspReady s e.toIn
  | .itcm => itcmIcbRspReady s e.toIn

def targetCmd (T : Target) : Bool := cmdValid s e T && (e.icb T).cmdReady

def targetRsp (T : Target) : Bool := (e.icb T).rspValid && rspReady s e T

/-- The handshakes with the address-generation unit and the long-pipe write-back. -/
def aguCmd : Bool := e.cmd.valid && aguIcbCmdReady s e.toIn
def aguRsp : Bool := aguIcbRspValid s e.toBus && e.aguIcbRspReady
def lsuO : Bool := lsuOValid s e.toBus && e.lsuOReady

/-- What belongs to a command until it is answered. -/
def Cmd.usr (c : Cmd) : Usr := ⟨c.back2agu, c.usign, c.read, c.size, c.itag, c.addr, c.excl⟩

def next : State := step s e.toIn e.cmd e.commitTrap e.commitMret

/-- The accepted command, with the target of its address. -/
def accepted : List (Target × Usr) :=
  if aguCmd s e then [(decode e.cmd.addr, e.cmd.usr)] else []

/-- The response that is handed on, with the target that it was taken from. -/
def delivered : List (Target × Usr) :=
  [Target.biu, .dtcm, .itcm].filterMap fun T =>
    if targetRsp s e T then some (T, preAguIcbRspUsr s) else none

/-- The command that waits for its response. -/
def pending : List (Target × Usr) :=
  if s.spltVldR then [(decode s.spltDatR.usr.addr, s.spltDatR.usr)] else []

end

/-- The split stage has the target of its command's address. -/
structure Held (s : State) : Prop extends Ok s where
  biu : s.spltVldR = true → s.spltDatR.biu = decide (decode s.spltDatR.usr.addr = .biu)
  dtcm : s.spltVldR = true → s.spltDatR.dtcm = decide (decode s.spltDatR.usr.addr = .dtcm)
  itcm : s.spltVldR = true → s.spltDatR.itcm = decide (decode s.spltDatR.usr.addr = .itcm)

section
variable {s : State} {e : Env}

/-! ## The address decoder -/

/-- The regions of the ITCM and of the DTCM have no address in common. -/
theorem regions_disjoint :
    ITCM_ADDR_BASE.extractLsb' ITCM_ADDR_WIDTH (32 - ITCM_ADDR_WIDTH) ≠
      DTCM_ADDR_BASE.extractLsb' DTCM_ADDR_WIDTH (32 - DTCM_ADDR_WIDTH) := by decide

theorem decode_cmd (hv : e.cmd.valid = true) :
    arbtIcbCmdItcm e.cmd = decide (decode e.cmd.addr = .itcm) ∧
      arbtIcbCmdDtcm e.cmd = decide (decode e.cmd.addr = .dtcm) ∧
      arbtIcbCmdBiu e.cmd = decide (decode e.cmd.addr = .biu) := by
  have haddr : arbtIcbCmdAddr e.cmd = e.cmd.addr := by rw [arbtIcbCmdAddr, hv, gate_true]
  rw [arbtIcbCmdBiu, arbtIcbCmdItcm, arbtIcbCmdDtcm, haddr, decode]
  split_ifs with hi hd
  · simp [hi, regions_disjoint]
  · simp [hd, regions_disjoint.symm]
  · simp [hi, hd]

/-! ## One cycle -/

/-- A target takes the command when it is its own and the unit accepts it. -/
theorem targetCmd_eq (T : Target) :
    targetCmd s e T = (aguCmd s e && decide (decode e.cmd.addr = T)) := by
  cases hv : e.cmd.valid
  · cases T <;> simp [targetCmd, cmdValid, aguCmd, biuIcbCmdValid, dtcmIcbCmdValid,
      itcmIcbCmdValid, arbtIcbCmdValidPos, arbtIcbCmdValid, hv]
  · obtain ⟨hi, hd, hb⟩ := decode_cmd hv
    cases T <;>
      simp only [targetCmd, cmdValid, aguCmd, biuIcbCmdValid, dtcmIcbCmdValid, itcmIcbCmdValid,
        arbtIcbCmdValidPos, arbtIcbCmdValid, aguIcbCmdReady, arbtIcbCmdReady, allIcbCmdReady, hv, hi,
        hd, hb, Bus.icb, Bool.true_and] <;>
      grind

theorem spltFifoWen_eq_aguCmd : spltFifoWen s e.toIn e.cmd = aguCmd s e := spltFifoWen_eq

theorem next_keep (h : aguCmd s e = false) :
    (next s e).spltVldR = (s.spltVldR && !arbtIcbRspHsked s e.toIn) ∧
      (next s e).spltDatR = s.spltDatR :=
  step_keep (spltFifoWen_eq_aguCmd.trans h)

theorem next_accept (h : aguCmd s e = true) :
    (next s e).spltVldR = true ∧ (next s e).spltDatR = spltFifoWdat s e.cmd :=
  step_accept (spltFifoWen_eq_aguCmd.trans h)

theorem Held.of_reset (h : IsReset s) : Held s where
  toOk := .of_reset h
  biu hv := absurd (h.splt.symm.trans hv) Bool.false_ne_true
  dtcm hv := absurd (h.splt.symm.trans hv) Bool.false_ne_true
  itcm hv := absurd (h.splt.symm.trans hv) Bool.false_ne_true

/-- An accepted command is held with what belongs to it. -/
theorem spltFifoWdat_of_cmd (h : aguCmd s e = true) :
    (spltFifoWdat s e.cmd).usr = e.cmd.usr ∧
      (spltFifoWdat s e.cmd).biu = decide (decode e.cmd.addr = .biu) ∧
      (spltFifoWdat s e.cmd).dtcm = decide (decode e.cmd.addr = .dtcm) ∧
      (spltFifoWdat s e.cmd).itcm = decide (decode e.cmd.addr = .itcm) := by
  have hv : e.cmd.valid = true := ((Bool.and_eq_true _ _).mp h).1
  obtain ⟨hi, hd, hb⟩ := decode_cmd hv
  refine ⟨?_, hb, hd, hi⟩
  change arbtIcbCmdUsr e.cmd = _
  rw [arbtIcbCmdUsr, if_pos hv]
  rfl

theorem Held.step (h : Held s) (e : Env) : Held (next s e) := by
  cases hcmd : aguCmd s e
  · obtain ⟨hvld, hdat⟩ := next_keep hcmd
    have hold : (next s e).spltVldR = true → s.spltVldR = true := fun hv =>
      ((Bool.and_eq_true _ _).mp (hvld.symm.trans hv)).1
    refine ⟨h.toOk.step, fun hv => ?_, fun hv => ?_, fun hv => ?_⟩ <;> rw [hdat]
    · exact h.biu (hold hv)
    · exact h.dtcm (hold hv)
    · exact h.itcm (hold hv)
  · obtain ⟨-, hdat⟩ := next_accept hcmd
    obtain ⟨husr, hb, hd, hi⟩ := spltFifoWdat_of_cmd hcmd
    refine ⟨h.toOk.step, fun _ => ?_, fun _ => ?_, fun _ => ?_⟩ <;> rw [hdat, husr]
    · exact hb
    · exact hd
    · exact hi

/-- A response is taken from the target of the command that is held. -/
theorem Held.targetRsp_eq (h : Held s) (T : Target) :
    targetRsp s e T =
      (arbtIcbRspHsked s e.toIn && decide (decode s.spltDatR.usr.addr = T)) := by
  cases hv : s.spltVldR
  · rw [hsked_of_empty hv]
    cases T <;> simp [targetRsp, rspReady, biuIcbRspReady, dtcmIcbRspReady, itcmIcbRspReady,
      spltRdat, hv, Splt.zero]
  · have hb := h.biu hv
    have hd := h.dtcm hv
    have hi := h.itcm hv
    cases T <;>
      simp only [targetRsp, rspReady, biuIcbRspReady, dtcmIcbRspReady, itcmIcbRspReady,
        arbtIcbRspHsked, arbtIcbRspValid, spltRdat, hv, if_true, hb, hd, hi, Bus.icb] <;>
      cases decode s.spltDatR.usr.addr <;> simp

/-- What the target of the command that is held answers. -/
theorem Held.response (h : Held s) (hv : s.spltVldR = true) :
    arbtIcbRspValid s e.toBus = (e.icb (decode s.spltDatR.usr.addr)).rspValid ∧
      arbtIcbRspErr s e.toBus = (e.icb (decode s.spltDatR.usr.addr)).rspErr ∧
      arbtIcbRspRdata s e.toBus = (e.icb (decode s.spltDatR.usr.addr)).rspRdata := by
  have hb := h.biu hv
  have hd := h.dtcm hv
  have hi := h.itcm hv
  simp only [arbtIcbRspValid, arbtIcbRspErr, arbtIcbRspRdata, spltRdat, hv, if_true, hb, hd, hi,
    Bus.icb]
  cases decode s.spltDatR.usr.addr <;> simp

theorem Held.delivered_eq (h : Held s) :
    delivered s e =
      if arbtIcbRspHsked s e.toIn then [(decode s.spltDatR.usr.addr, s.spltDatR.usr)] else [] := by
  have husr : arbtIcbRspHsked s e.toIn = true → preAguIcbRspUsr s = s.spltDatR.usr := by
    intro hrsp
    rw [preAguIcbRspUsr, spltRdat, if_pos]
    by_contra hv
    rw [hsked_of_empty (Bool.not_eq_true _ ▸ hv)] at hrsp
    cases hrsp
  simp only [delivered, h.targetRsp_eq]
  cases hrsp : arbtIcbRspHsked s e.toIn
  · rfl
  · rw [husr hrsp]
    cases decode s.spltDatR.usr.addr <;> rfl

theorem aguCmd_of_full (h : Held s) (hv : s.spltVldR = true)
    (hno : arbtIcbRspHsked s e.toIn = false) : aguCmd s e = false := by
  rw [aguCmd, h.aguIcbCmdReady_eq, hv, hno]
  simp

theorem pending_of_accept (hcmd : aguCmd s e = true) : pending (next s e) = accepted s e := by
  obtain ⟨hvld, hdat⟩ := next_accept hcmd
  rw [pending, hvld, hdat, (spltFifoWdat_of_cmd hcmd).1, accepted, hcmd]
  rfl

theorem of_pending {T : Target} {u : Usr} (h : pending s = [(T, u)]) :
    s.spltVldR = true ∧ decode s.spltDatR.usr.addr = T ∧ s.spltDatR.usr = u := by
  rw [pending] at h
  split at h
  · rename_i hv
    simp only [List.cons.injEq, Prod.mk.injEq, and_true] at h
    exact ⟨hv, h.1, h.2⟩
  · cases h

/-- One cycle takes a command in at the back and a response out at the front. -/
theorem Held.cycle (h : Held s) :
    pending s ++ accepted s e = delivered s e ++ pending (next s e) := by
  have hkeep : aguCmd s e = false →
      pending (next s e) = if arbtIcbRspHsked s e.toIn then [] else pending s := by
    intro hcmd
    obtain ⟨hvld, hdat⟩ := next_keep hcmd
    rw [pending, hvld, hdat, pending]
    cases s.spltVldR <;> cases arbtIcbRspHsked s e.toIn <;> rfl
  have hnone : aguCmd s e = false → accepted s e = [] := by
    intro hcmd
    rw [accepted, hcmd]
    rfl
  rw [h.delivered_eq]
  cases hrsp : arbtIcbRspHsked s e.toIn
  · cases hv : s.spltVldR
    · have hemp : pending s = [] := by rw [pending, hv]; rfl
      cases hcmd : aguCmd s e
      · rw [hnone hcmd, hkeep hcmd, hrsp]
        simp
      · rw [pending_of_accept hcmd, hemp]
        rfl
    · have hcmd := aguCmd_of_full h hv hrsp
      rw [hnone hcmd, hkeep hcmd, hrsp]
      simp
  · have hv : s.spltVldR = true := by
      by_contra hv
      rw [hsked_of_empty (Bool.not_eq_true _ ▸ hv)] at hrsp
      cases hrsp
    have hone : pending s = [(decode s.spltDatR.usr.addr, s.spltDatR.usr)] := by
      rw [pending, hv]
      rfl
    cases hcmd : aguCmd s e
    · rw [hnone hcmd, hkeep hcmd, hrsp, hone]
      rfl
    · rw [pending_of_accept hcmd, hone]
      rfl

/-- The requester that a response goes back to. -/
def Env.ready (e : Env) (u : Usr) : Bool := if u.back2agu then e.aguIcbRspReady else e.lsuOReady

theorem Held.hsked_iff (h : Held s) :
    arbtIcbRspHsked s e.toIn = true ↔ s.spltVldR = true ∧
      (e.icb (decode s.spltDatR.usr.addr)).rspValid = true ∧ e.ready s.spltDatR.usr = true := by
  cases hv : s.spltVldR
  · rw [hsked_of_empty hv]
    simp
  · have husr : preAguIcbRspUsr s = s.spltDatR.usr := by rw [preAguIcbRspUsr, spltRdat, if_pos hv]
    rw [arbtIcbRspHsked, (h.response hv).1, h.rspReady_eq hv, preAguIcbRspReady, husr,
      Bool.and_eq_true]
    simp [Env.ready]

/-- What a cycle does with commands and responses. -/
structure Routed (s : State) (e : Env) : Prop where
  accept : aguCmd s e = true ↔ ∃! T, targetCmd s e T = true
  target : ∀ T, targetCmd s e T = true → T = decode e.cmd.addr
  response : ∀ T, targetRsp s e T = true → ∃ u, pending s = [(T, u)] ∧ delivered s e = [(T, u)] ∧
    preAguIcbRspUsr s = u ∧ aguRsp s e = u.back2agu ∧ lsuO s e = !u.back2agu ∧
    arbtIcbRspRdata s e.toBus = (e.icb T).rspRdata ∧ arbtIcbRspErr s e.toBus = (e.icb T).rspErr
  port : aguRsp s e = true ∨ lsuO s e = true → ∃ T, targetRsp s e T = true

theorem Held.port_eq (h : Held s) (hrsp : arbtIcbRspHsked s e.toIn = true) :
    aguRsp s e = s.spltDatR.usr.back2agu ∧ lsuO s e = !s.spltDatR.usr.back2agu := by
  obtain ⟨hv, hval, hready⟩ := h.hsked_iff.mp hrsp
  have husr : preAguIcbRspUsr s = s.spltDatR.usr := by rw [preAguIcbRspUsr, spltRdat, if_pos hv]
  rw [Env.ready] at hready
  rw [aguRsp, lsuO, aguIcbRspValid, lsuOValid, h.toOk.preValid_eq, (h.response hv).1, husr, hval]
  cases hback : s.spltDatR.usr.back2agu <;> simp_all

theorem Held.routed (h : Held s) : Routed s e where
  accept := by
    simp only [targetCmd_eq, Bool.and_eq_true, decide_eq_true_eq]
    constructor
    · intro hcmd
      exact ⟨_, ⟨hcmd, rfl⟩, fun T hT => hT.2.symm⟩
    · rintro ⟨T, hT, -⟩
      exact hT.1
  target T hT := by
    rw [targetCmd_eq, Bool.and_eq_true, decide_eq_true_eq] at hT
    exact hT.2.symm
  response T hT := by
    rw [h.targetRsp_eq, Bool.and_eq_true, decide_eq_true_eq] at hT
    obtain ⟨hrsp, rfl⟩ := hT
    have hv := (h.hsked_iff.mp hrsp).1
    obtain ⟨hagu, hlsu⟩ := h.port_eq hrsp
    obtain ⟨-, herr, hdat⟩ := h.response (e := e) hv
    refine ⟨s.spltDatR.usr, ?_, ?_, ?_, hagu, hlsu, hdat, herr⟩
    · rw [pending, if_pos hv]
    · rw [h.delivered_eq, if_pos hrsp]
    · rw [preAguIcbRspUsr, spltRdat, if_pos hv]
  port hport := by
    refine ⟨decode s.spltDatR.usr.addr, ?_⟩
    rw [h.targetRsp_eq, decide_eq_true rfl, Bool.and_true]
    have hv : s.spltVldR = true := by
      by_contra hv
      have hno := preValid_of_empty (Bool.not_eq_true _ ▸ hv) e.toBus
      simp [aguRsp, lsuO, aguIcbRspValid, lsuOValid, hno] at hport
    have husr : preAguIcbRspUsr s = s.spltDatR.usr := by
      rw [preAguIcbRspUsr, spltRdat, if_pos hv]
    simp only [aguRsp, lsuO, aguIcbRspValid, lsuOValid, h.toOk.preValid_eq, (h.response hv).1, husr,
      Bool.and_eq_true, Bool.not_eq_true'] at hport
    refine h.hsked_iff.mpr ⟨hv, ?_, ?_⟩
    · obtain hport | hport := hport
      · exact hport.1.1
      · exact hport.1.1
    · rw [Env.ready]
      obtain hport | hport := hport
      · rw [hport.1.2]
        exact hport.2
      · rw [hport.1.2]
        exact hport.2

end

/-! ## Runs -/

def run (env : ℕ → Env) (s : State) (t : ℕ) : State := Lib.stateAt (fun e s => next s e) env s t

section
variable {env : ℕ → Env} {s : State}

theorem Held.run (h0 : IsReset s) (t : ℕ) : Held (run env s t) := by
  induction t with
  | zero => exact .of_reset h0
  | succ t ih => exact ih.step _

theorem conserves (h0 : IsReset s) :
    Lib.Conserves (fun t => accepted (run env s t) (env t)) (fun t => delivered (run env s t) (env t))
      fun t => pending (run env s t) where
  start := by
    change pending s = []
    rw [pending, h0.splt]
    rfl
  cycle t := (Held.run h0 t).cycle

/-- Each command goes to the target of its address and to no other; each response is taken from the
target of the oldest command that waits and goes where that command came from; what has been accepted
is what has been answered, in order, and at most one more; and a command whose target answers is
answered once, with nothing in between. -/
theorem routing (h0 : IsReset s) :
    (∀ t, Routed (run env s t) (env t)) ∧
      (∀ t, Lib.emitted (fun u => accepted (run env s u) (env u)) 0 t =
          Lib.emitted (fun u => delivered (run env s u) (env u)) 0 t ++ pending (run env s t) ∧
        (pending (run env s t)).length ≤ 1) ∧
      ∀ t, aguCmd (run env s t) (env t) = true →
        (∃ u, t < u ∧ ((env u).icb (decode (env t).cmd.addr)).rspValid = true ∧
          (env u).ready (env t).cmd.usr = true) →
        ∃ u, t < u ∧
          delivered (run env s u) (env u) = [(decode (env t).cmd.addr, (env t).cmd.usr)] ∧
          ∀ v, t < v → v < u →
            accepted (run env s v) (env v) = [] ∧ delivered (run env s v) (env v) = [] := by
  refine ⟨fun t => (Held.run h0 t).routed, fun t => ⟨(conserves h0).emitted_eq t, ?_⟩, ?_⟩
  · rw [pending]
    split <;> simp
  · intro t hcmd hans
    have hnext : pending (run env s (t + 1)) = [(decode (env t).cmd.addr, (env t).cmd.usr)] := by
      have hacc : accepted (run env s t) (env t) =
          [(decode (env t).cmd.addr, (env t).cmd.usr)] := if_pos hcmd
      exact (pending_of_accept hcmd).trans hacc
    refine Lib.answered (conserves h0) hnext (fun u hu hno => ?_) (fun u hu hyes => ?_) hans
    · obtain ⟨hv, hT, husr⟩ := of_pending hu
      have hrsp : arbtIcbRspHsked (run env s u) (env u).toIn = false := by
        rw [← Bool.not_eq_true, (Held.run h0 u).hsked_iff, hT, husr]
        exact fun hand => hno hand.2
      constructor
      · rw [accepted, aguCmd_of_full (Held.run h0 u) hv hrsp]
        rfl
      · rw [(Held.run h0 u).delivered_eq, hrsp]
        rfl
    · obtain ⟨hv, hT, husr⟩ := of_pending hu
      have hrsp : arbtIcbRspHsked (run env s u) (env u).toIn = true := by
        rw [(Held.run h0 u).hsked_iff, hT, husr]
        exact ⟨hv, hyes⟩
      rw [(Held.run h0 u).delivered_eq, hrsp, hT, husr]
      rfl

end

/-- A word is read from the DTCM, which answers in the next cycle. -/
def dtcmRead (t : ℕ) : Env where
  biu := ⟨true, false, false, 0#32⟩
  dtcm := ⟨true, t == 1, false, 0x55#32⟩
  itcm := ⟨true, false, false, 0#32⟩
  aguIcbRspReady := true
  lsuOReady := true
  cmd := ⟨t == 0, 0x90000010#32, true, 0#32, 0#4, false, false, 0b10#2, false, false, 1#1⟩
  commitTrap := false
  commitMret := false

theorem routing_dtcmRead :
    ∃ u, 0 < u ∧ delivered (run dtcmRead ⟨false, 0#1, false, .zero, false, 0#32⟩ u) (dtcmRead u) =
      [(.dtcm, ⟨false, false, true, 0b10#2, 1#1, 0x90000010#32, false⟩)] := by
  obtain ⟨u, hu, hdel, -⟩ := (@routing dtcmRead ⟨false, 0#1, false, .zero, false, 0#32⟩
    ⟨rfl, rfl, rfl, rfl⟩).2.2 0 (by decide) ⟨1, by decide, by decide, by decide⟩
  exact ⟨u, hu, hdel⟩

end E203.LsuCtrl
