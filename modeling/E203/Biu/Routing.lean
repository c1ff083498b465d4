import E203.Biu.Stages
import E203.Lib.Queue

/-! # The bus interface unit routes every command once and answers it once

* `InStage.step`: what a cycle does in each stage; `Moves` says what it emits.
* `Accounts`: the transactions so far, and what the ports and the slaves have seen of them.
* `routes_once`: over a run.
-/

namespace E203.Biu
set_option autoImplicit false

variable {cfg : Cfg}

/-- The slave that has a command. -/
def Stage.atSlave (cfg : Cfg) : Option Stage → List Slave
  | some (forwarded p c) => [route cfg p c.addr]
  | _ => []

section
variable {s : State} {i : In} {st : Option Stage} {p : Fin 2} {c : Cmd} {r : Rsp}

/-- A slave responds to a command that it has accepted. -/
def Responds (cfg : Cfg) (s : State) (i : In) (st : Option Stage) : Prop :=
  ∀ j, j ≠ .ifuerr → (slave cfg s i j).rspValid = true →
    j ∈ Stage.atSlave cfg st ++ (issued cfg s i).map Prod.fst

/-- What a cycle leaves in the arbiter and the buffers. -/
theorem InStage.next (h : InStage cfg s st) (i : In) :
    Arbt.Tracks (step cfg i s).arbt
      ((if Arbt.rspidFifoRen s.arbt (arbtIcbRspValid s) (arbtBusIcbRspReady i)
        then (Stage.ports st).tail else Stage.ports st) ++
        if Arbt.rspidFifoWen true s.arbt (arbtIcbRspValid s) (arbtBusIcbRspReady i)
          (arbtBusIcbCmdValid i) (arbtIcbCmdReady s) then
          [Arbt.iArbtIndicId (arbtBusIcbCmdValid i)] else []) ∧
    (step cfg i s).cmdFifo.Has
      ((if bufIcbCmdReady cfg s i then (Stage.cmds st).tail else Stage.cmds st) ++
        if arbtIcbCmdValid s i && s.cmdFifo.iRdy then [arbtIcbCmd i] else []) ∧
    (step cfg i s).rspFifo.Has
      ((if arbtIcbRspReady s i then (Stage.rsps st).tail else Stage.rsps st) ++
        if bufIcbRspValid cfg s i && s.rspFifo.iRdy then [bufIcbRsp cfg s i] else []) :=
  ⟨Arbt.Tracks.step h.arbt _ _ _ _ _, h.cmdFifo.step _ _ _, h.rspFifo.step _ _ _⟩

/-! ## No command -/

theorem InStage.taken_none (h : InStage cfg s none) (hresp : Responds cfg s i none) :
    (∀ j, spltBusIcbRspValid cfg s i j = false) ∧ taken cfg s i = [] := by
  have hvld : bufIcbCmdValid s = false := h.vld_of_empty rfl
  have hno : ∀ j, spltBusIcbRspValid cfg s i j = false := by
    intro j
    by_cases hj : j = .ifuerr
    · subst hj
      change spltBusIcbCmdValid cfg s .ifuerr = false
      simp [spltBusIcbCmdValid, Splt.oIcbCmdValid, Splt.iIcbCmdValidPre, hvld]
    · by_contra hv
      have hmem := hresp j hj (Bool.not_eq_false _ ▸ hv)
      rw [issued_of_invalid hvld] at hmem
      cases hmem
  refine ⟨hno, ?_⟩
  rw [taken, List.flatMap_eq_nil_iff]
  intro j _
  rw [hno]
  rfl

theorem InStage.step_none (h : InStage cfg s none) (hresp : Responds cfg s i none) :
    ∃ st, Moves cfg none (accepted s i) (issued cfg s i) (taken cfg s i) (delivered s i) st ∧
      InStage cfg (step cfg i s) st := by
  have hvld : bufIcbCmdValid s = false := h.vld_of_empty rfl
  obtain ⟨hno, htaken⟩ := h.taken_none hresp
  have hrsp : bufIcbRspValid cfg s i = false := by
    rw [bufIcbRspValid, Splt.iIcbRspValid, List.any_eq_false]
    intro j _
    rw [hno, Bool.false_and]
    exact Bool.false_ne_true
  obtain ⟨harbt, hcmd, hrspFifo⟩ := h.next i
  have hsplt : (step cfg i s).splt.rspid.Has [] := by
    rw [step, hvld]
    apply Splt.step_idle h.splt
    rw [Splt.rspidFifoRen]
    change (bufIcbRspValid cfg s i && _) = false
    rw [hrsp]
    rfl
  rw [hrsp, Bool.false_and, if_neg Bool.false_ne_true, List.append_nil] at hrspFifo
  have hrsps : (if arbtIcbRspReady s i then ([] : List Rsp).tail else []) = [] := ite_self _
  change GnrlFifo.Has _ (if _ then ([] : List Rsp).tail else []) at hrspFifo
  rw [hrsps] at hrspFifo
  have hacc : accepted s i =
      if Arbt.rspidFifoWen true s.arbt (arbtIcbRspValid s) (arbtBusIcbRspReady i)
        (arbtBusIcbCmdValid i) (arbtIcbCmdReady s) then
        [(Arbt.iArbtIndicId (arbtBusIcbCmdValid i),
          (arbtBus i (Arbt.iArbtIndicId (arbtBusIcbCmdValid i))).cmd)] else [] := by
    rw [accepted]
    exact Arbt.cmd_handshakes true s.arbt _ _ _ _ _
  have hwen : Arbt.rspidFifoWen true s.arbt (arbtIcbRspValid s) (arbtBusIcbRspReady i)
      (arbtBusIcbCmdValid i) (arbtIcbCmdReady s) = (arbtIcbCmdValid s i && s.cmdFifo.iRdy) := rfl
  rw [issued_of_invalid hvld, htaken, delivered_of_empty h.rspFifo]
  have hports : (if Arbt.rspidFifoRen s.arbt (arbtIcbRspValid s) (arbtBusIcbRspReady i)
      then ([] : List (Fin 2)).tail else []) = [] := ite_self _
  have hcmds : (if bufIcbCmdReady cfg s i then ([] : List BufCmd).tail else []) = [] := ite_self _
  change Arbt.Tracks _ ((if _ then ([] : List (Fin 2)).tail else []) ++ _) at harbt
  change GnrlFifo.Has _ ((if _ then ([] : List BufCmd).tail else []) ++ _) at hcmd
  rw [hports, List.nil_append, hwen] at harbt
  rw [hcmds, List.nil_append] at hcmd
  cases hw : arbtIcbCmdValid s i && s.cmdFifo.iRdy
  · rw [hw] at harbt hcmd
    rw [hacc, hwen, hw]
    exact ⟨none, .idle, trivial, harbt, hcmd, hrspFifo, hsplt⟩
  · have hput : arbtIcbCmd i = arbtBusIcbCmd i (Arbt.iArbtIndicId (arbtBusIcbCmdValid i)) :=
      Arbt.oIcbCmd_eq (hwen.trans hw)
    rw [hw] at harbt hcmd
    rw [hput] at hcmd
    rw [hacc, hwen, hw]
    exact ⟨_, .accept _ _, trivial, harbt, hcmd, hrspFifo, hsplt⟩

/-! ## A command in the buffer -/

theorem InStage.ifuerr_ready (h : InStage cfg s (some (.buffered p c))) (hcfg : cfg.Disjoint)
    (hk : route cfg p c.addr = .ifuerr) : spltBusIcbCmdReady cfg s i .ifuerr = true := by
  obtain ⟨hindic, -⟩ := h.indic_eq hcfg
  have hrf : s.rspFifo.vld = false := h.rspFifo
  have hready : bufIcbRspReady s = true := by simp [bufIcbRspReady, GnrlFifo.iRdy, hrf]
  change spltBusIcbRspReady cfg s .ifuerr = true
  rw [spltBusIcbRspReady, Splt.oIcbRspReady, Splt.port_of_empty h.splt, hindic, hk, hready]
  rfl

/-- A response in the cycle of the command is for it. -/
theorem InStage.ready_of_rsp (h : InStage cfg s (some (.buffered p c))) (hcfg : cfg.Disjoint)
    (hresp : Responds cfg s i (some (.buffered p c)))
    (hv : spltBusIcbRspValid cfg s i (route cfg p c.addr) = true) :
    spltBusIcbCmdReady cfg s i (route cfg p c.addr) = true := by
  by_cases hk : route cfg p c.addr = .ifuerr
  · rw [hk]
    exact h.ifuerr_ready hcfg hk
  · have hmem := hresp _ hk hv
    rw [h.issued_eq hcfg] at hmem
    by_contra hno
    rw [if_neg hno] at hmem
    cases hmem

/-- The error slave responds at once. -/
theorem InStage.ifuerr_valid (h : InStage cfg s (some (.buffered p c))) (hcfg : cfg.Disjoint)
    (hk : route cfg p c.addr = .ifuerr) : spltBusIcbRspValid cfg s i .ifuerr = true := by
  obtain ⟨hindic, -⟩ := h.indic_eq hcfg
  have hvld : bufIcbCmdValid s = true := h.cmdFifo.1
  change spltBusIcbCmdValid cfg s .ifuerr = true
  rw [spltBusIcbCmdValid, hindic, hvld, Splt.cmdValid_of_empty h.splt, hk]
  rfl

theorem InStage.step_buffered (h : InStage cfg s (some (.buffered p c))) (hcfg : cfg.Disjoint)
    (hresp : Responds cfg s i (some (.buffered p c))) :
    ∃ st, Moves cfg (some (.buffered p c)) (accepted s i) (issued cfg s i) (taken cfg s i)
      (delivered s i) st ∧ InStage cfg (step cfg i s) st := by
  obtain ⟨hindic, hdat⟩ := h.indic_eq hcfg
  have hvld : bufIcbCmdValid s = true := h.cmdFifo.1
  have hempty : s.rspFifo.vld = false := h.rspFifo
  have hready : bufIcbRspReady s = true := by simp [bufIcbRspReady, GnrlFifo.iRdy, hempty]
  have hport : Splt.oIcbRspPortId s.splt (spltIndic cfg s) = oneHot (route cfg p c.addr) := by
    rw [Splt.port_of_empty h.splt, hindic]
  obtain ⟨hbufVld, hbufRsp⟩ := bufIcbRsp_of_port (i := i) hport
  have hcmdRdy : bufIcbCmdReady cfg s i = spltBusIcbCmdReady cfg s i (route cfg p c.addr) := by
    rw [bufIcbCmdReady, hindic, Splt.cmdReady_of_empty h.splt (Slave.mem_all _)]
  obtain ⟨harbt, hcmd, hrspFifo⟩ := h.next i
  have hren : Arbt.rspidFifoRen s.arbt (arbtIcbRspValid s) (arbtBusIcbRspReady i) = false := by
    rw [Arbt.Tracks.rspidFifoRen_eq h.arbt]
    have hv : arbtIcbRspValid s = false := hempty
    rw [hv, Bool.false_and]
  rw [hren, h.no_wen rfl] at harbt
  have hfull : s.cmdFifo.iRdy = false := by
    have hv : s.cmdFifo.vld = true := h.cmdFifo.1
    simp [GnrlFifo.iRdy, hv]
  rw [hfull, Bool.and_false, if_neg Bool.false_ne_true, List.append_nil, hcmdRdy] at hcmd
  have hnil : (if arbtIcbRspReady s i then ([] : List Rsp).tail else []) = [] := ite_self _
  have hrspRdy : s.rspFifo.iRdy = true := hready
  change GnrlFifo.Has _ ((if _ then ([] : List Rsp).tail else []) ++ _) at hrspFifo
  rw [hnil, List.nil_append, hrspRdy, Bool.and_true, hbufVld, hbufRsp] at hrspFifo
  have hsplt : (step cfg i s).splt.rspid.Has
      (if spltBusIcbCmdReady cfg s i (route cfg p c.addr) &&
        !spltBusIcbRspValid cfg s i (route cfg p c.addr) then [oneHot (route cfg p c.addr)]
      else []) := by
    have hnext := @Splt.step_empty _ _ Slave.all s.splt (route cfg p c.addr) true
      (spltBusIcbCmdReady cfg s i) (spltBusIcbRspValid cfg s i) h.splt (Slave.mem_all _)
      fun hv => ⟨rfl, h.ready_of_rsp hcfg hresp hv⟩
    rw [Bool.true_and] at hnext
    rw [step, hindic, hvld, hready]
    exact hnext
  rw [h.accepted_nil rfl, h.issued_eq hcfg, taken_of_port hport hready, delivered_of_empty hempty]
  cases hv : spltBusIcbRspValid cfg s i (route cfg p c.addr)
  · rw [hv] at hrspFifo hsplt
    cases hr : spltBusIcbCmdReady cfg s i (route cfg p c.addr)
    · rw [hr] at hcmd hsplt
      exact ⟨_, .wait _, trivial, harbt, hcmd, hrspFifo, hsplt⟩
    · rw [hr] at hcmd hsplt
      refine ⟨_, .forward p c, ?_, harbt, hcmd, hrspFifo, ?_⟩
      · intro hk
        have herr := h.ifuerr_valid (i := i) hcfg hk
        rw [← hk, hv] at herr
        cases herr
      · exact hsplt
  · rw [hv] at hrspFifo hsplt
    have hr := h.ready_of_rsp hcfg hresp hv
    rw [hr] at hcmd hsplt
    rw [hr]
    refine ⟨_, .answerAtOnce p c _, ?_, harbt, hcmd, hrspFifo, hsplt⟩
    intro hk
    rw [hk]
    rfl

/-! ## A command at its slave -/

theorem InStage.step_forwarded (h : InStage cfg s (some (.forwarded p c))) :
    ∃ st, Moves cfg (some (.forwarded p c)) (accepted s i) (issued cfg s i) (taken cfg s i)
      (delivered s i) st ∧ InStage cfg (step cfg i s) st := by
  have hne : route cfg p c.addr ≠ .ifuerr := h.ok
  have hempty : s.rspFifo.vld = false := h.rspFifo
  have hvld : bufIcbCmdValid s = false := h.vld_of_empty rfl
  have hready : bufIcbRspReady s = true := by simp [bufIcbRspReady, GnrlFifo.iRdy, hempty]
  have hport : Splt.oIcbRspPortId s.splt (spltIndic cfg s) = oneHot (route cfg p c.addr) :=
    Splt.port_of_full h.splt
  obtain ⟨hbufVld, hbufRsp⟩ := bufIcbRsp_of_port (i := i) hport
  obtain ⟨harbt, hcmd, hrspFifo⟩ := h.next i
  have hren : Arbt.rspidFifoRen s.arbt (arbtIcbRspValid s) (arbtBusIcbRspReady i) = false := by
    rw [Arbt.Tracks.rspidFifoRen_eq h.arbt]
    have hv : arbtIcbRspValid s = false := hempty
    rw [hv, Bool.false_and]
  have hwen := h.no_wen (i := i) rfl
  have hno : (arbtIcbCmdValid s i && s.cmdFifo.iRdy) = false := hwen
  have hcmds : (if bufIcbCmdReady cfg s i then ([] : List BufCmd).tail else []) = [] := ite_self _
  have hrsps : (if arbtIcbRspReady s i then ([] : List Rsp).tail else []) = [] := ite_self _
  have hrspRdy : s.rspFifo.iRdy = true := hready
  rw [hren, hwen] at harbt
  change GnrlFifo.Has _ ((if _ then ([] : List BufCmd).tail else []) ++ _) at hcmd
  rw [hcmds, hno] at hcmd
  change GnrlFifo.Has _ ((if _ then ([] : List Rsp).tail else []) ++ _) at hrspFifo
  rw [hrsps, List.nil_append, hrspRdy, Bool.and_true, hbufVld, hbufRsp] at hrspFifo
  have hsplt : (step cfg i s).splt.rspid.Has
      (if spltBusIcbRspValid cfg s i (route cfg p c.addr) then []
      else [oneHot (route cfg p c.addr)]) := by
    rw [step, hready]
    exact Splt.step_full h.splt (Slave.mem_all _)
  rw [h.accepted_nil rfl, issued_of_invalid hvld, taken_of_port hport hready,
    delivered_of_empty hempty]
  cases hv : spltBusIcbRspValid cfg s i (route cfg p c.addr)
  · rw [hv] at hrspFifo hsplt
    exact ⟨_, .wait _, hne, harbt, hcmd, hrspFifo, hsplt⟩
  · rw [hv] at hrspFifo hsplt
    exact ⟨_, .answer p c _, fun hk => absurd hk hne, harbt, hcmd, hrspFifo, hsplt⟩

/-! ## A response in the buffer -/

theorem InStage.rspValid_eq (h : InStage cfg s (some (.answered p c r))) (q : Fin 2) :
    arbtBusIcbRspValid s q = decide (q = p) ∧ arbtIcbRsp s = r := by
  have hv : arbtIcbRspValid s = true := h.rspFifo.1
  refine ⟨?_, h.rspFifo.2⟩
  rw [arbtBusIcbRspValid, Arbt.Tracks.rspValid_eq h.arbt, hv, Bool.true_and]
  apply decide_eq_decide.mpr
  change [p] = [q] ↔ _
  rw [List.cons.injEq, eq_comm]
  exact and_iff_left rfl

theorem InStage.delivered_eq (h : InStage cfg s (some (.answered p c r))) :
    delivered s i = if arbtBusIcbRspReady i p then [(p, r)] else [] := by
  rw [delivered, (h.rspValid_eq p).2]
  refine handshakes_of_only fun q => ?_
  rw [(h.rspValid_eq q).1]
  by_cases hq : q = p
  · rw [hq, Bool.and_comm]
  · rw [decide_eq_false hq, Bool.and_false]
    rfl

theorem InStage.step_answered (h : InStage cfg s (some (.answered p c r))) :
    ∃ st, Moves cfg (some (.answered p c r)) (accepted s i) (issued cfg s i) (taken cfg s i)
      (delivered s i) st ∧ InStage cfg (step cfg i s) st := by
  have hfull : s.rspFifo.vld = true := h.rspFifo.1
  have hvld : bufIcbCmdValid s = false := h.vld_of_empty rfl
  have hready : bufIcbRspReady s = false := by simp [bufIcbRspReady, GnrlFifo.iRdy, hfull]
  obtain ⟨harbt, hcmd, hrspFifo⟩ := h.next i
  have hrv : arbtIcbRspValid s = true := hfull
  have hren : Arbt.rspidFifoRen s.arbt (arbtIcbRspValid s) (arbtBusIcbRspReady i) =
      arbtBusIcbRspReady i p := by
    rw [Arbt.Tracks.rspidFifoRen_eq h.arbt, hrv, Bool.true_and]
    change [p].any (arbtBusIcbRspReady i) = _
    rw [List.any_cons, List.any_nil, Bool.or_false]
  have hback : arbtIcbRspReady s i = arbtBusIcbRspReady i p := by
    rw [arbtIcbRspReady]
    exact Arbt.Tracks.oIcbRspReady_eq h.arbt
  have hwen := h.no_wen (i := i) rfl
  have hno : (arbtIcbCmdValid s i && s.cmdFifo.iRdy) = false := hwen
  have hcmds : (if bufIcbCmdReady cfg s i then ([] : List BufCmd).tail else []) = [] := ite_self _
  have hrspRdy : s.rspFifo.iRdy = false := hready
  rw [hren, hwen] at harbt
  change GnrlFifo.Has _ ((if _ then ([] : List BufCmd).tail else []) ++ _) at hcmd
  rw [hcmds, hno] at hcmd
  rw [hback, hrspRdy, Bool.and_false] at hrspFifo
  have hsplt : (step cfg i s).splt.rspid.Has [] := by
    rw [step, hvld]
    apply Splt.step_idle h.splt
    rw [Splt.rspidFifoRen, hready, Bool.and_false]
  rw [h.accepted_nil rfl, issued_of_invalid hvld, taken_of_not_ready hready, h.delivered_eq]
  cases hr : arbtBusIcbRspReady i p
  · rw [hr] at harbt hrspFifo
    exact ⟨_, .wait _, h.ok, harbt, hcmd, hrspFifo, hsplt⟩
  · rw [hr] at harbt hrspFifo
    exact ⟨_, .deliver p c r h.ok, trivial, harbt, hcmd, hrspFifo, hsplt⟩

theorem InStage.step (h : InStage cfg s st) (hcfg : cfg.Disjoint) (hresp : Responds cfg s i st) :
    ∃ st', Moves cfg st (accepted s i) (issued cfg s i) (taken cfg s i) (delivered s i) st' ∧
      InStage cfg (step cfg i s) st' := by
  match st, h, hresp with
  | none, h, hresp => exact h.step_none hresp
  | some (.buffered p c), h, hresp => exact h.step_buffered hcfg hresp
  | some (.forwarded p c), h, _ => exact h.step_forwarded
  | some (.answered p c r), h, _ => exact h.step_answered

end

/-! ## Transactions -/

/-- A command of a port and its response. -/
structure Txn where
  port : Fin 2
  cmd : Cmd
  rsp : Rsp

/-- The slave of the command. -/
def Txn.slave (cfg : Cfg) (x : Txn) : Slave := route cfg x.port x.cmd.addr

namespace Stage

/-- What the current command adds to what has been accepted, issued and taken. -/
def accepted : Option Stage → List (Fin 2 × Cmd)
  | none => []
  | some (buffered p c) => [(p, c)]
  | some (forwarded p c) => [(p, c)]
  | some (answered p c _) => [(p, c)]

def issued (cfg : Cfg) : Option Stage → List (Slave × Cmd)
  | none => []
  | some (buffered _ _) => []
  | some (forwarded p c) => [(route cfg p c.addr, c)]
  | some (answered p c _) => [(route cfg p c.addr, c)]

def taken (cfg : Cfg) : Option Stage → List (Slave × Rsp)
  | some (answered p c r) => [(route cfg p c.addr, r)]
  | _ => []

end Stage

/-- The transactions `T` so far and the current command account for all handshakes: the commands that
the ports and the slaves have accepted, and the responses that have been taken and delivered. -/
structure Accounts (cfg : Cfg) (A : List (Fin 2 × Cmd)) (F : List (Slave × Cmd))
    (S : List (Slave × Rsp)) (D : List (Fin 2 × Rsp)) (T : List Txn) (st : Option Stage) : Prop where
  accepted : A = T.map (fun x => (x.port, x.cmd)) ++ Stage.accepted st
  issued : F = T.map (fun x => (x.slave cfg, x.cmd)) ++ Stage.issued cfg st
  taken : S = T.map (fun x => (x.slave cfg, x.rsp)) ++ Stage.taken cfg st
  delivered : D = T.map fun x => (x.port, x.rsp)
  errs : ∀ x ∈ T, x.port = 1 → decode cfg x.cmd.addr ≠ .mem → x.rsp.err = true

section
variable {A a : List (Fin 2 × Cmd)} {F f : List (Slave × Cmd)} {S k : List (Slave × Rsp)}
  {D d : List (Fin 2 × Rsp)} {T : List Txn} {st st' : Option Stage}

theorem Accounts.start : Accounts cfg [] [] [] [] [] none :=
  ⟨rfl, rfl, rfl, rfl, fun _ hx => absurd hx List.not_mem_nil⟩

theorem Accounts.next (h : Accounts cfg A F S D T st) (hmove : Moves cfg st a f k d st') :
    ∃ T', Accounts cfg (A ++ a) (F ++ f) (S ++ k) (D ++ d) T' st' := by
  obtain ⟨rfl, rfl, rfl, rfl, herrs⟩ := h
  cases hmove with
  | idle => exact ⟨T, by simp, by simp, by simp, by simp, herrs⟩
  | accept p c =>
    exact ⟨T, by simp [Stage.accepted], by simp [Stage.issued], by simp [Stage.taken], by simp, herrs⟩
  | wait st => exact ⟨T, by simp, by simp, by simp, by simp, herrs⟩
  | forward p c =>
    exact ⟨T, by simp [Stage.accepted], by simp [Stage.issued], by simp [Stage.taken], by simp, herrs⟩
  | answerAtOnce p c r =>
    exact ⟨T, by simp [Stage.accepted], by simp [Stage.issued], by simp [Stage.taken], by simp, herrs⟩
  | answer p c r =>
    exact ⟨T, by simp [Stage.accepted], by simp [Stage.issued], by simp [Stage.taken], by simp, herrs⟩
  | deliver p c r herr =>
    refine ⟨T ++ [⟨p, c, r⟩], by simp [Stage.accepted], by simp [Stage.issued, Txn.slave],
      by simp [Stage.taken, Txn.slave], by simp, fun x hx hp hdec => ?_⟩
    obtain hx | hx := List.mem_append.mp hx
    · exact herrs x hx hp hdec
    · obtain rfl := List.mem_singleton.mp hx
      exact herr (if_pos ⟨hp, hdec⟩)

theorem Stage.map_issued (st : Option Stage) : (Stage.issued cfg st).map Prod.fst =
    (Stage.taken cfg st).map Prod.fst ++ Stage.atSlave cfg st := by
  obtain _ | _ | _ | _ := st <;> rfl

/-- A slave that has accepted more than it has answered has the current command. -/
theorem Accounts.count_eq (h : Accounts cfg A F S D T st) (j : Slave) :
    (F.map Prod.fst).count j = (S.map Prod.fst).count j + (Stage.atSlave cfg st).count j := by
  have hfst : ∀ (β : Type) (g : Txn → β),
      (T.map fun x => (x.slave cfg, g x)).map Prod.fst = T.map (Txn.slave cfg) := by
    intro β g
    rw [List.map_map]
    rfl
  rw [h.issued, h.taken, List.map_append, List.map_append, hfst, hfst, Stage.map_issued,
    List.count_append, List.count_append, List.count_append, Nat.add_assoc]

end

/-! ## Runs -/

section
variable (cfg : Cfg) (inp : ℕ → In) (s : State)

def run : ℕ → State := Lib.stateAt (step cfg) inp s

def acceptedAt (t : ℕ) : List (Fin 2 × Cmd) := accepted (run cfg inp s t) (inp t)
def issuedAt (t : ℕ) : List (Slave × Cmd) := issued cfg (run cfg inp s t) (inp t)
def takenAt (t : ℕ) : List (Slave × Rsp) := taken cfg (run cfg inp s t) (inp t)
def deliveredAt (t : ℕ) : List (Fin 2 × Rsp) := delivered (run cfg inp s t) (inp t)

/-- What a slave `j` drives in cycle `t`. -/
def slaveAt (t : ℕ) (j : Slave) : SlaveIcb := slave cfg (run cfg inp s t) (inp t) j

/-- The commands that slave `j` has accepted, and the responses taken from it, before cycle `t`. -/
def issuedTo (j : Slave) (t : ℕ) : ℕ := ((Lib.emitted (issuedAt cfg inp s) 0 t).map Prod.fst).count j
def takenFrom (j : Slave) (t : ℕ) : ℕ := ((Lib.emitted (takenAt cfg inp s) 0 t).map Prod.fst).count j

/-- The slaves outside: each responds to commands that it has accepted, at the earliest in the cycle of
the handshake. -/
structure Slaves : Prop where
  responds : ∀ t j, j ≠ .ifuerr → (slaveAt cfg inp s t j).rspValid = true →
    takenFrom cfg inp s j t < issuedTo cfg inp s j (t + 1)

/-- The slaves and the ports are ready again and again, and the slaves answer. -/
structure Fair : Prop where
  cmdReady : ∀ t j, j ≠ .ifuerr → ∃ u, t ≤ u ∧ (slaveAt cfg inp s u j).cmdReady = true
  answers : ∀ t j, j ≠ .ifuerr → takenFrom cfg inp s j t < issuedTo cfg inp s j t →
    ∃ u, t ≤ u ∧ (slaveAt cfg inp s u j).rspValid = true
  rspReady : ∀ t p, ∃ u, t ≤ u ∧ arbtBusIcbRspReady (inp u) p = true

/-- What is known of the current command before cycle `t`. -/
structure Follows (t : ℕ) (st : Option Stage) : Prop where
  stage : InStage cfg (run cfg inp s t) st
  accounts : ∃ T, Accounts cfg (Lib.emitted (acceptedAt cfg inp s) 0 t)
    (Lib.emitted (issuedAt cfg inp s) 0 t) (Lib.emitted (takenAt cfg inp s) 0 t)
    (Lib.emitted (deliveredAt cfg inp s) 0 t) T st

variable {cfg inp s} {t : ℕ} {st : Option Stage} {p : Fin 2} {c : Cmd} {r : Rsp}

theorem Follows.count_eq (h : Follows cfg inp s t st) (j : Slave) :
    issuedTo cfg inp s j t = takenFrom cfg inp s j t + (Stage.atSlave cfg st).count j := by
  obtain ⟨T, hT⟩ := h.accounts
  exact hT.count_eq j

theorem Follows.responds (h : Follows cfg inp s t st) (henv : Slaves cfg inp s) :
    Responds cfg (run cfg inp s t) (inp t) st := by
  intro j hj hv
  have hlt := henv.responds t j hj hv
  have hnow := h.count_eq j
  have hnext : issuedTo cfg inp s j (t + 1) =
      issuedTo cfg inp s j t + ((issuedAt cfg inp s t).map Prod.fst).count j := by
    rw [issuedTo, Lib.emitted_succ (Nat.zero_le t), List.map_append, List.count_append]
    rfl
  rw [hnext, hnow] at hlt
  have hpos : 0 < (Stage.atSlave cfg st ++ (issuedAt cfg inp s t).map Prod.fst).count j := by
    rw [List.count_append]
    omega
  exact List.count_pos_iff.mp hpos

/-- The events of a cycle of a run. -/
def MovesAt (cfg : Cfg) (inp : ℕ → In) (s : State) (t : ℕ) (st st' : Option Stage) : Prop :=
  Moves cfg st (acceptedAt cfg inp s t) (issuedAt cfg inp s t) (takenAt cfg inp s t)
    (deliveredAt cfg inp s t) st'

theorem Follows.next (h : Follows cfg inp s t st) (hcfg : cfg.Disjoint) (henv : Slaves cfg inp s) :
    ∃ st', MovesAt cfg inp s t st st' ∧ Follows cfg inp s (t + 1) st' := by
  obtain ⟨st', hmove, hstage⟩ := h.stage.step hcfg (h.responds henv)
  obtain ⟨T, hT⟩ := h.accounts
  refine ⟨st', hmove, hstage, ?_⟩
  rw [Lib.emitted_succ (Nat.zero_le t), Lib.emitted_succ (Nat.zero_le t),
    Lib.emitted_succ (Nat.zero_le t), Lib.emitted_succ (Nat.zero_le t)]
  exact hT.next hmove

theorem exists_stages (hcfg : cfg.Disjoint) (h0 : IsReset s) (henv : Slaves cfg inp s) :
    ∃ st : ℕ → Option Stage, st 0 = none ∧
      ∀ t, Follows cfg inp s t (st t) ∧ MovesAt cfg inp s t (st t) (st (t + 1)) :=
  Lib.exists_run ⟨InStage.of_reset h0, [], Accounts.start⟩ fun _ _ h => h.next hcfg henv

/-! ## Progress -/

section
variable {a : List (Fin 2 × Cmd)} {f : List (Slave × Cmd)} {k : List (Slave × Rsp)}
  {d : List (Fin 2 × Rsp)} {st' : Option Stage}

theorem Moves.of_buffered (h : Moves cfg (some (.buffered p c)) a f k d st') :
    (f = [] ∧ st' = some (.buffered p c)) ∨
      (f ≠ [] ∧ (st' = some (.forwarded p c) ∨ ∃ r, st' = some (.answered p c r))) := by
  cases h with
  | wait => exact .inl ⟨rfl, rfl⟩
  | forward => exact .inr ⟨List.cons_ne_nil _ _, .inl rfl⟩
  | answerAtOnce => exact .inr ⟨List.cons_ne_nil _ _, .inr ⟨_, rfl⟩⟩

theorem Moves.of_forwarded (h : Moves cfg (some (.forwarded p c)) a f k d st') :
    (k = [] ∧ st' = some (.forwarded p c)) ∨ (k ≠ [] ∧ ∃ r, st' = some (.answered p c r)) := by
  cases h with
  | wait => exact .inl ⟨rfl, rfl⟩
  | answer => exact .inr ⟨List.cons_ne_nil _ _, _, rfl⟩

theorem Moves.of_answered (h : Moves cfg (some (.answered p c r)) a f k d st') :
    (d = [] ∧ st' = some (.answered p c r)) ∨ d ≠ [] := by
  cases h with
  | wait => exact .inl ⟨rfl, rfl⟩
  | deliver => exact .inr (List.cons_ne_nil _ _)

/-- The commands in the unit are a channel from the ports back to them. -/
theorem Moves.ports_eq {st : Option Stage} (h : Moves cfg st a f k d st') :
    Stage.ports st ++ a.map Prod.fst = d.map Prod.fst ++ Stage.ports st' := by
  cases h <;> first | rfl | simp

end

section
variable {stages : ℕ → Option Stage}
  (hst : ∀ t, Follows cfg inp s t (stages t) ∧ MovesAt cfg inp s t (stages t) (stages (t + 1)))
include hst

theorem leaves_buffered (hcfg : cfg.Disjoint) (hfair : Fair cfg inp s)
    (h : stages t = some (.buffered p c)) :
    ∃ u, t ≤ u ∧ (stages u = some (.forwarded p c) ∨ ∃ r, stages u = some (.answered p c r)) := by
  have hbuf : ∀ u, stages u = some (.buffered p c) → InStage cfg (run cfg inp s u) (some (.buffered p c)) :=
    fun u hu => hu ▸ (hst u).1.stage
  have hissued : ∀ u, stages u = some (.buffered p c) → issuedAt cfg inp s u =
      if spltBusIcbCmdReady cfg (run cfg inp s u) (inp u) (route cfg p c.addr) then
        [(route cfg p c.addr, c)] else [] := fun u hu => (hbuf u hu).issued_eq hcfg
  have hmoves : ∀ u, stages u = some (.buffered p c) →
      MovesAt cfg inp s u (some (.buffered p c)) (stages (u + 1)) := fun u hu => hu ▸ (hst u).2
  have hready : ∃ u, t ≤ u ∧
      spltBusIcbCmdReady cfg (run cfg inp s u) (inp u) (route cfg p c.addr) = true := by
    by_cases hk : route cfg p c.addr = .ifuerr
    · refine ⟨t, Nat.le_refl t, ?_⟩
      rw [hk]
      exact (hbuf t h).ifuerr_ready hcfg hk
    · exact hfair.cmdReady t _ hk
  obtain ⟨u, htu, hu, hru⟩ := Lib.exists_meeting h (fun u _ hu hno => by
    obtain ⟨-, hnext⟩ | ⟨hne, -⟩ := Moves.of_buffered (hmoves u hu)
    · exact hnext
    · rw [hissued u hu, if_neg hno] at hne
      exact absurd rfl hne) hready
  refine ⟨u + 1, by omega, ?_⟩
  obtain ⟨hnil, -⟩ | ⟨-, hnext⟩ := Moves.of_buffered (hmoves u hu)
  · rw [hissued u hu, if_pos hru] at hnil
    cases hnil
  · exact hnext

theorem leaves_forwarded (hfair : Fair cfg inp s) (h : stages t = some (.forwarded p c)) :
    ∃ u r, t ≤ u ∧ stages u = some (.answered p c r) := by
  have hfwd : ∀ u, stages u = some (.forwarded p c) → InStage cfg (run cfg inp s u) (some (.forwarded p c)) :=
    fun u hu => hu ▸ (hst u).1.stage
  have htaken : ∀ u, stages u = some (.forwarded p c) → takenAt cfg inp s u =
      if (slaveAt cfg inp s u (route cfg p c.addr)).rspValid then
        [(route cfg p c.addr, (slaveAt cfg inp s u (route cfg p c.addr)).rsp)] else [] := by
    intro u hu
    have hempty : (run cfg inp s u).rspFifo.vld = false := (hfwd u hu).rspFifo
    apply taken_of_port (Splt.port_of_full (hfwd u hu).splt)
    simp [bufIcbRspReady, GnrlFifo.iRdy, hempty]
  have hmoves : ∀ u, stages u = some (.forwarded p c) →
      MovesAt cfg inp s u (some (.forwarded p c)) (stages (u + 1)) := fun u hu => hu ▸ (hst u).2
  have hcount : takenFrom cfg inp s (route cfg p c.addr) t < issuedTo cfg inp s (route cfg p c.addr) t := by
    have heq := (hst t).1.count_eq (route cfg p c.addr)
    rw [h] at heq
    change _ = _ + [route cfg p c.addr].count (route cfg p c.addr) at heq
    rw [List.count_singleton_self] at heq
    omega
  obtain ⟨u, htu, hu, hv⟩ := Lib.exists_meeting h (fun u _ hu hno => by
    obtain ⟨-, hnext⟩ | ⟨hne, -⟩ := Moves.of_forwarded (hmoves u hu)
    · exact hnext
    · rw [htaken u hu, if_neg hno] at hne
      exact absurd rfl hne) (hfair.answers t _ (hfwd t h).ok hcount)
  obtain ⟨hnil, -⟩ | ⟨-, r, hnext⟩ := Moves.of_forwarded (hmoves u hu)
  · rw [htaken u hu, if_pos hv] at hnil
    cases hnil
  · exact ⟨u + 1, r, by omega, hnext⟩

theorem leaves_answered (hfair : Fair cfg inp s) (h : stages t = some (.answered p c r)) :
    ∃ u, t ≤ u ∧ deliveredAt cfg inp s u ≠ [] := by
  have hans : ∀ u, stages u = some (.answered p c r) → deliveredAt cfg inp s u =
      if arbtBusIcbRspReady (inp u) p then [(p, r)] else [] := by
    intro u hu
    have hin : InStage cfg (run cfg inp s u) (some (.answered p c r)) := hu ▸ (hst u).1.stage
    exact hin.delivered_eq
  have hmoves : ∀ u, stages u = some (.answered p c r) →
      MovesAt cfg inp s u (some (.answered p c r)) (stages (u + 1)) := fun u hu => hu ▸ (hst u).2
  obtain ⟨u, htu, hu, hr⟩ := Lib.exists_meeting h (fun u _ hu hno => by
    obtain ⟨-, hnext⟩ | hne := Moves.of_answered (hmoves u hu)
    · exact hnext
    · rw [hans u hu, if_neg hno] at hne
      exact absurd rfl hne) (hfair.rspReady t p)
  refine ⟨u, htu, ?_⟩
  rw [hans u hu, if_pos hr]
  exact List.cons_ne_nil _ _

theorem leaves (hcfg : cfg.Disjoint) (hfair : Fair cfg inp s) (h : Stage.ports (stages t) ≠ []) :
    ∃ u, t ≤ u ∧ deliveredAt cfg inp s u ≠ [] := by
  have hfrom : ∀ u p c, stages u = some (.forwarded p c) →
      ∃ v, u ≤ v ∧ deliveredAt cfg inp s v ≠ [] := by
    intro u p c hu
    obtain ⟨v, r, huv, hv⟩ := leaves_forwarded hst hfair hu
    obtain ⟨w, hvw, hw⟩ := leaves_answered hst hfair hv
    exact ⟨w, by omega, hw⟩
  cases hs : stages t with
  | none =>
    rw [hs] at h
    exact absurd rfl h
  | some st =>
    cases st with
    | buffered p c =>
      obtain ⟨u, htu, hu | ⟨r, hu⟩⟩ := leaves_buffered hst hcfg hfair hs
      · obtain ⟨v, huv, hv⟩ := hfrom u p c hu
        exact ⟨v, by omega, hv⟩
      · obtain ⟨v, huv, hv⟩ := leaves_answered hst hfair hu
        exact ⟨v, by omega, hv⟩
    | forwarded p c => exact hfrom t p c hs
    | answered p c r => exact leaves_answered hst hfair hs

end

/-- In every run the handshakes are those of transactions that are each accepted, issued to the one slave
of the command, answered by it and delivered to the port of the command, in order, and of one current
command at most; a response is shown to the port of the current command alone; a fetch from a peripheral
is answered with an error; and every command gets its response. -/
theorem routes_once (hcfg : cfg.Disjoint) (inp : ℕ → In) (h0 : IsReset s) (henv : Slaves cfg inp s) :
    (∀ t, ∃ T st, Accounts cfg (Lib.emitted (acceptedAt cfg inp s) 0 t)
        (Lib.emitted (issuedAt cfg inp s) 0 t) (Lib.emitted (takenAt cfg inp s) 0 t)
        (Lib.emitted (deliveredAt cfg inp s) 0 t) T st ∧
      ∀ p, arbtBusIcbRspValid (run cfg inp s t) p = true →
        ∃ c, st = some (.answered p c (arbtIcbRsp (run cfg inp s t)))) ∧
    (Fair cfg inp s → ∀ t, ∃ u, t ≤ u ∧
      (Lib.emitted (acceptedAt cfg inp s) 0 t).length ≤
        (Lib.emitted (deliveredAt cfg inp s) 0 u).length) := by
  obtain ⟨stages, hstart, hst⟩ := exists_stages hcfg h0 henv
  constructor
  · intro t
    obtain ⟨hstage, T, hT⟩ := (hst t).1
    refine ⟨T, stages t, hT, fun p hp => ?_⟩
    have hfull : (run cfg inp s t).rspFifo.vld = true :=
      ((Bool.and_eq_true _ _).mp ((Bool.and_eq_true _ _).mp hp).1).2
    have hfifo := hstage.rspFifo
    cases hs : stages t with
    | none =>
      rw [hs] at hfifo
      exact absurd (hfifo.symm.trans hfull) Bool.false_ne_true
    | some st =>
      cases st with
      | buffered q c =>
        rw [hs] at hfifo
        exact absurd (hfifo.symm.trans hfull) Bool.false_ne_true
      | forwarded q c =>
        rw [hs] at hfifo
        exact absurd (hfifo.symm.trans hfull) Bool.false_ne_true
      | answered q c r =>
        rw [hs] at hstage
        obtain ⟨hv, hr⟩ := hstage.rspValid_eq p
        have hpq : p = q := of_decide_eq_true (hv.symm.trans hp)
        rw [hpq, hr]
        exact ⟨c, rfl⟩
  · intro hfair t
    have hcon : Lib.Conserves (fun t => (acceptedAt cfg inp s t).map Prod.fst)
        (fun t => (deliveredAt cfg inp s t).map Prod.fst) fun t => Stage.ports (stages t) := by
      refine ⟨?_, fun t => (hst t).2.ports_eq⟩
      rw [hstart]
      rfl
    obtain ⟨u, htu, hpre⟩ := hcon.eventually (fun t ht => by
      obtain ⟨u, htu, hu⟩ := leaves hst hcfg hfair ht
      exact ⟨u, htu, fun hnil => hu (List.map_eq_nil_iff.mp hnil)⟩) t
    have hlen := hpre.length_le
    rw [Lib.emitted_map, Lib.emitted_map, List.length_map, List.length_map] at hlen
    exact ⟨u, htu, hlen⟩

/-- The load/store unit reads the CLINT, then the fetch unit reads the memory and a word of the PPI. -/
def both (t : ℕ) : In where
  lsu2biu := ⟨t == 0, ⟨⟨true, 0x0200bff8#32, 0#32, 0#4⟩, 0#2, 0#2, false, false, 2#2⟩, true⟩
  ifu2biu := ⟨true,
    ⟨⟨true, if t < 5 then 0x80000000#32 else 0x10000000#32, 0#32, 0#4⟩, 0#2, 0#2, false, false, 2#2⟩, true⟩
  memIcb := ⟨true, t == 5, ⟨⟨false, 0x13#32⟩, false⟩⟩
  fioIcb := ⟨true, false, ⟨⟨false, 0#32⟩, false⟩⟩
  plicIcb := ⟨true, false, ⟨⟨false, 0#32⟩, false⟩⟩
  clintIcb := ⟨true, t == 2, ⟨⟨false, 7#32⟩, false⟩⟩
  ppiIcb := ⟨true, false, ⟨⟨false, 0#32⟩, false⟩⟩

def idle : State :=
  ⟨⟨⟨false, 0⟩⟩, ⟨false, ⟨.zero, false⟩⟩, ⟨false, ⟨⟨false, 0#32⟩, false⟩⟩, ⟨⟨false, fun _ => false⟩⟩⟩

theorem idle_isReset : IsReset idle := ⟨rfl, rfl, rfl, rfl⟩

theorem slaves_both : Slaves Cfg.e203 both idle := by
  refine ⟨fun t j hj hv => ?_⟩
  cases j with
  | ifuerr => exact absurd rfl hj
  | mem =>
    have ht : t = 5 := of_decide_eq_true hv
    subst ht
    decide
  | clint =>
    have ht : t = 2 := of_decide_eq_true hv
    subst ht
    decide
  | fio => cases hv
  | plic => cases hv
  | ppi => cases hv

theorem routes_once_both : ∃ T st,
    Accounts Cfg.e203 (Lib.emitted (acceptedAt Cfg.e203 both idle) 0 10)
      (Lib.emitted (issuedAt Cfg.e203 both idle) 0 10)
      (Lib.emitted (takenAt Cfg.e203 both idle) 0 10)
      (Lib.emitted (deliveredAt Cfg.e203 both idle) 0 10) T st := by
  obtain ⟨T, st, h, -⟩ := (routes_once Cfg.e203_disjoint both idle_isReset slaves_both).1 10
  exact ⟨T, st, h⟩

end
end E203.Biu
