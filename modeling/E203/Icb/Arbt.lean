import E203.Rtl.GnrlIcbs

/-! # The arbiter and the width converter keep one entry

* `PipeStage.Has`: the entries of a stage; `PipeStage.Has.step`: it is a FIFO with room for one.
* `handshakes`: what the two ports of an arbiter exchange in a cycle.
* `Arbt.cmd_handshakes`, `Arbt.rsp_handshakes`: at most one command passes, from the port that is
  granted, and a response goes to the port whose command is outstanding.
-/

namespace E203
set_option autoImplicit false

/-! ## Stages -/

namespace PipeStage
section
variable {α : Type*} {s : PipeStage α} {l : List α}

def Has (s : PipeStage α) : List α → Prop
  | [] => s.vldR = false
  | [x] => s.vldR = true ∧ s.datR = x
  | _ => False

theorem Has.length_le (h : s.Has l) : l.length ≤ 1 := by
  obtain _ | ⟨x, _ | _⟩ := l
  · exact Nat.zero_le 1
  · exact Nat.le_refl 1
  · exact h.elim

theorem Has.step (h : s.Has l) (cutReady v r : Bool) (d : α) : (s.step cutReady v r d).Has
    ((if r then l.tail else l) ++ if s.vldSet cutReady v r then [d] else []) := by
  have hset : s.vldSet cutReady v r = (v && s.iRdy cutReady r) := rfl
  obtain _ | ⟨x, _ | _⟩ := l
  · have hv : s.vldR = false := h
    have hrdy : s.iRdy cutReady r = true := by cases cutReady <;> simp [iRdy, hv]
    rw [hrdy, Bool.and_true] at hset
    simp only [hset, List.tail_nil, ite_self, List.nil_append]
    cases v
    · simp [Has, PipeStage.step, hset, vldClr, oVld, hv]
    · simp [Has, PipeStage.step, hset]
  · obtain ⟨hv, hd⟩ := h
    cases r
    · have hrdy : s.iRdy cutReady false = false := by
        cases cutReady <;> simp [iRdy, hv, vldClr, oVld]
      rw [hrdy, Bool.and_false] at hset
      simp [Has, PipeStage.step, hset, vldClr, oVld, hv, hd]
    · cases hs : s.vldSet cutReady v true
      · simp [Has, PipeStage.step, hs, vldClr, oVld, hv]
      · simp [Has, PipeStage.step, hs]
  · exact h.elim

end
end PipeStage

namespace GnrlFifo
section
variable {α : Type*} {b : GnrlFifo α} {l : List α}

def Has (b : GnrlFifo α) : List α → Prop
  | [] => b.vld = false
  | [x] => b.vld = true ∧ b.dat = x
  | _ => False

theorem Has.step (h : b.Has l) (v r : Bool) (d : α) : (b.step v r d).Has
    ((if r then l.tail else l) ++ if v && b.iRdy then [d] else []) := by
  obtain _ | ⟨x, _ | _⟩ := l
  · have hv : b.vld = false := h
    simp only [iRdy, hv, Bool.not_false, Bool.and_true, List.tail_nil, ite_self, List.nil_append]
    cases v <;> simp [Has, GnrlFifo.step, wen, ren, iRdy, oVld, hv]
  · obtain ⟨hv, hd⟩ := h
    simp only [iRdy, hv, Bool.not_true, Bool.and_false]
    cases r <;> simp [Has, GnrlFifo.step, wen, ren, iRdy, oVld, hv, hd]
  · exact h.elim

end
end GnrlFifo

/-! ## Two ports -/

/-- What the two ports exchange in a cycle. -/
def handshakes {α : Type*} (valid ready : Fin 2 → Bool) (f : Fin 2 → α) : List α :=
  (if valid 0 && ready 0 then [f 0] else []) ++ if valid 1 && ready 1 then [f 1] else []

/-- Where a single port has a handshake. -/
theorem handshakes_of_only {α : Type*} {valid ready : Fin 2 → Bool} {f : Fin 2 → α} {p : Fin 2}
    {b : Bool} (h : ∀ q, (valid q && ready q) = (b && decide (q = p))) :
    handshakes valid ready f = if b then [f p] else [] := by
  rw [handshakes, h 0, h 1]
  obtain rfl | rfl : p = 0 ∨ p = 1 := by omega
  · cases b <;> rfl
  · cases b <;> rfl

namespace Arbt
section
variable {cutReady : Bool} {s : State} {ports : List (Fin 2)} {p : Fin 2} {rv cr : Bool}
  {rr cv : Fin 2 → Bool}

theorem iArbtIndicId_eq : iArbtIndicId cv = if !cv 0 && cv 1 then 1 else 0 := rfl

/-- The command that passes is that of the port with the identifier that is kept. -/
theorem cmd_handshake (cutReady : Bool) (s : State) (rv : Bool) (rr cv : Fin 2 → Bool) (cr : Bool)
    (p : Fin 2) : (cv p && iBusIcbCmdReady cutReady s rv rr cv cr p) =
    (rspidFifoWen cutReady s rv rr cv cr && decide (p = iArbtIndicId cv)) := by
  have hgrt : iBusIcbCmdGrtVec cv 0 = true := rfl
  have hgrt' : iBusIcbCmdGrtVec cv 1 = !cv 0 := rfl
  rw [iBusIcbCmdReady, rspidFifoWen, oIcbCmdValid, oIcbCmdValidReal, iArbtIndicId_eq]
  obtain rfl | rfl : p = 0 ∨ p = 1 := by omega
  · rw [hgrt]
    cases cv 0 <;> cases cv 1 <;> cases cr <;> simp
  · rw [hgrt']
    cases cv 0 <;> cases cv 1 <;> cases cr <;> simp

theorem cmd_handshakes {α : Type*} (cutReady : Bool) (s : State) (rv : Bool) (rr cv : Fin 2 → Bool)
    (cr : Bool) (f : Fin 2 → α) :
    handshakes cv (iBusIcbCmdReady cutReady s rv rr cv cr) f =
      if rspidFifoWen cutReady s rv rr cv cr then [f (iArbtIndicId cv)] else [] :=
  handshakes_of_only (cmd_handshake cutReady s rv rr cv cr)

/-- The command that passes is the one that is put out. -/
theorem oIcbCmd_eq {α : Type*} {zero : α} {cmd : Fin 2 → α}
    (hwen : rspidFifoWen cutReady s rv rr cv cr = true) :
    oIcbCmd cv zero cmd = cmd (iArbtIndicId cv) := by
  have hreal : oIcbCmdValidReal cv = true :=
    ((Bool.and_eq_true _ _).mp ((Bool.and_eq_true _ _).mp hwen).1).1
  simp only [oIcbCmdValidReal] at hreal
  have hgrt : iBusIcbCmdGrtVec cv 0 = true := rfl
  have hgrt' : iBusIcbCmdGrtVec cv 1 = !cv 0 := rfl
  simp only [oIcbCmd, iArbtIndicId, iBusIcbCmdSel, hgrt, hgrt']
  cases h0 : cv 0
  · rw [h0, Bool.false_or] at hreal
    rw [hreal]
    rfl
  · rfl

/-- The identifiers of the outstanding commands. -/
def Tracks (s : State) (ports : List (Fin 2)) : Prop := s.rspid.Has ports

theorem Tracks.empty_eq (h : Tracks s ports) : rspidFifoEmpty s = ports.isEmpty := by
  obtain _ | ⟨p, _ | _⟩ := ports
  · have hv : s.rspid.vldR = false := h
    simp [rspidFifoEmpty, PipeStage.oVld, hv]
  · have hv : s.rspid.vldR = true := h.1
    simp [rspidFifoEmpty, PipeStage.oVld, hv]
  · exact h.elim

theorem Tracks.portId_eq (h : Tracks s [p]) : oIcbRspPortId s = p := by
  have he := h.empty_eq
  rw [oIcbRspPortId, he]
  exact h.2

/-- A response is offered to the port whose command is outstanding. -/
theorem Tracks.rspValid_eq (h : Tracks s ports) :
    iBusIcbRspValid s rv p = (rv && decide (ports = [p])) := by
  obtain _ | ⟨q, _ | _⟩ := ports
  · rw [iBusIcbRspValid, oIcbRspValidPre, h.empty_eq]
    simp
  · rw [iBusIcbRspValid, oIcbRspValidPre, h.empty_eq, h.portId_eq]
    by_cases hqp : q = p
    · subst hqp
      simp
    · simp [hqp]
  · exact h.elim

theorem Tracks.oIcbRspReady_eq (h : Tracks s [p]) : oIcbRspReady s rr = rr p := by
  rw [oIcbRspReady, h.empty_eq, h.portId_eq]
  rfl

theorem Tracks.rspidFifoRen_eq (h : Tracks s ports) :
    rspidFifoRen s rv rr = (rv && ports.any rr) := by
  obtain _ | ⟨q, _ | _⟩ := ports
  · rw [rspidFifoRen, oIcbRspReady, h.empty_eq]
    simp
  · rw [rspidFifoRen, h.oIcbRspReady_eq]
    simp
  · exact h.elim

/-- With an outstanding command, one passes only if the response is taken. -/
theorem Tracks.vldSet_eq : s.rspid.vldSet cutReady (rspidFifoWen cutReady s rv rr cv cr)
    (rspidFifoRen s rv rr) = rspidFifoWen cutReady s rv rr cv cr := by
  simp only [PipeStage.vldSet, rspidFifoWen, oIcbCmdValid, rspidFifoFull, Bool.not_not]
  cases s.rspid.iRdy cutReady (rspidFifoRen s rv rr)
  · simp
  · rw [Bool.and_true]

theorem Tracks.step (h : Tracks s ports) (cutReady rv : Bool) (rr cv : Fin 2 → Bool) (cr : Bool) :
    Tracks (step cutReady s rv rr cv cr)
      ((if rspidFifoRen s rv rr then ports.tail else ports) ++
        if rspidFifoWen cutReady s rv rr cv cr then [iArbtIndicId cv] else []) := by
  have hnext := PipeStage.Has.step h cutReady (rspidFifoWen cutReady s rv rr cv cr)
    (rspidFifoRen s rv rr) (iArbtIndicId cv)
  rw [Tracks.vldSet_eq] at hnext
  exact hnext

end
end Arbt

/-! ## The width converter -/

namespace N2w
section
variable {AW : ℕ} {s : State} {rv rr cv cr : Bool} {l : List Bool}

/-- The two sides of the converter exchange a command together. -/
theorem cmd_handshake :
    (cv && iIcbCmdReady s rv rr cr) = (oIcbCmdValid s rv rr cv && cr) := by
  rw [iIcbCmdReady, oIcbCmdValid]
  cases n2wFifoFull s rv rr <;> cases cv <;> rfl

theorem vldSet_eq : s.fifo.vldSet false (n2wFifoWen s rv rr cv cr) (n2wFifoRen rv rr) =
    n2wFifoWen s rv rr cv cr := by
  simp only [PipeStage.vldSet, n2wFifoWen, iIcbCmdReady, n2wFifoFull, Bool.not_not]
  cases s.fifo.iRdy false (n2wFifoRen rv rr)
  · simp
  · rw [Bool.and_true]

/-- The half of a command is kept until its response. -/
theorem step_has (h : s.fifo.Has l) (c : IcbCmd AW 4) (rv rr cv cr : Bool) :
    (step s c rv rr cv cr).fifo.Has
    ((if n2wFifoRen rv rr then l.tail else l) ++
      if n2wFifoWen s rv rr cv cr then [cmdYLoHi c] else []) := by
  have hnext := h.step false (n2wFifoWen s rv rr cv cr) (n2wFifoRen rv rr) (cmdYLoHi c)
  rw [vldSet_eq] at hnext
  exact hnext

end
end N2w
end E203
