import E203.Arch.Next
import E203.Branch.Predict
import E203.Fetch.Jalr
import E203.Fetch.Path
import E203.Fetch.Stream

/-! # The core follows the architectural program counter

* `Core.archPc`: the program counter of the architecture along a run: an instruction that commits
  moves it on, a trap or a debug entry moves it to the handler.
* `Core.CoherentUntil`: the runs in which the pipeline loses neither an instruction nor its PC.
* `Core.Orderly`: the cycles in which the pipeline shows none of its slips, with no response during a
  halt at all.
* `Core.Follows`: what the fetch stage holds, in terms of the program counter; `Follows.step` keeps it.
* `Core.commits_at_archPc`: what commits, and what an interrupt or a debug entry saves, is at the
  program counter.
-/

namespace E203
set_option autoImplicit false

/-! ## Flushes and commits -/

namespace Exu
section
variable {s : State} {i : In}

/-- An exception flush is a trap or a debug entry. -/
theorem excpirqFlushReq_eq : excpirqFlushReq s i = (trapTaken s i || dbgEntryTaken s i) := by
  rw [trapTaken, dbgEntryTaken, Excp.trapTaken, Excp.excpTakenEna_eq, Excp.irqTakenEna_eq,
    Excp.dbgEntryTakenEna_eq, Excp.allExcpFlushReq]
  change Excp.excpirqFlushReq _ _ _ _ = _
  rw [Excp.excpirqFlushReq]
  cases Excp.longpExcpFlushReq (cmtCtl s i).toCtl <;> simp [Bool.or_comm, Bool.or_left_comm]

/-- Where a trap or a debug entry goes. -/
theorem flushPc_of_event (h : excpirqFlushReq s i = true) :
    Isa.evenPc (pipeFlushPc s i) =
      if dbgEntryTaken s i then 0x800#32
      else if dbgMode s then 0x808#32
      else Isa.evenPc i.csrMtvecR := by
  have hpc : pipeFlushPc s i = Excp.excpirqFlushPc s.excp (cmtCtl s i).toCtl (aluCmt s i).toAlu
      (aluCmtValid s i) := if_pos h
  have hentry : dbgEntryTaken s i = Excp.dbgEntryFlushReq s.excp (cmtCtl s i).toCtl
      (aluCmt s i).toAlu (aluCmtValid s i) := Excp.dbgEntryTakenEna_eq
  have hmode : (cmtCtl s i).toCtl.dbgMode = dbgMode s := rfl
  have hvec : (cmtCtl s i).toCtl.csrMtvecR = i.csrMtvecR := rfl
  rw [hpc, Excp.excpirqFlushPc, ← hentry, hmode, hvec]
  cases hdbg : dbgEntryTaken s i
  case true => exact (by decide : Isa.evenPc 0x800#32 = 0x800#32)
  case false =>
    cases hm : dbgMode s
    case false => simp
    case true =>
      -- interrupts are masked in debug mode
      have hirq : Excp.irqFlushReq s.excp (cmtCtl s i).toCtl (aluCmt s i).toAlu
          (aluCmtValid s i) = false := by
        simp [Excp.irqFlushReq, Excp.irqReq, Excp.irqMask, hmode, hm]
      have hall : Excp.allExcpFlushReq s.excp (cmtCtl s i).toCtl (aluCmt s i).toAlu
          (aluCmtValid s i) = true := by
        rw [excpirqFlushReq_eq, hdbg, Bool.or_false, trapTaken, Excp.trapTaken, Excp.excpTakenEna_eq,
          Excp.irqTakenEna_eq, hirq, Bool.or_false] at h
        exact h
      rw [hall]
      exact (by decide : Isa.evenPc 0x808#32 = 0x808#32)

/-- An instruction that flushes commits. -/
theorem cmtEna_of_brchmis
    (h : Commit.aluBrchmisFlushReq s.excp (cmtCtl s i) (aluCmt s i) (aluCmtValid s i) = true) :
    cmtEna s i = true := by
  have hreq : Branchslv.brchmisFlushReq (branchslv s i) (aluCmtValid s i) = true := h
  simp only [Branchslv.brchmisFlushReq, Branchslv.brchmisFlushReqPre, Bool.and_eq_true,
    Bool.not_eq_true'] at hreq
  obtain ⟨⟨hvalid, hneed⟩, hraw⟩ := hreq
  have hbjp : Alu.bjpOp (alu s i) = true := by
    obtain ⟨hb, hf, hm, hd, -⟩ := branchslv_flags (s := s) (i := i)
    rw [Branchslv.brchmisNeedFlush, hb, hf, hm, hd] at hneed
    cases hop : Alu.bjpOp (alu s i)
    · simp [hop] at hneed
    · rfl
  obtain ⟨-, -, -, hop, -⟩ := Alu.op_eq (alu s i)
  obtain ⟨hno, hebrk⟩ := no_excp_of_op (s := s) (i := i) (.inl (of_decide_eq_true (hop.symm.trans hbjp)))
  have hraw' : Excp.nonaluExcpirqFlushReqRaw s.excp (cmtCtl s i).toCtl = false := hraw
  simp only [Excp.nonaluExcpirqFlushReqRaw, Bool.or_eq_false_iff] at hraw'
  obtain ⟨⟨hlongp, hdbg⟩, hirq⟩ := hraw'
  have hentry : Excp.nonaluDbgEntryReq s.excp (cmtCtl s i).toCtl = false := by
    revert hdbg
    simp only [Excp.nonaluDbgEntryReq, Excp.nonaluDbgEntryReqRaw, Excp.nonaluDbgIrqReq,
      Excp.nonaluDbgHaltReq, Excp.dbgStepReq]
    cases Excp.dbgEntryMask (cmtCtl s i).toCtl <;> simp
    intro h1 h2 h3
    simp [h1, h2, h3]
  have hready : Branchslv.cmtIReady (branchslv s i) = true := by
    have hack : (branchslv s i).brchmisFlushAck = true := rfl
    simp [Branchslv.cmtIReady, Branchslv.brchmisFlushAckPre, hraw, hack]
  have hexcp : Excp.aluExcpIReady s.excp (cmtCtl s i).toCtl (aluCmt s i).toAlu pipeFlushAck = true := by
    simp [Excp.aluExcpIReady, Excp.aluEbreakmFlushReqNovld, Excp.aluExcpIEbreak4dbg, hebrk,
      Excp.aluDbgtrigFlushReqNovld, Excp.aluExcpIReady4nondbg, hno, hirq, hentry, hlongp]
  have hboth : aluCmtReady s i = true := (Bool.and_eq_true _ _).mpr ⟨hexcp, hready⟩
  exact (Bool.and_eq_true _ _).mpr ⟨hvalid, hboth⟩

/-- An instruction in error does not commit without a trap or a debug entry. -/
theorem aluNeedFlush_of_cmt (hcmt : cmtEna s i = true) (hflush : excpirqFlushReq s i = false) :
    Excp.aluNeedFlush (cmtCtl s i).toCtl (aluCmt s i).toAlu = false := by
  obtain ⟨hvalid, hready⟩ := (Bool.and_eq_true _ _).mp hcmt
  by_contra hneed
  rw [Bool.not_eq_false] at hneed
  have hebrk : Excp.aluExcpIEbreak4dbg (cmtCtl s i).toCtl (aluCmt s i).toAlu = false := by
    simp [Excp.aluExcpIEbreak4dbg, hneed]
  obtain ⟨hirq, hdbg, hlongp, hempty⟩ :=
    Excp.events_of_ready ((Bool.and_eq_true _ _).mp hready).1 hebrk
  have hno : Excp.aluEbreakmFlushReq (cmtCtl s i).toCtl (aluCmt s i).toAlu (aluCmtValid s i) = false := by
    simp [Excp.aluEbreakmFlushReq, hebrk]
  have hreq : Excp.excpirqFlushReq s.excp (cmtCtl s i).toCtl (aluCmt s i).toAlu
      (aluCmtValid s i) = false := hflush
  rw [Excp.excpirqFlushReq_of_no_event hirq hdbg hlongp hno, hneed, hempty hneed] at hreq
  have hv : aluCmtValid s i = true := hvalid
  rw [hv] at hreq
  cases hreq

/-- Only a control transfer flushes by itself. -/
theorem transfers_of_brchmis
    (h : Commit.aluBrchmisFlushReq s.excp (cmtCtl s i) (aluCmt s i) (aluCmtValid s i) = true) :
    Decode.transfers i.iIr = true := by
  have hneed : Branchslv.brchmisNeedFlush (branchslv s i) = true :=
    (Bool.and_eq_true _ _ ▸ (Bool.and_eq_true _ _ ▸ h).1).2
  obtain ⟨hb, hf, hm, hd, -⟩ := branchslv_flags (s := s) (i := i)
  rw [Branchslv.brchmisNeedFlush, hb, hf, hm, hd] at hneed
  simp only [Bool.or_eq_true, Bool.and_eq_true] at hneed
  obtain ⟨⟨⟨⟨-, h⟩, -⟩ | ⟨-, h⟩⟩ | ⟨-, h⟩⟩ | ⟨-, h⟩ := hneed
  all_goals simp [Decode.transfers, h]

/-- No other instruction flushes without a trap or a debug entry. -/
theorem pipeFlushReq_of_not_transfers (hword : Decode.transfers i.iIr = false)
    (hno : excpirqFlushReq s i = false) : pipeFlushReq s i = false := by
  rw [pipeFlushReq, Commit.pipeFlushReq]
  rw [excpirqFlushReq] at hno
  rw [hno, Bool.false_or]
  by_contra hbr
  have htr := transfers_of_brchmis (s := s) (i := i) (Bool.not_eq_false _ ▸ hbr)
  exact Bool.false_ne_true (hword.symm.trans htr)

end
end Exu

/-! ## The fetch stage -/

namespace Ifetch
section
variable {s : State} {i : In}

/-- Behind an instruction that is no control transfer the fetch goes on in sequence. -/
theorem pcNxt_eq_seq {ins : Isa.Instr} (hset : irValidSet s i = true) (hreset : s.resetReqR = false)
    (heven : Isa.evenPc s.pcR = s.pcR) (hins : Isa.decode (step s i).ifuIrR = some ins)
    (ht : ins.transfer = none) : pcNxt s i = s.pcR + Isa.length (step s i).ifuIrR := by
  obtain ⟨hlo, -⟩ := step_ifuIrR hset
  have hno : Decode.decBjp i.ifuRspInstr = false := by
    have hnone := Decode.transfers_of_decode hins ht
    simp only [Decode.transfers, Bool.or_eq_false_iff] at hnone
    rw [← Decode.decBjp_congr hlo]
    exact hnone.1.1.1
  have hbjp : bjpReq s i = false := by rw [bjpReq, hno, Bool.false_and]
  have hlen : pcIncrOfst i = Isa.length (step s i).ifuIrR := by
    rw [pcIncrOfst, ← decRv32_step_ifuIrR hset, Decode.decRv32_of_decode hins, Isa.length]
    simp only [decide_eq_true_eq]
  have hofst : Isa.evenPc (pcIncrOfst i) = pcIncrOfst i := by
    rw [pcIncrOfst]
    split <;> decide
  rw [pcNxt_of_no_flush (irValidSet_iff.mp hset).2.1 hreset, hbjp, if_neg (by decide), ← hlen]
  exact Isa.evenPc_add heven hofst

end
end Ifetch

/-! ## The program counter -/

namespace Core

/-- Where execution goes on after a cycle. -/
def nextArchPc (s : State) (i : In) (pc : BitVec 32) : BitVec 32 :=
  if Exu.dbgEntryTaken s.exu (exuIn s i) then 0x800#32
  else if Exu.trapTaken s.exu (exuIn s i) then
    if Exu.dbgMode s.exu then 0x808#32 else Isa.evenPc i.csrMtvecR
  else if Exu.cmtEna s.exu (exuIn s i) then
    match Isa.decode s.ifu.ifuIrR with
    | some ins => ins.nextPc (Isa.length s.ifu.ifuIrR) { Exu.ctrlState s.exu (exuIn s i) with pc := pc }
    | none => pc
  else pc

/-- The program counter of the architecture in cycle `t`; it starts at the reset vector. -/
def archPc (inp : ℕ → In) (s : State) : ℕ → BitVec 32
  | 0 => Isa.evenPc (inp 0).pcRtvec
  | t + 1 => nextArchPc (run inp s t) (inp t) (archPc inp s t)

/-- A cycle in which the pipeline loses neither an instruction nor its PC. -/
structure Coherent (s : State) (i : In) : Prop where
  stale : ¬StaleFlush s i
  dropped : ¬Dropped s i
  borrow : ¬BorrowFlush s i
  /-- The idle response channel shows no jump when the reset request is made. -/
  reset : s.ifu.resetReqR = true → Ifetch.bjpReq s.ifu (ifuIn s i) = false
  /-- What commits is an instruction. -/
  instr : Exu.cmtEna s.exu (exuIn s i) = true → Exu.excpirqFlushReq s.exu (exuIn s i) = false →
    (Isa.decode s.ifu.ifuIrR).isSome = true

/-- All cycles before `t` are coherent, and a request that is made later than its instruction went into
the IR finds the successor of that instruction on the response channel. -/
structure CoherentUntil (inp : ℕ → In) (s : State) (t : ℕ) : Prop where
  cycles : ∀ u < t, Coherent (run inp s u) (inp u)
  halt : ∀ t₀ r, t₀ < r → r < t →
    Ifetch.irValidSet (run inp s t₀).ifu (ifuIn (run inp s t₀) (inp t₀)) = true →
    FirstRequest inp s t₀ r → SameSuccessor inp s t₀ r

/-- A cycle in which the pipeline shows none of its slips. -/
structure Orderly (s : State) (i : In) : Prop where
  stale : ¬StaleFlush s i
  dropped : ¬Dropped s i
  borrow : ¬BorrowFlush s i
  /-- No response comes during a halt. -/
  halt : Ifetch.irValidSet s.ifu (ifuIn s i) = true → (ifuIn s i).ifuHaltReq = false
  /-- The idle response channel shows no jump when the reset request is made. -/
  reset : s.ifu.resetReqR = true → Ifetch.bjpReq s.ifu (ifuIn s i) = false
  /-- What commits is an instruction. -/
  instr : Exu.cmtEna s.exu (exuIn s i) = true → Exu.excpirqFlushReq s.exu (exuIn s i) = false →
    (Isa.decode s.ifu.ifuIrR).isSome = true

/-- What a run is given: a reset, a fetch adapter that answers what was asked and holds its answers, and
a constant reset vector. -/
structure FetchEnv (inp : ℕ → In) (s : State) : Prop where
  reset : IsReset s
  rsp : ∀ u, RspOutstanding (inp u) (run inp s u)
  held : RspHeld inp s
  vec : ∀ u, (inp u).pcRtvec = (inp 0).pcRtvec

/-- An instruction went into the IR in cycle `t₀`, and what follows it has not been requested yet. -/
structure Unrequested (inp : ℕ → In) (s : State) (t₀ t : ℕ) : Prop where
  lt : t₀ < t
  load : Ifetch.irValidSet (run inp s t₀).ifu (ifuIn (run inp s t₀) (inp t₀)) = true
  none : ∀ w, t₀ ≤ w → w < t →
    Ifetch.ifuReqHsked (run inp s w).ifu (ifuIn (run inp s w) (inp w)) = false
  flush : ∀ w, t₀ < w → w < t → (ifuIn (run inp s w) (inp w)).pipeFlushReq = false

/-- The instruction in the IR was loaded in cycle `t₀`; the one behind it is requested, or still to be
requested after a halt. -/
structure Ahead (inp : ℕ → In) (s : State) (t₀ t : ℕ) : Prop where
  lt : t₀ < t
  load : LoadedAt inp s t₀ t
  stay : StaysInIr inp s (t₀ + 1) t
  next : (run inp s t).ifu.outFlagR = true ∧
      (run inp s t).ifu.pcR = Ifetch.pcNxt (run inp s t₀).ifu (ifuIn (run inp s t₀) (inp t₀)) ∨
    Unrequested inp s t₀ t

section
variable {inp : ℕ → In} {s : State} {t₀ t : ℕ} {ins : Isa.Instr}

theorem CoherentUntil.mono (h : CoherentUntil inp s t) {u : ℕ} (hu : u ≤ t) :
    CoherentUntil inp s u where
  cycles v hv := h.cycles v (by omega)
  halt t₀ r hlt hr := h.halt t₀ r hlt (by omega)

theorem pipeFlushReq_zero (h0 : IsReset s) : (ifuIn (run inp s 0) (inp 0)).pipeFlushReq = false :=
  IsReset.pipeFlushReq (s := s) (i := inp 0) h0

/-- Without a response during a halt every request is made together with the response. -/
theorem CoherentUntil.of_orderly (henv : FetchEnv inp s)
    (hord : ∀ u < t, Orderly (run inp s u) (inp u)) : CoherentUntil inp s t where
  cycles u hu := by
    obtain ⟨h1, h2, h3, -, h5, h6⟩ := hord u hu
    exact ⟨h1, h2, h3, h5, h6⟩
  halt t₀ r hlt hr hset hfirst := by
    have hreq := (trace henv.reset henv.rsp).request_of_load (pipeFlushReq_zero henv.reset) hset
      ((hord t₀ (by omega)).halt hset)
    rw [hfirst.none t₀ (Nat.le_refl t₀) hlt] at hreq
    cases hreq

/-! ## The request behind an instruction -/

/-- The fetch stage waits at the instruction. -/
theorem Unrequested.idle (h : Unrequested inp s t₀ t) (henv : FetchEnv inp s) :
    (run inp s t).ifu.resetReqR = false ∧ (run inp s t).ifu.dlyFlushR = false ∧
      (run inp s t).ifu.outFlagR = false ∧ (run inp s t).ifu.pcR = (run inp s t₀).ifu.pcR :=
  (trace henv.reset henv.rsp).unrequested (pipeFlushReq_zero henv.reset) h.lt h.load h.flush h.none

theorem Unrequested.step (h : Unrequested inp s t₀ t)
    (hflush : (ifuIn (run inp s t) (inp t)).pipeFlushReq = false)
    (hreq : Ifetch.ifuReqHsked (run inp s t).ifu (ifuIn (run inp s t) (inp t)) = false) :
    Unrequested inp s t₀ (t + 1) where
  lt := Nat.lt_succ_of_lt h.lt
  load := h.load
  none w hw1 hw2 := by
    obtain hlt | rfl : w < t ∨ w = t := by omega
    · exact h.none w hw1 hlt
    · exact hreq
  flush w hw1 hw2 := by
    obtain hlt | rfl : w < t ∨ w = t := by omega
    · exact h.flush w hw1 hlt
    · exact hflush

/-- The request that is made after a halt is the one that was left out with the response. -/
theorem Unrequested.ifuReqPc (h : Unrequested inp s t₀ t) (henv : FetchEnv inp s)
    (hcoh : CoherentUntil inp s (t + 1))
    (hflush : (ifuIn (run inp s t) (inp t)).pipeFlushReq = false)
    (hreq : Ifetch.ifuReqHsked (run inp s t).ifu (ifuIn (run inp s t) (inp t)) = true) :
    Ifetch.ifuReqPc (run inp s t).ifu (ifuIn (run inp s t) (inp t)) =
      Ifetch.pcNxt (run inp s t₀).ifu (ifuIn (run inp s t₀) (inp t₀)) := by
  have hfirst : FirstRequest inp s t₀ t := by
    refine ⟨Nat.le_of_lt h.lt, hreq, h.none, fun w hw1 hw2 => ?_⟩
    obtain hlt | rfl : w < t ∨ w = t := by omega
    · exact h.flush w hw1 hlt
    · exact hflush
  have htrace := trace henv.reset henv.rsp
  have hzero : (ifuIn (run inp s 0) (inp 0)).pipeFlushReq = false := pipeFlushReq_zero henv.reset
  calc Ifetch.ifuReqPc (run inp s t).ifu (ifuIn (run inp s t) (inp t))
      = Ifetch.nextPc (run inp s t₀).ifu.pcR (ifuIn (run inp s t) (inp t)) :=
        Ifetch.FirstRequest.of_load hfirst htrace hzero h.load
    _ = Ifetch.nextPc (run inp s t₀).ifu.pcR (ifuIn (run inp s t₀) (inp t₀)) :=
        hcoh.halt t₀ t h.lt (Nat.lt_succ_self t) h.load hfirst
    _ = Ifetch.pcNxt (run inp s t₀).ifu (ifuIn (run inp s t₀) (inp t₀)) :=
        (Ifetch.pcNxt_eq_nextPc (Ifetch.irValidSet_iff.mp h.load).2.1
          (htrace.not_reset_of_load hzero h.load)).symm

theorem Ahead.ifuPcR (h : Ahead inp s t₀ t) (h0 : IsReset s) :
    (run inp s t).ifu.ifuPcR = (run inp s t₀).ifu.pcR := by
  rw [h.load.pc]
  exact (Startup.run h0 t₀).kept.step_ifuPcR h.load.set

/-- The base of a register jump is what the register holds when the jump commits. -/
theorem Ahead.base (h : Ahead inp s t₀ t) (henv : FetchEnv inp s)
    (hborrow : ∀ u < t₀, ¬BorrowFlush (run inp s u) (inp u)) {c : Isa.Ctrl}
    (hc : Isa.Ctrl.decode (inp t₀).ifuRspInstr = some c) (hj : c.op.isJalr = true) :
    prdtBase (run inp s t₀) (inp t₀) = (run inp s t).exu.rf.rfR c.op.rs1 := by
  have hw := Decode.ctrlWires (d := Ifetch.rspDec (inp t₀).ifuRspInstr) hc
  have hjalr : Decode.decJalr (inp t₀).ifuRspInstr = true := hw.jalr.trans hj
  have hidx : Decode.decJalrRs1idx (inp t₀).ifuRspInstr = c.op.rs1 := hw.jalrRs1idx hj
  rw [base_of_load henv.reset henv.held hborrow h.load.set hjalr, hidx]
  by_cases hzero : c.op.rs1 = 0#5
  · rw [hzero]
    rfl
  · have hsettled := (settled_of_load (Steady.run henv.reset t₀) h.load.set hjalr (hidx ▸ hzero)).1
    rw [hidx] at hsettled
    exact (Regfile.rfR_congr (hsettled.run_rf henv.reset h.lt h.stay).1).symm

/-- An instruction that commits without an event is followed by the flush target, or by what was
requested with it. -/
theorem Ahead.nextPc (h : Ahead inp s t₀ t) (henv : FetchEnv inp s)
    (hborrow : ∀ u < t₀, ¬BorrowFlush (run inp s u) (inp u))
    (hv : (run inp s t).ifu.irValidR = true)
    (hcmt : Exu.cmtEna (run inp s t).exu (exuIn (run inp s t) (inp t)) = true)
    (hno : Exu.excpirqFlushReq (run inp s t).exu (exuIn (run inp s t) (inp t)) = false)
    (hins : Isa.decode (run inp s t).ifu.ifuIrR = some ins) :
    (if Exu.pipeFlushReq (run inp s t).exu (exuIn (run inp s t) (inp t)) then
        Isa.evenPc (Exu.pipeFlushPc (run inp s t).exu (exuIn (run inp s t) (inp t)))
      else Ifetch.pcNxt (run inp s t₀).ifu (ifuIn (run inp s t₀) (inp t₀))) =
      ins.nextPc (Isa.length (run inp s t).ifu.ifuIrR)
        (Exu.ctrlState (run inp s t).exu (exuIn (run inp s t) (inp t))) := by
  have hst : Startup (run inp s t₀) := .run henv.reset t₀
  have hreset := hst.resetReqR (henv.rsp t₀) h.load.set
  have hpc := h.ifuPcR henv.reset
  have hipc : (exuIn (run inp s t) (inp t)).iPc = (run inp s t₀).ifu.pcR := hpc
  cases ht : ins.transfer
  case some op =>
    have hword := Isa.transfer_of_decode hins ht
    have hc : CommitsCtrl (run inp s t) (inp t) _ :=
      ⟨hv, hword, hcmt, Exu.aluNeedFlush_of_cmt hcmt hno⟩
    obtain ⟨hat, hrsp, hprdt, -⟩ := hc.ctrlAt henv.reset h.load
    have heven : Isa.evenPc (exuIn (run inp s t) (inp t)).iPc = (exuIn (run inp s t) (inp t)).iPc := by
      rw [hipc, hst.even]
    have hbase := fun hj => h.base henv hborrow hrsp hj
    rw [← Isa.nextPc_of_transfer ht, ← hat.redirect hcmt hprdt heven hbase]
    cases Exu.pipeFlushReq (run inp s t).exu (exuIn (run inp s t) (inp t))
    · rw [hipc]
      exact Ifetch.pcNxt_eq_prdtPc h.load.set hreset hst.even hrsp
    · rfl
  case none =>
    have hflush := Exu.pipeFlushReq_of_not_transfers (i := exuIn (run inp s t) (inp t))
      (Decode.transfers_of_decode hins ht) hno
    have hir := h.load.ir
    rw [hir] at hins ⊢
    rw [hflush, if_neg (by decide), Isa.nextPc_of_not_transfer ht,
      Ifetch.pcNxt_eq_seq h.load.set hreset hst.even hins ht, ← hpc]
    rfl

/-! ## The instruction in the IR -/

theorem ifu_succ : (run inp s (t + 1)).ifu =
    Ifetch.step (run inp s t).ifu (ifuIn (run inp s t) (inp t)) := rfl

/-- A request is outstanding in the next cycle. -/
theorem requested_succ
    (hreq : Ifetch.ifuReqHsked (run inp s t).ifu (ifuIn (run inp s t) (inp t)) = true) :
    (run inp s (t + 1)).ifu.outFlagR = true ∧
      (run inp s (t + 1)).ifu.pcR = Ifetch.pcNxt (run inp s t).ifu (ifuIn (run inp s t) (inp t)) := by
  constructor
  · rw [ifu_succ, Ifetch.step_outFlagR, hreq, Bool.true_or]
  · rw [ifu_succ]
    exact Ifetch.step_pcR (by rw [Ifetch.pcEna, hreq, Bool.true_or])

theorem Ahead.of_load
    (hset : Ifetch.irValidSet (run inp s t).ifu (ifuIn (run inp s t) (inp t)) = true) :
    Ahead inp s t (t + 1) := by
  refine ⟨Nat.lt_succ_self t, .of_set hset, fun w hw1 hw2 => by omega, ?_⟩
  cases hreq : Ifetch.ifuReqHsked (run inp s t).ifu (ifuIn (run inp s t) (inp t))
  case true => exact .inl (requested_succ hreq)
  case false =>
    refine .inr ⟨Nat.lt_succ_self t, hset, fun w hw1 hw2 => ?_, fun w hw1 hw2 => by omega⟩
    obtain rfl : w = t := by omega
    exact hreq

/-- What is requested stays requested until the response comes. -/
theorem requested_keep (hout : (run inp s t).ifu.outFlagR = true)
    (hrsp : Ifetch.ifuRspHsked (run inp s t).ifu (ifuIn (run inp s t) (inp t)) = false)
    (hflush : (ifuIn (run inp s t) (inp t)).pipeFlushReq = false) :
    (run inp s (t + 1)).ifu.outFlagR = true ∧ (run inp s (t + 1)).ifu.pcR = (run inp s t).ifu.pcR := by
  have hreq : Ifetch.ifuReqHsked (run inp s t).ifu (ifuIn (run inp s t) (inp t)) = false := by
    simp [Ifetch.ifuReqHsked, Ifetch.ifuReqValid, Ifetch.newReqCondi, Ifetch.outFlagClr, hout, hrsp]
  have hena : Ifetch.pcEna (run inp s t).ifu (ifuIn (run inp s t) (inp t)) = false := by
    simp [Ifetch.pcEna, Ifetch.pipeFlushHsked, hreq, hflush]
  constructor
  · rw [ifu_succ, Ifetch.step_outFlagR, hout, hrsp]
    simp
  · rw [ifu_succ]
    simp [Ifetch.step, hena]

theorem Ahead.keep (h : Ahead inp s t₀ t) (henv : FetchEnv inp s) (hcoh : CoherentUntil inp s (t + 1))
    (hpath : Ifetch.OnPath (run inp s t).ifu (path inp s t))
    (hv : (run inp s t).ifu.irValidR = true)
    (hset : Ifetch.irValidSet (run inp s t).ifu (ifuIn (run inp s t) (inp t)) = false)
    (hv' : (run inp s (t + 1)).ifu.irValidR = true) : Ahead inp s t₀ (t + 1) := by
  have hnext := hv'
  rw [ifu_succ, Ifetch.step_irValidR, hset, hv, Bool.false_or, Bool.true_and, Bool.not_eq_true',
    Ifetch.irValidClr, hv, Bool.and_true, Bool.or_eq_false_iff] at hnext
  obtain ⟨hleave, hflush⟩ := hnext
  have hflush' : (ifuIn (run inp s t) (inp t)).pipeFlushReq = false := by
    simpa [Ifetch.pipeFlushHsked, Ifetch.pipeFlushAck] using hflush
  have hdly : (run inp s t).ifu.dlyFlushR = false := by
    cases hd : (run inp s t).ifu.dlyFlushR
    · rfl
    · have hno := hpath.dly hd
      rw [hpath.ir hv] at hno
      cases hno
  have hreal := Ifetch.pipeFlushReqReal_eq_false.mpr ⟨hflush', hdly⟩
  have hrsp : Ifetch.ifuRspHsked (run inp s t).ifu (ifuIn (run inp s t) (inp t)) = false := by
    simpa [Ifetch.irValidSet, hreal, Ifetch.ifuRspNeedReplay] using hset
  refine ⟨Nat.lt_succ_of_lt h.lt, h.load.next hv hset hv', fun w hw1 hw2 => ?_, ?_⟩
  · obtain hlt | rfl : w < t ∨ w = t := by omega
    · exact h.stay w hw1 hlt
    · exact ⟨hv, hleave, hflush'⟩
  · obtain ⟨hout, hpc⟩ | hun := h.next
    · obtain ⟨hout', hpc'⟩ := requested_keep hout hrsp hflush'
      exact .inl ⟨hout', hpc'.trans hpc⟩
    · cases hreq : Ifetch.ifuReqHsked (run inp s t).ifu (ifuIn (run inp s t) (inp t))
      case true =>
        obtain ⟨hout', hpc'⟩ := requested_succ hreq
        exact .inl ⟨hout', hpc'.trans (hun.ifuReqPc henv hcoh hflush' hreq)⟩
      case false => exact .inr (hun.step hflush' hreq)

/-- The path consists of the instruction in the IR and the one that is requested behind it. -/
theorem Ahead.path_eq (h : Ahead inp s t₀ t) (henv : FetchEnv inp s)
    (hpath : Ifetch.OnPath (run inp s t).ifu (path inp s t))
    (hv : (run inp s t).ifu.irValidR = true) :
    path inp s t = (run inp s t).ifu.ifuPcR :: if (run inp s t).ifu.outFlagR then
      [Ifetch.pcNxt (run inp s t₀).ifu (ifuIn (run inp s t₀) (inp t₀))] else [] := by
  rw [hpath.path, hv]
  obtain ⟨hout, hpc⟩ | hun := h.next
  · rw [hout, hpc]
    rfl
  · obtain ⟨-, hdly, hout, -⟩ := hun.idle henv
    rw [hdly, hout]
    rfl

/-! ## One cycle -/

variable (inp s t) in
/-- What the fetch stage holds, in terms of the program counter. -/
structure Follows : Prop where
  onPath : Ifetch.OnPath (run inp s t).ifu (path inp s t)
  /-- Nothing is on the path until the reset request is made, and when an instruction has committed
  before the one behind it is requested. -/
  none : path inp s t = [] →
    ((run inp s t).ifu.resetFlagR = true ∨ (run inp s t).ifu.resetReqR = true) ∧
        archPc inp s t = Isa.evenPc (inp 0).pcRtvec ∨
      ∃ t₀, Unrequested inp s t₀ t ∧
        archPc inp s t = Ifetch.pcNxt (run inp s t₀).ifu (ifuIn (run inp s t₀) (inp t₀))
  head : ∀ pc ∈ (path inp s t).head?, pc = archPc inp s t
  ahead : (run inp s t).ifu.irValidR = true → ∃ t₀, Ahead inp s t₀ t

theorem Follows.archPc_eq (h : Follows inp s t) (henv : FetchEnv inp s) (hv : (run inp s t).ifu.irValidR = true) :
    (run inp s t).ifu.ifuPcR = archPc inp s t := by
  obtain ⟨t₀, hah⟩ := h.ahead hv
  apply h.head
  rw [hah.path_eq henv h.onPath hv]
  rfl

/-- A flush goes where the program counter goes. -/
theorem Follows.archPc_flush (h : Follows inp s t) (henv : FetchEnv inp s)
    (hcoh : CoherentUntil inp s (t + 1))
    (hflush : Exu.pipeFlushReq (run inp s t).exu (exuIn (run inp s t) (inp t)) = true) :
    archPc inp s (t + 1) =
      Isa.evenPc (Exu.pipeFlushPc (run inp s t).exu (exuIn (run inp s t) (inp t))) := by
  rw [archPc, nextArchPc]
  cases hexc : Exu.excpirqFlushReq (run inp s t).exu (exuIn (run inp s t) (inp t))
  case true =>
    rw [Exu.flushPc_of_event hexc]
    rw [Exu.excpirqFlushReq_eq] at hexc
    cases hdbg : Exu.dbgEntryTaken (run inp s t).exu (exuIn (run inp s t) (inp t))
    · rw [hdbg, Bool.or_false] at hexc
      rw [hexc]
      rfl
    · rfl
  case false =>
    have hbr : Commit.aluBrchmisFlushReq (run inp s t).exu.excp
        (Exu.cmtCtl (run inp s t).exu (exuIn (run inp s t) (inp t)))
        (Exu.aluCmt (run inp s t).exu (exuIn (run inp s t) (inp t)))
        (Exu.aluCmtValid (run inp s t).exu (exuIn (run inp s t) (inp t))) = true := by
      rw [Exu.pipeFlushReq, Commit.pipeFlushReq] at hflush
      rw [Exu.excpirqFlushReq] at hexc
      simpa [hexc] using hflush
    have hcmt := Exu.cmtEna_of_brchmis hbr
    have hv : (run inp s t).ifu.irValidR = true :=
      ((Bool.and_eq_true _ _).mp ((Steady.run henv.reset t).iHsked_of_cmtEna hcmt)).1
    obtain ⟨t₀, hah⟩ := h.ahead hv
    obtain ⟨ins, hins⟩ :=
      Option.isSome_iff_exists.mp ((hcoh.cycles t (Nat.lt_succ_self t)).instr hcmt hexc)
    have hlt := hah.lt
    have hnext := hah.nextPc henv (fun u hu => (hcoh.cycles u (by omega)).borrow) hv hcmt hexc hins
    rw [hflush, if_pos rfl] at hnext
    rw [Exu.excpirqFlushReq_eq, Bool.or_eq_false_iff] at hexc
    rw [hexc.1, hexc.2, hcmt, hins, hnext, ← h.archPc_eq henv hv]
    rfl

/-- A commit without a flush goes on with what was requested behind the instruction. -/
theorem Follows.archPc_commit (h : Follows inp s t) (henv : FetchEnv inp s)
    (hcoh : CoherentUntil inp s (t + 1)) (hah : Ahead inp s t₀ t)
    (hflush : Exu.pipeFlushReq (run inp s t).exu (exuIn (run inp s t) (inp t)) = false)
    (hcmt : Exu.cmtEna (run inp s t).exu (exuIn (run inp s t) (inp t)) = true) :
    archPc inp s (t + 1) = Ifetch.pcNxt (run inp s t₀).ifu (ifuIn (run inp s t₀) (inp t₀)) := by
  have hexc : Exu.excpirqFlushReq (run inp s t).exu (exuIn (run inp s t) (inp t)) = false :=
    (Bool.or_eq_false_iff.mp hflush).1
  have hv : (run inp s t).ifu.irValidR = true :=
    ((Bool.and_eq_true _ _).mp ((Steady.run henv.reset t).iHsked_of_cmtEna hcmt)).1
  obtain ⟨ins, hins⟩ :=
    Option.isSome_iff_exists.mp ((hcoh.cycles t (Nat.lt_succ_self t)).instr hcmt hexc)
  have hlt := hah.lt
  have hnext := hah.nextPc henv (fun u hu => (hcoh.cycles u (by omega)).borrow) hv hcmt hexc hins
  rw [hflush, if_neg (by decide)] at hnext
  rw [Exu.excpirqFlushReq_eq, Bool.or_eq_false_iff] at hexc
  rw [archPc, nextArchPc, hexc.1, hexc.2, hcmt, hins, hnext, ← h.archPc_eq henv hv]
  rfl

/-- Otherwise the program counter stays. -/
theorem archPc_idle
    (hflush : Exu.pipeFlushReq (run inp s t).exu (exuIn (run inp s t) (inp t)) = false)
    (hcmt : Exu.cmtEna (run inp s t).exu (exuIn (run inp s t) (inp t)) = false) :
    archPc inp s (t + 1) = archPc inp s t := by
  have hexc : Exu.excpirqFlushReq (run inp s t).exu (exuIn (run inp s t) (inp t)) = false :=
    (Bool.or_eq_false_iff.mp hflush).1
  rw [Exu.excpirqFlushReq_eq, Bool.or_eq_false_iff] at hexc
  rw [archPc, nextArchPc, hexc.1, hexc.2, hcmt]
  rfl

/-- The first request is for the reset vector. -/
theorem pcNxt_of_reset (hpath : Ifetch.OnPath (run inp s t).ifu []) (hcoh : Coherent (run inp s t) (inp t))
    (hflush : Exu.pipeFlushReq (run inp s t).exu (exuIn (run inp s t) (inp t)) = false)
    (hreset : (run inp s t).ifu.resetReqR = true) :
    Ifetch.pcNxt (run inp s t).ifu (ifuIn (run inp s t) (inp t)) = Isa.evenPc (inp t).pcRtvec := by
  have hdly := hpath.dlyFlushR_of_nil
  have hreq : (ifuIn (run inp s t) (inp t)).pipeFlushReq = false := hflush
  have hbjp := hcoh.reset hreset
  rw [Ifetch.pcNxt, hreq, hdly, if_neg (by decide), if_neg (by decide), Ifetch.halfAlign_eq,
    Ifetch.pcNxtPre, Ifetch.pcAddOp1, Ifetch.pcAddOp2, hbjp, Ifetch.ifuResetReq, hreset]
  simp [Ifetch.ifetchReplayReq, ifuIn]

/-- What is requested with nothing else on the path. -/
theorem head_request {req : Bool} {tgt pc : BitVec 32}
    (h : pc ∈ (if req && !false then [tgt] else []).head?) : req = true ∧ pc = tgt := by
  cases req
  · cases h
  · exact ⟨rfl, (Option.some.inj h).symm⟩

theorem Follows.head_step (h : Follows inp s t) (henv : FetchEnv inp s)
    (hcoh : CoherentUntil inp s (t + 1)) :
    ∀ pc ∈ (path inp s (t + 1)).head?, pc = archPc inp s (t + 1) := by
  have hsteady : Steady (run inp s t) := Steady.run henv.reset t
  rw [path, Ifetch.pathNext]
  cases hflush : (ifuIn (run inp s t) (inp t)).pipeFlushReq
  case true =>
    rw [if_pos rfl, h.archPc_flush henv hcoh hflush]
    intro pc hpc
    exact (Option.some.inj hpc).symm
  case false =>
    rw [if_neg (by decide)]
    cases hcmt : Exu.cmtEna (run inp s t).exu (exuIn (run inp s t) (inp t))
    case true =>
      have hv : (run inp s t).ifu.irValidR = true :=
        ((Bool.and_eq_true _ _).mp (hsteady.iHsked_of_cmtEna hcmt)).1
      obtain ⟨t₀, hah⟩ := h.ahead hv
      rw [if_pos rfl, hah.path_eq henv h.onPath hv, h.archPc_commit henv hcoh hah hflush hcmt]
      intro pc hpc
      obtain ⟨hout, -⟩ | hun := hah.next
      · rw [hout] at hpc
        exact (Option.some.inj hpc).symm
      · obtain ⟨-, hdly, hout, -⟩ := hun.idle henv
        rw [hout, hdly] at hpc
        obtain ⟨hreq, rfl⟩ := head_request hpc
        exact hun.ifuReqPc henv hcoh hflush hreq
    case false =>
      rw [if_neg (by decide), archPc_idle hflush hcmt]
      intro pc hpc
      cases hpath : path inp s t with
      | cons p rest =>
        rw [hpath] at hpc
        apply h.head
        rw [hpath]
        exact hpc
      | nil =>
        have hnil : Ifetch.OnPath (run inp s t).ifu [] := hpath ▸ h.onPath
        rw [hpath, List.nil_append, hnil.dlyFlushR_of_nil] at hpc
        obtain ⟨hreq, rfl⟩ := head_request hpc
        obtain ⟨hfirst, hvec⟩ | ⟨t₀, hun, hnext⟩ := h.none hpath
        · have hreset : (run inp s t).ifu.resetReqR = true := by
            obtain hf | hf := hfirst
            · rw [(Startup.run henv.reset t).started.ifuReqHsked hf hflush] at hreq
              cases hreq
            · exact hf
          rw [hvec, ← henv.vec t]
          exact pcNxt_of_reset hnil (hcoh.cycles t (Nat.lt_succ_self t)) hflush hreset
        · exact (hun.ifuReqPc henv hcoh hflush hreq).trans hnext.symm

theorem Follows.none_step (h : Follows inp s t) (henv : FetchEnv inp s)
    (hcoh : CoherentUntil inp s (t + 1)) (hempty : path inp s (t + 1) = []) :
    ((run inp s (t + 1)).ifu.resetFlagR = true ∨ (run inp s (t + 1)).ifu.resetReqR = true) ∧
        archPc inp s (t + 1) = Isa.evenPc (inp 0).pcRtvec ∨
      ∃ t₀, Unrequested inp s t₀ (t + 1) ∧
        archPc inp s (t + 1) = Ifetch.pcNxt (run inp s t₀).ifu (ifuIn (run inp s t₀) (inp t₀)) := by
  have hsteady : Steady (run inp s t) := Steady.run henv.reset t
  rw [path, Ifetch.pathNext] at hempty
  cases hflush : (ifuIn (run inp s t) (inp t)).pipeFlushReq
  case true =>
    rw [hflush, if_pos rfl] at hempty
    cases hempty
  case false =>
    rw [hflush, if_neg (by decide)] at hempty
    obtain ⟨hold, hnew⟩ := List.append_eq_nil_iff.mp hempty
    have hreq : (run inp s t).ifu.dlyFlushR = false →
        Ifetch.ifuReqHsked (run inp s t).ifu (ifuIn (run inp s t) (inp t)) = false := by
      intro hdly
      rw [hdly, Bool.not_false, Bool.and_true] at hnew
      cases hq : Ifetch.ifuReqHsked (run inp s t).ifu (ifuIn (run inp s t) (inp t))
      · rfl
      · rw [hq] at hnew
        cases hnew
    cases hcmt : Exu.cmtEna (run inp s t).exu (exuIn (run inp s t) (inp t))
    case true =>
      -- the instruction commits before the one behind it is requested
      have hv : (run inp s t).ifu.irValidR = true :=
        ((Bool.and_eq_true _ _).mp (hsteady.iHsked_of_cmtEna hcmt)).1
      obtain ⟨t₀, hah⟩ := h.ahead hv
      rw [hcmt, if_pos rfl, hah.path_eq henv h.onPath hv] at hold
      obtain ⟨hout, -⟩ | hun := hah.next
      · rw [hout] at hold
        cases hold
      · obtain ⟨-, hdly, -⟩ := hun.idle henv
        exact .inr ⟨t₀, hun.step hflush (hreq hdly), h.archPc_commit henv hcoh hah hflush hcmt⟩
    case false =>
      rw [hcmt, if_neg (by decide)] at hold
      have hnil : Ifetch.OnPath (run inp s t).ifu [] := hold ▸ h.onPath
      have hno := hreq hnil.dlyFlushR_of_nil
      obtain ⟨hfirst, hvec⟩ | ⟨t₀, hun, hnext⟩ := h.none hold
      · refine .inl ⟨.inr ?_, (archPc_idle hflush hcmt).trans hvec⟩
        rw [ifu_succ, Ifetch.step_resetReqR, Ifetch.resetReqSet, Ifetch.resetReqClr, hno]
        obtain hf | hf := hfirst
        · rw [hf]
          cases (run inp s t).ifu.resetReqR <;> rfl
        · rw [hf]
          cases (run inp s t).ifu.resetFlagR <;> rfl
      · exact .inr ⟨t₀, hun.step hflush hno, (archPc_idle hflush hcmt).trans hnext⟩

theorem Follows.step (h : Follows inp s t) (henv : FetchEnv inp s)
    (hcoh : CoherentUntil inp s (t + 1)) : Follows inp s (t + 1) where
  onPath := onPath_run henv.reset henv.rsp fun u hu =>
    ⟨(hcoh.cycles u hu).stale, (hcoh.cycles u hu).dropped⟩
  none := h.none_step henv hcoh
  head := h.head_step henv hcoh
  ahead hv' := by
    cases hset : Ifetch.irValidSet (run inp s t).ifu (ifuIn (run inp s t) (inp t))
    case true => exact ⟨t, .of_load hset⟩
    case false =>
      have hv : (run inp s t).ifu.irValidR = true := by
        rw [ifu_succ, Ifetch.step_irValidR, hset, Bool.false_or] at hv'
        exact ((Bool.and_eq_true _ _).mp hv').1
      obtain ⟨t₀, hah⟩ := h.ahead hv
      exact ⟨t₀, hah.keep henv hcoh h.onPath hv hset hv'⟩

theorem Follows.of_reset (henv : FetchEnv inp s) : Follows inp s 0 where
  onPath := by
    change Ifetch.OnPath s.ifu []
    rw [henv.reset.1]
    exact .of_reset
  none _ := by
    have hfirst : s.ifu.resetFlagR = true := by
      rw [henv.reset.1]
      rfl
    exact .inl ⟨.inl hfirst, rfl⟩
  head pc hpc := by cases hpc
  ahead hv := by
    change s.ifu.irValidR = true at hv
    rw [henv.reset.1] at hv
    cases hv

theorem follows_run (henv : FetchEnv inp s) (hcoh : CoherentUntil inp s t) : Follows inp s t := by
  induction t with
  | zero => exact .of_reset henv
  | succ t ih => exact (ih (hcoh.mono (Nat.le_succ t))).step henv hcoh

/-- A valid PC is the program counter. -/
theorem Follows.ifuPcR_of_vld (h : Follows inp s t) (henv : FetchEnv inp s)
    (hv : (run inp s t).ifu.irPcVldR = true) : (run inp s t).ifu.ifuPcR = archPc inp s t :=
  h.head _ (h.onPath.head (Startup.run henv.reset t).kept hv)

/-- An interrupt saves a valid PC. -/
theorem cmtEpc_of_irq {s : State} {i : In}
    (h : Excp.irqFlushReq s.exu.excp (Exu.cmtCtl s.exu (exuIn s i)).toCtl
      (Exu.aluCmt s.exu (exuIn s i)).toAlu (Exu.aluCmtValid s.exu (exuIn s i)) = true) :
    s.ifu.irPcVldR = true ∧ (Exu.csrIn s.exu (exuIn s i)).cmtEpc = s.ifu.ifuPcR := by
  simp only [Excp.irqFlushReq, Bool.and_eq_true, Bool.not_eq_true'] at h
  have hlongp : (Exu.cmtCtl s.exu (exuIn s i)).longpExcpIValid = false := h.2
  refine ⟨h.1.1.2, ?_⟩
  change Excp.cmtEpc _ _ = _
  rw [Excp.cmtEpc, hlongp]
  rfl

/-- A debug entry saves a valid PC. -/
theorem cmtDpc_of_dbgEntry {s : State} {i : In} (h : Exu.dbgEntryTaken s.exu (exuIn s i) = true) :
    s.ifu.irPcVldR = true ∧ (Exu.dbgCsr s.exu (exuIn s i)).cmtDpc = s.ifu.ifuPcR := by
  rw [Exu.dbgEntryTaken, Excp.dbgEntryTakenEna_eq] at h
  simp only [Excp.dbgEntryFlushReq, Bool.and_eq_true] at h
  exact ⟨h.1.2, rfl⟩

/-- What commits is the instruction at the program counter of the architecture, and an interrupt or
a debug entry saves the program counter. -/
theorem commits_at_archPc (henv : FetchEnv inp s)
    (hord : ∀ u < t, Orderly (run inp s u) (inp u)) :
    (Exu.cmtEna (run inp s t).exu (exuIn (run inp s t) (inp t)) = true →
        (run inp s t).ifu.ifuPcR = archPc inp s t) ∧
      (Excp.irqFlushReq (run inp s t).exu.excp
            (Exu.cmtCtl (run inp s t).exu (exuIn (run inp s t) (inp t))).toCtl
            (Exu.aluCmt (run inp s t).exu (exuIn (run inp s t) (inp t))).toAlu
            (Exu.aluCmtValid (run inp s t).exu (exuIn (run inp s t) (inp t))) = true →
        (Exu.csrIn (run inp s t).exu (exuIn (run inp s t) (inp t))).cmtEpc = archPc inp s t) ∧
      (Exu.dbgEntryTaken (run inp s t).exu (exuIn (run inp s t) (inp t)) = true →
        (Exu.dbgCsr (run inp s t).exu (exuIn (run inp s t) (inp t))).cmtDpc = archPc inp s t) ∧
      ((run inp s t).ifu.irPcVldR = true → (run inp s t).ifu.ifuPcR = archPc inp s t) ∧
      ∀ pc ∈ (path inp s t).head?, pc = archPc inp s t := by
  have h := follows_run henv (.of_orderly henv hord)
  refine ⟨fun hcmt => ?_, fun hirq => ?_, fun hdbg => ?_, h.ifuPcR_of_vld henv, h.head⟩
  · exact h.archPc_eq henv
      ((Bool.and_eq_true _ _).mp ((Steady.run henv.reset t).iHsked_of_cmtEna hcmt)).1
  · obtain ⟨hvld, hepc⟩ := cmtEpc_of_irq hirq
    exact hepc.trans (h.ifuPcR_of_vld henv hvld)
  · obtain ⟨hvld, hdpc⟩ := cmtDpc_of_dbgEntry hdbg
    exact hdpc.trans (h.ifuPcR_of_vld henv hvld)

end
instance (s : State) (i : In) : Decidable (StaleFlush s i) := inferInstanceAs (Decidable (_ ∧ _ ∧ _))
instance (s : State) (i : In) : Decidable (Dropped s i) :=
  inferInstanceAs (Decidable (_ ∧ _ ∧ _ ∧ _ ∧ _ ∧ _ ∧ _))
instance (s : State) (i : In) : Decidable (BorrowFlush s i) := inferInstanceAs (Decidable (_ ∧ _))

instance (s : State) (i : In) : Decidable (Orderly s i) :=
  decidable_of_iff
    (¬StaleFlush s i ∧ ¬Dropped s i ∧ ¬BorrowFlush s i ∧
      (Ifetch.irValidSet s.ifu (ifuIn s i) = true → (ifuIn s i).ifuHaltReq = false) ∧
      (s.ifu.resetReqR = true → Ifetch.bjpReq s.ifu (ifuIn s i) = false) ∧
      (Exu.cmtEna s.exu (exuIn s i) = true → Exu.excpirqFlushReq s.exu (exuIn s i) = false →
        (Isa.decode s.ifu.ifuIrR).isSome = true))
    ⟨fun ⟨h1, h2, h3, h4, h5, h6⟩ => ⟨h1, h2, h3, h4, h5, h6⟩,
      fun ⟨h1, h2, h3, h4, h5, h6⟩ => ⟨h1, h2, h3, h4, h5, h6⟩⟩

/-- `addi x1, x0, 1`, then `bne x1, x0, -4`, then the first instruction again; an interrupt comes in
cycle 5. -/
def branchBack (t : ℕ) : In :=
  { In.quiet with
    ifuRspValid := decide (2 ≤ t ∧ t ≤ 4)
    ifuRspInstr := if t = 3 then 0xfe009ee3#32 else 0x00100093#32
    extIrqR := t == 5
    meieR := true
    statusMieR := true
    csrMtvecR := 0x100#32 }

theorem fetchEnv_branchBack : FetchEnv branchBack zeroState := by
  have hcycles : ∀ {t}, (branchBack t).ifuRspValid = true → t = 2 ∨ t = 3 ∨ t = 4 := by
    intro t hv
    have ht : 2 ≤ t ∧ t ≤ 4 := of_decide_eq_true hv
    omega
  refine ⟨State.isReset_reset _, fun t hv => ?_, fun t hv => ?_, fun _ => rfl⟩
  · obtain rfl | rfl | rfl := hcycles hv <;> decide +kernel
  · obtain rfl | rfl | rfl := hcycles hv <;> decide +kernel

/-- The branch is taken, and the interrupt saves its target. -/
theorem commits_at_archPc_branchBack :
    archPc branchBack zeroState 5 = 0x80000000#32 ∧
      (Exu.csrIn (run branchBack zeroState 5).exu
        (exuIn (run branchBack zeroState 5) (branchBack 5))).cmtEpc = archPc branchBack zeroState 5 ∧
      archPc branchBack zeroState 6 = 0x100#32 := by
  have hord : ∀ u < 5, Orderly (run branchBack zeroState u) (branchBack u) := by decide +kernel
  exact ⟨by decide +kernel, (commits_at_archPc fetchEnv_branchBack hord).2.1 (by decide +kernel),
    by decide +kernel⟩

end Core
end E203
