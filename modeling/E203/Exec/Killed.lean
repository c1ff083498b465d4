import E203.Exec.InOrder
import E203.Exec.Trap

/-! # Instructions that are killed

* `Core.NoEffect`: the instruction in the IR does nothing in a cycle.
* `Core.Steady.noEffect_of_stay`, `Core.Steady.noEffect_of_flush`: it does nothing while it stays in the
  IR, nor when it is flushed by an event or by its own exception.
* `Core.trap_commit`: the commit stage in every cycle of a run, and the life of a killed instruction.
-/

namespace E203
set_option autoImplicit false

namespace Exu
section
variable {s : State} {i : In}

/-- What is allocated is a load or a store. -/
theorem mem_of_oitfEna (h : oitfEna s i = true) :
    Decode.isLoad i.iIr = true ∨ Decode.isStore i.iIr = true := by
  obtain ⟨-, hagu, hlong⟩ := oitfEna_disReady h
  obtain ⟨hld, hst, -⟩ := agu_kind hagu
  rw [Lsuagu.aguILongpipe, Lsuagu.aguIAlgnldst, hld, hst] at hlong
  cases hl : Decode.isLoad i.iIr
  · cases hs : Decode.isStore i.iIr
    · simp [hl, hs] at hlong
    · exact .inr rfl
  · exact .inl rfl

/-- No command without a load, a store or an atomic operation. -/
theorem aguIcbCmdHsked_of_other (hld : Decode.isLoad i.iIr = false)
    (hst : Decode.isStore i.iIr = false) (hamo : Decode.isAmo i.iIr = false) :
    aguIcbCmdHsked s i = false := by
  have hvalid : aguIcbCmdValid s i = false := by
    cases hagu : Alu.aguOp (alu s i)
    · simp [aguIcbCmdValid, Alu.aguIcbCmdValid, Lsuagu.aguIcbCmdValid, Alu.agu, hagu,
        Lsuagu.aguIAlgnamo, Lsuagu.aguIAmo, Lsuagu.aguIAlgnldst, Lsuagu.aguILoad, Lsuagu.aguIStore]
    · obtain ⟨hld', hst', hamo'⟩ := agu_kind hagu
      rw [hld, Bool.false_and] at hld'
      rw [hst, Bool.false_and] at hst'
      rw [hamo, Bool.false_and] at hamo'
      simp [aguIcbCmdValid, Alu.aguIcbCmdValid, Lsuagu.aguIcbCmdValid, Lsuagu.aguIAlgnamo,
        Lsuagu.aguIAlgnldst, hld', hst', hamo']
  rw [aguIcbCmdHsked, hvalid, Bool.false_and]

end
end Exu

namespace Core

/-- The instruction in the IR does nothing in this cycle: it writes no register and is not allocated to
write one later, writes no CSR, does not return, and issues no bus command unless it is an atomic
operation. -/
structure NoEffect (s : State) (i : In) : Prop where
  /-- What is written comes from an instruction that has left the IR before. -/
  rf : ∀ p, Exu.rfWrite s.exu (exuIn s i) = some p → Exu.longpWbckOValid s.exu (exuIn s i) = true
  oitf : Exu.oitfEna s.exu (exuIn s i) = false
  csr : ¬WritesCsr s i
  ret : Exu.cmtMretEna s.exu (exuIn s i) = false ∧ Exu.cmtDretEna s.exu (exuIn s i) = false
  cmd : Decode.isAmo s.ifu.ifuIrR = false → Exu.aguIcbCmdHsked s.exu (exuIn s i) = false

section
variable {s : State} {i : In}

/-- What is flushed by a trap or a debug entry is not allocated. -/
theorem Steady.oitfEna_of_flush (h : Steady s) (hev : Exu.excpirqFlushReq s.exu (exuIn s i) = true) :
    Exu.oitfEna s.exu (exuIn s i) = false := by
  rw [← Bool.not_eq_true]
  intro hena
  by_cases hidle : s.exu.alu.agu.icbStateR = .idle
  · have hword := Exu.mem_of_oitfEna hena
    have hcmd := (Exu.aguIcbCmdHsked_iff (i := exuIn s i) hidle ((Bool.or_eq_true _ _).mpr hword)).mpr
      ⟨h.cmtEna_of_oitfEna hena, hena⟩
    have hvalid : Exu.aguIcbCmdValid s.exu (exuIn s i) = true := ((Bool.and_eq_true _ _).mp hcmd).1
    exact Bool.false_ne_true ((Exu.no_cmd_of_flush hidle hev).symm.trans hvalid)
  · exact Bool.false_ne_true ((h.amoRun i hidle).oitfEna_eq.symm.trans hena)

/-- The ALU writes only what commits. -/
theorem longpWbckOValid_of_rfWrite (hno : Exu.cmtWrites s.exu (exuIn s i) = false)
    {p : BitVec 5 × BitVec 32} (hp : Exu.rfWrite s.exu (exuIn s i) = some p) :
    Exu.longpWbckOValid s.exu (exuIn s i) = true := by
  rw [Exu.rfWrite_eq, hno] at hp
  cases hl : Exu.longpWbckOValid s.exu (exuIn s i)
  · rw [hl] at hp
    cases hp
  · rfl

/-- An instruction that stays in the IR has done nothing yet. -/
theorem Steady.noEffect_of_stay (h : Steady s)
    (hstay : Exu.iHsked s.exu (exuIn s i) = false)
    (hflush : Exu.pipeFlushReq s.exu (exuIn s i) = false) : NoEffect s i := by
  have hcmt : Exu.cmtEna s.exu (exuIn s i) = false := by
    by_contra hcmt
    have hleave := h.iHsked_of_cmtEna (Bool.not_eq_false _ ▸ hcmt)
    exact Bool.false_ne_true (hstay.symm.trans hleave)
  have hoitf : Exu.oitfEna s.exu (exuIn s i) = false := by
    by_contra hena
    have hleave := Exu.iHsked_of_oitfEna (Bool.not_eq_false _ ▸ hena)
    exact Bool.false_ne_true (hstay.symm.trans hleave)
  refine ⟨fun p hp => ?_, hoitf, fun hw => ?_, ?_, fun hamo => ?_⟩
  · apply longpWbckOValid_of_rfWrite _ hp
    rw [Exu.cmtWrites, hcmt, Bool.false_and]
  · have hcsr := (h.trapCommit Csr.State.reset).writes hw
    rw [Exu.csrWriteCmt, hcmt, Bool.and_false] at hcsr
    cases hcsr
  · -- a return flushes
    rw [← Bool.or_eq_false_iff]
    by_contra hret
    rw [Bool.not_eq_false] at hret
    have hreq := (Exu.brchmis_of_ret hret).1
    have hbr : Commit.aluBrchmisFlushReq s.exu.excp (Exu.cmtCtl s.exu (exuIn s i))
        (Exu.aluCmt s.exu (exuIn s i)) (Exu.aluCmtValid s.exu (exuIn s i)) = true := hreq
    rw [Exu.pipeFlushReq, Commit.pipeFlushReq, hbr, Bool.or_true] at hflush
    cases hflush
  · cases hword : Decode.isLoad s.ifu.ifuIrR || Decode.isStore s.ifu.ifuIrR
    · obtain ⟨hld, hst⟩ := Bool.or_eq_false_iff.mp hword
      exact Exu.aguIcbCmdHsked_of_other hld hst hamo
    · have hidle : s.exu.alu.agu.icbStateR = .idle := by
        by_contra hbusy
        exact Bool.false_ne_true (hamo.symm.trans (h.amo hbusy).2.1)
      by_contra hcmd
      rw [Bool.not_eq_false] at hcmd
      have hboth := (Exu.aguIcbCmdHsked_iff (i := exuIn s i) hidle hword).mp hcmd
      exact Bool.false_ne_true (hcmt.symm.trans hboth.1)

/-- An instruction that is flushed by an event or by its own exception does nothing. -/
theorem Steady.noEffect_of_flush (h : Steady s)
    (hflush : Exu.excpirqFlushReq s.exu (exuIn s i) = true) : NoEffect s i := by
  have htrap : TrapCommit s i Csr.State.reset := h.trapCommit _
  obtain ⟨-, hcsr, hcmd⟩ := htrap.killed hflush
  refine ⟨fun p hp => ?_, h.oitfEna_of_flush hflush, fun hw => ?_, ?_, fun _ => ?_⟩
  · apply longpWbckOValid_of_rfWrite _ hp
    have hsel := Exu.wbckSelAlu_eq (s := s.exu) (i := exuIn s i)
    have hno : (Exu.wbck s.exu (exuIn s i)).aluWbckIValid = false := Exu.no_wbck_of_flush hflush
    rw [← hsel, Wbck.wbckSelAlu, hno, Bool.false_and]
  · rw [htrap.writes hw] at hcsr
    cases hcsr
  · rw [← Bool.or_eq_false_iff]
    by_contra hret
    rw [(Exu.ret_facts (Bool.not_eq_false _ ▸ hret)).2] at hflush
    cases hflush
  · rw [Exu.aguIcbCmdHsked, hcmd, Bool.false_and]

end

/-- Every cycle of every run commits traps atomically and exclusively, and an instruction that is
flushed by an event or by its own exception has done nothing since it came into the IR. -/
theorem trap_commit {inp : ℕ → In} {s : State} (h0 : IsReset s) (t : ℕ) (cs : Csr.State) :
    TrapCommit (run inp s t) (inp t) cs ∧
      ∀ t₀, StaysInIr inp s t₀ t →
        Exu.excpirqFlushReq (run inp s t).exu (exuIn (run inp s t) (inp t)) = true →
        ∀ w, t₀ ≤ w → w ≤ t → NoEffect (run inp s w) (inp w) := by
  refine ⟨(Steady.run h0 t).trapCommit cs, fun t₀ hstay hflush w hw1 hw2 => ?_⟩
  obtain hlt | rfl : w < t ∨ w = t := by omega
  · obtain ⟨-, hno, hnoflush⟩ := hstay w hw1 hlt
    exact (Steady.run h0 w).noEffect_of_stay hno hnoflush
  · exact (Steady.run h0 w).noEffect_of_flush hflush

/-- `div x5, x1, x2`, and an interrupt while it is divided. -/
def killedDiv (t : ℕ) : In :=
  { In.quiet with
    ifuRspValid := t == 2
    ifuRspInstr := 0x0220c2b3#32
    extIrqR := decide (8 ≤ t)
    meieR := true
    statusMieR := true }

/-- The interrupt of cycle 8 is taken at the division, which has done nothing in the cycles before. -/
theorem trap_commit_killedDiv :
    Csr.Trapped Csr.State.reset
        (Excp.trap
          (Exu.cmtCtl (run killedDiv scaledState 8).exu
            (exuIn (run killedDiv scaledState 8) (killedDiv 8))).toCtl
          (Exu.aluCmt (run killedDiv scaledState 8).exu
            (exuIn (run killedDiv scaledState 8) (killedDiv 8))).toAlu)
        (Csr.step Csr.State.reset
          (Exu.csrIn (run killedDiv scaledState 8).exu
            (exuIn (run killedDiv scaledState 8) (killedDiv 8)))) ∧
      NoEffect (run killedDiv scaledState 5) (killedDiv 5) := by
  obtain ⟨htrap, hkilled⟩ :=
    @trap_commit killedDiv scaledState (State.isReset_reset _) 8 Csr.State.reset
  refine ⟨htrap.trapped (by decide +kernel) (by decide +kernel),
    hkilled 3 (fun w hw1 hw2 => ?_) (by decide +kernel) 5 (by omega) (by omega)⟩
  obtain rfl | rfl | rfl | rfl | rfl : w = 3 ∨ w = 4 ∨ w = 5 ∨ w = 6 ∨ w = 7 := by omega
  all_goals
    clear hw1 hw2
    decide +kernel

/-- An `AMOADD.W` whose read comes back with an error. -/
def amoFault (t : ℕ) : In :=
  { In.quiet with
    ifuRspValid := t == 2
    ifuRspInstr := 0x000020af#32
    aguIcbRspValid := t == 4 || t == 8
    aguIcbRspErr := t == 4 }

/-- It takes an exception after its read command has been accepted. -/
theorem amoFault_issues_command :
    IsReset zeroState ∧ (∀ t, RspOutstanding (amoFault t) (run amoFault zeroState t)) ∧
      ¬∀ t u, t ≤ u → StaysInIr amoFault zeroState t u →
        Exu.excpirqFlushReq (run amoFault zeroState u).exu
          (exuIn (run amoFault zeroState u) (amoFault u)) = true →
        Exu.aguIcbCmdHsked (run amoFault zeroState t).exu
          (exuIn (run amoFault zeroState t) (amoFault t)) = false := by
  refine ⟨State.isReset_reset _, fun t hv => ?_, fun hno => ?_⟩
  · have ht : t = 2 := by simpa [amoFault] using hv
    clear hv
    rw [ht]
    decide +kernel
  · have hstays : StaysInIr amoFault zeroState 3 9 := by
      intro w hw1 hw2
      obtain rfl | rfl | rfl | rfl | rfl | rfl :
          w = 3 ∨ w = 4 ∨ w = 5 ∨ w = 6 ∨ w = 7 ∨ w = 8 := by omega
      all_goals
        clear hw1 hw2
        decide +kernel
    have hcmd : Exu.aguIcbCmdHsked (run amoFault zeroState 3).exu
        (exuIn (run amoFault zeroState 3) (amoFault 3)) = true := by decide +kernel
    rw [hno 3 9 (by omega) hstays (by decide +kernel)] at hcmd
    cases hcmd

end Core
end E203
