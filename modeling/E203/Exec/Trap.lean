import E203.Exec.Handoff
import E203.Rtl.ExuCsr

/-! # Traps

* `Excp.Trap`: what a trap writes, one definition for each source; `Excp.trap` selects the source.
* `Excp.cmt_eq_trap`: the separately encoded muxes for the PC, the cause and the value agree with it.
* `Exu.no_effect_of_flush`: the instruction that an exception, an interrupt or a debug entry flushes has
  no effect in that cycle.
* `Core.Steady.trapCommit`: the commit stage in one cycle.
-/

namespace E203
set_option autoImplicit false

/-! ## What a trap writes -/

namespace Excp

structure Trap where
  epc : BitVec 32
  cause : BitVec 32
  tval : BitVec 32
deriving DecidableEq

/-- The error of an outstanding load or store. -/
def longpTrap (c : Ctl) : Trap where
  epc := c.longpExcpIPc
  cause :=
    0#27 ++
      (if c.longpExcpILd && c.longpExcpIBuserr then 5#5
        else if c.longpExcpISt && c.longpExcpIBuserr then 7#5
        else if c.longpExcpIInsterr then 16#5
        else 0x1F#5)
  tval := if (c.longpExcpILd || c.longpExcpISt) && c.longpExcpIBuserr then c.longpExcpIBadaddr else 0#32

/-- An interrupt resumes at the offered instruction. -/
def irqTrap (c : Ctl) (a : Alu) : Trap where
  epc := a.aluExcpIPc
  cause := irqCause c
  tval := 0#32

/-- The exception of the offered instruction. -/
def aluTrap (c : Ctl) (a : Alu) : Trap where
  epc := a.aluExcpIPc
  cause :=
    0#27 ++
      (if a.aluExcpIIfuMisalgn then 0#5
        else if a.aluExcpIIfuBuserr then 1#5
        else if a.aluExcpIIfuIlegl then 2#5
        else if aluExcpIEbreak4excp c a then 3#5
        else if a.aluExcpILd && a.aluExcpIMisalgn then 4#5
        else if a.aluExcpILd && a.aluExcpIBuserr then 5#5
        else if a.aluExcpIStamo && a.aluExcpIMisalgn then 6#5
        else if a.aluExcpIStamo && a.aluExcpIBuserr then 7#5
        else if a.aluExcpIEcall && c.uMode then 8#5
        else if a.aluExcpIEcall && c.sMode then 9#5
        else if a.aluExcpIEcall && c.hMode then 10#5
        else if a.aluExcpIEcall && c.mMode then 11#5
        else 0x1F#5)
  tval :=
    if (a.aluExcpILd || a.aluExcpIStamo) && (a.aluExcpIMisalgn || a.aluExcpIBuserr) then
      a.aluExcpIBadaddr
    else if aluExcpIEbreak4excp c a || a.aluExcpIIfuMisalgn || a.aluExcpIIfuBuserr then a.aluExcpIPc
    else if a.aluExcpIIfuIlegl then a.aluExcpIInstr
    else 0#32

/-- The pending source of the highest priority: an outstanding access, then an interrupt, then the
offered instruction. -/
def trap (c : Ctl) (a : Alu) : Trap :=
  if longpNeedFlush c then longpTrap c else if irqReq c then irqTrap c a else aluTrap c a

section
variable {s : State} {c : Ctl} {a : Alu} {v : Bool}

/-- A trap is taken: an exception or an interrupt, not a debug entry. -/
def trapTaken (s : State) (c : Ctl) (a : Alu) (v : Bool) : Bool :=
  excpTakenEna s c a true v || irqTakenEna s c a true v

theorem excpTakenEna_eq : excpTakenEna s c a true v = allExcpFlushReq s c a v := by
  rw [excpTakenEna, excpirqTakenEna, excpirqFlushReq, allExcpFlushReq]
  cases longpExcpFlushReq c <;> cases aluExcpFlushReq s c a v <;> simp

theorem irqTakenEna_eq : irqTakenEna s c a true v = irqFlushReq s c a v := by
  rw [irqTakenEna, excpirqTakenEna, excpirqFlushReq]
  cases irqFlushReq s c a v <;> simp

theorem dbgEntryTakenEna_eq : dbgEntryTakenEna s c a true v = dbgEntryFlushReq s c a v := by
  rw [dbgEntryTakenEna, excpirqTakenEna, excpirqFlushReq]
  cases dbgEntryFlushReq s c a v <;> simp

/-- A higher source masks the requests of the lower ones. -/
theorem flushReq_priority :
    (longpNeedFlush c = true → irqFlushReq s c a v = false ∧ aluExcpFlushReq s c a v = false ∧
        dbgEntryFlushReq s c a v = false) ∧
      (irqReq c = true → aluExcpFlushReq s c a v = false) ∧
      (irqReq c = false → irqFlushReq s c a v = false) := by
  refine ⟨fun h => ⟨?_, ?_, ?_⟩, fun h => ?_, fun h => ?_⟩
  · simp [irqFlushReq, h]
  · simp [aluExcpFlushReq, h]
  · simp [dbgEntryFlushReq, h]
  · simp [aluExcpFlushReq, h]
  · simp [irqFlushReq, h]

/-- What is written comes from the selected source. -/
theorem cmt_eq_trap (h : trapTaken s c a v = true) :
    cmtEpc c a = (trap c a).epc ∧ cmtCause s c a true v = (trap c a).cause ∧
      cmtBadaddr s c a v = (trap c a).tval := by
  obtain ⟨hlongp, hirq, hnoirq⟩ := flushReq_priority (s := s) (c := c) (a := a) (v := v)
  rw [trapTaken, excpTakenEna_eq, irqTakenEna_eq, allExcpFlushReq] at h
  rw [cmtCause, excpTakenEna_eq, allExcpFlushReq, cmtEpc, cmtBadaddr, excpFlushByLongpLdst,
    excpFlushByAluAgu, excpCause, trap]
  have hvalid : longpNeedFlush c = c.longpExcpIValid := rfl
  have hflush : longpExcpFlushReq c = c.longpExcpIValid := rfl
  cases hl : c.longpExcpIValid
  case true =>
    obtain ⟨-, halu, -⟩ := hlongp hl
    simp [hvalid, hflush, hl, halu, longpTrap]
  case false =>
    cases hi : irqReq c
    case true =>
      simp [hvalid, hflush, hl, hirq hi, irqTrap]
    case false =>
      have halu : aluExcpFlushReq s c a v = true := by
        simpa [hflush, hl, hnoirq hi] using h
      simp [hvalid, hflush, hl, halu, aluTrap]

end
end Excp

/-! ## The CSR file -/

namespace Csr
section
variable {s : State} {i : In}

/-- The registers that a trap writes. -/
structure Trapped (s : State) (tr : Excp.Trap) (s' : State) : Prop where
  epc : s'.epcR = tr.epc.extractLsb' 1 31 ++ 0#1
  cause : s'.causeR = tr.cause.extractLsb' 31 1 ++ 0#27 ++ tr.cause.extractLsb' 0 4
  tval : s'.badaddrR = tr.tval
  mpie : s'.statusMpieR = s.statusMieR
  mie : s'.statusMieR = false

theorem trapped_step {tr : Excp.Trap} (hepc : i.cmtEpcEna = true) (hcause : i.cmtCauseEna = true)
    (hstatus : i.cmtStatusEna = true) (hbad : i.cmtBadaddrEna = true)
    (htr : i.cmtEpc = tr.epc ∧ i.cmtCause = tr.cause ∧ i.cmtBadaddr = tr.tval) :
    Trapped s tr (step s i) := by
  obtain ⟨hepc', hcause', hbad'⟩ := htr
  constructor
  · simp [step, epcEna, epcNxt, hepc, hepc']
  · simp [step, causeEna, causeNxt, hcause, hcause']
  · simp [step, badaddrEna, badaddrNxt, hbad, hbad']
  · simp [step, statusMpieEna, statusMpieNxt, hstatus]
  · simp [step, statusMpieEna, statusMieNxt, hstatus]

/-- The four trap registers keep their values. -/
def SameTrap (s s' : State) : Prop :=
  s'.epcR = s.epcR ∧ s'.causeR = s.causeR ∧ s'.badaddrR = s.badaddrR ∧
    s'.statusMpieR = s.statusMpieR ∧ s'.statusMieR = s.statusMieR

theorem sameTrap_step (hwr : wbckCsrWen i = false) (hmret : i.cmtMretEna = false)
    (hepc : i.cmtEpcEna = false) (hcause : i.cmtCauseEna = false) (hstatus : i.cmtStatusEna = false)
    (hbad : i.cmtBadaddrEna = false) : SameTrap s (step s i) := by
  have hno : ∀ n, wrEna i n = false := by
    intro n
    rw [wrEna, hwr, Bool.and_false]
  refine ⟨?_, ?_, ?_, ?_, ?_⟩
  · simp [step, epcEna, hno, hepc]
  · simp [step, causeEna, hno, hcause]
  · simp [step, badaddrEna, hno, hbad]
  · simp [step, statusMpieEna, hno, hmret, hstatus]
  · simp [step, statusMpieEna, hno, hmret, hstatus]

end
end Csr

/-! ## The execute stage -/

namespace Exu
section
variable (s : State) (i : In)

def trapTaken : Bool :=
  Excp.trapTaken s.excp (cmtCtl s i).toCtl (aluCmt s i).toAlu (aluCmtValid s i)

def dbgEntryTaken : Bool :=
  Excp.dbgEntryTakenEna s.excp (cmtCtl s i).toCtl (aluCmt s i).toAlu true (aluCmtValid s i)

/-- A CSR instruction that writes commits. -/
def csrWriteCmt : Bool := Alu.csrOp (alu s i) && csrWrEn s i && cmtEna s i

end

section
variable {s : State} {i : In}

/-- Only the regular ALU, the address-generation unit and the fetch raise exceptions. -/
theorem no_excp_of_op (h : Alu.op (alu s i) = .bjp ∨ Alu.op (alu s i) = .csr) :
    Excp.aluNeedFlush (cmtCtl s i).toCtl (aluCmt s i).toAlu = false ∧
      (aluCmt s i).aluExcpIEbreak = false := by
  obtain ⟨hexcp, halu, hagu, -, -, -⟩ := Alu.op_eq (alu s i)
  have hoff : Alu.ifuExcpOp (alu s i) = false ∧ Alu.aluOp (alu s i) = false ∧
      Alu.aguOp (alu s i) = false := by
    rw [hexcp, halu, hagu]
    obtain h | h := h <;> simp [h]
  obtain ⟨hexcp', halu', hagu'⟩ := hoff
  simp only [Alu.ifuExcpOp, Bool.or_eq_false_iff] at hexcp'
  have hebrk : (aluCmt s i).aluExcpIEbreak = false := by simp [aluCmt, Alu.cmt, halu']
  refine ⟨?_, hebrk⟩
  have hcsr : (alu s i).csrAccessIlgl = false := rfl
  rw [Excp.aluNeedFlush, Excp.aluExcpIEbreak4excp, hebrk]
  simp [aluCmt, Alu.cmt, halu', hagu', hexcp', hcsr]

theorem error_of_flush (hready : aluCmtReady s i = true) (hflush : excpirqFlushReq s i = true) :
    (aluCmtValid s i = true ∧
        Excp.aluNeedFlush (cmtCtl s i).toCtl (aluCmt s i).toAlu = true) ∨
      (aluCmt s i).aluExcpIEbreak = true := by
  cases hebrk : (aluCmt s i).aluExcpIEbreak
  case true => exact .inr rfl
  case false =>
    have hebrk' : Excp.aluExcpIEbreak4dbg (cmtCtl s i).toCtl (aluCmt s i).toAlu = false := by
      simp [Excp.aluExcpIEbreak4dbg, hebrk]
    obtain ⟨hirq, hdbg, hlongp, -⟩ :=
      Excp.events_of_ready ((Bool.and_eq_true _ _).mp hready).1 hebrk'
    have hno : Excp.aluEbreakmFlushReq (cmtCtl s i).toCtl (aluCmt s i).toAlu
        (aluCmtValid s i) = false := by
      simp [Excp.aluEbreakmFlushReq, hebrk']
    have hreq : Excp.excpirqFlushReq s.excp (cmtCtl s i).toCtl (aluCmt s i).toAlu
        (aluCmtValid s i) = true := hflush
    rw [Excp.excpirqFlushReq_of_no_event hirq hdbg hlongp hno, Bool.and_eq_true,
      Bool.and_eq_true] at hreq
    exact .inl hreq.1

/-- An instruction in error writes no register. -/
theorem oNeedWbck_of_error
    (h : Excp.aluNeedFlush (cmtCtl s i).toCtl (aluCmt s i).toAlu = true ∨
      (aluCmt s i).aluExcpIEbreak = true) : Alu.oNeedWbck s.alu (alu s i) = false := by
  have herr : Alu.wbckOErr s.alu (alu s i) = true := by
    cases hop : Alu.op (alu s i)
    case bjp | csr =>
      obtain ⟨hneed, hebrk⟩ := no_excp_of_op (s := s) (i := i) (by simp [hop])
      rw [hneed, hebrk] at h
      simp at h
    all_goals
      obtain ⟨hexcp, halu, hagu, hbjp, hcsr, hmdv⟩ := Alu.op_eq (alu s i)
      simp only [hop, decide_true, reduceCtorEq, decide_false] at hexcp halu hagu hbjp hcsr hmdv
    case excp => simp [Alu.wbckOErr, hexcp]
    case alu =>
      simp only [Alu.ifuExcpOp, Bool.or_eq_false_iff] at hexcp
      have hbits : (aluCmt s i).aluExcpIEcall = true ∨ (aluCmt s i).aluExcpIEbreak = true := by
        cases hecall : (aluCmt s i).aluExcpIEcall
        case true => exact .inl rfl
        case false =>
          obtain h | h := h
          · cases hebrk : (aluCmt s i).aluExcpIEbreak
            · rw [Excp.aluNeedFlush, Excp.aluExcpIEbreak4excp, hebrk, hecall] at h
              simp [aluCmt, Alu.cmt, hagu, hcsr, hexcp] at h
            · exact .inr rfl
          · exact .inr h
      have hbits' : Rglr.aluOCmtEcall (Alu.rglr (alu s i)) = true ∨
          Rglr.aluOCmtEbreak (Alu.rglr (alu s i)) = true := by
        simpa [aluCmt, Alu.cmt, halu] using hbits
      obtain hb | hb := hbits' <;> simp [Alu.wbckOErr, halu, Rglr.aluOWbckErr, hb]
    case agu =>
      simp only [Alu.ifuExcpOp, Bool.or_eq_false_iff] at hexcp
      have hebrk : (aluCmt s i).aluExcpIEbreak = false := by simp [aluCmt, Alu.cmt, halu]
      have hneed : Excp.aluNeedFlush (cmtCtl s i).toCtl (aluCmt s i).toAlu = true := by
        simpa [hebrk] using h
      rw [Excp.aluNeedFlush, Excp.aluExcpIEbreak4excp, hebrk] at hneed
      have herr : (Lsuagu.aguOCmtMisalgn s.alu.agu (Alu.agu s.alu (alu s i))
            (Alu.dpathRes s.alu (alu s i)) ||
          Lsuagu.aguOCmtBuserr s.alu.agu (Alu.agu s.alu (alu s i))
            (Alu.dpathRes s.alu (alu s i))) = true := by
        simpa [aluCmt, Alu.cmt, halu, hagu, hcsr, hexcp] using hneed
      rw [Bool.or_comm] at herr
      simp [Alu.wbckOErr, hagu, Lsuagu.aguOWbckErr, herr]
    case mdv | none =>
      simp only [Alu.ifuExcpOp, Bool.or_eq_false_iff] at hexcp
      have hebrk : (aluCmt s i).aluExcpIEbreak = false := by simp [aluCmt, Alu.cmt, halu]
      rw [Excp.aluNeedFlush, Excp.aluExcpIEbreak4excp, hebrk] at h
      simp [aluCmt, Alu.cmt, halu, hagu, hcsr, hexcp] at h
  rw [Alu.oNeedWbck, herr]
  simp

/-! ### Exclusion -/

theorem flush_of_taken (h : (trapTaken s i || dbgEntryTaken s i) = true) :
    excpirqFlushReq s i = true := by
  change Excp.excpirqFlushReq s.excp (cmtCtl s i).toCtl (aluCmt s i).toAlu (aluCmtValid s i) = true
  rw [trapTaken, dbgEntryTaken, Excp.trapTaken, Excp.excpTakenEna_eq, Excp.irqTakenEna_eq,
    Excp.dbgEntryTakenEna_eq, Excp.allExcpFlushReq] at h
  rw [Excp.excpirqFlushReq]
  revert h
  cases Excp.longpExcpFlushReq (cmtCtl s i).toCtl <;> simp [or_comm, or_left_comm]

/-- A return flushes. -/
theorem brchmis_of_ret (h : (cmtMretEna s i || cmtDretEna s i) = true) :
    Branchslv.brchmisFlushReq (branchslv s i) (aluCmtValid s i) = true ∧
      ((branchslv s i).cmtIMret = true ∨ (branchslv s i).cmtIDret = true) := by
  simp only [cmtMretEna, cmtDretEna, Commit.cmtMretEna, Commit.cmtDretEna, Branchslv.cmtMretEna,
    Branchslv.cmtDretEna, Branchslv.brchmisFlushHsked, Bool.or_eq_true, Bool.and_eq_true] at h
  obtain ⟨hm, hr, -⟩ | ⟨hd, hr, -⟩ := h
  · exact ⟨hr, .inl hm⟩
  · exact ⟨hr, .inr hd⟩

/-- A return commits only without any event. -/
theorem ret_facts (h : (cmtMretEna s i || cmtDretEna s i) = true) :
    Alu.op (alu s i) = .bjp ∧ excpirqFlushReq s i = false := by
  obtain ⟨hreq, hret⟩ := brchmis_of_ret h
  obtain ⟨-, -, hmret, hdret, -⟩ := branchslv_flags (s := s) (i := i)
  have hbjp : Alu.bjpOp (alu s i) = true := by
    rw [hmret, hdret, Bool.and_eq_true, Bool.and_eq_true] at hret
    obtain hret | hret := hret <;> exact hret.1
  obtain ⟨-, -, -, hop, -⟩ := Alu.op_eq (alu s i)
  have hop' : Alu.op (alu s i) = .bjp := of_decide_eq_true (hop.symm.trans hbjp)
  have hraw : Excp.nonaluExcpirqFlushReqRaw s.excp (cmtCtl s i).toCtl = false := by
    simp only [Branchslv.brchmisFlushReq, Bool.and_eq_true, Bool.not_eq_true'] at hreq
    exact hreq.2
  obtain ⟨hneed, hebrk⟩ := no_excp_of_op (s := s) (i := i) (.inl hop')
  exact ⟨hop', excpirqFlushReq_eq_false hraw hneed hebrk⟩

theorem csrWriteCmt_facts (h : csrWriteCmt s i = true) :
    Alu.op (alu s i) = .csr ∧ excpirqFlushReq s i = false := by
  simp only [csrWriteCmt, Bool.and_eq_true] at h
  obtain ⟨⟨hcsr, -⟩, hcmt⟩ := h
  obtain ⟨-, -, -, -, hop, -⟩ := Alu.op_eq (alu s i)
  have hop' : Alu.op (alu s i) = .csr := of_decide_eq_true (hop.symm.trans hcsr)
  refine ⟨hop', ?_⟩
  obtain ⟨hneed, hebrk⟩ := no_excp_of_op (s := s) (i := i) (.inr hop')
  by_contra hflush
  obtain ⟨-, herr⟩ | herr := error_of_flush ((Bool.and_eq_true _ _).mp hcmt).2
    (Bool.not_eq_false _ ▸ hflush)
  · rw [hneed] at herr
    cases herr
  · rw [hebrk] at herr
    cases herr

/-- In each cycle at most one of a trap or debug entry, a return and a CSR write. -/
theorem at_most_one :
    (trapTaken s i || dbgEntryTaken s i).toNat + (cmtMretEna s i || cmtDretEna s i).toNat +
      (csrWriteCmt s i).toNat ≤ 1 := by
  cases htrap : trapTaken s i || dbgEntryTaken s i
  case true =>
    have hflush := flush_of_taken htrap
    have hret : (cmtMretEna s i || cmtDretEna s i) = false := by
      by_contra hret
      rw [(ret_facts (Bool.not_eq_false _ ▸ hret)).2] at hflush
      cases hflush
    have hcsr : csrWriteCmt s i = false := by
      by_contra hcsr
      rw [(csrWriteCmt_facts (Bool.not_eq_false _ ▸ hcsr)).2] at hflush
      cases hflush
    rw [hret, hcsr]
    decide
  case false =>
    cases hret : cmtMretEna s i || cmtDretEna s i
    case false => cases csrWriteCmt s i <;> decide
    case true =>
      have hcsr : csrWriteCmt s i = false := by
        by_contra hcsr
        have hop := (csrWriteCmt_facts (Bool.not_eq_false _ ▸ hcsr)).1
        rw [(ret_facts hret).1] at hop
        cases hop
      rw [hcsr]
      decide

/-! ### CSR writes -/

/-- An accepted CSR instruction commits. -/
theorem cmtEna_of_csr (hcsr : Alu.csrOp (alu s i) = true)
    (hvalid : Csrctrl.csrOValid (Alu.csr (alu s i)) = true) (hready : aluOReady s i = true) :
    cmtEna s i = true := by
  have hov : Alu.oValid s.alu (alu s i) = true := by simp [Alu.oValid, hcsr, hvalid]
  rw [aluOReady, Alu.oReady, Alu.oNeedCmt, if_pos rfl, Bool.and_eq_true] at hready
  have hcmt : Commit.aluCmtIReady s.excp (cmtCtl s i) (aluCmt s i) = true := hready.1
  rw [cmtEna, Commit.cmtEna, aluCmtValid, Alu.cmtOValid, hov, hready.2, hcmt]
  rfl

theorem csrIValid_eq (hcsr : Alu.csrOp (alu s i) = true) :
    (Alu.csr (alu s i)).csrIValid = (alu s i).iValid := by
  simp [Alu.csr, hcsr]

/-- A write enable of the CSR file, or an accepted write to the accelerator, is a committed CSR
instruction. -/
theorem csrWriteCmt_of_wen (hwr : csrWrEn s i = true)
    (h : csrEna s i = true ∨ (eaiCsrValid s i = true ∧ i.eaiCsrReady = true)) :
    csrWriteCmt s i = true := by
  have hready : (Alu.csrOp (alu s i) && aluOReady s i) = true ∧
      Csrctrl.csrOValid (Alu.csr (alu s i)) = true := by
    obtain h | ⟨h, hrdy⟩ := h
    · simp only [csrEna, Csrctrl.csrEna, Bool.and_eq_true] at h
      exact ⟨(Bool.and_eq_true _ _).mpr h.1.2, h.1.1⟩
    · simp only [eaiCsrValid, Csrctrl.eaiCsrValid, Bool.and_eq_true] at h
      have hrdy' : (Alu.csr (alu s i)).eaiCsrReady = true := hrdy
      refine ⟨(Bool.and_eq_true _ _).mpr h.2, ?_⟩
      simp [Csrctrl.csrOValid, Csrctrl.addiCondi, h.1, hrdy']
  obtain ⟨hand, hvalid⟩ := hready
  obtain ⟨hcsr, hrdy⟩ := (Bool.and_eq_true _ _).mp hand
  rw [csrWriteCmt, hcsr, hwr, cmtEna_of_csr hcsr hvalid hrdy]
  rfl

/-- The write enables of the debug CSRs do not wait for the commit, but in debug mode nothing keeps
a CSR instruction from committing. -/
theorem csrWriteCmt_of_dbg {idx : BitVec 12} (hidx : idx.extractLsb' 8 4 ≠ 0xE#4)
    (h : Csr.wrDbgEna (csrIn s i) idx = true) : csrWriteCmt s i = true := by
  simp only [Csr.wrDbgEna, Bool.and_eq_true, beq_iff_eq] at h
  obtain ⟨⟨hdbg, hwr⟩, hsel⟩ := h
  have hwr' : csrWrEn s i = true := hwr
  have hiv := hwr'
  rw [csrWrEn, Csrctrl.csrWrEn, Bool.and_eq_true] at hiv
  obtain ⟨halu, hcsr⟩ := (Bool.and_eq_true _ _).mp hiv.1
  have hgrp : (disp s i).dispIInfo.grp = GRP_CSR := beq_iff_eq.mp ((Bool.and_eq_true _ _).mp hcsr).2
  have hempty : oitfEmpty s = true := by
    have hcond := ((Bool.and_eq_true _ _).mp halu).1
    simp only [Disp.dispCondition, Bool.and_eq_true, Disp.dispCsr, hgrp, beq_self_eq_true,
      if_true] at hcond
    exact hcond.1.1.1.1
  obtain ⟨hlongp, hnowb, -⟩ := noLongp (i := i) hempty
  obtain ⟨-, -, -, -, hop, -⟩ := Alu.op_eq (alu s i)
  have hop' : Alu.op (alu s i) = .csr := of_decide_eq_true (hop.symm.trans hcsr)
  obtain ⟨hneed, hebrk⟩ := no_excp_of_op (s := s) (i := i) (.inr hop')
  have hbjp : Alu.bjpOp (alu s i) = false := by
    rw [(Alu.op_eq _).2.2.2.1, hop']
    rfl
  have hdbg' : (cmtCtl s i).dbgMode = true := hdbg
  have hready : aluCmtReady s i = true := by
    rw [aluCmtReady_of_plain hneed hebrk (cmtIIsBranch_of_not_bjp hbjp), hlongp]
    simp [Excp.irqReq, Excp.irqMask, Excp.nonaluDbgEntryReq, Excp.dbgEntryMask, hdbg']
  have hwb : aluWbckOReady s i = true := by
    simp [aluWbckOReady, Wbck.aluWbckIReady, Wbck.wbckReady4alu, Wbck.rfWbckOReady, hnowb]
  have hrdy : aluOReady s i = true := by simp [aluOReady, Alu.oReady, hready, hwb]
  have hnoeai : Csrctrl.selEai (Alu.csr (alu s i)) = false := by
    have hidx' : Csrctrl.csrIdx (Alu.csr (alu s i)) = idx := hsel
    simp [Csrctrl.selEai, Csrctrl.csrSelEai, hidx', hidx]
  have hvalid : Csrctrl.csrOValid (Alu.csr (alu s i)) = true := by
    simp [Csrctrl.csrOValid, Csrctrl.addiCondi, hnoeai, hiv.1]
  exact csrWriteCmt_of_wen hwr' (.inl (by
    simp [csrEna, Csrctrl.csrEna, hvalid, hcsr, hrdy, hnoeai]))

/-! ### The flushed instruction -/

/-- An instruction that is flushed by an event or by its own exception does not write back. -/
theorem no_wbck_of_flush (hflush : excpirqFlushReq s i = true) : aluWbckOValid s i = false := by
  cases hready : aluCmtReady s i
  case false => simp [aluWbckOValid, Alu.wbckOValid, Alu.oNeedCmt, hready]
  case true =>
    have hno : Alu.oNeedWbck s.alu (alu s i) = false :=
      oNeedWbck_of_error ((error_of_flush hready hflush).imp_left And.right)
    simp [aluWbckOValid, Alu.wbckOValid, hno]

/-- What flushes leaves the register file alone. -/
theorem rf_of_flush (hflush : excpirqFlushReq s i = true) : (step s i).rf = s.rf := by
  have hlong : longpWbckOValid s i = false := by
    cases hlw : longpWbckOValid s i
    · rfl
    · have hlongp : Excp.longpNeedFlush (cmtCtl s i).toCtl = false := by
        change longpExcpOValid s i = false
        simp only [longpWbckOValid, Longpwbck.longpWbckOValid, Longpwbck.needWbck,
          Bool.and_eq_true, Bool.not_eq_true'] at hlw
        simp [longpExcpOValid, Longpwbck.longpExcpOValid, Longpwbck.needExcp, hlw.1.1.2]
      have hempty : oitfEmpty s = true := by
        have hreq : Excp.excpirqFlushReq s.excp (cmtCtl s i).toCtl (aluCmt s i).toAlu
            (aluCmtValid s i) = true := hflush
        simp only [Excp.excpirqFlushReq, Excp.longpExcpFlushReq, hlongp, Excp.dbgEntryFlushReq,
          Excp.irqFlushReq, Excp.aluExcpFlushReq, Bool.false_or, Bool.or_eq_true,
          Bool.and_eq_true] at hreq
        have hsame : (cmtCtl s i).oitfEmpty = oitfEmpty s := rfl
        rw [← hsame]
        tauto
      rw [(noLongp hempty).2.1] at hlw
      cases hlw
  funext idx
  have hwb : (wbck s i).aluWbckIValid = false := no_wbck_of_flush hflush
  have hlong' : (wbck s i).longpWbckIValid = false := hlong
  have hena : Wbck.rfWbckOEna (wbck s i) = false := by
    simp [Wbck.rfWbckOEna, Wbck.wbckIValid, Wbck.wbckSelAlu, hwb, hlong']
  simp [step, Regfile.step, Regfile.rfWen, hena]

theorem no_csrWrite_of_flush (hflush : excpirqFlushReq s i = true) : csrWriteCmt s i = false := by
  by_contra hcsr
  rw [(csrWriteCmt_facts (Bool.not_eq_false _ ▸ hcsr)).2] at hflush
  cases hflush

/-- An address-generation unit in its idle state issues no command in the cycle of such a flush. -/
theorem no_cmd_of_flush (hidle : s.alu.agu.icbStateR = .idle)
    (hflush : excpirqFlushReq s i = true) : aguIcbCmdValid s i = false := by
  cases hagu : Alu.aguOp (alu s i)
  case false =>
    simp [aguIcbCmdValid, Alu.aguIcbCmdValid, Lsuagu.aguIcbCmdValid, Alu.agu, hagu,
      Lsuagu.aguIAlgnamo, Lsuagu.aguIAmo, Lsuagu.aguIAlgnldst, Lsuagu.aguILoad, Lsuagu.aguIStore]
  case true =>
    by_contra hcmd
    obtain ⟨hexcp, halu, hbjp, hcsr, hmdv⟩ := aguOp_exclusive hagu
    have hebrk : (aluCmt s i).aluExcpIEbreak = false := by simp [aluCmt, Alu.cmt, halu]
    have hand := Bool.not_eq_false _ ▸ hcmd
    simp only [aguIcbCmdValid, Alu.aguIcbCmdValid, Lsuagu.aguIcbCmdValid, Bool.or_eq_true,
      Bool.and_eq_true, Lsuagu.icbStaIsWait2nd, hidle, Lsuagu.Sta.beq_eq, reduceCtorEq, decide_false,
      Bool.false_eq_true, or_false] at hand
    have hready : aluOReady s i = true := by tauto
    have hcmt : aluCmtReady s i = true := by
      rw [aluOReady, Alu.oReady, Alu.oNeedCmt, if_pos rfl, Bool.and_eq_true] at hready
      exact hready.1
    obtain ⟨hv, hneed⟩ | herr := error_of_flush hcmt hflush
    case inr =>
      rw [hebrk] at herr
      cases herr
    simp only [Alu.ifuExcpOp, Bool.or_eq_false_iff] at hexcp
    rw [Excp.aluNeedFlush, Excp.aluExcpIEbreak4excp, hebrk] at hneed
    have herr : (Lsuagu.aguOCmtMisalgn s.alu.agu (Alu.agu s.alu (alu s i))
          (Alu.dpathRes s.alu (alu s i)) ||
        Lsuagu.aguOCmtBuserr s.alu.agu (Alu.agu s.alu (alu s i))
          (Alu.dpathRes s.alu (alu s i))) = true := by
      simpa [aluCmt, Alu.cmt, halu, hagu, hcsr, hexcp] using hneed
    have hov : Alu.oValid s.alu (alu s i) = true := by
      rw [aluCmtValid, Alu.cmtOValid, Bool.and_eq_true, Bool.and_eq_true] at hv
      exact hv.1.2
    have hav : Alu.aguOValid s.alu (alu s i) = true := by
      simpa [Alu.oValid, halu, hbjp, hcsr, hmdv, hagu, Alu.ifuExcpOp, hexcp] using hov
    revert hand herr hav
    simp only [Alu.aguOValid, Lsuagu.aguOValid, Lsuagu.icbStaIsLast, Lsuagu.icbStaIsWbck, hidle,
      Lsuagu.aguOCmtMisalgn, Lsuagu.aguOCmtBuserr, Lsuagu.aguIAlgnamo, Lsuagu.aguIAlgnldst,
      Lsuagu.aguIUnalgnldst, Lsuagu.aguIUnalgnamo, Lsuagu.Sta.beq_eq, reduceCtorEq, decide_false]
    obtain ⟨hld, hst, hamo⟩ := agu_kind hagu
    have hexcl : Lsuagu.aguIAmo s.alu.agu (Alu.agu s.alu (alu s i)) = true →
        Lsuagu.aguILoad s.alu.agu (Alu.agu s.alu (alu s i)) = false ∧
          Lsuagu.aguIStore s.alu.agu (Alu.agu s.alu (alu s i)) = false := by
      intro hw
      rw [hamo, Bool.and_eq_true] at hw
      obtain ⟨hno, hno', -⟩ := Decode.isAmo_exclusive hw.1
      exact ⟨by rw [hld, hno, Bool.false_and], by rw [hst, hno', Bool.false_and]⟩
    revert hexcl
    clear * -
    generalize Lsuagu.aguAddrUnalgn s.alu.agu _ _ = u, Lsuagu.aguIAmo s.alu.agu _ = a,
      Lsuagu.aguILoad s.alu.agu _ = l, Lsuagu.aguIStore s.alu.agu _ = st
    cases u <;> cases a <;> cases l <;> cases st <;> simp

end
end Exu

/-! ## Runs of the core -/

namespace Core

/-- A CSR is written: by the CSR file, the debug module or the accelerator. -/
def WritesCsr (s : State) (i : In) : Prop :=
  Csr.wbckCsrWen (Exu.csrIn s.exu (exuIn s i)) = true ∨
    (∃ idx ∈ [0x7b0#12, 0x7b1#12, 0x7b2#12],
      Csr.wrDbgEna (Exu.csrIn s.exu (exuIn s i)) idx = true) ∨
    (Exu.csrWrEn s.exu (exuIn s i) = true ∧ Exu.eaiCsrValid s.exu (exuIn s i) = true ∧
      i.eaiCsrReady = true)

/-- The commit stage in one cycle, with the CSR file `cs`. -/
structure TrapCommit (s : State) (i : In) (cs : Csr.State) : Prop where
  /-- At most one of a trap or debug entry, a return and a CSR write. -/
  exclusive :
    (Exu.trapTaken s.exu (exuIn s i) || Exu.dbgEntryTaken s.exu (exuIn s i)).toNat +
      (Exu.cmtMretEna s.exu (exuIn s i) || Exu.cmtDretEna s.exu (exuIn s i)).toNat +
      (Exu.csrWriteCmt s.exu (exuIn s i)).toNat ≤ 1
  /-- No CSR is written by an instruction that does not commit. -/
  writes : WritesCsr s i → Exu.csrWriteCmt s.exu (exuIn s i) = true
  /-- A trap writes its registers from the pending source of the highest priority. -/
  trapped : Exu.trapTaken s.exu (exuIn s i) = true → Exu.dbgMode s.exu = false →
    Csr.Trapped cs
      (Excp.trap (Exu.cmtCtl s.exu (exuIn s i)).toCtl (Exu.aluCmt s.exu (exuIn s i)).toAlu)
      (Csr.step cs (Exu.csrIn s.exu (exuIn s i)))
  /-- In debug mode only a CSR instruction or a return writes them. -/
  debug : Exu.dbgMode s.exu = true → Exu.csrWriteCmt s.exu (exuIn s i) = false →
    Exu.cmtMretEna s.exu (exuIn s i) = false →
      Csr.SameTrap cs (Csr.step cs (Exu.csrIn s.exu (exuIn s i)))
  debugTrap : Exu.dbgMode s.exu = true → Exu.trapTaken s.exu (exuIn s i) = true →
    Csr.SameTrap cs (Csr.step cs (Exu.csrIn s.exu (exuIn s i)))
  /-- The instruction that is flushed by an event or by its own exception has no effect. -/
  killed : Exu.excpirqFlushReq s.exu (exuIn s i) = true →
    (step s i).exu.rf = s.exu.rf ∧ Exu.csrWriteCmt s.exu (exuIn s i) = false ∧
      Exu.aguIcbCmdValid s.exu (exuIn s i) = false

section
variable {s : State} {i : In}

theorem Steady.no_cmd_of_flush (h : Steady s)
    (hflush : Exu.excpirqFlushReq s.exu (exuIn s i) = true) :
    Exu.aguIcbCmdValid s.exu (exuIn s i) = false := by
  cases hst : decide (s.exu.alu.agu.icbStateR = .idle)
  case true => exact Exu.no_cmd_of_flush (of_decide_eq_true hst) hflush
  case false =>
    have hrun := h.amoRun i (of_decide_eq_false hst)
    have hpipe : Exu.pipeFlushReq s.exu (exuIn s i) = true := by
      have hreq : Commit.excpirqFlushReq s.exu.excp (Exu.cmtCtl s.exu (exuIn s i))
          (Exu.aluCmt s.exu (exuIn s i)) (Exu.aluCmtValid s.exu (exuIn s i)) = true := hflush
      rw [Exu.pipeFlushReq, Commit.pipeFlushReq, hreq, Bool.true_or]
    rw [hrun.pipeFlushReq_eq, Bool.and_eq_true, decide_eq_true_eq] at hpipe
    obtain ⟨hamo, hldst, -⟩ := hrun.agu (Alu.dpathRes s.exu.alu (Exu.alu s.exu (exuIn s i)))
    simp [Exu.aguIcbCmdValid, Alu.aguIcbCmdValid, Lsuagu.aguIcbCmdValid, hldst,
      Lsuagu.icbStaIsIdle, Lsuagu.icbStaIsWait2nd, hpipe.1]

theorem sameTrap_of_debug {cs : Csr.State} (hdbg : Exu.dbgMode s.exu = true)
    (hcsr : Exu.csrWriteCmt s.exu (exuIn s i) = false)
    (hmret : Exu.cmtMretEna s.exu (exuIn s i) = false) :
    Csr.SameTrap cs (Csr.step cs (Exu.csrIn s.exu (exuIn s i))) := by
  have hmode : (Exu.cmtCtl s.exu (exuIn s i)).dbgMode = true := hdbg
  have hepc : Excp.cmtEpcEna s.exu.excp (Exu.cmtCtl s.exu (exuIn s i)).toCtl
      (Exu.aluCmt s.exu (exuIn s i)).toAlu Exu.pipeFlushAck
      (Exu.aluCmtValid s.exu (exuIn s i)) = false := by
    simp [Excp.cmtEpcEna, hmode]
  have hwen : Csr.wbckCsrWen (Exu.csrIn s.exu (exuIn s i)) = false := by
    by_contra hwen
    obtain ⟨hwr, hena⟩ := (Bool.and_eq_true _ _).mp (Bool.not_eq_false _ ▸ hwen)
    rw [Exu.csrWriteCmt_of_wen hwr (.inl hena)] at hcsr
    cases hcsr
  refine Csr.sameTrap_step hwen hmret hepc hepc hepc ?_
  change (Excp.cmtEpcEna _ _ _ _ _ && _) = false
  rw [hepc, Bool.false_and]

/-- The commit stage commits traps atomically and exclusively. -/
theorem Steady.trapCommit (h : Steady s) (cs : Csr.State) : TrapCommit s i cs where
  exclusive := Exu.at_most_one
  writes hwr := by
    obtain hwen | ⟨idx, hidx, hdbg⟩ | ⟨hwr, hvalid, hready⟩ := hwr
    · obtain ⟨hwr, hena⟩ := (Bool.and_eq_true _ _).mp hwen
      exact Exu.csrWriteCmt_of_wen hwr (.inl hena)
    · refine Exu.csrWriteCmt_of_dbg ?_ hdbg
      simp only [List.mem_cons, List.not_mem_nil, or_false] at hidx
      obtain rfl | rfl | rfl := hidx <;> decide
    · exact Exu.csrWriteCmt_of_wen hwr (.inr ⟨hvalid, hready⟩)
  trapped htrap hdbg := by
    have hmode : (Exu.cmtCtl s.exu (exuIn s i)).dbgMode = false := hdbg
    have hepc : Excp.cmtEpcEna s.exu.excp (Exu.cmtCtl s.exu (exuIn s i)).toCtl
        (Exu.aluCmt s.exu (exuIn s i)).toAlu Exu.pipeFlushAck
        (Exu.aluCmtValid s.exu (exuIn s i)) = true := by
      rw [Excp.cmtEpcEna, hmode]
      exact htrap
    have hflush : Excp.excpirqFlushReq s.exu.excp (Exu.cmtCtl s.exu (exuIn s i)).toCtl
        (Exu.aluCmt s.exu (exuIn s i)).toAlu (Exu.aluCmtValid s.exu (exuIn s i)) = true :=
      Exu.flush_of_taken (by rw [htrap, Bool.true_or])
    refine Csr.trapped_step hepc hepc hepc ?_ (Excp.cmt_eq_trap htrap)
    change (Excp.cmtEpcEna _ _ _ _ _ && Excp.excpirqFlushReq _ _ _ _) = true
    rw [hepc, hflush]
    rfl
  debug := sameTrap_of_debug
  debugTrap hdbg htrap := by
    have hone := Exu.at_most_one (s := s.exu) (i := exuIn s i)
    rw [htrap, Bool.true_or] at hone
    have hret : (Exu.cmtMretEna s.exu (exuIn s i) || Exu.cmtDretEna s.exu (exuIn s i)) = false := by
      by_contra hret
      rw [Bool.not_eq_false] at hret
      rw [hret, Bool.toNat_true] at hone
      omega
    have hcsr : Exu.csrWriteCmt s.exu (exuIn s i) = false := by
      by_contra hcsr
      rw [Bool.not_eq_false] at hcsr
      rw [hcsr, hret] at hone
      simp at hone
    exact sameTrap_of_debug hdbg hcsr (Bool.or_eq_false_iff.mp hret).1
  killed hflush :=
    ⟨Exu.rf_of_flush hflush, Exu.no_csrWrite_of_flush hflush, h.no_cmd_of_flush hflush⟩

end

/-- The instruction in the IR in cycle `t` is still there in cycle `u`. -/
def StaysInIr (inp : ℕ → In) (s : State) (t u : ℕ) : Prop :=
  ∀ w, t ≤ w → w < u →
    (run inp s w).ifu.irValidR = true ∧
      Exu.iHsked (run inp s w).exu (exuIn (run inp s w) (inp w)) = false ∧
      Exu.pipeFlushReq (run inp s w).exu (exuIn (run inp s w) (inp w)) = false

end Core
end E203
