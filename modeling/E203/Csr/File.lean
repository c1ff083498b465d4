import E203.Rtl.CoreCsr

/-! # The CSRs by their numbers

* `Csr.regs`: the machine-mode CSRs of the file; `CoreCsr.Csrs.regs`: with the debug CSRs.
* `Csr.legal`: the value that a register takes when a word is written to it.
* `readCsrDat_eq`: the and-or tree of the read port is a look-up.
* `CoreCsr.Csrs.write_eq`: a write changes the register with its number and no other.
-/

namespace E203
set_option autoImplicit false

/-! ## Look-ups -/

section
variable {κ : Type*} [BEq κ] [LawfulBEq κ] {w : ℕ}

/-- The value that goes with a number, or zero. -/
def valueAt (l : List (κ × BitVec w)) (k : κ) : BitVec w := (l.lookup k).getD 0#w

/-- An and-or tree over distinct numbers selects one entry. -/
theorem orTree_eq (l : List (κ × BitVec w)) (hl : (l.map Prod.fst).Nodup) (k : κ) :
    l.foldr (fun p acc => gate (k == p.1) p.2 ||| acc) 0#w = valueAt l k := by
  have hnone : ∀ l : List (κ × BitVec w), k ∉ l.map Prod.fst →
      l.foldr (fun p acc => gate (k == p.1) p.2 ||| acc) 0#w = 0#w := by
    intro l
    induction l with
    | nil => exact fun _ => rfl
    | cons p l ih =>
      intro hk
      rw [List.map_cons, List.mem_cons, not_or] at hk
      rw [List.foldr_cons, ih hk.2, beq_false_of_ne hk.1]
      exact BitVec.or_zero
  induction l with
  | nil => rfl
  | cons p l ih =>
    obtain ⟨n, v⟩ := p
    rw [List.map_cons, List.nodup_cons] at hl
    rw [List.foldr_cons, valueAt, List.lookup_cons]
    by_cases hk : k = n
    · subst hk
      rw [hnone l hl.1, beq_self_eq_true]
      exact BitVec.or_zero
    · rw [ih hl.2, beq_false_of_ne hk]
      exact BitVec.zero_or

/-- An entry that is replaced by a function of its number and its value. -/
theorem lookup_map (l : List (κ × BitVec w)) (f : κ → BitVec w → BitVec w) (k : κ) :
    (l.map fun p => (p.1, f p.1 p.2)).lookup k = (l.lookup k).map (f k) := by
  induction l with
  | nil => rfl
  | cons p l ih =>
    rw [List.map_cons, List.lookup_cons, List.lookup_cons]
    by_cases hk : k = p.1
    · rw [hk, beq_self_eq_true]
      rfl
    · rw [beq_false_of_ne hk, ih]

end

/-! ## The registers of the file -/

namespace Csr

/-- The registers of the file by their numbers. -/
def regs (s : State) (hart : BitVec 1) : List (BitVec 12 × BitVec 32) :=
  [(0x300, statusR s), (0x304, s.mieR), (0x305, s.mtvecR), (0x341, s.epcR), (0x340, s.mscratchR),
    (0x342, s.causeR), (0x343, s.badaddrR), (0x344, ipR s), (0x301, csrMisa), (0xF11, 0#32),
    (0xF12, 0#32), (0xF13, 0#32), (0xF14, 0#31 ++ hart), (0xB00, s.mcycleR), (0xB80, s.mcyclehR),
    (0xB02, s.minstretR), (0xB82, s.minstrethR), (0xBFF, s.counterstopR), (0xBFE, s.mcgstopR),
    (0xBFD, s.itcmnoholdR), (0xBF0, s.mdvnob2bR)]

/-- What the word `x` leaves in a register that would otherwise be `v`: only some bits are writable,
and the registers that are not listed are read-only. -/
def written (x v : BitVec 32) : List (BitVec 12 × BitVec 32) :=
  [(0x300, 0#19 ++ 0b11#2 ++ 0#3 ++ BitVec.ofBool (x.getLsbD 7) ++ 0#3 ++
      BitVec.ofBool (x.getLsbD 3) ++ 0#3),
    (0x304, irqBits (x.getLsbD 11) (x.getLsbD 7) (x.getLsbD 3)), (0x305, x),
    (0x341, x.extractLsb' 1 31 ++ 0#1), (0x340, x),
    (0x342, x.extractLsb' 31 1 ++ 0#27 ++ x.extractLsb' 0 4), (0x343, x), (0xB00, x), (0xB80, x),
    (0xB02, x), (0xB82, x), (0xBFF, 0#29 ++ x.extractLsb' 0 3), (0xBFE, 0#30 ++ x.extractLsb' 0 2),
    (0xBFD, 0#31 ++ x.extractLsb' 0 1), (0xBF0, 0#31 ++ x.extractLsb' 0 1),
    (0x7b0, 0b01#2 ++ 0#14 ++ BitVec.fill 4 (x.getLsbD 15) ++ 0#1 ++ 1#1 ++ 0#1 ++
      v.extractLsb' 6 3 ++ BitVec.ofBool (v.getLsbD 5) ++ 0#1 ++ BitVec.ofBool (x.getLsbD 3) ++
      BitVec.ofBool (x.getLsbD 2) ++ 0b11#2),
    (0x7b1, x.extractLsb' 1 31 ++ 0#1), (0x7b2, x)]

/-- The value of register `n` after the word `x` is written to it, when it would otherwise be `v`. -/
def legal (x : BitVec 32) (n : BitVec 12) (v : BitVec 32) : BitVec 32 :=
  ((written x v).lookup n).getD v

/-- The same cycle without the write of a CSR instruction. -/
def In.quiet (i : In) : In := { i with csrWrEn := false }

section
variable {s : State} {i : In}

theorem wrEna_quiet (n : BitVec 12) : wrEna i.quiet n = false := by
  rw [wrEna, In.quiet, Bool.and_false, Bool.false_and]

theorem step_of_not_wen (h : wbckCsrWen i = false) : step s i = step s i.quiet := by
  have hw : ∀ n, wrEna i n = wrEna i.quiet n := by
    intro n
    rw [wrEna_quiet, wrEna, h, Bool.and_false]
  simp only [step, statusMpieEna, statusMieNxt, statusMpieNxt, mcycleEna, mcyclehEna, minstretEna,
    minstrethEna, epcEna, causeEna, badaddrEna, hw]
  rfl

/-- In a cycle with a write of a CSR instruction and nothing else that writes a trap register. -/
structure Writes (i : In) (n : BitVec 12) : Prop where
  wrEn : i.csrWrEn = true
  ena : i.csrEna = true
  idx : i.csrIdx = n
  status : i.cmtStatusEna = false
  mret : i.cmtMretEna = false
  epc : i.cmtEpcEna = false
  cause : i.cmtCauseEna = false
  badaddr : i.cmtBadaddrEna = false

theorem Writes.wrEna {n : BitVec 12} (h : Writes i n) (m : BitVec 12) :
    wrEna i m = (m == n) := by
  rw [Csr.wrEna, wbckCsrWen, h.wrEn, h.ena, h.idx, Bool.and_true, Bool.and_true, Bool.and_true,
    Bool.beq_comm]

/-- A register that only the CSR instructions write. -/
theorem Writes.reg {n : BitVec 12} (h : Writes i n) (m : BitVec 12) {x q : BitVec 32}
    (hx : ∀ v, legal i.wbckCsrDat m v = x) :
    dfflr (Csr.wrEna i m) x q =
      if m = n then legal i.wbckCsrDat n (dfflr (Csr.wrEna i.quiet m) x q)
      else dfflr (Csr.wrEna i.quiet m) x q := by
  rw [h.wrEna, wrEna_quiet, dfflr_false]
  by_cases hm : m = n
  · subst hm
    rw [beq_self_eq_true, if_pos rfl, hx, dfflr_true]
  · rw [beq_false_of_ne hm, if_neg hm, dfflr_false]

/-- A counter: it counts when it is not written. -/
theorem Writes.counter {n : BitVec 12} (h : Writes i n) (m : BitVec 12) {q : BitVec 32} {c : Bool}
    (hx : ∀ v, legal i.wbckCsrDat m v = i.wbckCsrDat) :
    dfflr (Csr.wrEna i m || c) (counterNxt i (Csr.wrEna i m) q) q =
      if m = n then
        legal i.wbckCsrDat n
          (dfflr (Csr.wrEna i.quiet m || c) (counterNxt i.quiet (Csr.wrEna i.quiet m) q) q)
      else dfflr (Csr.wrEna i.quiet m || c) (counterNxt i.quiet (Csr.wrEna i.quiet m) q) q := by
  rw [h.wrEna, wrEna_quiet]
  by_cases hm : m = n
  · subst hm
    rw [beq_self_eq_true, if_pos rfl, hx]
    rfl
  · rw [beq_false_of_ne hm, if_neg hm]
    rfl

theorem Writes.status_step {n : BitVec 12} (h : Writes i n) :
    statusR (step s i) =
      if 0x300#12 = n then legal i.wbckCsrDat n (statusR (step s i.quiet))
      else statusR (step s i.quiet) := by
  have hs : i.quiet.cmtStatusEna = false := h.status
  have hm : i.quiet.cmtMretEna = false := h.mret
  simp only [statusR, step, statusMpieEna, statusMieNxt, statusMpieNxt, h.wrEna, wrEna_quiet,
    h.status, h.mret, hs, hm, Bool.or_false, Bool.false_eq_true, if_false, dfflr_false]
  by_cases hn : 0x300#12 = n
  · subst hn
    rfl
  · rw [beq_false_of_ne hn, if_neg hn]
    rfl

/-- A write changes the register with its number, in its writable bits, and no other. -/
theorem Writes.regs_step {n : BitVec 12} (h : Writes i n) (hart : BitVec 1) :
    regs (step s i) hart =
      (regs (step s i.quiet) hart).map fun p =>
        (p.1, if p.1 = n then legal i.wbckCsrDat n p.2 else p.2) := by
  have hro : ∀ m v, (written i.wbckCsrDat v).lookup m = none →
      v = if m = n then legal i.wbckCsrDat n v else v := by
    intro m v hm
    by_cases hn : m = n
    · rw [if_pos hn, legal, ← hn, hm]
      rfl
    · rw [if_neg hn]
  simp only [regs, List.map_cons, List.map_nil, List.cons.injEq, Prod.mk.injEq, true_and, and_true]
  refine ⟨h.status_step, h.reg 0x304 fun _ => rfl, h.reg 0x305 fun _ => rfl, ?_, h.reg 0x340 fun _ => rfl, ?_, ?_,
    hro 0x344 _ rfl, hro 0x301 _ rfl, hro 0xF11 _ rfl, hro 0xF12 _ rfl, hro 0xF13 _ rfl,
    hro 0xF14 _ rfl, h.counter 0xB00 fun _ => rfl, h.counter 0xB80 fun _ => rfl,
    h.counter 0xB02 fun _ => rfl, h.counter 0xB82 fun _ => rfl, h.reg 0xBFF fun _ => rfl, h.reg 0xBFE fun _ => rfl,
    h.reg 0xBFD fun _ => rfl, h.reg 0xBF0 fun _ => rfl⟩
  · have hx : epcNxt i = i.wbckCsrDat.extractLsb' 1 31 ++ 0#1 := by rw [epcNxt, h.epc]; rfl
    have hr := h.reg 0x341 (x := epcNxt i) (q := s.epcR) fun _ => hx.symm
    rw [← Bool.or_false (Csr.wrEna i _), ← Bool.or_false (Csr.wrEna i.quiet _), ← h.epc] at hr
    exact hr
  · have hx : causeNxt i =
        i.wbckCsrDat.extractLsb' 31 1 ++ 0#27 ++ i.wbckCsrDat.extractLsb' 0 4 := by
      rw [causeNxt, h.cause]; rfl
    have hr := h.reg 0x342 (x := causeNxt i) (q := s.causeR) fun _ => hx.symm
    rw [← Bool.or_false (Csr.wrEna i _), ← Bool.or_false (Csr.wrEna i.quiet _), ← h.cause] at hr
    exact hr
  · have hx : badaddrNxt i = i.wbckCsrDat := by rw [badaddrNxt, h.badaddr]; rfl
    have hr := h.reg 0x343 (x := badaddrNxt i) (q := s.badaddrR) fun _ => hx.symm
    rw [← Bool.or_false (Csr.wrEna i _), ← Bool.or_false (Csr.wrEna i.quiet _), ← h.badaddr] at hr
    exact hr

end
end Csr

/-! ## With the debug CSRs -/

namespace CoreCsr

/-- The registers of the CSR file and of the debug module. -/
structure Csrs where
  csr : Csr.State
  dbg : DebugCsr.State
  dscratchR : BitVec 32

/-- The debug CSRs; they are visible in debug mode only. -/
def dbgRegs (c : Csrs) (dbgIrqR visible : Bool) : List (BitVec 12 × BitVec 32) :=
  [(0x7b0#12, gate visible (DebugCsr.dcsrR c.dbg dbgIrqR)),
    (0x7b1#12, gate visible c.dbg.dpcR), (0x7b2#12, gate visible c.dscratchR)]

def Csrs.regs (c : Csrs) (hart : BitVec 1) (dbgIrqR visible : Bool) :
    List (BitVec 12 × BitVec 32) :=
  Csr.regs c.csr hart ++ dbgRegs c dbgIrqR visible

def numbers : List (BitVec 12) :=
  [0x300, 0x304, 0x305, 0x341, 0x340, 0x342, 0x343, 0x344, 0x301, 0xF11, 0xF12, 0xF13, 0xF14, 0xB00,
    0xB80, 0xB02, 0xB82, 0xBFF, 0xBFE, 0xBFD, 0xBF0, 0x7b0, 0x7b1, 0x7b2]

theorem map_fst_regs (c : Csrs) (hart : BitVec 1) (dbgIrqR visible : Bool) :
    (c.regs hart dbgIrqR visible).map Prod.fst = numbers := rfl

/-- The read port looks the number up. -/
theorem readCsrDat_eq (c : Csrs) (idx : BitVec 12) (r : Csr.Rd) (dbgIrqR : Bool)
    (hd : r.dcsrR = DebugCsr.dcsrR c.dbg dbgIrqR) (hp : r.dpcR = c.dbg.dpcR)
    (hs : r.dscratchR = c.dscratchR) :
    Csr.readCsrDat c.csr idx r =
      gate r.csrRdEn (valueAt (c.regs r.coreMhartid dbgIrqR r.dbgMode) idx) := by
  have hzero : ∀ b : Bool, gate b 0#32 = 0#32 := by
    intro b
    cases b <;> rfl
  rw [← orTree_eq _ (by rw [map_fst_regs]; decide)]
  simp only [Csr.readCsrDat, Csrs.regs, Csr.regs, dbgRegs, hd, hp, hs, List.cons_append,
    List.nil_append, List.foldr_cons, List.foldr_nil]
  cases r.csrRdEn
  · simp [hzero]
  · cases r.dbgMode <;> simp [BitVec.or_assoc, hzero]

/-! ## Writes of the debug CSRs -/

/-- The same cycle without the write of a CSR instruction. -/
def dbgQuiet (i : DebugCsr.In) : DebugCsr.In := { i with wrDcsrEna := false, wrDpcEna := false }

theorem dbgQuiet_eq {i : DebugCsr.In} (h0 : i.wrDcsrEna = false) (h1 : i.wrDpcEna = false) :
    dbgQuiet i = i := by
  cases i
  cases h0
  cases h1
  rfl

theorem dcsrR_fields (d : DebugCsr.State) (dbgIrqR : Bool) :
    (DebugCsr.dcsrR d dbgIrqR).extractLsb' 6 3 = d.dcauseR ∧
      (DebugCsr.dcsrR d dbgIrqR).getLsbD 5 = dbgIrqR := by
  unfold DebugCsr.dcsrR
  generalize d.dcauseR = c, d.haltR = h, d.stepR = t, d.ebreakmR = e
  revert dbgIrqR c h t e
  decide +kernel

/-- In a cycle with a write to a debug CSR in debug mode and no debug entry or return. -/
structure DbgWrites (i : DebugCsr.In) (x : BitVec 32) (n : BitVec 12) : Prop where
  dcsr : i.wrDcsrEna = (n == 0x7b0#12)
  dpc : i.wrDpcEna = (n == 0x7b1#12)
  nxt : i.wrCsrNxt = x
  cmtDpc : i.cmtDpcEna = false
  cmtDcause : i.cmtDcauseEna = false

theorem DbgWrites.regs_step {d : DebugCsr.State} {i : DebugCsr.In} {x : BitVec 32} {n : BitVec 12}
    (h : DbgWrites i x n) (f f' : Csr.State) (q : BitVec 32) (dbgIrqR : Bool) :
    dbgRegs ⟨f, DebugCsr.step d i, dfflr (n == 0x7b2#12) x q⟩ dbgIrqR true =
      (dbgRegs ⟨f', DebugCsr.step d (dbgQuiet i), q⟩ dbgIrqR true).map fun p =>
        (p.1, if p.1 = n then Csr.legal x n p.2 else p.2) := by
  obtain ⟨hc, hi⟩ := dcsrR_fields (DebugCsr.step d (dbgQuiet i)) dbgIrqR
  simp only [dbgRegs, List.map_cons, List.map_nil, gate_true]
  refine congrArg₂ List.cons ?_ (congrArg₂ List.cons ?_ (congrArg₂ List.cons ?_ rfl))
  all_goals refine congrArg (Prod.mk _) ?_
  · by_cases hn : 0x7b0#12 = n
    · subst hn
      have hl : ∀ v, Csr.legal x 0x7b0#12 v = 0b01#2 ++ 0#14 ++ BitVec.fill 4 (x.getLsbD 15) ++ 0#1 ++
          1#1 ++ 0#1 ++ v.extractLsb' 6 3 ++ BitVec.ofBool (v.getLsbD 5) ++ 0#1 ++
          BitVec.ofBool (x.getLsbD 3) ++ BitVec.ofBool (x.getLsbD 2) ++ 0b11#2 := fun _ => rfl
      rw [if_pos rfl, hl, hc, hi]
      simp only [DebugCsr.dcsrR, DebugCsr.step, dbgQuiet, h.dcsr, h.nxt, h.cmtDcause,
        beq_self_eq_true, dfflr_true]
    · rw [if_neg hn]
      simp only [DebugCsr.dcsrR, DebugCsr.step, dbgQuiet, h.dcsr, beq_false_of_ne (Ne.symm hn),
        dfflr_false]
  · by_cases hn : 0x7b1#12 = n
    · subst hn
      rw [if_pos rfl]
      simp only [DebugCsr.step, DebugCsr.dpcNxt, h.dpc, h.nxt, h.cmtDpc, beq_self_eq_true,
        Bool.true_or, dfflr_true]
      rfl
    · rw [if_neg hn]
      simp only [DebugCsr.step, DebugCsr.dpcNxt, dbgQuiet, h.dpc, h.cmtDpc,
        beq_false_of_ne (Ne.symm hn), Bool.or_false, dfflr_false]
  · by_cases hn : 0x7b2#12 = n
    · subst hn
      rfl
    · rw [if_neg hn, beq_false_of_ne (Ne.symm hn)]
      rfl

end CoreCsr
end E203
