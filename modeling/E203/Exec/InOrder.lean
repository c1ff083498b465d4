import E203.Exec.Write
import E203.Fetch.Operands
import E203.Lib.InOrder

/-! # The execute stage executes in order

* `Oitf.queue`: the destinations of the outstanding instructions, oldest first.
* `Core.history`: the instructions committed so far in program order, with the operands they read and
  what they wrote; a load or store gets its result when the load/store unit answers.
* `Core.in_order`: in every cycle of every run the register file is that of executing the history one
  instruction after another, and so are the operands.
-/

namespace E203
set_option autoImplicit false

open Lib.InOrder

namespace Oitf

/-! ## The FIFO as a queue -/

def dest (s : State) (k : BitVec 1) : Option (BitVec 5) :=
  if (s.entry k).rdwenR then some (s.entry k).rdidxR else none

/-- What lies between a retire pointer `r` and an allocate pointer `a`. -/
def between {α : Type} (a r : BitVec 1) (fa fr : Bool) (cell : BitVec 1 → α) : List α :=
  if r == a then if fr == fa then [] else [cell r, cell (r + 1#1)] else [cell r]

/-- The destinations of the outstanding instructions, oldest first. -/
def queue (s : State) : List (Option (BitVec 5)) :=
  between s.alcPtrR s.retPtrR s.alcPtrFlgR s.retPtrFlgR (dest s)

def Disp.dest (d : Disp) : Option (BitVec 5) := if d.dispIRdwen then some d.dispIRdidx else none

section
variable {s : State} {d : Disp} {disEna retEna : Bool}

theorem dest_step (k : BitVec 1) :
    dest (step s d disEna retEna) k = if vldSet s disEna k then d.dest else dest s k := by
  cases hset : vldSet s disEna k <;> simp [dest, step, hset, Disp.dest]

theorem between_step {α : Type} {a r : BitVec 1} {fa fr : Bool} {new : α} {old : BitVec 1 → α}
    (hdis : disEna = true → (r == a && !(fr == fa)) = false)
    (hret : retEna = true → (r == a && fr == fa) = false)
    (hflg : (r == a) = false → (fa ^^ fr) = (a == 0#1)) :
    between (if disEna then a + 1#1 else a) (if retEna then r + 1#1 else r)
        (fa ^^ (a == 1#1 && disEna)) (fr ^^ (r == 1#1 && retEna))
        (fun k => if disEna && a == k then new else old k) =
      (if retEna then (between a r fa fr old).tail else between a r fa fr old) ++
        (if disEna then [new] else []) := by
  obtain rfl | rfl := bit_cases a <;> obtain rfl | rfl := bit_cases r <;>
    cases disEna <;> cases retEna <;> cases fa <;> cases fr <;> simp_all [between]

theorem queue_step (h : s.Ok) (hdis : disEna = true → oitfFull s = false)
    (hret : retEna = true → oitfEmpty s = false) :
    queue (step s d disEna retEna) =
      (if retEna then (queue s).tail else queue s) ++ (if disEna then [d.dest] else []) := by
  obtain ⟨halc, hrp, halcf, hretf⟩ := @step_ptr s d disEna retEna
  have hdest : dest (step s d disEna retEna) =
      fun k => if disEna && s.alcPtrR == k then d.dest else dest s k := funext dest_step
  rw [queue, halc, hrp, halcf, hretf, hdest]
  exact between_step hdis hret h.flg

theorem queue_eq :
    queue s =
      if oitfEmpty s then []
      else if oitfFull s then [dest s s.retPtrR, dest s (s.retPtrR + 1#1)]
      else [dest s s.retPtrR] := by
  rw [queue, between, oitfEmpty, oitfFull]
  split_ifs <;> simp_all

/-- The oldest entry is the one that is retired next. -/
theorem head_queue (h : oitfEmpty s = false) : (queue s).head? = some (dest s s.retPtrR) := by
  rw [queue_eq, h, if_neg Bool.false_ne_true]
  split_ifs <;> rfl

theorem writes_of_mem_queue {n : BitVec 5} (h : s.Ok) (hn : some n ∈ queue s) : s.Writes n := by
  have hcell : ∀ k, (s.entry k).vldR = true → some n = dest s k → s.Writes n := by
    intro k hv hk
    cases hwen : (s.entry k).rdwenR
    · rw [dest, hwen] at hk
      cases hk
    · rw [dest, hwen, if_pos rfl] at hk
      exact ⟨k, hv, hwen, (Option.some.inj hk).symm⟩
  rw [queue_eq] at hn
  split_ifs at hn with hempty hfull
  · cases hn
  · have hv : ∀ k, (s.entry k).vldR = true := fun k => by rw [h.vld, hfull, Bool.true_or]
    obtain hn | hn := List.mem_cons.mp hn
    · exact hcell _ (hv _) hn
    · exact hcell _ (hv _) (List.mem_singleton.mp hn)
  · have hsome : oitfEmpty s = false := Bool.not_eq_true _ ▸ hempty
    have hv : (s.entry s.retPtrR).vldR = true := by
      rw [h.vld, hsome]
      simp
    exact hcell _ hv (List.mem_singleton.mp hn)

/-- A match output tells that something outstanding writes the register. -/
theorem oitfrdMatch_iff {en : Bool} {n : BitVec 5} :
    oitfrdMatch s en n = true ↔ en = true ∧ s.Writes n := by
  simp only [oitfrdMatch, Entry.rdMatch, Bool.or_eq_true, Bool.and_eq_true, beq_iff_eq, State.Writes]
  constructor
  · rintro (⟨⟨⟨hv, hwen⟩, hen⟩, hidx⟩ | ⟨⟨⟨hv, hwen⟩, hen⟩, hidx⟩)
    · exact ⟨hen, _, hv, hwen, hidx⟩
    · exact ⟨hen, _, hv, hwen, hidx⟩
  · rintro ⟨hen, k, hv, hwen, hidx⟩
    obtain rfl | rfl := bit_cases k
    · exact .inl ⟨⟨⟨hv, hwen⟩, hen⟩, hidx⟩
    · exact .inr ⟨⟨⟨hv, hwen⟩, hen⟩, hidx⟩

theorem oitfrdMatch_eq_false {en : Bool} {n : BitVec 5} :
    oitfrdMatch s en n = false ↔ (en = true → ¬s.Writes n) := by
  rw [← Bool.not_eq_true, oitfrdMatch_iff, not_and]

end
end Oitf

namespace Exu
section
variable (s : State) (i : In)

/-- The operand registers that the instruction reads, with the operands it gets. -/
def operands : List (BitVec 5 × BitVec 32) :=
  (if Decode.decRs1en i.iIr then [(Decode.decRs1idx i.iIr, (alu s i).iRs1)] else []) ++
    (if Decode.decRs2en i.iIr then [(Decode.decRs2idx i.iIr, (alu s i).iRs2)] else [])

/-- The instruction that commits. -/
def committed : Instr (BitVec 5) (BitVec 32) where
  reads := operands s i
  dest := if Decode.decRdwen i.iIr then some (Decode.decRdidx i.iIr) else none
  result :=
    if oitfEna s i then .outstanding
    else if Alu.oNeedWbck s.alu (alu s i) then .value (Alu.wbckOWdat s.alu (alu s i))
    else .nothing

/-- What the load/store unit answers. -/
def lsuResult : Result (BitVec 32) := if i.lsuOWbckErr then .nothing else .value i.lsuOWbckWdat

/-- What one cycle adds to the history: the answer for the oldest outstanding instruction, then the
instruction that commits. -/
def historyStep (log : List (Instr (BitVec 5) (BitVec 32))) : List (Instr (BitVec 5) (BitVec 32)) :=
  (if oitfRetEna s i then complete (lsuResult i) log else log) ++
    (if cmtEna s i then [committed s i] else [])

end

section
variable {s : State} {i : In} {log : List (Instr (BitVec 5) (BitVec 32))}
  {ρ₀ : BitVec 5 → BitVec 32}

/-- The operand indexes are those of the instruction. -/
structure Indexed (i : In) : Prop where
  rs1 : Decode.decRs1en i.iIr = true → i.iRs1idx = Decode.decRs1idx i.iIr
  rs2 : Decode.decRs2en i.iIr = true → i.iRs2idx = Decode.decRs2idx i.iIr

/-- What is dispatched depends on nothing outstanding. -/
theorem free_of_dispatched (hd : (alu s i).iValid = true) :
    Oitf.oitfrdMatch s.oitf (Decode.decRs1en i.iIr) i.iRs1idx = false ∧
      Oitf.oitfrdMatch s.oitf (Decode.decRs2en i.iIr) i.iRs2idx = false ∧
      Oitf.oitfrdMatch s.oitf (Decode.decRdwen i.iIr) (Decode.decRdidx i.iIr) = false := by
  have hcond : Disp.dispCondition (disp s i) = true := ((Bool.and_eq_true _ _).mp hd).1
  simp only [Disp.dispCondition, Disp.dep, Disp.rawDep, Disp.wawDep, Bool.and_eq_true,
    Bool.not_eq_true', Bool.or_eq_false_iff] at hcond
  obtain ⟨⟨-, ⟨h1, h2⟩, h3⟩, -⟩ := hcond
  exact ⟨h1, h2, h3⟩

theorem disp_operands :
    (alu s i).iRs1 = gate (!Decode.decRs1x0 i.iIr) (s.rf.rfR i.iRs1idx) ∧
      (alu s i).iRs2 = gate (!Decode.decRs2x0 i.iIr) (s.rf.rfR i.iRs2idx) :=
  ⟨Disp.dispORs1_eq _, Disp.dispORs2_eq _⟩

/-- An operand is the content of its register, which nothing outstanding writes. -/
theorem operands_of_dispatched (hd : (alu s i).iValid = true) (hidx : Indexed i)
    {p : BitVec 5 × BitVec 32} (hp : p ∈ operands s i) :
    s.rf p.1 = p.2 ∧ ¬s.oitf.Writes p.1 := by
  obtain ⟨h1, h2, -⟩ := free_of_dispatched hd
  obtain ⟨hop1, hop2⟩ := disp_operands (s := s) (i := i)
  simp only [operands, List.mem_append] at hp
  obtain hp | hp := hp
  · split_ifs at hp with hen
    · obtain rfl := List.mem_singleton.mp hp
      have hne := Decode.decRs1idx_ne_zero hen
      have hx0 : Decode.decRs1x0 i.iIr = false := beq_false_of_ne hne
      rw [hidx.rs1 hen] at h1
      refine ⟨?_, Oitf.oitfrdMatch_eq_false.mp h1 hen⟩
      rw [hop1, hidx.rs1 hen, hx0, Regfile.rfR, if_neg hne]
      rfl
    · cases hp
  · split_ifs at hp with hen
    · obtain rfl := List.mem_singleton.mp hp
      have hne := Decode.decRs2idx_ne_zero hen
      have hx0 : Decode.decRs2x0 i.iIr = false := beq_false_of_ne hne
      rw [hidx.rs2 hen] at h2
      refine ⟨?_, Oitf.oitfrdMatch_eq_false.mp h2 hen⟩
      rw [hop2, hidx.rs2 hen, hx0, Regfile.rfR, if_neg hne]
      rfl
    · cases hp

/-- Register zero reads as zero, the others through their ports. -/
theorem operands_of_regs (hidx : Indexed i)
    (h1 : Decode.decRs1en i.iIr = !Decode.decRs1x0 i.iIr)
    (h2 : Decode.decRs2en i.iIr = !Decode.decRs2x0 i.iIr) :
    (alu s i).iRs1 = s.rf.rfR (Decode.decRs1idx i.iIr) ∧
      (alu s i).iRs2 = s.rf.rfR (Decode.decRs2idx i.iIr) := by
  obtain ⟨hop1, hop2⟩ := disp_operands (s := s) (i := i)
  constructor
  · rw [hop1]
    cases hx0 : Decode.decRs1x0 i.iIr
    · rw [hx0] at h1
      rw [hidx.rs1 h1]
      rfl
    · rw [beq_iff_eq.mp hx0]
      rfl
  · rw [hop2]
    cases hx0 : Decode.decRs2x0 i.iIr
    · rw [hx0] at h2
      rw [hidx.rs2 h2]
      rfl
    · rw [beq_iff_eq.mp hx0]
      rfl

theorem committed_avoids (hd : (alu s i).iValid = true) (hidx : Indexed i) {x : BitVec 5}
    (hx : s.oitf.Writes x) : (committed s i).Avoids x := by
  constructor
  · intro p hp heq
    exact (operands_of_dispatched hd hidx hp).2 (heq ▸ hx)
  · intro hdest
    simp only [committed] at hdest
    split_ifs at hdest with hen
    obtain rfl := Option.some.inj hdest
    exact Oitf.oitfrdMatch_eq_false.mp (free_of_dispatched hd).2.2 hen hx

/-- The register file after the answer of the load/store unit. -/
theorem retire_sim (hok : s.oitf.Ok) (hsim : Sim ρ₀ s.rf log)
    (hpend : pending log = Oitf.queue s.oitf) :
    Sim ρ₀
        (if longpWbckOValid s i then Function.update s.rf (Oitf.retRdidx s.oitf) i.lsuOWbckWdat
          else s.rf)
        (if oitfRetEna s i then complete (lsuResult i) log else log) ∧
      pending (if oitfRetEna s i then complete (lsuResult i) log else log) =
        if oitfRetEna s i then (Oitf.queue s.oitf).tail else Oitf.queue s.oitf := by
  have hlong := longpWbckOValid_eq (s := s) (i := i)
  have hr : lsuResult i ≠ .outstanding := by
    unfold lsuResult
    split_ifs <;> simp
  cases hret : oitfRetEna s i
  case false =>
    rw [hret, Bool.false_and, Bool.false_and] at hlong
    rw [hlong]
    exact ⟨hsim, hpend⟩
  case true =>
    obtain ⟨hempty, -⟩ := retEntry hok hret
    have hhead : (pending log).head? = some (Oitf.dest s.oitf s.oitf.retPtrR) := by
      rw [hpend]
      exact Oitf.head_queue hempty
    have hnext := hsim.retire hhead hr
    rw [if_pos rfl, if_pos rfl, pending_complete hr, hpend]
    refine ⟨?_, rfl⟩
    convert hnext using 1
    rw [hret, Bool.true_and] at hlong
    have hwen : Oitf.retRdwen s.oitf = (s.oitf.entry s.oitf.retPtrR).rdwenR := rfl
    rw [hlong, hwen]
    cases hw : (s.oitf.entry s.oitf.retPtrR).rdwenR <;> cases he : i.lsuOWbckErr <;>
      simp [writeBack, Instr.exec, Oitf.dest, lsuResult, hw, he, Oitf.retRdidx, Oitf.retPtr]

/-- A long-pipe instruction does not write when it commits. -/
theorem oNeedWbck_of_oitfEna (h : oitfEna s i = true) : Alu.oNeedWbck s.alu (alu s i) = false := by
  simp only [oitfEna, Disp.dispOitfEna, Bool.and_eq_true] at h
  simp [Alu.oNeedWbck, h.2]

theorem committed_result : (committed s i).result = .outstanding ↔ oitfEna s i = true := by
  cases hena : oitfEna s i <;> cases hw : Alu.oNeedWbck s.alu (alu s i) <;>
    simp [committed, hena, hw]

theorem committed_exec (hcmt : cmtEna s i = true) {ρ : BitVec 5 → BitVec 32} :
    (committed s i).exec ρ =
      if cmtWrites s i then
        Function.update ρ (Decode.decRdidx i.iIr) (Alu.wbckOWdat s.alu (alu s i))
      else ρ := by
  rw [cmtWrites, hcmt, Bool.true_and]
  cases hena : oitfEna s i
  case true => simp [committed, Instr.exec, hena, oNeedWbck_of_oitfEna hena]
  case false =>
    cases hw : Alu.oNeedWbck s.alu (alu s i)
    · simp [committed, Instr.exec, hena, hw]
    · have hwen : Decode.decRdwen i.iIr = true := by
        apply decRdwen_of_cmtWrites (s := s)
        rw [cmtWrites, hcmt, hw]
        rfl
      simp [committed, Instr.exec, hena, hw, hwen]

/-- A cycle of the execute stage adds to the history what it does. -/
theorem historyStep_sim (hok : s.oitf.Ok) (hidx : i.iValid = true → Indexed i)
    (hdisp : cmtEna s i = true → (alu s i).iValid = true)
    (hena : oitfEna s i = true → cmtEna s i = true) (hsim : Sim ρ₀ s.rf log)
    (hpend : pending log = Oitf.queue s.oitf) :
    Sim ρ₀ (step s i).rf (historyStep s i log) ∧
      pending (historyStep s i log) = Oitf.queue (step s i).oitf := by
  obtain ⟨hsim', hpend'⟩ := retire_sim hok hsim hpend (i := i)
  have hqueue : Oitf.queue (step s i).oitf =
      (if oitfRetEna s i then (Oitf.queue s.oitf).tail else Oitf.queue s.oitf) ++
        (if oitfEna s i then [(oitfDisp i).dest] else []) := by
    refine Oitf.queue_step hok (fun hdis => ?_) fun hret => (retEntry hok hret).1
    simpa [Oitf.disReady] using (oitfEna_disReady hdis).1
  rw [hqueue, historyStep]
  generalize hlog' : (if oitfRetEna s i then complete (lsuResult i) log else log) = log' at *
  cases hcmt : cmtEna s i
  case false =>
    have hno : oitfEna s i = false := by
      cases ho : oitfEna s i
      · rfl
      · rw [hena ho] at hcmt
        cases hcmt
    have hw : cmtWrites s i = false := by simp [cmtWrites, hcmt]
    rw [hno, step_rf, hw]
    simp only [Bool.false_eq_true, if_false, List.append_nil]
    exact ⟨hsim', hpend'⟩
  case true =>
    have hd := hdisp hcmt
    have hidx' := hidx ((Bool.and_eq_true _ _).mp hd).2
    have hsub : ∀ x, some x ∈ pending log' → s.oitf.Writes x := by
      intro x hx
      apply Oitf.writes_of_mem_queue hok
      rw [hpend'] at hx
      split_ifs at hx
      · exact List.mem_of_mem_tail hx
      · exact hx
    have hread : ∀ p ∈ (committed s i).reads,
        (if longpWbckOValid s i then Function.update s.rf (Oitf.retRdidx s.oitf) i.lsuOWbckWdat
          else s.rf) p.1 = p.2 := by
      intro p hp
      obtain ⟨hval, hfree⟩ := operands_of_dispatched hd hidx' hp
      split_ifs with hl
      · rw [longpWbckOValid_eq, Bool.and_eq_true, Bool.and_eq_true] at hl
        rw [Function.update_of_ne, hval]
        intro heq
        exact hfree ⟨_, (retEntry hok hl.1.1).2, hl.1.2, heq.symm⟩
      · exact hval
    have hnext := hsim'.commit hread fun x hx => committed_avoids hd hidx' (hsub x hx)
    rw [if_pos rfl]
    constructor
    · convert hnext using 1
      rw [step_rf, committed_exec hcmt]
      split_ifs with hl hw
      · rw [cmtWrites_of_longp hl] at hw
        cases hw
      all_goals rfl
    · cases ho : oitfEna s i
      · have hres : (committed s i).result ≠ .outstanding := by
          rw [Ne, committed_result, ho]
          exact Bool.false_ne_true
        rw [pending_append hres, hpend', if_neg Bool.false_ne_true, List.append_nil]
      · rw [pending_append_outstanding (committed_result.mpr ho), hpend']
        rfl

/-- The long pipe writes once for each outstanding instruction, to that instruction's register. -/
structure WritesOnce (s : State) (i : In) (log : List (Instr (BitVec 5) (BitVec 32))) : Prop where
  pend : pending log = Oitf.queue s.oitf
  when : longpWbckOValid s i = true ↔
    oitfRetEna s i = true ∧ i.lsuOWbckErr = false ∧ ∃ x, (pending log).head? = some (some x)
  port : longpWbckOValid s i = true →
    Wbck.rfWbckOEna (wbck s i) = true ∧
      (pending log).head? = some (some (Wbck.rfWbckORdidx (wbck s i))) ∧
      Wbck.rfWbckOWdat (wbck s i) = i.lsuOWbckWdat

theorem writesOnce (hok : s.oitf.Ok) (hpend : pending log = Oitf.queue s.oitf) :
    WritesOnce s i log := by
  have hhead : oitfRetEna s i = true →
      (pending log).head? = some (Oitf.dest s.oitf s.oitf.retPtrR) := by
    intro hret
    rw [hpend]
    exact Oitf.head_queue (retEntry hok hret).1
  have hwen : Oitf.retRdwen s.oitf = (s.oitf.entry s.oitf.retPtrR).rdwenR := rfl
  refine ⟨hpend, ?_, fun hl => ?_⟩
  · rw [longpWbckOValid_eq, hwen]
    cases hret : oitfRetEna s i
    · simp
    · rw [hhead hret]
      cases hw : (s.oitf.entry s.oitf.retPtrR).rdwenR <;> cases i.lsuOWbckErr <;>
        simp [Oitf.dest, hw]
  · have hsel : Wbck.wbckSelAlu (wbck s i) = false := by
      rw [wbckSelAlu_eq, cmtWrites_of_longp hl]
    have hport : (wbck s i).longpWbckIValid = true := hl
    have hret := hl
    rw [longpWbckOValid_eq, Bool.and_eq_true, Bool.and_eq_true, hwen] at hret
    refine ⟨?_, ?_, ?_⟩
    · simp [Wbck.rfWbckOEna, Wbck.wbckIValid, hsel, hport, Wbck.rfWbckOReady]
    · rw [hhead hret.1.1, Oitf.dest, hret.1.2, if_pos rfl, Wbck.rfWbckORdidx, hsel,
        if_neg Bool.false_ne_true]
      rfl
    · rw [Wbck.rfWbckOWdat, hsel, if_neg Bool.false_ne_true]
      exact longpWbckOWdat_eq hl

end
end Exu

/-! ## Runs of the core -/

namespace Core
section
variable {s : State} {i : In}

theorem Steady.dispatched_of_cmtEna (h : Steady s) (hcmt : Exu.cmtEna s.exu (exuIn s i) = true) :
    (Exu.alu s.exu (exuIn s i)).iValid = true := by
  by_cases hidle : s.exu.alu.agu.icbStateR = .idle
  · cases hmask : Exu.masked s.exu (exuIn s i)
    · obtain ⟨cond, hvalid, -⟩ := Exu.join hidle hmask
      simp only [Exu.cmtEna, Commit.cmtEna, Exu.aluCmtValid, Alu.cmtOValid, hvalid,
        Bool.and_eq_true] at hcmt
      exact hcmt.1.1.2.1
    · rw [Exu.cmtEna_of_masked hmask] at hcmt
      cases hcmt
  · exact (h.amoRun i hidle).dispatched

theorem Steady.cmtEna_of_oitfEna (h : Steady s) (hena : Exu.oitfEna s.exu (exuIn s i) = true) :
    Exu.cmtEna s.exu (exuIn s i) = true := by
  by_cases hidle : s.exu.alu.agu.icbStateR = .idle
  · cases hmask : Exu.masked s.exu (exuIn s i)
    · rw [← Exu.iHsked_eq_cmtEna hidle hmask]
      exact Exu.iHsked_of_oitfEna hena
    · obtain ⟨hagu, hblock⟩ := (Bool.and_eq_true _ _).mp hmask
      obtain ⟨hld, hst, -⟩ := Exu.agu_kind hagu
      have hlong := (Exu.oitfEna_disReady hena).2.2
      simp [Lsuagu.aguILongpipe, Lsuagu.aguIAlgnldst, hld, hst, hblock] at hlong
  · rw [(h.amoRun i hidle).oitfEna_eq] at hena
    cases hena

end

section
variable {inp : ℕ → In} {s : State}

/-- The contents of the registers that the word `w` names. -/
def rs1 (s : State) (w : BitVec 32) : BitVec 32 := s.exu.rf.rfR (Decode.decRs1idx w)
def rs2 (s : State) (w : BitVec 32) : BitVec 32 := s.exu.rf.rfR (Decode.decRs2idx w)

/-- The instructions committed before cycle `t`, in program order. -/
def history (inp : ℕ → In) (s : State) : ℕ → List (Instr (BitVec 5) (BitVec 32))
  | 0 => []
  | t + 1 =>
    Exu.historyStep (run inp s t).exu (exuIn (run inp s t) (inp t)) (history inp s t)

theorem indexed (h0 : IsReset s) (t : ℕ) (hv : (run inp s t).ifu.irValidR = true) :
    Exu.Indexed (exuIn (run inp s t) (inp t)) :=
  ⟨(indexed_run h0 t).rs1 hv, (indexed_run h0 t).rs2 hv⟩

theorem history_sim (h0 : IsReset s) (t : ℕ) :
    Sim s.exu.rf (run inp s t).exu.rf (history inp s t) ∧
      pending (history inp s t) = Oitf.queue (run inp s t).exu.oitf := by
  induction t with
  | zero =>
    refine ⟨.init, ?_⟩
    change [] = Oitf.queue s.exu.oitf
    rw [Oitf.queue_eq]
    have hempty : Oitf.oitfEmpty s.exu.oitf = true := h0.2.oitfEmpty
    rw [hempty, if_pos rfl]
  | succ t ih =>
    have hsteady : Steady (run inp s t) := Steady.run h0 t
    exact Exu.historyStep_sim hsteady.oitf (indexed h0 t) hsteady.dispatched_of_cmtEna
      hsteady.cmtEna_of_oitfEna ih.1 ih.2

/-- In every cycle of every run: the register file, and the operands of what is dispatched, are those
of executing the committed instructions one after another; the operands they read were; and the long
pipe writes once for each outstanding instruction. -/
theorem in_order (h0 : IsReset s) (t : ℕ) :
    (run inp s t).exu.rf = Lib.InOrder.run s.exu.rf (history inp s t) ∧
      Reads s.exu.rf (history inp s t) ∧
      ((Exu.alu (run inp s t).exu (exuIn (run inp s t) (inp t))).iValid = true →
        ∀ p ∈ Exu.operands (run inp s t).exu (exuIn (run inp s t) (inp t)),
          Lib.InOrder.run s.exu.rf (history inp s t) p.1 = p.2) ∧
      Exu.WritesOnce (run inp s t).exu (exuIn (run inp s t) (inp t)) (history inp s t) := by
  have ⟨hsim, hpend⟩ := @history_sim inp s h0 t
  have hsteady : Steady (run inp s t) := Steady.run h0 t
  refine ⟨hsim.run, hsim.reads, fun hd p hp => ?_, Exu.writesOnce hsteady.oitf hpend⟩
  have hv : (run inp s t).ifu.irValidR = true := ((Bool.and_eq_true _ _).mp hd).2
  rw [← hsim.run]
  exact (Exu.operands_of_dispatched hd (indexed h0 t hv) hp).1

end
/-- A load of `x1` that is answered late, and an addition that needs it. -/
def loadUse (t : ℕ) : In :=
  { In.quiet with
    ifuRspValid := t == 2 || t == 3
    ifuRspInstr := if t = 2 then 0x00012083#32 else 0x001081b3#32
    lsuOValid := t == 6
    lsuOWbckWdat := 0x12#32 }

theorem in_order_loadUse :
    (run loadUse zeroState 8).exu.rf =
      Lib.InOrder.run zeroState.exu.rf (history loadUse zeroState 8) :=
  (in_order (s := zeroState) (State.isReset_reset _) 8).1

end Core
end E203
