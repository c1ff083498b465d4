import E203.General.IcbArbt
import E203.Lib.Merge
import E203.Rtl.GnrlIcbSplt

/-! # The splitter returns responses in command order

The identifier FIFO holds the targets of the outstanding commands.  Only the target of the oldest one is
ready to respond.

* `Indicates`: the indication of one target.
* `Outstanding`: the FIFO holds the indications of a list of targets; `Outstanding.step`.
* `AllSame.step`: without `ALLOW_DIFF` these are all the same, although only the oldest is compared.
* `responses_in_order`: over a run.
-/

namespace E203.GnrlSplt
set_option autoImplicit false

section
variable {N AW DW USR_W OUTS W : ℕ} {P : Params} {s : RspidFifo OUTS W} {i : In N AW DW USR_W}
  {k : Fin N}

def Indicates (i : In N AW DW USR_W) (k : Fin N) : Prop :=
  ∀ j : Fin N, i.iIcbSpltIndic.getLsbD j = oneHot k j

theorem twoPow_bit (hW : N ≤ W) (k j : Fin N) :
    (BitVec.twoPow W k.val).getLsbD j = oneHot k j := by
  have hk : k.val < W := Nat.lt_of_lt_of_le k.isLt hW
  rw [BitVec.getLsbD_twoPow, decide_eq_true hk, Bool.true_and, oneHot]
  apply decide_eq_decide.mpr
  rw [Fin.ext_iff]
  exact eq_comm

theorem indicId_eq (hW : N ≤ W) (h : Indicates i k) : iSpltIndicId i = BitVec.twoPow W k.val := by
  apply BitVec.eq_of_getLsbD_eq
  intro j hj
  rw [iSpltIndicId, BitVec.getLsbD_setWidth, decide_eq_true hj, Bool.true_and]
  by_cases hjN : j < N
  · rw [h ⟨j, hjN⟩]
    exact (twoPow_bit hW k ⟨j, hjN⟩).symm
  · have hne : ¬k.val = j := fun heq => hjN (heq ▸ k.isLt)
    rw [BitVec.getLsbD_of_ge _ _ (by omega), BitVec.getLsbD_twoPow, decide_eq_false hne,
      Bool.and_false]

theorem twoPow_inj (hW : N ≤ W) {j : Fin N} (h : BitVec.twoPow W j.val = BitVec.twoPow W k.val) :
    j = k := by
  have hbit := twoPow_bit hW j j
  rw [h, twoPow_bit hW k j, oneHot, oneHot, decide_eq_true rfl] at hbit
  exact of_decide_eq_true hbit

/-! ## The handshakes of a cycle -/

section
variable (P : Params) (s : RspidFifo OUTS W) (i : In N AW DW USR_W)

def cmdHsked : Bool := i.iIcbCmdValid && iIcbCmdReady P s i
def rspHsked : Bool := iIcbRspValid P s i && i.iIcbRspReady

def accepted : List (GnrlIcbCmd AW DW USR_W) := if cmdHsked P s i then [i.iIcbCmd] else []

def issued : List (Fin N × GnrlIcbCmd AW DW USR_W) :=
  (List.finRange N).flatMap fun j =>
    if oBusIcbCmdValid P s i j && i.oBusIcbCmdReady j then [(j, oBusIcbCmd P s i j)] else []

def answered : List (Fin N × GnrlIcbRsp DW USR_W) :=
  (List.finRange N).flatMap fun j =>
    if i.oBusIcbRspValid j && oBusIcbRspReady P s i j then [(j, i.oBusIcbRsp j)] else []

def delivered : List (GnrlIcbRsp DW USR_W) := if rspHsked P s i then [iIcbRsp P s i] else []

end

theorem gateCmd_true (c : GnrlIcbCmd AW DW USR_W) : gateCmd true c = c := rfl

/-- A target is offered the command that is for it, and accepts it together with the master. -/
theorem cmd_handshake (h : Indicates i k) (j : Fin N) :
    (oBusIcbCmdValid P s i j && i.oBusIcbCmdReady j) = (oneHot k j && cmdHsked P s i) := by
  unfold oBusIcbCmdValid cmdHsked iIcbCmdReady
  by_cases hN : N = 1
  · subst hN
    obtain rfl : j = 0 := Subsingleton.elim _ _
    obtain rfl : k = 0 := Subsingleton.elim _ _
    simp [oneHot]
  · have hsel : selOApbCmdReady i = i.oBusIcbCmdReady k := by
      have hcomm : (fun j : Fin N => i.iIcbSpltIndic.getLsbD j && i.oBusIcbCmdReady j) =
          fun j => i.oBusIcbCmdReady j && oneHot k j := by
        funext j
        rw [h j, Bool.and_comm]
      rw [selOApbCmdReady, hcomm, any_oneHot (List.mem_finRange k)]
    rw [if_neg hN, dif_neg hN, manyCmdReady, iIcbCmdValidPre, hsel, h j]
    by_cases hj : j = k
    · subst hj
      cases oneHot j j <;> cases i.iIcbCmdValid <;> cases i.oBusIcbCmdReady j <;>
        cases spltStall P s i <;> rfl
    · have hne : oneHot k j = false := decide_eq_false hj
      rw [hne]
      simp

theorem oBusIcbCmd_eq (hv : oBusIcbCmdValid P s i k = true) : oBusIcbCmd P s i k = i.iIcbCmd := by
  unfold oBusIcbCmd
  split
  · rfl
  · rw [hv, gateCmd_true, ite_self]

theorem cmd_cases (P : Params) (s : RspidFifo OUTS W)
    (hone : i.iIcbCmdValid = true → ∃ k, Indicates i k) :
    (cmdHsked P s i = false ∧ accepted P s i = [] ∧ issued P s i = []) ∨
    ∃ k, cmdHsked P s i = true ∧ Indicates i k ∧ accepted P s i = [i.iIcbCmd] ∧
      issued P s i = [(k, i.iIcbCmd)] := by
  cases hv : i.iIcbCmdValid
  · left
    have hh : cmdHsked P s i = false := by rw [cmdHsked, hv, Bool.false_and]
    refine ⟨hh, by rw [accepted, hh]; rfl, ?_⟩
    rw [issued, List.flatMap_eq_nil_iff]
    intro j _
    have hno : oBusIcbCmdValid P s i j = false := by
      rw [oBusIcbCmdValid, iIcbCmdValidPre, hv, Bool.false_and, Bool.and_false, ite_self]
    rw [hno]
    rfl
  · obtain ⟨k, hk⟩ := hone hv
    have hcmd : ∀ j : Fin N, (if oneHot k j && cmdHsked P s i then [(j, oBusIcbCmd P s i j)] else []) =
        if oneHot k j && cmdHsked P s i then [(j, i.iIcbCmd)] else [] := by
      intro j
      cases hj : oneHot k j && cmdHsked P s i
      · rfl
      · rw [← cmd_handshake hk j, Bool.and_eq_true] at hj
        rw [oBusIcbCmd_eq hj.1]
    have hiss : issued P s i = if cmdHsked P s i then [(k, i.iIcbCmd)] else [] := by
      simp only [issued, cmd_handshake hk, hcmd]
      rw [flatMap_oneHot (List.mem_finRange k) (List.nodup_finRange N)]
    cases hh : cmdHsked P s i
    · left
      refine ⟨rfl, by rw [accepted, hh]; rfl, ?_⟩
      rw [hiss, hh]
      rfl
    · right
      refine ⟨k, rfl, hk, by rw [accepted, hh]; rfl, ?_⟩
      rw [hiss, hh]
      rfl

/-! ## The outstanding commands -/

/-- `pend` are the targets of the outstanding commands; a single target needs no identifiers. -/
def Outstanding (s : RspidFifo OUTS W) (pend : List (Fin N)) : Prop :=
  N = 1 ∨ s.Has (pend.map fun k => BitVec.twoPow W k.val)

variable {pend : List (Fin N)}

/-- The port that a response comes from. -/
theorem port_eq (hW : N ≤ W) (h : s.Has (pend.map fun k => BitVec.twoPow W k.val))
    (hhead : pend.head? = some k ∨ pend = [] ∧ P.allow0cyclRsp = true ∧ Indicates i k) (j : Fin N) :
    (oIcbRspPortId P s i).getLsbD j = oneHot k j := by
  have hport : oIcbRspPortId P s i = BitVec.twoPow W k.val := by
    rw [oIcbRspPortId, rspidFifoEmpty, h.oVld_eq]
    obtain _ | ⟨q, rest⟩ := pend
    · obtain hh | ⟨-, hallow, hind⟩ := hhead
      · cases hh
      · rw [hallow, indicId_eq hW hind]
        rfl
    · obtain hh | ⟨hnil, -⟩ := hhead
      · obtain rfl : q = k := Option.some.inj hh
        exact h.oDat_eq
      · cases hnil
  rw [hport, twoPow_bit hW]

theorem empty_eq (h : s.Has (pend.map fun k => BitVec.twoPow W k.val)) :
    rspidFifoEmpty s = pend.isEmpty := by
  rw [rspidFifoEmpty, h.oVld_eq, Bool.not_not, List.isEmpty_map]

theorem rsp_of_port (hport : N = 1 ∨ ∀ j : Fin N, (oIcbRspPortId P s i).getLsbD j = oneHot k j) :
    answered P s i = (if rspHsked P s i then [(k, i.oBusIcbRsp k)] else []) ∧
      delivered P s i = if rspHsked P s i then [i.oBusIcbRsp k] else [] := by
  by_cases hN : N = 1
  · subst hN
    obtain rfl : k = 0 := Subsingleton.elim _ _
    have hh : rspHsked P s i = (i.oBusIcbRspValid 0 && i.iIcbRspReady) := rfl
    rw [hh]
    refine ⟨?_, rfl⟩
    have hans : answered P s i =
        (if i.oBusIcbRspValid 0 && i.iIcbRspReady then [(0, i.oBusIcbRsp 0)] else []) ++ [] := rfl
    rw [hans, List.append_nil]
  · have hport := hport.resolve_left hN
    have hpre : iIcbRspValidPre P s i = i.oBusIcbRspValid k := by
      simp only [iIcbRspValidPre, hport]
      exact any_oneHot (List.mem_finRange k) _
    have hh : ∀ j : Fin N, (i.oBusIcbRspValid j && oBusIcbRspReady P s i j) =
        (oneHot k j && rspHsked P s i) := by
      intro j
      rw [oBusIcbRspReady, if_neg hN, rspHsked, iIcbRspValid, dif_neg hN, manyRspValid, hpre,
        hport j, iIcbRspReadyPre]
      by_cases hj : j = k
      · subst hj
        cases P.allow0cyclRsp <;> cases rspidFifoEmpty s <;> cases i.oBusIcbRspValid j <;>
          cases oneHot j j <;> simp
      · have hne : oneHot k j = false := decide_eq_false hj
        rw [hne]
        simp
    have hsel : iIcbRsp P s i = i.oBusIcbRsp k := by
      rw [iIcbRsp, dif_neg hN]
      simp only [selIIcbRsp, hport, GnrlArbt.selBus_oneHot]
    constructor
    · simp only [answered, hh]
      exact flatMap_oneHot (List.mem_finRange k) (List.nodup_finRange N) _ _
    · rw [delivered, hsel]

theorem mem_answered (j : Fin N)
    (h : (i.oBusIcbRspValid j && oBusIcbRspReady P s i j) = true) :
    (j, i.oBusIcbRsp j) ∈ answered P s i := by
  rw [answered, List.mem_flatMap]
  exact ⟨j, List.mem_finRange j, by rw [h]; exact List.mem_singleton_self _⟩

/-- No response passes, or that to the oldest command does. -/
theorem Outstanding.rsp_cases (h : Outstanding s pend) (hW : N ≤ W)
    (hone : i.iIcbCmdValid = true → ∃ k, Indicates i k)
    (hans : ∀ x ∈ answered P s i, x.1 ∈ pend ++ (issued P s i).map Prod.fst) :
    (rspHsked P s i = false ∧ answered P s i = [] ∧ delivered P s i = []) ∨
    ∃ k rest, pend ++ (issued P s i).map Prod.fst = k :: rest ∧ rspHsked P s i = true ∧
      answered P s i = [(k, i.oBusIcbRsp k)] ∧ delivered P s i = [i.oBusIcbRsp k] := by
  -- with the port known
  have hknown : ∀ k rest, pend ++ (issued P s i).map Prod.fst = k :: rest →
      (N = 1 ∨ ∀ j : Fin N, (oIcbRspPortId P s i).getLsbD j = oneHot k j) →
      (rspHsked P s i = false ∧ answered P s i = [] ∧ delivered P s i = []) ∨
      ∃ k rest, pend ++ (issued P s i).map Prod.fst = k :: rest ∧ rspHsked P s i = true ∧
        answered P s i = [(k, i.oBusIcbRsp k)] ∧ delivered P s i = [i.oBusIcbRsp k] := by
    intro k rest hall hport
    obtain ⟨hanswered, hdel⟩ := rsp_of_port hport
    cases hh : rspHsked P s i
    · rw [hh] at hanswered hdel
      exact .inl ⟨rfl, hanswered, hdel⟩
    · rw [hh] at hanswered hdel
      exact .inr ⟨k, rest, hall, rfl, hanswered, hdel⟩
  -- without a handshake of a target there is none of the master
  have hnone : N ≠ 1 → answered P s i = [] → P.allow0cyclRsp = true → rspHsked P s i = false := by
    intro hN hnil hallow
    by_contra hh
    rw [Bool.not_eq_false, rspHsked, iIcbRspValid, dif_neg hN, manyRspValid, hallow, if_pos rfl,
      Bool.and_eq_true] at hh
    obtain ⟨hpre, hready⟩ := hh
    obtain ⟨j, -, hj⟩ := List.any_eq_true.mp hpre
    rw [Bool.and_eq_true] at hj
    have hmem : (j, i.oBusIcbRsp j) ∈ answered P s i := by
      apply mem_answered
      rw [oBusIcbRspReady, if_neg hN, hj.1, hj.2, iIcbRspReadyPre, hallow, hready]
      rfl
    rw [hnil] at hmem
    cases hmem
  obtain _ | ⟨q, rest⟩ := pend
  · obtain ⟨-, -, hiss⟩ | ⟨k, -, hind, -, hiss⟩ := cmd_cases P s hone
    · -- nothing is outstanding: no target may respond
      have hnil : answered P s i = [] := by
        rw [List.eq_nil_iff_forall_not_mem]
        intro x hx
        have hmem := hans x hx
        rw [hiss] at hmem
        cases hmem
      by_cases hN : N = 1
      · have hpos : 0 < N := by omega
        obtain ⟨hanswered, hdel⟩ := rsp_of_port (P := P) (s := s) (i := i) (k := ⟨0, hpos⟩) (.inl hN)
        cases hh : rspHsked P s i
        · rw [hh] at hdel
          exact .inl ⟨rfl, hnil, hdel⟩
        · rw [hnil, hh] at hanswered
          cases hanswered
      · left
        have hh : rspHsked P s i = false := by
          cases hallow : P.allow0cyclRsp
          · rw [rspHsked, iIcbRspValid, dif_neg hN, manyRspValid, hallow,
              empty_eq (h.resolve_left hN)]
            rfl
          · exact hnone hN hnil hallow
        refine ⟨hh, hnil, ?_⟩
        rw [delivered, hh]
        rfl
    · by_cases hN : N = 1
      · exact hknown k [] (by rw [hiss]; rfl) (.inl hN)
      · cases hallow : P.allow0cyclRsp
        · -- the response waits until the command is in the FIFO
          left
          have hempty := empty_eq (h.resolve_left hN)
          have hh : rspHsked P s i = false := by
            rw [rspHsked, iIcbRspValid, dif_neg hN, manyRspValid, hallow, hempty]
            rfl
          refine ⟨hh, ?_, by rw [delivered, hh]; rfl⟩
          rw [answered, List.flatMap_eq_nil_iff]
          intro j _
          have hno : oBusIcbRspReady P s i j = false := by
            rw [oBusIcbRspReady, if_neg hN, iIcbRspReadyPre, hallow, hempty]
            exact Bool.and_false _
          rw [hno, Bool.and_false]
          rfl
        · exact hknown k [] (by rw [hiss]; rfl)
            (.inr (port_eq hW (h.resolve_left hN) (.inr ⟨rfl, hallow, hind⟩)))
  · refine hknown q _ rfl ?_
    by_cases hN : N = 1
    · exact .inl hN
    · exact .inr (port_eq hW (h.resolve_left hN) (.inl rfl))

/-- The response of the oldest command is taken when its target and the master are ready for it. -/
theorem Outstanding.rspHsked_of_head (h : Outstanding s pend) (hW : N ≤ W)
    (hhead : pend.head? = some k) (hv : i.oBusIcbRspValid k = true) (hr : i.iIcbRspReady = true) :
    rspHsked P s i = true := by
  by_cases hN : N = 1
  · subst hN
    obtain rfl : k = 0 := Subsingleton.elim _ _
    rw [rspHsked, iIcbRspValid, dif_pos rfl, hr, Bool.and_true]
    exact hv
  · have hhas := h.resolve_left hN
    have hempty : rspidFifoEmpty s = false := by
      rw [empty_eq hhas]
      cases pend with
      | nil => cases hhead
      | cons q rest => rfl
    have hpre : iIcbRspValidPre P s i = true := by
      simp only [iIcbRspValidPre, port_eq hW hhas (.inl hhead)]
      rw [any_oneHot (List.mem_finRange k), hv]
    rw [rspHsked, iIcbRspValid, dif_neg hN, manyRspValid, hpre, hempty, hr]
    cases P.allow0cyclRsp <;> rfl

theorem Outstanding.step (h : Outstanding s pend) (hW : N ≤ W)
    (hone : i.iIcbCmdValid = true → ∃ k, Indicates i k)
    (hans : ∀ x ∈ answered P s i, x.1 ∈ pend ++ (issued P s i).map Prod.fst) :
    Outstanding (step P i s)
      (if rspHsked P s i then (pend ++ (issued P s i).map Prod.fst).tail
      else pend ++ (issued P s i).map Prod.fst) := by
  by_cases hN : N = 1
  · exact .inl hN
  right
  have hhas := h.resolve_left hN
  have hempty := empty_eq hhas
  have hwen : rspidFifoWen P s i = cmdHsked P s i := by
    rw [cmdHsked, iIcbCmdReady, dif_neg hN, rspidFifoWen]
  have hren : rspidFifoRen P s i = rspHsked P s i := by
    rw [rspHsked, iIcbRspValid, dif_neg hN, rspidFifoRen]
  have hmap : ((issued P s i).map Prod.fst).map (fun k => BitVec.twoPow W k.val) =
      if cmdHsked P s i then [iSpltIndicId i] else [] := by
    obtain ⟨hno, -, hiss⟩ | ⟨k, hh, hind, -, hiss⟩ := cmd_cases P s hone
    · rw [hiss, hno]
      rfl
    · rw [hiss, hh, if_pos rfl, indicId_eq hW hind]
      rfl
  have hnext := @RspidFifo.Has.step_bypass OUTS W s _ P.cutReady hhas (rspidFifoBypass P s i)
    (cmdHsked P s i) (rspHsked P s i) (iSpltIndicId i) ?_ ?_ ?_
  · rw [GnrlSplt.step, if_neg hN, rspidFifoIValid, rspidFifoOReady, hwen, hren]
    rw [← hmap, ← List.map_append] at hnext
    cases hh : rspHsked P s i
    · rw [hh] at hnext
      exact hnext
    · rw [hh, if_pos rfl, ← List.map_tail] at hnext
      exact hnext
  · intro hcmd
    rw [cmdHsked, iIcbCmdReady, dif_neg hN, manyCmdReady, Bool.and_eq_true, Bool.and_eq_true,
      Bool.not_eq_true', spltStall, Bool.or_eq_false_iff, rspidFifoFull, Bool.not_eq_false', hren]
      at hcmd
    exact hcmd.2.2.2
  · intro hh hnil
    rw [List.map_eq_nil_iff] at hnil
    subst hnil
    obtain ⟨hno, -⟩ | ⟨k, rest, hall, -⟩ := h.rsp_cases hW hone hans
    · exact absurd (hno.symm.trans hh) Bool.false_ne_true
    · have hcmd : cmdHsked P s i = true := by
        obtain ⟨-, -, hiss⟩ | ⟨-, hcmd, -⟩ := cmd_cases P s hone
        · rw [hiss] at hall
          cases hall
        · exact hcmd
      rw [rspidFifoBypass, hempty, hwen, hcmd, hren, hh]
      rw [rspHsked, iIcbRspValid, dif_neg hN, manyRspValid, hempty] at hh
      cases hallow : P.allow0cyclRsp
      · rw [hallow] at hh
        cases hh
      · rfl
  · intro hbyp
    rw [rspidFifoBypass, hempty, hwen, hren, Bool.and_eq_true, Bool.and_eq_true, Bool.and_eq_true,
      List.isEmpty_iff] at hbyp
    obtain ⟨-, ⟨hnil, hcmd⟩, hrsp⟩ := hbyp
    exact ⟨by rw [hnil]; rfl, hcmd, hrsp⟩

/-- All outstanding commands are at one target. -/
def AllSame (pend : List (Fin N)) : Prop := ∀ j ∈ pend, ∀ k ∈ pend, j = k

theorem AllSame.step (h : AllSame pend) (hout : Outstanding s pend) (hW : N ≤ W)
    (hdiff : P.allowDiff = false) (hone : i.iIcbCmdValid = true → ∃ k, Indicates i k) :
    AllSame (pend ++ (issued P s i).map Prod.fst) := by
  obtain ⟨-, -, hiss⟩ | ⟨k, hcmd, hind, -, hiss⟩ := cmd_cases P s hone
  · rw [hiss, List.map_nil, List.append_nil]
    exact h
  · rw [hiss]
    -- the command is for the target of each outstanding one
    have hk : ∀ j ∈ pend, j = k := by
      intro j hj
      by_cases hN : N = 1
      · subst hN
        exact Subsingleton.elim _ _
      · have hhas := hout.resolve_left hN
        obtain _ | ⟨q, rest⟩ := pend
        · cases hj
        · have hdat : s.oDat = BitVec.twoPow W q.val := hhas.oDat_eq
          rw [cmdHsked, iIcbCmdReady, dif_neg hN, manyCmdReady, Bool.and_eq_true, Bool.and_eq_true,
            Bool.not_eq_true', spltStall, hdiff, Bool.or_eq_false_iff, cmdDiffBranch,
            empty_eq hhas, hdat, indicId_eq hW hind] at hcmd
          have heq : BitVec.twoPow W k.val = BitVec.twoPow W q.val := by
            have hno := hcmd.2.2.1
            simpa using hno
          rw [twoPow_inj hW heq]
          exact h j hj q List.mem_cons_self
    intro j hj l hl
    have hall : ∀ x, x ∈ pend ++ [k] → x = k := by
      intro x hx
      obtain hx | hx := List.mem_append.mp hx
      · exact hk x hx
      · exact List.mem_singleton.mp hx
    rw [hall j hj, hall l hl]

/-- The mask of the bypass does not matter for whether the FIFO is full. -/
theorem rspidFifoFull_eq (h : Outstanding s pend) (hN : N ≠ 1) :
    rspidFifoFull P s i = !s.iRdy P.cutReady (rspidFifoOReady P s i) := by
  have hhas := h.resolve_left hN
  rw [rspidFifoFull, rspidFifoOReady, hhas.iRdy_of_bypass]
  intro hbyp
  have hempty := ((Bool.and_eq_true _ _).mp ((Bool.and_eq_true _ _).mp
    ((Bool.and_eq_true _ _).mp hbyp).2).1).1
  rw [empty_eq hhas, List.isEmpty_iff] at hempty
  rw [hempty]
  rfl

/-! ## Runs -/

section
variable (P : Params) (inp : ℕ → In N AW DW USR_W) (s : RspidFifo OUTS W)

def run : ℕ → RspidFifo OUTS W := Lib.stateAt (GnrlSplt.step P) inp s

def acceptedAt (t : ℕ) : List (GnrlIcbCmd AW DW USR_W) := accepted P (run P inp s t) (inp t)

def issuedAt (t : ℕ) : List (Fin N × GnrlIcbCmd AW DW USR_W) := issued P (run P inp s t) (inp t)

def answeredAt (t : ℕ) : List (Fin N × GnrlIcbRsp DW USR_W) := answered P (run P inp s t) (inp t)

def deliveredAt (t : ℕ) : List (GnrlIcbRsp DW USR_W) := delivered P (run P inp s t) (inp t)

/-- The targets whose responses are awaited before cycle `t`, the oldest first. -/
def waiting : ℕ → List (Fin N) :=
  Lib.backlog (fun t => (issuedAt P inp s t).map Prod.fst) (answeredAt P inp s)

/-- What the splitter relies on: a command indicates one target, and a target responds to a command that
it has accepted, at the earliest in the cycle of the handshake. -/
structure Environment : Prop where
  indic : ∀ t, (inp t).iIcbCmdValid = true → ∃ k, Indicates (inp t) k
  answers : ∀ t x, x ∈ answeredAt P inp s t →
    ((Lib.emitted (answeredAt P inp s) 0 t).map Prod.fst).count x.1 <
      ((Lib.emitted (issuedAt P inp s) 0 (t + 1)).map Prod.fst).count x.1

variable {P inp s}

/-- What has been sent to the targets is what they have answered and what waits. -/
def Accounts (P : Params) (inp : ℕ → In N AW DW USR_W) (s : RspidFifo OUTS W) (t : ℕ) : Prop :=
  (Lib.emitted (issuedAt P inp s) 0 t).map Prod.fst =
    (Lib.emitted (answeredAt P inp s) 0 t).map Prod.fst ++ waiting P inp s t

theorem Accounts.responds {t : ℕ} (hacc : Accounts P inp s t)
    (hlt : ∀ x ∈ answeredAt P inp s t, ((Lib.emitted (answeredAt P inp s) 0 t).map Prod.fst).count x.1 <
      ((Lib.emitted (issuedAt P inp s) 0 (t + 1)).map Prod.fst).count x.1) :
    ∀ x ∈ answeredAt P inp s t, x.1 ∈ waiting P inp s t ++ (issuedAt P inp s t).map Prod.fst := by
  intro x hx
  have hlt := hlt x hx
  rw [Lib.emitted_succ (Nat.zero_le t), List.map_append, hacc, List.append_assoc, List.count_append]
    at hlt
  exact List.count_pos_iff.mp (by omega)

theorem Environment.responds (h : Environment P inp s) {t : ℕ} (hacc : Accounts P inp s t) :
    ∀ x ∈ answeredAt P inp s t, x.1 ∈ waiting P inp s t ++ (issuedAt P inp s t).map Prod.fst :=
  hacc.responds (h.answers t)

theorem waiting_succ {t : ℕ} (hacc : Accounts P inp s t) : waiting P inp s (t + 1) =
    (waiting P inp s t ++ (issuedAt P inp s t).map Prod.fst).drop (answeredAt P inp s t).length := by
  apply Lib.backlog_succ
  have hlen := congrArg List.length hacc
  rw [List.length_append, List.length_map, List.length_map] at hlen
  rw [Lib.emitted_map, List.length_map]
  omega

theorem Outstanding.next (hW : N ≤ W) {t : ℕ}
    (hone : (inp t).iIcbCmdValid = true → ∃ k, Indicates (inp t) k)
    (hout : Outstanding (run P inp s t) (waiting P inp s t)) (hacc : Accounts P inp s t)
    (hans : ∀ x ∈ answeredAt P inp s t, x.1 ∈ waiting P inp s t ++ (issuedAt P inp s t).map Prod.fst) :
    Outstanding (GnrlSplt.run P inp s (t + 1)) (waiting P inp s (t + 1)) ∧ Accounts P inp s (t + 1) := by
  have hnext := hout.step hW hone hans
  have hcases := hout.rsp_cases hW hone hans
  have hlen : (answeredAt P inp s t).length =
      if rspHsked P (GnrlSplt.run P inp s t) (inp t) then 1 else 0 := by
    obtain ⟨hno, hanswered, -⟩ | ⟨k, rest, -, hh, hanswered, -⟩ := hcases
    · rw [answeredAt, hanswered, hno]
      rfl
    · rw [answeredAt, hanswered, hh]
      rfl
  constructor
  · rw [waiting_succ hacc, hlen]
    cases hh : rspHsked P (GnrlSplt.run P inp s t) (inp t)
    · rw [hh] at hnext
      exact hnext
    · rw [hh] at hnext
      rw [if_pos rfl, List.drop_one]
      exact hnext
  · rw [Accounts, waiting_succ hacc, Lib.emitted_succ (Nat.zero_le t),
      Lib.emitted_succ (Nat.zero_le t), List.map_append, List.map_append, hacc, List.append_assoc,
      List.append_assoc]
    congr 1
    obtain ⟨-, hanswered, -⟩ | ⟨k, rest, hall, -, hanswered, -⟩ := hcases
    · have hnil : answeredAt P inp s t = [] := hanswered
      rw [hnil]
      rfl
    · have hone : answeredAt P inp s t = [(k, (inp t).oBusIcbRsp k)] := hanswered
      have hall' : waiting P inp s t ++ (issuedAt P inp s t).map Prod.fst = k :: rest := hall
      rw [hone, hall']
      rfl

theorem Outstanding.run (hW : N ≤ W) (h0 : s.IsReset) (henv : Environment P inp s) (t : ℕ) :
    Outstanding (run P inp s t) (waiting P inp s t) ∧ Accounts P inp s t := by
  induction t with
  | zero => exact ⟨.inr (RspidFifo.Has.of_reset h0), rfl⟩
  | succ t ih => exact Outstanding.next hW (henv.indic t) ih.1 ih.2 (henv.responds ih.2)

theorem events (hW : N ≤ W) (h0 : s.IsReset) (henv : Environment P inp s) (t : ℕ) :
    ((issuedAt P inp s t).map Prod.snd = acceptedAt P inp s t ∧ (issuedAt P inp s t).length ≤ 1 ∧
      ∀ x ∈ issuedAt P inp s t, Indicates (inp t) x.1) ∧
    (answeredAt P inp s t).map Prod.snd = deliveredAt P inp s t := by
  obtain ⟨hout, hacc⟩ := Outstanding.run hW h0 henv t
  constructor
  · rw [issuedAt, acceptedAt]
    obtain ⟨-, hnil, hiss⟩ | ⟨k, -, hind, hone, hiss⟩ :=
      cmd_cases P (GnrlSplt.run P inp s t) (henv.indic t)
    · rw [hnil, hiss]
      exact ⟨rfl, Nat.zero_le 1, fun x hx => absurd hx List.not_mem_nil⟩
    · rw [hone, hiss]
      refine ⟨rfl, Nat.le_refl 1, fun x hx => ?_⟩
      rw [List.mem_singleton.mp hx]
      exact hind
  · rw [answeredAt, deliveredAt]
    obtain ⟨-, hanswered, hdel⟩ | ⟨k, rest, -, -, hanswered, hdel⟩ :=
      hout.rsp_cases hW (henv.indic t) (henv.responds hacc)
    · rw [hanswered, hdel]
      rfl
    · rw [hanswered, hdel]
      rfl

theorem AllSame.run (hW : N ≤ W) (h0 : s.IsReset) (henv : Environment P inp s)
    (hdiff : P.allowDiff = false) (t : ℕ) :
    AllSame (waiting P inp s t ++ (issuedAt P inp s t).map Prod.fst) := by
  induction t with
  | zero =>
    have hnil : AllSame (waiting P inp s 0) := fun j hj => absurd hj List.not_mem_nil
    exact hnil.step (Outstanding.run hW h0 henv 0).1 hW hdiff (henv.indic 0)
  | succ t ih =>
    have hsub : AllSame (waiting P inp s (t + 1)) := by
      rw [waiting_succ (Outstanding.run hW h0 henv t).2]
      exact fun j hj k hk => ih j (List.mem_of_mem_drop hj) k (List.mem_of_mem_drop hk)
    exact hsub.step (Outstanding.run hW h0 henv (t + 1)).1 hW hdiff (henv.indic (t + 1))

/-- The targets of the commands, as they are sent and as they answer. -/
theorem conserves_waiting (hW : N ≤ W) (h0 : s.IsReset) (henv : Environment P inp s) :
    Lib.Conserves (fun t => (issuedAt P inp s t).map Prod.fst)
      (fun t => (answeredAt P inp s t).map Prod.fst) (waiting P inp s) := by
  refine ⟨rfl, fun t => ?_⟩
  have ht := (Outstanding.run hW h0 henv t).2
  have hnext := (Outstanding.run hW h0 henv (t + 1)).2
  rw [Accounts, Lib.emitted_succ (Nat.zero_le t), Lib.emitted_succ (Nat.zero_le t),
    List.map_append, List.map_append, ht, List.append_assoc, List.append_assoc] at hnext
  exact List.append_cancel_left hnext

/-- Without outstanding commands the splitter does not stall. -/
theorem Outstanding.spltStall_of_empty (h : Outstanding s ([] : List (Fin N))) (hN : N ≠ 1)
    (i : In N AW DW USR_W) : spltStall P s i = false := by
  have hhas := h.resolve_left hN
  have hempty := empty_eq hhas
  rw [spltStall, cmdDiffBranch, hempty, rspidFifoFull, hhas.iRdy_eq, Lib.accepts, List.map_nil,
    List.length_nil, decide_eq_true hhas.pos]
  cases P.allowDiff <;> rfl

/-- Every accepted command is issued in that cycle and unchanged, to the target it indicates; the master
gets the responses in the order of its commands, each from the target of its command, and so they answer
its commands in order if each target answers its own in order; without `ALLOW_DIFF` all outstanding
commands are at one target; and every command gets its response if its target and the master meet. -/
theorem responses_in_order (hW : N ≤ W) (P : Params) (inp : ℕ → In N AW DW USR_W) (h0 : s.IsReset)
    (henv : Environment P inp s) :
    (∀ t, (issuedAt P inp s t).map Prod.snd = acceptedAt P inp s t ∧
      (issuedAt P inp s t).length ≤ 1 ∧ ∀ x ∈ issuedAt P inp s t, Indicates (inp t) x.1) ∧
    (∀ t, (answeredAt P inp s t).map Prod.snd = deliveredAt P inp s t) ∧
    (∀ t, (Lib.emitted (answeredAt P inp s) 0 t).map Prod.fst <+:
      (Lib.emitted (issuedAt P inp s) 0 t).map Prod.fst) ∧
    (∀ (ans : GnrlIcbCmd AW DW USR_W → GnrlIcbRsp DW USR_W → Prop) (t : ℕ),
      (∀ j, Lib.Answers ans (Lib.ofSource j (Lib.emitted (issuedAt P inp s) 0 t))
        (Lib.ofSource j (Lib.emitted (answeredAt P inp s) 0 t))) →
      Lib.Answers ans (Lib.emitted (acceptedAt P inp s) 0 t)
        (Lib.emitted (deliveredAt P inp s) 0 t)) ∧
    (P.allowDiff = false → ∀ t, AllSame (waiting P inp s t ++ (issuedAt P inp s t).map Prod.fst)) ∧
    ((∀ t k, (waiting P inp s t).head? = some k →
        ∃ u, t ≤ u ∧ (inp u).oBusIcbRspValid k = true ∧ (inp u).iIcbRspReady = true) →
      ∀ t, ∃ u, t ≤ u ∧ (Lib.emitted (acceptedAt P inp s) 0 t).length ≤
        (Lib.emitted (deliveredAt P inp s) 0 u).length) := by
  have hevents := events hW h0 henv
  have hacc : acceptedAt P inp s = fun t => (issuedAt P inp s t).map Prod.snd :=
    funext fun t => (hevents t).1.1.symm
  have hdel : deliveredAt P inp s = fun t => (answeredAt P inp s t).map Prod.snd :=
    funext fun t => (hevents t).2.symm
  have hpre : ∀ t, (Lib.emitted (answeredAt P inp s) 0 t).map Prod.fst <+:
      (Lib.emitted (issuedAt P inp s) 0 t).map Prod.fst := by
    intro t
    rw [(Outstanding.run hW h0 henv t).2]
    exact List.prefix_append _ _
  refine ⟨fun t => (hevents t).1, fun t => (hevents t).2, hpre, fun ans t hans => ?_,
    AllSame.run hW h0 henv, fun hfair t => ?_⟩
  · rw [hacc, hdel, Lib.emitted_map, Lib.emitted_map]
    exact Lib.answers_of_each (hpre t) hans
  · have hcon := conserves_waiting hW h0 henv
    have hmeet : ∀ u k, (waiting P inp s u).head? = some k →
        ((inp u).oBusIcbRspValid k = true ∧ (inp u).iIcbRspReady = true) →
        (answeredAt P inp s u).map Prod.fst ≠ [] := by
      intro u k hhead hboth hnil
      obtain ⟨hout, hu⟩ := Outstanding.run hW h0 henv u
      have hh : rspHsked P (run P inp s u) (inp u) = true :=
        hout.rspHsked_of_head hW hhead hboth.1 hboth.2
      obtain ⟨hno, -⟩ | ⟨q, rest, -, -, hanswered, -⟩ :=
        hout.rsp_cases hW (henv.indic u) (henv.responds hu)
      · exact absurd (hno.symm.trans hh) Bool.false_ne_true
      · rw [answeredAt, hanswered] at hnil
        cases hnil
    obtain ⟨u, htu, hup⟩ := hcon.eventually_of_head hmeet hfair t
    have hlen := hup.length_le
    rw [Lib.emitted_map, Lib.emitted_map, List.length_map, List.length_map] at hlen
    refine ⟨u, htu, ?_⟩
    rw [hacc, hdel, Lib.emitted_map, Lib.emitted_map, List.length_map, List.length_map]
    exact hlen

end
end

/-! A command for target 0 and then one for target 1, which has its response before target 0 has. -/

section

def both (t : ℕ) : In 2 32 32 1 where
  iIcbSpltIndic := if t = 0 then 1#2 else 2#2
  iIcbCmdValid := t == 0 || t == 1
  iIcbCmd := ⟨1#1, BitVec.ofNat 32 t, 0#32, 0#4, 0#2, 0#2, 0#1, 0#1, 2#2, 0#1⟩
  iIcbRspReady := true
  oBusIcbCmdReady _ := true
  oBusIcbRspValid j := (t == 4 && j == 0) || ((t == 3 || t == 4 || t == 5) && j == 1)
  oBusIcbRsp j := ⟨0#1, 0#1, BitVec.ofNat 32 j, 0#1⟩

def diffParams : Params := ⟨false, true, true, true⟩

def idle : RspidFifo 2 2 := .dpGt1 ⟨1#2, 1#2, 1#3, fun _ => 0#2⟩

theorem idle_isReset : idle.IsReset := ⟨by decide, rfl, rfl, rfl⟩

theorem answeredAt_both {t : ℕ} {x : Fin 2 × GnrlIcbRsp 32 1} (hx : x ∈ answeredAt diffParams both idle t) :
    t = 3 ∨ t = 4 ∨ t = 5 := by
  have hvalid : ∃ j, (both t).oBusIcbRspValid j = true := by
    obtain ⟨j, -, hj⟩ := List.mem_flatMap.mp hx
    refine ⟨j, ?_⟩
    by_contra hno
    rw [Bool.eq_false_iff.mpr hno] at hj
    cases hj
  obtain ⟨j, hj⟩ := hvalid
  simp only [both, Bool.or_eq_true, Bool.and_eq_true, beq_iff_eq] at hj
  omega

theorem environment_both : Environment diffParams both idle := by
  refine ⟨fun t ht => ?_, fun t x hx => ?_⟩
  · obtain rfl | rfl : t = 0 ∨ t = 1 := by simpa [both] using ht
    · refine ⟨0, ?_⟩
      unfold Indicates
      decide
    · refine ⟨1, ?_⟩
      unfold Indicates
      decide
  · obtain rfl | rfl | rfl := answeredAt_both hx
    · revert x
      decide
    · revert x
      decide
    · revert x
      decide

theorem responses_in_order_both :
    waiting diffParams both idle 3 = [0, 1] ∧
      (Lib.emitted (answeredAt diffParams both idle) 0 6).map Prod.fst = [0, 1] ∧
      (Lib.emitted (answeredAt diffParams both idle) 0 6).map Prod.fst <+:
        (Lib.emitted (issuedAt diffParams both idle) 0 6).map Prod.fst :=
  ⟨by decide, by decide,
    (responses_in_order (by decide) diffParams both idle_isReset environment_both).2.2.1 6⟩

end
end E203.GnrlSplt
