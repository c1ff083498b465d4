import E203.General.Rspid
import E203.Rtl.GnrlIcbArbt
import Mathlib.Algebra.GroupWithZero.Nat

/-! # The arbiter delivers every response to its owner

The identifier FIFO holds the masters whose commands are outstanding.  A response goes to the first of
them, or, while there is none, to the master whose command passes in the same cycle.

* `sel_cases`: the lowest master with a command is selected alone.
* `Outstanding`: the FIFO holds the identifiers of a list of masters; `Outstanding.cycle`.
* `responses_to_owner`: over a run.
-/

namespace E203.GnrlArbt
set_option autoImplicit false

section
variable {N AW DW USR_W OUTS W : ℕ} {cutReady allow0 : Bool} {s : RspidFifo OUTS W}
  {i : In N AW DW USR_W} {p : Fin N}

/-! ## The grant -/

theorem sel_cases (i : In N AW DW USR_W) :
    (oIcbCmdValidReal i = false ∧ ∀ p, i.iBusIcbCmdValid p = false) ∨
      ∃ p, oIcbCmdValidReal i = true ∧ iBusIcbCmdSel i = oneHot p := by
  have hsel : ∀ p, iBusIcbCmdSel i p = true ↔
      i.iBusIcbCmdValid p = true ∧ ∀ q : Fin N, q.val < p.val → i.iBusIcbCmdValid q = false := by
    intro p
    rw [iBusIcbCmdSel, iBusIcbCmdGrtVec, Bool.and_eq_true, and_comm]
    refine and_congr_right fun _ => ?_
    split
    · rename_i h0
      exact ⟨fun _ q hq => by omega, fun _ => rfl⟩
    · simp only [Bool.not_eq_true', List.any_eq_false, List.mem_finRange, true_imp_iff,
        Bool.and_eq_true, decide_eq_true_iff, not_and, Bool.not_eq_true]
  cases hreal : oIcbCmdValidReal i
  · left
    refine ⟨rfl, fun p => ?_⟩
    rw [oIcbCmdValidReal, List.any_eq_false] at hreal
    exact Bool.not_eq_true _ ▸ hreal p (List.mem_finRange p)
  · right
    -- the lowest one
    obtain ⟨p, hp, hmin⟩ : ∃ p, i.iBusIcbCmdValid p = true ∧
        ∀ q : Fin N, q.val < p.val → i.iBusIcbCmdValid q = false := by
      obtain ⟨q, -, hq⟩ := List.any_eq_true.mp hreal
      by_contra hno
      have hall : ∀ n (q : Fin N), q.val < n → i.iBusIcbCmdValid q = false := by
        intro n
        induction n with
        | zero => exact fun q hq => absurd hq (Nat.not_lt_zero _)
        | succ n ih =>
          intro q hqn
          by_contra hv
          exact hno ⟨q, Bool.not_eq_false _ ▸ hv, fun r hr => ih r (by omega)⟩
      exact absurd (hq.symm.trans (hall N q q.isLt)) Bool.true_eq_false.mp
    refine ⟨p, rfl, funext fun q => ?_⟩
    cases hq : iBusIcbCmdSel i q
    · refine (decide_eq_false fun hqp => ?_).symm
      subst hqp
      exact absurd (hq.symm.trans ((hsel q).mpr ⟨hp, hmin⟩)) Bool.false_ne_true
    · obtain ⟨hv, hlow⟩ := (hsel q).mp hq
      refine (decide_eq_true (Fin.ext ?_)).symm
      by_contra hne
      obtain hlt | hgt := Nat.lt_or_gt_of_ne hne
      · exact absurd (hv.symm.trans (hmin q hlt)) Bool.true_eq_false.mp
      · exact absurd (hp.symm.trans (hlow p hgt)) Bool.true_eq_false.mp

theorem selBus_oneHot {w : ℕ} (p : Fin N) (f : Fin N → BitVec w) : selBus (oneHot p) f = f p := by
  rw [selBus, foldl_oneHot, if_pos (List.mem_finRange p)]
  exact BitVec.zero_or

theorem selOIcbCmd_eq (h : iBusIcbCmdSel i = oneHot p) : selOIcbCmd i = i.iBusIcbCmd p := by
  simp only [selOIcbCmd, h, selBus_oneHot]

/-! ## The handshakes of a cycle -/

section
variable (cutReady allow0 : Bool) (s : RspidFifo OUTS W) (i : In N AW DW USR_W)

/-- The commands that the masters have accepted, with their owners. -/
def accepted : List (Fin N × GnrlIcbCmd AW DW USR_W) :=
  (List.finRange N).flatMap fun p =>
    if i.iBusIcbCmdValid p && iBusIcbCmdReady cutReady allow0 s i p then [(p, i.iBusIcbCmd p)] else []

def issued : List (GnrlIcbCmd AW DW USR_W) :=
  if oIcbCmdValid cutReady allow0 s i && i.oIcbCmdReady then [oIcbCmd i] else []

def answered : List (GnrlIcbRsp DW USR_W) :=
  if i.oIcbRspValid && oIcbRspReady allow0 s i then [i.oIcbRsp] else []

def delivered : List (Fin N × GnrlIcbRsp DW USR_W) :=
  (List.finRange N).flatMap fun p =>
    if iBusIcbRspValid allow0 s i p && i.iBusIcbRspReady p then [(p, iBusIcbRsp i p)] else []

/-- The master whose command is put out. -/
def offered : List (Fin N) :=
  (List.finRange N).flatMap fun p =>
    if iBusIcbCmdSel i p && oIcbCmdValid cutReady allow0 s i then [p] else []

def cmdHsked : Bool := oIcbCmdValid cutReady allow0 s i && i.oIcbCmdReady
def rspHsked : Bool := i.oIcbRspValid && oIcbRspReady allow0 s i

end

theorem real_of_valid (h : oIcbCmdValid cutReady allow0 s i = true) : oIcbCmdValidReal i = true := by
  unfold oIcbCmdValid at h
  split at h
  · exact List.any_eq_true.mpr ⟨_, List.mem_finRange _, h⟩
  · exact ((Bool.and_eq_true _ _).mp h).1

/-- A command that is put out is that of one master. -/
theorem offered_eq (h : oIcbCmdValid cutReady allow0 s i = true) :
    ∃ p, iBusIcbCmdSel i = oneHot p ∧ offered cutReady allow0 s i = [p] := by
  obtain ⟨hno, -⟩ | ⟨p, -, hsel⟩ := sel_cases i
  · exact absurd (hno.symm.trans (real_of_valid h)) Bool.false_ne_true
  · refine ⟨p, hsel, ?_⟩
    rw [offered, hsel, flatMap_oneHot (List.mem_finRange p) (List.nodup_finRange N), h, if_pos rfl]

theorem cmd_handshake (p : Fin N) :
    (i.iBusIcbCmdValid p && iBusIcbCmdReady cutReady allow0 s i p) =
      (iBusIcbCmdSel i p && cmdHsked cutReady allow0 s i) := by
  unfold iBusIcbCmdReady cmdHsked oIcbCmdValid iBusIcbCmdSel
  by_cases hN : N = 1
  · subst hN
    obtain rfl : p = 0 := Subsingleton.elim _ _
    have hgrt : iBusIcbCmdGrtVec i 0 = true := rfl
    rw [if_pos rfl, dif_pos rfl, hgrt]
    change (i.iBusIcbCmdValid 0 && _) = (true && i.iBusIcbCmdValid 0 && (i.iBusIcbCmdValid 0 && _))
    cases i.iBusIcbCmdValid 0 <;> simp
  · rw [if_neg hN, dif_neg hN, oIcbCmdReadyReal, manyCmdValid]
    cases hv : i.iBusIcbCmdValid p
    · simp
    · have hreal : oIcbCmdValidReal i = true := List.any_eq_true.mpr ⟨p, List.mem_finRange p, hv⟩
      rw [hreal]
      cases iBusIcbCmdGrtVec i p <;> cases i.oIcbCmdReady <;> simp

theorem oIcbCmd_eq (h : iBusIcbCmdSel i = oneHot p) : oIcbCmd i = i.iBusIcbCmd p := by
  unfold oIcbCmd
  split
  · rename_i hN
    subst hN
    exact congrArg _ (Subsingleton.elim _ _)
  · exact selOIcbCmd_eq h

theorem cmd_cases (cutReady allow0 : Bool) (s : RspidFifo OUTS W) (i : In N AW DW USR_W) :
    (cmdHsked cutReady allow0 s i = false ∧ accepted cutReady allow0 s i = [] ∧
      issued cutReady allow0 s i = []) ∨
    ∃ p, cmdHsked cutReady allow0 s i = true ∧ iBusIcbCmdSel i = oneHot p ∧
      accepted cutReady allow0 s i = [(p, i.iBusIcbCmd p)] ∧
      issued cutReady allow0 s i = [i.iBusIcbCmd p] := by
  have hacc : accepted cutReady allow0 s i = (List.finRange N).flatMap fun p =>
      if iBusIcbCmdSel i p && cmdHsked cutReady allow0 s i then [(p, i.iBusIcbCmd p)] else [] := by
    simp only [accepted, cmd_handshake]
  have hiss : issued cutReady allow0 s i =
      if cmdHsked cutReady allow0 s i then [oIcbCmd i] else [] := rfl
  cases hh : cmdHsked cutReady allow0 s i
  · left
    rw [hacc, hiss, hh]
    refine ⟨rfl, ?_, rfl⟩
    rw [List.flatMap_eq_nil_iff]
    intro p _
    rw [Bool.and_false]
    rfl
  · right
    obtain ⟨p, hsel, -⟩ := offered_eq ((Bool.and_eq_true _ _).mp hh).1
    refine ⟨p, rfl, hsel, ?_, ?_⟩
    · rw [hacc, hsel, flatMap_oneHot (List.mem_finRange p) (List.nodup_finRange N), hh, if_pos rfl]
    · rw [hiss, hh, if_pos rfl, oIcbCmd_eq hsel]

/-! ## The outstanding commands -/

/-- `pend` are the owners of the outstanding commands; a single master needs no identifiers. -/
def Outstanding (s : RspidFifo OUTS W) (pend : List (Fin N)) : Prop :=
  N = 1 ∨ s.Has (pend.map fun p => BitVec.ofNat W p.val)

variable {pend : List (Fin N)}

theorem toNat_id (hW : N ≤ 2 ^ W) (p : Fin N) : (BitVec.ofNat W p.val).toNat = p.val := by
  rw [BitVec.toNat_ofNat]
  exact Nat.mod_eq_of_lt (Nat.lt_of_lt_of_le p.isLt hW)

theorem atPort_eq {id : BitVec W} (h : id.toNat = p.val) (v : Fin N → Bool) : atPort v id = v p := by
  have hlt : id.toNat < N := by rw [h]; exact p.isLt
  rw [atPort, dif_pos hlt]
  exact congrArg v (Fin.ext h)

/-- The port that a response is for. -/
theorem port_eq (hW : N ≤ 2 ^ W) (h : s.Has (pend.map fun p => BitVec.ofNat W p.val))
    (hhead : pend.head? = some p ∨ pend = [] ∧ allow0 = true ∧ iBusIcbCmdSel i = oneHot p) :
    (oIcbRspPortId allow0 s i).toNat = p.val := by
  rw [oIcbRspPortId, rspidFifoEmpty, h.oVld_eq]
  obtain _ | ⟨q, rest⟩ := pend
  · obtain hh | ⟨-, rfl, hsel⟩ := hhead
    · cases hh
    · rw [List.map_nil, List.isEmpty_nil, Bool.not_true, Bool.not_false, if_pos rfl, if_pos rfl,
        iArbtIndicId, hsel, selBus_oneHot]
      exact toNat_id hW p
  · obtain hh | ⟨hnil, -⟩ := hhead
    · obtain rfl : q = p := Option.some.inj hh
      have hdat : s.oDat = BitVec.ofNat W q.val := h.oDat_eq
      rw [List.map_cons, List.isEmpty_cons, Bool.not_false, Bool.not_true,
        if_neg Bool.false_ne_true, hdat]
      exact toNat_id hW q
    · cases hnil

theorem rspHsked_eq (hN : N ≠ 1) : rspHsked allow0 s i =
    (oIcbRspValidPre allow0 s i && oIcbRspReadyPre allow0 s i) := by
  rw [rspHsked, oIcbRspReady, dif_neg hN, manyRspReady, oIcbRspValidPre]
  cases allow0 <;> cases rspidFifoEmpty s <;> cases i.oIcbRspValid <;> simp

/-- A response that is shown to a master is for the oldest command. -/
theorem Outstanding.sees (h : Outstanding s pend) (hW : N ≤ 2 ^ W)
    (hoff : i.oIcbRspValid = true → pend ≠ [] ∨ oIcbCmdValid cutReady allow0 s i = true)
    (hv : iBusIcbRspValid allow0 s i p = true) :
    (pend ++ offered cutReady allow0 s i).head? = some p := by
  unfold iBusIcbRspValid at hv
  by_cases hN : N = 1
  · rw [if_pos hN] at hv
    subst hN
    obtain hne | hcmd := hoff hv
    · obtain _ | ⟨q, rest⟩ := pend
      · exact absurd rfl hne
      · exact congrArg some (Subsingleton.elim _ _)
    · obtain ⟨q, -, hq⟩ := offered_eq hcmd
      rw [hq]
      obtain _ | ⟨r, rest⟩ := pend <;> exact congrArg some (Subsingleton.elim _ _)
  · rw [if_neg hN, Bool.and_eq_true, decide_eq_true_iff] at hv
    obtain ⟨hpre, hport⟩ := hv
    have hhas := h.resolve_left hN
    obtain _ | ⟨q, rest⟩ := pend
    · -- nothing is outstanding: the response is in the cycle of the command
      have hempty : rspidFifoEmpty s = true := by rw [rspidFifoEmpty, hhas.oVld_eq]; rfl
      rw [oIcbRspValidPre, hempty] at hpre
      cases allow0
      · cases hpre
      · obtain hne | hcmd := hoff hpre
        · exact absurd rfl hne
        · obtain ⟨q, hsel, hq⟩ := offered_eq hcmd
          have hid := port_eq (i := i) (p := q) hW hhas (.inr ⟨rfl, rfl, hsel⟩)
          rw [hq]
          exact congrArg some (Fin.ext (hid.symm.trans hport))
    · have hid : (oIcbRspPortId allow0 s i).toNat = q.val := port_eq hW hhas (.inl rfl)
      exact congrArg some (Fin.ext (hid.symm.trans hport))

/-- A response that is taken goes to the owner of the oldest command. -/
theorem Outstanding.rsp_cases (h : Outstanding s pend) (hW : N ≤ 2 ^ W)
    (hans : rspHsked allow0 s i = true → pend ≠ [] ∨ cmdHsked cutReady allow0 s i = true) :
    (rspHsked allow0 s i = false ∧ answered allow0 s i = [] ∧ delivered allow0 s i = []) ∨
    ∃ p rest, pend ++ (accepted cutReady allow0 s i).map Prod.fst = p :: rest ∧
      rspHsked allow0 s i = true ∧ answered allow0 s i = [i.oIcbRsp] ∧
      delivered allow0 s i = [(p, i.oIcbRsp)] := by
  have hanswered : answered allow0 s i = if rspHsked allow0 s i then [i.oIcbRsp] else [] := rfl
  -- what is delivered when the port is known
  have hdel : ∀ p : Fin N, (N = 1 ∨ (oIcbRspPortId allow0 s i).toNat = p.val) →
      delivered allow0 s i = if rspHsked allow0 s i then [(p, i.oIcbRsp)] else [] := by
    intro p hp
    have hone : ∀ q : Fin N, (iBusIcbRspValid allow0 s i q && i.iBusIcbRspReady q) =
        (oneHot p q && rspHsked allow0 s i) := by
      intro q
      by_cases hN : N = 1
      · subst hN
        obtain rfl : q = p := Subsingleton.elim _ _
        obtain rfl : q = 0 := Subsingleton.elim _ _
        simp [iBusIcbRspValid, rspHsked, oIcbRspReady, oneHot]
      · have hport := hp.resolve_left hN
        rw [iBusIcbRspValid, if_neg hN, rspHsked_eq hN, oIcbRspReadyPre, atPort_eq hport, hport,
          oneHot]
        by_cases hq : q = p
        · subst hq
          simp
        · have hne : p.val ≠ q.val := fun heq => hq (Fin.ext heq.symm)
          simp [hq, hne]
    simp only [delivered, hone, iBusIcbRsp]
    rw [flatMap_oneHot (List.mem_finRange p) (List.nodup_finRange N)]
  cases hh : rspHsked allow0 s i
  · left
    refine ⟨rfl, by rw [hanswered, hh]; rfl, ?_⟩
    rw [delivered, List.flatMap_eq_nil_iff]
    intro p _
    cases hp : iBusIcbRspValid allow0 s i p && i.iBusIcbRspReady p
    · rfl
    · exfalso
      rw [Bool.and_eq_true, iBusIcbRspValid] at hp
      by_cases hN : N = 1
      · subst hN
        obtain rfl : p = 0 := Subsingleton.elim _ _
        rw [if_pos rfl] at hp
        rw [rspHsked, oIcbRspReady, dif_pos rfl, hp.1, Bool.true_and] at hh
        exact absurd (hh.symm.trans hp.2) Bool.false_ne_true
      · rw [if_neg hN, Bool.and_eq_true, decide_eq_true_iff] at hp
        rw [rspHsked_eq hN, hp.1.1, oIcbRspReadyPre, atPort_eq hp.1.2, hp.2] at hh
        cases hh
  · right
    obtain ⟨p, rest, hall, hport⟩ : ∃ p rest,
        pend ++ (accepted cutReady allow0 s i).map Prod.fst = p :: rest ∧
          (N = 1 ∨ (oIcbRspPortId allow0 s i).toNat = p.val) := by
      obtain _ | ⟨q, rest⟩ := pend
      · obtain hne | hcmd := hans hh
        · exact absurd rfl hne
        · obtain ⟨hno, -⟩ | ⟨p, -, hsel, hacc, -⟩ := cmd_cases cutReady allow0 s i
          · exact absurd (hno.symm.trans hcmd) Bool.false_ne_true
          · refine ⟨p, [], by rw [hacc]; rfl, ?_⟩
            by_cases hN : N = 1
            · exact .inl hN
            · right
              have hhas := h.resolve_left hN
              have hempty : rspidFifoEmpty s = true := by rw [rspidFifoEmpty, hhas.oVld_eq]; rfl
              rw [rspHsked_eq hN, oIcbRspValidPre, hempty] at hh
              cases allow0
              · cases hh
              · exact port_eq hW hhas (.inr ⟨rfl, rfl, hsel⟩)
      · refine ⟨q, _, rfl, ?_⟩
        by_cases hN : N = 1
        · exact .inl hN
        · exact .inr (port_eq hW (h.resolve_left hN) (.inl rfl))
    refine ⟨p, rest, hall, rfl, by rw [hanswered, hh]; rfl, ?_⟩
    rw [hdel p hport, hh]
    rfl

/-- The response of the oldest command is taken when its owner is ready. -/
theorem Outstanding.rspHsked_of_head (h : Outstanding s pend) (hW : N ≤ 2 ^ W)
    (hhead : pend.head? = some p) (hv : i.oIcbRspValid = true) (hr : i.iBusIcbRspReady p = true) :
    rspHsked allow0 s i = true := by
  by_cases hN : N = 1
  · subst hN
    obtain rfl : p = 0 := Subsingleton.elim _ _
    rw [rspHsked, oIcbRspReady, dif_pos rfl, hv]
    exact hr
  · have hhas := h.resolve_left hN
    have hport : (oIcbRspPortId allow0 s i).toNat = p.val := port_eq hW hhas (.inl hhead)
    have hempty : rspidFifoEmpty s = false := by
      rw [rspidFifoEmpty, hhas.oVld_eq]
      cases pend with
      | nil => cases hhead
      | cons q rest => rfl
    rw [rspHsked_eq hN, oIcbRspValidPre, oIcbRspReadyPre, atPort_eq hport, hempty, hv, hr]
    cases allow0 <;> rfl

theorem Outstanding.step (h : Outstanding s pend)
    (hans : rspHsked allow0 s i = true → pend ≠ [] ∨ cmdHsked cutReady allow0 s i = true) :
    Outstanding (step cutReady allow0 i s)
      (if rspHsked allow0 s i then (pend ++ (accepted cutReady allow0 s i).map Prod.fst).tail
      else pend ++ (accepted cutReady allow0 s i).map Prod.fst) := by
  obtain hN | hhas := h
  · exact .inl hN
  by_cases hN : N = 1
  · exact .inl hN
  right
  have hwen : rspidFifoWen cutReady allow0 s i = cmdHsked cutReady allow0 s i := by
    rw [cmdHsked, oIcbCmdValid, dif_neg hN, rspidFifoWen]
  have hren : rspidFifoRen allow0 s i = rspHsked allow0 s i := by
    rw [rspHsked, oIcbRspReady, dif_neg hN, rspidFifoRen]
  have hempty : rspidFifoEmpty s = pend.isEmpty := by
    rw [rspidFifoEmpty, hhas.oVld_eq, Bool.not_not, List.isEmpty_map]
  have hmap : ((accepted cutReady allow0 s i).map Prod.fst).map (fun p => BitVec.ofNat W p.val) =
      if cmdHsked cutReady allow0 s i then [iArbtIndicId i] else [] := by
    obtain ⟨hno, hacc, -⟩ | ⟨p, hh, hsel, hacc, -⟩ := cmd_cases cutReady allow0 s i
    · rw [hacc, hno]
      rfl
    · rw [hacc, hh, if_pos rfl, iArbtIndicId, hsel, selBus_oneHot]
      rfl
  have hnext := @RspidFifo.Has.step_bypass OUTS W s _ cutReady hhas
    (rspidFifoBypass cutReady allow0 s i) (cmdHsked cutReady allow0 s i) (rspHsked allow0 s i)
    (iArbtIndicId i) ?_ ?_ ?_
  · rw [GnrlArbt.step, if_neg hN, rspidFifoIValid, rspidFifoOReady, hwen, hren]
    rw [← hmap, ← List.map_append] at hnext
    cases hh : rspHsked allow0 s i
    · rw [hh] at hnext
      exact hnext
    · rw [hh, if_pos rfl, ← List.map_tail] at hnext
      exact hnext
  · intro hcmd
    have hv := ((Bool.and_eq_true _ _).mp hcmd).1
    rw [oIcbCmdValid, dif_neg hN, manyCmdValid, Bool.and_eq_true, rspidFifoFull, Bool.not_not, hren]
      at hv
    exact hv.2
  · intro hh hnil
    rw [List.map_eq_nil_iff] at hnil
    obtain hne | hcmd := hans hh
    · exact absurd hnil hne
    · rw [rspHsked_eq hN, oIcbRspValidPre, hempty, hnil] at hh
      rw [rspidFifoBypass, hempty, hnil, hwen, hcmd, hren, rspHsked_eq hN, oIcbRspValidPre, hempty,
        hnil]
      cases allow0
      · cases hh
      · exact hh
  · intro hbyp
    rw [rspidFifoBypass, hempty, hwen, hren, Bool.and_eq_true, Bool.and_eq_true, Bool.and_eq_true,
      List.isEmpty_iff] at hbyp
    obtain ⟨-, ⟨hnil, hcmd⟩, hrsp⟩ := hbyp
    exact ⟨by rw [hnil]; rfl, hcmd, hrsp⟩

/-- The mask of the bypass does not matter for whether the FIFO is full. -/
theorem rspidFifoFull_eq (h : Outstanding s pend) (hN : N ≠ 1) :
    rspidFifoFull cutReady allow0 s i = !s.iRdy cutReady (rspidFifoOReady cutReady allow0 s i) := by
  have hhas := h.resolve_left hN
  rw [rspidFifoFull, rspidFifoOReady, hhas.iRdy_of_bypass]
  intro hbyp
  have hempty := ((Bool.and_eq_true _ _).mp ((Bool.and_eq_true _ _).mp
    ((Bool.and_eq_true _ _).mp hbyp).2).1).1
  rw [rspidFifoEmpty, hhas.oVld_eq, Bool.not_not, List.isEmpty_iff] at hempty
  exact hempty

/-! ## Runs -/

section
variable (cutReady allow0 : Bool) (inp : ℕ → In N AW DW USR_W) (s : RspidFifo OUTS W)

def run : ℕ → RspidFifo OUTS W := Lib.stateAt (GnrlArbt.step cutReady allow0) inp s

def acceptedAt (t : ℕ) : List (Fin N × GnrlIcbCmd AW DW USR_W) :=
  accepted cutReady allow0 (run cutReady allow0 inp s t) (inp t)

def issuedAt (t : ℕ) : List (GnrlIcbCmd AW DW USR_W) :=
  issued cutReady allow0 (run cutReady allow0 inp s t) (inp t)

def answeredAt (t : ℕ) : List (GnrlIcbRsp DW USR_W) :=
  answered allow0 (run cutReady allow0 inp s t) (inp t)

def deliveredAt (t : ℕ) : List (Fin N × GnrlIcbRsp DW USR_W) :=
  delivered allow0 (run cutReady allow0 inp s t) (inp t)

/-- The masters whose commands wait for their responses before cycle `t`, the oldest first. -/
def waiting : ℕ → List (Fin N) :=
  Lib.backlog (fun t => (acceptedAt cutReady allow0 inp s t).map Prod.fst)
    (answeredAt cutReady allow0 inp s)

/-- What the arbiter relies on: the slave responds to a command that it has accepted, at the earliest
in the cycle of the handshake, and shows a response at the earliest when it is shown the command. -/
structure Slave : Prop where
  answers : ∀ t, answeredAt cutReady allow0 inp s t ≠ [] →
    (Lib.emitted (answeredAt cutReady allow0 inp s) 0 t).length <
      (Lib.emitted (issuedAt cutReady allow0 inp s) 0 (t + 1)).length
  shows : ∀ t, (inp t).oIcbRspValid = true →
    (Lib.emitted (answeredAt cutReady allow0 inp s) 0 t).length <
      (Lib.emitted (issuedAt cutReady allow0 inp s) 0 t).length ∨
    oIcbCmdValid cutReady allow0 (run cutReady allow0 inp s t) (inp t) = true

variable {cutReady allow0} {inp : ℕ → In N AW DW USR_W} {s : RspidFifo OUTS W}

theorem issuedAt_eq (t : ℕ) : issuedAt cutReady allow0 inp s t =
    (acceptedAt cutReady allow0 inp s t).map Prod.snd ∧
      (acceptedAt cutReady allow0 inp s t).length ≤ 1 := by
  rw [issuedAt, acceptedAt]
  obtain ⟨-, hacc, hiss⟩ | ⟨p, -, -, hacc, hiss⟩ :=
    cmd_cases cutReady allow0 (run cutReady allow0 inp s t) (inp t)
  · rw [hacc, hiss]
    exact ⟨rfl, Nat.zero_le 1⟩
  · rw [hacc, hiss]
    exact ⟨rfl, Nat.le_refl 1⟩

theorem length_issued (t : ℕ) : (Lib.emitted (issuedAt cutReady allow0 inp s) 0 t).length =
    (Lib.emitted (fun t => (acceptedAt cutReady allow0 inp s t).map Prod.fst) 0 t).length := by
  have heq : issuedAt cutReady allow0 inp s =
      fun t => (acceptedAt cutReady allow0 inp s t).map Prod.snd :=
    funext fun t => (issuedAt_eq t).1
  rw [heq, Lib.emitted_map, Lib.emitted_map, List.length_map, List.length_map]

theorem Slave.responds (h : Slave cutReady allow0 inp s) {t : ℕ}
    (hh : rspHsked allow0 (run cutReady allow0 inp s t) (inp t) = true) :
    waiting cutReady allow0 inp s t ≠ [] ∨
      cmdHsked cutReady allow0 (run cutReady allow0 inp s t) (inp t) = true := by
  have hans : answeredAt cutReady allow0 inp s t ≠ [] := by
    have heq : answeredAt cutReady allow0 inp s t =
      if rspHsked allow0 (run cutReady allow0 inp s t) (inp t) then [(inp t).oIcbRsp] else [] := rfl
    rw [heq, hh, if_pos rfl]
    exact List.cons_ne_nil _ _
  have hlt := h.answers t hans
  rw [length_issued, Lib.emitted_succ (Nat.zero_le t), List.length_append] at hlt
  obtain ⟨-, hacc, -⟩ | ⟨-, hcmd, -⟩ :=
    cmd_cases cutReady allow0 (run cutReady allow0 inp s t) (inp t)
  · left
    have hnone : acceptedAt cutReady allow0 inp s t = [] := hacc
    rw [hnone, List.map_nil, List.length_nil] at hlt
    exact Lib.backlog_ne_nil hlt
  · exact .inr hcmd

theorem length_answeredAt (t : ℕ) : (answeredAt cutReady allow0 inp s t).length =
    if rspHsked allow0 (run cutReady allow0 inp s t) (inp t) then 1 else 0 := by
  have heq : answeredAt cutReady allow0 inp s t =
    if rspHsked allow0 (run cutReady allow0 inp s t) (inp t) then [(inp t).oIcbRsp] else [] := rfl
  rw [heq]
  split <;> rfl

theorem waiting_succ {t : ℕ} (hle : (Lib.emitted (answeredAt cutReady allow0 inp s) 0 t).length ≤
    (Lib.emitted (fun t => (acceptedAt cutReady allow0 inp s t).map Prod.fst) 0 t).length) :
    waiting cutReady allow0 inp s (t + 1) =
      if rspHsked allow0 (run cutReady allow0 inp s t) (inp t) then
        (waiting cutReady allow0 inp s t ++ (acceptedAt cutReady allow0 inp s t).map Prod.fst).tail
      else waiting cutReady allow0 inp s t ++ (acceptedAt cutReady allow0 inp s t).map Prod.fst := by
  rw [waiting, Lib.backlog_succ hle, length_answeredAt]
  split
  · rw [List.drop_one]
  · rw [List.drop_zero]

theorem Outstanding.run (h0 : s.IsReset) (hslave : Slave cutReady allow0 inp s) (t : ℕ) :
    Outstanding (run cutReady allow0 inp s t) (waiting cutReady allow0 inp s t) ∧
      (Lib.emitted (answeredAt cutReady allow0 inp s) 0 t).length ≤
        (Lib.emitted (fun t => (acceptedAt cutReady allow0 inp s t).map Prod.fst) 0 t).length := by
  induction t with
  | zero => exact ⟨.inr (RspidFifo.Has.of_reset h0), Nat.le_refl _⟩
  | succ t ih =>
    obtain ⟨hout, hle⟩ := ih
    constructor
    · rw [waiting_succ hle]
      exact hout.step hslave.responds
    · by_cases hnil : answeredAt cutReady allow0 inp s t = []
      · rw [Lib.emitted_succ (Nat.zero_le t), Lib.emitted_succ (Nat.zero_le t), hnil,
          List.append_nil, List.length_append]
        exact Nat.le_trans hle (Nat.le_add_right _ _)
      · have hlt := hslave.answers t hnil
        have hone : (answeredAt cutReady allow0 inp s t).length ≤ 1 := by
          rw [length_answeredAt]
          split
          · exact Nat.le_refl 1
          · exact Nat.zero_le 1
        rw [length_issued] at hlt
        rw [Lib.emitted_succ (Nat.zero_le t), List.length_append]
        omega

/-- The masters that wait are a channel: their commands enter, their responses leave. -/
theorem conserves_waiting (hW : N ≤ 2 ^ W) (h0 : s.IsReset) (hslave : Slave cutReady allow0 inp s) :
    Lib.Conserves (fun t => (acceptedAt cutReady allow0 inp s t).map Prod.fst)
      (fun t => (deliveredAt cutReady allow0 inp s t).map Prod.fst) (waiting cutReady allow0 inp s) ∧
    ∀ t, (deliveredAt cutReady allow0 inp s t).map Prod.snd = answeredAt cutReady allow0 inp s t := by
  have hcases := fun t =>
    (Outstanding.run h0 hslave t).1.rsp_cases (i := inp t) hW hslave.responds
  refine ⟨⟨rfl, fun t => ?_⟩, fun t => ?_⟩
  · rw [waiting_succ (Outstanding.run h0 hslave t).2, deliveredAt]
    obtain ⟨hno, -, hdel⟩ | ⟨p, rest, hall, hh, -, hdel⟩ := hcases t
    · rw [hno, hdel]
      rfl
    · have hall' : waiting cutReady allow0 inp s t ++
          (acceptedAt cutReady allow0 inp s t).map Prod.fst = p :: rest := hall
      rw [hh, hdel, hall']
      rfl
  · rw [deliveredAt, answeredAt]
    obtain ⟨-, hans, hdel⟩ | ⟨p, rest, -, -, hans, hdel⟩ := hcases t
    · rw [hans, hdel]
      rfl
    · rw [hans, hdel]
      rfl

/-- Every accepted command is issued in that cycle and unchanged; every response that is taken from the
slave is delivered in that cycle, the `k`-th one to the owner of the `k`-th command; only the owner of
the oldest command sees a response; and every command gets its response if the slave's response and its
owner meet. -/
theorem responses_to_owner (hW : N ≤ 2 ^ W) (cutReady allow0 : Bool) (inp : ℕ → In N AW DW USR_W)
    (h0 : s.IsReset) (hslave : Slave cutReady allow0 inp s) :
    (∀ t, issuedAt cutReady allow0 inp s t = (acceptedAt cutReady allow0 inp s t).map Prod.snd ∧
      (acceptedAt cutReady allow0 inp s t).length ≤ 1) ∧
    (∀ t, (deliveredAt cutReady allow0 inp s t).map Prod.snd = answeredAt cutReady allow0 inp s t) ∧
    (∀ t, Lib.emitted (deliveredAt cutReady allow0 inp s) 0 t =
      ((Lib.emitted (acceptedAt cutReady allow0 inp s) 0 t).map Prod.fst).zip
        (Lib.emitted (answeredAt cutReady allow0 inp s) 0 t)) ∧
    (∀ t p, iBusIcbRspValid allow0 (run cutReady allow0 inp s t) (inp t) p = true →
      (waiting cutReady allow0 inp s t ++
        offered cutReady allow0 (run cutReady allow0 inp s t) (inp t)).head? = some p) ∧
    ((∀ t p, (waiting cutReady allow0 inp s t).head? = some p →
        ∃ u, t ≤ u ∧ (inp u).oIcbRspValid = true ∧ (inp u).iBusIcbRspReady p = true) →
      ∀ t, ∃ u, t ≤ u ∧ (Lib.emitted (acceptedAt cutReady allow0 inp s) 0 t).length ≤
        (Lib.emitted (deliveredAt cutReady allow0 inp s) 0 u).length) := by
  obtain ⟨hcon, hsnd⟩ := conserves_waiting hW h0 hslave
  refine ⟨issuedAt_eq, hsnd, fun t => ?_, fun t p hp => ?_, fun hfair t => ?_⟩
  · rw [hcon.zip_eq hsnd t, Lib.emitted_map]
  · refine (Outstanding.run h0 hslave t).1.sees hW (fun hv => ?_) hp
    obtain hlt | hcmd := hslave.shows t hv
    · rw [length_issued] at hlt
      exact .inl (Lib.backlog_ne_nil hlt)
    · exact .inr hcmd
  · have hmeet : ∀ u p, (waiting cutReady allow0 inp s u).head? = some p →
        ((inp u).oIcbRspValid = true ∧ (inp u).iBusIcbRspReady p = true) →
        (deliveredAt cutReady allow0 inp s u).map Prod.fst ≠ [] := by
      intro u p hhead hboth hnil
      have hout := (Outstanding.run h0 hslave u).1
      have hh : rspHsked allow0 (run cutReady allow0 inp s u) (inp u) = true :=
        hout.rspHsked_of_head hW hhead hboth.1 hboth.2
      obtain ⟨hno, -⟩ | ⟨q, rest, -, -, -, hdel⟩ :=
        hout.rsp_cases (i := inp u) hW hslave.responds
      · exact absurd (hno.symm.trans hh) Bool.false_ne_true
      · rw [deliveredAt, hdel] at hnil
        cases hnil
    obtain ⟨u, htu, hpre⟩ := hcon.eventually_of_head hmeet hfair t
    have hlen := hpre.length_le
    rw [Lib.emitted_map, Lib.emitted_map, List.length_map, List.length_map] at hlen
    exact ⟨u, htu, hlen⟩

end
end

/-! Both masters have a command in the first cycle; the slave answers when both are outstanding. -/

section

def both (t : ℕ) : In 2 32 32 1 where
  iBusIcbCmdValid p := t == 0 || (t == 1 && p == 1)
  iBusIcbCmd p := ⟨1#1, BitVec.ofNat 32 p, 0#32, 0#4, 0#2, 0#2, 0#1, 0#1, 2#2, 0#1⟩
  iBusIcbRspReady _ := true
  oIcbCmdReady := true
  oIcbRspValid := t == 2 || t == 4
  oIcbRsp := ⟨0#1, 0#1, BitVec.ofNat 32 t, 0#1⟩

def idle : RspidFifo 2 1 := .dpGt1 ⟨1#2, 1#2, 1#3, fun _ => 0#1⟩

theorem idle_isReset : idle.IsReset := ⟨by decide, rfl, rfl, rfl⟩

theorem slave_both : Slave false true both idle := by
  have hrsp : ∀ t, (both t).oIcbRspValid = true → t = 2 ∨ t = 4 := by
    intro t ht
    simpa [both] using ht
  refine ⟨fun t ht => ?_, fun t ht => ?_⟩
  · obtain rfl | rfl : t = 2 ∨ t = 4 := by
      apply hrsp
      by_contra hno
      apply ht
      rw [answeredAt, answered, Bool.eq_false_iff.mpr hno]
      rfl
    · decide
    · decide
  · left
    obtain rfl | rfl := hrsp t ht
    · decide
    · decide

/-- The command of master 1 waits for that of master 0; the responses go to master 0 and to master 1. -/
theorem responses_to_owner_both :
    (waiting false true both idle 2 = [0, 1]) ∧
      (Lib.emitted (deliveredAt false true both idle) 0 5).map Prod.fst = [0, 1] ∧
      Lib.emitted (deliveredAt false true both idle) 0 5 =
        ((Lib.emitted (acceptedAt false true both idle) 0 5).map Prod.fst).zip
          (Lib.emitted (answeredAt false true both idle) 0 5) :=
  ⟨by decide, by decide, (responses_to_owner (by decide) false true both idle_isReset slave_both).2.2.1 5⟩

end
end E203.GnrlArbt
