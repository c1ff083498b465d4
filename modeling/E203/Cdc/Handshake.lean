import E203.Rtl.GnrlCdc

/-! # The four phases of the handshake

The valid flag of the transmitter and the ready flag of the receiver each travel to the other side
through a synchroniser and one more flip-flop.  At any time at most one of the two is on its way: only
the side that waits for it moves, and an edge of the other leaves that side as it is.

* `Front`: how far the new value of a flag has come; `Front.step`: one edge.
* `TxAt`, `RxAt`: the flags of one side and what it sees of the other's.
* `Phase`: idle, request, acknowledge, release, settle; `Phase.step`: an event keeps it.
-/

namespace E203.Cdc
set_option autoImplicit false

/-! ## What a synchroniser has seen -/

section
variable {DP : ℕ} {b last : Bool} {k : ℕ} {s : Sync DP}

/-- The first `k` registers of a synchroniser and of the flip-flop behind it hold `b`, the others the
value before it. -/
structure Front (b : Bool) (k : ℕ) (s : Sync DP) (last : Bool) : Prop where
  stage : ∀ i, s i = if i.val < k then b else !b
  behind : last = if DP < k then b else !b

theorem Front.dout_of_le [NeZero DP] (h : Front b k s last) (hk : DP ≤ k) : s.dout = b := by
  have hpos := Nat.pos_of_neZero DP
  have hlt : DP - 1 < k := by omega
  rw [Sync.dout, h.stage]
  exact if_pos hlt

theorem Front.dout_of_lt [NeZero DP] (h : Front b k s last) (hk : k < DP) : s.dout = !b := by
  have hlt : ¬DP - 1 < k := by omega
  rw [Sync.dout, h.stage]
  exact if_neg hlt

theorem Front.last_of_lt (h : Front b k s last) (hk : DP < k) : last = b := by
  rw [h.behind, if_pos hk]

theorem Front.last_of_le (h : Front b k s last) (hk : k ≤ DP) : last = !b := by
  rw [h.behind, if_neg (by omega)]

theorem Front.step [NeZero DP] (h : Front b k s last) : Front b (k + 1) (s.step b) s.dout where
  stage i := by
    by_cases h0 : i.val = 0
    · rw [Sync.step, if_pos h0, if_pos (by omega)]
    · rw [Sync.step, if_neg h0, h.stage]
      have hiff : i.val - 1 < k ↔ i.val < k + 1 := by omega
      exact if_congr hiff rfl rfl
  behind := by
    obtain hlt | hle := Nat.lt_or_ge k DP
    · rw [h.dout_of_lt hlt, if_neg (by omega)]
    · rw [h.dout_of_le hle, if_pos (by omega)]

theorem Front.nedge [NeZero DP] (h : Front b k s last) : (!s.dout && last) = (!b && k == DP) := by
  obtain hlt | rfl | hgt := Nat.lt_trichotomy k DP
  · rw [h.dout_of_lt hlt, h.last_of_le (by omega), beq_eq_false_iff_ne.mpr (by omega)]
    cases b <;> rfl
  · rw [h.dout_of_le (Nat.le_refl k), h.last_of_le (Nat.le_refl k), beq_self_eq_true]
    cases b <;> rfl
  · rw [h.dout_of_le (by omega), h.last_of_lt hgt, beq_eq_false_iff_ne.mpr (by omega)]
    cases b <;> rfl

theorem Front.all (h : Front b k s last) (hk : DP < k) (i : Fin DP) : s i = b := by
  have hi := i.isLt
  rw [h.stage, if_pos (by omega)]

theorem Front.through (h : Front b k s last) (hk : DP < k) : Front b (DP + 1) s last where
  stage i := by rw [h.all hk, if_pos (by have hi := i.isLt; omega)]
  behind := by rw [h.last_of_lt hk, if_pos (Nat.lt_succ_self DP)]

theorem Front.turn (h : Front b k s last) (hk : DP < k) : Front (!b) 0 s last where
  stage i := by rw [h.all hk, if_neg (Nat.not_lt_zero _), Bool.not_not]
  behind := by rw [h.last_of_lt hk, if_neg (Nat.not_lt_zero _), Bool.not_not]

end

/-! ## The two sides -/

section
variable {DW DP : ℕ} [NeZero DP] {vld nrdy rdy b : Bool} {k : ℕ}

structure TxAt (s : CdcTx.State DW DP) (vld nrdy b : Bool) (k : ℕ) : Prop where
  vldR : s.vldR = vld
  nrdyR : s.nrdyR = nrdy
  front : Front b k s.syncDat s.oRdySyncR

structure RxAt (s : CdcRx.State DW DP) (rdy b : Bool) (k : ℕ) : Prop where
  iRdyR : s.iRdyR = rdy
  front : Front b k s.syncDat s.iVldSyncR

variable {s : CdcTx.State DW DP} {i : CdcTx.In DW} {r : CdcRx.State DW DP} {j : CdcRx.In DW}

/-- The two flags of the transmitter after an edge, by what the edge sets and clears. -/
theorem TxAt.edge (h : TxAt s vld nrdy b k) (hi : i.oRdyA = b) :
    TxAt (CdcTx.step i s) (CdcTx.vldSet s i || (vld && !CdcTx.vldClr s))
      (CdcTx.vldSet s i || (nrdy && !CdcTx.nrdyClr s)) b (k + 1) where
  vldR := by
    have hv : (CdcTx.step i s).vldR =
      dfflr (CdcTx.vldSet s i || CdcTx.vldClr s) (CdcTx.vldSet s i || !CdcTx.vldClr s) s.vldR := rfl
    rw [hv, h.vldR]
    cases CdcTx.vldSet s i <;> cases CdcTx.vldClr s <;> simp
  nrdyR := by
    have hn : (CdcTx.step i s).nrdyR =
      dfflr (CdcTx.vldSet s i || CdcTx.nrdyClr s) (CdcTx.vldSet s i || !CdcTx.nrdyClr s) s.nrdyR := rfl
    rw [hn, h.nrdyR]
    cases CdcTx.vldSet s i <;> cases CdcTx.nrdyClr s <;> simp
  front := by
    have hf : (CdcTx.step i s).syncDat = s.syncDat.step b := by rw [← hi]; rfl
    rw [hf]
    exact h.front.step

theorem RxAt.edge (h : RxAt r rdy b k) (hj : j.iVldA = b) :
    RxAt (CdcRx.step j r) (CdcRx.iRdySet r || (rdy && !CdcRx.iRdyClr r)) b (k + 1) where
  iRdyR := by
    have hr : (CdcRx.step j r).iRdyR =
      dfflr (CdcRx.iRdySet r || CdcRx.iRdyClr r) (CdcRx.iRdySet r || !CdcRx.iRdyClr r) r.iRdyR := rfl
    rw [hr, h.iRdyR]
    cases CdcRx.iRdySet r <;> cases CdcRx.iRdyClr r <;> simp
  front := by
    have hf : (CdcRx.step j r).syncDat = r.syncDat.step b := by rw [← hj]; rfl
    rw [hf]
    exact h.front.step

/-! ### The transmitter in each phase -/

theorem TxAt.vldSet_eq (h : TxAt s vld true b k) :
    CdcTx.vldSet s i = (i.iVld && (!b && k == DP)) := by
  rw [CdcTx.vldSet, CdcTx.iRdy, h.nrdyR, CdcTx.nrdyClr, CdcTx.oRdyNedge, CdcTx.oRdySync, h.front.nedge]
  rfl

theorem TxAt.nrdyClr_eq (h : TxAt s vld nrdy b k) : CdcTx.nrdyClr s = (!b && k == DP) := by
  rw [CdcTx.nrdyClr, CdcTx.oRdyNedge, CdcTx.oRdySync, h.front.nedge]

theorem TxAt.busy (h : TxAt s vld true b k) (hi : i.oRdyA = b) (hb : (!b && k == DP) = false) :
    CdcTx.vldSet s i = false ∧
      TxAt (CdcTx.step i s) (vld && !CdcTx.oRdySync s) true b (k + 1) := by
  have hset : CdcTx.vldSet s i = false := by rw [h.vldSet_eq, hb, Bool.and_false]
  have he := h.edge hi
  rw [hset, h.nrdyClr_eq, hb, CdcTx.vldClr, CdcTx.oVld, h.vldR] at he
  refine ⟨hset, ?_⟩
  cases vld
  · exact he
  · exact he

theorem TxAt.wait (h : TxAt s vld true b (DP + 1)) (hi : i.oRdyA = b) (hvb : (vld && b) = false) :
    CdcTx.vldSet s i = false ∧ TxAt (CdcTx.step i s) vld true b (DP + 1) := by
  have hne : (!b && DP + 1 == DP) = false := by
    rw [beq_eq_false_iff_ne.mpr (Nat.succ_ne_self DP), Bool.and_false]
  obtain ⟨hset, he⟩ := h.busy hi hne
  have hv : (vld && !CdcTx.oRdySync s) = vld := by
    rw [CdcTx.oRdySync, h.front.dout_of_le (Nat.le_succ DP)]
    revert hvb
    cases vld <;> cases b <;> decide
  rw [hv] at he
  exact ⟨hset, he.vldR, he.nrdyR, he.front.through (by omega)⟩

theorem TxAt.take (h : TxAt s false nrdy false k) (hi : i.oRdyA = false)
    (hk : nrdy = true ∧ k = DP ∨ nrdy = false ∧ k = DP + 1) :
    CdcTx.vldSet s i = i.iVld ∧ TxAt (CdcTx.step i s) i.iVld i.iVld false (DP + 1) := by
  have hset : CdcTx.vldSet s i = i.iVld := by
    obtain ⟨rfl, rfl⟩ | ⟨rfl, -⟩ := hk
    · rw [h.vldSet_eq, beq_self_eq_true]
      exact Bool.and_true _
    · rw [CdcTx.vldSet, CdcTx.iRdy, h.nrdyR]
      exact Bool.and_true _
  have hn : (nrdy && !CdcTx.nrdyClr s) = false := by
    obtain ⟨rfl, rfl⟩ | ⟨rfl, -⟩ := hk
    · rw [h.nrdyClr_eq, beq_self_eq_true]
      rfl
    · rfl
  have he := h.edge hi
  rw [hset, hn, Bool.false_and, Bool.or_false] at he
  have hlt : DP < k + 1 := by omega
  exact ⟨hset, he.vldR, he.nrdyR, he.front.through hlt⟩

/-! ### The receiver in each phase -/

theorem RxAt.iRdyClr_eq (h : RxAt r rdy b k) : CdcRx.iRdyClr r = (!b && k == DP) := by
  rw [CdcRx.iRdyClr, CdcRx.iVldSyncNedge, CdcRx.iVldSync, h.front.nedge]

theorem RxAt.wait (h : RxAt r rdy b k) (hj : j.iVldA = b) (hset : CdcRx.iRdySet r = false)
    (hb : (!b && k == DP) = false) : RxAt (CdcRx.step j r) rdy b (k + 1) := by
  have he := h.edge hj
  rw [hset, h.iRdyClr_eq, hb] at he
  cases rdy
  · exact he
  · exact he

theorem RxAt.iRdySet_of_rdy (h : RxAt r true b k) : CdcRx.iRdySet r = false := by
  rw [CdcRx.iRdySet, h.iRdyR]
  exact Bool.and_false _

theorem RxAt.iRdySet_of_low (h : RxAt r rdy false k) (hk : DP ≤ k) : CdcRx.iRdySet r = false := by
  rw [CdcRx.iRdySet, CdcRx.iVldSync, h.front.dout_of_le hk, Bool.and_false, Bool.false_and]

/-- The request that it answers has passed the synchroniser. -/
theorem RxAt.le_of_iRdySet (h : RxAt r rdy true k) (hset : CdcRx.iRdySet r = true) : DP ≤ k := by
  by_contra hlt
  have hd := h.front.dout_of_lt (by omega)
  rw [CdcRx.iRdySet, CdcRx.iVldSync, hd, Bool.not_true, Bool.and_false] at hset
  exact Bool.false_ne_true hset

end

/-! ## The pair -/

section
variable {DW TX_DP RX_DP : ℕ} [NeZero TX_DP] [NeZero RX_DP]

/-- Where the handshake is; `P` is what is known of a request that has come to register `k`. -/
inductive Phase (P : ℕ → Prop) (s : State DW TX_DP RX_DP) : Prop
  | idle : TxAt s.tx false false false (TX_DP + 1) → RxAt s.rx false false (RX_DP + 1) → Phase P s
  /-- The valid flag is on its way, or the buffer of the receiver is full. -/
  | request (k : ℕ) : P k → TxAt s.tx true true false (TX_DP + 1) → RxAt s.rx false true k → Phase P s
  /-- The receiver has the word; the transmitter does not know yet. -/
  | acknowledge (k : ℕ) : k ≤ TX_DP → TxAt s.tx true true true k → RxAt s.rx true true (RX_DP + 1) →
      Phase P s
  | release (k : ℕ) : k ≤ RX_DP → TxAt s.tx false true true (TX_DP + 1) → RxAt s.rx true false k →
      Phase P s
  | settle (k : ℕ) : k ≤ TX_DP → TxAt s.tx false true false k → RxAt s.rx false false (RX_DP + 1) →
      Phase P s

/-- The word that the transmitter still has to pass on. -/
def txWord (s : State DW TX_DP RX_DP) : List (BitVec DW) :=
  if s.tx.vldR && !s.rx.iRdyR then [s.tx.datR] else []

/-- The word in the buffer of the receiver. -/
def rxWord (s : State DW TX_DP RX_DP) : List (BitVec DW) :=
  if s.rx.bufVldR then [s.rx.bufDatR] else []

/-- The word that the receiver takes from the data bus. -/
def sampled (s : State DW TX_DP RX_DP) (i : In DW) : List (BitVec DW) :=
  if samples s i then [s.tx.datR] else []

variable {s : State DW TX_DP RX_DP} {i : In DW} {P Q : ℕ → Prop} {vld rdy b : Bool} {k : ℕ}

omit [NeZero TX_DP] [NeZero RX_DP] in
theorem txWord_of (ht : s.tx.vldR = vld) (hr : s.rx.iRdyR = rdy) :
    txWord s = if vld && !rdy then [s.tx.datR] else [] := by
  rw [txWord, ht, hr]

omit [NeZero TX_DP] in
theorem samples_of_iRdySet (h : CdcRx.iRdySet s.rx = false) : samples s i = false := by
  rw [samples, CdcRx.bufDatEna, h, Bool.and_false]

/-! ### The side that waits -/

theorem tx_waits (h : TxAt s.tx vld true b (TX_DP + 1)) (hr : s.rx.iRdyR = b)
    (hvb : (vld && b) = false) :
    accepted s i = [] ∧ TxAt (step i s).tx vld true b (TX_DP + 1) ∧
      (step i s).tx.datR = s.tx.datR := by
  obtain ⟨hset, hn⟩ := h.wait (i := txIn s i) hr hvb
  refine ⟨?_, ?_, ?_⟩
  · rw [accepted, hset, Bool.and_false]
    rfl
  · rw [step]
    cases i.txClk
    · exact h
    · exact hn
  · rw [step]
    cases i.txClk
    · rfl
    · exact congrArg (fun c => dfflr c (txIn s i).iDat s.tx.datR) hset

theorem rx_waits (h : RxAt s.rx rdy b (RX_DP + 1)) (ht : s.tx.vldR = b)
    (hset : CdcRx.iRdySet s.rx = false) : RxAt (step i s).rx rdy b (RX_DP + 1) := by
  have hne : (!b && RX_DP + 1 == RX_DP) = false := by
    rw [beq_eq_false_iff_ne.mpr (Nat.succ_ne_self RX_DP), Bool.and_false]
  have hn := h.wait (j := rxIn s i) ht hset hne
  rw [step]
  cases i.rxClk
  · exact h
  · exact ⟨hn.iRdyR, hn.front.through (by omega)⟩

/-! ### The side that moves -/

/-- The transmitter may take a word. -/
theorem tx_takes {nrdy : Bool} (h : TxAt s.tx false nrdy false k) (hr : s.rx.iRdyR = false)
    (hk : nrdy = true ∧ k = TX_DP ∨ nrdy = false ∧ k = TX_DP + 1) :
    (accepted s i = [] ∧ (TxAt (step i s).tx false false false (TX_DP + 1) ∨
      TxAt (step i s).tx false nrdy false k)) ∨
      (accepted s i = [i.iDat] ∧ TxAt (step i s).tx true true false (TX_DP + 1) ∧
        (step i s).tx.datR = i.iDat) := by
  obtain ⟨hset, hn⟩ := h.take (i := txIn s i) hr hk
  rw [accepted, step, hset]
  cases hc : i.txClk with
  | false => exact .inl ⟨rfl, .inr h⟩
  | true =>
    have hv : (txIn s i).iVld = i.iVld := rfl
    cases hi : i.iVld with
    | false =>
      rw [hv, hi] at hn
      exact .inl ⟨by rw [hv, hi]; rfl, .inl hn⟩
    | true =>
      rw [hv, hi] at hn hset
      refine .inr ⟨by rw [hv, hi]; rfl, hn, ?_⟩
      exact congrArg (fun c => dfflr c (txIn s i).iDat s.tx.datR) hset

/-- What an event does to the handshake and to the word of the transmitter. -/
structure Moves (Q : ℕ → Prop) (s : State DW TX_DP RX_DP) (i : In DW) : Prop where
  phase : Phase Q (step i s)
  word : txWord s ++ accepted s i = sampled s i ++ txWord (step i s)

omit [NeZero TX_DP] in
theorem sampled_of_iRdySet (h : CdcRx.iRdySet s.rx = false) : sampled s i = [] := by
  rw [sampled, samples_of_iRdySet h]
  rfl

/-- Idle, or the falling ready flag has come through: a word may be taken. -/
theorem moves_take {nrdy : Bool} (ht : TxAt s.tx false nrdy false k)
    (hr : RxAt s.rx false false (RX_DP + 1))
    (hk : nrdy = true ∧ k = TX_DP ∨ nrdy = false ∧ k = TX_DP + 1)
    (hstay : TxAt (step i s).tx false nrdy false k → RxAt (step i s).rx false false (RX_DP + 1) →
      Phase Q (step i s)) (hnew : accepted s i ≠ [] → Q 0) : Moves Q s i := by
  have hset := hr.iRdySet_of_low (Nat.le_succ RX_DP)
  have hr' := rx_waits (i := i) hr ht.vldR hset
  have hw := txWord_of ht.vldR hr.iRdyR
  have hs := sampled_of_iRdySet (i := i) hset
  obtain ⟨ha, ht'⟩ | ⟨ha, ht', hd⟩ := tx_takes (i := i) ht hr.iRdyR hk
  · refine ⟨?_, ?_⟩
    · exact ht'.elim (fun ht' => .idle ht' hr') fun ht' => hstay ht' hr'
    · have hv : (step i s).tx.vldR = false := ht'.elim TxAt.vldR TxAt.vldR
      rw [hw, ha, hs, txWord_of hv hr'.iRdyR]
      rfl
  · refine ⟨?_, ?_⟩
    · refine .request 0 (hnew ?_) ht' ⟨hr'.iRdyR, hr'.front.turn (Nat.lt_succ_self RX_DP)⟩
      rw [ha]
      exact List.cons_ne_nil _ _
    · rw [hw, ha, hs, txWord_of ht'.vldR hr'.iRdyR, hd]
      rfl

theorem moves_request (hP : P k) (ht : TxAt s.tx true true false (TX_DP + 1))
    (hr : RxAt s.rx false true k)
    (hold : P k → accepted s i = [] → samples s i = false → Q (if i.rxClk then k + 1 else k)) :
    Moves Q s i := by
  obtain ⟨ha, ht', hd⟩ := tx_waits (i := i) ht hr.iRdyR rfl
  have hw := txWord_of ht.vldR hr.iRdyR
  have hne : (!true && k == RX_DP) = false := rfl
  cases hset : CdcRx.iRdySet s.rx with
  | false =>
    have hs := samples_of_iRdySet (i := i) hset
    have hr' : RxAt (step i s).rx false true (if i.rxClk then k + 1 else k) := by
      rw [step]
      cases i.rxClk
      · exact hr
      · exact hr.wait (j := rxIn s i) ht.vldR hset hne
    refine ⟨.request _ (hold hP ha hs) ht' hr', ?_⟩
    rw [hw, ha, sampled, hs, txWord_of ht'.vldR hr'.iRdyR, hd]
    rfl
  | true =>
    have hk := hr.le_of_iRdySet hset
    cases hc : i.rxClk with
    | false =>
      have hs : samples s i = false := by rw [samples, hc, Bool.false_and]
      have hr' : RxAt (step i s).rx false true k := by
        rw [step, hc]
        exact hr
      have hQ := hold hP ha hs
      rw [hc] at hQ
      refine ⟨.request k hQ ht' hr', ?_⟩
      rw [hw, ha, sampled, hs, txWord_of ht'.vldR hr'.iRdyR, hd]
      rfl
    | true =>
      have hs : samples s i = true := by rw [samples, hc, CdcRx.bufDatEna, hset, Bool.true_and]
      have he := hr.edge (j := rxIn s i) ht.vldR
      rw [hset, Bool.true_or] at he
      have hr' : RxAt (step i s).rx true true (RX_DP + 1) := by
        rw [step, hc]
        exact ⟨he.iRdyR, he.front.through (by omega)⟩
      refine ⟨.acknowledge 0 (Nat.zero_le _)
        ⟨ht'.vldR, ht'.nrdyR, ht'.front.turn (Nat.lt_succ_self TX_DP)⟩ hr', ?_⟩
      rw [hw, ha, sampled, hs, txWord_of ht'.vldR hr'.iRdyR]
      rfl

/-! ### The way back to idle -/

/-- The phases after a word was taken, by the register that the moving flag has come to. -/
def Acknowledge (k : ℕ) (s : State DW TX_DP RX_DP) : Prop :=
  TxAt s.tx true true true k ∧ RxAt s.rx true true (RX_DP + 1)

def Release (k : ℕ) (s : State DW TX_DP RX_DP) : Prop :=
  TxAt s.tx false true true (TX_DP + 1) ∧ RxAt s.rx true false k

def Settle (k : ℕ) (s : State DW TX_DP RX_DP) : Prop :=
  TxAt s.tx false true false k ∧ RxAt s.rx false false (RX_DP + 1)

theorem Acknowledge.step (h : Acknowledge k s) :
    accepted s i = [] ∧ (i.txClk = false → Acknowledge k (Cdc.step i s)) ∧
      (i.txClk = true → k < TX_DP → Acknowledge (k + 1) (Cdc.step i s)) ∧
      (i.txClk = true → k = TX_DP → Release 0 (Cdc.step i s)) := by
  obtain ⟨ht, hr⟩ := h
  have hset := hr.iRdySet_of_rdy
  have hr' := rx_waits (i := i) hr ht.vldR hset
  obtain ⟨hno, hn⟩ := ht.busy (i := txIn s i) hr.iRdyR rfl
  have ht' : i.txClk = true →
      TxAt (Cdc.step i s).tx (true && !CdcTx.oRdySync s.tx) true true (k + 1) := by
    intro hc
    rw [Cdc.step, hc]
    exact hn
  refine ⟨?_, fun hc => ⟨?_, hr'⟩, fun hc hlt => ⟨?_, hr'⟩, fun hc hk => ?_⟩
  · rw [accepted, hno, Bool.and_false]
    rfl
  · rw [Cdc.step, hc]
    exact ht
  · have hn' := ht' hc
    rwa [CdcTx.oRdySync, ht.front.dout_of_lt hlt] at hn'
  · have hn' := ht' hc
    rw [CdcTx.oRdySync, ht.front.dout_of_le (Nat.le_of_eq hk.symm), hk] at hn'
    exact ⟨hn', hr'.iRdyR, hr'.front.turn (Nat.lt_succ_self RX_DP)⟩

theorem Release.step (h : Release k s) :
    accepted s i = [] ∧ (i.rxClk = false → Release k (Cdc.step i s)) ∧
      (i.rxClk = true → k < RX_DP → Release (k + 1) (Cdc.step i s)) ∧
      (i.rxClk = true → k = RX_DP → Settle 0 (Cdc.step i s)) := by
  obtain ⟨ht, hr⟩ := h
  obtain ⟨ha, ht', -⟩ := tx_waits (i := i) ht hr.iRdyR rfl
  have hr' : i.rxClk = true →
      RxAt (Cdc.step i s).rx (CdcRx.iRdySet s.rx || (true && !CdcRx.iRdyClr s.rx)) false (k + 1) := by
    intro hc
    rw [Cdc.step, hc]
    exact hr.edge (j := rxIn s i) ht.vldR
  refine ⟨ha, fun hc => ⟨ht', ?_⟩, fun hc hlt => ⟨ht', ?_⟩, fun hc hk => ?_⟩
  · rw [Cdc.step, hc]
    exact hr
  · have hn := hr' hc
    rwa [hr.iRdySet_of_rdy, hr.iRdyClr_eq, beq_eq_false_iff_ne.mpr (by omega)] at hn
  · have hn := hr' hc
    rw [hr.iRdySet_of_rdy, hr.iRdyClr_eq, hk, beq_self_eq_true] at hn
    exact ⟨⟨ht'.vldR, ht'.nrdyR, ht'.front.turn (Nat.lt_succ_self TX_DP)⟩, hn⟩

theorem Settle.step (h : Settle k s) (hk : k < TX_DP) :
    accepted s i = [] ∧ (i.txClk = false → Settle k (Cdc.step i s)) ∧
      (i.txClk = true → Settle (k + 1) (Cdc.step i s)) := by
  obtain ⟨ht, hr⟩ := h
  have hr' := rx_waits (i := i) hr ht.vldR (hr.iRdySet_of_low (Nat.le_succ RX_DP))
  have hne : (!false && k == TX_DP) = false := by rw [beq_eq_false_iff_ne.mpr (by omega)]; rfl
  obtain ⟨hno, hn⟩ := ht.busy (i := txIn s i) hr.iRdyR hne
  refine ⟨?_, fun hc => ⟨?_, hr'⟩, fun hc => ⟨?_, hr'⟩⟩
  · rw [accepted, hno, Bool.and_false]
    rfl
  · rw [Cdc.step, hc]
    exact ht
  · rw [Cdc.step, hc]
    exact hn

omit [NeZero TX_DP] [NeZero RX_DP] in
/-- The receiver has taken the word of the transmitter. -/
theorem txWord_of_taken (h : s.tx.vldR = false ∨ s.rx.iRdyR = true) : txWord s = [] := by
  rw [txWord]
  obtain h | h := h <;> rw [h]
  · rfl
  · rw [Bool.not_true, Bool.and_false]
    rfl

theorem moves_acknowledge (hk : k ≤ TX_DP) (ht : TxAt s.tx true true true k)
    (hr : RxAt s.rx true true (RX_DP + 1)) : Moves Q s i := by
  obtain ⟨ha, hstay, hup, hend⟩ := Acknowledge.step (i := i) ⟨ht, hr⟩
  have hphase : Phase Q (Cdc.step i s) ∧ txWord (Cdc.step i s) = [] := by
    cases hc : i.txClk with
    | false =>
      obtain ⟨ht', hr'⟩ := hstay hc
      exact ⟨.acknowledge k hk ht' hr', txWord_of_taken (.inr hr'.iRdyR)⟩
    | true =>
      obtain hlt | heq := Nat.lt_or_eq_of_le hk
      · obtain ⟨ht', hr'⟩ := hup hc hlt
        exact ⟨.acknowledge (k + 1) hlt ht' hr', txWord_of_taken (.inr hr'.iRdyR)⟩
      · obtain ⟨ht', hr'⟩ := hend hc heq
        exact ⟨.release 0 (Nat.zero_le _) ht' hr', txWord_of_taken (.inr hr'.iRdyR)⟩
  refine ⟨hphase.1, ?_⟩
  rw [hphase.2, txWord_of_taken (.inr hr.iRdyR), ha, sampled_of_iRdySet hr.iRdySet_of_rdy]

theorem moves_release (hk : k ≤ RX_DP) (ht : TxAt s.tx false true true (TX_DP + 1))
    (hr : RxAt s.rx true false k) : Moves Q s i := by
  obtain ⟨ha, hstay, hup, hend⟩ := Release.step (i := i) ⟨ht, hr⟩
  have hphase : Phase Q (Cdc.step i s) ∧ txWord (Cdc.step i s) = [] := by
    cases hc : i.rxClk with
    | false =>
      obtain ⟨ht', hr'⟩ := hstay hc
      exact ⟨.release k hk ht' hr', txWord_of_taken (.inl ht'.vldR)⟩
    | true =>
      obtain hlt | heq := Nat.lt_or_eq_of_le hk
      · obtain ⟨ht', hr'⟩ := hup hc hlt
        exact ⟨.release (k + 1) hlt ht' hr', txWord_of_taken (.inl ht'.vldR)⟩
      · obtain ⟨ht', hr'⟩ := hend hc heq
        exact ⟨.settle 0 (Nat.zero_le _) ht' hr', txWord_of_taken (.inl ht'.vldR)⟩
  refine ⟨hphase.1, ?_⟩
  rw [hphase.2, txWord_of_taken (.inl ht.vldR), ha, sampled_of_iRdySet hr.iRdySet_of_rdy]

theorem moves_settle (hk : k < TX_DP) (ht : TxAt s.tx false true false k)
    (hr : RxAt s.rx false false (RX_DP + 1)) : Moves Q s i := by
  obtain ⟨ha, hstay, hup⟩ := Settle.step (i := i) ⟨ht, hr⟩ hk
  have hphase : Phase Q (Cdc.step i s) ∧ txWord (Cdc.step i s) = [] := by
    cases hc : i.txClk with
    | false =>
      obtain ⟨ht', hr'⟩ := hstay hc
      exact ⟨.settle k (Nat.le_of_lt hk) ht' hr', txWord_of_taken (.inl ht'.vldR)⟩
    | true =>
      obtain ⟨ht', hr'⟩ := hup hc
      exact ⟨.settle (k + 1) hk ht' hr', txWord_of_taken (.inl ht'.vldR)⟩
  refine ⟨hphase.1, ?_⟩
  rw [hphase.2, txWord_of_taken (.inl ht.vldR), ha,
    sampled_of_iRdySet (hr.iRdySet_of_low (Nat.le_succ RX_DP))]

/-- An event keeps the handshake in its phases, and moves the word of the transmitter exactly when
the receiver samples it. -/
theorem Phase.step (h : Phase P s) (hnew : accepted s i ≠ [] → Q 0)
    (hold : ∀ k, P k → accepted s i = [] → samples s i = false → Q (if i.rxClk then k + 1 else k)) :
    Moves Q s i := by
  cases h with
  | idle ht hr => exact moves_take ht hr (.inr ⟨rfl, rfl⟩) Phase.idle hnew
  | request k hP ht hr => exact moves_request hP ht hr (hold k)
  | acknowledge k hk ht hr => exact moves_acknowledge hk ht hr
  | release k hk ht hr => exact moves_release hk ht hr
  | settle k hk ht hr =>
    obtain hlt | rfl := Nat.lt_or_eq_of_le hk
    · exact moves_settle hlt ht hr
    · exact moves_take ht hr (.inl ⟨rfl, rfl⟩) (Phase.settle _ (Nat.le_refl _)) hnew

/-- The receiver samples only a request that has passed its synchroniser. -/
theorem Phase.of_samples (h : Phase P s) (hs : samples s i = true) :
    ∃ k, RX_DP ≤ k ∧ P k ∧ accepted s i = [] := by
  rw [samples, Bool.and_eq_true] at hs
  obtain ⟨-, hset⟩ := hs
  have habs : CdcRx.iRdySet s.rx ≠ false := fun h => Bool.false_ne_true (h.symm.trans hset)
  cases h with
  | idle ht hr => exact absurd (hr.iRdySet_of_low (Nat.le_succ _)) habs
  | request k hP ht hr => exact ⟨k, hr.le_of_iRdySet hset, hP, (tx_waits ht hr.iRdyR rfl).1⟩
  | acknowledge k hk ht hr => exact absurd hr.iRdySet_of_rdy habs
  | release k hk ht hr => exact absurd hr.iRdySet_of_rdy habs
  | settle k hk ht hr => exact absurd (hr.iRdySet_of_low (Nat.le_succ _)) habs

/-! ### The buffer of the receiver -/

/-- The buffer is loaded only when it is empty. -/
theorem rxWord_cycle (s : State DW TX_DP RX_DP) (i : In DW) :
    rxWord s ++ sampled s i = handedOut s i ++ rxWord (step i s) := by
  have hv : (CdcRx.step (rxIn s i) s.rx).bufVldR =
    dfflr (CdcRx.iRdySet s.rx || CdcRx.bufVldClr s.rx (rxIn s i))
      (CdcRx.iRdySet s.rx || !CdcRx.bufVldClr s.rx (rxIn s i)) s.rx.bufVldR := rfl
  have hd : (CdcRx.step (rxIn s i) s.rx).bufDatR =
    dfflr (CdcRx.iRdySet s.rx) s.tx.datR s.rx.bufDatR := rfl
  rw [rxWord, sampled, samples, CdcRx.bufDatEna, handedOut, rxWord, step]
  cases hc : i.rxClk with
  | false =>
    rw [Bool.false_and, Bool.false_and]
    exact List.append_nil _
  | true =>
    rw [if_pos rfl, hv, hd, Bool.true_and, Bool.true_and]
    cases hb : s.rx.bufVldR with
    | false =>
      have hclr : CdcRx.bufVldClr s.rx (rxIn s i) = false := by
        rw [CdcRx.bufVldClr, CdcRx.oVld, hb, Bool.false_and]
      rw [hclr]
      cases CdcRx.iRdySet s.rx <;> rfl
    | true =>
      have hset : CdcRx.iRdySet s.rx = false := by
        rw [CdcRx.iRdySet, CdcRx.bufRdy, hb]
        rfl
      rw [hset]
      cases CdcRx.bufVldClr s.rx (rxIn s i) <;> rfl

end
end E203.Cdc
