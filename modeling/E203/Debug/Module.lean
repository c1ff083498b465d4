import E203.Lib.Machine
import E203.Rtl.DebugModule

/-! # State changes of the debug module

* `ramWrites`: the writes of both buses to a word of the debug RAM; `lastWrite`: the last one.
* `DebintSet`, `DebintClr`, `HaltnotSet`, `HaltnotClr`: the writes that name the hart.
* `dtmRead`, `icbRead`: what an address reads.
* `Conforms`: state and responses are what the writes made of them, and no access is lost.
* `HarmlessNop`: a request that is neither a read nor a write carries what the word holds.
* `changes_by_writes_iff`: the module conforms in every run whose requests are harmless, and in no other.
-/

namespace E203.DebugModule
set_option autoImplicit false

/-- The registers after `t` cycles. -/
def run (inp : ℕ → In) (t : ℕ) : State := Lib.stateAt step inp reset t

/-! ## The accesses of a cycle -/

section
variable (i : In) (k : Fin 7)

/-- An accepted request of the debug bus is for word `k` of the RAM. -/
def dtmAccesses : Bool := iDtmReqHsked i && (dtmReqBitsAddr i).toNat == k.val

/-- An accepted command of the system bus is for word `k` of the RAM. -/
def icbAccesses : Bool :=
  iIcbCmdHsked i && icbSelDbgram i && (i.iIcbCmdAddr.extractLsb' 2 3).toNat == k.val

/-- The words that are written to word `k` of the RAM. -/
def ramWrites : List (BitVec 32) :=
  (if dtmAccesses i k && dtmReqWr i then [(dtmReqBitsData i).extractLsb' 0 32] else []) ++
    if icbAccesses i k && !i.iIcbCmdRead then [i.iIcbCmdWdata] else []

/-- A write of the debug bus to `dmcontrol` or to the RAM. -/
def dtmWrites : Bool :=
  iDtmReqHsked i && dtmReqWr i && (dtmReqBitsAddr i == 0x10#5 || decide ((dtmReqBitsAddr i).toNat < 7))

/-- A write of the system bus to `addr` names the hart. -/
def icbNames (addr : BitVec 12) : Bool :=
  iIcbCmdHsked i && !i.iIcbCmdRead && i.iIcbCmdAddr == addr && i.iIcbCmdWdata.extractLsb' 0 1 == 0#1

/-- The hart ID that is written to `dmcontrol`. -/
def hartidWrites : List (BitVec 1) :=
  if iDtmReqHsked i && dtmReqWr i && dtmReqBitsAddr i == 0x10#5 then
    [(dtmReqBitsData i).extractLsb' 2 1]
  else []

end

/-! ## What the writes make of the state -/

section
variable (inp : ℕ → In)

/-- The last word written to word `k` of the RAM, zero at first. -/
def lastWrite (k : Fin 7) (t : ℕ) : BitVec 32 :=
  Lib.lastEmitted (fun u => ramWrites (inp u) k) 0#32 t

/-- The hart that `dmcontrol` selects. -/
def lastHartid (t : ℕ) : BitVec 1 := Lib.lastEmitted (fun u => hartidWrites (inp u)) 0#1 t

def DebintSet (u : ℕ) : Prop :=
  dtmWrites (inp u) = true ∧ (dtmReqBitsData (inp u)).getLsbD 33 = true ∧ lastHartid inp u = 0#1

def DebintClr (u : ℕ) : Prop := icbNames (inp u) 0x100#12 = true

def HaltnotSet (u : ℕ) : Prop := icbNames (inp u) 0x10c#12 = true

def HaltnotClr (u : ℕ) : Prop :=
  dtmWrites (inp u) = true ∧ (dtmReqBitsData (inp u)).getLsbD 32 = false ∧ lastHartid inp u = 0#1

end

/-- What an address of the debug bus reads. -/
def dtmRead (s : State) (addr : BitVec 5) : BitVec 34 :=
  if h : addr.toNat < 7 then (dmcontrolR s).extractLsb' 32 2 ++ s.debugRamR ⟨addr.toNat, h⟩
  else if addr = 0x10#5 then dmcontrolR s
  else if addr = 0x11#5 then dminfoR
  else if addr = 0x1c#5 then 0#33 ++ BitVec.ofBool s.dmHaltnotR
  else 0#34

/-- What an address of the system bus reads. -/
def icbRead (s : State) (addr : BitVec 12) (undef : BitVec 32) : BitVec 32 :=
  if addr = 0x100#12 then 0#31 ++ s.cleardebintR
  else if addr = 0x10c#12 then 0#31 ++ s.sethaltnotR
  else if addr.extractLsb' 8 4 = 0x8#4 then DebugRom.romDout (addr.extractLsb' 2 5) undef
  else if addr.extractLsb' 8 4 = 0x4#4 then
    DebugRam.ramDout s.debugRamR (addr.extractLsb' 2 3) undef
  else 0#32

/-- State and responses in cycle `t`. -/
structure Conforms (inp : ℕ → In) (t : ℕ) : Prop where
  ram : ∀ k, (run inp t).debugRamR k = lastWrite inp k t
  hartid : (run inp t).dmHartidR = lastHartid inp t
  /-- Of a set and a clear in one cycle the set wins. -/
  debint : (run inp t).dmDebintR = true ↔ Lib.Since (DebintSet inp) (fun u => ¬DebintClr inp u) t
  haltnot : (run inp t).dmHaltnotR = true ↔
    Lib.Since (HaltnotSet inp) (fun u => ¬HaltnotClr inp u) t
  /-- Every accepted access is answered, with the state before it. -/
  dtmRsp : iDtmReqHsked (inp t) = (iDtmRespValid (inp t) && (inp t).iDtmRespReady) ∧
    (iDtmReqHsked (inp t) = true →
      iDtmRespBits (run inp t) (inp t) = dtmRead (run inp t) (dtmReqBitsAddr (inp t)) ++ 0#2)
  icbRsp : iIcbCmdHsked (inp t) = (iIcbRspValid (inp t) && (inp t).iIcbRspReady) ∧
    (iIcbCmdHsked (inp t) = true →
      iIcbRspRdata (run inp t) (inp t) = icbRead (run inp t) (inp t).iIcbCmdAddr (inp t).undef)
  /-- The system bus never waits for the debug bus. -/
  icbAccepted : (inp t).iIcbCmdValid = true → (inp t).iIcbRspReady = true →
    iIcbCmdHsked (inp t) = true
  /-- The debug bus waits only for the RAM, as long as the system bus accesses it. -/
  dtmAccepted : (inp t).iDtmReqValid = true → (inp t).iDtmRespReady = true →
    iDtmReqHsked (inp t) = true ∨ (dtmReqBitsAddr (inp t)).toNat < 7 ∧
      iIcbCmdHsked (inp t) = true ∧ icbSelDbgram (inp t) = true
  /-- So there is at most one access to the RAM in a cycle. -/
  ramOnce : ∀ k l, dtmAccesses (inp t) k = true → icbAccesses (inp t) l = false

/-- A request to the RAM that is neither a read nor a write carries what the word holds. -/
def HarmlessNop (i : In) (s : State) : Prop :=
  ∀ k, dtmAccesses i k = true → dtmReqRd i = false → dtmReqWr i = false →
    (dtmReqBitsData i).extractLsb' 0 32 = s.debugRamR k

/-! ## One cycle -/

section
variable {inp : ℕ → In} {i : In} {s : State} {k l : Fin 7} {t : ℕ}

theorem dtmReqSelDbgram_iff : dtmReqSelDbgram i = decide ((dtmReqBitsAddr i).toNat < 7) := by
  rw [dtmReqSelDbgram]
  generalize dtmReqBitsAddr i = a
  revert a
  decide

theorem dtmReqBitsAddr_low (h : dtmReqSelDbgram i = true) :
    ((dtmReqBitsAddr i).extractLsb' 0 3).toNat = (dtmReqBitsAddr i).toNat := by
  rw [dtmReqSelDbgram_iff, decide_eq_true_eq] at h
  rw [BitVec.extractLsb'_toNat, Nat.shiftRight_zero]
  omega

theorem iDtmReqHsked_iff : iDtmReqHsked i = true ↔
    i.iDtmReqValid = true ∧ i.iDtmRespReady = true ∧
      (dtmReqSelDbgram i = true → icbAccessDbgramEna i = false) := by
  rw [iDtmReqHsked, iDtmReqReady, iDtmReqCondi]
  cases dtmReqSelDbgram i <;> simp [and_comm]

/-- The debug bus has the port of the RAM. -/
theorem dtmAccesses_iff : dtmAccesses i k = true ↔
    dtmAccessDbgramEna i = true ∧ (ramAddr i).toNat = k.val := by
  rw [dtmAccesses, dtmAccessDbgramEna, Bool.and_eq_true, Bool.and_eq_true, beq_iff_eq]
  constructor
  · rintro ⟨hacc, haddr⟩
    have hk := k.isLt
    have hsel : dtmReqSelDbgram i = true := by
      rw [dtmReqSelDbgram_iff, decide_eq_true_eq, haddr]
      exact hk
    refine ⟨⟨hacc, hsel⟩, ?_⟩
    rw [ramAddr, dtmAccessDbgramEna, hacc, hsel, Bool.and_self, if_pos rfl, dtmReqBitsAddr_low hsel,
      haddr]
  · rintro ⟨⟨hacc, hsel⟩, haddr⟩
    rw [ramAddr, dtmAccessDbgramEna, hacc, hsel, Bool.and_self, if_pos rfl,
      dtmReqBitsAddr_low hsel] at haddr
    exact ⟨hacc, haddr⟩

theorem icbAccess_of_dtm (h : dtmAccessDbgramEna i = true) : icbAccessDbgramEna i = false := by
  rw [dtmAccessDbgramEna, Bool.and_eq_true] at h
  exact (iDtmReqHsked_iff.mp h.1).2.2 h.2

/-- The system bus has the port of the RAM. -/
theorem icbAccesses_iff : icbAccesses i k = true ↔
    icbAccessDbgramEna i = true ∧ (ramAddr i).toNat = k.val := by
  rw [icbAccesses, Bool.and_eq_true, beq_iff_eq]
  refine and_congr_right fun hacc => ?_
  have hno : dtmAccessDbgramEna i = false := by
    cases hd : dtmAccessDbgramEna i
    · rfl
    · exact absurd (hacc.symm.trans (icbAccess_of_dtm hd)) (by simp)
  rw [ramAddr, hno, if_neg Bool.false_ne_true]

theorem icbAccesses_eq_false (h : dtmAccesses i k = true) : icbAccesses i l = false := by
  cases hl : icbAccesses i l
  · rfl
  · have hd := icbAccess_of_dtm (dtmAccesses_iff.mp h).1
    rw [(icbAccesses_iff.mp hl).1] at hd
    cases hd

/-- What a cycle makes of a word of the RAM: any request of the debug bus but a read writes it. -/
theorem step_debugRamR : (step i s).debugRamR k =
    if dtmAccesses i k then
      if dtmReqRd i then s.debugRamR k else (dtmReqBitsData i).extractLsb' 0 32
    else if icbAccesses i k then
      if i.iIcbCmdRead then s.debugRamR k else i.iIcbCmdWdata
    else s.debugRamR k := by
  have hdtm := @dtmAccesses_iff i k
  have hicb := @icbAccesses_iff i k
  simp only [step, DebugRam.step, DebugRam.ramWen, ram, ramCs, ramRd, ramWdat]
  cases hd : dtmAccessDbgramEna i
  · rw [hd] at hdtm
    have hno : dtmAccesses i k = false := by simpa using hdtm
    cases hi : icbAccessDbgramEna i
    · rw [hi] at hicb
      have hno' : icbAccesses i k = false := by simpa using hicb
      simp [hno, hno']
    · by_cases hk : (ramAddr i).toNat = k.val
      · have hyes : icbAccesses i k = true := hicb.mpr ⟨hi, hk⟩
        cases hr : i.iIcbCmdRead <;> simp [hno, hyes, hk]
      · have hno' : icbAccesses i k = false := by simpa [hi, hk] using hicb
        simp [hno, hno', beq_false_of_ne hk]
  · rw [icbAccess_of_dtm hd]
    have hno' : icbAccesses i k = false := by simpa [icbAccess_of_dtm hd] using hicb
    by_cases hk : (ramAddr i).toNat = k.val
    · have hyes : dtmAccesses i k = true := hdtm.mpr ⟨hd, hk⟩
      cases hr : dtmReqRd i <;> simp [hyes, hk]
    · have hno : dtmAccesses i k = false := by simpa [hd, hk] using hdtm
      simp [hno, hno', beq_false_of_ne hk]

/-! ### Responses -/

theorem dtmRead_eq (h : iDtmReqHsked i = true) :
    dtmRespBitsData s i = dtmRead s (dtmReqBitsAddr i) := by
  rw [dtmRespBitsData, dtmRead]
  by_cases hlt : (dtmReqBitsAddr i).toNat < 7
  · have hsel : dtmReqSelDbgram i = true := by rw [dtmReqSelDbgram_iff, decide_eq_true hlt]
    have hacc : dtmAccesses i ⟨_, hlt⟩ = true := by
      rw [dtmAccesses, h]
      simp
    have hout : ramDout s i = s.debugRamR ⟨_, hlt⟩ := by
      obtain ⟨-, haddr⟩ := dtmAccesses_iff.mp hacc
      rw [ramDout, DebugRam.ramDout, dif_pos (by rw [haddr]; exact hlt)]
      exact congrArg s.debugRamR (Fin.ext haddr)
    have hno : dtmReqSelDmcontrl i = false ∧ dtmReqSelDminfo i = false ∧
        dtmReqSelHaltstat i = false := by
      refine ⟨beq_false_of_ne ?_, beq_false_of_ne ?_, beq_false_of_ne ?_⟩ <;>
        (intro heq; rw [heq] at hlt; exact absurd hlt (by decide))
    simp [hsel, hno, hout, hlt]
  · have hsel : dtmReqSelDbgram i = false := by rw [dtmReqSelDbgram_iff, decide_eq_false hlt]
    rw [dif_neg hlt, hsel, dtmReqSelDmcontrl, dtmReqSelDminfo, dtmReqSelHaltstat]
    generalize dtmReqBitsAddr i = a
    by_cases h1 : a = 0x10#5
    · simp [h1]
    · by_cases h2 : a = 0x11#5
      · simp [h2]
      · by_cases h3 : a = 0x1c#5
        · simp [h3]
        · simp [beq_false_of_ne h1, beq_false_of_ne h2, beq_false_of_ne h3, h1, h2, h3]

theorem icbRead_eq (h : iIcbCmdHsked i = true) :
    iIcbRspRdata s i = icbRead s i.iIcbCmdAddr i.undef := by
  rw [iIcbRspRdata, icbRead, icbSelCleardebint, icbSelSethaltnot, icbSelDbgrom, romDout]
  have hram : icbSelDbgram i = true →
      ramDout s i = DebugRam.ramDout s.debugRamR (i.iIcbCmdAddr.extractLsb' 2 3) i.undef := by
    intro hsel
    have hacc : icbAccessDbgramEna i = true := by rw [icbAccessDbgramEna, h, hsel, Bool.and_self]
    have hno : dtmAccessDbgramEna i = false := by
      cases hd : dtmAccessDbgramEna i
      · rfl
      · exact absurd (hacc.symm.trans (icbAccess_of_dtm hd)) (by simp)
    rw [ramDout, ramAddr, hno, if_neg Bool.false_ne_true]
  rw [icbSelDbgram] at hram ⊢
  generalize i.iIcbCmdAddr = a at hram ⊢
  by_cases h1 : a = 0x100#12
  · simp [h1]
  · by_cases h2 : a = 0x10c#12
    · simp [h2]
    · by_cases h3 : a.extractLsb' 8 4 = 0x8#4
      · simp [beq_false_of_ne h1, beq_false_of_ne h2, h1, h2, h3]
      · by_cases h4 : a.extractLsb' 8 4 = 0x4#4
        · simp [beq_false_of_ne h1, beq_false_of_ne h2, h1, h2, h4, hram]
        · simp [beq_false_of_ne h1, beq_false_of_ne h2, beq_false_of_ne h3, beq_false_of_ne h4, h1, h2,
            h3, h4]

/-! ### The bits of the hart -/

theorem dtmWrites_iff : dtmWrites i = (iDtmReqHsked i && (dtmWrDmcontrol i || dtmWrDbgram i)) := by
  rw [dtmWrites, dtmWrDmcontrol, dtmWrDbgram, dtmReqSelDmcontrl, dtmReqSelDbgram_iff]
  cases iDtmReqHsked i <;> cases dtmReqWr i <;> simp

theorem run_succ : run inp (t + 1) = step (inp t) (run inp t) := rfl

theorem hartid_run (t : ℕ) : (run inp t).dmHartidR = lastHartid inp t := by
  induction t with
  | zero => rfl
  | succ t ih =>
    rw [lastHartid, Lib.lastEmitted_succ, ← lastHartid, ← ih, run_succ, hartidWrites]
    change dfflr (dtmWrHartidEna (inp t)) _ (run inp t).dmHartidR = _
    have hena : dtmWrHartidEna (inp t) =
        (iDtmReqHsked (inp t) && dtmReqWr (inp t) && dtmReqBitsAddr (inp t) == 0x10#5) := by
      rw [dtmWrHartidEna, dtmWrDmcontrol, dtmReqSelDmcontrl]
      cases iDtmReqHsked (inp t) <;> cases dtmReqWr (inp t) <;> simp
    rw [hena]
    cases iDtmReqHsked (inp t) && dtmReqWr (inp t) && dtmReqBitsAddr (inp t) == 0x10#5 <;> rfl

theorem flag_eq (set clr q : Bool) : dfflr (set || clr) (set || !clr) q = (set || (q && !clr)) := by
  cases set <;> cases clr <;> cases q <;> rfl

theorem debint_run (t : ℕ) : (run inp t).dmDebintR = true ↔
    Lib.Since (DebintSet inp) (fun u => ¬DebintClr inp u) t := by
  induction t with
  | zero => exact ⟨fun h => Bool.noConfusion h, fun h => absurd h Lib.not_since_zero⟩
  | succ t ih =>
    have hset : dmDebintSet (run inp t) (inp t) = true ↔ DebintSet inp t := by
      rw [dmDebintSet, dtmWrInterruptEna, DebintSet, dtmWrites_iff, hartid_run]
      simp [and_assoc]
    have hclr : dmDebintClr (inp t) = true ↔ DebintClr inp t := by
      rw [dmDebintClr, icbWrCleardebintEna, icbWrEna, icbSelCleardebint, DebintClr, icbNames]
    rw [Lib.since_succ, ← ih, ← hset, ← hclr, run_succ]
    change dfflr _ _ _ = true ↔ _
    rw [flag_eq]
    simp

theorem haltnot_run (t : ℕ) : (run inp t).dmHaltnotR = true ↔
    Lib.Since (HaltnotSet inp) (fun u => ¬HaltnotClr inp u) t := by
  induction t with
  | zero => exact ⟨fun h => Bool.noConfusion h, fun h => absurd h Lib.not_since_zero⟩
  | succ t ih =>
    have hset : dmHaltnotSet (inp t) = true ↔ HaltnotSet inp t := by
      rw [dmHaltnotSet, icbWrSethaltnotEna, icbWrEna, icbSelSethaltnot, HaltnotSet, icbNames]
    have hclr : dmHaltnotClr (run inp t) (inp t) = true ↔ HaltnotClr inp t := by
      rw [dmHaltnotClr, dtmWrHaltnotEna, HaltnotClr, dtmWrites_iff, hartid_run]
      simp [and_assoc]
    rw [Lib.since_succ, ← ih, ← hset, ← hclr, run_succ]
    change dfflr _ _ _ = true ↔ _
    rw [flag_eq]
    simp

/-! ### The RAM -/

theorem lastWrite_succ : lastWrite inp k (t + 1) =
    if dtmAccesses (inp t) k then
      if dtmReqWr (inp t) then (dtmReqBitsData (inp t)).extractLsb' 0 32 else lastWrite inp k t
    else if icbAccesses (inp t) k then
      if (inp t).iIcbCmdRead then lastWrite inp k t else (inp t).iIcbCmdWdata
    else lastWrite inp k t := by
  rw [lastWrite, Lib.lastEmitted_succ, ← lastWrite, ramWrites]
  cases hd : dtmAccesses (inp t) k
  · cases icbAccesses (inp t) k <;> cases (inp t).iIcbCmdRead <;> simp
  · rw [icbAccesses_eq_false hd]
    cases dtmReqWr (inp t) <;> simp

theorem dtmReqWr_eq_false (h : dtmReqRd i = true) : dtmReqWr i = false := by
  rw [dtmReqWr, eq_of_beq h]
  rfl

/-- A cycle keeps a word right exactly when its requests are harmless. -/
theorem ram_step_iff (h : (run inp t).debugRamR k = lastWrite inp k t) :
    (run inp (t + 1)).debugRamR k = lastWrite inp k (t + 1) ↔
      (dtmAccesses (inp t) k = true → dtmReqRd (inp t) = false → dtmReqWr (inp t) = false →
        (dtmReqBitsData (inp t)).extractLsb' 0 32 = (run inp t).debugRamR k) := by
  rw [run_succ, step_debugRamR, lastWrite_succ, ← h]
  cases dtmAccesses (inp t) k
  · simp
  · cases hr : dtmReqRd (inp t)
    · cases dtmReqWr (inp t) <;> simp
    · simp [dtmReqWr_eq_false hr]

/-- Apart from the RAM the module always conforms. -/
theorem conforms_of_ram (h : ∀ k, (run inp t).debugRamR k = lastWrite inp k t) :
    Conforms inp t where
  ram := h
  hartid := hartid_run t
  debint := debint_run t
  haltnot := haltnot_run t
  dtmRsp := by
    refine ⟨?_, fun hacc => ?_⟩
    · rw [iDtmReqHsked, iDtmReqReady, iDtmRespValid]
      cases (inp t).iDtmReqValid <;> simp
    · rw [iDtmRespBits, dtmRead_eq hacc]
      rfl
  icbRsp := ⟨rfl, icbRead_eq⟩
  icbAccepted hv hr := by rw [iIcbCmdHsked, hv, iIcbCmdReady, hr, Bool.and_self]
  dtmAccepted hv hr := by
    cases hsel : dtmReqSelDbgram (inp t)
    · exact .inl (iDtmReqHsked_iff.mpr ⟨hv, hr, fun hs => by rw [hsel] at hs; cases hs⟩)
    · cases hacc : icbAccessDbgramEna (inp t)
      · exact .inl (iDtmReqHsked_iff.mpr ⟨hv, hr, fun _ => hacc⟩)
      · right
        rw [dtmReqSelDbgram_iff, decide_eq_true_eq] at hsel
        exact ⟨hsel, (Bool.and_eq_true _ _).mp hacc⟩
  ramOnce k l := icbAccesses_eq_false

/-- State and responses are what the writes made of them in every cycle of a run exactly when no NOP or
reserved request brings a word to the RAM that is not there already. -/
theorem changes_by_writes_iff (inp : ℕ → In) :
    (∀ t, Conforms inp t) ↔ ∀ t, HarmlessNop (inp t) (run inp t) := by
  constructor
  · intro h t k
    exact (ram_step_iff ((h t).ram k)).mp ((h (t + 1)).ram k)
  · intro h t
    refine conforms_of_ram fun k => ?_
    induction t with
    | zero => rfl
    | succ t ih => exact (ram_step_iff ih).mpr (h t k)

end

/-! ## A NOP -/

/-- A NOP for word 0 of the RAM, with data. -/
def nopToRam (t : ℕ) : In where
  iDtmReqValid := t == 0
  iDtmReqBits := 0#5 ++ 1#34 ++ 0#2
  iDtmRespReady := true
  iIcbCmdValid := false
  iIcbCmdAddr := 0#12
  iIcbCmdRead := true
  iIcbCmdWdata := 0#32
  iIcbRspReady := true
  undef := 0#32

/-- It writes the word. -/
theorem nop_writes_ram : dtmReqBitsOp (nopToRam 0) = 0#2 ∧ lastWrite nopToRam 0 1 = 0#32 ∧
    (run nopToRam 1).debugRamR 0 = 1#32 ∧ ¬∀ t, Conforms nopToRam t := by
  refine ⟨by decide, by decide, by decide, fun h => ?_⟩
  exact absurd ((h 1).ram 0) (by decide)

end E203.DebugModule
