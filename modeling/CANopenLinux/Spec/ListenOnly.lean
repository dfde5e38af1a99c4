import CANopenLinux.Native.ErrorHandler

/-!
# Leaving listen-only mode

A run of one interface's error handler from `CO_CANerror_init` is any sequence of
`CO_CANerror_rxMsgError`, `CO_CANerror_rxMsg` and `CO_CANerror_txMsg` calls. The handler keeps
one timestamp, and a later bus-off frame overwrites it. The run invariant
`listenOnly_timestamp_latest_entry` says that while listen-only holds, the timestamp is the
time of the latest call that entered the mode. From it, `listenOnly_exit` shows that the mode
ends only at a data frame, or at a transmission query more than `CO_CANerror_LISTEN_ONLY`
seconds after that latest entry.

## Key results

- `ErrorhandlerCall.apply_leaves_listenOnly`: the two calls that can end listen-only
- `listenOnly_timestamp_latest_entry`: the stored timestamp is the latest entry's
- `listenOnly_exit`: the exit law over every run
- `afterErrorFrames_noack`: error frames without the bus-off bit enter listen-only exactly
  when `CO_CANerror_NOACK_MAX + 1` no-ACK frames have come in a row, one more than the
  header documents (`noack_sixteen_stays_active`)
-/

namespace CANopenLinux

open CANinterfaceErrorhandler

/-- One call into an interface's error handler, with the monotonic time it reads. -/
inductive ErrorhandlerCall
  | rxMsgError (msg : CanFrame) (now : Timespec)
  | rxMsg
  | txMsg (now : Timespec)

namespace ErrorhandlerCall

/-- The handler after the call. -/
def apply : ErrorhandlerCall → CANinterfaceErrorhandler → CANinterfaceErrorhandler
  | rxMsgError msg now, h => (h.canErrorRxMsgError msg now).1
  | rxMsg, h => h.canErrorRxMsg
  | txMsg now, h => (h.canErrorTxMsg now).1

/-- The time the call stamps when it enters listen-only, if it enters. -/
def entry? : ErrorhandlerCall → CANinterfaceErrorhandler → Option Timespec
  | rxMsgError msg now, h => if h.entersListenOnly msg then some now else none
  | _, _ => none

variable {c : ErrorhandlerCall} {h : CANinterfaceErrorhandler}

theorem apply_of_entry {t : Timespec} (he : c.entry? h = some t) :
    (c.apply h).listenOnly = true ∧ (c.apply h).timestamp = t := by
  cases c with
  | rxMsgError msg now =>
    simp only [entry?, Option.ite_none_right_eq_some, Option.some.injEq] at he
    obtain ⟨he, rfl⟩ := he
    exact canErrorRxMsgError_of_enters h msg now he
  | rxMsg => simp [entry?] at he
  | txMsg now => simp [entry?] at he

theorem apply_of_no_entry (he : c.entry? h = none) (hl : (c.apply h).listenOnly = true) :
    h.listenOnly = true ∧ (c.apply h).timestamp = h.timestamp := by
  cases c with
  | rxMsgError msg now =>
    have hne : h.entersListenOnly msg = false := by simpa [entry?] using he
    have := canErrorRxMsgError_of_not_enters h msg now hne
    exact ⟨this.1 ▸ hl, this.2⟩
  | rxMsg => simp [apply] at hl
  | txMsg now => exact canErrorTxMsg_of_listenOnly h now hl

/-- Only a data frame, or a transmission query after the timeout, ends listen-only. -/
theorem apply_leaves_listenOnly (hl : h.listenOnly = true) (hl' : (c.apply h).listenOnly = false) :
    c = .rxMsg ∨ ∃ now, c = .txMsg now ∧ h.timestamp.tvSec + canErrorListenOnly < now.tvSec := by
  cases c with
  | rxMsgError msg now =>
    cases he : h.entersListenOnly msg
    · simp [apply, (canErrorRxMsgError_of_not_enters h msg now he).1, hl] at hl'
    · simp [apply, (canErrorRxMsgError_of_enters h msg now he).1] at hl'
  | rxMsg => exact .inl rfl
  | txMsg now => exact .inr ⟨now, rfl, canErrorTxMsg_leaves h now hl hl'⟩

end ErrorhandlerCall

/-- The error handler after the calls `run`, starting from `CO_CANerror_init fd`. -/
def errorhandlerAfter (fd : Int) (run : List ErrorhandlerCall) : CANinterfaceErrorhandler :=
  run.foldl (fun h c => c.apply h) (canErrorInit fd)

theorem errorhandlerAfter_append (fd : Int) (run : List ErrorhandlerCall) (c : ErrorhandlerCall) :
    errorhandlerAfter fd (run ++ [c]) = c.apply (errorhandlerAfter fd run) := by
  simp [errorhandlerAfter]

/-- Run invariant: while listen-only holds, the timestamp is the time stamped by the latest
    call of the run that entered the mode. -/
theorem listenOnly_timestamp_latest_entry (fd : Int) (run : List ErrorhandlerCall)
    (hl : (errorhandlerAfter fd run).listenOnly = true) :
    ∃ (j : Nat) (e : ErrorhandlerCall), run[j]? = some e ∧
      e.entry? (errorhandlerAfter fd (run.take j)) = some (errorhandlerAfter fd run).timestamp ∧
      ∀ (i : Nat) (d : ErrorhandlerCall), j < i → run[i]? = some d →
        d.entry? (errorhandlerAfter fd (run.take i)) = none := by
  induction run using List.reverseRecOn with
  | nil => simp [errorhandlerAfter, canErrorInit] at hl
  | append_singleton run c ih =>
    rw [errorhandlerAfter_append] at hl ⊢
    have hlast : (run ++ [c])[run.length]? = some c := by simp
    have htake : (run ++ [c]).take run.length = run := by simp
    cases he : c.entry? (errorhandlerAfter fd run) with
    | some t =>
      -- the last call entered: it is the latest entry
      refine ⟨run.length, c, hlast, ?_, fun i d hi hd => ?_⟩
      · rw [htake, he, (ErrorhandlerCall.apply_of_entry he).2]
      · exact absurd (List.getElem?_eq_some_iff.mp hd).1 (by simp; omega)
    | none =>
      -- the last call did not enter: the latest entry is an earlier one
      obtain ⟨hl₀, hts⟩ := ErrorhandlerCall.apply_of_no_entry he hl
      obtain ⟨j, e, hj, hje, hlater⟩ := ih hl₀
      have hjlt : j < run.length := (List.getElem?_eq_some_iff.mp hj).1
      refine ⟨j, e, by rw [List.getElem?_append_left hjlt]; exact hj, ?_, fun i d hi hd => ?_⟩
      · rw [List.take_append_of_le_length hjlt.le, hts]; exact hje
      · rcases Nat.lt_or_ge i run.length with hir | hir
        · rw [List.getElem?_append_left hir] at hd
          rw [List.take_append_of_le_length hir.le]
          exact hlater i d hi hd
        · have hi' : i = run.length := Nat.le_antisymm
            (Nat.lt_succ_iff.mp (by simpa using (List.getElem?_eq_some_iff.mp hd).1)) hir
          subst hi'
          rw [hlast] at hd; cases hd
          rw [htake]; exact he

/-- The exit law of listen-only. (a) A data frame leaves the interface active with the
    no-ACK counter cleared. (b) When listen-only ends at a call, that call is a data frame,
    or a transmission query at a time `now` whose second is past the second of the latest
    entry into listen-only by more than `CO_CANerror_LISTEN_ONLY`; so more than that many
    seconds separate the latest entry from the exit. -/
theorem listenOnly_exit (fd : Int) (run : List ErrorhandlerCall) (c : ErrorhandlerCall) :
    (c = .rxMsg → (c.apply (errorhandlerAfter fd run)).listenOnly = false ∧
      (c.apply (errorhandlerAfter fd run)).noackCounter = 0) ∧
    ((errorhandlerAfter fd run).listenOnly = true →
      (c.apply (errorhandlerAfter fd run)).listenOnly = false →
      c = .rxMsg ∨ ∃ (now : Timespec) (j : Nat) (e : ErrorhandlerCall) (t0 : Timespec),
        c = .txMsg now ∧ run[j]? = some e ∧
        e.entry? (errorhandlerAfter fd (run.take j)) = some t0 ∧
        (∀ (i : Nat) (d : ErrorhandlerCall), j < i → run[i]? = some d →
          d.entry? (errorhandlerAfter fd (run.take i)) = none) ∧
        t0.tvSec + canErrorListenOnly < now.tvSec ∧
        canErrorListenOnly * 1000000000 < now.toNs - t0.toNs) := by
  refine ⟨fun hc => by subst hc; simp [ErrorhandlerCall.apply], fun hl hl' => ?_⟩
  rcases ErrorhandlerCall.apply_leaves_listenOnly hl hl' with hc | ⟨now, hc, hlt⟩
  · exact .inl hc
  obtain ⟨j, e, hj, hje, hlater⟩ := listenOnly_timestamp_latest_entry fd run hl
  exact .inr ⟨now, j, e, _, hc, hj, hje, hlater, hlt, Timespec.lt_toNs_sub_of_tvSec_lt hlt⟩

/-! ## Entering through the no-ACK path -/

/-- The error frame carries `CAN_ERR_ACK`. -/
def CanFrame.isNoack (m : CanFrame) : Bool := m.canId &&& canErrAck ≠ 0

/-- The no-ACK error frames in a row at the end of `msgs`. -/
def ackStreak (msgs : List CanFrame) : Nat := (msgs.reverse.takeWhile CanFrame.isNoack).length

@[simp] theorem ackStreak_nil : ackStreak [] = 0 := rfl

theorem ackStreak_concat (msgs : List CanFrame) (m : CanFrame) :
    ackStreak (msgs ++ [m]) = if m.isNoack then ackStreak msgs + 1 else 0 := by
  simp only [ackStreak, List.reverse_append, List.reverse_singleton, List.singleton_append,
    List.takeWhile_cons]
  split <;> simp

/-- The handler after the error frames `frames`, each with the time it reads. -/
def afterErrorFrames (h : CANinterfaceErrorhandler) (frames : List (CanFrame × Timespec)) :
    CANinterfaceErrorhandler :=
  frames.foldl (fun h f => (h.canErrorRxMsgError f.1 f.2).1) h

section noack

variable {h : CANinterfaceErrorhandler} {m : CanFrame} {now : Timespec}

/-- An error frame without the bus-off bit, on an active interface: a no-ACK frame counts and
    enters listen-only once the count passes `CO_CANerror_NOACK_MAX`; any other frame clears
    the count. -/
theorem canErrorRxMsgError_noack (hb : m.canId &&& canErrBusoff = 0) (hl : h.listenOnly = false) :
    (h.canErrorRxMsgError m now).1.listenOnly =
        (m.isNoack && decide (canErrorNoackMax < h.noackCounter + 1)) ∧
      (h.canErrorRxMsgError m now).1.noackCounter =
        if m.isNoack then h.noackCounter + 1 else 0 := by
  obtain ⟨st, hc⟩ := canErrorCrtl_eq h m
  rw [canErrorRxMsgError_of_not_busoff h m now hb, hc]
  unfold canErrorNoack CanFrame.isNoack
  by_cases ha : m.canId &&& canErrAck ≠ 0
  · by_cases hlt : canErrorNoackMax < h.noackCounter + 1
    · simp [hl, ha, hlt, canErrorSetListenOnly]
    · simp [hl, ha, hlt]
  · simp [hl, ha]

/-- A listen-only interface stays listen-only through error frames without the bus-off bit. -/
theorem canErrorRxMsgError_listenOnly (hb : m.canId &&& canErrBusoff = 0)
    (hl : h.listenOnly = true) : (h.canErrorRxMsgError m now).1.listenOnly = true := by
  have he : h.entersListenOnly m = false := by simp [entersListenOnly, hb, hl]
  exact (canErrorRxMsgError_of_not_enters h m now he).1.trans hl

end noack

/-- From an active interface with a zero no-ACK count, error frames without the bus-off bit
    put the interface in listen-only exactly once some prefix of them ends with
    `CO_CANerror_NOACK_MAX + 1` no-ACK frames in a row. Until then the count is the no-ACK
    frames in a row at the end. -/
theorem afterErrorFrames_noack {h : CANinterfaceErrorhandler} (hl : h.listenOnly = false)
    (hc : h.noackCounter = 0) (frames : List (CanFrame × Timespec))
    (hb : ∀ f ∈ frames, f.1.canId &&& canErrBusoff = 0) :
    ((afterErrorFrames h frames).listenOnly = true ↔
        ∃ pre, pre <+: frames.map Prod.fst ∧ canErrorNoackMax.toNat + 1 ≤ ackStreak pre) ∧
      ((afterErrorFrames h frames).listenOnly = false →
        (afterErrorFrames h frames).noackCounter.toNat = ackStreak (frames.map Prod.fst)) := by
  induction frames using List.reverseRecOn with
  | nil =>
    refine ⟨?_, fun _ => by simp [afterErrorFrames, hc]⟩
    simp only [afterErrorFrames, List.foldl_nil, hl, Bool.false_eq_true, List.map_nil,
      List.prefix_nil, false_iff, not_exists, not_and]
    rintro _ rfl
    simp [canErrorNoackMax]
  | append_singleton frames f ih =>
    simp only [List.forall_mem_append, List.forall_mem_singleton] at hb
    obtain ⟨ih₁, ih₂⟩ := ih hb.1
    have hfb := hb.2
    have hstep : afterErrorFrames h (frames ++ [f]) =
        ((afterErrorFrames h frames).canErrorRxMsgError f.1 f.2).1 := by
      simp [afterErrorFrames]
    rw [hstep, List.map_append, List.map_singleton]
    simp only [List.prefix_concat_iff, or_and_right, exists_or, exists_eq_left]
    cases hl₁ : (afterErrorFrames h frames).listenOnly with
    | true =>
      rw [canErrorRxMsgError_listenOnly hfb hl₁]
      exact ⟨iff_of_true rfl (.inr (ih₁.mp hl₁)), fun h => nomatch h⟩
    | false =>
      have hno : ¬∃ pre, pre <+: frames.map Prod.fst ∧ canErrorNoackMax.toNat + 1 ≤ ackStreak pre :=
        fun hex => by simp [ih₁.mpr hex] at hl₁
      have hcount := ih₂ hl₁
      have hle : ackStreak (frames.map Prod.fst) ≤ canErrorNoackMax.toNat :=
        Nat.le_of_not_lt fun hlt => hno ⟨_, List.prefix_refl _, hlt⟩
      obtain ⟨hL, hC⟩ := @canErrorRxMsgError_noack _ _ f.2 hfb hl₁
      have h1 : (1 : UInt32).toNat = 1 := rfl
      have hmax : canErrorNoackMax.toNat = 16 := rfl
      rw [hmax] at hle hno ⊢
      have hsucc : ((afterErrorFrames h frames).noackCounter + 1).toNat =
          ackStreak (frames.map Prod.fst) + 1 := by
        rw [UInt32.toNat_add_of_lt (by rw [hcount, h1]; omega), hcount, h1]
      have hlt_iff : canErrorNoackMax < (afterErrorFrames h frames).noackCounter + 1 ↔
          16 + 1 ≤ ackStreak (frames.map Prod.fst) + 1 := by
        show canErrorNoackMax.toNat < ((afterErrorFrames h frames).noackCounter + 1).toNat ↔ _
        rw [hsucc, hmax]
        omega
      rw [hL, hC, ackStreak_concat]
      cases f.1.isNoack
      · simp [hno]
      · simp [hlt_iff, hno, hsucc]

/-- Sixteen no-ACK error frames in a row after `CO_CANerror_init` leave the interface active;
    only the seventeenth puts it in listen-only. -/
theorem noack_sixteen_stays_active :
    let ack : CanFrame := ⟨canErrFlag ||| canErrAck, List.replicate 8 0, rfl⟩
    let frames := List.replicate 16 (ack, Timespec.zero)
    (afterErrorFrames (canErrorInit 3) frames).listenOnly = false ∧
      (afterErrorFrames (canErrorInit 3) (frames ++ [(ack, Timespec.zero)])).listenOnly = true := by
  decide

end CANopenLinux
