import CANopenLinux.Native.Mainline

/-!
# The auto-save emergency

The mainline raises or clears `CO_EM_NON_VOLATILE_AUTO_SAVE` only when the error mask
changes. That reports the mask faithfully as long as the condition already says what
`storageErrorPrev` says (`Synced`). From such a state, every tick on a configured node leaves
the condition active exactly when its mask is non-zero (`storagePass_tick`).

Two steps break `Synced`, because `storageErrorPrev` is a local of `main`:
- a tick while the node-id is unconfigured records a new mask without reporting it;
- a communication reset clears the condition but keeps a non-zero `storageErrorPrev`.

Every run that avoids both keeps `Synced` (`autoSaveError_iff_mask`). After either of them,
the next configured tick with the same mask leaves a failing auto-save unreported
(`autoSaveError_lost`).
-/

namespace CANopenLinux

/-- The emergency condition says what `storageErrorPrev` says. -/
def Synced (s : Mainline) : Prop := s.autoSaveError = decide (s.storageErrorPrev ≠ 0)

/-- A pass that cannot desynchronise the condition: the node-id is configured, the interval
    has not run out, or the mask is the previous one. -/
def KeepsSync (s : Mainline) (mask : UInt32) : Prop :=
  s.nodeIdUnconfigured = false ∨ s.storageIntervalTimer < coStorageAutoInterval ∨
    mask = s.storageErrorPrev

section pass

variable {s : Mainline} {dt mask : UInt32}

/-- A tick on a configured node leaves the condition active exactly when the mask is
    non-zero, if the state was synced or the mask is new. -/
theorem storagePass_tick (hconf : s.nodeIdUnconfigured = false)
    (htick : ¬s.storageIntervalTimer < coStorageAutoInterval)
    (h : Synced s ∨ mask ≠ s.storageErrorPrev) :
    (storagePass s dt mask).autoSaveError = decide (mask ≠ 0) := by
  unfold storagePass
  rw [if_neg htick]
  by_cases hm : mask = s.storageErrorPrev
  · have hs : Synced s := h.resolve_right (not_not.mpr hm)
    simp only [hm, ne_eq, not_true_eq_false, false_and, ↓reduceIte]
    exact hs
  · simp [hm, hconf]

/-- A pass that keeps sync keeps the state synced. -/
theorem synced_storagePass (h : Synced s) (hk : KeepsSync s mask) :
    Synced (storagePass s dt mask) := by
  by_cases htick : s.storageIntervalTimer < coStorageAutoInterval
  · simpa [storagePass, htick, Synced] using h
  have hprev : (storagePass s dt mask).storageErrorPrev = mask := by simp [storagePass, htick]
  unfold Synced
  rcases hk with hconf | hlt | hm
  · rw [hprev, @storagePass_tick s dt mask hconf htick (.inl h)]
  · exact absurd hlt htick
  · rw [hprev, hm]
    simpa [storagePass, htick, hm, Synced] using h

/-- A communication reset with no failure recorded leaves the state synced. -/
theorem synced_commReset (h₀ : s.storageErrorPrev = 0) (u : Bool) : Synced (commReset s u) := by
  simp [Synced, commReset, h₀]

end pass

/-- The runs of `main` that keep the condition synced: from before the first communication
    reset, passes that keep sync, and communication resets while no failure is recorded. -/
inductive SyncedRun : Mainline → Prop
  | start : SyncedRun mainlineStart
  | pass {s : Mainline} (dt mask : UInt32) : SyncedRun s → KeepsSync s mask →
      SyncedRun (storagePass s dt mask)
  | reset {s : Mainline} (u : Bool) : SyncedRun s → s.storageErrorPrev = 0 →
      SyncedRun (commReset s u)

theorem synced_of_syncedRun {s : Mainline} (h : SyncedRun s) : Synced s := by
  induction h with
  | start => rfl
  | pass dt mask _ hk ih => exact synced_storagePass ih hk
  | reset u _ h₀ _ => exact synced_commReset h₀ u

/-- Along such a run, after every auto-save tick on a configured node, the emergency
    `CO_EM_NON_VOLATILE_AUTO_SAVE` is active exactly when the tick's mask is non-zero. -/
theorem autoSaveError_iff_mask {s : Mainline} (h : SyncedRun s)
    (hconf : s.nodeIdUnconfigured = false) (htick : ¬s.storageIntervalTimer < coStorageAutoInterval)
    (dt mask : UInt32) : (storagePass s dt mask).autoSaveError = true ↔ mask ≠ 0 := by
  rw [storagePass_tick hconf htick (.inl (synced_of_syncedRun h)), decide_eq_true_iff]

/-- Two runs of `main`, each ending in a tick on a configured node whose mask `1` reports a
    failing auto-save, with the emergency left inactive:
    - a configured node raises the emergency, a communication reset clears it, and the
      failure persists;
    - a failure is first seen while the node-id is unconfigured, and LSS configuration then
      resets communication. -/
theorem autoSaveError_lost :
    let a : Mainline := runMainline [.reset false, .pass 60000000 0, .pass 0 1, .reset false,
      .pass 60000000 0]
    let b : Mainline := runMainline [.reset true, .pass 60000000 0, .pass 0 1, .reset false,
      .pass 60000000 0]
    a.nodeIdUnconfigured = false ∧ ¬a.storageIntervalTimer < coStorageAutoInterval ∧
      (storagePass a 0 1).autoSaveError = false ∧
      b.nodeIdUnconfigured = false ∧ ¬b.storageIntervalTimer < coStorageAutoInterval ∧
      (storagePass b 0 1).autoSaveError = false := by
  decide

end CANopenLinux
