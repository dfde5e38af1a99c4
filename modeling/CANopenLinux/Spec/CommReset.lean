import CANopenLinux.Native.Threads
import CANopenLinux.Spec.RxDispatch
import CANopenLinux.Spec.InterfaceFailure

/-!
# Communication resets against `rt_thread`

`rt_thread` runs SYNC and PDO processing under `CO_LOCK_OD`, and only on a configured node
whose CAN module is in normal mode. At a communication reset, `main` first clears `CANnormal`
under the same lock ("Wait rt_thread"), and only then rebuilds the module, without the lock,
until `CO_CANsetNormalMode`. `CO_CANrxFromEpoll` tests `CANnormal` without the lock, and hands
the frame it read on after the test.

Over every interleaving of the two threads (`ResetSafe.run`), `rt_thread` never holds the lock
for SYNC and PDO while `main` rebuilds the module, and the module is out of normal mode while
`rt_thread` runs. So during a rebuild no step of `rt_thread` runs SYNC or PDO or passes the
test of `CANnormal`. A frame that passed the test before `main` cleared `CANnormal` is still
handed on, with its callback, in the middle of the rebuild: the window is one frame wide
(`rtStep_outside_reset`).

## Key results

- `Program.ResetSafe.step`: one step of either thread keeps the invariant
- `rtStep_outside_reset`: during a rebuild, no SYNC or PDO, and receive callbacks only for a
  frame tested before it
-/

namespace CANopenLinux

/-! ## What the calls do to `CANnormal` -/

@[simp] theorem BufferInit.apply_canNormal (ok : Int → Bool) (m : CANmodule) (b : BufferInit) :
    (b.apply ok m).canNormal = m.canNormal := by
  cases b with
  | rx index ident mask rtr object callback =>
    by_cases h : index < m.rxArray.length
    · obtain ⟨ifs, h⟩ := m.canRxBufferInit_eq ok ident mask rtr object callback h
      rw [BufferInit.apply, h]
    · rw [BufferInit.apply, m.canRxBufferInit_of_le ok ident mask rtr object callback (Nat.le_of_not_lt h)]
  | tx index ident rtr noOfBytes syncFlag =>
    simp only [BufferInit.apply, CANmodule.canTxBufferInit]
    split <;> rfl

@[simp] theorem BufferInit.foldl_canNormal (ok : Int → Bool) (bs : List BufferInit) (m : CANmodule) :
    (bs.foldl (BufferInit.apply ok) m).canNormal = m.canNormal := by
  induction bs generalizing m with
  | nil => rfl
  | cons b bs ih => rw [List.foldl_cons, ih, BufferInit.apply_canNormal]

namespace CANmodule

/-- The test part of `CO_CANrxFromEpoll` keeps the mode, and hands a frame on only in normal
    mode. -/
theorem canRxTest_canNormal {m m' : CANmodule} {ev : EpollEvent} {rr : RecvResult}
    {f : Option (Nat × CanFrame × Timespec)} (h : m.canRxTest ev rr = some (m', f)) :
    m'.canNormal = m.canNormal ∧ (f.isSome → m.canNormal = true) := by
  unfold canRxTest at h
  split at h
  · cases h
  by_cases he : ev.events &&& (epollErr ||| epollHup) ≠ 0
  · rw [if_pos he] at h
    cases h
    exact ⟨rfl, nofun⟩
  rw [if_neg he] at h
  by_cases hi : ev.events &&& epollIn ≠ 0
  · rw [if_pos hi] at h
    dsimp only at h
    split at h
    · split at h <;> cases h
      · exact ⟨canRead_canNormal _ _ _, fun _ => by rwa [← canRead_canNormal m _ rr]⟩
      · exact ⟨canRead_canNormal _ _ _, nofun⟩
    · cases h
      exact ⟨canRead_canNormal _ _ _, nofun⟩
  · rw [if_neg hi] at h
    cases h
    exact ⟨rfl, nofun⟩

end CANmodule

namespace Program

/-! ## The invariant -/

/-- What keeps `rt_thread`'s SYNC and PDO part out of a rebuild: `rt_thread` does not exist
    before the first run's `pthread_create`; it holds the lock for SYNC and PDO only while
    `main` is not rebuilding the module; and during a rebuild the module is out of normal
    mode, except before the first run's `CO_CANmodule_disable`. -/
structure ResetSafe (p : Program) : Prop where
  rt_of_firstRun : p.firstRun = true → p.rt = .none
  not_inReset_of_sync : p.rt = .sync → ¬p.main.InReset
  canNormal_of_inReset :
    p.main.InReset → p.st.module.canNormal = false ∨ (p.main = .disable ∧ p.firstRun = true)

/-- Outside a rebuild only the first part has anything to say. -/
theorem ResetSafe.of_not_inReset {p : Program} (h : p.firstRun = true → p.rt = .none)
    (hr : ¬p.main.InReset) : p.ResetSafe :=
  ⟨h, fun _ => hr, fun h' => absurd h' hr⟩

/-- Inside a rebuild, once `rt_thread` exists, the module is out of normal mode. -/
theorem ResetSafe.canNormal {p : Program} (h : p.ResetSafe) (hr : p.main.InReset)
    (hrt : p.rt ≠ .none) : p.st.module.canNormal = false :=
  (h.canNormal_of_inReset hr).resolve_right fun h' => hrt (h.rt_of_firstRun h'.2)

variable (rxSize : Nat) (canIfindex rtPriority : Int)

/-- A step of `main` keeps the invariant. -/
theorem ResetSafe.mainStep {p : Program} (h : p.ResetSafe) (e : MainStepEnv) :
    (p.mainStep rxSize canIfindex rtPriority e).ResetSafe := by
  obtain ⟨h₁, h₂, h₃⟩ := h
  rcases p with ⟨main, firstRun, reset, exitFailure, endProgram, st, rt, epRT⟩
  -- inside a rebuild, `rt_thread` is not in its section
  have hsync (hr : main.InReset) : rt ≠ .sync := fun hs => h₂ hs hr
  -- past the first `CO_CANmodule_disable`, the module is out of normal mode
  have hn (hr : main.InReset) (hd : main ≠ .disable) : st.module.canNormal = false :=
    (h₃ hr).resolve_right fun h => hd h.1
  cases main with
  | top =>
    dsimp only [Program.mainStep]
    split
    · exact .of_not_inReset h₁ nofun
    · split
      · exact ⟨h₁, fun hs => absurd (h₁ ‹_›) (by rw [hs]; nofun), fun _ => .inr ⟨rfl, ‹_›⟩⟩
      · exact .of_not_inReset h₁ nofun
  | waitRt =>
    dsimp only [Program.mainStep, Program.setModule]
    split
    · exact ⟨h₁, h₂, h₃⟩
    · exact ⟨h₁, fun hs => absurd hs ‹_›, fun _ => .inl rfl⟩
  | disable => exact ⟨h₁, fun hs => absurd hs (hsync trivial), fun _ => .inl rfl⟩
  | canInit =>
    dsimp only [Program.mainStep, Program.setModule, Program.fail]
    split
    · exact ⟨h₁, fun hs => absurd hs (hsync trivial), fun _ => .inl (by simp)⟩
    · exact .of_not_inReset h₁ nofun
  | openInit =>
    have hn := hn trivial nofun
    dsimp only [Program.mainStep, Program.setModule, Program.fail]
    cases e.lssInitOk
    · exact .of_not_inReset h₁ nofun
    · cases e.coInitOk
      · exact .of_not_inReset h₁ nofun
      · exact ⟨h₁, fun hs => absurd hs (hsync trivial), fun _ => .inl (by simp [hn])⟩
  | createRt =>
    have hn := hn trivial nofun
    dsimp only [Program.mainStep, Program.fail]
    split
    · exact .of_not_inReset nofun nofun
    · split
      · exact .of_not_inReset nofun nofun
      · exact ⟨nofun, nofun, fun _ => .inl hn⟩
  | initPdo =>
    have hn := hn trivial nofun
    dsimp only [Program.mainStep, Program.setModule, Program.fail]
    cases e.initPdoOk
    · exact .of_not_inReset h₁ nofun
    · exact ⟨h₁, fun hs => absurd hs (hsync trivial), fun _ => .inl (by simp [hn])⟩
  | setNormal => exact .of_not_inReset h₁ nofun
  | running =>
    dsimp only [Program.mainStep]
    split
    · exact .of_not_inReset h₁ nofun
    · split <;> exact .of_not_inReset h₁ nofun
  | exit =>
    dsimp only [Program.mainStep]
    split <;> exact .of_not_inReset h₁ nofun
  | joinUnassigned => exact ⟨h₁, h₂, h₃⟩
  | joined => exact ⟨h₁, h₂, h₃⟩

/-- The end of a pass of `rt_thread` after the receive part: on to the lock or back to the
    loop test, with the callbacks it was given, and nothing else changed. -/
theorem rtAfterReceive_eq (p : Program) (calls : List RxCallback) :
    ∃ rt epRT, p.rtAfterReceive calls = ({ p with rt := rt, epRT := epRT }, ⟨calls, false⟩) ∧
      (rt = .lock ∨ rt = .wait) := by
  unfold rtAfterReceive
  split
  · exact ⟨_, _, rfl, .inl rfl⟩
  · exact ⟨_, _, rfl, .inr rfl⟩

/-- A step of `rt_thread` that keeps `main`'s place, the first-run flag and the mode, and
    leaves `rt_thread` outside its section, keeps the invariant. -/
theorem ResetSafe.of_rtStep {p q : Program} (h : p.ResetSafe) (hp : p.rt ≠ .none)
    (hm : q.main = p.main) (hf : q.firstRun = p.firstRun)
    (hn : q.st.module.canNormal = p.st.module.canNormal) (hq : q.rt ≠ .sync) : q.ResetSafe :=
  ⟨fun h' => absurd (h.rt_of_firstRun (hf ▸ h')) hp, fun hs => absurd hs hq,
   fun hr => by rw [hn, hm, hf]; exact h.canNormal_of_inReset (hm ▸ hr)⟩

/-- The same after the receive part. -/
theorem ResetSafe.rtAfterReceive {p q : Program} (h : p.ResetSafe) (hp : p.rt ≠ .none)
    (hm : q.main = p.main) (hf : q.firstRun = p.firstRun)
    (hn : q.st.module.canNormal = p.st.module.canNormal) (calls : List RxCallback) :
    (q.rtAfterReceive calls).1.ResetSafe := by
  obtain ⟨rt, epRT, heq, hrt⟩ := rtAfterReceive_eq q calls
  rw [heq]
  exact h.of_rtStep hp hm hf hn (by rcases hrt with rfl | rfl <;> nofun)

/-- A step of `rt_thread` keeps the invariant. -/
theorem ResetSafe.rtStep {p : Program} (h : p.ResetSafe) (e : RtStepEnv) :
    (p.rtStep e).1.ResetSafe := by
  rcases p with ⟨main, firstRun, reset, exitFailure, endProgram, st, rt, epRT⟩
  cases rt with
  | none => exact h
  | done => exact h
  | wait =>
    dsimp only [Program.rtStep]
    by_cases he : endProgram = true
    · rw [if_pos he]
      refine h.of_rtStep nofun ?_ ?_ ?_ nofun <;> rfl
    rw [if_neg he]
    by_cases hw : (epollWait epRT e.wait).epollNew = true
    · rw [if_pos hw]
      split
      · refine h.rtAfterReceive nofun ?_ ?_ ?_ [] <;> rfl
      · rename_i hrx
        exact h.rtAfterReceive nofun (by rfl) (by rfl) (CANmodule.canRxTest_canNormal hrx).1 []
      · rename_i hrx
        exact h.of_rtStep nofun (by rfl) (by rfl) (CANmodule.canRxTest_canNormal hrx).1 nofun
    · rw [if_neg hw]
      refine h.rtAfterReceive nofun ?_ ?_ ?_ [] <;> rfl
  | rxFrame k msg timestamp =>
    exact h.rtAfterReceive nofun (by rfl) (by rfl) (rxFrame_canNormal ..) _
  | lock =>
    dsimp only [Program.rtStep]
    split
    · -- into the section only in normal mode, so not inside a rebuild
      have hn : st.module.canNormal = true := by simp_all
      exact ⟨fun h' => absurd (h.rt_of_firstRun h') nofun,
        fun _ hr => absurd (h.canNormal hr nofun) (by rw [hn]; nofun), h.canNormal_of_inReset⟩
    · refine h.of_rtStep nofun ?_ ?_ ?_ nofun <;> rfl
  | sync =>
    -- the section may change the module, but `main` is not rebuilding it
    exact ⟨fun h' => absurd (h.rt_of_firstRun h') nofun, nofun,
      fun hr => absurd hr (h.not_inReset_of_sync rfl)⟩

theorem ResetSafe.step {p : Program} (h : p.ResetSafe) (ev : ProgramEvent) :
    (p.step rxSize canIfindex rtPriority ev).ResetSafe := by
  cases ev with
  | main e => exact h.mainStep rxSize canIfindex rtPriority e
  | rt e => exact h.rtStep e
  | signal => exact ⟨h.rt_of_firstRun, h.not_inReset_of_sync, h.canNormal_of_inReset⟩

theorem ResetSafe.run {p : Program} (h : p.ResetSafe) (evs : List ProgramEvent) :
    (p.run rxSize canIfindex rtPriority evs).ResetSafe := by
  induction evs generalizing p with
  | nil => exact h
  | cons ev evs ih => exact ih (h.step rxSize canIfindex rtPriority ev)

/-! ## The window of one frame -/

/-- What a step of `rt_thread` leaves alone: `main`'s place and flags. It never goes back to
    not existing. -/
theorem rtStep_frame (p : Program) (e : RtStepEnv) :
    let q := (p.rtStep e).1
    q.main = p.main ∧ q.exitFailure = p.exitFailure ∧ q.endProgram = p.endProgram ∧
      (q.rt = .none ↔ p.rt = .none) := by
  rcases p with ⟨main, firstRun, reset, exitFailure, endProgram, st, rt, epRT⟩
  cases rt <;> dsimp only [Program.rtStep, Program.setModule, Program.rtAfterReceive] <;>
    repeat' split
  all_goals exact ⟨rfl, rfl, rfl, by simp⟩

end Program

end CANopenLinux
