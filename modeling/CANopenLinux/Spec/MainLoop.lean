import Mathlib.Algebra.Order.Ring.Nat
import CANopenLinux.Native.MainLoop
import CANopenLinux.Spec.EpollTimer
import CANopenLinux.Spec.RxDispatch
import CANopenLinux.Spec.GatewayShutdown

/-!
# The threads' loops refine the epoll loop

The handlers a pass runs between `CO_epoll_wait` and `CO_epoll_processLast` write only
`timerNext_us` and `epoll_new` of the epoll object (`Epoll.HandledFrom`). So every pass of
`main`'s loop, in either build, does to `epMain` what the abstract pass `epollPass` does with
the values its handlers leave, and every run of the loop is a run of `epollRun`
(`mainRun_epollRun`). The timer invariant of `EpollTimer` then holds over every run of the
real loop (`mainRun_timerInv`).

Two consequences of what the handlers write. While the CAN module holds frames to send,
`CO_epoll_processMain` cuts `timerNext_us` to `CANSEND_DELAY_US`, so the pass re-arms the
timer to fire within `CANSEND_DELAY_US + 1` microseconds (`mainPass_cansend_rearm`).
`rt_thread` passes `NULL` for `timerNext_us`, so its timer is never re-armed
(`rtRun_never_rearms`).

In the single-thread build the CAN driver sees each event first: the gateway gets exactly
the events of `epMain` that are no CAN socket's (`mainPass_gtw`). So the session invariant of
the gateway's socket modes holds over every run of the loop, CAN traffic and idle passes
included, under the conditions `GatewaySession` keeps it under (`mainRun_gtwInv`).

The auto-save block of the loop adds each pass's `timeDifference_us` to `storageIntervalTimer`
in `uint32_t`, which can wrap, and calls `CO_storageLinux_auto_process` once the timer reaches
`CO_STORAGE_AUTO_INTERVAL`. A wrap only delays the call, so two calls are always at least
`CO_STORAGE_AUTO_INTERVAL` of measured time apart, communication resets included
(`autoSave_spacing`).

The TIME object starts from days and milliseconds since 1984-01-01 that `main` computes with
truncating division and wrapping casts; they are exact for 65536 days from that epoch
(`timeFromClock_exact`).
-/

namespace CANopenLinux

namespace Epoll

/-- `ep'` differs from `ep` at most in `timerNext_us` and `epoll_new`, the two fields the
    handlers between `CO_epoll_wait` and `CO_epoll_processLast` write. -/
def HandledFrom (ep' ep : Epoll) : Prop :=
  { ep' with timerNextUs := 0, epollNew := false } = { ep with timerNextUs := 0, epollNew := false }

theorem HandledFrom.refl (ep : Epoll) : ep.HandledFrom ep := rfl

theorem HandledFrom.trans {ep'' ep' ep : Epoll} (h₁ : ep''.HandledFrom ep')
    (h₂ : ep'.HandledFrom ep) : ep''.HandledFrom ep := Eq.trans h₁ h₂

theorem HandledFrom.timerNext {ep' ep : Epoll} (h : ep'.HandledFrom ep) (t : UInt32) :
    { ep' with timerNextUs := t }.HandledFrom ep := h

theorem HandledFrom.epollNew {ep' ep : Epoll} (h : ep'.HandledFrom ep) (b : Bool) :
    { ep' with epollNew := b }.HandledFrom ep := h

theorem HandledFrom.eq {ep' ep : Epoll} (h : ep'.HandledFrom ep) :
    ep' = { ep with timerNextUs := ep'.timerNextUs, epollNew := ep'.epollNew } := by
  cases ep'; cases ep; cases h; rfl

/-- The fields the handlers read and keep. -/
theorem HandledFrom.fields {ep' ep : Epoll} (h : ep'.HandledFrom ep) :
    ep'.ev = ep.ev ∧ ep'.timeDifferenceUs = ep.timeDifferenceUs ∧ ep'.tm = ep.tm ∧
      ep'.timerIntervalUs = ep.timerIntervalUs := by
  rw [h.eq]
  exact ⟨rfl, rfl, rfl, rfl⟩

end Epoll

open Epoll

/-- What the handlers leave is what the abstract pass starts `CO_epoll_processLast` from. -/
theorem epollProcessLast_of_handled {ep ep' : Epoll} {w : WaitEnv}
    (h : ep'.HandledFrom (epollWait ep w)) :
    epollProcessLast ep' = epollPass ep ⟨w, ep'.timerNextUs, ep'.epollNew⟩ :=
  congrArg epollProcessLast h.eq

/-! ## The handlers -/

section handlers

variable (ep : Epoll) (m : CANmodule) (rr : RecvResult) (now : Timespec)

/-- The receive part writes only `epoll_new` of the epoll object. -/
theorem rtReceive_frame : (rtReceive ep m rr now).ep.HandledFrom ep ∧
    (rtReceive ep m rr now).ep.timerNextUs = ep.timerNextUs := by
  unfold rtReceive
  split
  · dsimp only
    split <;> exact ⟨rfl, rfl⟩
  · exact ⟨rfl, rfl⟩

/-- The receive part leaves `epoll_new` set exactly when it was and the event is none of the
    CAN sockets'. -/
theorem rtReceive_epollNew :
    (rtReceive ep m rr now).ep.epollNew = (ep.epollNew && !m.canInterfaces.any (·.fd = ep.ev.fd)) := by
  have hc : (m.canRxFromEpoll ep.ev rr now).consumed = m.canInterfaces.any (·.fd = ep.ev.fd) := by
    rw [Bool.eq_iff_iff, canRxFromEpoll_consumed]
    simp
  unfold rtReceive
  by_cases hn : ep.epollNew
  · simp only [if_pos hn, hc, hn, Bool.true_and]
    cases m.canInterfaces.any (·.fd = ep.ev.fd) <;> simp [hn]
  · simp [hn]

variable (u realtime : Bool) (f : CANmodule → UInt32 → Option UInt32 → CANmodule × UInt32)

theorem processRT_handled : (processRT ep m u realtime rr now f).ep.HandledFrom ep := by
  have h := (rtReceive_frame ep m rr now).1
  dsimp only [processRT]
  split
  · split
    · exact h.timerNext _
    · exact h
  · exact h

/-- The receive part decides `epoll_new`; SYNC and the PDOs do not touch it. -/
theorem processRT_epollNew :
    (processRT ep m u realtime rr now f).ep.epollNew = (rtReceive ep m rr now).ep.epollNew := by
  dsimp only [processRT]
  split <;> (try split) <;> rfl

/-- `rt_thread` gives SYNC and the PDOs no pointer to `timerNext_us`, so they cannot lower it. -/
theorem processRT_realtime_timerNext :
    (processRT ep m u true rr now f).ep.timerNextUs = ep.timerNextUs := by
  rw [← (rtReceive_frame ep m rr now).2]
  dsimp only [processRT]
  split <;> (try split) <;> rfl

end handlers

section processMain

variable (ep : Epoll) (m : CANmodule) (g : Bool)
  (f : Bool → CANmodule → UInt32 → UInt32 → CANmodule × UInt32 × NmtResetCmd)

theorem processMain_handled : (processMain ep m g f).1.HandledFrom ep := by
  dsimp only [processMain]
  split_ifs
  · exact (HandledFrom.refl ep).timerNext _
  · exact (HandledFrom.refl ep).timerNext _

/-- While the CAN module `CO_process` leaves holds frames to send, the pass asks for the next
    one within `CANSEND_DELAY_US`. -/
theorem processMain_cansend (htx : 0 < (processMain ep m g f).2.1.canTxCount) :
    (processMain ep m g f).1.timerNextUs ≤ cansendDelayUs := by
  dsimp only [processMain] at htx ⊢
  by_cases hc : (f g m ep.timeDifferenceUs ep.timerNextUs).1.canTxCount > 0 ∧
      (f g m ep.timeDifferenceUs ep.timerNextUs).2.1 > cansendDelayUs
  · rw [if_pos hc]
    exact UInt32.le_refl _
  · rw [if_neg hc]
    exact UInt32.not_lt.mp fun h => hc ⟨htx, h⟩

end processMain

/-! ## `main`'s loop -/

section mainLoop

variable (st : Bool) (s : MainState) (e : MainPassEnv)

/-- One pass of `main`'s loop, in either build, does to `epMain` what the abstract pass does
    with the `timerNext_us` and `epoll_new` its handlers leave. While the CAN module holds
    frames to send, that `timerNext_us` is at most `CANSEND_DELAY_US`. -/
theorem mainPass_epollPass :
    ∃ p : EpollPass, p.wait = e.wait ∧
      ((mainPass st s e).state.ep, (mainPass st s e).rearm) = epollPass s.ep p ∧
      (0 < (mainPass st s e).state.module.canTxCount → p.timerNextUs ≤ cansendDelayUs) := by
  let ep := epollWait s.ep e.wait
  let rt : RtResult := if st then
      processRT ep s.module s.mainline.nodeIdUnconfigured false e.recv e.now e.syncPdo
    else ⟨ep, s.module, []⟩
  have hrt : rt.ep.HandledFrom ep := by
    by_cases hst : st
    · simp only [rt, if_pos hst]; exact processRT_handled ..
    · simp only [rt, if_neg hst]; exact HandledFrom.refl ep
  let kernel := if e.wait.ready = 1 then s.kernel.report s.gtw.gtwaFdSocket e.wait.ev.fd
    else s.kernel
  let g := processGtw s.gtw kernel rt.ep.epollNew rt.ep.ev
    { e.gtw with nodeIdUnconfigured := s.mainline.nodeIdUnconfigured } rt.ep.timeDifferenceUs
  let mn := processMain { rt.ep with epollNew := g.epollNew } rt.module gatewayEnable e.coProcess
  have hmn : mn.1.HandledFrom ep := (processMain_handled ..).trans (hrt.epollNew _)
  exact ⟨⟨e.wait, mn.1.timerNextUs, mn.1.epollNew⟩, rfl, epollProcessLast_of_handled hmn,
    processMain_cansend _ _ _ _⟩

/-- Every run of `main`'s loop, in either build, is a run of the abstract epoll loop: `epMain`
    at the end and the re-arms of the timer are those of `epollRun` over passes with the
    same `CO_epoll_wait`s, one per pass the loop ran. -/
theorem mainRun_epollRun (es : List MainPassEnv) :
    ∃ ps : List EpollPass, ps.map (·.wait) <+: es.map (·.wait) ∧
      ((mainRun st s es).1.ep, (mainRun st s es).2.1) = epollRun s.ep ps := by
  induction es generalizing s with
  | nil => exact ⟨[], List.nil_prefix, rfl⟩
  | cons e es ih =>
    obtain ⟨p, hw, hp, -⟩ := mainPass_epollPass st s e
    have hp₁ : (mainPass st s e).state.ep = (epollPass s.ep p).1 := (Prod.ext_iff.mp hp).1
    have hp₂ : (mainPass st s e).rearm = (epollPass s.ep p).2 := (Prod.ext_iff.mp hp).2
    by_cases hr : (mainPass st s e).reset = .not
    · obtain ⟨ps, hpre, hps⟩ := ih (mainPass st s e).state
      refine ⟨p :: ps, by simpa [hw] using hpre, ?_⟩
      simp only [mainRun, if_pos hr, epollRun, ← hp₁, ← hp₂, ← hps]
    · refine ⟨[p], by simp [hw], ?_⟩
      simp only [mainRun, if_neg hr, epollRun, hp₁, hp₂, List.append_nil]

/-- Over every run of `main`'s loop from an `epMain` with the timer invariant for interval
    `I`, the invariant holds, and every re-arm of the timer has period `I` and a value of
    `n + 1` microseconds for some `n` below `I`. -/
theorem mainRun_timerInv {I : UInt32} (hinv : TimerInv I s.ep) (es : List MainPassEnv) :
    TimerInv I (mainRun st s es).1.ep ∧ ∀ tm ∈ (mainRun st s es).2.1,
      tm.itInterval = TimerSpec.ofUs I.toNat ∧
        ∃ n : UInt32, n < I ∧ tm.itValue = TimerSpec.ofUs (n.toNat + 1) := by
  induction es generalizing s with
  | nil => exact ⟨hinv, fun _ h => nomatch h⟩
  | cons e es ih =>
    obtain ⟨p, -, hp, -⟩ := mainPass_epollPass st s e
    obtain ⟨hinv', harm⟩ := hinv.pass p
    rw [← show (mainPass st s e).state.ep = (epollPass s.ep p).1 from (Prod.ext_iff.mp hp).1] at hinv'
    rw [← show (mainPass st s e).rearm = (epollPass s.ep p).2 from (Prod.ext_iff.mp hp).2] at harm
    -- the re-arm of this pass, if any, has the shape `CO_epoll_processLast` gives it
    have hthis : ∀ tm ∈ (mainPass st s e).rearm.toList, tm.itInterval = TimerSpec.ofUs I.toNat ∧
        ∃ n : UInt32, n < I ∧ tm.itValue = TimerSpec.ofUs (n.toNat + 1) := by
      intro tm htm
      rw [harm] at htm
      split at htm
      · cases List.mem_singleton.mp htm
        exact ⟨rfl, p.timerNextUs, by assumption, rfl⟩
      · cases htm
    by_cases hr : (mainPass st s e).reset = .not
    · obtain ⟨ihinv, iharm⟩ := ih (mainPass st s e).state hinv'
      simp only [mainRun, if_pos hr, List.mem_append]
      exact ⟨ihinv, fun tm htm => htm.elim (hthis tm) (iharm tm)⟩
    · simp only [mainRun, if_neg hr]
      exact ⟨hinv', hthis⟩

/-- `epMain` as a successful `CO_epoll_create` with `MAIN_THREAD_INTERVAL_US` leaves it, before
    the loop's first pass. -/
theorem mainRun_timerInv_epMain :
    let ep : Epoll := ⟨3, 4, 5, 100000, 0, 0, false, 0,
      ⟨TimerSpec.ofUs 100000, ⟨0, 1⟩⟩, ⟨0, 0⟩, false⟩
    let s : MainState := ⟨ep, ⟨[], [], [], 0, [], 0, true, 0⟩,
      ⟨coCommandIfDisabled, 0, 0, -1, -1, false⟩, ⟨[], [], false⟩, mainlineStart⟩
    TimerInv mainThreadIntervalUs s.ep ∧
      (TimerInv mainThreadIntervalUs (mainRun true s []).1.ep ∧ ∀ tm ∈ (mainRun true s []).2.1,
        tm.itInterval = TimerSpec.ofUs mainThreadIntervalUs.toNat ∧
          ∃ n : UInt32, n < mainThreadIntervalUs ∧ tm.itValue = TimerSpec.ofUs (n.toNat + 1)) :=
  have hinv : TimerInv mainThreadIntervalUs _ := ⟨rfl, rfl, fun _ => rfl⟩
  ⟨hinv, mainRun_timerInv true _ hinv []⟩

/-- A pass after which the CAN module still holds frames to send re-arms the timer of
    `epMain`, whose interval exceeds `CANSEND_DELAY_US`, to fire after `n + 1` microseconds
    with `n` at most `CANSEND_DELAY_US`, in either build. -/
theorem mainPass_cansend_rearm {I : UInt32} (hinv : TimerInv I s.ep) (hI : cansendDelayUs < I)
    (htx : 0 < (mainPass st s e).state.module.canTxCount) :
    ∃ n : UInt32, n ≤ cansendDelayUs ∧
      (mainPass st s e).rearm = some ⟨TimerSpec.ofUs I.toNat, TimerSpec.ofUs (n.toNat + 1)⟩ := by
  obtain ⟨p, -, hp, hcan⟩ := mainPass_epollPass st s e
  have hle := hcan htx
  have hlt : p.timerNextUs.toNat < I.toNat :=
    Nat.lt_of_le_of_lt (hle : p.timerNextUs.toNat ≤ cansendDelayUs.toNat) hI
  refine ⟨p.timerNextUs, hle, ?_⟩
  rw [show (mainPass st s e).rearm = (epollPass s.ep p).2 from (Prod.ext_iff.mp hp).2,
    (hinv.pass p).2, if_pos (show p.timerNextUs < I from hlt)]

/-- `epMain` with `MAIN_THREAD_INTERVAL_US` as `CO_epoll_create` leaves it, and a pass whose
    `CO_process` leaves one frame queued. -/
theorem mainPass_cansend_rearm_queued :
    let ep : Epoll := ⟨3, 4, 5, 100000, 0, 0, false, 0,
      ⟨TimerSpec.ofUs 100000, ⟨0, 1⟩⟩, ⟨0, 0⟩, false⟩
    let m : CANmodule := ⟨[], [], [], 0, [], 0, true, 0⟩
    let s : MainState := ⟨ep, m, ⟨coCommandIfDisabled, 0, 0, -1, -1, false⟩, ⟨[], [], false⟩,
      mainlineStart⟩
    let e : MainPassEnv := ⟨⟨1, false, ⟨epollIn, 5⟩, 1000⟩, ⟨0, ⟨0, List.replicate 8 0, rfl⟩, Timespec.zero, 0⟩,
      Timespec.zero, fun m _ _ => (m, 0), ⟨none, true, none, 0, true⟩,
      fun _ m _ t => ({ m with canTxCount := 1 }, t, .not), 0⟩
    TimerInv mainThreadIntervalUs s.ep ∧ cansendDelayUs < mainThreadIntervalUs ∧
      0 < (mainPass false s e).state.module.canTxCount ∧
      ∃ n : UInt32, n ≤ cansendDelayUs ∧ (mainPass false s e).rearm =
        some ⟨TimerSpec.ofUs mainThreadIntervalUs.toNat, TimerSpec.ofUs (n.toNat + 1)⟩ :=
  have hinv : TimerInv mainThreadIntervalUs _ := ⟨rfl, rfl, fun _ => rfl⟩
  ⟨hinv, by decide, by decide, mainPass_cansend_rearm _ _ _ hinv (by decide) (by decide)⟩

/-- In the single-thread build the CAN driver sees each event first. The gateway's call of
    the pass is `CO_epoll_processGtw` with `epoll_new` set exactly when `CO_epoll_wait` left an
    event that is no CAN socket's; in the other build, whenever `CO_epoll_wait` left one. -/
theorem mainPass_gtw :
    let ep : Epoll := epollWait s.ep e.wait
    let kernel := if e.wait.ready = 1 then s.kernel.report s.gtw.gtwaFdSocket e.wait.ev.fd
      else s.kernel
    let toGtw := ep.epollNew && !(st && s.module.canInterfaces.any (·.fd = ep.ev.fd))
    let g := processGtw s.gtw kernel toGtw ep.ev
      { e.gtw with nodeIdUnconfigured := s.mainline.nodeIdUnconfigured } ep.timeDifferenceUs
    (mainPass st s e).state.gtw = g.gtw ∧ (mainPass st s e).state.kernel = g.kernel ∧
      (mainPass st s e).gtwaIn = g.gtwaIn := by
  intro ep kernel toGtw g
  let rt : RtResult := if st then
      processRT ep s.module s.mainline.nodeIdUnconfigured false e.recv e.now e.syncPdo
    else ⟨ep, s.module, []⟩
  have hrt : rt.ep.HandledFrom ep ∧ rt.ep.epollNew = toGtw := by
    by_cases hst : st
    · simp only [rt, toGtw, if_pos hst, hst, Bool.true_and]
      exact ⟨processRT_handled .., (processRT_epollNew ..).trans (rtReceive_epollNew ..)⟩
    · simp only [rt, toGtw, if_neg hst, hst, Bool.false_and, Bool.not_false, Bool.and_true]
      exact ⟨HandledFrom.refl ep, trivial⟩
  obtain ⟨hev, hdt, -⟩ := hrt.1.fields
  show (processGtw s.gtw kernel rt.ep.epollNew rt.ep.ev _ rt.ep.timeDifferenceUs).gtw = g.gtw ∧
    (processGtw s.gtw kernel rt.ep.epollNew rt.ep.ev _ rt.ep.timeDifferenceUs).kernel = g.kernel ∧
    (processGtw s.gtw kernel rt.ep.epollNew rt.ep.ev _ rt.ep.timeDifferenceUs).gtwaIn = g.gtwaIn
  rw [hrt.2, hev, hdt]
  exact ⟨rfl, rfl, rfl⟩

end mainLoop

/-! ## The gateway's session over runs of the loop -/

/-- `CO_epoll_wait` passes on exactly the event `epoll_wait` returned, unless it is an input
    of the notification or the timer descriptor. -/
theorem epollWait_epollNew (ep : Epoll) (w : WaitEnv) :
    (epollWait ep w).epollNew = true ↔ w.ready = 1 ∧
      ¬(w.ev.events &&& epollIn ≠ 0 ∧ w.ev.fd = ep.eventFd) ∧
      ¬(w.ev.events &&& epollIn ≠ 0 ∧ w.ev.fd = ep.timerFd) := by
  unfold epollWait
  simp only [apply_ite Epoll.epollNew, Bool.ite_eq_true_distrib, Bool.false_eq_true, if_false_left,
    if_true_right, ne_eq]
  by_cases hr : w.ready = 1 <;> simp [hr]

theorem epollWait_ev (ep : Epoll) (w : WaitEnv) : (epollWait ep w).ev = w.ev := by
  unfold epollWait
  simp only [apply_ite Epoll.ev, ite_self]

/-- What one pass needs for the gateway's session, the conditions `GtwReachable` takes with
    `NoHangup`: an event `epoll_wait` reports is one it can report, `accept4` hands out a fresh
    descriptor, no descriptor of the gateway hangs up without `EPOLLIN`, and an event of the
    gateway's descriptors is none of `epMain`'s own descriptors' nor, in the single-thread
    build, a CAN socket's. -/
def GtwPassOk (st : Bool) (s : MainState) (e : MainPassEnv) : Prop :=
  e.wait.ready = 1 →
    GtwDelivers s.gtw s.kernel e.wait.ev (s.kernel.report s.gtw.gtwaFdSocket e.wait.ev.fd) ∧
    AcceptFresh (s.kernel.report s.gtw.gtwaFdSocket e.wait.ev.fd) e.gtw ∧
    NoHangup s.gtw e.wait.ev e.gtw ∧
    ((e.wait.ev.fd = s.gtw.gtwaFdSocket ∨ e.wait.ev.fd = s.gtw.gtwaFd) →
      e.wait.ev.fd ≠ s.ep.eventFd ∧ e.wait.ev.fd ≠ s.ep.timerFd ∧
        (st = true → ∀ i ∈ s.module.canInterfaces, i.fd ≠ e.wait.ev.fd))

/-- One pass of the loop is a step of the gateway's socket-mode runs: with an event, the step
    that handles it, and otherwise an idle step. -/
theorem gtwReachable_mainPass (st : Bool) {s : MainState} (e : MainPassEnv)
    (hs : GtwReachable NoHangup s.gtw s.kernel) (hok : GtwPassOk st s e) :
    GtwReachable NoHangup (mainPass st s e).state.gtw (mainPass st s e).state.kernel := by
  obtain ⟨hg, hk, -⟩ := mainPass_gtw st s e
  rw [hg, hk]
  rw [epollWait_ev]
  by_cases hto : ((epollWait s.ep e.wait).epollNew &&
      !(st && s.module.canInterfaces.any (·.fd = e.wait.ev.fd))) = true
  · -- the gateway handles the event
    have hready := ((epollWait_epollNew _ _).mp (Bool.and_eq_true_iff.mp hto).1).1
    obtain ⟨hdel, hfresh, hnh, -⟩ := hok hready
    rw [hto, if_pos hready]
    exact .event _ _ _ hs hdel hfresh hnh
  · -- the gateway gets no event, and the report touched none of its descriptors
    rw [Bool.not_eq_true] at hto
    rw [hto]
    refine .idle _ _ _ ?_
    by_cases hready : e.wait.ready = 1
    · rw [if_pos hready]
      have hne : e.wait.ev.fd ≠ s.gtw.gtwaFdSocket := by
        intro hfd
        obtain ⟨he, ht, hcan⟩ := (hok hready).2.2.2 (.inl hfd)
        have hnew := (epollWait_epollNew s.ep e.wait).mpr
          ⟨hready, fun h => he h.2, fun h => ht h.2⟩
        have hany : (st && s.module.canInterfaces.any (·.fd = e.wait.ev.fd)) = false := by
          cases st
          · rfl
          · simpa using hcan rfl
        simp [hnew, hany] at hto
      simpa only [GtwKernel.report, if_neg hne] using hs
    · rwa [if_neg hready]

/-- What every pass of a run needs for the gateway's session. -/
def GtwRunOk (st : Bool) : MainState → List MainPassEnv → Prop
  | _, [] => True
  | s, e :: es => GtwPassOk st s e ∧ GtwRunOk st (mainPass st s e).state es

/-- Every run of the loop is a socket-mode run of the gateway. -/
theorem gtwReachable_mainRun (st : Bool) {s : MainState} (hs : GtwReachable NoHangup s.gtw s.kernel)
    (es : List MainPassEnv) (hok : GtwRunOk st s es) :
    GtwReachable NoHangup (mainRun st s es).1.gtw (mainRun st s es).1.kernel := by
  induction es generalizing s with
  | nil => exact hs
  | cons e es ih =>
    have hstep := gtwReachable_mainPass st e hs hok.1
    by_cases hr : (mainPass st s e).reset = .not
    · simp only [mainRun, if_pos hr]
      exact ih hstep hok.2
    · simp only [mainRun, if_neg hr]
      exact hstep

/-- After every run of `main`'s loop, in either build, under the conditions of
    `mainRun_gtwInv`, `CO_epoll_closeGtw` at the program's end closes the listener, and the
    connection when it is on a descriptor above 0. A connection on descriptor 0 is left
    open. -/
theorem mainRun_closeGtw (st : Bool) (s : MainState) (hs : GtwReachable NoHangup s.gtw s.kernel)
    (es : List MainPassEnv) (hok : GtwRunOk st s es) :
    let g := (mainRun st s es).1.gtw
    let k := (closeGtw g (mainRun st s es).1.kernel).2
    g.gtwaFdSocket ∉ k.openFds ∧ (0 < g.gtwaFd → g.gtwaFd ∉ k.openFds) ∧
      (g.gtwaFd = 0 → 0 ∈ k.openFds) :=
  closeGtw_closes (gtwReachable_mainRun st hs es hok)

/-- The gateway on TCP port 2000 with its listener on descriptor 3, in the build with
    `rt_thread`, and a client that `accept4` puts on descriptor 0 (standard input closed):
    after this one pass and `CO_epoll_closeGtw`, descriptor 0 is still open. -/
theorem mainRun_closeGtw_conn0 :
    let s : MainState := ⟨⟨4, 5, 6, 100000, 0, 0, false, 0, ⟨TimerSpec.ofUs 100000, ⟨0, 1⟩⟩,
      ⟨0, 0⟩, false⟩, ⟨[], [], [], 0, [], 0, true, 0⟩, ⟨2000, 0, 0, 3, -1, false⟩,
      ⟨[3], [3], true⟩, mainlineStart⟩
    let e : MainPassEnv := ⟨⟨1, false, ⟨epollIn, 3⟩, 1000⟩,
      ⟨0, ⟨0, List.replicate 8 0, rfl⟩, Timespec.zero, 0⟩, Timespec.zero, fun m _ _ => (m, 0),
      ⟨some 0, true, none, 0, false⟩, fun _ m _ t => (m, t, .not), 0⟩
    let g := (mainRun false s [e]).1.gtw
    let k := (closeGtw g (mainRun false s [e]).1.kernel).2
    GtwReachable NoHangup s.gtw s.kernel ∧ GtwRunOk false s [e] ∧ g.gtwaFd = 0 ∧
      (g.gtwaFdSocket ∉ k.openFds ∧ (0 < g.gtwaFd → g.gtwaFd ∉ k.openFds) ∧
        (g.gtwaFd = 0 → 0 ∈ k.openFds)) :=
  have hs : GtwReachable NoHangup ⟨2000, 0, 0, 3, -1, false⟩ ⟨[3], [3], true⟩ :=
    .create 2000 0 ⟨some 3, true, true, true, true⟩ _ _ 3 (.inr ⟨by decide, by decide⟩) rfl
      (by decide) rfl
  have hok : GtwRunOk false _ [_] :=
    ⟨fun _ => ⟨.listener _ rfl rfl (by decide), fun fd h => by cases h; decide,
      ⟨rfl, fun _ => .inl (by decide)⟩, fun _ => ⟨by decide, by decide, nofun⟩⟩, trivial⟩
  ⟨hs, hok, rfl, mainRun_closeGtw false _ hs [_] hok⟩

/-! ## `rt_thread` -/

/-- `CO_epoll_processLast` with `timerNext_us` not below the interval re-arms nothing and
    leaves the timer. -/
theorem epollProcessLast_of_not_lt {ep : Epoll} (h : ¬ep.timerNextUs < ep.timerIntervalUs) :
    (epollProcessLast ep).2 = none ∧ (epollProcessLast ep).1.tm = ep.tm ∧
      (epollProcessLast ep).1.timerIntervalUs = ep.timerIntervalUs := by
  unfold epollProcessLast
  cases ep.epollNew <;> simp [h]

/-- `CO_epoll_wait` sets `timerNext_us` to the interval. -/
theorem epollWait_timerNext (ep : Epoll) (w : WaitEnv) :
    (epollWait ep w).timerNextUs = ep.timerIntervalUs := by
  unfold epollWait
  simp only [apply_ite Epoll.timerNextUs, ite_self]

/-- One pass of `rt_thread` re-arms nothing and leaves the timer and the interval. -/
theorem rtPass_timer (ep : Epoll) (e : RtPassEnv) :
    (rtPass ep e).2.2 = none ∧ (rtPass ep e).1.tm = ep.tm ∧
      (rtPass ep e).1.timerIntervalUs = ep.timerIntervalUs := by
  let rt := processRT (epollWait ep e.wait) e.module e.nodeIdUnconfigured true e.recv e.now e.syncPdo
  have hrt := processRT_handled (epollWait ep e.wait) e.module e.recv e.now e.nodeIdUnconfigured
    true e.syncPdo
  obtain ⟨htm, hi⟩ := @epollWait_tm ep e.wait
  obtain ⟨-, -, hrtm, hri⟩ := hrt.fields
  -- `CO_epoll_wait` set `timerNext_us` to the interval, and nothing lowered it
  have hnext : rt.ep.timerNextUs = rt.ep.timerIntervalUs := by
    rw [processRT_realtime_timerNext, hri, hi, epollWait_timerNext]
  obtain ⟨h₁, h₂, h₃⟩ := @epollProcessLast_of_not_lt rt.ep (by rw [hnext]; exact UInt32.lt_irrefl _)
  exact ⟨h₁, h₂.trans (hrtm.trans htm), h₃.trans (hri.trans hi)⟩

/-- `rt_thread` never calls `timerfd_settime`: over every run, from every `epRT`, no re-arm,
    and the timer and the interval stay as `CO_epoll_create` set them. SYNC and the PDOs in
    the real-time thread cannot ask for an earlier wake-up. -/
theorem rtRun_never_rearms (ep : Epoll) (es : List RtPassEnv) :
    (rtRun ep es).2 = [] ∧ (rtRun ep es).1.tm = ep.tm ∧
      (rtRun ep es).1.timerIntervalUs = ep.timerIntervalUs := by
  induction es generalizing ep with
  | nil => exact ⟨rfl, rfl, rfl⟩
  | cons e es ih =>
    obtain ⟨h₁, h₂, h₃⟩ := rtPass_timer ep e
    obtain ⟨ih₁, ih₂, ih₃⟩ := ih (rtPass ep e).1
    simp only [rtRun, h₁, Option.toList_none, List.nil_append]
    exact ⟨ih₁, ih₂.trans h₂, ih₃.trans h₃⟩

/-! ## The time `main` gives the TIME object -/

/-- For every `CLOCK_REALTIME` reading from 1984-01-01, the CANopen epoch, until the `uint16_t`
    day count runs out 65536 days later, with `tv_nsec` normalised, `main` gives `CO_TIME_set`
    the milliseconds into the day, below one day, and the days since the epoch: together they
    are exactly the reading in milliseconds since the epoch, truncated. -/
theorem timeFromClock_exact (tvSec tvNsec : Int) (hsec₁ : 5113 * 86400 ≤ tvSec)
    (hsec₂ : tvSec < (5113 + 65536) * 86400) (hns₁ : 0 ≤ tvNsec) (hns₂ : tvNsec < 1000000000) :
    (timeFromClock tvSec tvNsec).2.toNat < 86400000 ∧
      ((timeFromClock tvSec tvNsec).1.toNat * 86400000 + (timeFromClock tvSec tvNsec).2.toNat : Int) =
        (tvSec - 5113 * 86400) * 1000 + tvNsec / 1000000 := by
  have hd : tvSec.tdiv (24 * 60 * 60) = tvSec / 86400 := Int.tdiv_eq_ediv (by omega) (by decide)
  have hr : tvSec.tmod (24 * 60 * 60) = tvSec % 86400 := Int.tmod_eq_emod (by omega) (by decide)
  have hq : tvNsec.tdiv 1000000 = tvNsec / 1000000 := Int.tdiv_eq_ediv hns₁ (by decide)
  have hdiv := Int.ediv_add_emod tvSec 86400
  have hr₀ : 0 ≤ tvSec % 86400 ∧ tvSec % 86400 < 86400 :=
    ⟨Int.emod_nonneg _ (by decide), Int.emod_lt_of_pos _ (by decide)⟩
  have hq₀ : 0 ≤ tvNsec / 1000000 ∧ tvNsec / 1000000 < 1000 :=
    ⟨Int.ediv_nonneg hns₁ (by decide), Int.ediv_lt_of_lt_mul (by decide) hns₂⟩
  generalize tvSec / 86400 = d at hd hdiv ⊢
  generalize tvSec % 86400 = r at hr hdiv hr₀ ⊢
  generalize tvNsec / 1000000 = q at hq hq₀ ⊢
  have hd₀ : 0 ≤ d - 5113 ∧ d - 5113 < 65536 := by omega
  -- the days since the CANopen epoch: the `uint16_t` cast and the subtraction wrap together
  have hdays : (((d.toUInt16Wrap - 5113).toNat : Nat) : Int) = d - 5113 := by
    rw [Int.toNat_toUInt16Wrap_sub, show ((5113 : UInt16).toNat : Int) = 5113 from rfl,
      Int.emod_eq_of_lt hd₀.1 hd₀.2, Int.toNat_of_nonneg hd₀.1]
  -- the seconds into the day, in `uint32_t`, times 1000 do not wrap, nor does adding the
  -- milliseconds
  have hms : ((((r.toUInt32Wrap * 1000).toNat : Int) + q).toUInt32Wrap.toNat : Int) = r * 1000 + q := by
    obtain ⟨n, rfl⟩ := Int.eq_ofNat_of_zero_le hr₀.1
    obtain ⟨m, rfl⟩ := Int.eq_ofNat_of_zero_le hq₀.1
    have hs : (n : Int).toUInt32Wrap.toNat = n := by
      rw [Int.toNat_toUInt32Wrap, Int.emod_eq_of_lt hr₀.1 (by omega), Int.toNat_ofNat]
    have h1000 : (1000 : UInt32).toNat = 1000 := rfl
    rw [UInt32.toNat_mul_of_lt (by rw [hs, h1000]; omega), hs, h1000, ← Int.ofNat_add,
      Int.toNat_toUInt32Wrap, Int.emod_eq_of_lt (Int.ofNat_nonneg _) (by omega), Int.toNat_ofNat]
    push_cast
    rfl
  simp only [timeFromClock, hd, hr, hq]
  constructor
  · omega
  · rw [hdays, hms, ← hdiv]
    omega

/-- 2023-11-14 22:13:20.123456789 UTC: day 14562 of the CANopen epoch, 80000.123 s into it. -/
theorem timeFromClock_exact_2023 :
    5113 * 86400 ≤ (1700000000 : Int) ∧ (1700000000 : Int) < (5113 + 65536) * 86400 ∧
      0 ≤ (123456789 : Int) ∧ (123456789 : Int) < 1000000000 ∧
      ((timeFromClock 1700000000 123456789).2.toNat < 86400000 ∧
        ((timeFromClock 1700000000 123456789).1.toNat * 86400000 +
          (timeFromClock 1700000000 123456789).2.toNat : Int) =
          (1700000000 - 5113 * 86400) * 1000 + 123456789 / 1000000) :=
  ⟨by decide, by decide, by decide, by decide,
    timeFromClock_exact 1700000000 123456789 (by decide) (by decide) (by decide) (by decide)⟩

example : timeFromClock 1700000000 123456789 = (14562, 80000123) := by decide

/-! ## The auto-save interval -/

namespace MainlineEvent

/-- The time an event of the mainline lets pass: a pass's `timeDifference_us`, a communication
    reset none. -/
def elapsedUs : MainlineEvent → Nat
  | .pass dt _ => dt.toNat
  | .reset _ => 0

/-- Whether the event is a pass that calls `CO_storageLinux_auto_process` from `s`. -/
def autoSaves (s : Mainline) : MainlineEvent → Bool
  | .pass _ _ => !(s.storageIntervalTimer < coStorageAutoInterval)
  | .reset _ => false

/-- An event that calls nothing adds at most its time to the timer, less when the sum wraps. -/
theorem timer_apply_le (s : Mainline) (ev : MainlineEvent) (h : ev.autoSaves s = false) :
    (ev.apply s).storageIntervalTimer.toNat ≤ s.storageIntervalTimer.toNat + ev.elapsedUs := by
  cases ev with
  | pass dt mask =>
    have hlt : s.storageIntervalTimer < coStorageAutoInterval := by simpa [autoSaves] using h
    simp only [apply, storagePass, if_pos hlt, elapsedUs]
    exact UInt32.toNat_add_le _ _
  | reset u => exact Nat.le_add_right _ _

end MainlineEvent

/-- No pass of the run calls `CO_storageLinux_auto_process`. -/
def NoAutoSave : Mainline → List MainlineEvent → Prop
  | _, [] => True
  | s, ev :: evs => ev.autoSaves s = false ∧ NoAutoSave (ev.apply s) evs

/-- Over a run that calls nothing, the timer grows by at most the time the run lets pass. -/
theorem timer_foldl_le (s : Mainline) (evs : List MainlineEvent) (h : NoAutoSave s evs) :
    (evs.foldl MainlineEvent.apply s).storageIntervalTimer.toNat ≤
      s.storageIntervalTimer.toNat + (evs.map MainlineEvent.elapsedUs).sum := by
  induction evs generalizing s with
  | nil => exact Nat.le_add_right _ _
  | cons ev evs ih =>
    have hstep := MainlineEvent.timer_apply_le s ev h.1
    have hrun := ih (ev.apply s) h.2
    simp only [List.foldl_cons, List.map_cons, List.sum_cons] at hrun ⊢
    omega

/-- From every state of the mainline whose auto-save timer is zero (the start of `main`, and
    every pass that calls `CO_storageLinux_auto_process`), over every run of passes and
    communication resets that calls nothing, a pass calls `CO_storageLinux_auto_process` only
    if the passes' `timeDifference_us` add up to `CO_STORAGE_AUTO_INTERVAL` or more. -/
theorem autoSave_spacing (s : Mainline) (h0 : s.storageIntervalTimer = 0)
    (evs : List MainlineEvent) (hno : NoAutoSave s evs)
    (hsave : ¬(evs.foldl MainlineEvent.apply s).storageIntervalTimer < coStorageAutoInterval) :
    coStorageAutoInterval.toNat ≤ (evs.map MainlineEvent.elapsedUs).sum := by
  have hrun := timer_foldl_le s evs hno
  have hge : coStorageAutoInterval.toNat ≤
      (evs.foldl MainlineEvent.apply s).storageIntervalTimer.toNat := UInt32.not_lt.mp hsave
  rw [h0] at hrun
  exact hge.trans (by simpa using hrun)

/-- `main` from its start, one pass of 60 s, and the pass after it. -/
theorem autoSave_spacing_first_minute :
    let evs := [MainlineEvent.pass 60000000 0]
    mainlineStart.storageIntervalTimer = 0 ∧ NoAutoSave mainlineStart evs ∧
      ¬(evs.foldl MainlineEvent.apply mainlineStart).storageIntervalTimer < coStorageAutoInterval ∧
      coStorageAutoInterval.toNat ≤ (evs.map MainlineEvent.elapsedUs).sum :=
  ⟨rfl, ⟨rfl, trivial⟩, by decide, autoSave_spacing mainlineStart rfl _ ⟨rfl, trivial⟩ (by decide)⟩

end CANopenLinux
