import CANopenLinux.Native.Epoll

/-!
# The interval timer of the epoll object

What every object that `CO_epoll_create` returned for interval `I` keeps (`TimerInv`): the
interval, the period `I` of the timer, and, below one second, a zero `tv_sec` of the next
expiry. `CO_epoll_create` establishes it, and each pass of the loop keeps it. From it,
`CO_epoll_processLast` re-arms the timer exactly when the handlers lowered `timerNext_us`
below `I`, and then to `timerNext_us + 1` microseconds, normalised, with the period
unchanged (`epollTimer_rearm`). The branch for intervals below one second writes only
`tv_nsec`; the invariant's zero `tv_sec` makes it agree with the general one.
-/

namespace CANopenLinux

namespace TimerSpec

/-- The normalised `timespec` of `us` microseconds. -/
def ofUs (us : Nat) : TimerSpec := ⟨(us / 1000000 : Nat), ((us % 1000000) * 1000 : Nat)⟩

/-- The time a `timespec` stands for, in nanoseconds. -/
def toNs (t : TimerSpec) : Int := t.tvSec * 1000000000 + t.tvNsec

/-- Both fields are non-negative and `tv_nsec` is below one second, as `timerfd_settime`
    requires. -/
def Normalised (t : TimerSpec) : Prop := 0 ≤ t.tvSec ∧ 0 ≤ t.tvNsec ∧ t.tvNsec < 1000000000

theorem ofUs_normalised (us : Nat) : (ofUs us).Normalised := by
  simp only [Normalised, ofUs]
  omega

theorem toNs_ofUs (us : Nat) : (ofUs us).toNs = us * 1000 := by
  simp only [toNs, ofUs]
  omega

end TimerSpec

/-- What an object that `CO_epoll_create` returned for interval `I` keeps. -/
structure TimerInv (I : UInt32) (ep : Epoll) : Prop where
  interval : ep.timerIntervalUs = I
  period : ep.tm.itInterval = TimerSpec.ofUs I.toNat
  sec_zero : I.toNat < 1000000 → ep.tm.itValue.tvSec = 0

section timer

variable {I : UInt32} {ep : Epoll}

/-- A guard of `CO_epoll_create` that holds returns `CO_ERROR_SYSCALL`: a call that returns
    `CO_ERROR_NO` passed it. -/
private theorem epollCreate_guard {α : Type} {c : Prop} [Decidable c] {a : α}
    {b : ReturnError × α} (h : (if c then (ReturnError.syscall, a) else b).1 = .no) :
    ¬c ∧ b.1 = .no := by
  by_cases hc : c
  · rw [if_pos hc] at h
    cases h
  · rw [if_neg hc] at h
    exact ⟨hc, h⟩

/-- `CO_epoll_create` that returns `CO_ERROR_NO` establishes the invariant, and arms the
    timer with period `I` and a first expiry after one nanosecond. -/
theorem epollCreate_ok {ep₀ : Epoll} {env : EpollCreateEnv} (h : (epollCreate ep₀ I env).1 = .no) :
    TimerInv I (epollCreate ep₀ I env).2.1 ∧
      (epollCreate ep₀ I env).2.2 = some ⟨TimerSpec.ofUs I.toNat, ⟨0, 1⟩⟩ := by
  have hperiod : (⟨(I / 1000000).toNat, ((I % 1000000) * 1000).toNat⟩ : TimerSpec) =
      TimerSpec.ofUs I.toNat := by
    have : (I % 1000000).toNat < 1000000 := by rw [UInt32.toNat_mod]; exact Nat.mod_lt _ (by decide)
    have h1000 : (1000 : UInt32).toNat = 1000 := rfl
    rw [UInt32.toNat_div, UInt32.toNat_mul_of_lt (by rw [h1000]; omega),
      UInt32.toNat_mod]
    rfl
  unfold epollCreate at h ⊢
  obtain ⟨h₁, h⟩ := epollCreate_guard h
  obtain ⟨h₂, h⟩ := epollCreate_guard h
  obtain ⟨h₃, h⟩ := epollCreate_guard h
  obtain ⟨h₄, h⟩ := epollCreate_guard h
  obtain ⟨h₅, h⟩ := epollCreate_guard h
  obtain ⟨h₆, -⟩ := epollCreate_guard h
  simp only [if_neg h₁, if_neg h₂, if_neg h₃, if_neg h₄, if_neg h₅, if_neg h₆]
  exact ⟨⟨rfl, hperiod, fun _ => rfl⟩, by rw [hperiod]⟩

/-- `CO_epoll_wait` leaves the timer and the interval as they are. -/
theorem epollWait_tm (env : WaitEnv) :
    (epollWait ep env).tm = ep.tm ∧ (epollWait ep env).timerIntervalUs = ep.timerIntervalUs := by
  unfold epollWait
  simp only [apply_ite Epoll.tm, apply_ite Epoll.timerIntervalUs, ite_self, and_self]

/-- `CO_epoll_processLast`: with the invariant, it re-arms the timer exactly when
    `timerNext_us` is below the interval, to `timerNext_us + 1` microseconds, and it keeps
    the invariant. -/
theorem TimerInv.processLast (h : TimerInv I ep) :
    TimerInv I (epollProcessLast ep).1 ∧
      (epollProcessLast ep).2 = if ep.timerNextUs < I then
        some ⟨TimerSpec.ofUs I.toNat, TimerSpec.ofUs (ep.timerNextUs.toNat + 1)⟩ else none := by
  obtain ⟨hI, hperiod, hsec⟩ := h
  subst hI
  have hclear : ∀ ep₁ : Epoll,
      (if ep.epollNew = true then { ep with epollNew := false } else ep) = ep₁ →
        ep₁.timerNextUs = ep.timerNextUs ∧ ep₁.timerIntervalUs = ep.timerIntervalUs ∧
          ep₁.tm = ep.tm := by
    rintro _ rfl
    split <;> exact ⟨rfl, rfl, rfl⟩
  unfold epollProcessLast
  dsimp only
  generalize hg : (if ep.epollNew = true then { ep with epollNew := false } else ep) = ep₁
  obtain ⟨hn, hi, htm⟩ := hclear ep₁ hg
  simp only [hn, hi, htm]
  by_cases hlt : ep.timerNextUs < ep.timerIntervalUs
  swap
  · rw [if_neg hlt, if_neg hlt]
    exact ⟨⟨hi, htm ▸ hperiod, htm ▸ hsec⟩, rfl⟩
  rw [if_pos hlt, if_pos hlt]
  have hlt' : ep.timerNextUs.toNat < ep.timerIntervalUs.toNat := hlt
  have h1 : (1 : UInt32).toNat = 1 := rfl
  have h1000 : (1000 : UInt32).toNat = 1000 := rfl
  have hnext : (ep.timerNextUs + 1).toNat = ep.timerNextUs.toNat + 1 :=
    UInt32.toNat_add_of_lt (by
      have : ep.timerIntervalUs.toNat < 4294967296 := ep.timerIntervalUs.toNat_lt_size
      rw [h1]; omega)
  by_cases hsub : ep.timerIntervalUs < 1000000
  · have hsub' : ep.timerIntervalUs.toNat < 1000000 := hsub
    rw [if_pos hsub]
    refine ⟨⟨rfl, hperiod, fun _ => hsec hsub'⟩, ?_⟩
    have hmul : ((ep.timerNextUs + 1) * 1000).toNat = (ep.timerNextUs.toNat + 1) * 1000 := by
      rw [UInt32.toNat_mul_of_lt (by rw [hnext, h1000]; omega), hnext, h1000]
    simp only [hmul, hperiod, hsec hsub', TimerSpec.ofUs, Option.some.injEq, Itimerspec.mk.injEq,
      TimerSpec.mk.injEq, true_and]
    omega
  · rw [if_neg hsub]
    refine ⟨⟨rfl, hperiod, fun h => absurd h hsub⟩, ?_⟩
    have h10 : (1000000 : UInt32).toNat = 1000000 := rfl
    have hmod : ((ep.timerNextUs + 1) % 1000000).toNat < 1000000 := by
      rw [UInt32.toNat_mod, h10]; exact Nat.mod_lt _ (by decide)
    rw [UInt32.toNat_div, UInt32.toNat_mul_of_lt (by rw [h1000]; omega), UInt32.toNat_mod, hnext,
      h10, h1000, hperiod]
    rfl

/-- One pass of the loop keeps the invariant, and re-arms as `CO_epoll_processLast` does
    with the `timerNext_us` the handlers left. -/
theorem TimerInv.pass (h : TimerInv I ep) (p : EpollPass) :
    TimerInv I (epollPass ep p).1 ∧
      (epollPass ep p).2 = if p.timerNextUs < I then
        some ⟨TimerSpec.ofUs I.toNat, TimerSpec.ofUs (p.timerNextUs.toNat + 1)⟩ else none := by
  obtain ⟨htm, hi⟩ := @epollWait_tm ep p.wait
  exact TimerInv.processLast ⟨hi.trans h.interval, htm ▸ h.period, fun hs => htm ▸ h.sec_zero hs⟩

/-- A run of passes keeps the invariant. Every re-arm of the run has period `I` and a value
    of `n + 1` microseconds for some `n` below `I`. -/
theorem TimerInv.run (h : TimerInv I ep) (passes : List EpollPass) :
    TimerInv I (epollRun ep passes).1 ∧ ∀ tm ∈ (epollRun ep passes).2,
      tm.itInterval = TimerSpec.ofUs I.toNat ∧
        ∃ n : UInt32, n < I ∧ tm.itValue = TimerSpec.ofUs (n.toNat + 1) := by
  induction passes generalizing ep with
  | nil => exact ⟨h, fun _ h => nomatch h⟩
  | cons p ps ih =>
    obtain ⟨hinv, harm⟩ := h.pass p
    obtain ⟨hinv', harms⟩ := ih hinv
    refine ⟨hinv', fun tm htm => ?_⟩
    simp only [epollRun, List.mem_append] at htm
    rcases htm with htm | htm
    · rw [harm] at htm
      split at htm
      · cases List.mem_singleton.mp htm
        exact ⟨rfl, p.timerNextUs, by assumption, rfl⟩
      · cases htm
    · exact harms tm htm

end timer

/-- For every interval `I > 0` that `CO_epoll_create` accepts, after every run of passes of
    the loop, the next pass re-arms the timer exactly when the handlers left `timerNext_us`
    below `I`. It then passes a normalised, non-zero value of exactly `timerNext_us + 1`
    microseconds and the unchanged period of `I` microseconds. Below one second of interval
    the `tv_sec` of the value is zero in every such state. -/
theorem epollTimer_rearm (I : UInt32) (hI : 0 < I) (ep₀ : Epoll) (env : EpollCreateEnv)
    (hok : (epollCreate ep₀ I env).1 = .no) (passes : List EpollPass) (p : EpollPass) :
    let ep := (epollRun (epollCreate ep₀ I env).2.1 passes).1
    let r := epollPass ep p
    (r.2.isSome ↔ p.timerNextUs < I) ∧
      (∀ tm ∈ r.2, tm = ⟨TimerSpec.ofUs I.toNat, TimerSpec.ofUs (p.timerNextUs.toNat + 1)⟩ ∧
        tm.itValue.Normalised ∧ tm.itValue.toNs = (p.timerNextUs.toNat + 1) * 1000 ∧
        tm.itInterval.Normalised ∧ 0 < tm.itInterval.toNs) ∧
      (I.toNat < 1000000 → ep.tm.itValue.tvSec = 0) := by
  intro ep r
  have hinv : TimerInv I ep := ((epollCreate_ok hok).1.run passes).1
  have hr := (hinv.pass p).2
  have hI' : 0 < I.toNat := hI
  refine ⟨?_, fun tm htm => ?_, hinv.sec_zero⟩
  · rw [hr]
    split <;> simp_all
  · rw [Option.mem_def, hr] at htm
    split at htm
    · cases htm
      refine ⟨rfl, TimerSpec.ofUs_normalised _, ?_, TimerSpec.ofUs_normalised _, ?_⟩
      · rw [TimerSpec.toNs_ofUs]
        push_cast
        rfl
      · rw [TimerSpec.toNs_ofUs]
        omega
    · cases htm

/-- `epMain` as `main` creates it, with `MAIN_THREAD_INTERVAL_US` of 100 ms, and a pass whose
    handlers ask for the next one after 500 µs. -/
theorem epollTimer_rearm_main :
    let ep₀ : Epoll := ⟨0, 0, 0, 0, 0, 0, false, 0, ⟨⟨0, 0⟩, ⟨0, 0⟩⟩, ⟨0, 0⟩, false⟩
    let env : EpollCreateEnv := ⟨3, 4, true, 5, true, true, 0⟩
    let p : EpollPass := ⟨⟨1, false, ⟨epollIn, 5⟩, 1000⟩, 500, false⟩
    let ep := (epollRun (epollCreate ep₀ 100000 env).2.1 []).1
    let r := epollPass ep p
    0 < (100000 : UInt32) ∧ (epollCreate ep₀ 100000 env).1 = .no ∧
      ((r.2.isSome ↔ p.timerNextUs < 100000) ∧
        (∀ tm ∈ r.2, tm = ⟨TimerSpec.ofUs (100000 : UInt32).toNat,
            TimerSpec.ofUs (p.timerNextUs.toNat + 1)⟩ ∧
          tm.itValue.Normalised ∧ tm.itValue.toNs = (p.timerNextUs.toNat + 1) * 1000 ∧
          tm.itInterval.Normalised ∧ 0 < tm.itInterval.toNs) ∧
        ((100000 : UInt32).toNat < 1000000 → ep.tm.itValue.tvSec = 0)) :=
  ⟨by decide, rfl, epollTimer_rearm 100000 (by decide) _ _ (by rfl) [] _⟩

end CANopenLinux
