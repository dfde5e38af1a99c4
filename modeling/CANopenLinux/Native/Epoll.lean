import CANopenLinux.Native.DriverIo

/-!
# The epoll object: `CO_epoll_create`, `CO_epoll_wait`, `CO_epoll_processLast`

`CO_epoll_t` holds the interval timer of one thread's loop (`epMain` with
`MAIN_THREAD_INTERVAL_US`, `epRT` with `TMR_THREAD_INTERVAL_US`). `CO_epoll_create` arms the
timer with period `timerInterval_us` and a first expiry after one nanosecond. Each pass of
the loop calls `CO_epoll_wait`, which resets `timerNext_us` to the interval; the handlers
run and may lower `timerNext_us`; `CO_epoll_processLast` then re-arms the timer to expire
that much later.

A `struct timespec` is kept as the two integers the code writes into it (`TimerSpec`),
normalised or not. The conversions are `uint32_t` arithmetic, as in C. The pointers are not
modelled, so neither is the `ep == NULL` check.
-/

namespace CANopenLinux

/-- A `struct timespec` as the code fills it for `timerfd_settime`. -/
structure TimerSpec where
  tvSec : Int
  tvNsec : Int
  deriving DecidableEq, Repr

/-- `struct itimerspec`: the period, and the time to the next expiry. -/
structure Itimerspec where
  itInterval : TimerSpec
  itValue : TimerSpec
  deriving DecidableEq, Repr

/-- `CO_epoll_t`. -/
structure Epoll where
  epollFd : Int
  eventFd : Int
  timerFd : Int
  timerIntervalUs : UInt32
  timeDifferenceUs : UInt32
  timerNextUs : UInt32
  timerEvent : Bool
  previousTimeUs : UInt64
  tm : Itimerspec
  ev : EpollEvent
  epollNew : Bool
  deriving DecidableEq, Repr

/-! ## `CO_epoll_create` -/

/-- What the system calls of `CO_epoll_create` return: the descriptors, whether the two
    `epoll_ctl` calls and `timerfd_settime` succeed, and the clock. -/
structure EpollCreateEnv where
  epollCreate : Int
  eventfd : Int
  ctlEventOk : Bool
  timerfdCreate : Int
  settimeOk : Bool
  ctlTimerOk : Bool
  now : UInt64

/-- `CO_epoll_create`: the result, the object, and the `itimerspec` passed to
    `timerfd_settime` if the code gets that far. -/
def epollCreate (ep : Epoll) (timerIntervalUs : UInt32) (env : EpollCreateEnv) :
    ReturnError × Epoll × Option Itimerspec :=
  let ep := { ep with epollNew := false, epollFd := env.epollCreate }
  if env.epollCreate < 0 then (.syscall, ep, none) else
  let ep := { ep with eventFd := env.eventfd }
  if env.eventfd < 0 then (.syscall, ep, none) else
  if !env.ctlEventOk then (.syscall, ep, none) else
  let ep := { ep with timerFd := env.timerfdCreate }
  if env.timerfdCreate < 0 then (.syscall, ep, none) else
  let tm : Itimerspec :=
    ⟨⟨(timerIntervalUs / 1000000).toNat, ((timerIntervalUs % 1000000) * 1000).toNat⟩, ⟨0, 1⟩⟩
  let ep := { ep with tm }
  if !env.settimeOk then (.syscall, ep, some tm) else
  if !env.ctlTimerOk then (.syscall, ep, some tm) else
  (.no, { ep with timerIntervalUs, previousTimeUs := env.now, timeDifferenceUs := 0 }, some tm)

/-! ## `CO_epoll_wait` -/

/-- What one call of `CO_epoll_wait` gets: the return value of `epoll_wait`, whether `errno`
    is `EINTR`, the event it reports, and the clock. -/
structure WaitEnv where
  ready : Int
  eintr : Bool
  ev : EpollEvent
  now : UInt64

/-- `CO_epoll_wait`: notes the time since the last call, resets `timerNext_us` to the
    interval, and consumes an event of the notification or timer descriptor. -/
def epollWait (ep : Epoll) (env : WaitEnv) : Epoll :=
  let ep := { ep with
    ev := env.ev
    epollNew := true
    timerEvent := false
    timeDifferenceUs := (env.now - ep.previousTimeUs).toUInt32
    previousTimeUs := env.now
    timerNextUs := ep.timerIntervalUs }
  if env.ready ≠ 1 ∧ env.eintr then { ep with epollNew := false }
  else if env.ready ≠ 1 then { ep with epollNew := false }
  else if ep.ev.events &&& epollIn ≠ 0 ∧ ep.ev.fd = ep.eventFd then { ep with epollNew := false }
  else if ep.ev.events &&& epollIn ≠ 0 ∧ ep.ev.fd = ep.timerFd then
    { ep with epollNew := false, timerEvent := true }
  else ep

/-! ## `CO_epoll_processLast` -/

/-- `CO_epoll_processLast`: the object, and the `itimerspec` passed to `timerfd_settime` if
    the handlers lowered `timerNext_us` below the interval. One microsecond is added, so that
    the value is not zero. Below one second of interval only `tv_nsec` is written. -/
def epollProcessLast (ep : Epoll) : Epoll × Option Itimerspec :=
  let ep := if ep.epollNew then { ep with epollNew := false } else ep
  if ep.timerNextUs < ep.timerIntervalUs then
    let ep := { ep with timerNextUs := ep.timerNextUs + 1 }
    let itValue : TimerSpec :=
      if ep.timerIntervalUs < 1000000 then
        { ep.tm.itValue with tvNsec := (ep.timerNextUs * 1000).toNat }
      else ⟨(ep.timerNextUs / 1000000).toNat, ((ep.timerNextUs % 1000000) * 1000).toNat⟩
    let ep := { ep with tm := { ep.tm with itValue } }
    (ep, some ep.tm)
  else (ep, none)

/-! ## The loop -/

/-- One pass of a thread's loop as the epoll object sees it: what `CO_epoll_wait` gets, and
    what the handlers between it and `CO_epoll_processLast` leave in `timerNext_us` and
    `epoll_new`. -/
structure EpollPass where
  wait : WaitEnv
  timerNextUs : UInt32
  epollNew : Bool

/-- One pass: `CO_epoll_wait`, the handlers, `CO_epoll_processLast`. -/
def epollPass (ep : Epoll) (p : EpollPass) : Epoll × Option Itimerspec :=
  epollProcessLast { epollWait ep p.wait with timerNextUs := p.timerNextUs, epollNew := p.epollNew }

/-- The passes one after another: the object at the end, and every `itimerspec` passed to
    `timerfd_settime`, in order. -/
def epollRun (ep : Epoll) : List EpollPass → Epoll × List Itimerspec
  | [] => (ep, [])
  | p :: ps =>
    let r := epollPass ep p
    let rs := epollRun r.1 ps
    (rs.1, r.2.toList ++ rs.2)

end CANopenLinux
