import CANopenLinux.Native.Epoll
import CANopenLinux.Native.Gateway
import CANopenLinux.Native.Mainline

/-!
# The threads' loops: `CO_epoll_processRT`, `CO_epoll_processMain`, `main`, `rt_thread`

Each pass of a thread's loop is `CO_epoll_wait`, the handlers, and `CO_epoll_processLast`.
The mainline's loop in `main` runs, in this order, `CO_epoll_processRT(&epMain, CO, false)`
(only in the build with `CO_SINGLE_THREAD`), `CO_epoll_processGtw`, `CO_epoll_processMain`,
then, after `CO_epoll_processLast`, the auto-save block (`storagePass`). It stops after the
first pass whose `CO_process` returns a reset command. `rt_thread`, in the other build, runs
`CO_epoll_processRT(&epRT, CO, true)` until the program ends.

The CANopenNode calls the handlers make, outside this repository, are arguments: `CO_process`,
and `CO_process_SYNC`, `CO_process_RPDO` and `CO_process_TPDO` run one after another. Each
gives the CAN module it leaves and what it leaves in `timerNext_us`; the second is only read
when the code passed a pointer to `timerNext_us`. In the build without `CO_SINGLE_THREAD`,
`rt_thread` works on `CO->CANmodule` too; what the mainline's `CO_process` then finds is in
what it returns, which the results take as arbitrary, pass by pass.
-/

namespace CANopenLinux

/-- `CANSEND_DELAY_US`. -/
def cansendDelayUs : UInt32 := 100

/-- `MAIN_THREAD_INTERVAL_US`, the interval of `epMain`. -/
def mainThreadIntervalUs : UInt32 := 100000

/-- `TMR_THREAD_INTERVAL_US`, the interval of `epRT`. -/
def tmrThreadIntervalUs : UInt32 := 1000

/-- `GATEWAY_ENABLE`. -/
def gatewayEnable : Bool := true

/-- `CO_NMT_reset_cmd_t`: what `CO_process` returns. -/
inductive NmtResetCmd
  | not
  | comm
  | app
  | quit
  deriving DecidableEq, Repr

/-! ## `CO_epoll_processRT` -/

/-- What `CO_epoll_processRT` leaves: the epoll object, the CAN module, and the callbacks of
    the receive buffers that `CO_CANrxFromEpoll` ran. -/
structure RtResult where
  ep : Epoll
  module : CANmodule
  calls : List RxCallback

/-- The receive part of `CO_epoll_processRT`: a new event goes to `CO_CANrxFromEpoll`, which
    clears `epoll_new` when the event was one of the CAN sockets'. -/
def rtReceive (ep : Epoll) (m : CANmodule) (rr : RecvResult) (now : Timespec) : RtResult :=
  if ep.epollNew then
    let r := m.canRxFromEpoll ep.ev rr now
    ⟨if r.consumed then { ep with epollNew := false } else ep, r.module, r.calls⟩
  else ⟨ep, m, []⟩

/-- `CO_epoll_processRT`: the receive part, then, in the mainline (`realtime` false) or on a
    timer event, SYNC and the PDOs on a configured node in normal mode. Only the mainline
    passes them `&ep->timerNext_us`; `rt_thread` passes `NULL`. -/
def processRT (ep : Epoll) (m : CANmodule) (nodeIdUnconfigured realtime : Bool) (rr : RecvResult)
    (now : Timespec) (syncPdo : CANmodule → UInt32 → Option UInt32 → CANmodule × UInt32) :
    RtResult :=
  let r := rtReceive ep m rr now
  if !realtime || r.ep.timerEvent then
    if !nodeIdUnconfigured && r.module.canNormal then
      let pTimerNext := if realtime then none else some r.ep.timerNextUs
      let s := syncPdo r.module r.ep.timeDifferenceUs pTimerNext
      { r with
        ep := { r.ep with timerNextUs := if realtime then r.ep.timerNextUs else s.2 }
        module := s.1 }
    else r
  else r

/-! ## `CO_epoll_processMain` -/

/-- `CO_epoll_processMain`: `CO_process`, then, while the CAN module still holds frames to send,
    `timerNext_us` cut to `CANSEND_DELAY_US`, so that `CO_CANmodule_process` runs again soon.
    Returns the epoll object, the CAN module and the reset command. -/
def processMain (ep : Epoll) (m : CANmodule) (enableGateway : Bool)
    (coProcess : Bool → CANmodule → UInt32 → UInt32 → CANmodule × UInt32 × NmtResetCmd) :
    Epoll × CANmodule × NmtResetCmd :=
  let r := coProcess enableGateway m ep.timeDifferenceUs ep.timerNextUs
  let ep := { ep with timerNextUs := r.2.1 }
  let ep := if r.1.canTxCount > 0 ∧ ep.timerNextUs > cansendDelayUs then
    { ep with timerNextUs := cansendDelayUs } else ep
  (ep, r.1, r.2.2)

/-! ## `main`'s loop -/

/-- What `main`'s loop works on: `epMain`, `CO->CANmodule`, the gateway `epGtw` with the
    descriptors it holds, and the auto-save locals with `CO->nodeIdUnconfigured`. -/
structure MainState where
  ep : Epoll
  module : CANmodule
  gtw : EpollGtw
  kernel : GtwKernel
  mainline : Mainline

/-- What one pass of `main`'s loop gets from outside: what `CO_epoll_wait` and
    `CO_CANrxFromEpoll` get from the kernel, the CANopenNode calls, what the gateway's system
    calls answer, and the error mask `CO_storageLinux_auto_process` returns if it runs. -/
structure MainPassEnv where
  wait : WaitEnv
  recv : RecvResult
  now : Timespec
  syncPdo : CANmodule → UInt32 → Option UInt32 → CANmodule × UInt32
  gtw : GtwEnv
  coProcess : Bool → CANmodule → UInt32 → UInt32 → CANmodule × UInt32 × NmtResetCmd
  mask : UInt32

/-- What one pass of `main`'s loop leaves: the state, the `itimerspec` passed to
    `timerfd_settime` if any, the receive callbacks run, the bytes given to `CO_GTWA_write`,
    and the reset command. -/
structure MainPassResult where
  state : MainState
  rearm : Option Itimerspec
  calls : List RxCallback
  gtwaIn : List UInt8
  reset : NmtResetCmd

/-- One pass of `main`'s loop; `singleThread` is whether `CO_SINGLE_THREAD` is defined. The
    event `epoll_wait` reports, if any, is reported on the kernel's side too. -/
def mainPass (singleThread : Bool) (s : MainState) (e : MainPassEnv) : MainPassResult :=
  let ep := epollWait s.ep e.wait
  let kernel := if e.wait.ready = 1 then s.kernel.report s.gtw.gtwaFdSocket e.wait.ev.fd
    else s.kernel
  let rt : RtResult := if singleThread then
      processRT ep s.module s.mainline.nodeIdUnconfigured false e.recv e.now e.syncPdo
    else ⟨ep, s.module, []⟩
  let g := processGtw s.gtw kernel rt.ep.epollNew rt.ep.ev
    { e.gtw with nodeIdUnconfigured := s.mainline.nodeIdUnconfigured } rt.ep.timeDifferenceUs
  let mn := processMain { rt.ep with epollNew := g.epollNew } rt.module gatewayEnable e.coProcess
  let last := epollProcessLast mn.1
  ⟨⟨last.1, mn.2.1, g.gtw, g.kernel, storagePass s.mainline last.1.timeDifferenceUs e.mask⟩,
    last.2, rt.calls, g.gtwaIn, mn.2.2⟩

/-- The inner loop of `main`, `while (reset == CO_RESET_NOT && CO_endProgram == 0)`: the state
    at the end, every `itimerspec` passed to `timerfd_settime`, and the reset command that ended
    it. A run that ends by `CO_endProgram` is the passes up to then. -/
def mainRun (singleThread : Bool) (s : MainState) :
    List MainPassEnv → MainState × List Itimerspec × NmtResetCmd
  | [] => (s, [], .not)
  | e :: es =>
    let r := mainPass singleThread s e
    if r.reset = .not then
      let rs := mainRun singleThread r.state es
      (rs.1, r.rearm.toList ++ rs.2.1, rs.2.2)
    else (r.state, r.rearm.toList, r.reset)

/-! ## The time `main` gives the TIME object -/

/-- `time_days` and `time_ms`, which `main` computes from the `CLOCK_REALTIME` reading
    `tv_sec`, `tv_nsec` for `CO_TIME_set`: days since 1984-01-01, the CANopen epoch, 5113 days
    after the Unix one, and milliseconds into the day. C's `/` and `%` truncate; the casts to
    `uint16_t` and `uint32_t` and the arithmetic on them wrap. -/
def timeFromClock (tvSec tvNsec : Int) : UInt16 × UInt32 :=
  let timeDays : UInt16 := (tvSec.tdiv (24 * 60 * 60)).toUInt16Wrap
  let timeDays := timeDays - 5113
  let timeMs : UInt32 := (tvSec.tmod (24 * 60 * 60)).toUInt32Wrap * 1000
  let timeMs : UInt32 := ((timeMs.toNat : Int) + tvNsec.tdiv 1000000).toUInt32Wrap
  (timeDays, timeMs)

/-! ## `rt_thread` -/

/-- What one pass of `rt_thread` gets from outside: what `CO_epoll_wait` and
    `CO_CANrxFromEpoll` get from the kernel, `CO->CANmodule` and `CO->nodeIdUnconfigured` as
    the pass finds them (the mainline works on them too), and the SYNC and PDO calls. -/
structure RtPassEnv where
  wait : WaitEnv
  module : CANmodule
  nodeIdUnconfigured : Bool
  recv : RecvResult
  now : Timespec
  syncPdo : CANmodule → UInt32 → Option UInt32 → CANmodule × UInt32

/-- One pass of `rt_thread`: `CO_epoll_wait(&epRT)`, `CO_epoll_processRT(&epRT, CO, true)`,
    `CO_epoll_processLast(&epRT)`. Returns `epRT`, the CAN module, and the `itimerspec`
    passed to `timerfd_settime` if any. -/
def rtPass (ep : Epoll) (e : RtPassEnv) : Epoll × CANmodule × Option Itimerspec :=
  let rt := processRT (epollWait ep e.wait) e.module e.nodeIdUnconfigured true e.recv e.now
    e.syncPdo
  let last := epollProcessLast rt.ep
  (last.1, rt.module, last.2)

/-- The loop of `rt_thread`: `epRT` at the end and every `itimerspec` passed to
    `timerfd_settime`. -/
def rtRun (ep : Epoll) : List RtPassEnv → Epoll × List Itimerspec
  | [] => (ep, [])
  | e :: es =>
    let r := rtPass ep e
    let rs := rtRun r.1 es
    (rs.1, r.2.2.toList ++ rs.2)

end CANopenLinux
