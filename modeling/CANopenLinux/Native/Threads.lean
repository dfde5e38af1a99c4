import CANopenLinux.Native.MainLoop

/-!
# `main`'s communication-reset loop against `rt_thread`

In the build without `CO_SINGLE_THREAD`, `main` and `rt_thread` share `CO->CANmodule` and
`CO->nodeIdUnconfigured`. At every communication reset `main`'s outer loop builds the CAN
module again: "Wait rt_thread" (`CANnormal` cleared under `CO_LOCK_OD`, skipped on the first
run), `CO_CANmodule_disable`, `CO_CANinit`, `CO_LSSinit` and `CO_CANopenInit`, on the first
run `pthread_create(rt_thread)`, `CO_CANopenInitPDO`, and `CO_CANsetNormalMode`. The inner loop
then runs passes (`mainPass`) until `CO_process` returns a reset command. `rt_thread` loops
over `CO_epoll_wait`, the receive part of `CO_epoll_processRT`, its SYNC and PDO part under
`CO_LOCK_OD`, and `CO_epoll_processLast`, until `CO_endProgram` is set. After the outer loop
`main` sets `CO_endProgram`, joins `rt_thread` and closes the gateway.

Each step below is atomic, and a run is any interleaving of the two threads' steps. A
section under `CO_LOCK_OD` is one step, except `rt_thread`'s SYNC and PDO part, which is
split at the lock, so that `main` can take any step while `rt_thread` holds it; "Wait
rt_thread" waits then. The rest of each thread takes no lock, and each of its calls is one
step here, except `CO_CANrxFromEpoll` in `rt_thread`, which is split after its test of
`CANnormal`: the frame it read is handed on in a later step, and `main` can clear `CANnormal`
and rebuild the module in between.

CANopenNode's initialisation reaches the CAN module only through `CO_CANrxBufferInit` and
`CO_CANtxBufferInit`; which buffers it registers, and whether it succeeds, are arguments.
`CO_CANinit` runs `CO_CANmodule_init` over CO's RX and TX arrays; CO's TX array is the
module's `txArray` throughout.
-/

namespace CANopenLinux

/-- A call of `CO_CANrxBufferInit` or `CO_CANtxBufferInit` that CANopenNode's initialisation
    makes, with its arguments. -/
inductive BufferInit
  | rx (index : Nat) (ident mask : UInt16) (rtr : Bool) (object : Nat) (callback : Option Nat)
  | tx (index : Nat) (ident : UInt16) (rtr : Bool) (noOfBytes : UInt8) (syncFlag : Bool)

/-- The call on the module. -/
def BufferInit.apply (setsockoptOk : Int → Bool) (m : CANmodule) : BufferInit → CANmodule
  | .rx index ident mask rtr object callback =>
    (m.canRxBufferInit index ident mask rtr object callback setsockoptOk).1
  | .tx index ident rtr noOfBytes syncFlag => (m.canTxBufferInit index ident rtr noOfBytes syncFlag).1

/-- Where `main` is. -/
inductive MainPc
  /-- At the test of the outer loop. -/
  | top
  /-- Before "Wait rt_thread", on a run that is not the first. -/
  | waitRt
  /-- Before `CO_CANsetConfigurationMode` (an empty body) and `CO_CANmodule_disable`. -/
  | disable
  /-- Before `CO_CANinit`. -/
  | canInit
  /-- Before `CO_LSSinit`, `CO_CANopenInit` and the calls that register callbacks. -/
  | openInit
  /-- Before the first run's `pthread_create(rt_thread)`. -/
  | createRt
  /-- Before `CO_CANopenInitPDO`. -/
  | initPdo
  /-- Before `CO_CANsetNormalMode`. -/
  | setNormal
  /-- In the inner loop. -/
  | running
  /-- Out of the outer loop, `CO_endProgram` set, at `pthread_join(rt_thread_id)`. -/
  | exit
  /-- `pthread_join` on an `rt_thread_id` that no `pthread_create` assigned: the behaviour
      is undefined, and the model stops. -/
  | joinUnassigned
  /-- `rt_thread` joined and the gateway closed. -/
  | joined
  deriving DecidableEq, Repr

/-- The steps of `main` that build the CAN module again, from `CO_CANmodule_disable` to
    `CO_CANsetNormalMode`. -/
def MainPc.InReset : MainPc → Prop
  | .disable | .canInit | .openInit | .createRt | .initPdo | .setNormal => True
  | _ => False

instance : DecidablePred MainPc.InReset
  | .disable | .canInit | .openInit | .createRt | .initPdo | .setNormal => isTrue trivial
  | .top | .waitRt | .running | .exit | .joinUnassigned | .joined => isFalse id

/-- Where `rt_thread` is. -/
inductive RtPc
  /-- Not created. -/
  | none
  /-- At the test of its loop, before `CO_epoll_wait`. -/
  | wait
  /-- In `CO_CANrxFromEpoll`, past its test of `CANnormal`, with the frame `msg` that
      interface `k` read at `timestamp` still to hand on, and no lock held. -/
  | rxFrame (k : Nat) (msg : CanFrame) (timestamp : Timespec)
  /-- At `CO_LOCK_OD` in `CO_epoll_processRT`, after a timer event. -/
  | lock
  /-- Holding `CO_LOCK_OD` on a configured node in normal mode, before `CO_process_SYNC`,
      `CO_process_RPDO` and `CO_process_TPDO`. -/
  | sync
  /-- Out of its loop. -/
  | done
  deriving DecidableEq

/-- The two threads: `main`'s place, `firstRun`, `reset` and `programExit` (whether it is
    `EXIT_FAILURE`), `CO_endProgram`, what `main`'s loop works on (with the shared CAN module
    and `CO->nodeIdUnconfigured`), and `rt_thread`'s place and `epRT`. -/
structure Program where
  main : MainPc
  firstRun : Bool
  reset : NmtResetCmd
  exitFailure : Bool
  endProgram : Bool
  st : MainState
  rt : RtPc
  epRT : Epoll

/-- What a step of `main` gets from outside; each step reads the fields of its own calls. -/
structure MainStepEnv where
  /-- What the system answers while `CO_CANinit` adds the interface. -/
  canInit : CANmodule.AddInterfaceEnv
  /-- The buffers `CO_LSSinit` registers, and whether it succeeds. -/
  lssInit : List BufferInit
  lssInitOk : Bool
  /-- The buffers `CO_CANopenInit` registers, whether it succeeds
      (`CO_ERROR_NODE_ID_UNCONFIGURED_LSS` counts as success), and the
      `CO->nodeIdUnconfigured` it leaves. -/
  coInit : List BufferInit
  coInitOk : Bool
  nodeIdUnconfigured : Bool
  /-- Whether `pthread_create`, and `pthread_setschedparam` when it is called, succeed. -/
  threadOk : Bool
  schedOk : Bool
  /-- The buffers `CO_CANopenInitPDO` registers, and whether it succeeds. -/
  initPdo : List BufferInit
  initPdoOk : Bool
  /-- Whether `setsockopt` succeeds on each descriptor. -/
  setsockoptOk : Int → Bool
  /-- What a pass of the inner loop gets. -/
  pass : MainPassEnv

/-- What a step of `rt_thread` gets from outside. -/
structure RtStepEnv where
  wait : WaitEnv
  recv : RecvResult
  now : Timespec
  syncPdo : CANmodule → UInt32 → Option UInt32 → CANmodule × UInt32

/-- What a step of `rt_thread` does to the CANopen objects: the receive callbacks it runs, and
    whether it runs `CO_process_SYNC`, `CO_process_RPDO` and `CO_process_TPDO`. -/
structure RtOut where
  calls : List RxCallback
  syncPdo : Bool
  deriving DecidableEq

/-- One step of either thread, or a signal that sets `CO_endProgram`. -/
inductive ProgramEvent
  | main (e : MainStepEnv)
  | rt (e : RtStepEnv)
  | signal

namespace Program

/-- The program with `CO->CANmodule` replaced. -/
def setModule (p : Program) (m : CANmodule) : Program := { p with st := { p.st with module := m } }

/-- An initialisation call failed: `programExit = EXIT_FAILURE`, `CO_endProgram = 1`, and
    `continue` goes back to the test of the outer loop. -/
def fail (p : Program) : Program := { p with main := .top, exitFailure := true, endProgram := true }

variable (rxSize : Nat) (canIfindex rtPriority : Int)

/-- One step of `main`. `rxSize` is the RX count `CO_CANinit` passes, `canIfindex` the
    interface of the command line, and `rtPriority` the priority of `-p`. -/
def mainStep (p : Program) (e : MainStepEnv) : Program :=
  match p.main with
  | .top =>
    if p.reset = .app ∨ p.reset = .quit ∨ p.endProgram then { p with main := .exit, endProgram := true }
    else if p.firstRun then { p with main := .disable } else { p with main := .waitRt }
  | .waitRt =>
    if p.rt = .sync then p
    else { p.setModule { p.st.module with canNormal := false } with main := .disable }
  | .disable => { p.setModule p.st.module.canModuleDisable with main := .canInit }
  | .canInit =>
    let r := p.st.module.canModuleInit rxSize p.st.module.txArray canIfindex e.canInit
    if r.2 = .no then { p.setModule r.1 with main := .openInit } else (p.setModule r.1).fail
  | .openInit =>
    let m := e.lssInit.foldl (BufferInit.apply e.setsockoptOk) p.st.module
    if !e.lssInitOk then (p.setModule m).fail else
    let m := e.coInit.foldl (BufferInit.apply e.setsockoptOk) m
    let ml := commReset p.st.mainline e.nodeIdUnconfigured
    if !e.coInitOk then { p with st := { p.st with module := m, mainline := ml } }.fail
    else { p with
      main := if p.firstRun then .createRt else .initPdo
      st := { p.st with
        module := m, mainline := ml, gtw := initCANopenGtw p.st.gtw e.nodeIdUnconfigured } }
  | .createRt =>
    let p := { p with firstRun := false }
    if !e.threadOk then p.fail else
    let p := { p with rt := .wait }
    if rtPriority > 0 ∧ !e.schedOk then p.fail else { p with main := .initPdo }
  | .initPdo =>
    let p := p.setModule (e.initPdo.foldl (BufferInit.apply e.setsockoptOk) p.st.module)
    if !e.initPdoOk then p.fail else { p with main := .setNormal }
  | .setNormal =>
    { p.setModule (p.st.module.canSetNormalMode e.setsockoptOk) with main := .running, reset := .not }
  | .running =>
    if p.endProgram then { p with main := .top } else
    let r := mainPass false p.st e.pass
    let p := { p with st := r.state, reset := r.reset }
    if r.reset = .not then p else { p with main := .top }
  | .exit =>
    match p.rt with
    | .none => { p with main := .joinUnassigned }
    | .done =>
      let g := closeGtw p.st.gtw p.st.kernel
      { p with main := .joined, st := { p.st with gtw := g.1, kernel := g.2 } }
    | _ => p
  | .joinUnassigned => p
  | .joined => p

/-- The rest of a pass of `rt_thread` after the receive part, which ran `calls`: on a timer
    event, on to `CO_LOCK_OD`; otherwise `CO_epoll_processLast` and back to the loop test. -/
def rtAfterReceive (p : Program) (calls : List RxCallback) : Program × RtOut :=
  if p.epRT.timerEvent then ({ p with rt := .lock }, ⟨calls, false⟩)
  else ({ p with rt := .wait, epRT := (epollProcessLast p.epRT).1 }, ⟨calls, false⟩)

/-- One step of `rt_thread`, with what it does to the CANopen objects. From the loop test:
    `CO_epoll_wait` and, on a new event, `CO_CANrxFromEpoll` up to its test of `CANnormal`.
    A frame that passed the test is handed on at the next step, to the module as it then is:
    if `main` has freed the interfaces in between, the C code writes through a dangling
    `interface` pointer, and here interface `k` of the module then is takes the frame. -/
def rtStep (p : Program) (e : RtStepEnv) : Program × RtOut :=
  match p.rt with
  | .wait =>
    if p.endProgram then ({ p with rt := .done }, ⟨[], false⟩) else
    let ep := epollWait p.epRT e.wait
    if ep.epollNew then
      match p.st.module.canRxTest ep.ev e.recv with
      | none => rtAfterReceive { p with epRT := ep } []
      | some (m, none) => rtAfterReceive { p.setModule m with epRT := { ep with epollNew := false } } []
      | some (m, some (k, msg, timestamp)) =>
        ({ p.setModule m with epRT := { ep with epollNew := false }, rt := .rxFrame k msg timestamp },
          ⟨[], false⟩)
    else rtAfterReceive { p with epRT := ep } []
  | .rxFrame k msg timestamp =>
    let r := p.st.module.rxFrame k msg timestamp e.now
    rtAfterReceive (p.setModule r.module) r.calls
  | .lock =>
    if !p.st.mainline.nodeIdUnconfigured && p.st.module.canNormal then ({ p with rt := .sync }, ⟨[], false⟩)
    else ({ p with rt := .wait, epRT := (epollProcessLast p.epRT).1 }, ⟨[], false⟩)
  | .sync =>
    let m := (e.syncPdo p.st.module p.epRT.timeDifferenceUs none).1
    ({ p.setModule m with rt := .wait, epRT := (epollProcessLast p.epRT).1 }, ⟨[], true⟩)
  | .none | .done => (p, ⟨[], false⟩)

/-- One event. -/
def step (p : Program) : ProgramEvent → Program
  | .main e => p.mainStep rxSize canIfindex rtPriority e
  | .rt e => (p.rtStep e).1
  | .signal => { p with endProgram := true }

/-- A run: the events one after another. -/
def run (p : Program) (evs : List ProgramEvent) : Program :=
  evs.foldl (step rxSize canIfindex rtPriority) p

end Program

end CANopenLinux
