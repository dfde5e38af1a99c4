import CANopenLinux.Native.DriverIo

/-!
# The gateway's command socket

`CO_epoll_createGtw`, `CO_epoll_processGtw` and `CO_epoll_closeGtw`: the ASCII gateway reads
its commands from standard input, from a local socket, or from a TCP socket. In the socket
modes a listening socket is registered with a one-shot watch. Each accepted connection
becomes `gtwa_fd` and is registered in the epoll set. `socketAcceptEnableForEpoll` re-arms the
listener when a connection ends.

The kernel's side is `GtwKernel`: the descriptors the gateway holds open, the ones in the
epoll set, and whether the listener's one-shot watch is armed. Closing a descriptor also
drops it from the epoll set, since nothing else refers to it. What `accept4`, `epoll_ctl` and
`read` return is an argument (`GtwEnv`). What the code writes to the gateway's input with
`CO_GTWA_write` is returned as bytes. The gateway's responses go out through
`gtwa_write_response`.
-/

namespace CANopenLinux

/-- `CO_COMMAND_IF_STDIO`. -/
def coCommandIfStdio : Int := -2
/-- `CO_COMMAND_IF_LOCAL_SOCKET`. -/
def coCommandIfLocalSocket : Int := -1
/-- `CO_COMMAND_IF_TCP_SOCKET_MIN`. -/
def coCommandIfTcpSocketMin : Int := 0
/-- `CO_COMMAND_IF_TCP_SOCKET_MAX`. -/
def coCommandIfTcpSocketMax : Int := 0xFFFF
/-- `CO_COMMAND_IF_DISABLED`. -/
def coCommandIfDisabled : Int := -100
/-- `STDIN_FILENO`. -/
def stdinFileno : Int := 0

/-- `CO_epoll_gtw_t`, without the epoll descriptor and the local socket path. -/
structure EpollGtw where
  commandInterface : Int
  socketTimeoutUs : UInt32
  socketTimeoutTmrUs : UInt32
  gtwaFdSocket : Int
  gtwaFd : Int
  freshCommand : Bool
  deriving DecidableEq, Repr

/-- The kernel's side: the gateway's open descriptors, those in the epoll set, and whether
    the listener's one-shot watch is armed. -/
structure GtwKernel where
  openFds : List Int
  registered : List Int
  listenerArmed : Bool
  deriving DecidableEq, Repr

namespace GtwKernel

/-- `close(fd)`: the descriptor is closed and leaves the epoll set; a descriptor that is not
    open fails with `EBADF`. -/
def close (k : GtwKernel) (fd : Int) : GtwKernel :=
  if fd ∈ k.openFds then { k with openFds := k.openFds.erase fd, registered := k.registered.erase fd }
  else k

/-- `epoll_ctl(EPOLL_CTL_DEL, fd)`. -/
def epollDel (k : GtwKernel) (fd : Int) : GtwKernel := { k with registered := k.registered.erase fd }

/-- `epoll_ctl(EPOLL_CTL_ADD, fd)`: fails if the descriptor is not open or already in the
    set, or when `ok` says the kernel refuses it. -/
def epollAdd (k : GtwKernel) (fd : Int) (ok : Bool) : GtwKernel × Bool :=
  if ok ∧ fd ∈ k.openFds ∧ fd ∉ k.registered then ({ k with registered := fd :: k.registered }, true)
  else (k, false)

/-- `accept4` returning descriptor `fd`. -/
def accept (k : GtwKernel) (fd : Int) : GtwKernel := { k with openFds := fd :: k.openFds }

/-- `socketAcceptEnableForEpoll`: `epoll_ctl(EPOLL_CTL_MOD)` re-arms the listener's one-shot
    watch, if it is in the set. -/
def socketAcceptEnableForEpoll (k : GtwKernel) (fdSocket : Int) : GtwKernel :=
  if fdSocket ∈ k.registered then { k with listenerArmed := true } else k

/-- `epoll_wait` reporting an event of `fd`: a report of the listener `fdSocket`, watched with
    `EPOLLONESHOT`, disarms its watch. -/
def report (k : GtwKernel) (fdSocket fd : Int) : GtwKernel :=
  if fd = fdSocket then { k with listenerArmed := false } else k

section lemmas

variable (k : GtwKernel) {fd x : Int}

@[simp] theorem close_listenerArmed : (k.close fd).listenerArmed = k.listenerArmed := by
  unfold close; split <;> rfl

theorem mem_close_openFds (h : x ≠ fd) : x ∈ (k.close fd).openFds ↔ x ∈ k.openFds := by
  unfold close; split <;> simp [List.mem_erase_of_ne h]

theorem mem_close_registered (h : x ≠ fd) : x ∈ (k.close fd).registered ↔ x ∈ k.registered := by
  unfold close; split <;> simp [List.mem_erase_of_ne h]

theorem mem_of_mem_close_registered (h : x ∈ (k.close fd).registered) : x ∈ k.registered := by
  unfold close at h; split at h
  · exact List.mem_of_mem_erase h
  · exact h

theorem close_registered_nodup (h : k.registered.Nodup) : (k.close fd).registered.Nodup := by
  unfold close; split
  · exact h.erase fd
  · exact h

@[simp] theorem epollDel_openFds : (k.epollDel fd).openFds = k.openFds := rfl
@[simp] theorem epollDel_registered : (k.epollDel fd).registered = k.registered.erase fd := rfl
@[simp] theorem epollDel_listenerArmed : (k.epollDel fd).listenerArmed = k.listenerArmed := rfl
@[simp] theorem accept_openFds : (k.accept fd).openFds = fd :: k.openFds := rfl
@[simp] theorem accept_registered : (k.accept fd).registered = k.registered := rfl
@[simp] theorem accept_listenerArmed : (k.accept fd).listenerArmed = k.listenerArmed := rfl

@[simp] theorem socketAcceptEnableForEpoll_openFds :
    (k.socketAcceptEnableForEpoll fd).openFds = k.openFds := by
  unfold socketAcceptEnableForEpoll; split <;> rfl

@[simp] theorem socketAcceptEnableForEpoll_registered :
    (k.socketAcceptEnableForEpoll fd).registered = k.registered := by
  unfold socketAcceptEnableForEpoll; split <;> rfl

theorem socketAcceptEnableForEpoll_armed (h : fd ∈ k.registered) :
    (k.socketAcceptEnableForEpoll fd).listenerArmed = true := by
  simp [socketAcceptEnableForEpoll, h]

/-- `epoll_ctl(EPOLL_CTL_ADD)` of an open descriptor not yet in the set succeeds when the
    kernel does not refuse it. -/
theorem epollAdd_ok (ho : fd ∈ k.openFds) (hr : fd ∉ k.registered) :
    k.epollAdd fd true = ({ k with registered := fd :: k.registered }, true) := by
  simp [epollAdd, ho, hr]

end lemmas

end GtwKernel

/-- What the kernel answers while the gateway handles one event. -/
structure GtwEnv where
  /-- `accept4`: the new descriptor, or none when it fails. -/
  acceptFd : Option Int
  /-- Whether `epoll_ctl(EPOLL_CTL_ADD)` of the new connection may succeed. -/
  addOk : Bool
  /-- `read`: the bytes read (none for `-1`). -/
  read : Option (List UInt8)
  /-- `CO_GTWA_write_getSpace`. -/
  space : Nat
  /-- `co->nodeIdUnconfigured`. -/
  nodeIdUnconfigured : Bool

/-- What one call of `CO_epoll_processGtw` leaves: the gateway, the kernel, `ep->epoll_new`,
    and the bytes given to `CO_GTWA_write`. -/
structure GtwResult where
  gtw : EpollGtw
  kernel : GtwKernel
  epollNew : Bool
  gtwaIn : List UInt8

/-- `isgraph`: a printable character other than space. -/
def isGraph (c : UInt8) : Bool := 0x21 ≤ c && c ≤ 0x7E

/-- `"[0] "`, prepended on standard input to a command typed without a sequence number. -/
def stdioSequence : List UInt8 := [0x5B, 0x30, 0x5D, 0x20]

/-- The bytes `CO_GTWA_write` gets from one read on standard input, and the new
    `freshCommand`. A read of nothing makes `buf[s - 1]` read before the buffer; it is taken
    as no newline. -/
def stdioInput (fresh : Bool) (space : Nat) (bytes : List UInt8) : List UInt8 × Bool :=
  let closed := bytes.getLast? = some 0x0A
  let pre := match bytes.head? with
    | some b => b != 0x5B && stdioSequence.length ≤ space - bytes.length && isGraph b &&
        b != 0x23 && closed && fresh
    | none => false
  ((if pre then stdioSequence else []) ++ bytes, closed)

/-- The indices of `buf` that the standard-input branch reads after `read` returned `s`:
    `buf[s - 1]` for `closed`, then `buf[0]`, which the test for the sequence reads first. -/
def stdioBufIndices (s : Nat) : List Int := [(s : Int) - 1, 0]

/-- The indices of `buf` that event type B reads itself, besides the `s` bytes it passes to
    `CO_GTWA_write`: those of the standard-input branch, or none. -/
def gtwReadBufIndices (g : EpollGtw) (env : GtwEnv) : List Int :=
  if env.nodeIdUnconfigured ∨ env.space = 0 then [] else
  match env.read with
  | none => []
  | some bytes =>
    if g.commandInterface = coCommandIfStdio then stdioBufIndices (bytes.take env.space).length
    else []

/-- Event type B of `CO_epoll_processGtw`: `gtwa_fd` is readable. -/
def gtwRead (g : EpollGtw) (k : GtwKernel) (env : GtwEnv) : GtwResult :=
  let space := env.space
  let r : GtwResult :=
    if env.nodeIdUnconfigured ∨ space = 0 then ⟨g, k, false, []⟩  -- continue or purge data
    else match env.read with
    | none => ⟨g, k, false, []⟩
    | some bytes =>
      let bytes := bytes.take space
      if g.commandInterface = coCommandIfStdio then
        let r := stdioInput g.freshCommand space bytes
        ⟨{ g with freshCommand := r.2 }, k, false, r.1⟩
      else if bytes = [] then
        -- EOF: close the connection and accept the next one
        ⟨{ g with gtwaFd := -1 },
          ((k.epollDel g.gtwaFd).close g.gtwaFd).socketAcceptEnableForEpoll g.gtwaFdSocket, false, []⟩
      else ⟨g, k, false, bytes⟩
  { r with gtw := { r.gtw with socketTimeoutTmrUs := 0 } }

/-- The event part of `CO_epoll_processGtw`, for an event on one of its descriptors. -/
def gtwEvent (g : EpollGtw) (k : GtwKernel) (ev : EpollEvent) (env : GtwEnv) : GtwResult :=
  if ev.events &&& epollIn ≠ 0 ∧ ev.fd = g.gtwaFdSocket then
    -- event type A: a client connects
    match env.acceptFd with
    | none => ⟨{ g with gtwaFd := -1 }, k.socketAcceptEnableForEpoll g.gtwaFdSocket, false, []⟩
    | some fd =>
      let r := (k.accept fd).epollAdd fd env.addOk
      ⟨{ g with gtwaFd := fd, socketTimeoutTmrUs := 0 },
        if r.2 then r.1 else r.1.socketAcceptEnableForEpoll g.gtwaFdSocket, false, []⟩
  else if ev.events &&& epollIn ≠ 0 ∧ ev.fd = g.gtwaFd then gtwRead g k env
  else if ev.events &&& (epollErr ||| epollHup) ≠ 0 then
    -- event type C: socket error or hang-up
    ⟨g, k.close g.gtwaFd, true, []⟩
  else ⟨g, k, true, []⟩

/-- The timeout part of `CO_epoll_processGtw`: an idle connection is closed once its timer
    passes `socketTimeout_us`, and otherwise the timer advances by `dt`. -/
def gtwTimeout (r : GtwResult) (dt : UInt32) : GtwResult :=
  let g := r.gtw
  if 0 < g.socketTimeoutUs ∧ 0 < g.gtwaFdSocket ∧ 0 < g.gtwaFd then
    if g.socketTimeoutUs < g.socketTimeoutTmrUs then
      { r with gtw := { g with gtwaFd := -1 },
               kernel := ((r.kernel.epollDel g.gtwaFd).close g.gtwaFd).socketAcceptEnableForEpoll
                 g.gtwaFdSocket }
    else { r with gtw := { g with socketTimeoutTmrUs := g.socketTimeoutTmrUs + dt } }
  else r

/-- `CO_epoll_processGtw`: the event `ev` if `ep->epoll_new` is set and it is for the
    listener or the connection, then the timeout. -/
def processGtw (g : EpollGtw) (k : GtwKernel) (epollNew : Bool) (ev : EpollEvent) (env : GtwEnv)
    (dt : UInt32) : GtwResult :=
  gtwTimeout (if epollNew ∧ (ev.fd = g.gtwaFdSocket ∨ ev.fd = g.gtwaFd) then gtwEvent g k ev env
    else ⟨g, k, epollNew, []⟩) dt

/-- `gtwa_write_response`, which `CO_epoll_initCANopenGtw` registers with `CO_GTWA_initRead`,
    `object` pointing at `gtwa_fd`: a response of `count` bytes goes to `write()` on `gtwa_fd`
    when it is not negative, and `written` is what `write()` returns (`-1` on an error).
    Returns the descriptor written to, the count reported back, and `*connectionOK`. A failed
    write reports nothing written, so that the gateway tries again; without a descriptor the
    response is reported written, so dropped, and the connection marked lost. -/
def gtwaWriteResponse (gtwaFd : Int) (count : Nat) (written : Int) (connectionOK : Bool) :
    Option Int × Nat × Bool :=
  if gtwaFd ≥ 0 then (some gtwaFd, if written ≥ 0 then written.toNat else 0, connectionOK)
  else (none, count, false)

/-- `CO_epoll_initCANopenGtw`: with a configured node-id, the next command starts fresh. -/
def initCANopenGtw (g : EpollGtw) (nodeIdUnconfigured : Bool) : EpollGtw :=
  if nodeIdUnconfigured then g else { g with freshCommand := true }

/-- `socketTimeout_us` from `socketTimeout_ms`, clamped below `UINT_MAX`. -/
def socketTimeoutUs (socketTimeoutMs : UInt32) : UInt32 :=
  if socketTimeoutMs < 4294967295 / 1000 - 1000000 then socketTimeoutMs * 1000 else 4294967295 - 1000000

/-- What the kernel answers while `CO_epoll_createGtw` sets up a socket mode. -/
structure CreateEnv where
  /-- `socket()`: the listener's descriptor, or none when it fails. -/
  socketFd : Option Int
  /-- `bind`, `listen` and `signal(SIGPIPE)`. -/
  bindOk : Bool
  listenOk : Bool
  signalOk : Bool
  /-- Whether `epoll_ctl(EPOLL_CTL_ADD)` may succeed. -/
  addOk : Bool

/-- `CO_epoll_createGtw`: standard input is registered as `gtwa_fd`. In the socket modes the
    listener is created and registered with its one-shot watch armed. -/
def createGtw (k : GtwKernel) (commandInterface : Int) (socketTimeoutMs : UInt32) (env : CreateEnv) :
    Except ReturnError (EpollGtw × GtwKernel) := do
  let g : EpollGtw := ⟨commandInterface, socketTimeoutUs socketTimeoutMs, 0, -1, -1, false⟩
  let (g, k) ← show Except ReturnError (EpollGtw × GtwKernel) from
    if commandInterface = coCommandIfStdio then
      pure ({ g with gtwaFd := stdinFileno }, { k with openFds := stdinFileno :: k.openFds })
    else if commandInterface = coCommandIfLocalSocket ∨
        (coCommandIfTcpSocketMin ≤ commandInterface ∧ commandInterface ≤ coCommandIfTcpSocketMax) then
      match env.socketFd with
      | none => .error .syscall
      | some fd =>
        if !env.bindOk || !env.listenOk || !env.signalOk then .error .syscall
        else pure ({ g with gtwaFdSocket := fd }, k.accept fd)
    else pure ({ g with commandInterface := coCommandIfDisabled }, k)
  let k ← if 0 ≤ g.gtwaFd then
      let r := k.epollAdd g.gtwaFd env.addOk
      if r.2 then pure r.1 else .error .syscall
    else pure k
  if 0 ≤ g.gtwaFdSocket then
    let r := k.epollAdd g.gtwaFdSocket env.addOk
    if r.2 then pure (g, { r.1 with listenerArmed := true }) else .error .syscall
  else pure (g, k)

/-- `CO_epoll_closeGtw`: in the socket modes, closes the connection when `gtwa_fd > 0`, then
    the listener, and forgets both. -/
def closeGtw (g : EpollGtw) (k : GtwKernel) : EpollGtw × GtwKernel :=
  let k := if g.commandInterface = coCommandIfLocalSocket ∨
      g.commandInterface ≥ coCommandIfTcpSocketMin then
    (if g.gtwaFd > 0 then k.close g.gtwaFd else k).close g.gtwaFdSocket
  else k
  ({ g with gtwaFd := -1, gtwaFdSocket := -1 }, k)

end CANopenLinux
