import CANopenLinux.Native.Driver

/-!
# The CAN driver: transmission and reception

`CO_driver.c`, I/O side. Transmission: `CO_CANsend` and `CO_CANmodule_process` of the
single-interface build, with the deferred retry of frames the kernel refused, and
`CO_CANCheckSendInterface` / `CO_CANCheckSend` of the multi-interface build, which ask the
error handler first. Reception: `CO_CANread`, `CO_CANrxMsg` and `CO_CANrxFromEpoll`.

What `send()` returns, and what `recvmsg()` finds on the socket (its result, the frame, the
receive time and the socket's drop count), are arguments. How the kernel fills `CO_CANread`'s
control buffer from the last two is modelled, with the sizes of a 64-bit Linux. A buffer is
named by its index in `txArray`, as the pointer `CO_CANtxBufferInit` returned.
-/

namespace CANopenLinux

/-- `errno` values the send paths tell apart. -/
inductive Errno
  | eintr
  | eagain
  | enobufs
  | other
  deriving DecidableEq, Repr

/-- What one non-blocking `send()` of a frame does: write the whole `CAN_MTU`, or fail. -/
inductive SendResult
  | written
  | error (errno : Errno)
  deriving DecidableEq, Repr

/-- `epoll_event`: the event bits and `data.fd`. -/
structure EpollEvent where
  events : UInt32
  fd : Int
  deriving DecidableEq, Repr

/-- `EPOLLIN`. -/
def epollIn : UInt32 := 0x001
/-- `EPOLLERR`. -/
def epollErr : UInt32 := 0x008
/-- `EPOLLHUP`. -/
def epollHup : UInt32 := 0x010

/-- `CAN_MTU`, the size of `struct can_frame`. -/
def canMtu : Int := 16

/-- What `recvmsg()` finds on the socket: its return value, the frame, the software receive
    time, and the count of frames the socket has dropped (`SOCK_SKB_CB(skb)->dropcount`). -/
structure RecvResult where
  n : Int
  frame : CanFrame
  timestamp : Timespec
  dropCount : UInt32

/-! ## The control buffer of `recvmsg()` -/

/-- `sizeof(struct cmsghdr)`. -/
def cmsghdrSize : Nat := 16

/-- `CMSG_SPACE(len)`: the header and the data, rounded up to a multiple of `sizeof(size_t)`. -/
def cmsgSpace (len : Nat) : Nat := cmsghdrSize + (len + 7) / 8 * 8

/-- `sizeof(struct timeval)`, and `sizeof(struct timespec)`. -/
def timevalSize : Nat := 16
def timespecSize : Nat := 16

/-- `sizeof(ctrlmsg)` in `CO_CANread`: `CMSG_SPACE(sizeof(struct timeval))` and
    `CMSG_SPACE(sizeof(dropped))`. -/
def ctrlmsgSize : Nat := cmsgSpace timevalSize + cmsgSpace 4

/-- A control message the kernel attaches to a frame. -/
inductive Cmsg
  /-- `SCM_TIMESTAMPING`: a `struct scm_timestamping`, three `struct timespec`, the first the
      software receive time. -/
  | timestamping (ts : Timespec)
  /-- `SO_RXQ_OVFL`: the socket's drop count, a `__u32`. -/
  | rxqOvfl (dropped : UInt32)

/-- The bytes of the message's data. -/
def Cmsg.dataLen : Cmsg → Nat
  | .timestamping _ => 3 * timespecSize
  | .rxqOvfl _ => 4

/-- What the kernel attaches to a frame on a socket with `SO_TIMESTAMPING` and `SO_RXQ_OVFL`,
    as `CO_CANmodule_addInterface` sets them up, in its order (`__sock_recv_cmsgs`): the
    timestamps, then the drop count, which is attached only when it is not zero. -/
def kernelCmsgs (rr : RecvResult) : List Cmsg :=
  .timestamping rr.timestamp :: if rr.dropCount ≠ 0 then [.rxqOvfl rr.dropCount] else []

/-- The kernel's `put_cmsg` of each message into a control buffer with `controllen` bytes
    left: a message that does not fit whole is cut to the bytes left (`MSG_CTRUNC`) and takes
    them all, and none is put once fewer bytes than a header are left. The result is the
    messages put, whole or cut, in order; `CMSG_FIRSTHDR` and `CMSG_NXTHDR` visit exactly
    these. -/
def putCmsgs : Nat → List Cmsg → List Cmsg
  | _, [] => []
  | controllen, c :: cs =>
    if controllen < cmsghdrSize then putCmsgs controllen cs
    else c :: putCmsgs (controllen - min (cmsgSpace c.dataLen) controllen) cs

/-- The control messages `CO_CANread` finds after `recvmsg()`. -/
def recvCmsgs (rr : RecvResult) : List Cmsg := putCmsgs ctrlmsgSize (kernelCmsgs rr)

/-- A callback invocation `CANrx_callback(object, message)`. -/
structure RxCallback where
  callback : Nat
  object : Nat
  frame : CanFrame
  deriving DecidableEq

/-- Does slot `rx` take a frame with identifier `ident`? The test of `CO_CANrxMsg`. -/
def CANrx.matches (rx : CANrx) (ident : UInt32) : Bool := (ident ^^^ rx.ident) &&& rx.mask == 0

/-- Set a status bit in an interface's error handler. -/
def CANinterface.markStatus (bit : UInt16) (i : CANinterface) : CANinterface :=
  { i with errorhandler := { i.errorhandler with
      canErrorStatus := i.errorhandler.canErrorStatus ||| bit } }

namespace CANmodule

/-- Apply `f` to interface `k`. -/
def modifyInterface (m : CANmodule) (k : Nat) (f : CANinterface → CANinterface) : CANmodule :=
  { m with canInterfaces := m.canInterfaces.modify f k }

/-- Set a status bit in interface `k`'s error handler. -/
def setInterfaceStatus (m : CANmodule) (k : Nat) (bit : UInt16) : CANmodule :=
  m.modifyInterface k (CANinterface.markStatus bit)

/-- Set buffer `index`'s pending flag. -/
def setBufferFull (m : CANmodule) (index : Nat) (full : Bool) : CANmodule :=
  { m with txArray := m.txArray.modify (fun b => { b with bufferFull := full }) index }

section fields

variable (m : CANmodule) (k : Nat) (f : CANinterface → CANinterface)

@[simp] theorem modifyInterface_canInterfaces :
    (m.modifyInterface k f).canInterfaces = m.canInterfaces.modify f k := rfl
@[simp] theorem modifyInterface_rxArray : (m.modifyInterface k f).rxArray = m.rxArray := rfl
@[simp] theorem modifyInterface_txArray : (m.modifyInterface k f).txArray = m.txArray := rfl
@[simp] theorem modifyInterface_canNormal : (m.modifyInterface k f).canNormal = m.canNormal := rfl
@[simp] theorem modifyInterface_canTxCount : (m.modifyInterface k f).canTxCount = m.canTxCount := rfl

@[simp] theorem setInterfaceStatus_eq (bit : UInt16) :
    m.setInterfaceStatus k bit = m.modifyInterface k (CANinterface.markStatus bit) := rfl

@[simp] theorem setBufferFull_txArray (full : Bool) :
    (m.setBufferFull k full).txArray = m.txArray.modify (fun b => { b with bufferFull := full }) k := rfl
@[simp] theorem setBufferFull_canInterfaces (full : Bool) :
    (m.setBufferFull k full).canInterfaces = m.canInterfaces := rfl
@[simp] theorem setBufferFull_rxArray (full : Bool) : (m.setBufferFull k full).rxArray = m.rxArray := rfl
@[simp] theorem setBufferFull_canTxCount (full : Bool) :
    (m.setBufferFull k full).canTxCount = m.canTxCount := rfl

end fields

/-! ## Single-interface transmission -/

/-- `CO_CANsend` (single interface): a buffer still pending counts as a TX overflow but is
    sent anyway; a refused frame is marked pending and counted in `CANtxCount`, and a
    pending frame that goes out is unmarked and uncounted. -/
def canSend (m : CANmodule) (index : Nat) (r : SendResult) : CANmodule × ReturnError :=
  match m.canInterfaces[0]?, m.txArray[index]? with
  | some iface, some buffer =>
    if iface.fd < 0 then (m, .illegalArgument) else
    let m := if buffer.bufferFull then m.setInterfaceStatus 0 canErrtxOverflow else m
    let err := if buffer.bufferFull then ReturnError.txOverflow else .no
    match r with
    | .written =>
      let m := m.modifyInterface 0 fun i => { i with sent := i.sent ++ [buffer] }
      if buffer.bufferFull then
        ({ m.setBufferFull index false with canTxCount := m.canTxCount - 1 }, err)
      else (m, err)
    | .error .eintr | .error .eagain | .error .enobufs =>
      if buffer.bufferFull then (m, .txBusy)
      else ({ m.setBufferFull index true with canTxCount := m.canTxCount + 1 }, .txBusy)
    | .error .other => (m.setInterfaceStatus 0 canErrtxOverflow, .syscall)
  | _, _ => (m, .illegalArgument)

/-- `CO_CANmodule_process` (single interface): copy the first interface's error status,
    and re-send the first pending buffer; with a count but no pending buffer, reset the
    count. -/
def canModuleProcess (m : CANmodule) (r : SendResult) : CANmodule :=
  match m.canInterfaces[0]? with
  | none => m
  | some iface =>
    let m := { m with canErrorStatus := iface.errorhandler.canErrorStatus }
    if m.canTxCount > 0 then
      match m.txArray.findIdx? (·.bufferFull) with
      | some index =>
        ({ m.setBufferFull index false with canTxCount := m.canTxCount - 1 }.canSend index r).1
      | none => { m with canTxCount := 0 }
    else m

/-! ## Multi-interface transmission -/

/-- The `do … while (errno != 0)` loop of `CO_CANCheckSendInterface`: `EINTR` sends again.
    `none` if every answer in the list is `EINTR`: the loop has not ended yet. -/
def sendLoop : List SendResult → Option SendResult
  | [] => none
  | .error .eintr :: rs => sendLoop rs
  | r :: _ => some r

/-- `CO_CANCheckSendInterface`: ask the error handler at time `now`; in listen-only mode the
    frame is dropped without calling `send()`. -/
def canCheckSendInterface (m : CANmodule) (buffer : CANtx) (k : Nat) (now : Timespec)
    (rs : List SendResult) : Option (CANmodule × ReturnError) :=
  match m.canInterfaces[k]? with
  | none => some (m, .illegalArgument)
  | some iface =>
    if iface.fd < 0 then some (m, .illegalArgument) else
    let r := iface.errorhandler.canErrorTxMsg now
    let m := m.modifyInterface k fun i => { i with errorhandler := r.1 }
    match r.2 with
    | .listenOnly => some (m, .no)
    | .busOff => some (m, .invalidState)
    | .active =>
      match sendLoop rs with
      | none => none
      | some .written => some (m.modifyInterface k fun i => { i with sent := i.sent ++ [buffer] }, .no)
      | some (.error .enobufs) => some (m.setInterfaceStatus k canErrtxOverflow, .txBusy)
      | some _ => some (m.setInterfaceStatus k canErrtxOverflow, .txOverflow)

/-- `CO_CANCheckSend`: send on every interface the buffer selects (`can_ifindex` 0 selects
    all), with the answers `rs k` of interface `k`; the last error is returned. -/
def canCheckSend (m : CANmodule) (index : Nat) (now : Timespec) (rs : Nat → List SendResult) :
    Option (CANmodule × ReturnError) :=
  match m.txArray[index]? with
  | none => none
  | some buffer =>
    let step (acc : CANmodule × ReturnError) (k : Nat) : Option (CANmodule × ReturnError) :=
      let (m, err) := acc
      match m.canInterfaces[k]? with
      | some iface =>
        if buffer.canIfindex = 0 ∨ buffer.canIfindex = iface.canIfindex then
          (m.canCheckSendInterface buffer k now (rs k)).map fun (m, tmp) =>
            (m, if tmp ≠ .no then tmp else err)
        else some (m, err)
      | none => some (m, err)
    List.foldlM step (m, .no) (List.range m.canInterfaces.length)

/-- `CO_CANsend` of the multi-interface build: `CO_CANCheckSend`, with a busy interface
    reported as an overflow. -/
def canSendMulti (m : CANmodule) (index : Nat) (now : Timespec) (rs : Nat → List SendResult) :
    Option (CANmodule × ReturnError) :=
  (m.canCheckSend index now rs).map fun (m, err) => (m, if err = .txBusy then .txOverflow else err)

/-! ## Reception -/

/-- One pass of the loop of `CO_CANread` over the control messages: `SCM_TIMESTAMPING` gives
    the receive time, its first `timespec`; an `SO_RXQ_OVFL` count above the module's last one
    marks an RX overflow on interface `k`, and becomes the last one. -/
def readCmsg (k : Nat) (acc : CANmodule × Option Timespec) : Cmsg → CANmodule × Option Timespec
  | .timestamping ts => (acc.1, some ts)
  | .rxqOvfl dropped =>
    let m := if dropped > acc.1.rxDropCount then acc.1.setInterfaceStatus k canErrrxOverflow else acc.1
    ({ m with rxDropCount := dropped }, acc.2)

/-- `CO_CANread` on interface `k`: a short read marks an RX overflow and fails; otherwise the
    loop over the control messages. The module, the result, and the time written to
    `*timestamp`, if one was. -/
def canRead (m : CANmodule) (k : Nat) (rr : RecvResult) : CANmodule × ReturnError × Option Timespec :=
  if rr.n ≠ canMtu then (m.setInterfaceStatus k canErrrxOverflow, .syscall, none) else
  let r := (recvCmsgs rr).foldl (readCmsg k) (m, none)
  (r.1, .no, r.2)

section canRead

variable (m : CANmodule) (k : Nat) (rr : RecvResult)

/-- The kernel's 64-byte `SCM_TIMESTAMPING` message is cut to the 56 bytes of `ctrlmsg` and
    fills it, so `SO_RXQ_OVFL` is never put: `CO_CANread` finds the receive time, and never a
    drop count. -/
theorem recvCmsgs_eq : recvCmsgs rr = [.timestamping rr.timestamp] := by
  unfold recvCmsgs kernelCmsgs
  split <;> simp [putCmsgs, ctrlmsgSize, cmsgSpace, cmsghdrSize, Cmsg.dataLen, timevalSize,
    timespecSize]

/-- A whole frame leaves the module as it was, and gives its receive time. -/
theorem canRead_of_mtu (h : rr.n = canMtu) : m.canRead k rr = (m, .no, some rr.timestamp) := by
  simp [canRead, h, recvCmsgs_eq, readCmsg]

/-- A short read marks an RX overflow on interface `k`, and nothing else. -/
theorem canRead_of_ne_mtu (h : rr.n ≠ canMtu) :
    m.canRead k rr = (m.setInterfaceStatus k canErrrxOverflow, .syscall, none) := by
  simp [canRead, h]

/-- `CO_CANread` fails exactly on a short read. -/
@[simp] theorem canRead_err : (m.canRead k rr).2.1 = if rr.n = canMtu then .no else .syscall := by
  by_cases hn : rr.n = canMtu
  · simp [canRead_of_mtu m k rr hn, hn]
  · simp [canRead_of_ne_mtu m k rr hn, hn]

@[simp] theorem canRead_rxArray : (m.canRead k rr).1.rxArray = m.rxArray := by
  by_cases hn : rr.n = canMtu
  · simp [canRead_of_mtu m k rr hn]
  · simp [canRead_of_ne_mtu m k rr hn]

@[simp] theorem canRead_canNormal : (m.canRead k rr).1.canNormal = m.canNormal := by
  by_cases hn : rr.n = canMtu
  · simp [canRead_of_mtu m k rr hn]
  · simp [canRead_of_ne_mtu m k rr hn]

end canRead

/-- `CO_CANrxMsg`: the first matching slot takes the frame and its callback, if any, runs. -/
def canRxMsg (m : CANmodule) (msg : CanFrame) : Option Nat × List RxCallback :=
  match m.rxArray.findIdx? (CANrx.matches · msg.canId) with
  | none => (none, [])
  | some index =>
    match m.rxArray[index]? with
    | some rx => (some index, (rx.callback.map fun cb => ⟨cb, rx.object, msg⟩).toList)
    | none => (some index, [])

/-- `CO_CANrxMsg` reads only the slots. -/
@[simp] theorem canRxMsg_modifyInterface (m : CANmodule) (k : Nat) (f : CANinterface → CANinterface)
    (msg : CanFrame) : (m.modifyInterface k f).canRxMsg msg = m.canRxMsg msg := rfl

/-- What `CO_CANrxFromEpoll` returns and leaves: whether the event was the CAN socket's,
    the module, the callbacks run, and `*msgIndex` if it was written. -/
structure RxFromEpoll where
  consumed : Bool
  module : CANmodule
  calls : List RxCallback
  msgIndex : Option Int

/-- The normal-mode part of `CO_CANrxFromEpoll`, once interface `k` has read `msg`, received
    at `timestamp`: an error frame goes to the interface's error handler; a data frame clears
    its listen-only state and goes to the first matching slot, which records the time and the
    interface. -/
def rxFrame (m : CANmodule) (k : Nat) (msg : CanFrame) (timestamp now : Timespec) : RxFromEpoll :=
  if msg.canId &&& canErrFlag ≠ 0 then
    ⟨true, m.modifyInterface k (fun i =>
      { i with errorhandler := (i.errorhandler.canErrorRxMsgError msg now).1 }), [], none⟩
  else
    let m := m.modifyInterface k fun i => { i with errorhandler := i.errorhandler.canErrorRxMsg }
    let ifindex := (m.canInterfaces[k]?.map (·.canIfindex)).getD 0
    let stamp (rx : CANrx) := { rx with timestamp := timestamp, canIfindex := ifindex }
    let r := m.canRxMsg msg
    match r.1 with
    | some index => ⟨true, { m with rxArray := m.rxArray.modify stamp index }, r.2, some index⟩
    | none => ⟨true, m, r.2, some (-1)⟩

/-- `CO_CANrxFromEpoll` up to its test of `CANnormal`: find the interface whose socket raised
    the event, and on `EPOLLIN` read one frame. `none` when the event is not a CAN socket's;
    otherwise the module `CO_CANread` left and, when it read a frame and the module is in
    normal mode, the interface, the frame and its receive time, still to be handed on.
    `CO_CANread` always writes the time (`canRead_of_mtu`); a read without one would hand on
    a `timespec` never written, and is not handed on here. -/
def canRxTest (m : CANmodule) (ev : EpollEvent) (rr : RecvResult) :
    Option (CANmodule × Option (Nat × CanFrame × Timespec)) :=
  match m.canInterfaces.findIdx? (·.fd = ev.fd) with
  | none => none
  | some k =>
    if ev.events &&& (epollErr ||| epollHup) ≠ 0 then some (m, none)
    else if ev.events &&& epollIn ≠ 0 then
      let r := m.canRead k rr
      match r.2 with
      | (.no, some timestamp) => if r.1.canNormal then some (r.1, some (k, rr.frame, timestamp)) else some (r.1, none)
      | _ => some (r.1, none)
    else some (m, none)

/-- `CO_CANrxFromEpoll`: the test, then `rxFrame` for a frame read in normal mode. -/
def canRxFromEpoll (m : CANmodule) (ev : EpollEvent) (rr : RecvResult) (now : Timespec) :
    RxFromEpoll :=
  match m.canRxTest ev rr with
  | none => ⟨false, m, [], none⟩
  | some (m, none) => ⟨true, m, [], none⟩
  | some (m, some (k, msg, timestamp)) => m.rxFrame k msg timestamp now

end CANmodule

end CANopenLinux
