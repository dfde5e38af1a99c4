import CANopenLinux.Native.ErrorHandler

/-!
# The CAN driver: module state and configuration

`CO_driver.c` and `CO_driver_target.h`, configuration side: the module object, its RX and TX
buffer arrays, the per-slot SocketCAN filter table, `CO_CANmodule_init` with its interface,
`CO_CANrxBufferInit`, `CO_CANtxBufferInit`, `setRxFilters` and `CO_CANsetNormalMode`.

Two kernel-side facts of each socket are kept with the interface, so that what reaches the
bus and what the socket lets through can be read off the model: the filter list that
`setsockopt(CAN_RAW_FILTER)` installed, and the frames that `send()` accepted. Results of
system calls are arguments (`setsockoptOk fd` says whether `setsockopt` succeeds on descriptor
`fd`); the `calloc` of the filter table is taken to succeed. Pointers that the code stores without reading (`object`, `CANrx_callback`) are kept
as identities. What `CO_CANmodule_addInterface` and `CO_CANmodule_disable` do to the process's
descriptors is a list of effects (`FdEffect`) on a table of open and registered descriptors
(`FdTable`). The multi-interface lookup tables are in `MultiInterface`; here the
single-interface build is modelled, except where a definition says otherwise.
-/

namespace CANopenLinux

/-- `struct can_filter`. -/
structure CanFilter where
  canId : UInt32
  canMask : UInt32
  deriving DecidableEq, Repr

/-- `CO_CANrx_t`: identifier and mask, the registered object and callback, and where and
    when the last matching frame came from. -/
structure CANrx where
  ident : UInt32
  mask : UInt32
  object : Nat
  callback : Option Nat
  canIfindex : Int
  timestamp : Timespec
  deriving DecidableEq

/-- `CO_CANtx_t`. -/
structure CANtx where
  ident : UInt32
  dlc : UInt8
  data : List UInt8
  bufferFull : Bool
  syncFlag : Bool
  canIfindex : Int
  deriving DecidableEq

/-- `CO_CANinterface_t`, with the socket's installed filters and accepted frames. -/
structure CANinterface where
  canIfindex : Int
  fd : Int
  errorhandler : CANinterfaceErrorhandler
  filters : List CanFilter
  sent : List CANtx
  deriving DecidableEq

/-- `CO_CANmodule_t`; `rxSize` and `txSize` are the lengths of the arrays. -/
structure CANmodule where
  canInterfaces : List CANinterface
  rxArray : List CANrx
  rxFilter : List CanFilter
  rxDropCount : UInt32
  txArray : List CANtx
  canErrorStatus : UInt16
  canNormal : Bool
  canTxCount : UInt16
  deriving DecidableEq

/-- What a call of the driver changes in the process's descriptors: `socket()` opens one,
    `epoll_ctl` adds one to or removes one from the epoll set, `close()` closes one. -/
inductive FdEffect
  | socket (fd : Int)
  | epollAdd (fd : Int)
  | epollDel (fd : Int)
  | close (fd : Int)
  deriving DecidableEq, Repr

/-- The process's descriptors as the driver sees them: those open, and those in the epoll
    set of `CANmodule->epoll_fd`. -/
structure FdTable where
  openFds : List Int
  registered : List Int
  deriving DecidableEq, Repr

/-- An effect on the table. Closing a descriptor also takes it out of the epoll set; closing
    or removing one that is not there changes nothing (`EBADF`, `ENOENT`). -/
def FdEffect.apply : FdEffect → FdTable → FdTable
  | .socket fd, t => { t with openFds := fd :: t.openFds }
  | .epollAdd fd, t => { t with registered := fd :: t.registered }
  | .epollDel fd, t => { t with registered := t.registered.erase fd }
  | .close fd, t => ⟨t.openFds.erase fd, t.registered.erase fd⟩

/-- The table after a list of effects, in order. -/
def FdTable.applyAll (t : FdTable) (effs : List FdEffect) : FdTable :=
  effs.foldl (fun t e => e.apply t) t

namespace CANmodule

/-! ## Kernel filters -/

/-- Install the filter list `fs` on every interface; `setsockoptOk fd` decides each call.
    The result is `CO_ERROR_SYSCALL` if any call failed. -/
def installFilters (m : CANmodule) (setsockoptOk : Int → Bool) (fs : List CanFilter) :
    CANmodule × ReturnError :=
  ({ m with canInterfaces :=
      m.canInterfaces.map fun i => if setsockoptOk i.fd then { i with filters := fs } else i },
   if m.canInterfaces.all fun i => setsockoptOk i.fd then .no else .syscall)

/-- `disableRx`: a filter list of length zero, which matches no frame. -/
def disableRx (m : CANmodule) (setsockoptOk : Int → Bool) : CANmodule × ReturnError :=
  m.installFilters setsockoptOk []

/-- The vector `setRxFilters` copies out of `rxFilter`: the unused `(0, 0)` entries are
    removed, because they would pass every frame. -/
def rxFiltersCpy (rxFilter : List CanFilter) : List CanFilter :=
  rxFilter.filter fun f => f.canId ≠ 0 || f.canMask ≠ 0

/-- `setRxFilters`: install the copied vector, or disable RX when it is empty. -/
def setRxFilters (m : CANmodule) (setsockoptOk : Int → Bool) : CANmodule × ReturnError :=
  if rxFiltersCpy m.rxFilter = [] then m.disableRx setsockoptOk
  else m.installFilters setsockoptOk (rxFiltersCpy m.rxFilter)

/-- `CO_CANsetNormalMode`: leave normal mode, apply the filters, and enter normal mode only
    if every interface took them. -/
def canSetNormalMode (m : CANmodule) (setsockoptOk : Int → Bool) : CANmodule :=
  let r := { m with canNormal := false }.setRxFilters setsockoptOk
  if r.2 = .no then { r.1 with canNormal := true } else r.1

/-! ## Buffers -/

/-- The slot `CO_CANmodule_init` writes into every RX buffer. -/
def rxSlotInit : CANrx :=
  { ident := 0, mask := 0xFFFFFFFF, object := 0, callback := none, canIfindex := 0,
    timestamp := Timespec.zero }

/-- The identifier `CO_CANrxBufferInit` and `CO_CANtxBufferInit` store: the eleven standard
    bits, with the RTR flag folded in. -/
def identWithRtr (ident : UInt16) (rtr : Bool) : UInt32 :=
  (ident.toUInt32 &&& canSffMask) ||| (if rtr then canRtrFlag else 0)

/-- The mask `CO_CANrxBufferInit` stores: the extended-frame and RTR bits are always
    compared. -/
def maskWithFlags (mask : UInt16) : UInt32 :=
  (mask.toUInt32 &&& canSffMask) ||| canEffFlag ||| canRtrFlag

/-- `CO_CANrxBufferInit`: configure slot `index` and its filter entry; in normal mode the
    filters are applied at once. -/
def canRxBufferInit (m : CANmodule) (index : Nat) (ident mask : UInt16) (rtr : Bool)
    (object : Nat) (callback : Option Nat) (setsockoptOk : Int → Bool) : CANmodule × ReturnError :=
  if index < m.rxArray.length then
    let buffer : CANrx :=
      { ident := identWithRtr ident rtr, mask := maskWithFlags mask, object, callback,
        canIfindex := 0, timestamp := Timespec.zero }
    let m := { m with
      rxArray := m.rxArray.set index buffer
      rxFilter := m.rxFilter.set index ⟨buffer.ident, buffer.mask⟩ }
    if m.canNormal then m.setRxFilters setsockoptOk else (m, .no)
  else (m, .illegalArgument)

/-- `CO_CANtxBufferInit`: configure TX buffer `index` and clear its pending flag; the
    returned pointer is the buffer's index, or `NULL` out of range. -/
def canTxBufferInit (m : CANmodule) (index : Nat) (ident : UInt16) (rtr : Bool)
    (noOfBytes : UInt8) (syncFlag : Bool) : CANmodule × Option Nat :=
  match m.txArray[index]? with
  | some buffer =>
    let buffer := { buffer with
      canIfindex := 0, ident := identWithRtr ident rtr, dlc := noOfBytes, bufferFull := false,
      syncFlag }
    ({ m with txArray := m.txArray.set index buffer }, some index)
  | none => (m, none)

/-! ## Interfaces and module lifetime -/

/-- The step of `CO_CANmodule_addInterface` at which a system call fails. -/
inductive AddInterfaceFault
  | ifIndexToName
  | socket
  | setsockoptOvfl
  | setsockoptTimestamping
  | bind
  | setsockoptErrFilter
  | epollCtl
  deriving DecidableEq, Repr

/-- What the system answers while an interface is added: the failing step if any, the
    descriptor `socket()` returns, and the bytes `realloc` leaves in the new slot. -/
structure AddInterfaceEnv where
  fault : Option AddInterfaceFault
  fd : Int
  stale : CANinterface
  setsockoptOk : Int → Bool

/-- `CO_CANmodule_addInterface`: append the interface, open and bind its socket, arm its
    error handler, and start with RX disabled. A failing step returns at once and leaves
    the slot, counted, with whatever it holds by then. -/
def canModuleAddInterface (m : CANmodule) (canIfindex : Int) (env : AddInterfaceEnv) :
    CANmodule × ReturnError :=
  if m.canNormal then (m, .invalidState) else
  let add (i : CANinterface) := { m with canInterfaces := m.canInterfaces ++ [i] }
  let slot := { env.stale with canIfindex }
  if env.fault = some .ifIndexToName then (add slot, .illegalArgument) else
  if env.fault = some .socket then (add { slot with fd := -1 }, .syscall) else
  let slot := { slot with fd := env.fd }
  if env.fault = some .setsockoptOvfl ∨ env.fault = some .setsockoptTimestamping ∨
      env.fault = some .bind then (add slot, .syscall) else
  let slot := { slot with errorhandler := CANinterfaceErrorhandler.canErrorInit env.fd }
  if env.fault = some .setsockoptErrFilter ∨ env.fault = some .epollCtl then
    (add slot, .syscall) else
  (add slot).disableRx env.setsockoptOk

/-- `CO_CANmodule_disable`: leave normal mode, close every interface and free the filter
    table. -/
def canModuleDisable (m : CANmodule) : CANmodule :=
  { m with canNormal := false, canInterfaces := [], rxFilter := [] }

/-- What `CO_CANmodule_addInterface` does to the descriptors, up to the step that fails: the
    descriptor `socket()` returns is open from then on, and joins the epoll set when every
    step has passed. Nothing is closed. -/
def addInterfaceEffects (m : CANmodule) (env : AddInterfaceEnv) : List FdEffect :=
  if m.canNormal then [] else
  if env.fault = some .ifIndexToName ∨ env.fault = some .socket then [] else
  .socket env.fd :: if env.fault = none then [.epollAdd env.fd] else []

/-- What `CO_CANmodule_disable` does to the descriptors: for each of the `CANinterfaceCount`
    interfaces, `epoll_ctl(EPOLL_CTL_DEL)` and `close()` on its `fd`. -/
def canModuleDisableEffects (m : CANmodule) : List FdEffect :=
  m.canInterfaces.flatMap fun i => [.epollDel i.fd, .close i.fd]

/-- `CO_CANmodule_init` in the single-interface build: reset the module over the given TX
    array, out of normal mode, fill `rxSize` fresh RX slots and zero filters, then add the one
    interface; on failure the module is disabled. `rxDropCount` is not written. -/
def canModuleInit (m : CANmodule) (rxSize : Nat) (txArray : List CANtx) (canIfindex : Int)
    (env : AddInterfaceEnv) : CANmodule × ReturnError :=
  let m := { m with
    canInterfaces := [], rxArray := List.replicate rxSize rxSlotInit,
    rxFilter := List.replicate rxSize ⟨0, 0⟩, txArray, canErrorStatus := 0, canNormal := false,
    canTxCount := 0 }
  let r := m.canModuleAddInterface canIfindex env
  if r.2 ≠ .no then (r.1.canModuleDisable, r.2) else r

/-! ## What each configuration call writes -/

variable (m : CANmodule) (setsockoptOk : Int → Bool)

/-- `setRxFilters` writes only the sockets' filters. -/
theorem setRxFilters_eq :
    ∃ ifs, (m.setRxFilters setsockoptOk).1 = { m with canInterfaces := ifs } := by
  unfold setRxFilters disableRx installFilters
  split <;> exact ⟨_, rfl⟩

/-- `CO_CANsetNormalMode` writes only the sockets' filters and `CANnormal`. -/
theorem canSetNormalMode_eq :
    ∃ ifs b, m.canSetNormalMode setsockoptOk = { m with canInterfaces := ifs, canNormal := b } := by
  obtain ⟨ifs, h⟩ := setRxFilters_eq { m with canNormal := false } setsockoptOk
  simp only [canSetNormalMode, h]
  split <;> exact ⟨ifs, _, rfl⟩

/-- `CO_CANmodule_addInterface` writes only the interface list. -/
theorem canModuleAddInterface_eq (canIfindex : Int) (env : AddInterfaceEnv) :
    ∃ ifs, (m.canModuleAddInterface canIfindex env).1 = { m with canInterfaces := ifs } := by
  unfold canModuleAddInterface
  by_cases hn : m.canNormal = true
  · rw [if_pos hn]
    exact ⟨m.canInterfaces, rfl⟩
  rw [if_neg hn]
  -- the failing step picks the branch; each returns the module with the slot appended
  rcases env with ⟨_ | ⟨_ | _ | _ | _ | _ | _ | _⟩, fd, stale, setsockoptOk⟩ <;> exact ⟨_, rfl⟩

/-- A successful `CO_CANmodule_init` leaves fresh RX slots, zero filters and a zero count
    over the given TX array. -/
theorem canModuleInit_eq (rxSize : Nat) (txArray : List CANtx) (canIfindex : Int)
    (env : AddInterfaceEnv) (h : (m.canModuleInit rxSize txArray canIfindex env).2 = .no) :
    ∃ ifs, (m.canModuleInit rxSize txArray canIfindex env).1 =
      { m with canInterfaces := ifs, rxArray := List.replicate rxSize rxSlotInit,
               rxFilter := List.replicate rxSize ⟨0, 0⟩, txArray, canErrorStatus := 0,
               canNormal := false, canTxCount := 0 } := by
  simp only [canModuleInit] at h ⊢
  obtain ⟨ifs, hifs⟩ := canModuleAddInterface_eq { m with
    canInterfaces := [], rxArray := List.replicate rxSize rxSlotInit,
    rxFilter := List.replicate rxSize ⟨0, 0⟩, txArray, canErrorStatus := 0, canNormal := false,
    canTxCount := 0 } canIfindex env
  split at h
  · exact absurd h ‹_›
  · rw [if_neg ‹_›, hifs]
    exact ⟨ifs, rfl⟩

/-- Whether or not its interface could be added, `CO_CANmodule_init` leaves fresh RX slots,
    the given TX array, a zero count and normal mode off. -/
theorem canModuleInit_shape (rxSize : Nat) (txArray : List CANtx) (canIfindex : Int)
    (env : AddInterfaceEnv) :
    ∃ ifs rxFilter, (m.canModuleInit rxSize txArray canIfindex env).1 =
      { m with canInterfaces := ifs, rxArray := List.replicate rxSize rxSlotInit, rxFilter,
               txArray, canErrorStatus := 0, canTxCount := 0, canNormal := false } := by
  simp only [canModuleInit]
  obtain ⟨ifs, hifs⟩ := canModuleAddInterface_eq { m with
    canInterfaces := [], rxArray := List.replicate rxSize rxSlotInit,
    rxFilter := List.replicate rxSize ⟨0, 0⟩, txArray, canErrorStatus := 0, canNormal := false,
    canTxCount := 0 } canIfindex env
  split <;> rw [hifs]
  · exact ⟨[], [], rfl⟩
  · exact ⟨ifs, _, rfl⟩

section canModuleInit

variable (rxSize : Nat) (txArray : List CANtx) (canIfindex : Int) (env : AddInterfaceEnv)

@[simp] theorem canModuleInit_rxArray :
    (m.canModuleInit rxSize txArray canIfindex env).1.rxArray = List.replicate rxSize rxSlotInit := by
  obtain ⟨_, _, h⟩ := canModuleInit_shape m rxSize txArray canIfindex env
  rw [h]

@[simp] theorem canModuleInit_txArray :
    (m.canModuleInit rxSize txArray canIfindex env).1.txArray = txArray := by
  obtain ⟨_, _, h⟩ := canModuleInit_shape m rxSize txArray canIfindex env
  rw [h]

@[simp] theorem canModuleInit_canTxCount :
    (m.canModuleInit rxSize txArray canIfindex env).1.canTxCount = 0 := by
  obtain ⟨_, _, h⟩ := canModuleInit_shape m rxSize txArray canIfindex env
  rw [h]

@[simp] theorem canModuleInit_canNormal :
    (m.canModuleInit rxSize txArray canIfindex env).1.canNormal = false := by
  obtain ⟨_, _, h⟩ := canModuleInit_shape m rxSize txArray canIfindex env
  rw [h]

end canModuleInit

/-- `CO_CANrxBufferInit` in range writes the slot, its filter entry and the sockets' filters. -/
theorem canRxBufferInit_eq {index : Nat} (ident mask : UInt16) (rtr : Bool) (object : Nat)
    (callback : Option Nat) (h : index < m.rxArray.length) :
    ∃ ifs, (m.canRxBufferInit index ident mask rtr object callback setsockoptOk).1 =
      { m with
        canInterfaces := ifs
        rxArray := m.rxArray.set index
          ⟨identWithRtr ident rtr, maskWithFlags mask, object, callback, 0, Timespec.zero⟩
        rxFilter := m.rxFilter.set index ⟨identWithRtr ident rtr, maskWithFlags mask⟩ } := by
  simp only [canRxBufferInit, h, ↓reduceIte]
  split
  · exact (setRxFilters_eq _ _).elim fun ifs hifs => ⟨ifs, hifs⟩
  · exact ⟨m.canInterfaces, rfl⟩

/-- `CO_CANrxBufferInit` out of range changes nothing. -/
theorem canRxBufferInit_of_le {index : Nat} (ident mask : UInt16) (rtr : Bool) (object : Nat)
    (callback : Option Nat) (h : m.rxArray.length ≤ index) :
    (m.canRxBufferInit index ident mask rtr object callback setsockoptOk).1 = m := by
  simp [canRxBufferInit, Nat.not_lt.mpr h]

end CANmodule

end CANopenLinux
