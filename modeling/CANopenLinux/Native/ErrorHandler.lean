import CANopenLinux.Native.Can

/-!
# The CAN error handler

`CO_error.c`: one bus-state machine per interface, fed with the SocketCAN error frames, with
the data frames the driver receives, and asked before each transmission. Bus-off, or more
than `CO_CANerror_NOACK_MAX` missing acknowledgements, put the interface in listen-only
mode; a data frame, or a transmission attempt more than `CO_CANerror_LISTEN_ONLY` seconds
after the mode was entered, leaves it.

Calls to `clock_gettime(CLOCK_MONOTONIC, …)` are the argument `now`. The interface name and
the `ip link` command that bus-off and no-ACK issue through `system()` only reach the log
and the shell, so they are not modelled.
-/

namespace CANopenLinux

/-- `CO_CANinterfaceState_t`. -/
inductive CANinterfaceState
  | active
  | listenOnly
  | busOff
  deriving DecidableEq, Repr

/-- `CO_CANerror_NOACK_MAX`: no-ACK error frames in a row before listen-only. -/
def canErrorNoackMax : UInt32 := 16

/-- `CO_CANerror_LISTEN_ONLY`: seconds for which listen-only blocks transmission. -/
def canErrorListenOnly : Int := 10

/-- `CO_CANinterfaceErrorhandler_t`, without the interface name. -/
structure CANinterfaceErrorhandler where
  fd : Int
  noackCounter : UInt32
  listenOnly : Bool
  timestamp : Timespec
  canErrorStatus : UInt16
  deriving DecidableEq

namespace CANinterfaceErrorhandler

/-- `CO_CANerrorSetListenOnly`: stamp the entry time and mark listen-only. -/
def canErrorSetListenOnly (h : CANinterfaceErrorhandler) (now : Timespec) :
    CANinterfaceErrorhandler × CANinterfaceState :=
  ({ h with timestamp := now, listenOnly := true }, .listenOnly)

/-- `CO_CANerrorClearListenOnly`. -/
def canErrorClearListenOnly (h : CANinterfaceErrorhandler) : CANinterfaceErrorhandler :=
  { h with listenOnly := false, timestamp := Timespec.zero }

/-- `CO_CANerrorBusoff`: a bus-off frame restarts the interface in listen-only mode. -/
def canErrorBusoff (h : CANinterfaceErrorhandler) (msg : CanFrame) (now : Timespec) :
    CANinterfaceErrorhandler × CANinterfaceState :=
  if msg.canId &&& canErrBusoff ≠ 0 then
    let (h, result) := h.canErrorSetListenOnly now
    ({ h with canErrorStatus := h.canErrorStatus ||| canErrtxBusOff }, result)
  else (h, .active)

/-- The `data[1]` chain of `CO_CANerrorCrtl`: the first controller bit present decides. -/
def crtlStatus (status : UInt16) (d : UInt8) : UInt16 :=
  if d &&& canErrCrtlRxPassive ≠ 0 then status ||| canErrrxPassive
  else if d &&& canErrCrtlTxPassive ≠ 0 then status ||| canErrtxPassive
  else if d &&& canErrCrtlRxOverflow ≠ 0 then status ||| canErrrxOverflow
  else if d &&& canErrCrtlTxOverflow ≠ 0 then status ||| canErrtxOverflow
  else if d &&& canErrCrtlRxWarning ≠ 0 then status &&& (0x7FFF ^^^ canErrrxPassive)
  else if d &&& canErrCrtlTxWarning ≠ 0 then status &&& (0x7FFF ^^^ canErrtxPassive)
  else status

/-- `CO_CANerrorCrtl`: controller problems clear bus-off and update the passive, overflow
    and warning bits; the interface stays active. -/
def canErrorCrtl (h : CANinterfaceErrorhandler) (msg : CanFrame) :
    CANinterfaceErrorhandler × CANinterfaceState :=
  if msg.canId &&& canErrCrtl ≠ 0 then
    ({ h with canErrorStatus :=
        crtlStatus (h.canErrorStatus &&& (0xFFFF ^^^ canErrtxBusOff)) (msg.byte 1) }, .active)
  else (h, .active)

/-- `CO_CANerrorNoack`: count acknowledgement errors; past the limit, listen-only. -/
def canErrorNoack (h : CANinterfaceErrorhandler) (msg : CanFrame) (now : Timespec) :
    CANinterfaceErrorhandler × CANinterfaceState :=
  if h.listenOnly then (h, .listenOnly)
  else if msg.canId &&& canErrAck ≠ 0 then
    let h := { h with noackCounter := h.noackCounter + 1 }
    if h.noackCounter > canErrorNoackMax then h.canErrorSetListenOnly now else (h, .active)
  else ({ h with noackCounter := 0 }, .active)

/-- `CO_CANerror_init`. -/
def canErrorInit (fd : Int) : CANinterfaceErrorhandler :=
  { fd, noackCounter := 0, listenOnly := false, timestamp := Timespec.zero, canErrorStatus := 0 }

/-- `CO_CANerror_disable`: zero the object, then mark the descriptor invalid. -/
def canErrorDisable : CANinterfaceErrorhandler :=
  { fd := -1, noackCounter := 0, listenOnly := false, timestamp := Timespec.zero,
    canErrorStatus := 0 }

/-- `CO_CANerror_rxMsg`: a data frame proves a partner on the bus. -/
def canErrorRxMsg (h : CANinterfaceErrorhandler) : CANinterfaceErrorhandler :=
  let h := if h.listenOnly then h.canErrorClearListenOnly else h
  { h with noackCounter := 0 }

/-- `CO_CANerror_txMsg`: may a frame be sent now? In listen-only mode only once
    `CO_CANerror_LISTEN_ONLY` whole seconds have passed, and then the mode is left. -/
def canErrorTxMsg (h : CANinterfaceErrorhandler) (now : Timespec) :
    CANinterfaceErrorhandler × CANinterfaceState :=
  if h.listenOnly then
    if h.timestamp.tvSec + canErrorListenOnly < now.tvSec then
      (h.canErrorClearListenOnly, .active)
    else (h, .listenOnly)
  else (h, .active)

/-- `CO_CANerror_rxMsgError`: bus-off, then controller, then no-ACK handling; the first that
    does not report an active interface ends the call. -/
def canErrorRxMsgError (h : CANinterfaceErrorhandler) (msg : CanFrame) (now : Timespec) :
    CANinterfaceErrorhandler × CANinterfaceState :=
  let (h, result) := h.canErrorBusoff msg now
  if result ≠ .active then (h, result) else
  let (h, result) := h.canErrorCrtl msg
  if result ≠ .active then (h, result) else
  let (h, result) := h.canErrorNoack msg now
  if result ≠ .active then (h, result) else (h, .active)

end CANinterfaceErrorhandler

end CANopenLinux

namespace CANopenLinux.CANinterfaceErrorhandler

/-! ## What each call does to the listen-only state -/

variable (h : CANinterfaceErrorhandler) (msg : CanFrame) (now : Timespec)

/-- Does a received error frame reach `CO_CANerrorSetListenOnly`? Through the bus-off bit,
    or through the no-ACK counter passing its limit while the interface is active. -/
def entersListenOnly : Bool :=
  msg.canId &&& canErrBusoff ≠ 0 ||
    (!h.listenOnly && msg.canId &&& canErrAck ≠ 0 && canErrorNoackMax < h.noackCounter + 1)

/-- `CO_CANerrorCrtl` only rewrites the status bits. -/
theorem canErrorCrtl_eq : ∃ st, h.canErrorCrtl msg = ({ h with canErrorStatus := st }, .active) := by
  unfold canErrorCrtl
  split
  · exact ⟨_, rfl⟩
  · exact ⟨h.canErrorStatus, rfl⟩

/-- Without the bus-off bit, an error frame is the no-ACK check on the handler that
    `CO_CANerrorCrtl` left. -/
theorem canErrorRxMsgError_of_not_busoff (hb : msg.canId &&& canErrBusoff = 0) :
    h.canErrorRxMsgError msg now = (h.canErrorCrtl msg).1.canErrorNoack msg now := by
  obtain ⟨st, hc⟩ := canErrorCrtl_eq h msg
  simp only [canErrorRxMsgError, canErrorBusoff, hb, ne_eq, not_true_eq_false, ↓reduceIte, hc]
  split
  · rfl
  · exact Prod.ext rfl (by simp_all)

/-- An error frame that enters listen-only stamps `now`. -/
theorem canErrorRxMsgError_of_enters (he : h.entersListenOnly msg = true) :
    (h.canErrorRxMsgError msg now).1.listenOnly = true ∧
      (h.canErrorRxMsgError msg now).1.timestamp = now := by
  by_cases hb : msg.canId &&& canErrBusoff = 0
  · obtain ⟨st, hc⟩ := canErrorCrtl_eq h msg
    simp only [entersListenOnly, hb, ne_eq, not_true_eq_false, decide_False, Bool.false_or,
      Bool.and_eq_true, Bool.not_eq_true', decide_eq_true_eq] at he
    rw [canErrorRxMsgError_of_not_busoff h msg now hb, hc]
    simp [canErrorNoack, he.1.1, he.1.2, he.2, canErrorSetListenOnly]
  · simp [canErrorRxMsgError, canErrorBusoff, hb, canErrorSetListenOnly]

/-- An error frame that does not enter listen-only keeps the mode and its entry time. -/
theorem canErrorRxMsgError_of_not_enters (he : h.entersListenOnly msg = false) :
    (h.canErrorRxMsgError msg now).1.listenOnly = h.listenOnly ∧
      (h.canErrorRxMsgError msg now).1.timestamp = h.timestamp := by
  have hb : msg.canId &&& canErrBusoff = 0 := by
    by_contra hb; simp [entersListenOnly, hb] at he
  obtain ⟨st, hc⟩ := canErrorCrtl_eq h msg
  rw [canErrorRxMsgError_of_not_busoff h msg now hb, hc]
  simp only [entersListenOnly, hb, ne_eq, not_true_eq_false, decide_False, Bool.false_or] at he
  unfold canErrorNoack
  by_cases hl : h.listenOnly
  · simp [hl]
  by_cases ha : msg.canId &&& canErrAck = 0
  · simp [hl, ha]
  have hlt : ¬canErrorNoackMax < h.noackCounter + 1 := by simpa [hl, ha] using he
  simp [hl, ha, hlt]

/-- `CO_CANerror_rxMsg` always leaves the interface active with a cleared counter. -/
@[simp] theorem canErrorRxMsg_listenOnly : h.canErrorRxMsg.listenOnly = false := by
  unfold canErrorRxMsg; split <;> simp_all [canErrorClearListenOnly]

@[simp] theorem canErrorRxMsg_noackCounter : h.canErrorRxMsg.noackCounter = 0 := rfl

/-- `CO_CANerror_txMsg` leaves listen-only only after the timeout. -/
theorem canErrorTxMsg_leaves (hl : h.listenOnly = true)
    (hl' : (h.canErrorTxMsg now).1.listenOnly = false) :
    h.timestamp.tvSec + canErrorListenOnly < now.tvSec := by
  unfold canErrorTxMsg at hl'
  by_contra hlt
  simp [hl, hlt] at hl'

/-- `CO_CANerror_txMsg` never enters listen-only and keeps its entry time while in it. -/
theorem canErrorTxMsg_of_listenOnly (hl' : (h.canErrorTxMsg now).1.listenOnly = true) :
    h.listenOnly = true ∧ (h.canErrorTxMsg now).1.timestamp = h.timestamp := by
  unfold canErrorTxMsg at hl' ⊢
  by_cases hl : h.listenOnly
  · by_cases ht : h.timestamp.tvSec + canErrorListenOnly < now.tvSec
    · simp [hl, ht, canErrorClearListenOnly] at hl'
    · simp [hl, ht]
  · simp [hl] at hl'

end CANopenLinux.CANinterfaceErrorhandler
