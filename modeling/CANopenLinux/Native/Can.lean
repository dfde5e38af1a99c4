import CANopenLinux.ForStd.UInt

/-!
# SocketCAN and CANopenNode vocabulary

The constants, frame layout and result codes that the driver, the error handler and the
storage engine share. The `CAN_*` values are the Linux ABI of `linux/can.h` and
`linux/can/error.h`; the `CO_*` values are those of CANopenNode's `301/CO_driver.h`, which
`CO_driver_target.h` includes. Identifiers keep the C words in lower camel case
(`CAN_EFF_FLAG` is `canEffFlag`).
-/

namespace CANopenLinux

/-! ## Identifier flags and masks (`linux/can.h`) -/

/-- `CAN_EFF_FLAG`: extended frame format. -/
def canEffFlag : UInt32 := 0x80000000
/-- `CAN_RTR_FLAG`: remote transmission request. -/
def canRtrFlag : UInt32 := 0x40000000
/-- `CAN_ERR_FLAG`: error message frame. -/
def canErrFlag : UInt32 := 0x20000000
/-- `CAN_SFF_MASK`: the eleven identifier bits of a standard frame. -/
def canSffMask : UInt32 := 0x000007FF
/-- `CO_CAN_MSG_SFF_MAX_COB_ID = 1 << CAN_SFF_ID_BITS`. -/
def canMsgSffMaxCobId : Nat := 2048

/-! ## Error frame classes (`linux/can/error.h`) -/

/-- `CAN_ERR_CRTL`: controller problems, details in `data[1]`. -/
def canErrCrtl : UInt32 := 0x00000004
/-- `CAN_ERR_ACK`: received no ACK on transmission. -/
def canErrAck : UInt32 := 0x00000020
/-- `CAN_ERR_BUSOFF`: bus off. -/
def canErrBusoff : UInt32 := 0x00000040

/-- `CAN_ERR_CRTL_RX_OVERFLOW`. -/
def canErrCrtlRxOverflow : UInt8 := 0x01
/-- `CAN_ERR_CRTL_TX_OVERFLOW`. -/
def canErrCrtlTxOverflow : UInt8 := 0x02
/-- `CAN_ERR_CRTL_RX_WARNING`. -/
def canErrCrtlRxWarning : UInt8 := 0x04
/-- `CAN_ERR_CRTL_TX_WARNING`. -/
def canErrCrtlTxWarning : UInt8 := 0x08
/-- `CAN_ERR_CRTL_RX_PASSIVE`. -/
def canErrCrtlRxPassive : UInt8 := 0x10
/-- `CAN_ERR_CRTL_TX_PASSIVE`. -/
def canErrCrtlTxPassive : UInt8 := 0x20

/-! ## CANopen error status bits (`CO_CAN_ERR_status_t`) -/

/-- `CO_CAN_ERRTX_PASSIVE`. -/
def canErrtxPassive : UInt16 := 0x0002
/-- `CO_CAN_ERRTX_BUS_OFF`. -/
def canErrtxBusOff : UInt16 := 0x0004
/-- `CO_CAN_ERRTX_OVERFLOW`. -/
def canErrtxOverflow : UInt16 := 0x0008
/-- `CO_CAN_ERRRX_PASSIVE`. -/
def canErrrxPassive : UInt16 := 0x0200
/-- `CO_CAN_ERRRX_OVERFLOW`. -/
def canErrrxOverflow : UInt16 := 0x0800

/-- `CO_ReturnError_t`, the values this layer returns. -/
inductive ReturnError
  | no
  | illegalArgument
  | outOfMemory
  | txOverflow
  | dataCorrupt
  | txBusy
  | syscall
  | invalidState
  deriving DecidableEq, Repr

/-! ## Time and frames -/

/-- `struct timespec` as `clock_gettime` fills it: the nanoseconds are below one second. -/
structure Timespec where
  tvSec : Int
  tvNsec : Nat
  tvNsec_lt : tvNsec < 1000000000
  deriving DecidableEq, Repr

namespace Timespec

/-- The zeroed `timespec` that `CO_CANerror_init` and `CO_CANerrorClearListenOnly` store. -/
def zero : Timespec := ⟨0, 0, by decide⟩

/-- The instant in nanoseconds. -/
def toNs (t : Timespec) : Int := t.tvSec * 1000000000 + t.tvNsec

/-- A later whole second, compared as the code compares `tv_sec` fields, is a later instant:
    `a.tvSec + s < b.tvSec` puts more than `s` full seconds between them. -/
theorem lt_toNs_sub_of_tvSec_lt {a b : Timespec} {s : Int} (h : a.tvSec + s < b.tvSec) :
    s * 1000000000 < b.toNs - a.toNs := by
  have := a.tvNsec_lt
  simp only [toNs]
  omega

end Timespec

/-- `struct can_frame`: identifier with its flag bits, and the eight data bytes. -/
structure CanFrame where
  canId : UInt32
  data : List UInt8
  data_length : data.length = 8
  deriving DecidableEq

/-- A data byte of a frame; `i < 8` is the C array bound. -/
def CanFrame.byte (f : CanFrame) (i : Fin 8) : UInt8 :=
  f.data.get ⟨i, by rw [f.data_length]; exact i.isLt⟩

end CANopenLinux
