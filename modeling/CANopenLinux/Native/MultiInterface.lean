import CANopenLinux.Native.DriverIo

/-!
# Multi-interface builds: the identifier lookup tables

With `CO_DRIVER_MULTI_INTERFACE > 0`, `CO_CANmodule_t` holds two tables of
`CO_CAN_MSG_SFF_MAX_COB_ID` entries, `rxIdentToIndex` and `txIdentToIndex`, from a standard
identifier to the index of the buffer that carries it. `CO_CANrxBufferInit` and
`CO_CANtxBufferInit` keep them with `CO_CANsetIdentToIndex`, and
`CO_CANrxBuffer_getInterface` and `CO_CANtxBuffer_setInterface` look identifiers up with
`CO_CANgetIndexFromIdent`.

A table is a list of exactly `CO_CAN_MSG_SFF_MAX_COB_ID` entries (`IdentTable`). An access
outside a table or an array is undefined behaviour in C; the functions here return `none`
for it.
-/

namespace CANopenLinux

/-- `CO_INVALID_COB_ID`: the table entry of an identifier no buffer carries. -/
def coInvalidCobId : UInt32 := 0xFFFFFFFF

/-- A lookup table `uint32_t [CO_CAN_MSG_SFF_MAX_COB_ID]`. -/
structure IdentTable where
  entries : List UInt32
  length_eq : entries.length = canMsgSffMaxCobId

namespace IdentTable

/-- `lookup[i] = v`, or `none` outside the table. -/
def write (t : IdentTable) (i : Nat) (v : UInt32) : Option IdentTable :=
  if i < canMsgSffMaxCobId then some ⟨t.entries.set i v, by rw [List.length_set, t.length_eq]⟩
  else none

/-- `lookup[i]`, or `none` outside the table. -/
def read (t : IdentTable) (i : Nat) : Option UInt32 := t.entries.get? i

/-- The table `CO_CANmodule_init` leaves: every entry `CO_INVALID_COB_ID`. -/
def invalid : IdentTable :=
  ⟨List.replicate canMsgSffMaxCobId coInvalidCobId, List.length_replicate _ _⟩

end IdentTable

/-- `CO_CANsetIdentToIndex`: forget the buffer's old identifier if it changes, then enter the
    new one, unless it is past the table. Identifier 0 is entered only for index 0 (NMT). -/
def canSetIdentToIndex (lookup : IdentTable) (index identNew identCurrent : UInt32) :
    Option IdentTable :=
  (if identCurrent.toNat < canMsgSffMaxCobId ∧ identNew ≠ identCurrent then
      lookup.write identCurrent.toNat coInvalidCobId
    else some lookup).bind fun lookup =>
  if identNew.toNat > canMsgSffMaxCobId then some lookup
  else if identNew = 0 then (if index = 0 then lookup.write 0 0 else some lookup)
  else lookup.write identNew.toNat index

/-- `CO_CANgetIndexFromIdent`: the entry of `ident`, `CO_INVALID_COB_ID` past the table. -/
def canGetIndexFromIdent (lookup : IdentTable) (ident : UInt32) : Option UInt32 :=
  if ident.toNat > canMsgSffMaxCobId then some coInvalidCobId else lookup.read ident.toNat

/-- `CO_CANmodule_t` in multi-interface builds. -/
structure CANmoduleMulti where
  toCANmodule : CANmodule
  rxIdentToIndex : IdentTable
  txIdentToIndex : IdentTable

namespace CANmoduleMulti

/-- `CO_CANmodule_init` in multi-interface builds: the module reset as in the single-interface
    build, with no interface yet, and both tables invalid. -/
def canModuleInit (m : CANmodule) (rxSize : Nat) (txArray : List CANtx) : CANmoduleMulti :=
  ⟨{ m with
      canInterfaces := [], rxArray := List.replicate rxSize CANmodule.rxSlotInit,
      rxFilter := List.replicate rxSize ⟨0, 0⟩, txArray, canErrorStatus := 0, canNormal := false,
      canTxCount := 0 },
    IdentTable.invalid, IdentTable.invalid⟩

/-- `CO_CANrxBufferInit`: the table is updated with the slot's stored identifier as the
    current one, then the slot is configured as in the single-interface build. -/
def canRxBufferInit (mm : CANmoduleMulti) (index : Nat) (ident mask : UInt16) (rtr : Bool)
    (object : Nat) (callback : Option Nat) (setsockoptOk : Int → Bool) :
    Option (CANmoduleMulti × ReturnError) :=
  match mm.toCANmodule.rxArray[index]? with
  | some buffer => do
    let rx ← canSetIdentToIndex mm.rxIdentToIndex index.toUInt32 ident.toUInt32 buffer.ident
    let r := mm.toCANmodule.canRxBufferInit index ident mask rtr object callback setsockoptOk
    pure (⟨r.1, rx, mm.txIdentToIndex⟩, r.2)
  | none => pure (mm, .illegalArgument)

/-- `CO_CANtxBufferInit`: the table is updated with the buffer's stored identifier as the
    current one, then the buffer is configured as in the single-interface build. -/
def canTxBufferInit (mm : CANmoduleMulti) (index : Nat) (ident : UInt16) (rtr : Bool)
    (noOfBytes : UInt8) (syncFlag : Bool) : Option (CANmoduleMulti × Option Nat) :=
  match mm.toCANmodule.txArray[index]? with
  | some buffer => do
    let tx ← canSetIdentToIndex mm.txIdentToIndex index.toUInt32 ident.toUInt32 buffer.ident
    let r := mm.toCANmodule.canTxBufferInit index ident rtr noOfBytes syncFlag
    pure (⟨r.1, mm.rxIdentToIndex, tx⟩, r.2)
  | none => pure (mm, none)

/-- `CO_CANrxBuffer_getInterface`: the interface and timestamp of the slot the table names
    for `ident`, returned through the two pointers, and whether the interface is known. The
    index is checked with `>` against `rxSize`. -/
def canRxBufferGetInterface (mm : CANmoduleMulti) (ident : UInt16) :
    Option (Bool × Option (Int × Timespec)) := do
  let index ← canGetIndexFromIdent mm.rxIdentToIndex ident.toUInt32
  if index = coInvalidCobId ∨ index.toNat > mm.toCANmodule.rxArray.length then
    pure (false, none)
  else
    let buffer ← mm.toCANmodule.rxArray[index.toNat]?
    pure (buffer.canIfindex ≠ 0, some (buffer.canIfindex, buffer.timestamp))

/-- `CO_CANtxBuffer_setInterface`: send the buffer the table names for `ident` on interface
    `canIfindexTx`. The index is checked with `>` against `txSize`. -/
def canTxBufferSetInterface (mm : CANmoduleMulti) (ident : UInt16) (canIfindexTx : Int) :
    Option (CANmoduleMulti × ReturnError) := do
  let index ← canGetIndexFromIdent mm.txIdentToIndex ident.toUInt32
  if index = coInvalidCobId ∨ index.toNat > mm.toCANmodule.txArray.length then
    pure (mm, .illegalArgument)
  else
    let _ ← mm.toCANmodule.txArray[index.toNat]?
    let txArray := mm.toCANmodule.txArray.modify (fun b => { b with canIfindex := canIfindexTx })
      index.toNat
    pure (⟨{ mm.toCANmodule with txArray }, mm.rxIdentToIndex, mm.txIdentToIndex⟩, .no)

end CANmoduleMulti

end CANopenLinux
