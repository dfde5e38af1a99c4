import Mathlib.Data.List.Basic

/-!
# The mainline's auto-save tick

`main` calls `CO_storageLinux_auto_process(&storage, false)` once every
`CO_STORAGE_AUTO_INTERVAL` microseconds. The emergency `CO_EM_NON_VOLATILE_AUTO_SAVE` is only
raised or cleared when the error mask differs from the previous one, `storageErrorPrev`. Both
`storageErrorPrev` and the interval timer are locals of `main`, so they outlive every
communication reset. A reset runs `CO_CANopenInit`, which initialises the emergency object
again and sets `nodeIdUnconfigured` from the pending node-id.

The mask is what `CO_storageLinux_auto_process` returned (`storageLinuxAutoProcess`), taken
here as an argument.
-/

namespace CANopenLinux

/-- `CO_STORAGE_AUTO_INTERVAL`, in microseconds. -/
def coStorageAutoInterval : UInt32 := 60000000

/-- What the mainline keeps about auto-save failures: the locals `storageErrorPrev` and
    `storageIntervalTimer`, `CO->nodeIdUnconfigured`, and whether the emergency condition
    `CO_EM_NON_VOLATILE_AUTO_SAVE` is active. -/
structure Mainline where
  storageErrorPrev : UInt32
  storageIntervalTimer : UInt32
  nodeIdUnconfigured : Bool
  autoSaveError : Bool
  deriving DecidableEq, Repr

/-- `main` before the first communication reset. -/
def mainlineStart : Mainline := ⟨0, 0, true, false⟩

/-- The storage block of one pass of the mainline loop. Below the interval the timer
    advances by `timeDifference_us`. Otherwise `mask` is the auto-save's result: a change of
    mask on a configured node raises the emergency (`CO_errorReport`, modelled from the
    spec) or clears it (`CO_errorReset`, modelled from the spec). Either way the mask becomes
    `storageErrorPrev`. -/
def storagePass (s : Mainline) (timeDifferenceUs mask : UInt32) : Mainline :=
  if s.storageIntervalTimer < coStorageAutoInterval then
    { s with storageIntervalTimer := s.storageIntervalTimer + timeDifferenceUs }
  else
    { s with
      autoSaveError := if mask ≠ s.storageErrorPrev ∧ s.nodeIdUnconfigured = false then mask ≠ 0
        else s.autoSaveError
      storageErrorPrev := mask
      storageIntervalTimer := 0 }

/-- A communication reset: `CO_CANopenInit` initialises the emergency object again, which
    clears every condition (modelled from the spec), and sets `nodeIdUnconfigured`. -/
def commReset (s : Mainline) (nodeIdUnconfigured : Bool) : Mainline :=
  { s with nodeIdUnconfigured := nodeIdUnconfigured, autoSaveError := false }

/-- What the mainline does next: one pass of the loop, or a communication reset. -/
inductive MainlineEvent
  | pass (timeDifferenceUs mask : UInt32)
  | reset (nodeIdUnconfigured : Bool)

/-- One event. -/
def MainlineEvent.apply (s : Mainline) : MainlineEvent → Mainline
  | .pass dt mask => storagePass s dt mask
  | .reset u => commReset s u

/-- A run of `main`, from before the first communication reset. -/
def runMainline (evs : List MainlineEvent) : Mainline := evs.foldl MainlineEvent.apply mainlineStart

end CANopenLinux
