import Mathlib.Data.String.Basic
import CANopenLinux.ForStd.UInt
import CANopenLinux.Native.Gateway
import CANopenLinux.Native.Storage

/-!
# `main`'s command line

Before it creates any CANopen object, `main` reads its options with
`getopt(argc, argv, "i:p:rc:T:s:")` into locals: the node-id (`-i`), the priority of
`rt_thread` (`-p`, only in the build without `CO_SINGLE_THREAD`), the reboot flag (`-r`), the
gateway's command interface (`-c`), its socket timeout (`-T`), and a prefix for the file name of
every storage entry (`-s`). It then checks the node-id, the priority, and that the CAN device
named after the options exists, and exits on the first that fails. It then exits if
`CO_storageLinux_init` fails with anything but `CO_ERROR_DATA_CORRUPT`, naming the file of the
entry `storageInitError` points to. Once the storage is loaded, a node-id from the arguments
overwrites the stored one, and a node-id outside 1..127 becomes `CO_LSS_NODE_ID_ASSIGNMENT`.

What `getopt` answers is the list of options it returns, with their arguments. What the C
library answers is an argument (`StartEnv`): the numbers `strtol`, `strtoul` and `sscanf` read,
the interface index of `if_nametoindex`, and the range of `SCHED_FIFO` priorities. Each
`filename` of a storage entry is a `char` array of `CO_STORAGE_PATH_MAX` bytes; `FileNameBuf`
carries the bound that keeps its terminating NUL inside the array.
-/

namespace String

theorem utf8ByteSize_append (a b : String) :
    (a ++ b).utf8ByteSize = a.utf8ByteSize + b.utf8ByteSize :=
  utf8Len_append a.data b.data

end String

namespace CANopenLinux

/-- `CO_STORAGE_PATH_MAX`, the size of the `filename` array of a storage entry. -/
def coStoragePathMax : Nat := 255

/-- `CO_LSS_NODE_ID_ASSIGNMENT`, the node-id of an unconfigured node. -/
def coLssNodeIdAssignment : Nat := 0xFF

/-- The `filename` array of a storage entry: a C string whose `strlen` is below
    `CO_STORAGE_PATH_MAX`, so that its NUL is inside the array. -/
structure FileNameBuf where
  name : String
  fits : name.utf8ByteSize < coStoragePathMax
  deriving DecidableEq

/-- The body of the `-s` loop for one entry: when the name and the prefix fit together,
    `memmove` shifts the name and its NUL up by the prefix's length, and `memcpy` writes the
    prefix in front; otherwise the entry keeps its name. -/
def FileNameBuf.addPrefix (filePrefix : String) (file : FileNameBuf) : FileNameBuf :=
  if h : file.name.utf8ByteSize + filePrefix.utf8ByteSize < coStoragePathMax then
    ⟨filePrefix ++ file.name, by rw [String.utf8ByteSize_append]; omega⟩
  else file

/-- The file names of `storageEntries` as `main` declares them: `od_comm.persist`, then
    `mainline.persist` (`CO_STORAGE_APPLICATION` adds none). -/
def storageFilenames : List FileNameBuf :=
  [⟨"od_comm.persist", by decide⟩, ⟨"mainline.persist", by decide⟩]

/-- What `getopt` returns, with `optarg`. -/
inductive Opt
  | i (optarg : String)
  | p (optarg : String)
  | r
  | c (optarg : String)
  | T (optarg : String)
  | s (optarg : String)
  /-- `'?'`: an option not in `"i:p:rc:T:s:"`, or one without its argument. -/
  | unknown
  deriving DecidableEq, Repr

/-- What the C library answers during start-up. -/
structure StartEnv where
  /-- `strtol(s, NULL, 0)`. -/
  strtol : String → Int
  /-- `strtoul(s, NULL, 0)`. -/
  strtoul : String → Nat
  /-- The port that `sscanf(s, "%hu", &port)` reads, when it returns 1. -/
  sscanfPort : String → Option UInt16
  /-- `if_nametoindex`. -/
  ifNametoindex : String → UInt32
  /-- `sched_get_priority_min(SCHED_FIFO)` and `sched_get_priority_max(SCHED_FIFO)`. -/
  priorityMin : Int
  priorityMax : Int

/-- Why `main` exits during start-up: what it logs, with the value it prints. -/
inductive StartExit
  /-- `printUsage` and `EXIT_SUCCESS`: no argument, or `--help`. -/
  | help
  /-- `printUsage` and `EXIT_FAILURE`: the `default` of the switch. -/
  | usage
  /-- `DBG_NOT_TCP_PORT`, with the text after `tcp-`. -/
  | notTcpPort (portStr : String)
  /-- `DBG_ARGUMENT_UNKNOWN`, with the option and its argument. -/
  | argumentUnknown (option optarg : String)
  /-- `DBG_WRONG_NODE_ID` with `nodeIdFromArgs`, then `printUsage`. -/
  | wrongNodeId (nodeIdFromArgs : Int)
  /-- `DBG_WRONG_PRIORITY` with `rtPriority`, then `printUsage`. -/
  | wrongPriority (rtPriority : Int)
  /-- `DBG_NO_CAN_DEVICE` with `CANdevice`, `NULL` when no argument follows the options. -/
  | noCanDevice (canDevice : Option String)
  deriving DecidableEq, Repr

/-- The status `main` exits with. -/
def StartExit.exitStatus : StartExit → Int
  | .help => 0
  | _ => 1

/-- The locals the options set: `nodeIdFromArgs` (`int16_t`), `rtPriority` (`int`),
    `rebootEnable`, `commandInterface` (`int32_t`), `localSocketPath` (`NULL` is `none`),
    `socketTimeout_ms`, and the `filename` of each storage entry. -/
structure Args where
  nodeIdFromArgs : Int
  rtPriority : Int
  rebootEnable : Bool
  commandInterface : Int
  localSocketPath : Option String
  socketTimeoutMs : UInt32
  filenames : List FileNameBuf
  deriving DecidableEq

/-- The locals as `main` declares them. -/
def argsDefault : Args :=
  ⟨-1, -1, false, coCommandIfDisabled, none, 0, storageFilenames⟩

/-- `strncmp(s, pre, strlen(pre)) == 0`, for an ASCII `pre`. -/
def hasPrefix (s pre : String) : Bool := pre.data.isPrefixOf s.data

/-- `&s[n]`, past `n` ASCII characters. -/
def dropChars (s : String) (n : Nat) : String := ⟨s.data.drop n⟩

/-- What `case 'i'` assigns to `nodeIdFromArgs`: a number outside 0..0xFF becomes 0. -/
def nodeIdArg (env : StartEnv) (optarg : String) : Int :=
  let nodeIdLong := env.strtol optarg
  if nodeIdLong < 0 ∨ nodeIdLong > 0xFF then 0 else env.strtol optarg % 256

/-- One case of the `switch` on what `getopt` returned; `singleThread` is whether
    `CO_SINGLE_THREAD` is defined, which leaves out `case 'p'`. -/
def argOption (singleThread : Bool) (env : StartEnv) (a : Args) : Opt → Except StartExit Args
  | .i optarg => .ok { a with nodeIdFromArgs := nodeIdArg env optarg }
  | .p optarg =>
    if singleThread then .error .usage else .ok { a with rtPriority := (env.strtol optarg).toInt32Wrap }
  | .r => .ok { a with rebootEnable := true }
  | .c optarg =>
    if optarg = "stdio" then .ok { a with commandInterface := coCommandIfStdio }
    else if hasPrefix optarg "local-" then
      .ok { a with commandInterface := coCommandIfLocalSocket, localSocketPath := some (dropChars optarg 6) }
    else if hasPrefix optarg "tcp-" then
      match env.sscanfPort (dropChars optarg 4) with
      | none => .error (.notTcpPort (dropChars optarg 4))
      | some port => .ok { a with commandInterface := port.toNat }
    else .error (.argumentUnknown "-c" optarg)
  | .T optarg => .ok { a with socketTimeoutMs := (env.strtoul optarg).toUInt32 }
  | .s optarg => .ok { a with filenames := a.filenames.map (FileNameBuf.addPrefix optarg) }
  | .unknown => .error .usage

/-- Steps 3 to 6 of `main`: the interface of the CAN device, if one follows the options, then
    the node-id, the priority (without `CO_SINGLE_THREAD`) and the device are checked, in this
    order. `lssSlaveEnabled` is what `CO_isLSSslaveEnabled(CO)` returns. -/
def checkArgs (singleThread : Bool) (env : StartEnv) (lssSlaveEnabled : Bool) (a : Args)
    (canDevice : Option String) : Except StartExit UInt32 :=
  let canIfindex := match canDevice with
    | some d => env.ifNametoindex d
    | none => 0
  if (a.nodeIdFromArgs = 0 ∨ a.nodeIdFromArgs > 127) ∧
      (lssSlaveEnabled = false ∨ a.nodeIdFromArgs ≠ coLssNodeIdAssignment) then
    .error (.wrongNodeId a.nodeIdFromArgs)
  else if singleThread = false ∧ a.rtPriority ≠ -1 ∧
      (a.rtPriority < env.priorityMin ∨ a.rtPriority > env.priorityMax) then
    .error (.wrongPriority a.rtPriority)
  else if canIfindex = 0 then .error (.noCanDevice canDevice)
  else .ok canIfindex

/-- `main` up to its start-up log line: `argv1` is `argv[1]` (none when `argc < 2`), `opts`
    what `getopt` returns, and `canDevice` the argument after the options. The result is the
    locals and `CANptr.can_ifindex`. -/
def startArgs (singleThread : Bool) (env : StartEnv) (lssSlaveEnabled : Bool)
    (argv1 : Option String) (opts : List Opt) (canDevice : Option String) :
    Except StartExit (Args × UInt32) :=
  if argv1 = none ∨ argv1 = some "--help" then .error .help else do
  let a ← opts.foldlM (argOption singleThread env) argsDefault
  let canIfindex ← checkArgs singleThread env lssSlaveEnabled a canDevice
  pure (a, canIfindex)

/-- Step 9 of `main`, once `CO_storageLinux_init` has returned `r` for the `storageEntriesCount`
    entries of `storageEntries`: an error other than `CO_ERROR_DATA_CORRUPT` exits with
    `DBG_STORAGE` and the file name of the entry at index `storageInitError` (the array holds
    `storageEntriesCount` entries), or `"???"` when that is no index of the array. -/
def storageInitExit (storageEntriesCount : Nat) (r : InitResult) : Option String :=
  if r.ret = .no ∨ r.ret = .dataCorrupt then none
  else if h : r.storageInitError.toNat < storageEntriesCount ∧ r.storageInitError.toNat < r.entries.length then
    some r.entries[r.storageInitError.toNat].filename
  else some "???"

/-- Steps 11 and 12 of `main`, on the `pendingNodeId` that storage and `app_programStart`
    left: a positive `nodeIdFromArgs` overwrites it, and one outside 1..127 becomes
    `CO_LSS_NODE_ID_ASSIGNMENT`. -/
def pendingNodeIdAfterArgs (nodeIdFromArgs : Int) (pendingNodeId : UInt8) : UInt8 :=
  let n := if nodeIdFromArgs > 0 then nodeIdFromArgs.toNat.toUInt8 else pendingNodeId
  if n < 1 ∨ n > 127 then coLssNodeIdAssignment.toUInt8 else n

end CANopenLinux
