import CANopenLinux.Native.Can
import CANopenLinux.Native.Crc
import CANopenLinux.Native.Fs

/-!
# The storage engine

`CO_storageLinux.c`: each storage entry keeps a memory region in a file. `storeLinux`
(object 0x1010) writes `<path>.tmp`, reads it back, moves the old file to `<path>.old` and
renames the new one over `<path>`. `restoreLinux` (object 0x1011) moves the file to
`<path>.old` and writes the defaults marker `"-\n"`. `CO_storageLinux_init` loads every entry
whose file is valid, and keeps the file of an auto-saved entry open; and
`CO_storageLinux_auto_process` rewrites that open file in place whenever the CRC of the
memory has changed.

Every call returns its file-system effects (`FsEffect`). What the C library answers is an
argument: whether `malloc` and `fopen` succeed, what each `fwrite` returns, and how many of
the written bytes reach the file when the stream is flushed or closed, which the code checks
only where it reads the file back. `CO_storage_init`, which registers the object-dictionary
extensions, is taken to succeed.
-/

namespace CANopenLinux

/-- `ODR_t`, the values the storage callbacks return. -/
inductive ODR
  | ok
  | outOfMem
  | hw
  deriving DecidableEq, Repr

/-- Modelled from the spec: `CO_storage_cmd`, stored on the command of object 0x1010. -/
def coStorageCmd : UInt8 := 0x01
/-- Modelled from the spec: `CO_storage_auto`, stored whenever it changes. -/
def coStorageAuto : UInt8 := 0x02
/-- Modelled from the spec: `CO_storage_restore`, reset on the command of object 0x1011. -/
def coStorageRestore : UInt8 := 0x04

/-- The defaults marker `"-\n"` that `restoreLinux` writes. -/
def markerBytes : List UInt8 := [0x2D, 0x0A]

/-- `CO_storage_entry_t`: the `len` bytes at `addr`, the sub-index that names the entry in
    error masks, the attributes, the file name, the CRC of the bytes last persisted, and the
    inode that the auto-save handle `fp` refers to, if it is open. -/
structure StorageEntry where
  addr : List UInt8
  len : Nat
  addr_length : addr.length = len
  subIndexOD : Nat
  attr : UInt8
  filename : String
  crc : UInt16
  fp : Option Nat

namespace StorageEntry

/-- `(entry->attr & CO_storage_auto) != 0`. -/
def isAuto (e : StorageEntry) : Bool := e.attr &&& coStorageAuto != 0

/-- The temporary file of `storeLinux`. -/
def tmpName (e : StorageEntry) : String := e.filename ++ ".tmp"

/-- The previous generation. -/
def oldName (e : StorageEntry) : String := e.filename ++ ".old"

/-- `1 << errorBit`, the bit that names the entry in `storageInitError` and in the mask of
    `CO_storageLinux_auto_process`: the sub-index, clamped to 31. -/
def errorBit (e : StorageEntry) : UInt32 := 1 <<< (min e.subIndexOD 31).toUInt32

/-- The application writes the entry's memory. -/
def setAddr (e : StorageEntry) (bytes : List UInt8) (h : bytes.length = e.len) : StorageEntry :=
  { e with addr := bytes, addr_length := h }

end StorageEntry

/-! ## `storeLinux` and `restoreLinux` -/

/-- What the C library answers during `storeLinux`. -/
structure StoreEnv where
  /-- The `malloc`s of the two file names. -/
  namesAlloc : Bool
  /-- `fopen(<path>.tmp, "w")`. -/
  tmpOpen : Bool
  /-- What `fwrite` of the data returns. -/
  dataWritten : Nat
  /-- What `fwrite` of the CRC returns. -/
  crcWritten : Nat
  /-- How many of the written bytes reach the file when it is closed. -/
  landed : Nat
  /-- The `malloc` of the read-back buffer. -/
  bufAlloc : Bool
  /-- `fopen(<path>.tmp, "r")`. -/
  verifyOpen : Bool
  /-- `rename(<path>.tmp, <path>)`. -/
  renameTmp : Bool

/-- `storeLinux`: write the memory and its CRC to `<path>.tmp`, read the file back and
    check its length and CRCs, then move `<path>` to `<path>.old` (whether or not that
    succeeds) and `<path>.tmp` to `<path>`. -/
def storeLinux (e : StorageEntry) (fs : Fs) (env : StoreEnv) : ODR × List FsEffect :=
  if !env.namesAlloc then (.outOfMem, []) else
  if !env.tmpOpen then (.hw, []) else
  let crcStore := crc16Ccitt e.addr 0
  let n₁ := min env.dataWritten e.len
  let n₂ := min env.crcWritten 2
  let bytes := e.addr.take n₁ ++ (crcBytes crcStore).take n₂
  let written := [FsEffect.openWrite e.tmpName, .write (fs.inodeFor e.tmpName) 0 (bytes.take env.landed)]
  if n₁ + n₂ ≠ e.len + 2 then (.hw, written) else
  -- read the temporary file back
  let buf := (((fs.applyAll written).read e.tmpName).getD []).take (e.len + 4)
  let crcVerify := crc16Ccitt (buf.take e.len) 0
  let crcRead := crcOfBytes (buf[e.len]?.getD 0) (buf[e.len + 1]?.getD 0)
  if !env.bufAlloc || !env.verifyOpen || buf.length ≠ e.len + 2 || crcStore ≠ crcVerify ||
      crcStore ≠ crcRead then (.hw, written) else
  let moved := written ++ [.rename e.filename e.oldName]
  if env.renameTmp then (.ok, moved ++ [.rename e.tmpName e.filename]) else (.hw, moved)

/-- What the C library answers during `restoreLinux`. -/
structure RestoreEnv where
  /-- The `malloc` of the `.old` name. -/
  nameAlloc : Bool
  /-- `fopen(<path>, "w")`. -/
  fileOpen : Bool
  /-- How many bytes of `"-\n"` reach the file when it is closed; `fputs` and `fclose` are
      not checked. -/
  landed : Nat

/-- `restoreLinux`: close the auto-save handle, move `<path>` to `<path>.old`, and write the
    defaults marker to a new `<path>`. -/
def restoreLinux (e : StorageEntry) (fs : Fs) (env : RestoreEnv) :
    ODR × StorageEntry × List FsEffect :=
  let e := if e.isAuto && e.fp.isSome then { e with fp := none } else e
  if !env.nameAlloc then (.outOfMem, e, []) else
  let moved := [FsEffect.rename e.filename e.oldName]
  if !env.fileOpen then (.hw, e, moved) else
  (.ok, e, moved ++ [.openWrite e.filename,
    .write ((fs.applyAll moved).inodeFor e.filename) 0 (markerBytes.take env.landed)])

/-! ## `CO_storageLinux_init` -/

/-- What `fread` of `len + 2` bytes finds in a file. -/
inductive Loaded
  /-- The defaults marker: two bytes, the first `'-'`. -/
  | defaults
  /-- `len` bytes followed by their CRC. -/
  | image (bytes : List UInt8) (crc : UInt16)
  /-- Anything else. -/
  | corrupt
  deriving DecidableEq

/-- How `CO_storageLinux_init` reads the `len + 2` bytes of a file. -/
def decodeFile (len : Nat) (content : List UInt8) : Loaded :=
  let buf := content.take (len + 2)
  if buf.length = 2 ∧ buf[0]? = some 0x2D then .defaults else
  let crc1 := crc16Ccitt (buf.take len) 0
  let crc2 := crcOfBytes (buf[len]?.getD 0) (buf[len + 1]?.getD 0)
  if crc1 = crc2 ∧ buf.length = len + 2 then .image (buf.take len) crc1 else .corrupt

theorem decodeFile_image_length {len : Nat} {content bytes : List UInt8} {crc : UInt16}
    (h : decodeFile len content = .image bytes crc) : bytes.length = len := by
  unfold decodeFile at h
  dsimp only at h
  split at h
  · cases h
  split at h
  · cases h
    rename_i hc
    simp only [List.length_take] at hc ⊢
    omega
  · cases h

/-- What the C library answers while `CO_storageLinux_init` handles one entry. -/
structure InitEnv where
  /-- `fopen(<path>, "r")`, when the file exists. -/
  openOk : Bool
  /-- The `malloc` of the read buffer. -/
  bufAlloc : Bool
  /-- `fopen(<path>, "r+")` or `fopen(<path>, "w")` of an auto-saved entry. -/
  autoOpen : Bool

/-- How the loop of `CO_storageLinux_init` leaves one entry: on to the next, saying whether
    its data was corrupt, or out with an error. -/
inductive InitStep
  | next (e : StorageEntry) (corrupt : Bool) (effs : List FsEffect)
  | abort (ret : ReturnError) (e : StorageEntry) (effs : List FsEffect)

/-- The entry as a step of the loop leaves it. -/
def InitStep.entry : InitStep → StorageEntry
  | .next e _ _ => e
  | .abort _ e _ => e

/-- The effects of a step of the loop. -/
def InitStep.effs : InitStep → List FsEffect
  | .next _ _ effs => effs
  | .abort _ _ effs => effs

/-- The entry once its file is read: the memory of a valid image with its CRC, and whether
    the auto-save handle may keep the file as it is (`"r+"`) or must truncate it (`"w"`). -/
def loadEntry (e : StorageEntry) (content : List UInt8) : StorageEntry × Bool × Bool :=
  match h : decodeFile e.len content with
  | .defaults => (e, false, false)
  | .image bytes crc => ({ e with addr := bytes, addr_length := decodeFile_image_length h, crc }, false, true)
  | .corrupt => (e, true, false)

/-- The end of the loop body of `CO_storageLinux_init`: an auto-saved entry gets its handle,
    `fopen(<path>, "r+")` on a valid image (`keep`), which finds the file where it is, and
    `fopen(<path>, "w")` otherwise, which truncates or creates it. -/
def openAuto (e : StorageEntry) (fs : Fs) (env : InitEnv) (corrupt keep : Bool) : InitStep :=
  if !e.isAuto then .next e corrupt []
  else if !env.autoOpen then .abort .illegalArgument { e with fp := none } []
  else if keep then .next { e with fp := fs.names e.filename } corrupt []
  else .next { e with fp := some (fs.inodeFor e.filename) } corrupt [.openWrite e.filename]

/-- The body of the loop of `CO_storageLinux_init` for one entry: check its arguments, read
    the file if `fopen(<path>, "r")` succeeds, and open the auto-save handle. -/
def initEntry (e : StorageEntry) (fs : Fs) (env : InitEnv) : InitStep :=
  if e.len = 0 ∨ e.subIndexOD < 2 ∨ e.filename = "" then .abort .illegalArgument e [] else
  match fs.read e.filename with
  | some content =>
    if !env.openOk then openAuto e fs env true false
    else if !env.bufAlloc then .abort .outOfMemory e []
    else
      let r := loadEntry e content
      openAuto r.1 fs env r.2.1 r.2.2
  | none => openAuto e fs env true false

/-- What `CO_storageLinux_init` returns and leaves. -/
structure InitResult where
  ret : ReturnError
  storageInitError : UInt32
  entries : List StorageEntry
  effs : List FsEffect

/-- The loop of `CO_storageLinux_init` from entry `i` on, with the result `ret` and the error
    mask so far, the entries already handled and the file system they left. -/
def initLoop (envs : Nat → InitEnv) :
    Nat → ReturnError → UInt32 → List StorageEntry → Fs → List FsEffect → List StorageEntry →
      InitResult
  | _, ret, err, done, _, effs, [] => ⟨ret, err, done, effs⟩
  | i, ret, err, done, fs, effs, e :: rest =>
    match initEntry e fs (envs i) with
    | .abort r e' effs' => ⟨r, i.toUInt32, done ++ e' :: rest, effs ++ effs'⟩
    | .next e' corrupt effs' =>
      initLoop envs (i + 1) (if corrupt then .dataCorrupt else ret)
        (if corrupt then err ||| e.errorBit else err) (done ++ [e']) (fs.applyAll effs')
        (effs ++ effs') rest

/-- `CO_storageLinux_init`: no entries is an illegal argument, which leaves the caller's
    `storageInitError` as it was. -/
def storageLinuxInit (entries : List StorageEntry) (fs : Fs) (envs : Nat → InitEnv)
    (storageInitError : UInt32) : InitResult :=
  match entries with
  | [] => ⟨.illegalArgument, storageInitError, [], []⟩
  | _ => initLoop envs 0 .no 0 [] fs [] entries

/-! ## `CO_storageLinux_auto_process` -/

/-- What the C library answers while one entry is saved. -/
structure AutoEnv where
  /-- What `fwrite` of the data returns. -/
  dataWritten : Nat
  /-- What `fwrite` of the CRC returns. -/
  crcWritten : Nat
  /-- How many of the written bytes reach the file at `fflush`, which is not checked. -/
  landed : Nat

/-- The save of one auto-saved entry with open handle `ino`: if the CRC of the memory differs
    from the one last saved, rewind and write the memory and the CRC. The entry's error bit
    is returned if `fwrite` reported fewer bytes. -/
def autoSave (e : StorageEntry) (ino : Nat) (env : AutoEnv) :
    UInt32 × StorageEntry × List FsEffect :=
  let crc := crc16Ccitt e.addr 0
  if crc = e.crc then (0, e, []) else
  let n₁ := min env.dataWritten e.len
  let n₂ := min env.crcWritten 2
  let effs := [FsEffect.write ino 0 ((e.addr.take n₁ ++ (crcBytes crc).take n₂).take env.landed)]
  if n₁ + n₂ = e.len + 2 then (0, { e with crc }, effs) else (e.errorBit, e, effs)

/-- One entry of `CO_storageLinux_auto_process`: entries that are not auto-saved, or whose
    handle is closed, are skipped; `closeFiles` closes the handle after the save. -/
def autoProcessEntry (e : StorageEntry) (closeFiles : Bool) (env : AutoEnv) :
    UInt32 × StorageEntry × List FsEffect :=
  match e.fp with
  | none => (0, e, [])
  | some ino =>
    if !e.isAuto then (0, e, []) else
    let r := autoSave e ino env
    (r.1, if closeFiles then { r.2.1 with fp := none } else r.2.1, r.2.2)

/-- `CO_storageLinux_auto_process` over the entries from index `i` on: the error mask, the
    entries, and the effects in entry order. -/
def storageLinuxAutoProcess (closeFiles : Bool) (envs : Nat → AutoEnv) :
    Nat → List StorageEntry → UInt32 × List StorageEntry × List FsEffect
  | _, [] => (0, [], [])
  | i, e :: rest =>
    let r := autoProcessEntry e closeFiles (envs i)
    let rs := storageLinuxAutoProcess closeFiles envs (i + 1) rest
    (r.1 ||| rs.1, r.2.1 :: rs.2.1, r.2.2 ++ rs.2.2)

/-! ## Runs on one entry -/

/-- A call that reaches one storage entry: the application writes the memory; a write to
    object 0x1010 stores it and one to 0x1011 restores the defaults; the program starts; or
    the mainline runs `CO_storageLinux_auto_process`. -/
inductive StorageCall
  | write (bytes : List UInt8)
  | store (env : StoreEnv)
  | restore (env : RestoreEnv)
  | init (env : InitEnv)
  | autoProcess (closeFiles : Bool) (env : AutoEnv)

/-- One call on the entry: the entry afterwards and the call's effects. A write of the wrong
    length does not happen. -/
def StorageCall.run (e : StorageEntry) (fs : Fs) : StorageCall → StorageEntry × List FsEffect
  | .write bytes => (if h : bytes.length = e.len then e.setAddr bytes h else e, [])
  | .store env => (e, (storeLinux e fs env).2)
  | .restore env => ((restoreLinux e fs env).2.1, (restoreLinux e fs env).2.2)
  | .init env => ((initEntry e fs env).entry, (initEntry e fs env).effs)
  | .autoProcess closeFiles env =>
    ((autoProcessEntry e closeFiles env).2.1, (autoProcessEntry e closeFiles env).2.2)

/-- The calls one after another: the entry at the end and all the effects, in order. -/
def runCalls : List StorageCall → StorageEntry → Fs → StorageEntry × List FsEffect
  | [], e, _ => (e, [])
  | c :: cs, e, fs =>
    let r := c.run e fs
    let rs := runCalls cs r.1 (fs.applyAll r.2)
    (rs.1, r.2 ++ rs.2)

/-! ## The auto-save thread against the real-time thread

`CO_storageLinux_auto_process` runs in the mainline thread. It computes the CRC of an
entry's memory outside `CO_LOCK_OD` and takes the lock only around the `fwrite` of the data.
The real-time thread writes the memory of an entry mapped to an RPDO in
`CO_epoll_processRT`, under the lock. Each step below is atomic; the save of one entry is
split where the other thread can run in between. -/

/-- Where the save of one entry is. -/
inductive SavePhase
  /-- Before `crc16_ccitt`. -/
  | start
  /-- The CRC of the memory, computed outside the lock, differs from `entry->crc`. -/
  | crcTaken (crc : UInt16)
  /-- The locked `fwrite` has copied `data` into the stream; the CRC is written next. -/
  | dataCopied (crc : UInt16) (data : List UInt8)
  deriving DecidableEq

/-- The entry, the file system, and the phase and error mask of the save. -/
structure SaveState where
  e : StorageEntry
  fs : Fs
  phase : SavePhase
  storageError : UInt32

/-- A step of one of the two threads. -/
inductive SaveEvent
  /-- The real-time thread writes the memory, under `CO_LOCK_OD`. -/
  | rtWrite (bytes : List UInt8)
  /-- The next step of the save, with what the C library answers. -/
  | save (env : AutoEnv)

/-- One step, with the handle on inode `ino`. The save's steps are those of `autoSave`: the
    CRC and its comparison; the rewind and the locked `fwrite` of the data; the `fwrite` of
    the CRC, `fflush` and the check of the count. -/
def SaveState.step (ino : Nat) (s : SaveState) : SaveEvent → SaveState
  | .rtWrite bytes => if h : bytes.length = s.e.len then { s with e := s.e.setAddr bytes h } else s
  | .save env =>
    match s.phase with
    | .start =>
      let crc := crc16Ccitt s.e.addr 0
      if crc = s.e.crc then s else { s with phase := .crcTaken crc }
    | .crcTaken crc =>
      { s with phase := .dataCopied crc (s.e.addr.take (min env.dataWritten s.e.len)) }
    | .dataCopied crc data =>
      let n₂ := min env.crcWritten 2
      let fs := s.fs.applyAll [.write ino 0 ((data ++ (crcBytes crc).take n₂).take env.landed)]
      if data.length + n₂ = s.e.len + 2 then { s with e := { s.e with crc }, fs, phase := .start }
      else { s with fs, phase := .start, storageError := s.storageError ||| s.e.errorBit }

/-- The steps one after another. -/
def SaveState.run (ino : Nat) (s : SaveState) (evs : List SaveEvent) : SaveState :=
  evs.foldl (SaveState.step ino) s

end CANopenLinux
