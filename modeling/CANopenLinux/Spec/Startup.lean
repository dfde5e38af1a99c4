import CANopenLinux.ForStd.List
import CANopenLinux.Native.Startup
import CANopenLinux.Spec.StorageInit

/-!
# What `main` accepts on its command line

The loop over `getopt`'s answers keeps `Args.Parsed` (`Args.Parsed.foldlM`): the node-id is
-1 or in 0..0xFF, the single-thread build keeps the default priority, and the command
interface is one of the modes `CO_epoll_createGtw` sets up, with a path in the local socket
mode, which `CO_epoll_createGtw` copies with `strncpy`. With the checks after the loop, every
command line `main` accepts gives a well-formed configuration (`startArgs_wellFormed`).

The node-id is decided by the last `-i` alone (`foldlM_nodeIdFromArgs`): when there is one, it
replaces the stored node-id; without one the stored node-id stays if it is in 1..127
(`startArgs_pendingNodeId`). When `CO_storageLinux_init` fails, the file `main` names is that
of the entry the loop stopped on (`storageInitExit_names_entry`).

## Key results

- `startArgs_wellFormed`: an accepted command line gives a well-formed configuration
- `startArgs_pendingNodeId`: the node-id `CO_LSSinit` is given
- `storageInitExit_names_entry`: the file `main` names when storage initialisation fails
-/

namespace CANopenLinux

/-! ## What one option does -/

/-- The argument of `-i`. -/
def Opt.iArg : Opt → Option String
  | .i optarg => some optarg
  | _ => none

variable {singleThread : Bool} {env : StartEnv}

theorem nodeIdArg_range (env : StartEnv) (optarg : String) :
    0 ≤ nodeIdArg env optarg ∧ nodeIdArg env optarg ≤ 0xFF := by
  dsimp only [nodeIdArg]
  split
  · decide
  · omega

/-- An option other than `-i` leaves `nodeIdFromArgs`. -/
theorem argOption_nodeIdFromArgs {a a' : Args} {o : Opt} (h : argOption singleThread env a o = .ok a') :
    a'.nodeIdFromArgs = (o.iArg.map (nodeIdArg env)).getD a.nodeIdFromArgs := by
  cases o with
  | p optarg =>
    dsimp only [argOption] at h
    split at h
    · cases h
    · cases h; rfl
  | c optarg =>
    dsimp only [argOption] at h
    split_ifs at h
    · cases h; rfl
    · cases h; rfl
    · split at h
      · cases h
      · cases h; rfl
  | unknown => cases h
  | _ => cases h; rfl

/-! ## The loop over `getopt`'s answers -/

/-- The command interface is one of the modes `CO_epoll_createGtw` sets up, and the local
    socket mode has the path it copies. -/
def Args.GtwMode (a : Args) : Prop :=
  a.commandInterface = coCommandIfDisabled ∨ a.commandInterface = coCommandIfStdio ∨
    a.commandInterface = coCommandIfLocalSocket ∧ a.localSocketPath.isSome ∨
    coCommandIfTcpSocketMin ≤ a.commandInterface ∧ a.commandInterface ≤ coCommandIfTcpSocketMax

/-- What every pass of the loop over `getopt`'s answers keeps. -/
structure Args.Parsed (singleThread : Bool) (a : Args) : Prop where
  nodeId : a.nodeIdFromArgs = -1 ∨ 0 ≤ a.nodeIdFromArgs ∧ a.nodeIdFromArgs ≤ 0xFF
  rtPriority : singleThread = true → a.rtPriority = -1
  mode : a.GtwMode

theorem argsDefault_parsed : argsDefault.Parsed singleThread :=
  ⟨.inl rfl, fun _ => rfl, .inl rfl⟩

/-- One option keeps the invariant. -/
theorem Args.Parsed.argOption {a a' : Args} (ha : a.Parsed singleThread) {o : Opt}
    (h : CANopenLinux.argOption singleThread env a o = .ok a') : a'.Parsed singleThread := by
  obtain ⟨hid, hprio, hmode⟩ := ha
  cases o with
  | i optarg => cases h; exact ⟨.inr (nodeIdArg_range env optarg), hprio, hmode⟩
  | p optarg =>
    dsimp only [CANopenLinux.argOption] at h
    split at h
    · cases h
    · cases h
      exact ⟨hid, fun hs => absurd hs ‹_›, hmode⟩
  | r => cases h; exact ⟨hid, hprio, hmode⟩
  | c optarg =>
    dsimp only [CANopenLinux.argOption] at h
    split_ifs at h
    · cases h; exact ⟨hid, hprio, .inr (.inl rfl)⟩
    · cases h; exact ⟨hid, hprio, .inr (.inr (.inl ⟨rfl, rfl⟩))⟩
    · split at h
      · cases h
      · rename_i port _
        cases h
        have := port.toNat_lt_size
        exact ⟨hid, hprio, .inr (.inr (.inr ⟨by simp only [coCommandIfTcpSocketMin]; omega, by
          simp only [coCommandIfTcpSocketMax, UInt16.size] at this ⊢; omega⟩))⟩
  | T optarg => cases h; exact ⟨hid, hprio, hmode⟩
  | s optarg => cases h; exact ⟨hid, hprio, hmode⟩
  | unknown => cases h

/-- The loop keeps the invariant. -/
theorem Args.Parsed.foldlM {opts : List Opt} {a₀ a : Args}
    (h : opts.foldlM (CANopenLinux.argOption singleThread env) a₀ = .ok a) (ha : a₀.Parsed singleThread) :
    a.Parsed singleThread :=
  List.foldlM_except_inv (fun _ _ _ h' ha' => ha'.argOption h') opts a₀ a h ha

/-- After the loop, `nodeIdFromArgs` is what the last `-i` gives. -/
theorem foldlM_nodeIdFromArgs : ∀ {opts : List Opt} {a₀ a : Args},
    opts.foldlM (argOption singleThread env) a₀ = .ok a →
      a.nodeIdFromArgs = (((opts.filterMap Opt.iArg).getLast?).map (nodeIdArg env)).getD a₀.nodeIdFromArgs
  | [], _, _, h => by cases h; rfl
  | o :: os, a₀, a, h => by
    obtain ⟨a₁, h₁, h₂⟩ := List.foldlM_cons_eq_ok h
    have hlast : ((o :: os).filterMap Opt.iArg).getLast? = ((os.filterMap Opt.iArg).getLast?).or o.iArg := by
      rw [show o :: os = [o] ++ os from rfl, List.filterMap_append, List.getLast?_append]
      cases o <;> rfl
    rw [foldlM_nodeIdFromArgs h₂, argOption_nodeIdFromArgs h₁, hlast]
    cases (os.filterMap Opt.iArg).getLast? <;> rfl

/-! ## The checks after the loop -/

/-- What an accepted command line gives: the loop succeeded and the checks passed. -/
theorem startArgs_ok {lssSlaveEnabled : Bool} {argv1 : Option String} {opts : List Opt}
    {canDevice : Option String} {a : Args} {canIfindex : UInt32}
    (h : startArgs singleThread env lssSlaveEnabled argv1 opts canDevice = .ok (a, canIfindex)) :
    opts.foldlM (argOption singleThread env) argsDefault = .ok a ∧
      checkArgs singleThread env lssSlaveEnabled a canDevice = .ok canIfindex := by
  unfold startArgs at h
  split at h
  · cases h
  · obtain ⟨a₁, hl, h⟩ := Except.bind_eq_ok h
    obtain ⟨i, hc, h⟩ := Except.bind_eq_ok h
    cases h
    exact ⟨hl, hc⟩

/-- Passing the checks: the node-id, the priority and the interface index. -/
theorem checkArgs_ok {lssSlaveEnabled : Bool} {a : Args} {canDevice : Option String}
    {canIfindex : UInt32} (h : checkArgs singleThread env lssSlaveEnabled a canDevice = .ok canIfindex) :
    ¬((a.nodeIdFromArgs = 0 ∨ a.nodeIdFromArgs > 127) ∧
        (lssSlaveEnabled = false ∨ a.nodeIdFromArgs ≠ coLssNodeIdAssignment)) ∧
      ¬(singleThread = false ∧ a.rtPriority ≠ -1 ∧
        (a.rtPriority < env.priorityMin ∨ a.rtPriority > env.priorityMax)) ∧
      canIfindex ≠ 0 := by
  dsimp only [checkArgs] at h
  split_ifs at h with h₁ h₂ h₃
  cases h
  exact ⟨h₁, h₂, h₃⟩

/-- What the rest of `main` relies on: the node-id is -1 (none given), in 1..127, or
    `CO_LSS_NODE_ID_ASSIGNMENT` with an LSS slave; the priority is -1 or, in the build with
    `rt_thread`, a `SCHED_FIFO` priority; and the command interface is a mode
    `CO_epoll_createGtw` sets up, with its path in the local socket mode. -/
structure Args.WellFormed (singleThread : Bool) (env : StartEnv) (lssSlaveEnabled : Bool)
    (a : Args) : Prop where
  nodeId : a.nodeIdFromArgs = -1 ∨ 1 ≤ a.nodeIdFromArgs ∧ a.nodeIdFromArgs ≤ 127 ∨
    lssSlaveEnabled = true ∧ a.nodeIdFromArgs = coLssNodeIdAssignment
  rtPriority : a.rtPriority = -1 ∨
    singleThread = false ∧ env.priorityMin ≤ a.rtPriority ∧ a.rtPriority ≤ env.priorityMax
  mode : a.GtwMode

/-- Every command line `main` accepts, in either build, for every answer of the C library,
    gives a well-formed configuration and an interface index that is not 0. -/
theorem startArgs_wellFormed {lssSlaveEnabled : Bool} {argv1 : Option String} {opts : List Opt}
    {canDevice : Option String} {a : Args} {canIfindex : UInt32}
    (h : startArgs singleThread env lssSlaveEnabled argv1 opts canDevice = .ok (a, canIfindex)) :
    canIfindex ≠ 0 ∧ a.WellFormed singleThread env lssSlaveEnabled := by
  obtain ⟨hl, hc⟩ := startArgs_ok h
  obtain ⟨hid, hprio, hmode⟩ := Args.Parsed.foldlM hl argsDefault_parsed
  obtain ⟨hn, hp, hi⟩ := checkArgs_ok hc
  refine ⟨hi, ⟨?_, ?_, hmode⟩⟩
  · rcases hid with hid | hid
    · exact .inl hid
    · by_cases h127 : 1 ≤ a.nodeIdFromArgs ∧ a.nodeIdFromArgs ≤ 127
      · exact .inr (.inl h127)
      · have hl : ¬(lssSlaveEnabled = false ∨ a.nodeIdFromArgs ≠ coLssNodeIdAssignment) :=
          fun hl => hn ⟨by omega, hl⟩
        simp only [not_or, Bool.not_eq_false, not_not] at hl
        exact .inr (.inr hl)
  · cases hs : singleThread
    · by_cases hr : a.rtPriority = -1
      · exact .inl hr
      · have hp' : ¬(a.rtPriority < env.priorityMin ∨ a.rtPriority > env.priorityMax) :=
          fun h' => hp ⟨hs, hr, h'⟩
        exact .inr ⟨rfl, by omega⟩
    · exact .inl (hprio hs)

/-- A command line with the node-id 5, the gateway on the local socket `/tmp/gw`, and the
    device `can0`, whose interface index is 3. -/
theorem startArgs_wellFormed_local :
    let env : StartEnv := ⟨fun s => if s = "5" then 5 else 0, fun _ => 0, fun _ => none,
      fun _ => 3, 1, 99⟩
    let a : Args := { argsDefault with
      nodeIdFromArgs := 5, commandInterface := coCommandIfLocalSocket, localSocketPath := some "/tmp/gw" }
    startArgs false env true (some "-i") [.i "5", .c "local-/tmp/gw"] (some "can0") = .ok (a, 3) ∧
      ((3 : UInt32) ≠ 0 ∧ a.WellFormed false env true) := by
  intro env a
  have h : startArgs false env true (some "-i") [.i "5", .c "local-/tmp/gw"] (some "can0") =
      .ok (a, 3) := rfl
  exact ⟨h, startArgs_wellFormed h⟩

/-! ## A failed storage initialisation -/

/-- When `main` exits at step 9, on a table of at most 255 entries (`entriesCount` is a
    `uint8_t`), it names the file of an entry on which the loop body of
    `CO_storageLinux_init` aborted, with `CO_ERROR_ILLEGAL_ARGUMENT` or
    `CO_ERROR_OUT_OF_MEMORY`: `storageInitError` is that entry's index, so `"???"` is never
    logged. -/
theorem storageInitExit_names_entry {entries : List StorageEntry} (hne : entries ≠ [])
    (hlen : entries.length ≤ 255) (fs : Fs) (envs : Nat → InitEnv) (storageInitError : UInt32)
    {name : String}
    (h : storageInitExit entries.length (storageLinuxInit entries fs envs storageInitError) = some name) :
    ∃ k, ∃ hk : k < entries.length, name = entries[k].filename ∧
      ∃ fs' e' effs' ret, initEntry entries[k] fs' (envs k) = .abort ret e' effs' ∧
        (ret = .illegalArgument ∨ ret = .outOfMemory) := by
  obtain ⟨e, rest, rfl⟩ := List.exists_cons_of_ne_nil hne
  have hr : storageLinuxInit (e :: rest) fs envs storageInitError =
      initLoop envs 0 .no 0 [] fs [] (e :: rest) := rfl
  rw [hr] at h
  unfold storageInitExit at h
  split at h
  · cases h
  rename_i hret
  obtain ⟨k, hk, herr, fs', e', effs', habort, hentry⟩ :=
    initLoop_abort envs (e :: rest) 0 .no 0 [] fs [] (.inl rfl) hret
  rw [Nat.zero_add] at herr habort
  rw [List.length_nil, Nat.zero_add] at hentry
  generalize initLoop envs 0 .no 0 [] fs [] (e :: rest) = r at h herr habort hentry
  have hk' : r.storageInitError.toNat = k := by
    rw [herr, Nat.toUInt32, UInt32.toNat_ofNat_of_lt (by simp only [UInt32.size]; omega)]
  obtain ⟨hkr, hget⟩ := List.getElem?_eq_some_iff.mp hentry
  have hfile : e'.filename = (e :: rest)[k].filename := by
    have := (initEntry_sameFile (e :: rest)[k] fs' (envs k)).1
    rw [habort] at this
    exact this
  refine ⟨k, hk, ?_, fs', e', effs', _, habort, initEntry_abort habort⟩
  rw [dif_pos (by rw [hk']; exact ⟨hk, hkr⟩)] at h
  cases h
  simp only [hk', hget, hfile]

/-- The second of two entries has `subIndexOD` 1: `main` names its file. -/
theorem storageInitExit_names_entry_second :
    let entries : List StorageEntry :=
      [⟨[0], 1, rfl, 2, 0, "a", 0, none⟩, ⟨[0], 1, rfl, 1, 0, "b", 0, none⟩]
    entries ≠ [] ∧ entries.length ≤ 255 ∧
      storageInitExit entries.length (storageLinuxInit entries Fs.empty (fun _ => initEnvOk) 0) =
        some "b" ∧
      ∃ k, ∃ hk : k < entries.length, "b" = entries[k].filename ∧
        ∃ fs' e' effs' ret, initEntry entries[k] fs' initEnvOk = .abort ret e' effs' ∧
          (ret = .illegalArgument ∨ ret = .outOfMemory) :=
  ⟨List.cons_ne_nil _ _, by decide, by decide,
    storageInitExit_names_entry (List.cons_ne_nil _ _) (by decide) Fs.empty (fun _ => initEnvOk) 0
      (by decide)⟩

/-! ## The node-id -/

theorem nodeIdArg_of_ne_zero {s : String} (h : nodeIdArg env s ≠ 0) : nodeIdArg env s = env.strtol s := by
  dsimp only [nodeIdArg] at h ⊢
  split at h
  · exact absurd rfl h
  · rw [if_neg ‹_›]
    exact Int.emod_eq_of_lt (by omega) (by omega)

/-- Steps 11 and 12 in numbers, for a `nodeIdFromArgs` up to 0xFF. -/
theorem pendingNodeIdAfterArgs_toNat (n : Int) (hn : n ≤ 0xFF) (p : UInt8) (m : Nat)
    (hm : m = if n > 0 then n.toNat else p.toNat) :
    (pendingNodeIdAfterArgs n p).toNat = if 1 ≤ m ∧ m ≤ 127 then m else coLssNodeIdAssignment := by
  have hq : (if n > 0 then n.toNat.toUInt8 else p).toNat = m := by
    rw [hm]
    split
    · exact UInt8.toNat_ofNat_of_lt (by simp only [UInt8.size]; omega)
    · rfl
  dsimp only [pendingNodeIdAfterArgs]
  generalize (if n > 0 then n.toNat.toUInt8 else p) = q at hq ⊢
  subst hq
  by_cases hc : q < 1 ∨ q > 127
  · have hc' : q.toNat < 1 ∨ 127 < q.toNat := hc
    rw [if_pos hc, if_neg (by omega)]
    rfl
  · have hc' : ¬(q.toNat < 1 ∨ 127 < q.toNat) := hc
    rw [if_neg hc, if_pos (by omega)]

/-- On every accepted command line, the node-id that `CO_LSSinit` gets is the number the last
    `-i` reads, which is in 1..127 or, with an LSS slave, `CO_LSS_NODE_ID_ASSIGNMENT`, whatever
    was stored; without `-i` it is the stored node-id if that is in 1..127, and
    `CO_LSS_NODE_ID_ASSIGNMENT` otherwise. -/
theorem startArgs_pendingNodeId {lssSlaveEnabled : Bool} {argv1 : Option String}
    {opts : List Opt} {canDevice : Option String} {a : Args} {canIfindex : UInt32}
    (h : startArgs singleThread env lssSlaveEnabled argv1 opts canDevice = .ok (a, canIfindex))
    (pendingNodeId : UInt8) :
    let n := (pendingNodeIdAfterArgs a.nodeIdFromArgs pendingNodeId).toNat
    match (opts.filterMap Opt.iArg).getLast? with
    | some s => (n : Int) = env.strtol s ∧
        (1 ≤ n ∧ n ≤ 127 ∨ lssSlaveEnabled = true ∧ n = coLssNodeIdAssignment)
    | none => n = if 1 ≤ pendingNodeId.toNat ∧ pendingNodeId.toNat ≤ 127 then pendingNodeId.toNat
        else coLssNodeIdAssignment := by
  intro n
  obtain ⟨hl, hc⟩ := startArgs_ok h
  have hid := foldlM_nodeIdFromArgs hl
  have hn := (checkArgs_ok hc).1
  cases hs : (opts.filterMap Opt.iArg).getLast? with
  | none =>
    simp only [hs, Option.map_none', Option.getD_none, argsDefault] at hid
    exact pendingNodeIdAfterArgs_toNat _ (by omega) pendingNodeId _ (by rw [hid]; rfl)
  | some s =>
    simp only [hs, Option.map_some', Option.getD_some] at hid
    have h0 : nodeIdArg env s ≠ 0 := fun h0 => hn ⟨.inl (hid.trans h0), .inr (by rw [hid, h0]; decide)⟩
    have hv := nodeIdArg_of_ne_zero h0
    have hr := nodeIdArg_range env s
    have hn' := pendingNodeIdAfterArgs_toNat a.nodeIdFromArgs (by omega) pendingNodeId (env.strtol s).toNat
      (by rw [if_pos (by omega), hid, hv])
    simp only [n, hn', coLssNodeIdAssignment] at hn ⊢
    split_ifs with hm
    · exact ⟨by omega, .inl hm⟩
    · have hl : ¬(lssSlaveEnabled = false ∨ a.nodeIdFromArgs ≠ 255) := fun hl => hn ⟨by omega, hl⟩
      simp only [not_or, Bool.not_eq_false, not_not] at hl
      exact ⟨by omega, .inr ⟨hl.1, by omega⟩⟩

/-- The node-id 5 on the command line replaces the stored node-id 10. -/
theorem startArgs_pendingNodeId_overrides :
    let env : StartEnv := ⟨fun s => if s = "5" then 5 else 0, fun _ => 0, fun _ => none,
      fun _ => 3, 1, 99⟩
    let a : Args := { argsDefault with
      nodeIdFromArgs := 5, commandInterface := coCommandIfLocalSocket, localSocketPath := some "/tmp/gw" }
    let n := (pendingNodeIdAfterArgs a.nodeIdFromArgs 10).toNat
    startArgs false env true (some "-i") [.i "5", .c "local-/tmp/gw"] (some "can0") = .ok (a, 3) ∧
      ((n : Int) = env.strtol "5" ∧ (1 ≤ n ∧ n ≤ 127 ∨ true = true ∧ n = coLssNodeIdAssignment)) := by
  intro env a n
  have h : startArgs false env true (some "-i") [.i "5", .c "local-/tmp/gw"] (some "can0") =
      .ok (a, 3) := rfl
  exact ⟨h, startArgs_pendingNodeId h 10⟩

end CANopenLinux
