import CANopenLinux.Spec.StorageInit

/-!
# Auto-save and explicit stores

An entry with `CO_storage_auto` keeps the handle that `CO_storageLinux_init` opened on its
file (`initEntry_handle`). `CO_storageLinux_auto_process` rewrites the inode behind that
handle in place. `storeLinux` does not use the handle. It writes a new inode and renames it
over the path, and the inode the handle refers to becomes `<path>.old`
(`names_storeEffects_ne`).

From then on, every auto-save of the process lands in `<path>.old`, and the path keeps the
image of the explicit store (`autoSave_after_store`). The next start therefore loads the
memory as it was at the store. Later changes are lost, even when the shutdown save reports
no error (`autoSave_lost_after_store`).

A tick that reports no error does not always leave the image of the memory either
(`autoProcessEntry_saved`): it skips a memory whose CRC is the one it remembers, and it
does not check what `fflush` wrote. Both happen without an error bit
(`autoSave_stale_silently`).
-/

namespace CANopenLinux

/-- After every effect of a save, the path no longer names the inode it named before. -/
theorem names_storeEffects_ne {e : StorageEntry} {fs : Fs} {n : Nat}
    (hn : fs.names e.filename = some n) :
    (fs.applyAll (storeEffects e fs)).names e.filename ≠ some n := by
  simp only [storeEffects, Fs.applyAll_cons, Fs.applyAll_nil, FsEffect.apply]
  rw [Fs.names_rename_dst _ _ _ e.tmpName_ne_filename,
    Fs.names_rename_ne _ _ _ e.tmpName_ne_filename e.tmpName_ne_oldName, Fs.names_write,
    Fs.names_openWrite_self]
  simpa using Fs.inodeFor_ne fs hn e.tmpName_ne_filename

/-- A call of the running process that is not a store, a restore or a start: a write of the
    memory, or an auto-save tick. -/
def StorageCall.IsTick : StorageCall → Prop
  | .write _ => True
  | .autoProcess _ _ => True
  | _ => False

/-- The entry's auto-save handle is on inode `n`, or closed. -/
def StorageEntry.HandleOn (n : Nat) (e : StorageEntry) : Prop := e.fp = some n ∨ e.fp = none

section ticks

variable {n : Nat} {e : StorageEntry} {fs : Fs}

/-- A tick keeps the handle on `n` or closes it, and writes to nothing but `n`. -/
theorem StorageCall.tick_writes (c : StorageCall) (hc : c.IsTick) (h : e.HandleOn n) :
    (c.run e fs).1.HandleOn n ∧ ∀ eff ∈ (c.run e fs).2, ∃ pos bytes, eff = .write n pos bytes := by
  cases c with
  | write bytes =>
    simp only [run]
    split <;> exact ⟨h, by simp⟩
  | autoProcess closeFiles env =>
    rcases autoProcessEntry_cases e closeFiles env with hskip | ⟨ino, crc, hfp, -, hentry, hwrites⟩
    · simp only [run, hskip]
      exact ⟨h, by simp⟩
    have hino : ino = n := by
      rcases h with h | h <;> rw [hfp] at h
      · exact Option.some.inj h
      · cases h
    subst hino
    refine ⟨?_, hwrites⟩
    simp only [run, hentry]
    cases closeFiles
    · exact .inl hfp
    · exact .inr rfl
  | store env => exact absurd hc id
  | restore env => exact absurd hc id
  | init env => exact absurd hc id

/-- Ticks, one after another, write to nothing but the handle's inode. -/
theorem runCalls_ticks_write (ticks : List StorageCall) (hticks : ∀ c ∈ ticks, c.IsTick) :
    ∀ (e : StorageEntry) (fs : Fs), e.HandleOn n →
      ∀ eff ∈ (runCalls ticks e fs).2, ∃ pos bytes, eff = .write n pos bytes := by
  induction ticks with
  | nil => simp [runCalls]
  | cons c cs ih =>
    intro e fs h eff heff
    have hc := @StorageCall.tick_writes n e fs c (hticks c (List.mem_cons_self _ _)) h
    simp only [runCalls, List.mem_append] at heff
    rcases heff with heff | heff
    · exact hc.2 eff heff
    · exact ih (fun c' hc' => hticks c' (List.mem_cons_of_mem _ hc')) _ _ hc.1 eff heff

end ticks

/-- Once a store has returned `ODR_OK` on an entry whose auto-save handle is on the path's
    inode, no run of memory writes and auto-save ticks changes the path: it keeps the image of
    the memory at the store. -/
theorem autoSave_after_store {e : StorageEntry} {fs : Fs} {env : StoreEnv}
    (h : (storeLinux e fs env).1 = .ok) {n : Nat} (hfp : e.fp = some n)
    (hn : fs.names e.filename = some n) (ticks : List StorageCall)
    (hticks : ∀ c ∈ ticks, c.IsTick) :
    let fs₁ := fs.applyAll (storeLinux e fs env).2
    (fs₁.applyAll (runCalls ticks e fs₁).2).read e.filename = some (storedImage e.addr) := by
  intro fs₁
  have hfs₁ : fs₁ = fs.applyAll (storeEffects e fs) := by rw [← storeLinux_ok h]
  rw [Fs.read_applyAll_writes _ (runCalls_ticks_write ticks hticks e fs₁ (.inl hfp))
    (hfs₁ ▸ names_storeEffects_ne hn), hfs₁, read_storeEffects]

/-- `mainline.persist` as `main` registers it (`CO_storage_cmd | CO_storage_auto |
    CO_storage_restore`), here one byte at path `"p"` holding the image of `[1]`. The program
    starts, the memory becomes `[2]`, object 0x1010 stores it, and the memory becomes `[3]`.
    The shutdown `CO_storageLinux_auto_process(storage, true)` writes `[3]` and reports no
    error, but it writes into `p.old`. The next start loads `[2]`. -/
theorem autoSave_lost_after_store :
    let e : StorageEntry :=
      ⟨[1], 1, rfl, 4, coStorageCmd ||| coStorageAuto ||| coStorageRestore, "p", 0, none⟩
    let fs := Fs.single "p" (storedImage [1])
    let env : StoreEnv := ⟨true, true, 1, 2, 3, true, true, true⟩
    let r := runCalls [.init initEnvOk, .write [2], .store env, .write [3]] e fs
    let fs₁ := fs.applyAll r.2
    let a := storageLinuxAutoProcess true (fun _ => ⟨1, 2, 3⟩) 0 [r.1]
    let fs₂ := fs₁.applyAll a.2.2
    let i := storageLinuxInit [e] fs₂ (fun _ => initEnvOk) 0
    r.1.addr = [3] ∧ a.1 = 0 ∧ fs₂.read "p.old" = some (storedImage [3]) ∧ i.ret = .no ∧
      i.entries.map (·.addr) = [[2]] := by
  decide

/-! ## What one tick leaves in the file -/

/-- The file at the entry's path begins with the image of its memory. -/
def StorageEntry.Saved (fs : Fs) (e : StorageEntry) : Prop :=
  ∃ c, fs.read e.filename = some c ∧ HoldsImage e.len c e.addr

instance (fs : Fs) (e : StorageEntry) : Decidable (e.Saved fs) :=
  match h : fs.read e.filename with
  | none => isFalse fun ⟨_, hc, _⟩ => nomatch h.symm.trans hc
  | some c => decidable_of_iff (HoldsImage e.len c e.addr)
      ⟨fun hi => ⟨c, h, hi⟩, fun ⟨_, hc, hi⟩ => Option.some.inj (h.symm.trans hc) ▸ hi⟩

/-- One tick on an auto-saved entry whose handle is on the path's inode leaves the image of
    the memory in the file or returns the entry's error bit, unless it skipped a memory whose
    CRC is the one last saved, or fewer bytes reached the file at `fflush` than `fwrite`
    reported. -/
theorem autoProcessEntry_saved {e : StorageEntry} {fs : Fs} {n : Nat} (hfp : e.fp = some n)
    (hn : fs.names e.filename = some n) (hauto : e.isAuto = true) (closeFiles : Bool)
    (env : AutoEnv) :
    let r := autoProcessEntry e closeFiles env
    e.Saved (fs.applyAll r.2.2) ∨ r.1 = e.errorBit ∨
      (crc16Ccitt e.addr 0 = e.crc ∧ r.2.2 = []) ∨ env.landed < e.len + 2 := by
  have hr : (autoProcessEntry e closeFiles env).1 = (autoSave e n env).1 ∧
      (autoProcessEntry e closeFiles env).2.2 = (autoSave e n env).2.2 := by
    simp [autoProcessEntry, hfp, hauto]
  dsimp only
  rw [hr.1, hr.2]
  unfold autoSave
  dsimp only
  by_cases hcrc : crc16Ccitt e.addr 0 = e.crc
  · rw [if_pos hcrc]
    exact .inr (.inr (.inl ⟨hcrc, rfl⟩))
  rw [if_neg hcrc]
  by_cases hcnt : min env.dataWritten e.len + min env.crcWritten 2 = e.len + 2
  · rw [if_pos hcnt, store_bytes hcnt]
    by_cases hland : e.len + 2 ≤ env.landed
    · rw [List.take_of_length_le (by simpa [e.addr_length] using hland)]
      refine .inl ⟨_, Fs.read_write_self fs hn 0 _, e.addr_length, ?_⟩
      rw [writeAt_zero]
      exact List.prefix_append _ _
    · exact .inr (.inr (.inr (by omega)))
  · rw [if_neg hcnt]
    exact .inr (.inl rfl)

set_option maxRecDepth 10000 in
/-- The silent exits of `autoProcessEntry_saved` happen. A three-byte auto-saved entry at
    path `"p"`, whose defaults `[1, 0x10, 0x21]` have CRC 0 as the entry's initial `crc`
    does. Each run ends with a tick that returns no error bit, and the file does not hold
    the image of the memory: the file held the image of `[0, 0, 0]`, also of CRC 0, and the
    memory became `[1, 0x10, 0x21]`; the file was absent, or held the defaults marker, so
    the remembered CRC stayed 0; the memory became `[1, 2, 3]`, and nothing the tick wrote
    reached the file at `fflush`. -/
theorem autoSave_stale_silently :
    let e : StorageEntry := ⟨[1, 0x10, 0x21], 3, rfl, 2, coStorageAuto, "p", 0, none⟩
    let img := Fs.single "p" (storedImage [0, 0, 0])
    let tick (calls : List StorageCall) (fs : Fs) (env : AutoEnv) : UInt32 × Bool :=
      let r := runCalls calls e fs
      let t := autoProcessEntry r.1 false env
      (t.1, decide (r.1.Saved ((fs.applyAll r.2).applyAll t.2.2)))
    tick [.init initEnvOk, .write [1, 0x10, 0x21]] img ⟨3, 2, 5⟩ = (0, false) ∧
      tick [.init initEnvOk] Fs.empty ⟨3, 2, 5⟩ = (0, false) ∧
      tick [.init initEnvOk] (Fs.single "p" markerBytes) ⟨3, 2, 5⟩ = (0, false) ∧
      tick [.init initEnvOk, .write [1, 2, 3]] img ⟨3, 2, 0⟩ = (0, false) := by
  decide

end CANopenLinux
