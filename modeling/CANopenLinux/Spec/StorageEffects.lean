import CANopenLinux.Native.Storage

/-!
# What each storage call does to the files

One lemma per call of `CO_storageLinux.c` says which effects it can have, so that the round
trip, crash and auto-save results never unfold the calls again.

- `storeLinux` has the effects of `storeEffects`, or a prefix of them, or it stops after
  writing the temporary file (`storeLinux_cases`); when it returns `ODR_OK` it had all of
  them, and the temporary file held the memory and its CRC (`storeLinux_ok`).
- `restoreLinux` has a prefix of `restoreEffects`, all of it when it returns `ODR_OK`
  (`restoreLinux_cases`).
- An entry of `CO_storageLinux_auto_process` is skipped, or saved through its handle and
  nothing else (`autoProcessEntry_cases`).
- The file layout: `decodeFile` reads a stored image back as that image, and the marker as
  the defaults (`decodeFile_storedImage`, `decodeFile_markerBytes`); a file with fewer
  bytes is corrupt.
-/

namespace CANopenLinux

namespace StorageEntry

variable (e : StorageEntry)

theorem tmpName_ne_filename : e.tmpName ≠ e.filename := fun h => by
  have := congrArg String.length h
  simp only [tmpName, String.length_append, show ".tmp".length = 4 from rfl] at this
  omega

theorem oldName_ne_filename : e.oldName ≠ e.filename := fun h => by
  have := congrArg String.length h
  simp only [oldName, String.length_append, show ".old".length = 4 from rfl] at this
  omega

theorem tmpName_ne_oldName : e.tmpName ≠ e.oldName := fun h => by
  have := congrArg String.data h
  simp [tmpName, oldName] at this

/-- The checks at the top of the loop body of `CO_storageLinux_init`. -/
def ArgsOk : Prop := 0 < e.len ∧ 2 ≤ e.subIndexOD ∧ e.filename ≠ ""

instance : Decidable e.ArgsOk := inferInstanceAs (Decidable (_ ∧ _ ∧ _))

end StorageEntry

/-- The bytes a save puts in a file: the memory, then its CRC. -/
def storedImage (m : List UInt8) : List UInt8 := m ++ crcBytes (crc16Ccitt m 0)

@[simp] theorem storedImage_length (m : List UInt8) : (storedImage m).length = m.length + 2 := by
  simp [storedImage]

/-! ## `storeLinux` -/

/-- The effects of a `storeLinux` that gets as far as the renames. -/
def storeEffects (e : StorageEntry) (fs : Fs) : List FsEffect :=
  [.openWrite e.tmpName, .write (fs.inodeFor e.tmpName) 0 (storedImage e.addr),
    .rename e.filename e.oldName, .rename e.tmpName e.filename]

section store

variable {e : StorageEntry} {fs : Fs} {env : StoreEnv}

/-- When both `fwrite`s report every byte, the bytes they wrote are the memory and its CRC. -/
theorem store_bytes {d c : Nat} (h : min d e.len + min c 2 = e.len + 2) :
    e.addr.take (min d e.len) ++ (crcBytes (crc16Ccitt e.addr 0)).take (min c 2) =
      storedImage e.addr := by
  rw [show min d e.len = e.len by omega, show min c 2 = 2 by omega,
    List.take_of_length_le e.addr_length.le, List.take_of_length_le (by simp)]
  rfl

/-- The read-back accepts the temporary file only if all of its bytes reached it. -/
private theorem take_landed {b : List UInt8} {n len : Nat} (hb : b.length = len + 2)
    (h : ((b.take n).take (len + 4)).length = len + 2) : b.take n = b :=
  List.take_of_length_le (by simp only [List.length_take] at h; omega)

/-- What `storeLinux` can do: return `ODR_OK` after every effect of a save; or fail after a
    prefix of them, or after writing the temporary file with bytes the read-back rejects. -/
theorem storeLinux_cases (e : StorageEntry) (fs : Fs) (env : StoreEnv) :
    storeLinux e fs env = (.ok, storeEffects e fs) ∨
      (storeLinux e fs env).1 ≠ .ok ∧
        ((storeLinux e fs env).2 <+: storeEffects e fs ∨
          ∃ b, (storeLinux e fs env).2 = [.openWrite e.tmpName, .write (fs.inodeFor e.tmpName) 0 b]) := by
  generalize hr : storeLinux e fs env = r
  unfold storeLinux at hr
  dsimp only at hr
  by_cases hnames : (!env.namesAlloc) = true
  · rw [if_pos hnames] at hr
    exact hr ▸ .inr ⟨by simp, .inl List.nil_prefix⟩
  rw [if_neg hnames] at hr
  by_cases hopen : (!env.tmpOpen) = true
  · rw [if_pos hopen] at hr
    exact hr ▸ .inr ⟨by simp, .inl List.nil_prefix⟩
  rw [if_neg hopen] at hr
  by_cases hwritten : min env.dataWritten e.len + min env.crcWritten 2 ≠ e.len + 2
  · rw [if_pos hwritten] at hr
    exact hr ▸ .inr ⟨by simp, .inr ⟨_, rfl⟩⟩
  rw [if_neg hwritten] at hr
  split at hr
  · exact hr ▸ .inr ⟨by simp, .inr ⟨_, rfl⟩⟩
  rename_i hverify
  -- the read-back accepted the file: it holds the whole image
  rw [store_bytes (not_not.mp hwritten)] at hverify hr
  simp only [Fs.applyAll_cons, Fs.applyAll_nil, FsEffect.apply, Fs.read_openWrite_write,
    Option.getD_some, Bool.or_eq_true, decide_eq_true_eq, not_or, not_not] at hverify
  rw [take_landed (by simp [e.addr_length]) hverify.1.1.2] at hr
  split at hr
  · exact .inl hr.symm
  · exact hr ▸ .inr ⟨by simp, .inl ⟨[.rename e.tmpName e.filename], rfl⟩⟩

/-- After every effect of a save, the entry's path holds the memory and its CRC. -/
theorem read_storeEffects (e : StorageEntry) (fs : Fs) :
    (fs.applyAll (storeEffects e fs)).read e.filename = some (storedImage e.addr) := by
  simp only [storeEffects, Fs.applyAll_cons, Fs.applyAll_nil, FsEffect.apply]
  rw [Fs.read_rename_dst _ _ _ e.tmpName_ne_filename,
    Fs.read_rename_ne _ _ _ e.tmpName_ne_filename e.tmpName_ne_oldName, Fs.read_openWrite_write]
  rfl

/-- A `storeLinux` that returns `ODR_OK` had every effect of a save. -/
theorem storeLinux_ok (h : (storeLinux e fs env).1 = .ok) :
    (storeLinux e fs env).2 = storeEffects e fs := by
  rcases storeLinux_cases e fs env with h' | ⟨hne, -⟩
  · rw [h']
  · exact absurd h hne

end store

/-! ## `restoreLinux` -/

/-- The effects of a `restoreLinux` that gets through, when `landed` bytes of the marker
    reach the file. -/
def restoreEffects (e : StorageEntry) (fs : Fs) (landed : Nat) : List FsEffect :=
  [.rename e.filename e.oldName, .openWrite e.filename,
    .write ((fs.rename e.filename e.oldName).inodeFor e.filename) 0 (markerBytes.take landed)]

/-- What `restoreLinux` can do: change nothing of the entry but its handle, and return
    `ODR_OK` after every effect of a restore or fail after a prefix of them. -/
theorem restoreLinux_cases (e : StorageEntry) (fs : Fs) (env : RestoreEnv) :
    (∃ fp, (restoreLinux e fs env).2.1 = { e with fp }) ∧
      ((restoreLinux e fs env).1 = .ok ∧
          (restoreLinux e fs env).2.2 = restoreEffects e fs env.landed ∨
        (restoreLinux e fs env).1 ≠ .ok ∧
          (restoreLinux e fs env).2.2 <+: restoreEffects e fs env.landed) := by
  generalize hr : restoreLinux e fs env = r
  unfold restoreLinux at hr
  dsimp only at hr
  -- closing the auto-save handle changes nothing else of the entry
  obtain ⟨fp, hfp⟩ : ∃ fp,
      (if e.isAuto && e.fp.isSome then { e with fp := none } else e) = { e with fp } := by
    split
    · exact ⟨none, rfl⟩
    · exact ⟨e.fp, rfl⟩
  rw [hfp] at hr
  by_cases halloc : (!env.nameAlloc) = true
  · rw [if_pos halloc] at hr
    subst hr
    exact ⟨⟨fp, rfl⟩, .inr ⟨by simp, List.nil_prefix⟩⟩
  rw [if_neg halloc] at hr
  by_cases hopen : (!env.fileOpen) = true
  · rw [if_pos hopen] at hr
    subst hr
    exact ⟨⟨fp, rfl⟩, .inr ⟨by simp, by simp [restoreEffects, StorageEntry.oldName]⟩⟩
  rw [if_neg hopen] at hr
  subst hr
  exact ⟨⟨fp, rfl⟩, .inl ⟨rfl, by simp [restoreEffects, StorageEntry.oldName, FsEffect.apply]⟩⟩

/-- `restoreLinux` keeps the entry's file name and has a prefix of the effects of a restore. -/
theorem restoreLinux_effects (e : StorageEntry) (fs : Fs) (env : RestoreEnv) :
    (restoreLinux e fs env).2.1.filename = e.filename ∧
      (restoreLinux e fs env).2.2 <+: restoreEffects e fs env.landed := by
  obtain ⟨⟨fp, he⟩, ⟨-, h⟩ | ⟨-, h⟩⟩ := restoreLinux_cases e fs env
  · exact ⟨by rw [he], h ▸ List.prefix_refl _⟩
  · exact ⟨by rw [he], h⟩

/-- After every effect of a restore, the entry's path holds the bytes of the marker that
    reached it. -/
theorem read_restoreEffects (e : StorageEntry) (fs : Fs) (landed : Nat) :
    (fs.applyAll (restoreEffects e fs landed)).read e.filename = some (markerBytes.take landed) := by
  simp [restoreEffects, FsEffect.apply]

/-- A `restoreLinux` that returns `ODR_OK` had every effect of a restore. -/
theorem restoreLinux_ok {e : StorageEntry} {fs : Fs} {env : RestoreEnv}
    (h : (restoreLinux e fs env).1 = .ok) :
    (restoreLinux e fs env).2.2 = restoreEffects e fs env.landed := by
  obtain ⟨-, ⟨-, h'⟩ | ⟨hne, -⟩⟩ := restoreLinux_cases e fs env
  · exact h'
  · exact absurd h hne

/-! ## The file layout -/

/-- The defaults marker is read as the defaults, whatever the entry's length. -/
theorem decodeFile_markerBytes (len : Nat) : decodeFile len markerBytes = .defaults := by
  simp [decodeFile, markerBytes]

/-- A stored image is read back as its memory and CRC: it is never taken for the marker,
    which has two bytes. -/
theorem decodeFile_storedImage {len : Nat} {m : List UInt8} (hm : m.length = len)
    (hlen : 0 < len) : decodeFile len (storedImage m) = .image m (crc16Ccitt m 0) := by
  have hbuf : (storedImage m).take (len + 2) = storedImage m :=
    List.take_of_length_le (by simp [hm])
  have hcrc : crcOfBytes ((storedImage m)[len]?.getD 0) ((storedImage m)[len + 1]?.getD 0) =
      crc16Ccitt m 0 := by
    simp only [storedImage, List.getElem?_append_right (by omega : m.length ≤ len),
      List.getElem?_append_right (by omega : m.length ≤ len + 1), hm, Nat.sub_self,
      Nat.add_sub_cancel_left, crcOfBytes_crcBytes]
  have htake : (storedImage m).take len = m := List.take_left' hm
  unfold decodeFile
  dsimp only
  rw [hbuf, if_neg (fun h => by have := h.1; simp [hm] at this; omega), htake, hcrc,
    if_pos ⟨rfl, by simp [hm]⟩]

/-- A file of fewer than two bytes is neither the marker nor an image. -/
private theorem decodeFile_short {len : Nat} {content : List UInt8} (h : content.length < 2) :
    decodeFile len content = .corrupt := by
  have hbuf : (content.take (len + 2)).length < 2 := by simp only [List.length_take]; omega
  unfold decodeFile
  dsimp only
  rw [if_neg (fun hm => by omega), if_neg (fun hi => by omega)]

/-- Fewer than two bytes of the marker are corrupt data. -/
theorem decodeFile_markerBytes_take {len j : Nat} (hj : j < 2) :
    decodeFile len (markerBytes.take j) = .corrupt :=
  decodeFile_short (by simp only [List.length_take, markerBytes, List.length_cons, List.length_nil]; omega)

/-! ## `CO_storageLinux_auto_process` -/

/-- An auto-save writes only through its handle, and changes nothing of the entry but the
    CRC it remembers. -/
theorem autoSave_spec (e : StorageEntry) (ino : Nat) (env : AutoEnv) :
    ∃ crc, (autoSave e ino env).2.1 = { e with crc } ∧
      ∀ eff ∈ (autoSave e ino env).2.2, ∃ pos bytes, eff = .write ino pos bytes := by
  unfold autoSave
  dsimp only
  split
  · exact ⟨e.crc, rfl, fun _ h => nomatch h⟩
  split
  · exact ⟨_, rfl, fun _ h => ⟨0, _, List.mem_singleton.mp h⟩⟩
  · exact ⟨e.crc, rfl, fun _ h => ⟨0, _, List.mem_singleton.mp h⟩⟩

/-- What one entry of `CO_storageLinux_auto_process` can do: skip the entry; or, when the
    entry is auto-saved and its handle is open on `ino`, save through the handle, changing
    nothing of the entry but its CRC and, with `closeFiles`, its handle. -/
theorem autoProcessEntry_cases (e : StorageEntry) (closeFiles : Bool) (env : AutoEnv) :
    (autoProcessEntry e closeFiles env).2 = (e, []) ∨
      ∃ ino crc, e.fp = some ino ∧ e.isAuto = true ∧
        (autoProcessEntry e closeFiles env).2.1 =
          { e with crc, fp := if closeFiles then none else e.fp } ∧
        ∀ eff ∈ (autoProcessEntry e closeFiles env).2.2, ∃ pos bytes, eff = .write ino pos bytes := by
  unfold autoProcessEntry
  split
  · exact .inl rfl
  rename_i ino hfp
  split
  · exact .inl rfl
  rename_i hauto
  obtain ⟨crc, hentry, hwrites⟩ := autoSave_spec e ino env
  refine .inr ⟨ino, crc, hfp, by simpa using hauto, ?_, hwrites⟩
  dsimp only
  rw [hentry]
  cases closeFiles <;> rfl

/-! ## `CO_storageLinux_init` -/

/-- Every `fopen` and `malloc` of `CO_storageLinux_init` succeeds. -/
def initEnvOk : InitEnv := ⟨true, true, true⟩

/-- The loop of `CO_storageLinux_init` goes on from the entry, whose memory and CRC are now
    `addr` and `crc`, saying whether its file was corrupt. -/
def InitStep.Loads (s : InitStep) (addr : List UInt8) (crc : UInt16) (corrupt : Bool) : Prop :=
  ∃ e' effs, s = .next e' corrupt effs ∧ e'.addr = addr ∧ e'.crc = crc

section init

variable {e : StorageEntry} {fs : Fs} {content : List UInt8}

/-- Two entries with the same path, length and attributes. -/
def StorageEntry.SameFile (e e' : StorageEntry) : Prop :=
  e'.filename = e.filename ∧ e'.len = e.len ∧ e'.attr = e.attr

theorem StorageEntry.SameFile.trans {e e' e'' : StorageEntry} (h : e.SameFile e')
    (h' : e'.SameFile e'') : e.SameFile e'' :=
  ⟨h'.1.trans h.1, h'.2.1.trans h.2.1, h'.2.2.trans h.2.2⟩

theorem StorageEntry.SameFile.isAuto {e e' : StorageEntry} (h : e.SameFile e') :
    e'.isAuto = e.isAuto := by
  simp [StorageEntry.isAuto, h.2.2]

private theorem openAuto_sameFile (e : StorageEntry) (fs : Fs) (env : InitEnv)
    (corrupt keep : Bool) : e.SameFile (openAuto e fs env corrupt keep).entry := by
  unfold openAuto
  split_ifs <;> exact ⟨rfl, rfl, rfl⟩

theorem loadEntry_sameFile (e : StorageEntry) (content : List UInt8) :
    e.SameFile (loadEntry e content).1 := by
  unfold loadEntry
  split <;> exact ⟨rfl, rfl, rfl⟩

/-- `CO_storageLinux_init` keeps the entry's path, length and attributes. -/
theorem initEntry_sameFile (e : StorageEntry) (fs : Fs) (env : InitEnv) :
    e.SameFile (initEntry e fs env).entry := by
  unfold initEntry
  split
  · exact ⟨rfl, rfl, rfl⟩
  split
  · split
    · exact openAuto_sameFile _ _ _ _ _
    split
    · exact ⟨rfl, rfl, rfl⟩
    · exact (loadEntry_sameFile _ _).trans (openAuto_sameFile _ _ _ _ _)
  · exact openAuto_sameFile _ _ _ _ _

private theorem openAuto_loads (e : StorageEntry) (fs : Fs) (corrupt keep : Bool) :
    (openAuto e fs initEnvOk corrupt keep).Loads e.addr e.crc corrupt := by
  simp only [openAuto, initEnvOk, Bool.not_true, Bool.false_eq_true, ↓reduceIte]
  split_ifs <;> exact ⟨_, _, rfl, rfl, rfl⟩

/-- With its arguments right and every call succeeding, the loop body reads the file. -/
private theorem initEntry_eq (he : e.ArgsOk) :
    initEntry e fs initEnvOk = match fs.read e.filename with
      | some content => openAuto (loadEntry e content).1 fs initEnvOk (loadEntry e content).2.1
          (loadEntry e content).2.2
      | none => openAuto e fs initEnvOk true false := by
  obtain ⟨h₁, h₂, h₃⟩ := he
  unfold initEntry
  rw [if_neg (by simp only [h₃, or_false]; omega)]
  rfl

/-- An auto-saved entry leaves `CO_storageLinux_init` with its handle on the inode that its
    path names afterwards. -/
theorem initEntry_handle (he : e.ArgsOk) (hauto : e.isAuto = true) :
    (initEntry e fs initEnvOk).entry.fp =
      (fs.applyAll (initEntry e fs initEnvOk).effs).names e.filename := by
  have hopen : ∀ e' : StorageEntry, e.SameFile e' → ∀ c k,
      (openAuto e' fs initEnvOk c k).entry.fp =
        (fs.applyAll (openAuto e' fs initEnvOk c k).effs).names e.filename := by
    intro e' h' c k
    have ha : e'.isAuto = true := h'.isAuto.trans hauto
    simp only [openAuto, ha, initEnvOk, Bool.not_true, Bool.false_eq_true, ↓reduceIte]
    split_ifs <;> simp [InitStep.entry, InitStep.effs, FsEffect.apply, h'.1]
  rw [initEntry_eq he]
  split
  · exact hopen _ (loadEntry_sameFile _ _) _ _
  · exact hopen _ ⟨rfl, rfl, rfl⟩ _ _

/-- A file holding an image: its memory and CRC are loaded, with no error. -/
theorem initEntry_image (he : e.ArgsOk) (hr : fs.read e.filename = some content)
    {m : List UInt8} {crc : UInt16} (hd : decodeFile e.len content = .image m crc) :
    (initEntry e fs initEnvOk).Loads m crc false := by
  have hl : (loadEntry e content).1.addr = m ∧ (loadEntry e content).1.crc = crc ∧
      (loadEntry e content).2.1 = false := by
    unfold loadEntry
    split <;> simp_all
  rw [initEntry_eq he, hr, ← hl.1, ← hl.2.1, ← hl.2.2]
  exact openAuto_loads _ _ _ _

/-- The defaults marker: the memory is left as it is, with no error. -/
theorem initEntry_defaults (he : e.ArgsOk) (hr : fs.read e.filename = some content)
    (hd : decodeFile e.len content = .defaults) : (initEntry e fs initEnvOk).Loads e.addr e.crc false := by
  have hl : (loadEntry e content).1 = e ∧ (loadEntry e content).2.1 = false := by
    unfold loadEntry
    split <;> simp_all
  rw [initEntry_eq he, hr]
  dsimp only
  rw [hl.1, hl.2]
  exact openAuto_loads _ _ _ _

/-- No file, or one that is not an image or the marker: the memory is left as it is, and the
    entry is reported corrupt. -/
theorem initEntry_corrupt (he : e.ArgsOk)
    (hr : ∀ content, fs.read e.filename = some content → decodeFile e.len content = .corrupt) :
    (initEntry e fs initEnvOk).Loads e.addr e.crc true := by
  rw [initEntry_eq he]
  cases h : fs.read e.filename with
  | none => exact openAuto_loads _ _ _ _
  | some content =>
    have hd := hr content h
    have hl : (loadEntry e content).1 = e ∧ (loadEntry e content).2.1 = true := by
      unfold loadEntry
      split <;> simp_all
    dsimp only
    rw [hl.1, hl.2]
    exact openAuto_loads _ _ _ _

/-- With its arguments right and every call succeeding, the loop body goes on. -/
theorem initEntry_isNext (he : e.ArgsOk) (fs : Fs) :
    ∃ e' corrupt effs, initEntry e fs initEnvOk = .next e' corrupt effs := by
  rw [initEntry_eq he]
  split
  · obtain ⟨e', effs, h, -⟩ := openAuto_loads (loadEntry e ‹_›).1 fs (loadEntry e ‹_›).2.1
      (loadEntry e ‹_›).2.2
    exact ⟨e', _, effs, h⟩
  · obtain ⟨e', effs, h, -⟩ := openAuto_loads e fs true false
    exact ⟨e', _, effs, h⟩

/-- `CO_storageLinux_init` on one entry that goes on: `DATA_CORRUPT` and the entry's bit if
    its file was corrupt, no error otherwise. -/
theorem storageLinuxInit_single {env : InitEnv} {addr : List UInt8} {crc : UInt16}
    {corrupt : Bool} (h : (initEntry e fs env).Loads addr crc corrupt)
    (storageInitError : UInt32) :
    ∃ e' effs, storageLinuxInit [e] fs (fun _ => env) storageInitError =
        ⟨if corrupt then .dataCorrupt else .no, if corrupt then e.errorBit else 0, [e'], effs⟩ ∧
      e'.addr = addr ∧ e'.crc = crc := by
  obtain ⟨e', effs, h, ha, hc⟩ := h
  refine ⟨e', effs, ?_, ha, hc⟩
  simp only [storageLinuxInit, initLoop, h]
  cases corrupt <;> simp

end init

end CANopenLinux
