import CANopenLinux.Spec.StorageInit

/-!
# Crashes during storage

A crash keeps a prefix of a run's file-system effects, and the last write may be cut short
(`Fs.crash`). This module works out what an entry's path can hold at any crash of a run of
`CO_storageLinux_init`, `storeLinux`, `restoreLinux`, `CO_storageLinux_auto_process` and
writes of the memory (`runCalls_survivor`). It holds nothing, a prefix of the defaults marker,
or the complete image of a memory that the first file held or that the run saved. For an entry
with `CO_storage_auto`, such as `mainline.persist`, it may also hold an in-place rewrite cut
short: `CO_storageLinux_auto_process` rewinds the handle and writes the memory and its CRC
over what the file held (`Survivor.torn`).

So the next `CO_storageLinux_init` restores one of those images, or keeps the defaults, or,
for an auto-saved entry whose file holds a torn rewrite, reads that file as any other. Else it
reports `DATA_CORRUPT` only when the path is missing or holds less than the whole marker
(`crash_then_init`). That happens in two windows. One is in `storeLinux`, between
`rename(<path>, <path>.old)` and `rename(<path>.tmp, <path>)`. The other is in `restoreLinux`,
between its rename and the marker reaching the new file. A crash in either window reports
`DATA_CORRUPT` even though a save completed before it (`storeLinux_crash_between_renames`). The
previous generation is then in `<path>.old`, which `CO_storageLinux_init` never reads.
-/

namespace CANopenLinux

/-! ## What one call leaves at the path -/

section crashRead

variable (e : StorageEntry) (fs : Fs)

/-- A crash inside a save leaves the path as it was, empty between the two renames, or
    holding the new image. -/
private theorem storeEffects_crash_read (n k j : Nat) :
    let r := (fs.crash ((storeEffects e fs).take n) k j).read e.filename
    r = fs.read e.filename ∨ r = none ∨ r = some (storedImage e.addr) := by
  have h₁ := e.tmpName_ne_filename
  have h₂ := e.oldName_ne_filename
  rcases n with _ | _ | _ | _ | n <;> rcases k with _ | _ | _ | _ | k <;>
    simp only [storeEffects, List.take_zero, List.take_succ_cons, List.take_nil, Nat.zero_add,
      Nat.reduceAdd, FsEffect.apply, Fs.crash_nil, Fs.crash_cons_succ, Fs.crash_openWrite_zero,
      Fs.crash_write_zero, Fs.crash_rename_zero, ne_eq, not_false_eq_true, h₁, h₁.symm, h₂.symm,
      e.tmpName_ne_oldName, Fs.read_openWrite_ne, Fs.names_openWrite_ne, Fs.read_write_ne,
      Fs.read_rename_src, Fs.read_rename_dst, Fs.read_rename_ne, Fs.read_openWrite_write,
      Option.or_none, reduceCtorEq, true_or, or_true, or_false]

/-- What a crash during `storeLinux` leaves at the entry's path: what was there, nothing, or
    the image of the memory. -/
theorem storeLinux_crash_read (env : StoreEnv) (k j : Nat) :
    let r := (fs.crash (storeLinux e fs env).2 k j).read e.filename
    r = fs.read e.filename ∨ r = none ∨ r = some (storedImage e.addr) := by
  rcases storeLinux_cases e fs env with h | ⟨-, hp | ⟨b, hb⟩⟩
  · rw [h]
    exact storeEffects_crash_read e fs 4 k j
  · rw [List.prefix_iff_eq_take.mp hp]
    exact storeEffects_crash_read e fs _ k j
  · rw [hb]
    left
    rcases k with _ | _ | k <;>
      simp [FsEffect.apply, Fs.read_openWrite_ne, Fs.read_write_ne, Fs.names_openWrite_ne,
        e.tmpName_ne_filename.symm]

/-- What a crash during `restoreLinux` leaves at the entry's path: what was there, nothing,
    or a prefix of the marker. -/
theorem restoreLinux_crash_read (env : RestoreEnv) (k j : Nat) :
    let r := (fs.crash (restoreLinux e fs env).2.2 k j).read e.filename
    r = fs.read e.filename ∨ r = none ∨ ∃ c, r = some c ∧ c <+: markerBytes := by
  rw [List.prefix_iff_eq_take.mp (restoreLinux_effects e fs env).2]
  generalize (restoreLinux e fs env).2.2.length = n
  rcases n with _ | _ | _ | n <;> rcases k with _ | _ | _ | k <;>
    simp only [restoreEffects, List.take_zero, List.take_succ_cons, List.take_nil, List.take_take,
      Nat.zero_add, Nat.reduceAdd, FsEffect.apply, Fs.crash_nil, Fs.crash_cons_succ,
      Fs.crash_rename_zero, Fs.crash_openWrite_zero, Fs.crash_write_zero, ne_eq,
      not_false_eq_true, e.oldName_ne_filename.symm, Fs.read_rename_src, Fs.read_openWrite_self,
      Fs.read_openWrite_write, Option.some.injEq, List.nil_eq, List.nil_prefix, List.take_prefix,
      exists_eq_left, exists_eq_left', exists_const, reduceCtorEq, false_and, true_or, or_true,
      or_false]

/-- What `CO_storageLinux_init` does to the files of one entry: nothing, or
    `fopen(<path>, "w")` for the auto-save handle. -/
theorem initEntry_effs (env : InitEnv) :
    (initEntry e fs env).effs = [] ∨ (initEntry e fs env).effs = [.openWrite e.filename] := by
  have hopen : ∀ e' : StorageEntry, e'.filename = e.filename → ∀ c k,
      (openAuto e' fs env c k).effs = [] ∨ (openAuto e' fs env c k).effs = [.openWrite e.filename] := by
    intro e' he' c k
    unfold openAuto
    split_ifs <;> simp [InitStep.effs, he']
  unfold initEntry
  split
  · exact .inl rfl
  split
  · split
    · exact hopen _ rfl _ _
    split
    · exact .inl rfl
    · exact hopen _ (loadEntry_sameFile _ _).1 _ _
  · exact hopen _ rfl _ _

/-- What a crash during `CO_storageLinux_init` leaves at the entry's path: what was there, or
    an empty file. -/
theorem initEntry_crash_read (env : InitEnv) (k j : Nat) :
    let r := (fs.crash (initEntry e fs env).effs k j).read e.filename
    r = fs.read e.filename ∨ r = some [] := by
  rcases initEntry_effs e fs env with h | h <;> rw [h]
  · exact .inl (by rw [Fs.crash_nil])
  · rcases k with _ | k
    · exact .inl (by rw [Fs.crash_openWrite_zero])
    · exact .inr (by simp [FsEffect.apply])

/-- What `CO_storageLinux_auto_process` writes for an entry: nothing, or, through its handle
    from the start, the first `n₁` bytes of the memory and then the first `n₂` of its CRC, of
    which the first `j` reach the file. -/
theorem autoProcessEntry_effs (closeFiles : Bool) (env : AutoEnv) :
    (autoProcessEntry e closeFiles env).2.2 = [] ∨
      ∃ ino n₁ n₂ j, e.isAuto = true ∧ (autoProcessEntry e closeFiles env).2.2 =
        [.write ino 0 ((e.addr.take n₁ ++ (crcBytes (crc16Ccitt e.addr 0)).take n₂).take j)] := by
  unfold autoProcessEntry autoSave
  split
  · exact .inl rfl
  by_cases hauto : e.isAuto = true
  · rw [if_neg (by simp [hauto])]
    dsimp only
    split
    · exact .inl rfl
    split <;> exact .inr ⟨_, _, _, _, hauto, rfl⟩
  · rw [if_pos (by simpa using hauto)]
    exact .inl rfl

/-- What a crash during `CO_storageLinux_auto_process` leaves at the entry's path: what was
    there, or, when the handle is on the path's file, a rewrite from the start of the memory
    and its CRC, cut short, over what the file held. -/
theorem autoProcessEntry_crash_read (closeFiles : Bool) (env : AutoEnv) (k j : Nat) :
    let r := (fs.crash (autoProcessEntry e closeFiles env).2.2 k j).read e.filename
    r = fs.read e.filename ∨ e.isAuto = true ∧ ∃ c n₁ n₂ j', fs.read e.filename = some c ∧
      r = some (writeAt c 0 ((e.addr.take n₁ ++ (crcBytes (crc16Ccitt e.addr 0)).take n₂).take j')) := by
  rcases autoProcessEntry_effs e closeFiles env with h | ⟨ino, n₁, n₂, j₀, hauto, h⟩ <;> rw [h]
  · exact .inl (by rw [Fs.crash_nil])
  -- the write lands, in whole or in part, after `j` bytes of it
  have hcrash : ∃ j', fs.crash [.write ino 0 ((e.addr.take n₁ ++
      (crcBytes (crc16Ccitt e.addr 0)).take n₂).take j₀)] k j =
        fs.write ino 0 ((e.addr.take n₁ ++ (crcBytes (crc16Ccitt e.addr 0)).take n₂).take j') := by
    rcases k with _ | k
    · exact ⟨min j j₀, by rw [Fs.crash_write_zero, List.take_take]⟩
    · exact ⟨j₀, by simp [FsEffect.apply]⟩
  obtain ⟨j', hj'⟩ := hcrash
  rw [hj']
  by_cases hn : fs.names e.filename = some ino
  · exact .inr ⟨hauto, _, n₁, n₂, j', Fs.read_of_names _ hn, Fs.read_write_self _ hn _ _⟩
  · exact .inl (Fs.read_write_ne _ hn _ _)

end crashRead

/-! ## Every crash of a run -/

/-- What the path of an entry of length `len` may hold: nothing, a prefix of the defaults
    marker, or the complete image of a memory of length `len` among `images`; and, for an
    auto-saved entry, an in-place rewrite of such a memory over what the path held before, cut
    short: its first `n₁` bytes, then the first `n₂` bytes of its CRC, of which the first `j`
    reached the file. -/
inductive Survivor (auto : Bool) (len : Nat) (images : List (List UInt8)) :
    Option (List UInt8) → Prop
  | absent : Survivor auto len images none
  | marker {c : List UInt8} : c <+: markerBytes → Survivor auto len images (some c)
  | image {m : List UInt8} : m ∈ images → m.length = len →
      Survivor auto len images (some (storedImage m))
  | torn {c m : List UInt8} (n₁ n₂ j : Nat) : auto = true → Survivor auto len images (some c) →
      m ∈ images → m.length = len →
      Survivor auto len images
        (some (writeAt c 0 ((m.take n₁ ++ (crcBytes (crc16Ccitt m 0)).take n₂).take j)))

theorem Survivor.mono {auto : Bool} {len : Nat} {images images' : List (List UInt8)}
    (h : images ⊆ images') {c : Option (List UInt8)} (hc : Survivor auto len images c) :
    Survivor auto len images' c := by
  induction hc with
  | absent => exact .absent
  | marker hc => exact .marker hc
  | image hm hlen => exact .image (h hm) hlen
  | torn n₁ n₂ j hauto _ hm hlen ih => exact .torn n₁ n₂ j hauto ih (h hm) hlen

/-- The memory a call saves: the entry's, if the call is a store, or an auto-save of an
    auto-saved entry. -/
def StorageCall.stored (e : StorageEntry) : StorageCall → List (List UInt8)
  | .store _ => [e.addr]
  | .autoProcess _ _ => if e.isAuto then [e.addr] else []
  | _ => []

/-- The memory at each save of a run. -/
def storedImages : List StorageCall → StorageEntry → Fs → List (List UInt8)
  | [], _, _ => []
  | c :: cs, e, fs => c.stored e ++ storedImages cs (c.run e fs).1 (fs.applyAll (c.run e fs).2)

section run

variable {e : StorageEntry} {fs : Fs}

/-- No call changes an entry's path, length or attributes. -/
theorem StorageCall.run_sameFile (c : StorageCall) : e.SameFile (c.run e fs).1 := by
  cases c with
  | write bytes => simp only [run]; split <;> exact ⟨rfl, rfl, rfl⟩
  | store env => exact ⟨rfl, rfl, rfl⟩
  | restore env =>
    obtain ⟨⟨_, he⟩, -⟩ := restoreLinux_cases e fs env
    simp only [run, he]
    exact ⟨rfl, rfl, rfl⟩
  | init env => exact initEntry_sameFile e fs env
  | autoProcess closeFiles env =>
    rcases autoProcessEntry_cases e closeFiles env with hskip | ⟨_, _, -, -, hentry, -⟩
    · simp only [run, hskip]
      exact ⟨rfl, rfl, rfl⟩
    · simp only [run, hentry]
      exact ⟨rfl, rfl, rfl⟩

/-- One call keeps the path a survivor at every crash inside it, adding the memory it
    saves. -/
theorem StorageCall.run_survivor (c : StorageCall) {images : List (List UInt8)}
    (h : Survivor e.isAuto e.len images (fs.read e.filename)) (k j : Nat) :
    Survivor e.isAuto e.len (images ++ c.stored e)
      ((fs.crash (c.run e fs).2 k j).read e.filename) := by
  have hmono : ∀ {r}, Survivor e.isAuto e.len images r →
      Survivor e.isAuto e.len (images ++ c.stored e) r :=
    Survivor.mono (List.subset_append_left _ _)
  cases c with
  | write bytes => simpa only [run, Fs.crash_nil] using hmono h
  | store env =>
    rcases storeLinux_crash_read e fs env k j with h' | h' | h' <;> simp only [run] <;> rw [h']
    · exact hmono h
    · exact .absent
    · exact .image (by simp [stored]) e.addr_length
  | restore env =>
    rcases restoreLinux_crash_read e fs env k j with h' | h' | ⟨c, h', hc⟩ <;> simp only [run] <;>
      rw [h']
    · exact hmono h
    · exact .absent
    · exact .marker hc
  | init env =>
    rcases initEntry_crash_read e fs env k j with h' | h' <;> simp only [run] <;> rw [h']
    · exact hmono h
    · exact .marker List.nil_prefix
  | autoProcess closeFiles env =>
    rcases autoProcessEntry_crash_read e fs closeFiles env k j with
      h' | ⟨hauto, c, n₁, n₂, j', hc, h'⟩ <;> simp only [run] <;> rw [h']
    · exact hmono h
    · exact .torn n₁ n₂ j' hauto (hmono (hc ▸ h)) (by simp [stored, hauto]) e.addr_length

/-- At every crash of a run, the path holds nothing, a prefix of the marker, the complete
    image of the first file's memory or of one the run saved, or, for an auto-saved entry, a
    torn rewrite of one of those memories. -/
theorem runCalls_survivor (calls : List StorageCall) :
    ∀ (e : StorageEntry) (fs : Fs) (images : List (List UInt8)),
      Survivor e.isAuto e.len images (fs.read e.filename) → ∀ k j,
        Survivor e.isAuto e.len (images ++ storedImages calls e fs)
          ((fs.crash (runCalls calls e fs).2 k j).read e.filename) := by
  induction calls with
  | nil => intro e fs images h k j; simpa [runCalls, storedImages] using h
  | cons c cs ih =>
    intro e fs images h k j
    have hsame : e.SameFile (c.run e fs).1 := c.run_sameFile
    have hauto := hsame.isAuto
    obtain ⟨hname, hlen, -⟩ := hsame
    simp only [runCalls, storedImages, Fs.crash_append]
    split
    · refine Survivor.mono ?_ (c.run_survivor h k j)
      rw [← List.append_assoc]
      exact List.subset_append_left _ _
    · have h' := c.run_survivor h (c.run e fs).2.length 0
      rw [Fs.crash_length, ← hname, ← hlen, ← hauto] at h'
      have := ih _ _ _ h' (k - (c.run e fs).2.length) j
      rw [hname, hlen, hauto, List.append_assoc] at this
      exact this

end run

/-! ## The next start -/

/-- A prefix of the marker is the marker, or has fewer than two bytes. -/
private theorem markerBytes_prefix {c : List UInt8} (hc : c <+: markerBytes) :
    c = markerBytes ∨ (c = markerBytes.take c.length ∧ c.length < 2) := by
  have hle : c.length ≤ 2 := hc.length_le
  have htake := List.prefix_iff_eq_take.mp hc
  rcases Nat.lt_or_ge c.length 2 with hlt | hge
  · exact .inr ⟨htake, hlt⟩
  · exact .inl (htake.trans (List.take_of_length_le (by simp [markerBytes]; omega)))

/-- After a crash anywhere in a run, the next `CO_storageLinux_init` loads the image of the
    first file's memory or of one the run saved, or keeps the defaults; or the entry is
    auto-saved, its path holds a torn rewrite of such a memory, and init reads that file by the
    law of every file (`LoadsFile`); or it reports the entry corrupt, and then the path is
    missing or holds fewer than two bytes of the marker. -/
theorem crash_then_init {e : StorageEntry} (calls : List StorageCall) {fs : Fs}
    {images : List (List UInt8)} (h₀ : Survivor e.isAuto e.len images (fs.read e.filename))
    (k j : Nat) {e₀ : StorageEntry} (he₀ : e₀.ArgsOk) (hname : e₀.filename = e.filename)
    (hlen : e₀.len = e.len) :
    let fs' := fs.crash (runCalls calls e fs).2 k j
    let images' := images ++ storedImages calls e fs
    (∃ m ∈ images', (initEntry e₀ fs' initEnvOk).Loads m (crc16Ccitt m 0) false) ∨
      (initEntry e₀ fs' initEnvOk).Loads e₀.addr e₀.crc false ∨
      ((initEntry e₀ fs' initEnvOk).Loads e₀.addr e₀.crc true ∧
        ∀ c, fs'.read e.filename = some c → c <+: markerBytes ∧ c.length < 2) ∨
      (e.isAuto = true ∧
        (∃ c m n₁ n₂ j', Survivor true e.len images' (some c) ∧ m ∈ images' ∧ m.length = e.len ∧
          fs'.read e.filename =
            some (writeAt c 0 ((m.take n₁ ++ (crcBytes (crc16Ccitt m 0)).take n₂).take j'))) ∧
        ∃ e' corrupt effs, initEntry e₀ fs' initEnvOk = .next e' corrupt effs ∧
          LoadsFile e₀ (fs'.read e.filename) e' ∧
          corrupt = decide (FileRejected e₀.len (fs'.read e.filename))) := by
  intro fs' images'
  have hs := runCalls_survivor calls e fs images h₀ k j
  rw [← hname] at hs ⊢
  generalize hr : fs'.read e₀.filename = r at hs
  cases hs with
  | absent => exact .inr (.inr (.inl ⟨initEntry_corrupt he₀ (by simp [hr]), by simp⟩))
  | marker hc =>
    rename_i c
    rcases markerBytes_prefix hc with rfl | ⟨htake, hlt⟩
    · exact .inr (.inl (initEntry_defaults he₀ hr (decodeFile_markerBytes _)))
    · refine .inr (.inr (.inl ⟨initEntry_corrupt he₀ fun c' hc' => ?_, fun c' hc' => ?_⟩))
      · rw [hr] at hc'
        cases hc'
        rw [htake]
        exact decodeFile_markerBytes_take hlt
      · cases hc'
        exact ⟨hc, hlt⟩
  | image hm hml =>
    exact .inl ⟨_, hm, initEntry_image he₀ hr
      (decodeFile_storedImage (hml.trans hlen.symm) (hlen ▸ he₀.1))⟩
  | torn n₁ n₂ j' hauto hc hm hml =>
    -- a torn rewrite is read as any other file
    obtain ⟨e', corrupt, effs, hnext⟩ := initEntry_isNext he₀ fs'
    obtain ⟨hl, hcorrupt, -⟩ := initEntry_next he₀ hnext
    exact .inr (.inr (.inr ⟨hauto, ⟨_, _, n₁, n₂, j', hauto ▸ hc, hm, hml, rfl⟩, e', corrupt, effs,
      hnext, by rw [← hr]; exact hl, by rw [← hr]; exact hcorrupt⟩))

/-- An auto-saved entry whose file holds the image of `[7]`: `CO_storageLinux_init` loads it,
    the memory becomes `[8]`, and a crash cuts the auto-save's rewrite after one byte. The next
    `CO_storageLinux_init` reports `DATA_CORRUPT`. -/
theorem crash_then_init_torn_autoSave :
    let e : StorageEntry := ⟨[0], 1, rfl, 2, coStorageAuto, "p", 0, none⟩
    let fs := Fs.single "p" (storedImage [7])
    let calls := [StorageCall.init initEnvOk, .write [8], .autoProcess false ⟨1, 2, 3⟩]
    let fs' := fs.crash (runCalls calls e fs).2 0 1
    let images' := [[7]] ++ storedImages calls e fs
    Survivor e.isAuto e.len [[7]] (fs.read e.filename) ∧ e.ArgsOk ∧
      (storageLinuxInit [e] fs' (fun _ => initEnvOk) 0).ret = .dataCorrupt ∧
      ((∃ m ∈ images', (initEntry e fs' initEnvOk).Loads m (crc16Ccitt m 0) false) ∨
        (initEntry e fs' initEnvOk).Loads e.addr e.crc false ∨
        ((initEntry e fs' initEnvOk).Loads e.addr e.crc true ∧
          ∀ c, fs'.read e.filename = some c → c <+: markerBytes ∧ c.length < 2) ∨
        (e.isAuto = true ∧
          (∃ c m n₁ n₂ j', Survivor true e.len images' (some c) ∧ m ∈ images' ∧
            m.length = e.len ∧ fs'.read e.filename =
              some (writeAt c 0 ((m.take n₁ ++ (crcBytes (crc16Ccitt m 0)).take n₂).take j'))) ∧
          ∃ e' corrupt effs, initEntry e fs' initEnvOk = .next e' corrupt effs ∧
            LoadsFile e (fs'.read e.filename) e' ∧
            corrupt = decide (FileRejected e.len (fs'.read e.filename)))) :=
  have h₀ : Survivor true 1 [[7]] (some (storedImage [7])) := .image (List.mem_singleton_self _) rfl
  ⟨h₀, by decide, by decide, crash_then_init _ (by exact h₀) 0 1 (by decide) rfl rfl⟩

/-- Two stores of `[7]` to path `"p"` on an empty file system, both returning `ODR_OK`, and
    a crash after the second one's `rename(<path>, <path>.old)`: the path is missing, the
    first save sits in `p.old`, and the next `CO_storageLinux_init` reports `DATA_CORRUPT`. -/
theorem storeLinux_crash_between_renames :
    let e : StorageEntry := ⟨[7], 1, rfl, 2, coStorageCmd ||| coStorageRestore, "p", 0, none⟩
    let env : StoreEnv := ⟨true, true, 1, 2, 3, true, true, true⟩
    let fs := Fs.empty.crash (runCalls [.store env, .store env] e Fs.empty).2 7 0
    (storeLinux e Fs.empty env).1 = .ok ∧ fs.read "p" = none ∧
      fs.read "p.old" = some (storedImage [7]) ∧
      (storageLinuxInit [e] fs (fun _ => initEnvOk) 0).ret = .dataCorrupt := by
  decide

end CANopenLinux
