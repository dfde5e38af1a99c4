import CANopenLinux.Spec.StorageEffects

/-!
# What `CO_storageLinux_init` loads

The spec's reading of a file, over its bytes: the defaults marker (`IsMarker`), or an image
followed by its CRC (`HoldsImage`). One spec lemma per step of the loop body (`loadEntry`,
`openAuto`, `initEntry`), the loop by induction over the entries still to go, and from it
what `CO_storageLinux_init` leaves for the whole table: every memory, the error mask and the
result.
-/

namespace CANopenLinux

/-- The file begins with an image: its first `len + 2` bytes are `m`, of `len` bytes, and
    the CRC of `m`. -/
def HoldsImage (len : Nat) (content m : List UInt8) : Prop :=
  m.length = len ∧ storedImage m <+: content

/-- The defaults marker as the spec reads it: exactly two bytes, the first `'-'`. -/
def IsMarker (content : List UInt8) : Prop := content.length = 2 ∧ content.head? = some 0x2D

instance (len : Nat) (content m : List UInt8) : Decidable (HoldsImage len content m) :=
  inferInstanceAs (Decidable (_ ∧ _))

instance (content : List UInt8) : Decidable (IsMarker content) :=
  inferInstanceAs (Decidable (_ ∧ _))

/-- A file begins with at most one image: its first `len` bytes. -/
theorem HoldsImage.eq_take {len : Nat} {content m : List UInt8} (h : HoldsImage len content m) :
    m = content.take len := by
  obtain ⟨hm, hp⟩ := h
  obtain ⟨rest, rfl⟩ := hp
  simp [storedImage, ← hm]

/-- `decodeFile` is the spec's reading of a file: the marker, else the image it begins
    with, else corrupt. -/
theorem decodeFile_eq {len : Nat} (hlen : 0 < len) (content : List UInt8) :
    decodeFile len content =
      if IsMarker content then .defaults
      else if HoldsImage len content (content.take len) then
        .image (content.take len) (crc16Ccitt (content.take len) 0)
      else .corrupt := by
  have hmark : ((content.take (len + 2)).length = 2 ∧ (content.take (len + 2))[0]? = some 0x2D) ↔
      IsMarker content := by
    simp only [List.length_take, List.getElem?_take, IsMarker, List.head?_eq_getElem?,
      if_pos (Nat.succ_pos _)]
    constructor <;> rintro ⟨h₁, h₂⟩ <;> exact ⟨by omega, h₂⟩
  unfold decodeFile
  dsimp only
  rw [if_congr hmark rfl rfl]
  congr 1
  by_cases hL : len + 2 ≤ content.length
  · -- the file has the `len + 2` bytes: the memory, then two bytes `a`, `b`
    have h2 : 2 ≤ (content.drop len).length := by simp only [List.length_drop]; omega
    obtain ⟨a, b, rest, hdrop⟩ : ∃ a b rest, content.drop len = a :: b :: rest := by
      rcases hd : content.drop len with _ | ⟨a, _ | ⟨b, rest⟩⟩ <;> rw [hd] at h2
      · simp at h2
      · simp at h2
      · exact ⟨a, b, rest, rfl⟩
    have hc : content = content.take len ++ a :: b :: rest := by
      rw [← hdrop, List.take_append_drop]
    have hp : (content.take len).length = len := by simp only [List.length_take]; omega
    generalize content.take len = p at hc hp
    subst hc hp
    have hbuf : (p ++ a :: b :: rest).take (p.length + 2) = p ++ [a, b] := by
      simp [List.take_append_eq_append_take]
    have himage : HoldsImage p.length (p ++ a :: b :: rest) p ↔
        crc16Ccitt p 0 = crcOfBytes a b := by
      rw [eq_comm, ← crcBytes_eq_iff]
      simp only [HoldsImage, true_and, storedImage, List.prefix_append_right_inj, crcBytes,
        List.cons_prefix_cons, List.nil_prefix, and_true, List.cons.injEq]
    have ha : (p ++ [a, b])[p.length]? = some a := by
      rw [List.getElem?_append_right (le_refl _)]; simp
    have hb : (p ++ [a, b])[p.length + 1]? = some b := by
      rw [List.getElem?_append_right (by omega)]; simp
    rw [hbuf, ha, hb, List.take_left' rfl]
    simp [himage]
  · -- too short for an image
    have hshort : ¬(content.take (len + 2)).length = len + 2 := by
      simp only [List.length_take]; omega
    rw [if_neg (fun h => hshort h.2), if_neg]
    rintro ⟨hm, hp⟩
    have := hp.length_le
    simp only [storedImage_length, hm] at this
    omega

/-- The two-byte marker is never an image of a non-empty memory. -/
theorem IsMarker.not_holdsImage {len : Nat} {content m : List UInt8} (hlen : 0 < len)
    (h : IsMarker content) : ¬HoldsImage len content m := by
  rintro ⟨hm, hp⟩
  have := hp.length_le
  rw [storedImage_length, hm, h.1] at this
  omega

theorem exists_holdsImage_iff {len : Nat} {content : List UInt8} :
    (∃ m, HoldsImage len content m) ↔ HoldsImage len content (content.take len) :=
  ⟨fun ⟨_, h⟩ => h.eq_take ▸ h, fun h => ⟨_, h⟩⟩

/-- The spec's rejected file: absent, or neither the marker nor an image. -/
def FileRejected (len : Nat) : Option (List UInt8) → Prop
  | none => True
  | some c => ¬IsMarker c ∧ ¬∃ m, HoldsImage len c m

instance (len : Nat) : DecidablePred (FileRejected len)
  | none => isTrue trivial
  | some c => decidable_of_iff (¬IsMarker c ∧ ¬HoldsImage len c (c.take len))
      (by rw [← exists_holdsImage_iff]; rfl)

/-- The spec's law for an entry whose file holds `content` (`none` if it is absent): the
    memory and CRC become the image the file begins with, and stay as they are otherwise,
    the defaults marker included. -/
def LoadsFile (e : StorageEntry) (content : Option (List UInt8)) (e' : StorageEntry) : Prop :=
  (∀ c m, content = some c → HoldsImage e.len c m → e'.addr = m ∧ e'.crc = crc16Ccitt m 0) ∧
  ((¬∃ c m, content = some c ∧ HoldsImage e.len c m) → e'.addr = e.addr ∧ e'.crc = e.crc) ∧
  (∀ c, content = some c → IsMarker c → e'.addr = e.addr ∧ e'.crc = e.crc)

/-- The file `CO_storageLinux_init` reads for an entry: its bytes when `fopen(<path>, "r")`
    opens it, and none when it is absent or cannot be opened, which the code treats alike. -/
def openedFile (fs : Fs) (env : InitEnv) (e : StorageEntry) : Option (List UInt8) :=
  if env.openOk then fs.read e.filename else none

section step

variable {e e' : StorageEntry} {fs : Fs}

/-- An entry left as it is keeps the law for an absent file, a marker, or a rejected one. -/
private theorem loadsFile_self {content : Option (List UInt8)}
    (h : ¬∃ c m, content = some c ∧ HoldsImage e.len c m) :
    LoadsFile e content e :=
  ⟨fun c m hc hm => absurd ⟨c, m, hc, hm⟩ h, fun _ => ⟨rfl, rfl⟩, fun _ _ _ => ⟨rfl, rfl⟩⟩

/-- Reading one file: the image it begins with is loaded, and the file counts as corrupt
    exactly when the spec rejects it. -/
theorem loadEntry_spec (he : 0 < e.len) (c : List UInt8) :
    LoadsFile e (some c) (loadEntry e c).1 ∧
      (loadEntry e c).2.1 = decide (FileRejected e.len (some c)) := by
  unfold loadEntry
  split <;> rename_i h <;> rw [decodeFile_eq he] at h <;> split_ifs at h with hm hi <;> cases h
  · -- the marker: nothing is loaded, and the file is not rejected
    have hno : ¬∃ m, HoldsImage e.len c m := fun ⟨_, hi⟩ => hm.not_holdsImage he hi
    exact ⟨loadsFile_self fun ⟨_, m, hc, hi⟩ => hno ⟨m, Option.some.inj hc ▸ hi⟩,
      by simp [FileRejected, hm]⟩
  · -- an image: it is loaded with its CRC
    refine ⟨⟨fun c' m hc hi' => ?_, fun hno => absurd ⟨c, _, rfl, hi⟩ hno,
      fun c' hc hm' => absurd (Option.some.inj hc ▸ hm') hm⟩, by simp [FileRejected, hm, exists_holdsImage_iff, hi]⟩
    cases hc
    rw [hi'.eq_take]
    exact ⟨rfl, rfl⟩
  · -- anything else: nothing is loaded, and the file is rejected
    exact ⟨loadsFile_self fun ⟨_, m, hc, hi'⟩ => hi (Option.some.inj hc ▸ hi'.eq_take ▸ hi'),
      by simp [FileRejected, hm, exists_holdsImage_iff, hi]⟩

/-- The law reads only the memory and the CRC of the entry left behind. -/
theorem LoadsFile.of_eq {content : Option (List UInt8)} {e₁ : StorageEntry}
    (h : LoadsFile e content e₁) (ha : e'.addr = e₁.addr) (hc : e'.crc = e₁.crc) :
    LoadsFile e content e' := by
  simpa only [LoadsFile, ha, hc] using h

/-- Opening the auto-save handle changes neither the memory, the CRC nor the verdict on the
    file, and touches no path but the entry's own. -/
private theorem openAuto_next {env : InitEnv} {corrupt keep corrupt' : Bool}
    {effs : List FsEffect} (h : openAuto e fs env corrupt keep = .next e' corrupt' effs) :
    e'.addr = e.addr ∧ e'.crc = e.crc ∧ corrupt' = corrupt ∧
      ∀ q ≠ e.filename, (fs.applyAll effs).read q = fs.read q := by
  unfold openAuto at h
  split_ifs at h <;> cases h
  · exact ⟨rfl, rfl, rfl, fun _ _ => rfl⟩
  · exact ⟨rfl, rfl, rfl, fun _ _ => rfl⟩
  · exact ⟨rfl, rfl, rfl, fun _ hq => Fs.read_openWrite_ne fs hq⟩

/-- One step of the init loop that goes on: the entry keeps the law for the file it opened,
    the file counts as corrupt exactly when the spec rejects it, and no other path
    changes. -/
theorem initEntry_next {env : InitEnv} (he : e.ArgsOk)
    {corrupt : Bool} {effs : List FsEffect} (h : initEntry e fs env = .next e' corrupt effs) :
    LoadsFile e (openedFile fs env e) e' ∧
      corrupt = decide (FileRejected e.len (openedFile fs env e)) ∧
      ∀ q ≠ e.filename, (fs.applyAll effs).read q = fs.read q := by
  obtain ⟨h₁, h₂, h₃⟩ := he
  -- an absent file and one that does not open: nothing is loaded, and the file is rejected
  have hnone (hf : openedFile fs env e = none) (h : openAuto e fs env true false = .next e' corrupt effs) :
      LoadsFile e (openedFile fs env e) e' ∧
        corrupt = decide (FileRejected e.len (openedFile fs env e)) ∧
        ∀ q ≠ e.filename, (fs.applyAll effs).read q = fs.read q := by
    obtain ⟨ha, hc, rfl, hq⟩ := openAuto_next h
    rw [hf]
    exact ⟨(loadsFile_self fun ⟨_, _, hc, _⟩ => nomatch hc).of_eq ha hc, rfl, hq⟩
  unfold initEntry at h
  rw [if_neg (by simp only [h₃, or_false]; omega)] at h
  cases hr : fs.read e.filename with
  | none =>
    rw [hr] at h
    exact hnone (by simp [openedFile, hr]) h
  | some c =>
    rw [hr] at h
    dsimp only at h
    by_cases hopen : env.openOk = false
    · rw [if_pos (by simp [hopen])] at h
      exact hnone (by simp [openedFile, hopen]) h
    have ho : openedFile fs env e = some c := by simp [openedFile, hopen, hr]
    rw [ho]
    simp only [hopen, Bool.not_true, Bool.false_eq_true, ↓reduceIte] at h
    by_cases hbuf : env.bufAlloc = true
    · rw [if_neg (by simp [hbuf])] at h
      obtain ⟨ha, hc, rfl, hq⟩ := openAuto_next h
      obtain ⟨hl, hcorrupt⟩ := loadEntry_spec h₁ c
      refine ⟨hl.of_eq ha hc, hcorrupt, fun q hne => hq q ?_⟩
      rwa [(loadEntry_sameFile e c).1]
    · rw [if_pos (by simpa using hbuf)] at h
      cases h

/-- A step of the init loop that stops returns an illegal argument or a failed `malloc`. -/
theorem initEntry_abort {env : InitEnv} {r : ReturnError} {effs : List FsEffect}
    (h : initEntry e fs env = .abort r e' effs) : r = .illegalArgument ∨ r = .outOfMemory := by
  have hauto : ∀ e₁ c k, openAuto e₁ fs env c k = .abort r e' effs → r = .illegalArgument := by
    intro e₁ c k h
    unfold openAuto at h
    split_ifs at h
    cases h
    rfl
  unfold initEntry at h
  split at h
  · cases h
    exact .inl rfl
  split at h
  · split at h
    · exact .inl (hauto _ _ _ h)
    split at h
    · cases h
      exact .inr rfl
    · exact .inl (hauto _ _ _ h)
  · exact .inl (hauto _ _ _ h)

end step

/-! ## The loop -/

/-- An entry's error bit is never zero: the shift is at most 31. -/
theorem StorageEntry.errorBit_ne_zero (e : StorageEntry) : e.errorBit ≠ 0 := by
  have h : ∀ k : Fin 32, (1 : UInt32) <<< k.val.toUInt32 ≠ 0 := by decide
  exact h ⟨min e.subIndexOD 31, by omega⟩

/-- The OR into `acc` of the error bits of the entries that `p` picks by their index, the
    first of them at index `i`. -/
def errorMaskFrom (p : Nat → StorageEntry → Bool) : Nat → UInt32 → List StorageEntry → UInt32
  | _, acc, [] => acc
  | i, acc, e :: rest => errorMaskFrom p (i + 1) (if p i e then acc ||| e.errorBit else acc) rest

/-- The OR of the error bits of the entries that `p` picks. -/
def errorMask (p : Nat → StorageEntry → Bool) (entries : List StorageEntry) : UInt32 :=
  errorMaskFrom p 0 0 entries

/-- The mask is non-zero exactly when it started so or some entry is picked. -/
theorem errorMaskFrom_ne_zero (p : Nat → StorageEntry → Bool) :
    ∀ (i : Nat) (acc : UInt32) (entries : List StorageEntry),
      errorMaskFrom p i acc entries ≠ 0 ↔ acc ≠ 0 ∨ (entries.enumFrom i).any fun x => p x.1 x.2
  | i, acc, [] => by simp [errorMaskFrom]
  | i, acc, e :: rest => by
    have ih := errorMaskFrom_ne_zero p (i + 1) (if p i e then acc ||| e.errorBit else acc) rest
    simp only [errorMaskFrom, List.enumFrom_cons, List.any_cons] at ih ⊢
    rw [ih]
    cases p i e
    · simp
    · simp [UInt32.or_eq_zero_iff, e.errorBit_ne_zero]

/-- The entries whose file `CO_storageLinux_init` rejects in `fs`, the one at index `i`
    opened with what `envs i` answers. -/
def rejectedIn (fs : Fs) (envs : Nat → InitEnv) (i : Nat) (e : StorageEntry) : Bool :=
  decide (FileRejected e.len (openedFile fs (envs i) e))

section loop

variable (envs : Nat → InitEnv) (fs₀ : Fs)

/-- The loop of `CO_storageLinux_init` from any point on, where the files still to be read are
    those of `fs₀`: unless it aborts, it loads each remaining entry from the file it opened,
    ORs in the bits of the rejected ones, and turns the result to `DATA_CORRUPT` if there is
    one. -/
private theorem initLoop_spec :
    ∀ (rest : List StorageEntry) (i : Nat) (ret : ReturnError) (err : UInt32)
      (done : List StorageEntry) (fs : Fs) (effs : List FsEffect),
      (∀ e ∈ rest, e.ArgsOk) → (rest.map (·.filename)).Nodup →
      (∀ e ∈ rest, fs.read e.filename = fs₀.read e.filename) →
      let r := initLoop envs i ret err done fs effs rest
      (r.ret = .no ∨ r.ret = .dataCorrupt) →
      ∃ loaded, r.entries = done ++ loaded ∧
        List.Forall₂ (fun x e' => LoadsFile x.2 (openedFile fs₀ (envs x.1) x.2) e')
          (rest.enumFrom i) loaded ∧
        r.storageInitError = errorMaskFrom (rejectedIn fs₀ envs) i err rest ∧
        r.ret = if (rest.enumFrom i).any (fun x => rejectedIn fs₀ envs x.1 x.2) then .dataCorrupt
          else ret
  | [], _, _, _, done, _, _, _, _, _, _ => ⟨[], by simp [initLoop, errorMaskFrom]⟩
  | e :: rest, i, ret, err, done, fs, effs, hargs, hnames, hfs, hret => by
    rw [List.map_cons, List.nodup_cons, List.mem_map] at hnames
    cases hstep : initEntry e fs (envs i) with
    | abort r e' effs' =>
      simp only [initLoop, hstep] at hret
      rcases initEntry_abort hstep with rfl | rfl <;> simp at hret
    | next e' corrupt effs' =>
      simp only [initLoop, hstep] at hret ⊢
      obtain ⟨hload, hcorrupt, hframe⟩ := initEntry_next (hargs e (List.mem_cons_self _ _)) hstep
      have hopened : openedFile fs (envs i) e = openedFile fs₀ (envs i) e := by
        simp only [openedFile, hfs e (List.mem_cons_self _ _)]
      rw [hopened] at hload hcorrupt
      change corrupt = rejectedIn fs₀ envs i e at hcorrupt
      subst hcorrupt
      have hfs' : ∀ e₂ ∈ rest, (fs.applyAll effs').read e₂.filename = fs₀.read e₂.filename :=
        fun e₂ h₂ => by
          rw [hframe _ fun heq => hnames.1 ⟨e₂, h₂, heq⟩]
          exact hfs e₂ (List.mem_cons_of_mem _ h₂)
      obtain ⟨loaded, hentries, hall, hmask, hret'⟩ := initLoop_spec rest _ _ _ _ _ _
        (fun e₂ h₂ => hargs e₂ (List.mem_cons_of_mem _ h₂)) hnames.2 hfs' hret
      refine ⟨e' :: loaded, by rw [hentries, List.append_assoc]; rfl,
        List.enumFrom_cons .. ▸ .cons hload hall, hmask, ?_⟩
      rw [hret', List.enumFrom_cons, List.any_cons]
      cases rejectedIn fs₀ envs i e <;>
        cases (rest.enumFrom (i + 1)).any (fun x => rejectedIn fs₀ envs x.1 x.2) <;> rfl

/-- The loop of `CO_storageLinux_init` from any point on, entered with `CO_ERROR_NO` or
    `CO_ERROR_DATA_CORRUPT`, returns another error only where its body aborts on an entry:
    `storageInitError` is then that entry's index, and the entry keeps its place in the
    table. -/
theorem initLoop_abort : ∀ (rest : List StorageEntry) (i : Nat) (ret : ReturnError) (err : UInt32)
      (done : List StorageEntry) (fs : Fs) (effs : List FsEffect),
      (ret = .no ∨ ret = .dataCorrupt) →
      let r := initLoop envs i ret err done fs effs rest
      ¬(r.ret = .no ∨ r.ret = .dataCorrupt) →
      ∃ k, ∃ hk : k < rest.length, r.storageInitError = (i + k).toUInt32 ∧
        ∃ fs' e' effs', initEntry rest[k] fs' (envs (i + k)) = .abort r.ret e' effs' ∧
          r.entries[done.length + k]? = some e'
  | [], _, _, _, _, _, _, hret, hr => absurd hret hr
  | e :: rest, i, ret, err, done, fs, effs, hret, hr => by
    cases hstep : initEntry e fs (envs i) with
    | abort r e' effs' =>
      simp only [initLoop, hstep] at hr ⊢
      exact ⟨0, by simp, rfl, fs, e', effs', hstep, by
        rw [Nat.add_zero, List.getElem?_append_right (Nat.le_refl _), Nat.sub_self, List.getElem?_cons_zero]⟩
    | next e' corrupt effs' =>
      simp only [initLoop, hstep] at hr ⊢
      have hret' : (if corrupt then .dataCorrupt else ret) = .no ∨
          (if corrupt then .dataCorrupt else ret) = .dataCorrupt := by
        cases corrupt
        · exact hret
        · exact .inr rfl
      obtain ⟨k, hk, herr, fs', e'', effs'', habort, hentry⟩ :=
        initLoop_abort rest (i + 1) _ _ _ _ _ hret' hr
      refine ⟨k + 1, by simpa using hk, by rw [herr, Nat.add_right_comm, Nat.add_assoc], fs', e'',
        effs'', by rwa [Nat.add_right_comm, Nat.add_assoc] at habort, ?_⟩
      rwa [List.length_append, List.length_singleton, Nat.add_right_comm, Nat.add_assoc] at hentry

end loop

/-- `CO_storageLinux_init` over entries with valid arguments and distinct file names. When it
    returns `CO_ERROR_NO` or `CO_ERROR_DATA_CORRUPT`, it has loaded each entry from the file
    `fopen(<path>, "r")` opened, a file that does not open counting as absent;
    `storageInitError` holds the bits of exactly the rejected entries, and the result is
    `DATA_CORRUPT` exactly when that mask is not zero. -/
theorem storageLinuxInit_loads (entries : List StorageEntry) (fs : Fs) (envs : Nat → InitEnv)
    (storageInitError : UInt32) (hargs : ∀ e ∈ entries, e.ArgsOk)
    (hnames : (entries.map (·.filename)).Nodup) :
    let r := storageLinuxInit entries fs envs storageInitError
    (r.ret = .no ∨ r.ret = .dataCorrupt) →
    List.Forall₂ (fun x e' => LoadsFile x.2 (openedFile fs (envs x.1) x.2) e') entries.enum
        r.entries ∧
      r.storageInitError = errorMask (rejectedIn fs envs) entries ∧
      (r.ret = .dataCorrupt ↔ r.storageInitError ≠ 0) := by
  intro r hret
  cases entries with
  | nil => simp [r, storageLinuxInit] at hret
  | cons e rest =>
    have hr : r = initLoop envs 0 .no 0 [] fs [] (e :: rest) := rfl
    rw [hr] at hret ⊢
    obtain ⟨loaded, hentries, hall, hmask, hret'⟩ :=
      initLoop_spec envs fs _ 0 .no 0 [] fs [] hargs hnames (fun _ _ => rfl) hret
    refine ⟨hentries ▸ hall, hmask, ?_⟩
    rw [hret', hmask, errorMaskFrom_ne_zero]
    cases ((e :: rest).enumFrom 0).any (fun x => rejectedIn fs envs x.1 x.2) <;> simp

/-- Two entries, `"a"` holding the image of `[5]` and `"b"` absent: the first is loaded, the
    second keeps its memory and sets bit 3, and the result is `DATA_CORRUPT`. -/
theorem storageLinuxInit_loads_image_and_absent :
    let entries : List StorageEntry :=
      [⟨[0], 1, rfl, 2, 0, "a", 0, none⟩, ⟨[0], 1, rfl, 3, 0, "b", 0, none⟩]
    let fs := Fs.single "a" (storedImage [5])
    let r := storageLinuxInit entries fs (fun _ => initEnvOk) 0
    (∀ e ∈ entries, e.ArgsOk) ∧ (entries.map (·.filename)).Nodup ∧
      (r.ret = .no ∨ r.ret = .dataCorrupt) ∧ r.entries.map (·.addr) = [[5], [0]] ∧
      r.storageInitError = 8 ∧
    (List.Forall₂ (fun x e' => LoadsFile x.2 (openedFile fs ((fun _ => initEnvOk) x.1) x.2) e')
        entries.enum r.entries ∧
      r.storageInitError = errorMask (rejectedIn fs fun _ => initEnvOk) entries ∧
      (r.ret = .dataCorrupt ↔ r.storageInitError ≠ 0)) :=
  have hargs : ∀ e ∈ [(⟨[0], 1, rfl, 2, 0, "a", 0, none⟩ : StorageEntry),
      ⟨[0], 1, rfl, 3, 0, "b", 0, none⟩], e.ArgsOk := by decide
  have hnames : ([(⟨[0], 1, rfl, 2, 0, "a", 0, none⟩ : StorageEntry),
      ⟨[0], 1, rfl, 3, 0, "b", 0, none⟩].map (·.filename)).Nodup := by decide
  have hret : (storageLinuxInit [⟨[0], 1, rfl, 2, 0, "a", 0, none⟩,
      ⟨[0], 1, rfl, 3, 0, "b", 0, none⟩] (Fs.single "a" (storedImage [5])) (fun _ => initEnvOk)
      0).ret = .dataCorrupt := by decide
  ⟨hargs, hnames, .inr hret, by decide, by decide,
    storageLinuxInit_loads _ _ _ _ hargs hnames (.inr hret)⟩

/-- Entry `"a"` holds the image of `[5]`, but `fopen("a", "r")` fails: `CO_storageLinux_init`
    keeps the memory `[0]`, sets the entry's bit 2 and returns `DATA_CORRUPT`. -/
theorem storageLinuxInit_unopenable_image :
    let e : StorageEntry := ⟨[0], 1, rfl, 2, 0, "a", 0, none⟩
    let fs := Fs.single "a" (storedImage [5])
    let r := storageLinuxInit [e] fs (fun _ => ⟨false, true, true⟩) 0
    e.ArgsOk ∧ fs.read e.filename = some (storedImage [5]) ∧
      HoldsImage e.len (storedImage [5]) [5] ∧
      r.ret = .dataCorrupt ∧ r.entries.map (·.addr) = [[0]] ∧ r.storageInitError = 4 := by
  decide

end CANopenLinux
