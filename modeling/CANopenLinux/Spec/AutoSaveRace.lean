import CANopenLinux.Spec.StorageEffects

/-!
# Auto-save against the real-time thread

Without a write of the real-time thread in between, the three steps of a save do what
`autoSave` does at once (`SaveState.run_save_eq_autoSave`). The CRC is taken outside
`CO_LOCK_OD`, though, and the data is copied later, under it. A write of the real-time
thread in between makes the save write the new data with the CRC of the old, and report no
error; if the memory then returns to the old value, the next tick sees a matching CRC and
leaves the file as it is (`autoSave_race_corrupts`).

In runs where the real-time thread does not write while a CRC is pending (`QuietRun`), the
phase stays consistent with the memory (`SaveState.Consistent.run`), and every save that
reports no error caches the CRC of the data it copied and writes the image of that data
(`SaveState.quietRun_save_writes_image`).
-/

namespace CANopenLinux

namespace SaveState

variable (ino : Nat)

/-- The save's view of the memory is still right: a pending CRC is that of the memory, and
    copied data of full length has the pending CRC. -/
def Consistent (s : SaveState) : Prop :=
  match s.phase with
  | .start => True
  | .crcTaken crc => crc = crc16Ccitt s.e.addr 0
  | .dataCopied crc data =>
    data.length ≤ s.e.len ∧ (data.length = s.e.len → crc = crc16Ccitt data 0)

/-- The event is not a write of the real-time thread between the save's CRC and its copy of
    the data. -/
def Quiet (s : SaveState) : SaveEvent → Prop
  | .rtWrite _ => ∀ crc, s.phase ≠ .crcTaken crc
  | .save _ => True

/-- Every event of the run is quiet where it happens. -/
def QuietRun : SaveState → List SaveEvent → Prop
  | _, [] => True
  | s, ev :: evs => s.Quiet ev ∧ QuietRun (s.step ino ev) evs

variable {ino}

/-- A quiet step keeps the save consistent. -/
theorem Consistent.step {s : SaveState} (hs : s.Consistent) {ev : SaveEvent} (hq : s.Quiet ev) :
    (s.step ino ev).Consistent := by
  rcases s with ⟨e, fs, phase, err⟩
  cases ev with
  | rtWrite bytes =>
    simp only [SaveState.step]
    split
    · cases phase with
      | start => trivial
      | crcTaken crc => exact absurd rfl (hq crc)
      | dataCopied crc data => exact hs
    · exact hs
  | save env =>
    cases phase with
    | start =>
      simp only [SaveState.step]
      split
      · exact hs
      · rfl
    | crcTaken crc =>
      have hs : crc = crc16Ccitt e.addr 0 := hs
      simp only [SaveState.step]
      refine ⟨by simp only [List.length_take, e.addr_length]; omega, fun hlen => ?_⟩
      rw [List.take_of_length_le (by simp [e.addr_length] at hlen ⊢; omega)]
      exact hs
    | dataCopied crc data =>
      simp only [SaveState.step]
      split <;> trivial

/-- A quiet run keeps the save consistent. -/
theorem Consistent.run : ∀ {s : SaveState} (evs : List SaveEvent), s.Consistent →
    QuietRun ino s evs → (s.run ino evs).Consistent
  | _, [], hs, _ => hs
  | _, _ :: evs, hs, ⟨hq, hqs⟩ => Consistent.run evs (hs.step hq) hqs

/-- Without a write of the real-time thread in between, the three steps of a save are
    `autoSave`. -/
theorem run_save_eq_autoSave (s : SaveState) (hs : s.phase = .start) (env : AutoEnv) :
    s.run ino [.save env, .save env, .save env] =
      ⟨(autoSave s.e ino env).2.1, s.fs.applyAll (autoSave s.e ino env).2.2, .start,
        s.storageError ||| (autoSave s.e ino env).1⟩ := by
  rcases s with ⟨e, fs, phase, err⟩
  cases hs
  unfold autoSave
  by_cases hcrc : crc16Ccitt e.addr 0 = e.crc
  · simp [run, SaveState.step, hcrc]
  have hlen : (e.addr.take (min env.dataWritten e.len)).length = min env.dataWritten e.len := by
    simp [e.addr_length]
  simp only [run, List.foldl, SaveState.step, if_neg hcrc, hlen]
  by_cases hcnt : min env.dataWritten e.len + min env.crcWritten 2 = e.len + 2
  · simp only [if_pos hcnt, UInt32.or_zero]
  · simp only [if_neg hcnt]

/-- From a consistent state with the data copied, a last step that reports no error caches
    the CRC of the copied data and writes its image, as far as it reaches the file. -/
theorem Consistent.save_ok {s : SaveState} (hs : s.Consistent) {crc : UInt16}
    {data : List UInt8} (hp : s.phase = .dataCopied crc data) {env : AutoEnv}
    (hok : data.length + min env.crcWritten 2 = s.e.len + 2) :
    (s.step ino (.save env)).e.crc = crc16Ccitt data 0 ∧
      (s.step ino (.save env)).fs =
        s.fs.applyAll [.write ino 0 ((storedImage data).take env.landed)] := by
  rcases s with ⟨e, fs, phase, err⟩
  cases hp
  obtain ⟨hle, hcrc⟩ := hs
  dsimp only at hok hle
  have hlen : data.length = e.len := by omega
  cases hcrc hlen
  simp only [SaveState.step, show min env.crcWritten 2 = 2 by omega, hlen, ↓reduceIte,
    List.take_of_length_le (crcBytes_length _).le]
  exact ⟨trivial, rfl⟩

/-- In a quiet run from the start of a save, every save that reports no error caches the CRC
    of the data it copied and writes the image of that data. -/
theorem quietRun_save_writes_image {s₀ : SaveState} (h₀ : s₀.phase = .start)
    {evs : List SaveEvent} (hq : QuietRun ino s₀ evs) {crc : UInt16} {data : List UInt8}
    (hp : (s₀.run ino evs).phase = .dataCopied crc data) {env : AutoEnv}
    (hok : data.length + min env.crcWritten 2 = (s₀.run ino evs).e.len + 2) :
    let s := s₀.run ino evs
    (s.step ino (.save env)).e.crc = crc16Ccitt data 0 ∧
      (s.step ino (.save env)).fs =
        s.fs.applyAll [.write ino 0 ((storedImage data).take env.landed)] :=
  (Consistent.run evs (by simp only [Consistent, h₀]) hq).save_ok hp hok

end SaveState

set_option maxRecDepth 10000 in
/-- A one-byte auto-saved entry whose file holds the image of `[1]`. The real-time thread
    writes `[2]`; the save takes the CRC of `[2]`; the real-time thread writes `[3]`; the save
    copies `[3]` and writes it with the CRC of `[2]`, and reports no error. The next
    `CO_storageLinux_init` rejects the file. If the memory goes back to `[2]` first, the next
    tick finds the cached CRC equal and leaves the file as it is. -/
theorem autoSave_race_corrupts :
    let e : StorageEntry := ⟨[1], 1, rfl, 2, coStorageAuto, "p", 0, none⟩
    let fs := Fs.single "p" (storedImage [1])
    let r := runCalls [.init initEnvOk] e fs
    let s₀ : SaveState := ⟨r.1, fs.applyAll r.2, .start, 0⟩
    let ok : AutoEnv := ⟨1, 2, 3⟩
    let s := s₀.run 0 [.rtWrite [2], .save ok, .rtWrite [3], .save ok, .save ok]
    let s' := s.run 0 [.rtWrite [2], .save ok]
    r.1.fp = some 0 ∧ s.storageError = 0 ∧ s.phase = .start ∧
      s.fs.read "p" = some ([3] ++ crcBytes (crc16Ccitt [2] 0)) ∧
      s.e.crc = crc16Ccitt [2] 0 ∧ crc16Ccitt [3] 0 ≠ crc16Ccitt [2] 0 ∧
      (storageLinuxInit [e] s.fs (fun _ => initEnvOk) 0).ret = .dataCorrupt ∧
      s'.storageError = 0 ∧ s'.phase = .start ∧ s'.fs.read "p" = s.fs.read "p" := by
  decide

end CANopenLinux
