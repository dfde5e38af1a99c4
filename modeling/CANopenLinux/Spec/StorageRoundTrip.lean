import CANopenLinux.Spec.StorageEffects

/-!
# Store, restore, and the next start

`storeLinux` and `CO_storageLinux_init` agree on one file layout: the memory, then its CRC in
the machine's byte order. `restoreLinux` writes the two-byte marker `"-\n"`, and no image of a
non-empty memory has two bytes, so neither is taken for the other.

`storeLinux` only returns `ODR_OK` once it has read the whole temporary file back. So the next
start loads exactly what was stored (`storeLinux_roundTrip`). `restoreLinux` checks neither
`fputs` nor `fclose`. It returns `ODR_OK` even when the marker never reached the file, and the
next start then reports the entry corrupt (`restoreLinux_marker_short`,
`restoreLinux_ok_marker_lost`). When the marker did reach the file, the next start keeps the
memory as it is (`restoreLinux_roundTrip`).
-/

namespace CANopenLinux

section roundTrip

variable {e e₀ : StorageEntry} {fs : Fs}

/-- A store that returns `ODR_OK` leaves the memory and its CRC at the entry's path. The next
    `CO_storageLinux_init` of an entry with that path and length loads exactly that memory
    and CRC, and reports no error. -/
theorem storeLinux_roundTrip {env : StoreEnv} (h : (storeLinux e fs env).1 = .ok)
    (he₀ : e₀.ArgsOk) (hname : e₀.filename = e.filename) (hlen : e₀.len = e.len)
    (storageInitError : UInt32) :
    (fs.applyAll (storeLinux e fs env).2).read e.filename = some (storedImage e.addr) ∧
      ∃ e' effs, storageLinuxInit [e₀] (fs.applyAll (storeLinux e fs env).2)
          (fun _ => initEnvOk) storageInitError = ⟨.no, 0, [e'], effs⟩ ∧
        e'.addr = e.addr ∧ e'.crc = crc16Ccitt e.addr 0 := by
  have hr : (fs.applyAll (storeLinux e fs env).2).read e.filename = some (storedImage e.addr) := by
    rw [storeLinux_ok h, read_storeEffects]
  have hd := decodeFile_storedImage (e.addr_length.trans hlen.symm) (hlen ▸ he₀.1)
  exact ⟨hr, storageLinuxInit_single (initEntry_image he₀ (hname ▸ hr) hd) storageInitError⟩

/-- A restore that returns `ODR_OK`, and whose marker reached the file, makes the next
    `CO_storageLinux_init` keep the memory and CRC as they are and report no error. -/
theorem restoreLinux_roundTrip {env : RestoreEnv} (h : (restoreLinux e fs env).1 = .ok)
    (hl : 2 ≤ env.landed) (he₀ : e₀.ArgsOk) (hname : e₀.filename = e.filename)
    (storageInitError : UInt32) :
    ∃ e' effs, storageLinuxInit [e₀] (fs.applyAll (restoreLinux e fs env).2.2)
        (fun _ => initEnvOk) storageInitError = ⟨.no, 0, [e'], effs⟩ ∧
      e'.addr = e₀.addr ∧ e'.crc = e₀.crc := by
  have hr : (fs.applyAll (restoreLinux e fs env).2.2).read e₀.filename = some markerBytes := by
    rw [restoreLinux_ok h, hname, read_restoreEffects,
      List.take_of_length_le (by simpa [markerBytes] using hl)]
  exact storageLinuxInit_single (initEntry_defaults he₀ hr (decodeFile_markerBytes _))
    storageInitError

/-- A restore that returns `ODR_OK` although fewer than two bytes of the marker reached the
    file makes the next `CO_storageLinux_init` report `DATA_CORRUPT`, with the entry's bit. -/
theorem restoreLinux_marker_short {env : RestoreEnv} (h : (restoreLinux e fs env).1 = .ok)
    (hl : env.landed < 2) (he₀ : e₀.ArgsOk) (hname : e₀.filename = e.filename)
    (storageInitError : UInt32) :
    ∃ e' effs, storageLinuxInit [e₀] (fs.applyAll (restoreLinux e fs env).2.2)
        (fun _ => initEnvOk) storageInitError = ⟨.dataCorrupt, e₀.errorBit, [e'], effs⟩ ∧
      e'.addr = e₀.addr ∧ e'.crc = e₀.crc := by
  have hr : (fs.applyAll (restoreLinux e fs env).2.2).read e₀.filename =
      some (markerBytes.take env.landed) := by
    rw [restoreLinux_ok h, hname, read_restoreEffects]
  refine storageLinuxInit_single (initEntry_corrupt he₀ fun c hc => ?_) storageInitError
  rw [hr] at hc
  cases hc
  exact decodeFile_markerBytes_take hl

end roundTrip

/-- No byte of the marker reaches the file of a one-byte entry. -/
theorem restoreLinux_marker_short_nothing_landed :
    let e : StorageEntry := ⟨[7], 1, rfl, 2, coStorageCmd ||| coStorageRestore, "p", 0, none⟩
    let fs := Fs.single "p" (storedImage [7])
    let env : RestoreEnv := ⟨true, true, 0⟩
    (restoreLinux e fs env).1 = .ok ∧ env.landed < 2 ∧ e.ArgsOk ∧
      ∃ e' effs, storageLinuxInit [e] (fs.applyAll (restoreLinux e fs env).2.2)
          (fun _ => initEnvOk) 0 = ⟨.dataCorrupt, e.errorBit, [e'], effs⟩ ∧
        e'.addr = e.addr ∧ e'.crc = e.crc :=
  ⟨by decide, by decide, by decide,
    restoreLinux_marker_short (by decide) (by decide) (by decide) rfl 0⟩

/-- A one-byte entry stored as the image of `[7]` at path `"p"`. Restoring the defaults
    returns `ODR_OK` while no byte of `"-\n"` reaches the file. The next `CO_storageLinux_init`
    then reports `DATA_CORRUPT`, with the entry's bit 2. -/
theorem restoreLinux_ok_marker_lost :
    let e : StorageEntry := ⟨[7], 1, rfl, 2, coStorageCmd ||| coStorageRestore, "p", 0, none⟩
    let fs := Fs.single "p" (storedImage [7])
    let r := restoreLinux e fs ⟨true, true, 0⟩
    let i := storageLinuxInit [e] (fs.applyAll r.2.2) (fun _ => initEnvOk) 0
    r.1 = .ok ∧ i.ret = .dataCorrupt ∧ i.storageInitError = 4 := by
  decide

end CANopenLinux
