import CANopenLinux.Native.MultiInterface

/-!
# The identifier lookup tables of multi-interface builds

`CO_CANsetIdentToIndex` and `CO_CANgetIndexFromIdent` guard their table with
`ident > CO_CAN_MSG_SFF_MAX_COB_ID`, so identifier 2048 itself reaches `lookup[2048]`, one past
the table. That is the only identifier that does (`canSetIdentToIndex_isSome`,
`canGetIndexFromIdent_isSome`), and `CO_CANrxBufferInit`, `CO_CANtxBufferInit`,
`CO_CANrxBuffer_getInterface` and `CO_CANtxBuffer_setInterface` pass any `uint16_t`
identifier through (`identTable_2048_out_of_range`).

`CO_CANsetIdentToIndex` enters the new identifier and clears the old one, each only when it
is inside the table (`canSetIdentToIndex_read`). The old identifier a buffer init passes is
the one the buffer stores, which carries the RTR flag when `rtr` was set and so is never
inside the table; and the clearing does not ask whether another buffer still carries it.
Either way an entry ends up naming a buffer that no longer carries its identifier, or no
buffer for an identifier that one carries (`identTable_stale_entries`).
-/

namespace CANopenLinux

namespace IdentTable

theorem write_isSome (t : IdentTable) (i : Nat) (v : UInt32) :
    (t.write i v).isSome ↔ i < canMsgSffMaxCobId := by
  unfold write
  split <;> simp_all

theorem read_isSome (t : IdentTable) (i : Nat) : (t.read i).isSome ↔ i < canMsgSffMaxCobId := by
  rw [read, List.get?_eq_getElem?, ← t.length_eq]
  by_cases h : i < t.entries.length
  · simp [List.getElem?_eq_getElem h, h]
  · simp [List.getElem?_eq_none (Nat.le_of_not_lt h), h]

/-- After `lookup[i] = v`, entry `i` is `v` and every other entry is as it was. -/
theorem read_of_write {t t' : IdentTable} {i : Nat} {v : UInt32} (h : t.write i v = some t')
    (j : Nat) : t'.read j = if i = j then some v else t.read j := by
  unfold write at h
  by_cases hi : i < canMsgSffMaxCobId
  · rw [if_pos hi, Option.some.injEq] at h
    subst h
    simp only [read, List.get?_eq_getElem?, List.getElem?_set, t.length_eq, hi, if_true]
  · rw [if_neg hi] at h
    cases h

end IdentTable

/-- The table `CO_CANsetIdentToIndex` leaves: the new identifier's entry names the buffer
    when it is inside the table (identifier 0 only for index 0), the old identifier's entry is
    `CO_INVALID_COB_ID` when it is inside the table and changes, and every other entry is as
    it was. -/
theorem canSetIdentToIndex_read {lookup t : IdentTable} {index identNew identCurrent : UInt32}
    (h : canSetIdentToIndex lookup index identNew identCurrent = some t) (j : Nat) :
    t.read j =
      if identNew.toNat = j ∧ identNew.toNat < canMsgSffMaxCobId ∧ (identNew ≠ 0 ∨ index = 0) then
        some index
      else if identCurrent.toNat = j ∧ identCurrent.toNat < canMsgSffMaxCobId ∧
          identNew ≠ identCurrent then some coInvalidCobId
      else lookup.read j := by
  have hmax : canMsgSffMaxCobId = 2048 := rfl
  unfold canSetIdentToIndex at h
  obtain ⟨t₁, h₁, h₂⟩ := Option.bind_eq_some.mp h
  -- the removal of the old identifier
  have hr₁ : t₁.read j = if identCurrent.toNat = j ∧ identCurrent.toNat < canMsgSffMaxCobId ∧
      identNew ≠ identCurrent then some coInvalidCobId else lookup.read j := by
    by_cases hc : identCurrent.toNat < canMsgSffMaxCobId ∧ identNew ≠ identCurrent
    · rw [if_pos hc] at h₁
      simp only [IdentTable.read_of_write h₁, hc.1, hc.2, ne_eq, not_false_eq_true, and_true]
    · rw [if_neg hc, Option.some.injEq] at h₁
      subst h₁
      rw [if_neg (by tauto)]
  -- the entry of the new one
  by_cases hgt : identNew.toNat > canMsgSffMaxCobId
  · rw [if_pos hgt, Option.some.injEq] at h₂
    subst h₂
    have hn : ¬identNew.toNat < canMsgSffMaxCobId := by omega
    simp only [hr₁, hn, false_and, and_false, if_false]
  rw [if_neg hgt] at h₂
  by_cases h0 : identNew = 0
  · subst h0
    by_cases hi : index = 0
    · rw [if_pos rfl, if_pos hi] at h₂
      simp [IdentTable.read_of_write h₂, hr₁, hi, hmax]
    · rw [if_pos rfl, if_neg hi, Option.some.injEq] at h₂
      subst h₂
      rw [if_neg (by simp [hi]), hr₁]
  · rw [if_neg h0] at h₂
    have hlt : identNew.toNat < canMsgSffMaxCobId :=
      (IdentTable.write_isSome t₁ _ index).mp (by rw [h₂]; rfl)
    rw [IdentTable.read_of_write h₂, hr₁]
    simp only [hlt, h0, ne_eq, not_false_eq_true, true_or, and_true]

/-- `CO_CANsetIdentToIndex` stays inside its table exactly when the new identifier is not
    `CO_CAN_MSG_SFF_MAX_COB_ID`. -/
theorem canSetIdentToIndex_isSome (lookup : IdentTable) (index identNew identCurrent : UInt32) :
    (canSetIdentToIndex lookup index identNew identCurrent).isSome ↔
      identNew.toNat ≠ canMsgSffMaxCobId := by
  have hmax : canMsgSffMaxCobId = 2048 := rfl
  -- the removal of the old identifier is guarded, so it stays inside the table
  obtain ⟨t, ht⟩ : ∃ t, (if identCurrent.toNat < canMsgSffMaxCobId ∧ identNew ≠ identCurrent then
      lookup.write identCurrent.toNat coInvalidCobId else some lookup) = some t := by
    split
    · exact Option.isSome_iff_exists.mp ((lookup.write_isSome _ _).mpr (by omega))
    · exact ⟨lookup, rfl⟩
  unfold canSetIdentToIndex
  rw [ht, Option.some_bind]
  by_cases hgt : identNew.toNat > canMsgSffMaxCobId
  · simp only [hgt, ↓reduceIte, Option.isSome_some, true_iff]
    omega
  by_cases h0 : identNew = 0
  · subst h0
    simp only [hgt, ↓reduceIte]
    split <;> simp [IdentTable.write_isSome, hmax]
  · simp only [hgt, h0, ↓reduceIte, IdentTable.write_isSome]
    omega

/-- `CO_CANgetIndexFromIdent` stays inside its table exactly when the identifier is not
    `CO_CAN_MSG_SFF_MAX_COB_ID`. -/
theorem canGetIndexFromIdent_isSome (lookup : IdentTable) (ident : UInt32) :
    (canGetIndexFromIdent lookup ident).isSome ↔ ident.toNat ≠ canMsgSffMaxCobId := by
  have hmax : canMsgSffMaxCobId = 2048 := rfl
  unfold canGetIndexFromIdent
  split
  · simp only [Option.isSome_some, true_iff]
    omega
  · rw [IdentTable.read_isSome]
    omega

/-- Identifier 2048, a `uint16_t` the four functions accept, reaches entry 2048 of a table of
    2048 entries in each of them: on every module, `CO_CANrxBufferInit` and
    `CO_CANtxBufferInit` on any buffer the module has, and `CO_CANrxBuffer_getInterface` and
    `CO_CANtxBuffer_setInterface` always. -/
theorem identTable_2048_out_of_range (mm : CANmoduleMulti) (index : Nat) (mask : UInt16)
    (rtr : Bool) (object : Nat) (callback : Option Nat) (setsockoptOk : Int → Bool)
    (noOfBytes : UInt8) (syncFlag : Bool) (canIfindexTx : Int) :
    ((mm.canRxBufferInit index 2048 mask rtr object callback setsockoptOk).isNone ↔
        index < mm.toCANmodule.rxArray.length) ∧
      ((mm.canTxBufferInit index 2048 rtr noOfBytes syncFlag).isNone ↔
        index < mm.toCANmodule.txArray.length) ∧
      mm.canRxBufferGetInterface 2048 = none ∧
      mm.canTxBufferSetInterface 2048 canIfindexTx = none := by
  have h2048 : (2048 : UInt16).toUInt32.toNat = canMsgSffMaxCobId := rfl
  have hset : ∀ lookup (i cur : UInt32), canSetIdentToIndex lookup i (2048 : UInt16).toUInt32 cur = none :=
    fun lookup i cur => Option.not_isSome_iff_eq_none.mp
      (fun h => (canSetIdentToIndex_isSome lookup i _ cur).mp h h2048)
  have hget : ∀ lookup, canGetIndexFromIdent lookup (2048 : UInt16).toUInt32 = none :=
    fun lookup => Option.not_isSome_iff_eq_none.mp
      (fun h => (canGetIndexFromIdent_isSome lookup _).mp h h2048)
  refine ⟨?_, ?_, ?_, ?_⟩
  · unfold CANmoduleMulti.canRxBufferInit
    cases h : mm.toCANmodule.rxArray[index]? with
    | none => simp [(List.getElem?_eq_none_iff).mp h]
    | some b => simp [hset, (List.getElem?_eq_some_iff.mp h).1]
  · unfold CANmoduleMulti.canTxBufferInit
    cases h : mm.toCANmodule.txArray[index]? with
    | none => simp [(List.getElem?_eq_none_iff).mp h]
    | some b => simp [hset, (List.getElem?_eq_some_iff.mp h).1]
  · simp [CANmoduleMulti.canRxBufferGetInterface, hget]
  · simp [CANmoduleMulti.canTxBufferSetInterface, hget]

/-- Two ways an entry goes stale, from a module with two RX slots as `CO_CANmodule_init`
    leaves it. Slot 0 takes identifier 5 with `rtr`, then identifier 7 without: entry 5 still
    names slot 0, which now carries 7. Slots 0 and 1 take identifier 5, then slot 1 takes 6:
    entry 5 is `CO_INVALID_COB_ID`, though slot 0 carries 5. The first run on a TX buffer ends
    the same way. -/
theorem identTable_stale_entries :
    let mm : CANmoduleMulti :=
      CANmoduleMulti.canModuleInit ⟨[], [], [], 0, [], 0, false, 0⟩ 2 []
    let init (mm : Option CANmoduleMulti) (index : Nat) (ident : UInt16) (rtr : Bool) :=
      mm.bind fun mm => (mm.canRxBufferInit index ident 0x7FF rtr 0 none fun _ => true).map (·.1)
    let look (mm : Option CANmoduleMulti) (id slot : Nat) :=
      mm.map fun mm =>
        (mm.rxIdentToIndex.read id, mm.toCANmodule.rxArray[slot]?.map (·.ident &&& canSffMask))
    let a := init (init (some mm) 0 5 true) 0 7 false
    let b := init (init (init (some mm) 0 5 false) 1 5 false) 1 6 false
    let tx : CANtx := ⟨0, 0, List.replicate 8 0, false, false, 0⟩
    let c := (CANmoduleMulti.canModuleInit ⟨[], [], [], 0, [], 0, false, 0⟩ 0 [tx]).canTxBufferInit
      0 5 true 8 false |>.bind fun r => (r.1.canTxBufferInit 0 7 false 8 false).map (·.1)
    look a 5 0 = some (some 0, some 7) ∧ look b 5 0 = some (some coInvalidCobId, some 5) ∧
      c.map (fun mm => (mm.txIdentToIndex.read 5,
        mm.toCANmodule.txArray[0]?.map (·.ident &&& canSffMask))) = some (some 0, some 7) := by
  decide

end CANopenLinux
