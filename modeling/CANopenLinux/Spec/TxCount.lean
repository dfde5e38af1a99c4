import CANopenLinux.Native.DriverIo
import CANopenLinux.ForStd.List

/-!
# The count of pending TX buffers

In the single-interface build a frame that the kernel refuses with `EINTR`, `EAGAIN` or
`ENOBUFS` is marked `bufferFull` and counted in `CANtxCount`, and `CO_CANmodule_process`
re-sends the first marked buffer on each tick. `CANtxCount` is meant to be the number of marked
buffers.

`CO_CANsend` and `CO_CANmodule_process` keep that equality (`TxInv`), and so do
`CO_CANtxBufferInit` of a buffer that is not pending and `CO_CANmodule_init` over a TX array
with nothing pending. The other two calls break it. `CO_CANtxBufferInit` clears a pending
buffer's mark without uncounting it. `CO_CANmodule_init` zeroes the count but keeps the marks
of the array it is given, and sending that buffer afterwards takes the count from 0 to 65535.
The module's own recovery, which resets the count when `CO_CANmodule_process` finds nothing
marked, restores the equality once nothing is pending.

## Key results

- `canSend_tx`: what `CO_CANsend` can do to the marks and the count
- `txInv_canSend`, `txInv_canModuleProcess`: the send paths keep the equality
- `canTxCount_eq_pending`: the equality over every run that avoids the two breaking calls
- `canTxCount_wraps_after_reinit`: a communication reset with a pending buffer, then 65535
-/

namespace CANopenLinux

open CANmodule

/-- The number of TX buffers marked pending. -/
def pending (txArray : List CANtx) : Nat := txArray.countP (·.bufferFull)

/-- `CANtxCount` counts the pending buffers, of which there are at most `txSize`, a
    `uint16_t`. -/
structure TxInv (m : CANmodule) : Prop where
  length_lt : m.txArray.length < 65536
  count_eq : m.canTxCount.toNat = pending m.txArray

/-- Marking or unmarking buffer `index` sets its `bufferFull` flag. -/
def setFull (full : Bool) (b : CANtx) : CANtx := { b with bufferFull := full }

section inv

variable {m m' : CANmodule} {index : Nat} {b : CANtx}

/-- The invariant reads only the TX array and the count. -/
theorem TxInv.of_eq (h : TxInv m) (ht : m'.txArray = m.txArray)
    (hc : m'.canTxCount = m.canTxCount) : TxInv m' :=
  ⟨ht ▸ h.length_lt, by rw [ht, hc]; exact h.count_eq⟩

/-- Unmarking a pending buffer and uncounting it keeps the invariant. -/
theorem TxInv.unmark (h : TxInv m) (hb : m.txArray[index]? = some b) (hfull : b.bufferFull = true)
    (ht : m'.txArray = m.txArray.modify (setFull false) index)
    (hc : m'.canTxCount = m.canTxCount - 1) : TxInv m' := by
  have hp := List.countP_modify (·.bufferFull) (setFull false) _ _ _ hb
  simp only [hfull, setFull, Bool.false_eq_true, ↓reduceIte] at hp
  have hc₀ := h.count_eq
  unfold pending at hc₀
  refine ⟨by simpa [ht] using h.length_lt, ?_⟩
  rw [ht, hc, UInt16.toNat_sub_one (by omega), hc₀, pending]
  omega

/-- Marking a free buffer and counting it keeps the invariant: there are fewer than `txSize`
    marks before, so the count does not overflow. -/
theorem TxInv.mark (h : TxInv m) (hb : m.txArray[index]? = some b) (hfree : b.bufferFull = false)
    (ht : m'.txArray = m.txArray.modify (setFull true) index)
    (hc : m'.canTxCount = m.canTxCount + 1) : TxInv m' := by
  have hp := List.countP_modify (·.bufferFull) (setFull true) _ _ _ hb
  simp only [hfree, setFull, Bool.false_eq_true, ↓reduceIte] at hp
  have hle := List.countP_le_length (·.bufferFull) (l := m.txArray.modify (setFull true) index)
  rw [List.length_modify] at hle
  have hc₀ := h.count_eq
  have hlt := h.length_lt
  unfold pending at hc₀
  refine ⟨by simpa [ht] using h.length_lt, ?_⟩
  rw [ht, hc, UInt16.toNat_add_one (by omega), hc₀, pending]
  omega

end inv

/-- What `CO_CANsend` can do to the marks and the count: nothing; unmark and uncount a
    pending buffer that went out; or mark and count a free buffer that the kernel refused. -/
theorem canSend_tx (m : CANmodule) (index : Nat) (r : SendResult) :
    let m' := (m.canSend index r).1
    (m'.txArray = m.txArray ∧ m'.canTxCount = m.canTxCount) ∨
    (∃ b, m.txArray[index]? = some b ∧ b.bufferFull = true ∧
      m'.txArray = m.txArray.modify (setFull false) index ∧ m'.canTxCount = m.canTxCount - 1) ∨
    (∃ b, m.txArray[index]? = some b ∧ b.bufferFull = false ∧
      m'.txArray = m.txArray.modify (setFull true) index ∧ m'.canTxCount = m.canTxCount + 1) := by
  unfold canSend
  cases hi : m.canInterfaces[0]? with
  | none => exact .inl ⟨rfl, rfl⟩
  | some iface =>
    cases hb : m.txArray[index]? with
    | none => exact .inl ⟨rfl, rfl⟩
    | some buffer =>
      dsimp only
      rcases em (iface.fd < 0) with hfd | hfd
      · rw [if_pos hfd]
        exact .inl ⟨rfl, rfl⟩
      rw [if_neg hfd]
      cases hfull : buffer.bufferFull <;> rcases r with _ | ⟨_ | _ | _ | _⟩
      -- a free buffer: sent, or marked when refused, or dropped
      case false.written => exact .inl ⟨rfl, rfl⟩
      case false.error.eintr => exact .inr (.inr ⟨buffer, rfl, hfull, rfl, rfl⟩)
      case false.error.eagain => exact .inr (.inr ⟨buffer, rfl, hfull, rfl, rfl⟩)
      case false.error.enobufs => exact .inr (.inr ⟨buffer, rfl, hfull, rfl, rfl⟩)
      case false.error.other => exact .inl ⟨rfl, rfl⟩
      -- a pending buffer: unmarked when it goes out, left marked otherwise
      case true.written => exact .inr (.inl ⟨buffer, rfl, hfull, rfl, rfl⟩)
      all_goals exact .inl ⟨rfl, rfl⟩

section steps

variable {m : CANmodule}

theorem txInv_canSend (h : TxInv m) (index : Nat) (r : SendResult) : TxInv (m.canSend index r).1 := by
  rcases canSend_tx m index r with ⟨ht, hc⟩ | ⟨b, hb, hfull, ht, hc⟩ | ⟨b, hb, hfree, ht, hc⟩
  · exact h.of_eq ht hc
  · exact h.unmark hb hfull ht hc
  · exact h.mark hb hfree ht hc

theorem txInv_canModuleProcess (h : TxInv m) (r : SendResult) : TxInv (m.canModuleProcess r) := by
  unfold canModuleProcess
  split
  · exact h
  rename_i iface _
  have h₁ : TxInv { m with canErrorStatus := iface.errorhandler.canErrorStatus } := h.of_eq rfl rfl
  dsimp only
  split
  · split
    · -- the first pending buffer is unmarked, uncounted and sent again
      rename_i index hidx
      obtain ⟨hi, hfull, -⟩ := List.findIdx?_eq_some_iff_getElem.mp hidx
      exact txInv_canSend (h₁.unmark (List.getElem?_eq_getElem hi) hfull rfl rfl) index r
    · -- nothing is pending: the count is reset
      rename_i hnone
      have hzero : pending m.txArray = 0 :=
        List.countP_eq_zero.mpr fun b hb => by simpa using List.findIdx?_eq_none_iff.mp hnone b hb
      exact ⟨h.length_lt, by simp [hzero]⟩
  · exact h₁

theorem txInv_canTxBufferInit (h : TxInv m) (index : Nat) (ident : UInt16) (rtr : Bool)
    (noOfBytes : UInt8) (syncFlag : Bool) (hfree : ∀ b ∈ m.txArray[index]?, b.bufferFull = false) :
    TxInv (m.canTxBufferInit index ident rtr noOfBytes syncFlag).1 := by
  unfold canTxBufferInit
  split
  · rename_i buffer hb
    obtain ⟨hi, rfl⟩ := List.getElem?_eq_some_iff.mp hb
    have hc₀ := h.count_eq
    refine ⟨by simpa using h.length_lt, ?_⟩
    simp [pending, List.countP_set _ _ _ _ hi, hfree _ hb] at hc₀ ⊢
    exact hc₀
  · exact h

theorem txInv_canModuleInit (m : CANmodule) (rxSize : Nat) (txArray : List CANtx)
    (canIfindex : Int) (env : AddInterfaceEnv) (hsize : txArray.length < 65536)
    (hclear : ∀ b ∈ txArray, b.bufferFull = false) :
    TxInv (m.canModuleInit rxSize txArray canIfindex env).1 :=
  ⟨by simpa using hsize, by
    rw [canModuleInit_canTxCount, canModuleInit_txArray]
    exact (List.countP_eq_zero.mpr fun b hb => by simp [hclear b hb]).symm⟩

end steps

/-- With nothing pending, one `CO_CANmodule_process` tick brings the count back to zero,
    whatever drift came before. -/
theorem canModuleProcess_recovers (m : CANmodule) (r : SendResult) (hi : m.canInterfaces ≠ [])
    (hnone : pending m.txArray = 0) : (m.canModuleProcess r).canTxCount = 0 := by
  have hf : m.txArray.findIdx? (·.bufferFull) = none :=
    List.findIdx?_eq_none_iff.mpr fun b hb => by simpa using List.countP_eq_zero.mp hnone b hb
  obtain ⟨iface, ifs, hcons⟩ := List.exists_cons_of_ne_nil hi
  unfold canModuleProcess
  simp only [hcons, List.getElem?_cons_zero]
  split
  · simp [hf]
  · exact UInt16.eq_zero_of_not_pos ‹_›

/-- The module states reached from `CO_CANmodule_init` over TX buffers with nothing pending by
    `CO_CANsend` and `CO_CANmodule_process` with any `send()` results, `CO_CANtxBufferInit` of
    a buffer that is not pending, and further `CO_CANmodule_init` calls while nothing is
    pending. -/
inductive TxReachable : CANmodule → Prop
  | init (m : CANmodule) (rxSize : Nat) (txArray : List CANtx) (canIfindex : Int)
      (env : AddInterfaceEnv) (hsize : txArray.length < 65536)
      (hclear : ∀ b ∈ txArray, b.bufferFull = false) :
      TxReachable (m.canModuleInit rxSize txArray canIfindex env).1
  | txBufferInit {m : CANmodule} (index : Nat) (ident : UInt16) (rtr : Bool) (noOfBytes : UInt8)
      (syncFlag : Bool) (hfree : ∀ b ∈ m.txArray[index]?, b.bufferFull = false) :
      TxReachable m → TxReachable (m.canTxBufferInit index ident rtr noOfBytes syncFlag).1
  | send {m : CANmodule} (index : Nat) (r : SendResult) :
      TxReachable m → TxReachable (m.canSend index r).1
  | process {m : CANmodule} (r : SendResult) :
      TxReachable m → TxReachable (m.canModuleProcess r)

theorem txInv_of_reachable {m : CANmodule} (h : TxReachable m) : TxInv m := by
  induction h with
  | init m rxSize txArray canIfindex env hsize hclear =>
    exact txInv_canModuleInit m rxSize txArray canIfindex env hsize hclear
  | txBufferInit index ident rtr noOfBytes syncFlag hfree _ ih =>
    exact txInv_canTxBufferInit ih index ident rtr noOfBytes syncFlag hfree
  | send index r _ ih => exact txInv_canSend ih index r
  | process r _ ih => exact txInv_canModuleProcess ih r

/-- Over every run that avoids the two breaking calls, `CANtxCount` is the number of pending
    buffers, and neither send path takes it from 0 to 65535. From every module state, runs
    with the breaking calls included, one tick of `CO_CANmodule_process` with nothing pending
    brings the count back to zero. -/
theorem canTxCount_eq_pending {m : CANmodule} (h : TxReachable m) :
    m.canTxCount.toNat = pending m.txArray ∧
    (∀ (index : Nat) (r : SendResult), m.canTxCount = 0 →
      (m.canSend index r).1.canTxCount ≠ 65535 ∧ (m.canModuleProcess r).canTxCount ≠ 65535) ∧
    ∀ (m' : CANmodule) (r : SendResult), m'.canInterfaces ≠ [] → pending m'.txArray = 0 →
      (m'.canModuleProcess r).canTxCount = 0 := by
  have hinv := txInv_of_reachable h
  refine ⟨hinv.count_eq, fun index r h0 => ⟨?_, ?_⟩, canModuleProcess_recovers⟩
  · rcases canSend_tx m index r with ⟨-, hc⟩ | ⟨b, hb, hfull, -, -⟩ | ⟨-, -, -, -, hc⟩
    · rw [hc, h0]; decide
    · -- a pending buffer would be counted
      have hpos : 0 < pending m.txArray :=
        List.countP_pos_iff.mpr ⟨b, List.getElem?_mem hb, hfull⟩
      have := hinv.count_eq
      rw [h0] at this
      simp at this; omega
    · rw [hc, h0]; decide
  · unfold canModuleProcess
    split
    · rw [h0]; decide
    · simp [h0]

/-- A fresh module with one free TX buffer. -/
theorem canTxCount_eq_pending_fresh_module :
    let m := ((⟨[], [], [], 0, [], 0, false, 0⟩ : CANmodule).canModuleInit 0
      [⟨0x181, 8, List.replicate 8 0, false, false, 0⟩] 1
      ⟨none, 3, ⟨0, -1, CANinterfaceErrorhandler.canErrorInit (-1), [], []⟩, fun _ => true⟩).1
    TxReachable m ∧ (m.canTxCount.toNat = pending m.txArray ∧
      (∀ (index : Nat) (r : SendResult), m.canTxCount = 0 →
        (m.canSend index r).1.canTxCount ≠ 65535 ∧ (m.canModuleProcess r).canTxCount ≠ 65535) ∧
      ∀ (m' : CANmodule) (r : SendResult), m'.canInterfaces ≠ [] → pending m'.txArray = 0 →
        (m'.canModuleProcess r).canTxCount = 0) :=
  have h := TxReachable.init ⟨[], [], [], 0, [], 0, false, 0⟩ 0
    [⟨0x181, 8, List.replicate 8 0, false, false, 0⟩] 1
    ⟨none, 3, ⟨0, -1, CANinterfaceErrorhandler.canErrorInit (-1), [], []⟩, fun _ => true⟩
    (by decide) (by decide)
  ⟨h, canTxCount_eq_pending h⟩

/-- From one free buffer: `EAGAIN` marks it and counts 1. Re-initialising the buffer then
    leaves the count at 1 with nothing pending; a communication reset instead zeroes the count
    with the buffer still marked, and the next successful send of it takes the count from 0 to
    65535. -/
theorem canTxCount_wraps_after_reinit :
    let env : AddInterfaceEnv :=
      ⟨none, 3, ⟨0, -1, CANinterfaceErrorhandler.canErrorInit (-1), [], []⟩, fun _ => true⟩
    let m₀ := ((⟨[], [], [], 0, [], 0, false, 0⟩ : CANmodule).canModuleInit 0
      [⟨0x181, 8, List.replicate 8 0, false, false, 0⟩] 1 env).1
    let m₁ := (m₀.canSend 0 (.error .eagain)).1
    let m₂ := (m₁.canModuleInit 0 m₁.txArray 1 env).1
    let m₃ := (m₂.canSend 0 .written).1
    pending m₀.txArray = 0 ∧ m₁.canTxCount = 1 ∧ pending m₁.txArray = 1 ∧
      (m₁.canTxBufferInit 0 0x181 false 8 false).1.canTxCount = 1 ∧
      pending (m₁.canTxBufferInit 0 0x181 false 8 false).1.txArray = 0 ∧
      m₂.canTxCount = 0 ∧ pending m₂.txArray = 1 ∧
      m₃.canTxCount = 65535 ∧ pending m₃.txArray = 0 := by
  decide

end CANopenLinux
