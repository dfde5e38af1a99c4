import CANopenLinux.Native.DriverIo
import CANopenLinux.ForStd.List

/-!
# Transmission in listen-only mode

Listen-only mode is meant to keep an interface silent for `CO_CANerror_LISTEN_ONLY` seconds
after it was entered. The multi-interface `CO_CANCheckSendInterface` asks the error handler
before each `send()`, and an interface in the mode inside that window gets no frame:
`canSendMulti_keeps_listenOnly_interface` shows that `CO_CANsend` of that build leaves the
interface, and so its socket's accepted frames, exactly as they were.

The single-interface `CO_CANsend` and its retry in `CO_CANmodule_process` never ask the error
handler. `canSend_written_ignores_errorhandler` shows that a write reaches the socket whatever
the handler's state, and `canSend_writes_in_listenOnly` runs the driver into listen-only
through a bus-off frame and then writes two frames inside the window.

## Key results

- `canSendMulti_keeps_listenOnly_interface`: the multi-interface path is silent
- `canSend_written_ignores_errorhandler`: the single-interface path is not
- `canSend_writes_in_listenOnly`: a run of the driver that writes while listen-only
-/

namespace CANopenLinux

open CANmodule

/-- Interface `iface` is in listen-only mode, entered less than the timeout before `now`. -/
def ListenOnlyAt (iface : CANinterface) (now : Timespec) : Prop :=
  iface.errorhandler.listenOnly = true ∧
    now.tvSec ≤ iface.errorhandler.timestamp.tvSec + canErrorListenOnly

/-- Within the window `CO_CANerror_txMsg` answers listen-only and changes nothing. -/
theorem canErrorTxMsg_of_listenOnlyAt {iface : CANinterface} {now : Timespec}
    (h : ListenOnlyAt iface now) :
    iface.errorhandler.canErrorTxMsg now = (iface.errorhandler, .listenOnly) := by
  simp [CANinterfaceErrorhandler.canErrorTxMsg, h.1, Int.not_lt.mpr h.2]

section multi

variable {m : CANmodule} {k : Nat} {iface : CANinterface} {now : Timespec}

/-- `CO_CANCheckSendInterface` on interface `j` writes no other interface. -/
theorem canCheckSendInterface_getElem?_ne {buffer : CANtx} {j : Nat} {rs : List SendResult}
    {res : CANmodule × ReturnError} (h : m.canCheckSendInterface buffer j now rs = some res)
    {i : Nat} (hij : i ≠ j) : res.1.canInterfaces[i]? = m.canInterfaces[i]? := by
  unfold canCheckSendInterface at h
  split at h
  · cases h; rfl
  rename_i iface' _
  split at h
  · cases h; rfl
  generalize iface'.errorhandler.canErrorTxMsg now = r at h
  obtain ⟨eh, _ | _ | _⟩ := r <;> dsimp only at h
  · split at h <;> cases h <;> simp [List.getElem?_modify, Ne.symm hij]
  all_goals (cases h; simp [List.getElem?_modify, Ne.symm hij])

/-- `CO_CANCheckSendInterface` leaves an interface `k` in listen-only mode untouched: on
    `k` itself it returns before `send()`, and it writes no other interface. -/
theorem canCheckSendInterface_keeps (hk : m.canInterfaces[k]? = some iface)
    (hl : ListenOnlyAt iface now) (buffer : CANtx) (j : Nat) (rs : List SendResult)
    {res : CANmodule × ReturnError} (h : m.canCheckSendInterface buffer j now rs = some res) :
    res.1.canInterfaces[k]? = some iface := by
  by_cases hjk : k = j
  · subst hjk
    simp only [canCheckSendInterface, hk, canErrorTxMsg_of_listenOnlyAt hl] at h
    split at h
    · cases h; exact hk
    · cases h; simp [List.getElem?_modify, hk]
  · rw [canCheckSendInterface_getElem?_ne h hjk, hk]

/-- The multi-interface `CO_CANsend` leaves every interface in listen-only mode, inside the
    window, exactly as it was: no frame reaches its socket. -/
theorem canSendMulti_keeps_listenOnly_interface (hk : m.canInterfaces[k]? = some iface)
    (hl : ListenOnlyAt iface now) (index : Nat) (rs : Nat → List SendResult)
    {res : CANmodule × ReturnError} (h : m.canSendMulti index now rs = some res) :
    res.1.canInterfaces[k]? = some iface := by
  unfold canSendMulti canCheckSend at h
  split at h
  · cases h
  rename_i buffer _
  obtain ⟨⟨m₀, e₀⟩, h₀, rfl⟩ := Option.map_eq_some'.mp h
  refine List.foldlM_option_inv (P := fun acc : CANmodule × ReturnError =>
    acc.1.canInterfaces[k]? = some iface) ?_ _ _ (m₀, e₀) h₀ hk
  rintro ⟨m₁, err⟩ j res₁ hstep hm₁
  simp only at hstep
  split at hstep
  · split at hstep
    · obtain ⟨⟨m₂, e₂⟩, h₂, rfl⟩ := Option.map_eq_some'.mp hstep
      have hkeep := canCheckSendInterface_keeps hm₁ hl buffer j (rs j) h₂
      exact hkeep
    · cases hstep; exact hm₁
  · cases hstep; exact hm₁

end multi

/-- The single-interface `CO_CANsend` writes a frame the kernel takes to the first interface's
    socket without looking at its error handler. -/
theorem canSend_written_ignores_errorhandler (m : CANmodule) (index : Nat) {iface : CANinterface}
    {buffer : CANtx} (hi : m.canInterfaces[0]? = some iface) (hb : m.txArray[index]? = some buffer)
    (hfd : 0 ≤ iface.fd) :
    (m.canSend index .written).1.canInterfaces[0]?.map (·.sent) = some (iface.sent ++ [buffer]) := by
  unfold canSend
  simp only [hi, hb, Int.not_lt.mpr hfd, ↓reduceIte]
  split <;> simp [List.getElem?_modify, hi, CANinterface.markStatus]

/-- A run of the single-interface driver: a module on descriptor 3 with one TX buffer goes to
    normal mode; a send meets `EAGAIN`; a bus-off frame at time 100 s puts the interface in
    listen-only mode. Still at 100 s, inside the window, the retry in `CO_CANmodule_process`
    and a further `CO_CANsend` each write the frame to the socket. -/
theorem canSend_writes_in_listenOnly :
    let t₀ : Timespec := ⟨100, 0, by decide⟩
    let m₀ := ((⟨[], [], [], 0, [], 0, false, 0⟩ : CANmodule).canModuleInit 1
      [⟨0x181, 8, List.replicate 8 0, false, false, 0⟩] 1
      ⟨none, 3, ⟨0, -1, CANinterfaceErrorhandler.canErrorInit (-1), [], []⟩, fun _ => true⟩).1
    let m₁ := ((m₀.canSetNormalMode fun _ => true).canSend 0 (.error .eagain)).1
    let m₂ := (m₁.canRxFromEpoll ⟨epollIn, 3⟩
      ⟨16, ⟨canErrFlag ||| canErrBusoff, List.replicate 8 0, rfl⟩, t₀, 0⟩ t₀).module
    let m₃ := m₂.canModuleProcess .written
    let m₄ := (m₃.canSend 0 .written).1
    m₂.canInterfaces[0]?.map (·.errorhandler.listenOnly) = some true ∧
      m₂.canInterfaces[0]?.map (·.errorhandler.timestamp) = some t₀ ∧
      m₂.canInterfaces[0]?.map (·.sent.length) = some 0 ∧
      m₃.canInterfaces[0]?.map (·.sent.length) = some 1 ∧
      m₄.canInterfaces[0]?.map (·.sent.length) = some 2 ∧
      m₄.canInterfaces[0]?.map (·.errorhandler.listenOnly) = some true := by
  decide

end CANopenLinux
