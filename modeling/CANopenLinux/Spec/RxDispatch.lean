import CANopenLinux.Native.DriverIo
import CANopenLinux.Spec.RxFilters

/-!
# Receiving a frame

`CO_CANrxFromEpoll` takes one epoll event. When the event is an interface's socket and
`CO_CANread` delivers a frame in normal mode, an error frame goes to that interface's error
handler, and a data frame goes to the lowest-index slot whose mask accepts it: that slot's
callback runs and the slot records the receive time and the interface.

Which frames a slot can be given follows from an invariant of the RX configuration: every slot
that `CO_CANmodule_init` or `CO_CANrxBufferInit` wrote compares the EFF and RTR bits, and holds
EFF clear and the RTR bit of the `rtr` it was last configured with. `RxReachable` is the set of
module states that these calls, `CO_CANsetNormalMode` and `CO_CANrxFromEpoll` itself reach,
with that `rtr` per slot as ghost state.

Outside normal mode no callback runs and no slot changes. `CO_CANread` still runs, but a
whole frame leaves the module as it was: the only drop count it could find is never put in its
control buffer (`canRead_of_mtu`).

## Key results

- `canRxFromEpoll_consumed`: the event is consumed iff it is an interface's socket
- `SlotOk.frame_of_matches`: a well-formed slot takes only standard frames of its RTR kind
- `slotsWellFormed_of_reachable`: the slot invariant over every reachable state
- `rxFromEpoll_dispatch`: the dispatch law
-/

namespace CANopenLinux

open CANmodule

/-! ## Which interface, which slot -/

/-- `CO_CANread` hands over a frame: the event is readable without error or hang-up, and
    `recvmsg()` returned a whole `CAN_MTU`. -/
def Delivers (ev : EpollEvent) (rr : RecvResult) : Prop :=
  ev.events &&& (epollErr ||| epollHup) = 0 ∧ ev.events &&& epollIn ≠ 0 ∧ rr.n = canMtu

/-- Interface `k`, holding `iface`, is the first whose socket is `fd`. -/
def FirstInterface (ifs : List CANinterface) (fd : Int) (k : Nat) (iface : CANinterface) : Prop :=
  ifs[k]? = some iface ∧ iface.fd = fd ∧ ∀ j < k, ∀ i ∈ ifs[j]?, i.fd ≠ fd

/-- Slot `i`, holding `rx`, is the lowest-index slot that takes identifier `canId`. -/
def FirstMatch (rxArray : List CANrx) (canId : UInt32) (i : Nat) (rx : CANrx) : Prop :=
  rxArray[i]? = some rx ∧ rx.matches canId = true ∧
    ∀ j < i, ∀ rx' ∈ rxArray[j]?, rx'.matches canId = false

theorem firstInterface_findIdx? {ifs : List CANinterface} {fd : Int} {k : Nat} {iface : CANinterface}
    (h : FirstInterface ifs fd k iface) : ifs.findIdx? (·.fd = fd) = some k :=
  (List.findIdx?_eq_some_and_getElem?_iff.mpr
    ⟨h.1, by simpa using h.2.1, fun j hj i hi => by simpa using h.2.2 j hj i hi⟩).1

theorem firstMatch_findIdx? {rxArray : List CANrx} {canId : UInt32} {i : Nat} {rx : CANrx}
    (h : FirstMatch rxArray canId i rx) : rxArray.findIdx? (CANrx.matches · canId) = some i :=
  (List.findIdx?_eq_some_and_getElem?_iff.mpr ⟨h.1, h.2.1, h.2.2⟩).1

/-! ## The receive path, case by case -/

section cases

variable (m : CANmodule) (ev : EpollEvent) (rr : RecvResult) (now : Timespec)

theorem canRxFromEpoll_of_none (hk : m.canInterfaces.findIdx? (·.fd = ev.fd) = none) :
    m.canRxFromEpoll ev rr now = ⟨false, m, [], none⟩ := by
  simp [canRxFromEpoll, canRxTest, hk]

/-- A frame delivered in normal mode is handed to `rxFrame`, on the module as it was. -/
theorem canRxFromEpoll_of_delivers {k : Nat}
    (hk : m.canInterfaces.findIdx? (·.fd = ev.fd) = some k) (hd : Delivers ev rr)
    (hn : m.canNormal = true) :
    m.canRxFromEpoll ev rr now = m.rxFrame k rr.frame rr.timestamp now := by
  obtain ⟨he, hi, hmtu⟩ := hd
  simp [canRxFromEpoll, canRxTest, hk, he, hi, canRead_of_mtu m k rr hmtu, hn]

/-- Otherwise the event is consumed and dispatches nothing; only a short read changes the
    module, marking an RX overflow. -/
theorem canRxFromEpoll_of_not_delivers {k : Nat}
    (hk : m.canInterfaces.findIdx? (·.fd = ev.fd) = some k)
    (hq : ¬(Delivers ev rr ∧ m.canNormal = true)) :
    m.canRxFromEpoll ev rr now = ⟨true, m, [], none⟩ ∨
      rr.n ≠ canMtu ∧ m.canRxFromEpoll ev rr now =
        ⟨true, m.setInterfaceStatus k canErrrxOverflow, [], none⟩ := by
  simp only [canRxFromEpoll, canRxTest, hk]
  by_cases he : ev.events &&& (epollErr ||| epollHup) ≠ 0
  · rw [if_pos he]
    exact .inl rfl
  rw [if_neg he]
  by_cases hi : ev.events &&& epollIn ≠ 0
  · rw [if_pos hi]
    by_cases hn : rr.n = canMtu
    · -- a whole frame outside normal mode
      have hm : m.canNormal = false := by
        cases hc : m.canNormal
        · rfl
        · exact absurd ⟨⟨by simpa using he, hi, hn⟩, hc⟩ hq
      simp [canRead_of_mtu m k rr hn, hm]
    · exact .inr ⟨hn, by simp [canRead_of_ne_mtu m k rr hn]⟩
  · rw [if_neg hi]
    exact .inl rfl

theorem rxFrame_consumed (k : Nat) (msg : CanFrame) (ts : Timespec) :
    (m.rxFrame k msg ts now).consumed = true := by
  unfold rxFrame
  split
  · rfl
  · dsimp only
    split <;> rfl

/-- `CO_CANrxFromEpoll` returns true exactly for an interface's socket. -/
theorem canRxFromEpoll_consumed :
    (m.canRxFromEpoll ev rr now).consumed = true ↔ ∃ i ∈ m.canInterfaces, i.fd = ev.fd := by
  cases hk : m.canInterfaces.findIdx? (·.fd = ev.fd) with
  | none =>
    rw [canRxFromEpoll_of_none m ev rr now hk]
    simpa using List.findIdx?_eq_none_iff.mp hk
  | some k =>
    have hany := @List.findIdx?_isSome _ m.canInterfaces (·.fd = ev.fd)
    rw [hk] at hany
    simp only [Option.isSome_some, eq_comm (a := true), List.any_eq_true, decide_eq_true_eq] at hany
    refine iff_of_true ?_ hany
    by_cases hq : Delivers ev rr ∧ m.canNormal = true
    · rw [canRxFromEpoll_of_delivers m ev rr now hk hq.1 hq.2, rxFrame_consumed]
    · rcases canRxFromEpoll_of_not_delivers m ev rr now hk hq with h | ⟨-, h⟩ <;> rw [h]

theorem rxFrame_canNormal (k : Nat) (msg : CanFrame) (ts : Timespec) :
    (m.rxFrame k msg ts now).module.canNormal = m.canNormal := by
  unfold rxFrame
  split
  · rfl
  · dsimp only
    split <;> rfl

/-- `CO_CANrxFromEpoll` leaves the module in its mode. -/
@[simp] theorem canRxFromEpoll_canNormal :
    (m.canRxFromEpoll ev rr now).module.canNormal = m.canNormal := by
  cases hk : m.canInterfaces.findIdx? (·.fd = ev.fd) with
  | none => rw [canRxFromEpoll_of_none m ev rr now hk]
  | some k =>
    by_cases hq : Delivers ev rr ∧ m.canNormal = true
    · rw [canRxFromEpoll_of_delivers m ev rr now hk hq.1 hq.2, rxFrame_canNormal]
    · rcases canRxFromEpoll_of_not_delivers m ev rr now hk hq with h | ⟨-, h⟩ <;> rw [h]
      rfl

end cases

/-! ## The normal-mode dispatch -/

section rxFrame

variable (m : CANmodule) (k : Nat) (msg : CanFrame) (ts now : Timespec)

/-- An error frame reaches the interface's error handler and nothing else. -/
theorem rxFrame_of_errorFrame (he : msg.canId &&& canErrFlag ≠ 0) :
    m.rxFrame k msg ts now = ⟨true, m.modifyInterface k (fun i =>
      { i with errorhandler := (i.errorhandler.canErrorRxMsgError msg now).1 }), [], none⟩ := by
  simp [rxFrame, he]

/-- `CO_CANrxMsg` gives the frame to the first matching slot and runs that slot's callback. -/
theorem canRxMsg_of_firstMatch {i : Nat} {rx : CANrx} (h : FirstMatch m.rxArray msg.canId i rx) :
    m.canRxMsg msg = (some i, (rx.callback.map fun cb => ⟨cb, rx.object, msg⟩).toList) := by
  simp [canRxMsg, firstMatch_findIdx? h, h.1]

theorem canRxMsg_of_no_match (h : ∀ rx ∈ m.rxArray, rx.matches msg.canId = false) :
    m.canRxMsg msg = (none, []) := by
  simp [canRxMsg, List.findIdx?_eq_none_iff.mpr h]

/-- A data frame with a matching slot: the slot's callback, the slot's stamp, and the
    listen-only reset of the receiving interface. -/
theorem rxFrame_of_firstMatch (he : msg.canId &&& canErrFlag = 0) {i : Nat} {rx : CANrx}
    (h : FirstMatch m.rxArray msg.canId i rx) :
    let m₂ := m.modifyInterface k fun i => { i with errorhandler := i.errorhandler.canErrorRxMsg }
    m.rxFrame k msg ts now = ⟨true, { m₂ with rxArray := m.rxArray.modify (fun rx =>
        { rx with timestamp := ts,
                  canIfindex := (m₂.canInterfaces[k]?.map (·.canIfindex)).getD 0 }) i },
      (rx.callback.map fun cb => ⟨cb, rx.object, msg⟩).toList, some i⟩ := by
  simp [rxFrame, he, canRxMsg_of_firstMatch _ _ h]

theorem rxFrame_of_no_match (he : msg.canId &&& canErrFlag = 0)
    (h : ∀ rx ∈ m.rxArray, rx.matches msg.canId = false) :
    m.rxFrame k msg ts now = ⟨true, m.modifyInterface k fun i =>
      { i with errorhandler := i.errorhandler.canErrorRxMsg }, [], some (-1)⟩ := by
  simp [rxFrame, he, canRxMsg_of_no_match _ _ h]

end rxFrame

/-! ## The slot invariant -/

/-- A slot as `CO_CANrxBufferInit` writes it for `rtr`: EFF and RTR always compared, EFF clear,
    and the RTR bit of `rtr`. -/
structure SlotOk (rx : CANrx) (rtr : Bool) : Prop where
  mask_eff : rx.mask &&& canEffFlag = canEffFlag
  mask_rtr : rx.mask &&& canRtrFlag = canRtrFlag
  ident_eff : rx.ident &&& canEffFlag = 0
  ident_rtr : rx.ident &&& canRtrFlag = if rtr then canRtrFlag else 0

theorem identWithRtr_eff (ident : UInt16) (rtr : Bool) : identWithRtr ident rtr &&& canEffFlag = 0 :=
  UInt32.and_or_and_eq_zero (by decide) (by cases rtr <;> decide)

theorem identWithRtr_rtr (ident : UInt16) (rtr : Bool) :
    identWithRtr ident rtr &&& canRtrFlag = if rtr then canRtrFlag else 0 := by
  cases rtr
  · exact UInt32.and_or_and_eq_zero (by decide) (by decide)
  · exact UInt32.or_and_self _ _

theorem slotOk_rxSlotInit : SlotOk rxSlotInit false := ⟨by decide, by decide, by decide, by decide⟩

theorem slotOk_configured (ident mask : UInt16) (rtr : Bool) (object : Nat) (callback : Option Nat)
    (canIfindex : Int) (timestamp : Timespec) :
    SlotOk ⟨identWithRtr ident rtr, maskWithFlags mask, object, callback, canIfindex, timestamp⟩ rtr :=
  ⟨maskWithFlags_eff mask, maskWithFlags_rtr mask, identWithRtr_eff ident rtr, identWithRtr_rtr ident rtr⟩

/-- A well-formed slot takes only standard frames whose RTR bit is its own. -/
theorem SlotOk.frame_of_matches {rx : CANrx} {rtr : Bool} (h : SlotOk rx rtr) {canId : UInt32}
    (hm : rx.matches canId = true) :
    canId &&& canEffFlag = 0 ∧ canId &&& canRtrFlag = if rtr then canRtrFlag else 0 := by
  have hx : (canId ^^^ rx.ident) &&& rx.mask = 0 := by simpa [CANrx.matches] using hm
  exact ⟨(UInt32.and_eq_of_xor_and_eq_zero hx h.mask_eff).trans h.ident_eff,
    (UInt32.and_eq_of_xor_and_eq_zero hx h.mask_rtr).trans h.ident_rtr⟩

/-- Every slot is well formed for the `rtr` it was last configured with. -/
structure SlotsWellFormed (m : CANmodule) (rtrs : List Bool) : Prop where
  length_eq : rtrs.length = m.rxArray.length
  slot_ok : ∀ (i : Nat) (rx : CANrx) (rtr : Bool), m.rxArray[i]? = some rx → rtrs[i]? = some rtr →
    SlotOk rx rtr

/-- The module states reachable through `CO_CANmodule_init`, `CO_CANrxBufferInit`,
    `CO_CANsetNormalMode` and `CO_CANrxFromEpoll`, with the `rtr` each slot was last
    configured with (`false` for a slot never configured). -/
inductive RxReachable : CANmodule → List Bool → Prop
  | init (m : CANmodule) (rxSize : Nat) (txArray : List CANtx) (canIfindex : Int)
      (env : AddInterfaceEnv) :
      RxReachable (m.canModuleInit rxSize txArray canIfindex env).1 (List.replicate rxSize false)
  | rxBufferInit {m : CANmodule} {rtrs : List Bool} (c : RxBufferInitCall) :
      RxReachable m rtrs → RxReachable (c.apply m) (rtrs.set c.index c.rtr)
  | setNormalMode {m : CANmodule} {rtrs : List Bool} (setsockoptOk : Int → Bool) :
      RxReachable m rtrs → RxReachable (m.canSetNormalMode setsockoptOk) rtrs
  | rxFromEpoll {m : CANmodule} {rtrs : List Bool} (ev : EpollEvent) (rr : RecvResult)
      (now : Timespec) :
      RxReachable m rtrs → RxReachable (m.canRxFromEpoll ev rr now).module rtrs

/-- What `CO_CANrxFromEpoll` does to the slots: nothing, or one stamp. -/
theorem canRxFromEpoll_rxArray (m : CANmodule) (ev : EpollEvent) (rr : RecvResult) (now : Timespec) :
    (m.canRxFromEpoll ev rr now).module.rxArray = m.rxArray ∨
      ∃ i ts ifi, (m.canRxFromEpoll ev rr now).module.rxArray =
        m.rxArray.modify (fun rx => { rx with timestamp := ts, canIfindex := ifi }) i := by
  cases hk : m.canInterfaces.findIdx? (·.fd = ev.fd) with
  | none => exact .inl (by rw [canRxFromEpoll_of_none m ev rr now hk])
  | some k =>
    by_cases hq : Delivers ev rr ∧ m.canNormal = true
    · rw [canRxFromEpoll_of_delivers m ev rr now hk hq.1 hq.2]
      unfold rxFrame
      split
      · exact .inl (by simp)
      · dsimp only
        split
        · exact .inr ⟨_, _, _, by simp; exact rfl⟩
        · exact .inl (by simp)
    · rcases canRxFromEpoll_of_not_delivers m ev rr now hk hq with h | ⟨-, h⟩ <;> rw [h]
      · exact .inl rfl
      · exact .inl (by simp)

section wellFormed

variable {m : CANmodule} {rtrs : List Bool}

theorem slotsWellFormed_init (m : CANmodule) (rxSize : Nat) (txArray : List CANtx)
    (canIfindex : Int) (env : AddInterfaceEnv) :
    SlotsWellFormed (m.canModuleInit rxSize txArray canIfindex env).1 (List.replicate rxSize false) := by
  refine ⟨by simp, fun i rx rtr hrx hrtr => ?_⟩
  simp only [canModuleInit_rxArray, List.getElem?_replicate] at hrx hrtr
  split at hrx
  · simp only [↓reduceIte, Option.some.injEq, *] at hrx hrtr
    subst hrx hrtr
    exact slotOk_rxSlotInit
  · cases hrx

theorem slotsWellFormed_rxBufferInit (c : RxBufferInitCall) (h : SlotsWellFormed m rtrs) :
    SlotsWellFormed (c.apply m) (rtrs.set c.index c.rtr) := by
  rcases Nat.lt_or_ge c.index m.rxArray.length with hlt | hge
  · obtain ⟨ifs, hm⟩ := canRxBufferInit_eq m c.setsockoptOk c.ident c.mask c.rtr c.object
      c.callback hlt
    simp only [RxBufferInitCall.apply, hm]
    refine ⟨by simp [h.length_eq], fun i rx rtr hrx hrtr => ?_⟩
    by_cases hi : c.index = i
    · subst hi
      rw [List.getElem?_set_self hlt, Option.some.injEq] at hrx
      rw [List.getElem?_set_self (h.length_eq ▸ hlt), Option.some.injEq] at hrtr
      subst hrx hrtr
      exact slotOk_configured _ _ _ _ _ _ _
    · rw [List.getElem?_set_ne hi] at hrx hrtr
      exact h.slot_ok i rx rtr hrx hrtr
  · have hg : rtrs.set c.index c.rtr = rtrs := List.set_eq_of_length_le (h.length_eq ▸ hge)
    simp only [RxBufferInitCall.apply, canRxBufferInit_of_le m c.setsockoptOk c.ident c.mask c.rtr
      c.object c.callback hge, hg]
    exact h

theorem slotsWellFormed_setNormalMode (setsockoptOk : Int → Bool) (h : SlotsWellFormed m rtrs) :
    SlotsWellFormed (m.canSetNormalMode setsockoptOk) rtrs := by
  obtain ⟨ifs, b, hm⟩ := canSetNormalMode_eq m setsockoptOk
  rw [hm]
  exact ⟨h.length_eq, h.slot_ok⟩

theorem slotsWellFormed_rxFromEpoll (ev : EpollEvent) (rr : RecvResult) (now : Timespec)
    (h : SlotsWellFormed m rtrs) : SlotsWellFormed (m.canRxFromEpoll ev rr now).module rtrs := by
  rcases canRxFromEpoll_rxArray m ev rr now with hr | ⟨j, ts, ifi, hr⟩
  · exact ⟨hr ▸ h.length_eq, hr ▸ h.slot_ok⟩
  · refine ⟨by simp [hr, h.length_eq], fun i rx rtr hrx hrtr => ?_⟩
    rw [hr, List.getElem?_modify] at hrx
    cases hi : m.rxArray[i]? with
    | none => simp [hi] at hrx
    | some rx₀ =>
      -- a stamp keeps the identifier and the mask
      have h₀ := h.slot_ok i rx₀ rtr hi hrtr
      rw [hi] at hrx
      split at hrx <;> (cases hrx; exact ⟨h₀.1, h₀.2, h₀.3, h₀.4⟩)

/-- The slot invariant holds in every reachable state. -/
theorem slotsWellFormed_of_reachable (h : RxReachable m rtrs) : SlotsWellFormed m rtrs := by
  induction h with
  | init m rxSize txArray canIfindex env => exact slotsWellFormed_init m rxSize txArray canIfindex env
  | rxBufferInit c _ ih => exact slotsWellFormed_rxBufferInit c ih
  | setNormalMode setsockoptOk _ ih => exact slotsWellFormed_setNormalMode setsockoptOk ih
  | rxFromEpoll ev rr now _ ih => exact slotsWellFormed_rxFromEpoll ev rr now ih

end wellFormed

/-! ## The dispatch law -/

section dispatch

variable (m : CANmodule) (ev : EpollEvent) (rr : RecvResult) (now : Timespec)
  {k : Nat} {iface : CANinterface}

/-- An error frame delivered in normal mode reaches the serving interface's error handler. -/
theorem rxFromEpoll_errorFrame (hk : FirstInterface m.canInterfaces ev.fd k iface)
    (hd : Delivers ev rr) (hn : m.canNormal = true) (he : rr.frame.canId &&& canErrFlag ≠ 0) :
    let r := m.canRxFromEpoll ev rr now
    r.calls = [] ∧ r.module.rxArray = m.rxArray ∧ r.msgIndex = none ∧
    r.module.canInterfaces[k]? =
      some { iface with errorhandler := (iface.errorhandler.canErrorRxMsgError rr.frame now).1 } ∧
    ∀ j ≠ k, r.module.canInterfaces[j]? = m.canInterfaces[j]? := by
  rw [canRxFromEpoll_of_delivers m ev rr now (firstInterface_findIdx? hk) hd hn,
    rxFrame_of_errorFrame _ _ _ _ _ he]
  exact ⟨rfl, rfl, rfl, by simp [List.getElem?_modify, hk.1],
    fun j hj => by simp [List.getElem?_modify, Ne.symm hj]⟩

/-- A data frame delivered in normal mode goes to the lowest matching slot: its callback runs
    and it alone is stamped; the slot invariant fixes the frame's EFF and RTR bits. -/
theorem rxFromEpoll_dataFrame {rtrs : List Bool} (hsw : SlotsWellFormed m rtrs)
    (hk : FirstInterface m.canInterfaces ev.fd k iface) (hd : Delivers ev rr)
    (hn : m.canNormal = true) (he : rr.frame.canId &&& canErrFlag = 0) {i : Nat} {rx : CANrx}
    (hf : FirstMatch m.rxArray rr.frame.canId i rx) :
    let r := m.canRxFromEpoll ev rr now
    r.calls = (rx.callback.map fun cb => ⟨cb, rx.object, rr.frame⟩).toList ∧ r.msgIndex = some i ∧
    r.module.rxArray[i]? = some { rx with timestamp := rr.timestamp, canIfindex := iface.canIfindex } ∧
    (∀ j ≠ i, r.module.rxArray[j]? = m.rxArray[j]?) ∧
    r.module.canInterfaces[k]? = some { iface with errorhandler := iface.errorhandler.canErrorRxMsg } ∧
    rr.frame.canId &&& canEffFlag = 0 ∧
    ∃ rtr, rtrs[i]? = some rtr ∧ rr.frame.canId &&& canRtrFlag = if rtr then canRtrFlag else 0 := by
  have hk₁ : (m.canInterfaces.modify (fun i => { i with errorhandler := i.errorhandler.canErrorRxMsg })
      k)[k]? = some { iface with errorhandler := iface.errorhandler.canErrorRxMsg } := by
    simp [List.getElem?_modify, hk.1]
  -- the slot's `rtr`, and what the slot invariant says of the frame
  have hi : i < rtrs.length := hsw.length_eq ▸ (List.getElem?_eq_some_iff.mp hf.1).1
  have hframe := (hsw.slot_ok i rx _ hf.1 (List.getElem?_eq_getElem hi)).frame_of_matches hf.2.1
  rw [canRxFromEpoll_of_delivers m ev rr now (firstInterface_findIdx? hk) hd hn,
    rxFrame_of_firstMatch _ _ _ _ _ he hf]
  refine ⟨rfl, rfl, ?_, fun j hj => ?_, hk₁, hframe.1, _, List.getElem?_eq_getElem hi, hframe.2⟩
  · simp [List.getElem?_modify, hf.1, hk₁]
  · simp [List.getElem?_modify, Ne.symm hj]

/-- A data frame that no slot takes runs no callback and changes no slot. -/
theorem rxFromEpoll_no_match (hk : FirstInterface m.canInterfaces ev.fd k iface)
    (hd : Delivers ev rr) (hn : m.canNormal = true) (he : rr.frame.canId &&& canErrFlag = 0)
    (h : ∀ rx ∈ m.rxArray, rx.matches rr.frame.canId = false) :
    let r := m.canRxFromEpoll ev rr now
    r.calls = [] ∧ r.module.rxArray = m.rxArray ∧ r.msgIndex = some (-1) := by
  rw [canRxFromEpoll_of_delivers m ev rr now (firstInterface_findIdx? hk) hd hn,
    rxFrame_of_no_match _ _ _ _ _ he h]
  exact ⟨rfl, rfl, rfl⟩

/-- Outside normal mode nothing is dispatched: no callback, no slot, no index; and after a
    whole frame the module is as it was, error handlers included. -/
theorem rxFromEpoll_outside_normal (hn : m.canNormal = false) :
    let r := m.canRxFromEpoll ev rr now
    r.calls = [] ∧ r.module.rxArray = m.rxArray ∧ r.msgIndex = none ∧ (rr.n = canMtu → r.module = m) := by
  cases hk : m.canInterfaces.findIdx? (·.fd = ev.fd) with
  | none =>
    rw [canRxFromEpoll_of_none m ev rr now hk]
    exact ⟨rfl, rfl, rfl, fun _ => rfl⟩
  | some k =>
    have hq : ¬(Delivers ev rr ∧ m.canNormal = true) := by simp [hn]
    rcases canRxFromEpoll_of_not_delivers m ev rr now hk hq with h | ⟨hs, h⟩ <;> rw [h]
    · exact ⟨rfl, rfl, rfl, fun _ => rfl⟩
    · exact ⟨rfl, rfl, rfl, fun h' => absurd h' hs⟩

end dispatch

/-- The dispatch law of `CO_CANrxFromEpoll` for one event `ev` and what `recvmsg()` finds,
    in module state `m` whose slots were last configured with the `rtr`s `rtrs`. -/
structure DispatchLaw (m : CANmodule) (rtrs : List Bool) (ev : EpollEvent) (rr : RecvResult)
    (now : Timespec) : Prop where
  consumed_iff :
    (m.canRxFromEpoll ev rr now).consumed = true ↔ ∃ i ∈ m.canInterfaces, i.fd = ev.fd
  errorFrame : ∀ k iface, FirstInterface m.canInterfaces ev.fd k iface → Delivers ev rr →
    m.canNormal = true → rr.frame.canId &&& canErrFlag ≠ 0 →
    let r := m.canRxFromEpoll ev rr now
    r.calls = [] ∧ r.module.rxArray = m.rxArray ∧ r.msgIndex = none ∧
    r.module.canInterfaces[k]? =
      some { iface with errorhandler := (iface.errorhandler.canErrorRxMsgError rr.frame now).1 } ∧
    ∀ j ≠ k, r.module.canInterfaces[j]? = m.canInterfaces[j]?
  dataFrame : ∀ k iface i rx, FirstInterface m.canInterfaces ev.fd k iface → Delivers ev rr →
    m.canNormal = true → rr.frame.canId &&& canErrFlag = 0 →
    FirstMatch m.rxArray rr.frame.canId i rx →
    let r := m.canRxFromEpoll ev rr now
    r.calls = (rx.callback.map fun cb => ⟨cb, rx.object, rr.frame⟩).toList ∧ r.msgIndex = some i ∧
    r.module.rxArray[i]? = some { rx with timestamp := rr.timestamp, canIfindex := iface.canIfindex } ∧
    (∀ j ≠ i, r.module.rxArray[j]? = m.rxArray[j]?) ∧
    r.module.canInterfaces[k]? = some { iface with errorhandler := iface.errorhandler.canErrorRxMsg } ∧
    rr.frame.canId &&& canEffFlag = 0 ∧
    ∃ rtr, rtrs[i]? = some rtr ∧ rr.frame.canId &&& canRtrFlag = if rtr then canRtrFlag else 0
  noMatch : ∀ k iface, FirstInterface m.canInterfaces ev.fd k iface → Delivers ev rr →
    m.canNormal = true → rr.frame.canId &&& canErrFlag = 0 →
    (∀ rx ∈ m.rxArray, rx.matches rr.frame.canId = false) →
    let r := m.canRxFromEpoll ev rr now
    r.calls = [] ∧ r.module.rxArray = m.rxArray ∧ r.msgIndex = some (-1)
  outsideNormal : m.canNormal = false →
    let r := m.canRxFromEpoll ev rr now
    r.calls = [] ∧ r.module.rxArray = m.rxArray ∧ r.msgIndex = none ∧ (rr.n = canMtu → r.module = m)

/-- In every state reached through `CO_CANmodule_init`, `CO_CANrxBufferInit`,
    `CO_CANsetNormalMode` and `CO_CANrxFromEpoll`, every event obeys the dispatch law. -/
theorem rxFromEpoll_dispatch {m : CANmodule} {rtrs : List Bool} (hr : RxReachable m rtrs)
    (ev : EpollEvent) (rr : RecvResult) (now : Timespec) : DispatchLaw m rtrs ev rr now :=
  have hsw := slotsWellFormed_of_reachable hr
  ⟨canRxFromEpoll_consumed m ev rr now,
   fun _ _ hk hd hn he => rxFromEpoll_errorFrame m ev rr now hk hd hn he,
   fun _ _ _ _ hk hd hn he hf => rxFromEpoll_dataFrame m ev rr now hsw hk hd hn he hf,
   fun _ _ hk hd hn he h => rxFromEpoll_no_match m ev rr now hk hd hn he h,
   rxFromEpoll_outside_normal m ev rr now⟩

/-- A freshly initialised module with two slots, and a data frame on its socket. -/
theorem rxFromEpoll_dispatch_fresh_module :
    let m := ((⟨[], [], [], 0, [], 0, false, 0⟩ : CANmodule).canModuleInit 2 [] 1
      ⟨none, 3, ⟨0, -1, CANinterfaceErrorhandler.canErrorInit (-1), [], []⟩, fun _ => true⟩).1
    RxReachable m (List.replicate 2 false) ∧
      DispatchLaw m (List.replicate 2 false) ⟨epollIn, 3⟩
        ⟨16, ⟨0x123, List.replicate 8 0, rfl⟩, Timespec.zero, 0⟩ Timespec.zero :=
  have h := RxReachable.init ⟨[], [], [], 0, [], 0, false, 0⟩ 2 [] 1
    ⟨none, 3, ⟨0, -1, CANinterfaceErrorhandler.canErrorInit (-1), [], []⟩, fun _ => true⟩
  ⟨h, rxFromEpoll_dispatch h _ _ _⟩

end CANopenLinux
