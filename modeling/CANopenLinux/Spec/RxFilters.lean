import CANopenLinux.Native.DriverIo
import CANopenLinux.ForStd.List

/-!
# Kernel filters and the receive scan agree

Two matchers decide which frames reach a slot. The kernel passes a frame when one filter of
the vector `setRxFilters` installed admits it, and `CO_CANrxMsg` scans `rxArray` with
`((ident ^ slot.ident) & slot.mask) == 0`. `setRxFilters` copies `rxFilter` but drops the
`(0, 0)` entries, so the two agree only if no slot that `CO_CANrxBufferInit` configured ever
has a `(0, 0)` entry.

The invariant `RxFilterInv` relates a module to the flags saying which slots have been
configured: the filter table holds the configured slots' pairs and `(0, 0)` elsewhere, and
every configured mask compares the EFF and RTR bits, so it is never zero.

## Key results

- `rxFilterInv_run`: the invariant holds after `CO_CANmodule_init` and any calls
- `rxFiltersCpy_eq_initialisedPairs`: the installed vector is the configured slots' pairs
- `rxFilters_agree_with_rxMsg`: the vector, and what the kernel admits with it
-/

namespace CANopenLinux

open CANmodule

/-- SocketCAN's rule for one filter: `(can_id & mask) == (filter.can_id & mask)`. -/
def CanFilter.admits (f : CanFilter) (canId : UInt32) : Bool :=
  canId &&& f.canMask == f.canId &&& f.canMask

/-- A socket with filter list `fs` takes a frame when some filter admits it; the empty list
    that `disableRx` installs takes none. -/
def kernelAdmits (fs : List CanFilter) (canId : UInt32) : Bool := fs.any (·.admits canId)

/-- The kernel rule on a slot's own pair is the `CO_CANrxMsg` test. -/
theorem CanFilter.admits_slot (rx : CANrx) (canId : UInt32) :
    (⟨rx.ident, rx.mask⟩ : CanFilter).admits canId = rx.matches canId := by
  simp only [admits, CANrx.matches, Bool.beq_eq_decide_eq, UInt32.xor_and_eq_zero_iff]

/-- One `CO_CANrxBufferInit` call, with the kernel's answers to its `setsockopt`. -/
structure RxBufferInitCall where
  index : Nat
  ident : UInt16
  mask : UInt16
  rtr : Bool
  object : Nat
  callback : Option Nat
  setsockoptOk : Int → Bool

/-- The module after the call. -/
def RxBufferInitCall.apply (c : RxBufferInitCall) (m : CANmodule) : CANmodule :=
  (m.canRxBufferInit c.index c.ident c.mask c.rtr c.object c.callback c.setsockoptOk).1

/-- Which slots a sequence of calls configured, as flags beside `rxArray`. -/
def initialised (rxSize : Nat) (calls : List RxBufferInitCall) : List Bool :=
  calls.foldl (fun g c => g.set c.index true) (List.replicate rxSize false)

/-- The filter entry of a slot: its pair once configured, `(0, 0)` before. -/
def slotFilter (rx : CANrx) (configured : Bool) : CanFilter :=
  if configured then ⟨rx.ident, rx.mask⟩ else ⟨0, 0⟩

/-- The `(ident, mask)` pairs of the configured slots, in slot order. -/
def initialisedPairs (rxArray : List CANrx) (g : List Bool) : List CanFilter :=
  (rxArray.zip g).filterMap fun p => if p.2 then some ⟨p.1.ident, p.1.mask⟩ else none

theorem maskWithFlags_eff (mask : UInt16) : maskWithFlags mask &&& canEffFlag = canEffFlag :=
  UInt32.or_and_of_and_eq (UInt32.or_and_self _ _)

theorem maskWithFlags_rtr (mask : UInt16) : maskWithFlags mask &&& canRtrFlag = canRtrFlag :=
  UInt32.or_and_self _ _

/-- The RX configuration invariant. -/
structure RxFilterInv (m : CANmodule) (g : List Bool) : Prop where
  length_eq : g.length = m.rxArray.length
  rxFilter_eq : m.rxFilter = List.zipWith slotFilter m.rxArray g
  mask_flags : ∀ p ∈ m.rxArray.zip g, p.2 = true →
    p.1.mask &&& canEffFlag = canEffFlag ∧ p.1.mask &&& canRtrFlag = canRtrFlag

theorem rxFilterInv_init (m : CANmodule) (rxSize : Nat) (txArray : List CANtx)
    (canIfindex : Int) (env : AddInterfaceEnv)
    (h : (m.canModuleInit rxSize txArray canIfindex env).2 = .no) :
    RxFilterInv (m.canModuleInit rxSize txArray canIfindex env).1 (List.replicate rxSize false) := by
  obtain ⟨ifs, hm⟩ := canModuleInit_eq m rxSize txArray canIfindex env h
  rw [hm]
  refine ⟨by simp, ?_, fun p hp hp2 => ?_⟩
  · induction rxSize with
    | zero => rfl
    | succ n ih => simp [List.replicate_succ, ih, slotFilter]
  · have := List.eq_of_mem_replicate (List.of_mem_zip hp).2
    simp_all

theorem rxFilterInv_step {m : CANmodule} {g : List Bool} (c : RxBufferInitCall)
    (hinv : RxFilterInv m g) : RxFilterInv (c.apply m) (g.set c.index true) := by
  rcases Nat.lt_or_ge c.index m.rxArray.length with hlt | hge
  · obtain ⟨ifs, hm⟩ := canRxBufferInit_eq m c.setsockoptOk c.ident c.mask c.rtr c.object
      c.callback hlt
    simp only [RxBufferInitCall.apply, hm]
    refine ⟨by simp [hinv.length_eq], ?_, fun p hp hp2 => ?_⟩
    · rw [hinv.rxFilter_eq, List.zipWith_set]; rfl
    · rw [List.zip_set] at hp
      rcases List.mem_or_eq_of_mem_set hp with hp | rfl
      · exact hinv.mask_flags p hp hp2
      · exact ⟨maskWithFlags_eff _, maskWithFlags_rtr _⟩
  · have hg : g.set c.index true = g := List.set_eq_of_length_le (by rw [hinv.length_eq]; exact hge)
    simp only [RxBufferInitCall.apply, canRxBufferInit_of_le m c.setsockoptOk c.ident c.mask c.rtr
      c.object c.callback hge, hg]
    exact hinv

theorem rxFilterInv_foldl (calls : List RxBufferInitCall) {m : CANmodule} {g : List Bool}
    (hinv : RxFilterInv m g) :
    RxFilterInv (calls.foldl (fun m c => c.apply m) m) (calls.foldl (fun g c => g.set c.index true) g) := by
  induction calls generalizing m g with
  | nil => exact hinv
  | cons c calls ih => exact ih (rxFilterInv_step c hinv)

/-- The invariant over `CO_CANmodule_init` followed by any `CO_CANrxBufferInit` calls. -/
theorem rxFilterInv_run (m : CANmodule) (rxSize : Nat) (txArray : List CANtx)
    (canIfindex : Int) (env : AddInterfaceEnv) (calls : List RxBufferInitCall)
    (h : (m.canModuleInit rxSize txArray canIfindex env).2 = .no) :
    RxFilterInv (calls.foldl (fun m c => c.apply m) (m.canModuleInit rxSize txArray canIfindex env).1)
      (initialised rxSize calls) :=
  rxFilterInv_foldl calls (rxFilterInv_init m rxSize txArray canIfindex env h)

/-- Dropping the `(0, 0)` entries of the slot filters keeps exactly the configured slots,
    when no configured mask is zero. -/
theorem rxFiltersCpy_zipWith_slotFilter (rxArray : List CANrx) (g : List Bool)
    (hmask : ∀ p ∈ rxArray.zip g, p.2 = true → p.1.mask ≠ 0) :
    rxFiltersCpy (List.zipWith slotFilter rxArray g) = initialisedPairs rxArray g := by
  induction rxArray generalizing g with
  | nil => rfl
  | cons rx rxs ih =>
    cases g with
    | nil => rfl
    | cons b g =>
      have ih' := ih g fun p hp => hmask p (List.mem_cons_of_mem _ hp)
      cases b
      · simpa [rxFiltersCpy, initialisedPairs, slotFilter] using ih'
      · simpa [rxFiltersCpy, initialisedPairs, slotFilter, hmask (rx, true) (List.mem_cons_self _ _) rfl]
          using ih'

/-- No configured slot is dropped from the vector, and every unconfigured one is. -/
theorem rxFiltersCpy_eq_initialisedPairs {m : CANmodule} {g : List Bool} (hinv : RxFilterInv m g) :
    rxFiltersCpy m.rxFilter = initialisedPairs m.rxArray g := by
  rw [hinv.rxFilter_eq]
  refine rxFiltersCpy_zipWith_slotFilter _ _ fun p hp hp2 h0 => ?_
  -- a configured mask contains the EFF bit, so it is not zero
  have := (hinv.mask_flags p hp hp2).1
  rw [h0] at this
  exact absurd this (by decide)

/-- The kernel admits a frame with the configured slots' pairs exactly when a configured
    slot matches it under the `CO_CANrxMsg` test. -/
theorem kernelAdmits_initialisedPairs (rxArray : List CANrx) (g : List Bool) (canId : UInt32) :
    kernelAdmits (initialisedPairs rxArray g) canId = true ↔
      ∃ p ∈ rxArray.zip g, p.2 = true ∧ p.1.matches canId = true := by
  simp only [kernelAdmits, initialisedPairs, List.any_eq_true, List.mem_filterMap,
    Option.ite_none_right_eq_some, Option.some.injEq]
  constructor
  · rintro ⟨f, ⟨p, hp, hp2, rfl⟩, hf⟩
    exact ⟨p, hp, hp2, by rwa [CanFilter.admits_slot] at hf⟩
  · rintro ⟨p, hp, hp2, hm⟩
    exact ⟨_, ⟨p, hp, hp2, rfl⟩, by rwa [CanFilter.admits_slot]⟩

/-- For every RX configuration reached from a successful `CO_CANmodule_init` by
    `CO_CANrxBufferInit` calls, the vector `setRxFilters` builds is the list of the
    configured slots' `(ident, mask)` pairs in slot order; every configured mask carries
    `CAN_EFF_FLAG` and `CAN_RTR_FLAG`; and the kernel, filtering with that vector, admits a
    frame exactly when some configured slot matches it under the `CO_CANrxMsg` test. -/
theorem rxFilters_agree_with_rxMsg (m : CANmodule) (rxSize : Nat) (txArray : List CANtx)
    (canIfindex : Int) (env : AddInterfaceEnv) (calls : List RxBufferInitCall)
    (h : (m.canModuleInit rxSize txArray canIfindex env).2 = .no) :
    let m' := calls.foldl (fun m c => c.apply m) (m.canModuleInit rxSize txArray canIfindex env).1
    rxFiltersCpy m'.rxFilter = initialisedPairs m'.rxArray (initialised rxSize calls) ∧
    (∀ p ∈ m'.rxArray.zip (initialised rxSize calls), p.2 = true →
      p.1.mask &&& canEffFlag = canEffFlag ∧ p.1.mask &&& canRtrFlag = canRtrFlag) ∧
    ∀ canId : UInt32, kernelAdmits (rxFiltersCpy m'.rxFilter) canId = true ↔
      ∃ p ∈ m'.rxArray.zip (initialised rxSize calls), p.2 = true ∧ p.1.matches canId = true := by
  have hinv := rxFilterInv_run m rxSize txArray canIfindex env calls h
  refine ⟨rxFiltersCpy_eq_initialisedPairs hinv, hinv.mask_flags, fun canId => ?_⟩
  rw [rxFiltersCpy_eq_initialisedPairs hinv]
  exact kernelAdmits_initialisedPairs _ _ canId

/-- One interface on descriptor 3, two slots, and the first configured for the standard
    identifier `0x123`. -/
theorem rxFilters_agree_one_configured_slot :
    let m : CANmodule := ⟨[], [], [], 0, [], 0, false, 0⟩
    let env : AddInterfaceEnv :=
      ⟨none, 3, ⟨0, -1, CANinterfaceErrorhandler.canErrorInit (-1), [], []⟩, fun _ => true⟩
    let calls : List RxBufferInitCall := [⟨0, 0x123, 0x7FF, false, 0, some 0, fun _ => true⟩]
    (m.canModuleInit 2 [] 1 env).2 = .no ∧
    let m' := calls.foldl (fun m c => c.apply m) (m.canModuleInit 2 [] 1 env).1
    rxFiltersCpy m'.rxFilter = initialisedPairs m'.rxArray (initialised 2 calls) ∧
    (∀ p ∈ m'.rxArray.zip (initialised 2 calls), p.2 = true →
      p.1.mask &&& canEffFlag = canEffFlag ∧ p.1.mask &&& canRtrFlag = canRtrFlag) ∧
    ∀ canId : UInt32, kernelAdmits (rxFiltersCpy m'.rxFilter) canId = true ↔
      ∃ p ∈ m'.rxArray.zip (initialised 2 calls), p.2 = true ∧ p.1.matches canId = true :=
  ⟨by decide, rxFilters_agree_with_rxMsg _ 2 [] 1 _ _ (by decide)⟩

end CANopenLinux
