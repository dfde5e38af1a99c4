import Mathlib.Algebra.Order.Ring.Nat
import CANopenLinux.Spec.GatewaySession

/-!
# The idle timeout of the gateway connection

`CO_epoll_createGtw` turns `socketTimeout_ms` into `socketTimeout_us`, clamped so that the
timer keeps one second of headroom below `UINT_MAX`. The clamp tests the milliseconds
against a bound computed in microseconds, so it also clamps timeouts whose product fits
(`socketTimeoutUs_toNat`).

`CO_epoll_processGtw` checks the idle timer before it adds the pass's `Δt`, and an accept or a
read resets the timer before the check of the same pass. Over idle passes with `Δt` within
the headroom, the timer never wraps, and the connection is torn down at the first pass whose
timer, the sum of the `Δt` added since the reset, is past the timeout (`gtwIdle_timer`).
The `Δt` of the pass that reset it is the time before the activity. So the connection can be
torn down sooner than the timeout after the last read (`gtwTimeout_early`).
-/

namespace CANopenLinux

/-- `socketTimeout_us` as a number: `socketTimeout_ms * 1000` below 3294967 ms, and
    `UINT_MAX - 1000000` from there on. -/
theorem socketTimeoutUs_toNat (ms : UInt32) :
    (socketTimeoutUs ms).toNat = if ms.toNat < 3294967 then ms.toNat * 1000 else 4293967295 := by
  have hb : (4294967295 / 1000 - 1000000 : UInt32) = 3294967 := by decide
  unfold socketTimeoutUs
  rw [hb]
  by_cases h : ms.toNat < 3294967
  · have h1000 : (1000 : UInt32).toNat = 1000 := rfl
    rw [if_pos (show ms < 3294967 from h), if_pos h,
      UInt32.toNat_mul_of_lt (by rw [h1000]; omega), h1000]
  · rw [if_neg (show ¬ms < 3294967 from h), if_neg h]
    rfl

/-- The connection is up: a timeout is set, and the listener and the connection are open. -/
def EpollGtw.Established (g : EpollGtw) : Prop :=
  0 < g.socketTimeoutUs ∧ 0 < g.gtwaFdSocket ∧ 0 < g.gtwaFd

/-- Passes of `CO_epoll_processGtw` without an event for the gateway, one per `Δt`. -/
def gtwIdle (r : GtwResult) (dts : List UInt32) : GtwResult := dts.foldl gtwTimeout r

/-- Without a connection the timeout does nothing. -/
theorem gtwTimeout_of_closed {r : GtwResult} (h : r.gtw.gtwaFd = -1) (dt : UInt32) :
    gtwTimeout r dt = r := by
  unfold gtwTimeout
  rw [if_neg (by rw [h]; omega)]

theorem gtwIdle_of_closed {r : GtwResult} (h : r.gtw.gtwaFd = -1) (dts : List UInt32) :
    gtwIdle r dts = r := by
  induction dts with
  | nil => rfl
  | cons dt dts ih => rw [gtwIdle, List.foldl_cons, gtwTimeout_of_closed h]; exact ih

/-- The idle timer over passes whose `Δt` are within the headroom of one second. The
    connection stays up exactly while every check finds the timer, the value at the reset plus
    the `Δt` added since, at most `socketTimeout_us`; the timer then holds that sum without
    wrapping. Otherwise it is torn down. -/
theorem gtwIdle_timer {r : GtwResult} (hest : r.gtw.Established)
    (hT : r.gtw.socketTimeoutUs.toNat ≤ 4293967295)
    (ht : r.gtw.socketTimeoutTmrUs.toNat ≤ r.gtw.socketTimeoutUs.toNat + 1000000)
    (dts : List UInt32) (hdts : ∀ dt ∈ dts, dt.toNat ≤ 1000000) :
    let T := r.gtw.socketTimeoutUs.toNat
    let t (i : Nat) := r.gtw.socketTimeoutTmrUs.toNat + ((dts.take i).map UInt32.toNat).sum
    ((gtwIdle r dts).gtw.gtwaFd = r.gtw.gtwaFd ↔ ∀ i < dts.length, t i ≤ T) ∧
      ((∀ i < dts.length, t i ≤ T) →
        (gtwIdle r dts).gtw.socketTimeoutTmrUs.toNat = t dts.length) ∧
      ((gtwIdle r dts).gtw.gtwaFd = r.gtw.gtwaFd ∨ (gtwIdle r dts).gtw.gtwaFd = -1) := by
  induction dts generalizing r with
  | nil => simp [gtwIdle]
  | cons dt dts ih =>
    intro T t
    obtain ⟨h₁, h₂, h₃⟩ := hest
    have hdt : dt.toNat ≤ 1000000 := hdts dt (List.mem_cons_self _ _)
    have hstep : gtwIdle r (dt :: dts) = gtwIdle (gtwTimeout r dt) dts := rfl
    rw [hstep]
    by_cases hlt : r.gtw.socketTimeoutUs < r.gtw.socketTimeoutTmrUs
    · -- the first check is past the timeout: torn down now
      have hclosed : (gtwTimeout r dt).gtw.gtwaFd = -1 := by
        simp only [gtwTimeout, if_pos (And.intro h₁ (And.intro h₂ h₃)), if_pos hlt]
      rw [gtwIdle_of_closed hclosed, hclosed]
      have hlt' : T < r.gtw.socketTimeoutTmrUs.toNat := hlt
      have hfirst : ¬∀ i < (dt :: dts).length, t i ≤ T :=
        fun hall => absurd (hall 0 (Nat.succ_pos _)) (Nat.not_le_of_lt hlt')
      exact ⟨iff_of_false (by omega) hfirst, fun hall => absurd hall hfirst, .inr rfl⟩
    · -- the timer advances by `Δt`
      have hle : r.gtw.socketTimeoutTmrUs.toNat ≤ T := Nat.le_of_not_lt hlt
      have hadd : (r.gtw.socketTimeoutTmrUs + dt).toNat = r.gtw.socketTimeoutTmrUs.toNat + dt.toNat :=
        UInt32.toNat_add_of_lt (by omega)
      have hnext : gtwTimeout r dt = { r with gtw := { r.gtw with
          socketTimeoutTmrUs := r.gtw.socketTimeoutTmrUs + dt } } := by
        simp only [gtwTimeout, if_pos (And.intro h₁ (And.intro h₂ h₃)), if_neg hlt]
      have ih' := @ih (gtwTimeout r dt) (by rw [hnext]; exact ⟨h₁, h₂, h₃⟩)
        (by rw [hnext]; exact hT) (by rw [hnext]; dsimp only; rw [hadd]; omega)
        (fun dt' h' => hdts dt' (List.mem_cons_of_mem _ h'))
      rw [hnext] at ih' ⊢
      dsimp only at ih' ⊢
      rw [hadd] at ih'
      have hshift : ∀ i, r.gtw.socketTimeoutTmrUs.toNat + dt.toNat +
          ((dts.take i).map UInt32.toNat).sum = t (i + 1) := fun i => by
        simp only [t, List.take_succ_cons, List.map_cons, List.sum_cons]
        omega
      simp only [hshift] at ih'
      have hall : (∀ i < (dt :: dts).length, t i ≤ T) ↔ ∀ i < dts.length, t (i + 1) ≤ T := by
        rw [List.length_cons, Nat.forall_lt_succ_left]
        exact and_iff_right hle
      rw [hall]
      exact ih'

/-- Two departures from the configured idle timeout. A timeout of 3294967 ms becomes
    4293967295 µs, about 1000 s more, though 3294967000 µs fits in 32 bits. And on TCP port
    2000 with a timeout of 1 ms: a client is accepted on descriptor 4, and its first bytes
    arrive in a pass that waited 5 ms. The next pass, 1 µs later, tears the connection
    down. -/
theorem gtwTimeout_early :
    let g₀ : EpollGtw := ⟨2000, 1000, 0, 3, -1, false⟩
    let k₀ : GtwKernel := ⟨[3], [3], true⟩
    let r₁ := processGtw g₀ { k₀ with listenerArmed := false } true ⟨epollIn, 3⟩
      ⟨some 4, true, none, 0, false⟩ 0
    let r₂ := processGtw r₁.gtw r₁.kernel true ⟨epollIn, 4⟩
      ⟨none, true, some [0x31, 0x0A], 100, false⟩ 5000
    let r₃ := processGtw r₂.gtw r₂.kernel false ⟨0, 0⟩ ⟨none, true, none, 0, false⟩ 1
    (socketTimeoutUs 3294967).toNat = 4293967295 ∧ 3294967 * 1000 < 4294967295 - 1000000 ∧
      createGtw ⟨[], [], false⟩ 2000 1 ⟨some 3, true, true, true, true⟩ = .ok (g₀, k₀) ∧
      r₂.gtw.gtwaFd = 4 ∧ r₂.gtwaIn = [0x31, 0x0A] ∧ r₃.gtw.gtwaFd = -1 :=
  ⟨by decide, by decide, rfl, by decide, by decide, by decide⟩

end CANopenLinux
