import CANopenLinux.Native.Gateway

/-!
# The gateway session in the socket modes

`GtwInv` is what the socket modes of the gateway are meant to keep:
- the listener is open and in the epoll set;
- `gtwa_fd`, when not `-1`, names an open descriptor in the set;
- the set holds nothing else;
- the listener's one-shot watch is armed exactly when no connection is active.

So no accepted descriptor is overwritten while open, and after every teardown a new client
can connect.

`epoll_wait` only reports descriptors in the set (`GtwDelivers`). It reports the listener only
while its watch is armed, and reporting it disarms the watch. Every run keeps `GtwInv` as long
as `epoll_ctl(EPOLL_CTL_ADD)` of a new connection succeeds and no descriptor of the gateway
reports `EPOLLERR` or `EPOLLHUP` without `EPOLLIN`. EOF and the idle timeout tear a connection
down properly (`gtwInv_of_reachable`).

The two excluded cases break it (`processGtw_hangup_breaks_session`). On a hang-up the code
closes `gtwa_fd` but neither resets it to `-1` nor re-arms the listener. After a failed
`EPOLL_CTL_ADD` it re-arms the listener while `gtwa_fd` holds an open descriptor outside the
set.
-/

namespace CANopenLinux

/-- What `epoll_wait` can report, and what reporting it does to the kernel. The listener is
    reported only while its one-shot watch is armed, and reporting it disarms the watch. A
    descriptor the gateway does not hold can be any other descriptor of the process. The
    gateway's descriptors always report `EPOLLIN`, `EPOLLERR` or `EPOLLHUP`. -/
inductive GtwDelivers (g : EpollGtw) (k : GtwKernel) : EpollEvent → GtwKernel → Prop
  | listener (ev : EpollEvent) : ev.fd = g.gtwaFdSocket → k.listenerArmed = true →
      ev.events &&& (epollIn ||| epollErr ||| epollHup) ≠ 0 →
      GtwDelivers g k ev { k with listenerArmed := false }
  | conn (ev : EpollEvent) : ev.fd ∈ k.registered → ev.fd ≠ g.gtwaFdSocket →
      ev.events &&& (epollIn ||| epollErr ||| epollHup) ≠ 0 → GtwDelivers g k ev k
  | other (ev : EpollEvent) : 0 ≤ ev.fd → ev.fd ∉ k.openFds → GtwDelivers g k ev k

/-- `accept4` hands out a descriptor that is not open. -/
def AcceptFresh (k : GtwKernel) (env : GtwEnv) : Prop :=
  ∀ fd, env.acceptFd = some fd → 0 ≤ fd ∧ fd ∉ k.openFds

/-- The socket-mode runs of the gateway: `CO_epoll_createGtw` on a process holding none of
    the gateway's descriptors, then calls of `CO_epoll_processGtw`. A call comes either after
    an event that `epoll_wait` reported, or after `epoll_wait` timed out (`ep->epoll_new`
    false). `allowed` restricts the events and the kernel's answers. -/
inductive GtwReachable (allowed : EpollGtw → EpollEvent → GtwEnv → Prop) :
    EpollGtw → GtwKernel → Prop
  | create (commandInterface : Int) (socketTimeoutMs : UInt32) (cenv : CreateEnv) (g : EpollGtw)
      (k : GtwKernel) (fd : Int) :
      commandInterface = coCommandIfLocalSocket ∨
        (coCommandIfTcpSocketMin ≤ commandInterface ∧ commandInterface ≤ coCommandIfTcpSocketMax) →
      cenv.socketFd = some fd → 0 < fd →
      createGtw ⟨[], [], false⟩ commandInterface socketTimeoutMs cenv = .ok (g, k) →
      GtwReachable allowed g k
  | event {g : EpollGtw} {k k₁ : GtwKernel} (ev : EpollEvent) (env : GtwEnv) (dt : UInt32) :
      GtwReachable allowed g k → GtwDelivers g k ev k₁ → AcceptFresh k₁ env → allowed g ev env →
      GtwReachable allowed (processGtw g k₁ true ev env dt).gtw (processGtw g k₁ true ev env dt).kernel
  | idle {g : EpollGtw} {k : GtwKernel} (ev : EpollEvent) (env : GtwEnv) (dt : UInt32) :
      GtwReachable allowed g k →
      GtwReachable allowed (processGtw g k false ev env dt).gtw (processGtw g k false ev env dt).kernel

/-- The session invariant of the socket modes. -/
structure GtwInv (g : EpollGtw) (k : GtwKernel) : Prop where
  socket_mode : g.commandInterface ≠ coCommandIfStdio
  listener_pos : 0 < g.gtwaFdSocket
  listener_open : g.gtwaFdSocket ∈ k.openFds
  listener_registered : g.gtwaFdSocket ∈ k.registered
  conn_open : 0 ≤ g.gtwaFd → g.gtwaFd ∈ k.openFds
  conn_registered : 0 ≤ g.gtwaFd → g.gtwaFd ∈ k.registered
  conn_ne_listener : g.gtwaFd ≠ g.gtwaFdSocket
  registered_only : ∀ x ∈ k.registered, x = g.gtwaFdSocket ∨ (x = g.gtwaFd ∧ 0 ≤ g.gtwaFd)
  registered_nodup : k.registered.Nodup
  armed_iff : k.listenerArmed = true ↔ g.gtwaFd < 0

/-- The runs `GtwInv` is kept over: every `EPOLL_CTL_ADD` of a connection may succeed, and no
    event on the gateway's descriptors is an error or hang-up without `EPOLLIN`. -/
def NoHangup (g : EpollGtw) (ev : EpollEvent) (env : GtwEnv) : Prop :=
  env.addOk = true ∧ ((ev.fd = g.gtwaFdSocket ∨ ev.fd = g.gtwaFd) →
    ev.events &&& epollIn ≠ 0 ∨ ev.events &&& (epollErr ||| epollHup) = 0)

namespace GtwInv

variable {g g' : EpollGtw} {k : GtwKernel}

/-- The invariant reads only the mode and the two descriptors. -/
theorem of_fields (h : GtwInv g k) (h₁ : g'.commandInterface = g.commandInterface)
    (h₂ : g'.gtwaFdSocket = g.gtwaFdSocket) (h₃ : g'.gtwaFd = g.gtwaFd) : GtwInv g' k := by
  obtain ⟨a, b, c, d, e, f, i, j, l, m⟩ := h
  exact ⟨h₁ ▸ a, h₂ ▸ b, h₂ ▸ c, h₂ ▸ d, h₃ ▸ e, h₃ ▸ f, h₂ ▸ h₃ ▸ i, h₂ ▸ h₃ ▸ j, l, h₃ ▸ m⟩

/-- An active connection is open and in the set; an inactive one holds nothing. -/
theorem registered_open (h : GtwInv g k) {x : Int} (hx : x ∈ k.registered) : x ∈ k.openFds := by
  rcases h.registered_only x hx with rfl | ⟨rfl, hpos⟩
  · exact h.listener_open
  · exact h.conn_open hpos

/-- Closing the connection and re-arming the listener, as EOF and the idle timeout do,
    leaves a session with no connection. -/
theorem teardown (h : GtwInv g k) (h₁ : g'.commandInterface = g.commandInterface)
    (h₂ : g'.gtwaFdSocket = g.gtwaFdSocket) (h₃ : g'.gtwaFd = -1) :
    GtwInv g' (((k.epollDel g.gtwaFd).close g.gtwaFd).socketAcceptEnableForEpoll g.gtwaFdSocket) := by
  have hne := h.conn_ne_listener.symm
  have hgone : g.gtwaFd ∉ ((k.epollDel g.gtwaFd).close g.gtwaFd).registered := fun hx =>
    (h.registered_nodup.not_mem_erase) ((k.epollDel g.gtwaFd).mem_of_mem_close_registered hx)
  have hreg : g.gtwaFdSocket ∈ ((k.epollDel g.gtwaFd).close g.gtwaFd).registered := by
    rw [GtwKernel.mem_close_registered _ hne, GtwKernel.epollDel_registered, List.mem_erase_of_ne hne]
    exact h.listener_registered
  have hdown : ¬0 ≤ g'.gtwaFd := by rw [h₃]; decide
  refine ⟨h₁ ▸ h.socket_mode, h₂ ▸ h.listener_pos, ?_, ?_, fun h => absurd h hdown,
    fun h => absurd h hdown, by rw [h₃, h₂]; have := h.listener_pos; omega, ?_, ?_, ?_⟩
  · rw [h₂, GtwKernel.socketAcceptEnableForEpoll_openFds, GtwKernel.mem_close_openFds _ hne]
    exact h.listener_open
  · simpa [h₂] using hreg
  · intro x hx
    simp only [GtwKernel.socketAcceptEnableForEpoll_registered] at hx
    have hx' := List.mem_of_mem_erase ((k.epollDel g.gtwaFd).mem_of_mem_close_registered hx)
    rcases h.registered_only x hx' with rfl | ⟨rfl, -⟩
    · exact .inl h₂.symm
    · exact absurd hx hgone
  · simpa using GtwKernel.close_registered_nodup _ (h.registered_nodup.erase _)
  · exact iff_of_true (GtwKernel.socketAcceptEnableForEpoll_armed _ hreg) (by omega)

/-- A connection accepted on a fresh descriptor and added to the set, when none was active. -/
theorem accept (h : GtwInv g k) (hidle : g.gtwaFd < 0) {fd : Int} (hfd : 0 ≤ fd)
    (hfresh : fd ∉ k.openFds) (h₁ : g'.commandInterface = g.commandInterface)
    (h₂ : g'.gtwaFdSocket = g.gtwaFdSocket) (h₃ : g'.gtwaFd = fd) :
    GtwInv g' ⟨fd :: k.openFds, fd :: k.registered, false⟩ := by
  have hnreg : fd ∉ k.registered := fun hx => hfresh (h.registered_open hx)
  refine ⟨h₁ ▸ h.socket_mode, h₂ ▸ h.listener_pos, by simp [h₂, h.listener_open],
    by simp [h₂, h.listener_registered], by simp [h₃], by simp [h₃], ?_, ?_,
    List.nodup_cons.mpr ⟨hnreg, h.registered_nodup⟩, by simp [h₃]; omega⟩
  · rw [h₃, h₂]
    exact fun he => hfresh (he ▸ h.listener_open)
  · intro x hx
    rcases List.mem_cons.mp hx with rfl | hx
    · exact .inr ⟨h₃.symm, h₃ ▸ hfd⟩
    · rcases h.registered_only x hx with rfl | ⟨rfl, hpos⟩
      · exact .inl h₂.symm
      · omega

/-- A failed accept, when no connection was active, re-arms the listener. -/
theorem rearm (h : GtwInv g k) (hidle : g.gtwaFd < 0) (b : Bool)
    (h₁ : g'.commandInterface = g.commandInterface) (h₂ : g'.gtwaFdSocket = g.gtwaFdSocket)
    (h₃ : g'.gtwaFd = -1) :
    GtwInv g' ({ k with listenerArmed := b }.socketAcceptEnableForEpoll g.gtwaFdSocket) := by
  have harmed := GtwKernel.socketAcceptEnableForEpoll_armed { k with listenerArmed := b }
    h.listener_registered
  have hdown : ¬0 ≤ g'.gtwaFd := by rw [h₃]; decide
  refine ⟨h₁ ▸ h.socket_mode, h₂ ▸ h.listener_pos, by simpa [h₂] using h.listener_open,
    by simpa [h₂] using h.listener_registered, fun h => absurd h hdown, fun h => absurd h hdown,
    ?_, ?_, by simpa using h.registered_nodup, iff_of_true harmed (by omega)⟩
  · rw [h₃, h₂]; have := h.listener_pos; omega
  · intro x hx
    simp only [GtwKernel.socketAcceptEnableForEpoll_registered] at hx
    rcases h.registered_only x hx with rfl | ⟨rfl, hpos⟩
    · exact .inl h₂.symm
    · omega

end GtwInv

/-! ## One call of `CO_epoll_processGtw` -/

section step

variable {g : EpollGtw} {k : GtwKernel}

/-- The idle timeout keeps the invariant: it only advances the timer, or tears the
    connection down. -/
theorem gtwInv_gtwTimeout {r : GtwResult} (h : GtwInv r.gtw r.kernel) (dt : UInt32) :
    GtwInv (gtwTimeout r dt).gtw (gtwTimeout r dt).kernel := by
  unfold gtwTimeout
  dsimp only
  split_ifs
  · exact h.teardown rfl rfl rfl
  · exact h.of_fields rfl rfl rfl
  · exact h

/-- Reading the connection leaves the descriptors alone, or tears the connection down. -/
private theorem gtwRead_cases (g : EpollGtw) (k : GtwKernel) (env : GtwEnv) :
    (gtwRead g k env).gtw.commandInterface = g.commandInterface ∧
      (gtwRead g k env).gtw.gtwaFdSocket = g.gtwaFdSocket ∧
      (((gtwRead g k env).gtw.gtwaFd = g.gtwaFd ∧ (gtwRead g k env).kernel = k) ∨
        ((gtwRead g k env).gtw.gtwaFd = -1 ∧ (gtwRead g k env).kernel =
          ((k.epollDel g.gtwaFd).close g.gtwaFd).socketAcceptEnableForEpoll g.gtwaFdSocket)) := by
  unfold gtwRead
  dsimp only
  by_cases hskip : env.nodeIdUnconfigured = true ∨ env.space = 0
  · rw [if_pos hskip]
    exact ⟨rfl, rfl, .inl ⟨rfl, rfl⟩⟩
  rw [if_neg hskip]
  cases env.read with
  | none => exact ⟨rfl, rfl, .inl ⟨rfl, rfl⟩⟩
  | some bytes =>
    dsimp only
    by_cases hstdio : g.commandInterface = coCommandIfStdio
    · rw [if_pos hstdio]
      exact ⟨rfl, rfl, .inl ⟨rfl, rfl⟩⟩
    rw [if_neg hstdio]
    -- EOF is the only branch that touches the descriptors
    by_cases heof : bytes.take env.space = []
    · rw [if_pos heof]
      exact ⟨rfl, rfl, .inr ⟨rfl, rfl⟩⟩
    · rw [if_neg heof]
      exact ⟨rfl, rfl, .inl ⟨rfl, rfl⟩⟩

/-- Reading the connection keeps the invariant: EOF tears it down, anything else leaves the
    descriptors alone. -/
theorem gtwInv_gtwRead (h : GtwInv g k) (env : GtwEnv) :
    GtwInv (gtwRead g k env).gtw (gtwRead g k env).kernel := by
  obtain ⟨h₁, h₂, ⟨h₃, hk⟩ | ⟨h₃, hk⟩⟩ := gtwRead_cases g k env
  · rw [hk]; exact h.of_fields h₁ h₂ h₃
  · rw [hk]; exact h.teardown h₁ h₂ h₃

/-- An event `epoll_wait` reported for one of the gateway's descriptors has `EPOLLIN` set,
    unless it reports an error or hang-up. -/
private theorem epollIn_of_noHangup {ev : EpollEvent}
    (hev : ev.events &&& (epollIn ||| epollErr ||| epollHup) ≠ 0)
    (hh : ev.events &&& epollIn ≠ 0 ∨ ev.events &&& (epollErr ||| epollHup) = 0) :
    ev.events &&& epollIn ≠ 0 := by
  rcases hh with hh | hh
  · exact hh
  · intro hin
    apply hev
    rw [show epollIn ||| epollErr ||| epollHup = epollIn ||| (epollErr ||| epollHup) by decide,
      UInt32.and_or_eq_zero]
    exact ⟨hin, hh⟩

/-- A reported event, handled with `EPOLL_CTL_ADD` succeeding and no hang-up on the gateway's
    descriptors, keeps the invariant. -/
theorem gtwInv_event (h : GtwInv g k) {ev : EpollEvent} {k₁ : GtwKernel} {env : GtwEnv}
    (hd : GtwDelivers g k ev k₁) (hfresh : AcceptFresh k₁ env) (hok : NoHangup g ev env) :
    GtwInv (if ev.fd = g.gtwaFdSocket ∨ ev.fd = g.gtwaFd then gtwEvent g k₁ ev env
        else ⟨g, k₁, true, []⟩).gtw
      (if ev.fd = g.gtwaFdSocket ∨ ev.fd = g.gtwaFd then gtwEvent g k₁ ev env
        else ⟨g, k₁, true, []⟩).kernel := by
  cases hd with
  | listener hfd harmed hev =>
    have hidle : g.gtwaFd < 0 := h.armed_iff.mp harmed
    have hin := epollIn_of_noHangup hev (hok.2 (.inl hfd))
    rw [if_pos (.inl hfd)]
    unfold gtwEvent
    rw [if_pos ⟨hin, hfd⟩]
    cases hacc : env.acceptFd with
    | none => exact h.rearm hidle false rfl rfl rfl
    | some fd =>
      obtain ⟨hpos, hnew⟩ := hfresh fd hacc
      have hadd := GtwKernel.epollAdd_ok ({ k with listenerArmed := false }.accept fd)
        (List.mem_cons_self fd _) (fun hx => hnew (h.registered_open hx))
      simp only [hok.1, hadd, ↓reduceIte]
      exact h.accept hidle hpos hnew rfl rfl rfl
  | conn hreg hne hev =>
    have hconn := (h.registered_only _ hreg).resolve_left hne
    have hin := epollIn_of_noHangup hev (hok.2 (.inr hconn.1))
    rw [if_pos (.inr hconn.1)]
    unfold gtwEvent
    rw [if_neg (fun hc => hne hc.2), if_pos ⟨hin, hconn.1⟩]
    exact gtwInv_gtwRead h env
  | other hpos hopen =>
    have hs : ev.fd ≠ g.gtwaFdSocket := fun he => hopen (he ▸ h.listener_open)
    have hc : ev.fd ≠ g.gtwaFd := fun he => by
      by_cases hle : 0 ≤ g.gtwaFd
      · exact hopen (he ▸ h.conn_open hle)
      · omega
    rw [if_neg (not_or.mpr ⟨hs, hc⟩)]
    exact h

private theorem ne_stdio_of_socket {ci : Int}
    (hmode : ci = coCommandIfLocalSocket ∨ (coCommandIfTcpSocketMin ≤ ci ∧ ci ≤ coCommandIfTcpSocketMax)) :
    ci ≠ coCommandIfStdio := by
  rcases hmode with rfl | ⟨h₁, -⟩
  · decide
  · simp only [coCommandIfTcpSocketMin] at h₁; simp only [coCommandIfStdio]; omega

/-- `CO_epoll_createGtw` in a socket mode, on a process holding none of the gateway's
    descriptors, registers the listener with its watch armed and no connection. -/
theorem createGtw_socket {ci : Int} {ms : UInt32} {cenv : CreateEnv} {g : EpollGtw}
    {k : GtwKernel} {fd : Int}
    (hmode : ci = coCommandIfLocalSocket ∨ (coCommandIfTcpSocketMin ≤ ci ∧ ci ≤ coCommandIfTcpSocketMax))
    (hfd : cenv.socketFd = some fd) (hpos : 0 < fd)
    (h : createGtw ⟨[], [], false⟩ ci ms cenv = .ok (g, k)) :
    g = ⟨ci, socketTimeoutUs ms, 0, fd, -1, false⟩ ∧ k = ⟨[fd], [fd], true⟩ := by
  have hs := ne_stdio_of_socket hmode
  have hle : 0 ≤ fd := Int.le_of_lt hpos
  simp only [createGtw, hs, hmode, hfd, ↓reduceIte] at h
  by_cases hok : (!cenv.bindOk || !cenv.listenOk || !cenv.signalOk) = true
  · rw [if_pos hok] at h
    cases h
  rw [if_neg hok] at h
  simp only [bind, Except.bind, pure, Except.pure] at h
  -- no connection yet; the listener is the only descriptor, so only the kernel can refuse it
  rw [if_neg (by decide), if_pos hle] at h
  cases hadd : cenv.addOk <;> simp [hadd, GtwKernel.epollAdd, GtwKernel.accept] at h
  exact ⟨h.1.symm, h.2.symm⟩

end step

/-! ## Every run -/

/-- Every socket-mode run in which `EPOLL_CTL_ADD` of a connection succeeds and no descriptor
    of the gateway reports an error or hang-up without `EPOLLIN` keeps the session invariant:
    `gtwa_fd` is `-1` or an open descriptor in the epoll set, and the listener is armed
    exactly when no connection is active. -/
theorem gtwInv_of_reachable {g : EpollGtw} {k : GtwKernel} (h : GtwReachable NoHangup g k) :
    GtwInv g k := by
  induction h with
  | create ci ms cenv g k fd hmode hfd hpos hc =>
    obtain ⟨rfl, rfl⟩ := createGtw_socket hmode hfd hpos hc
    have hidle : ¬(0 : Int) ≤ -1 := by decide
    exact ⟨ne_stdio_of_socket hmode, hpos, List.mem_singleton_self fd,
      List.mem_singleton_self fd, fun h => absurd h hidle, fun h => absurd h hidle,
      show (-1 : Int) ≠ fd by omega, fun x hx => .inl (List.mem_singleton.mp hx),
      List.nodup_cons.mpr ⟨List.not_mem_nil fd, List.nodup_nil⟩, iff_of_true rfl (show (-1 : Int) < 0 by decide)⟩
  | event ev env dt _ hd hfresh hok ih =>
    unfold processGtw
    exact gtwInv_gtwTimeout (by simpa using gtwInv_event ih hd hfresh hok) dt
  | idle ev env dt _ ih =>
    unfold processGtw
    exact gtwInv_gtwTimeout (by simpa using ih) dt

/-- The gateway on TCP port 2000 with no idle timeout. The listener is descriptor 3, and a
    client is accepted on descriptor 4.
    - If the connection then reports `EPOLLHUP`, the hang-up branch closes descriptor 4 but
      leaves `gtwa_fd` at 4 and the listener disarmed. The run reaches a state outside
      `GtwInv`.
    - If instead `EPOLL_CTL_ADD` of descriptor 4 fails, the listener is re-armed while
      descriptor 4 stays open. The next client's descriptor 5 overwrites `gtwa_fd`. -/
theorem processGtw_hangup_breaks_session :
    let g₀ : EpollGtw := ⟨2000, 0, 0, 3, -1, false⟩
    let k₀ : GtwKernel := ⟨[3], [3], true⟩
    let r₁ := processGtw g₀ { k₀ with listenerArmed := false } true ⟨epollIn, 3⟩
      ⟨some 4, true, none, 0, false⟩ 0
    let r₂ := processGtw r₁.gtw r₁.kernel true ⟨epollHup, 4⟩ ⟨none, true, none, 0, false⟩ 0
    let s₁ := processGtw g₀ { k₀ with listenerArmed := false } true ⟨epollIn, 3⟩
      ⟨some 4, false, none, 0, false⟩ 0
    let s₂ := processGtw s₁.gtw { s₁.kernel with listenerArmed := false } true ⟨epollIn, 3⟩
      ⟨some 5, true, none, 0, false⟩ 0
    createGtw ⟨[], [], false⟩ 2000 0 ⟨some 3, true, true, true, true⟩ = .ok (g₀, k₀) ∧
      GtwReachable (fun _ _ _ => True) r₂.gtw r₂.kernel ∧
      r₂.gtw.gtwaFd = 4 ∧ 4 ∉ r₂.kernel.openFds ∧ r₂.kernel.listenerArmed = false ∧
      ¬GtwInv r₂.gtw r₂.kernel ∧
      s₁.kernel.listenerArmed = true ∧ 4 ∉ s₁.kernel.registered ∧
      s₂.gtw.gtwaFd = 5 ∧ 4 ∈ s₂.kernel.openFds := by
  intro g₀ k₀ r₁ r₂ s₁ s₂
  have hc : createGtw ⟨[], [], false⟩ 2000 0 ⟨some 3, true, true, true, true⟩ = .ok (g₀, k₀) := rfl
  have h₀ : GtwReachable (fun _ _ _ => True) g₀ k₀ :=
    .create 2000 0 _ g₀ k₀ 3 (.inr ⟨by decide, by decide⟩) rfl (by decide) hc
  have h₁ : GtwReachable (fun _ _ _ => True) r₁.gtw r₁.kernel :=
    .event _ _ _ h₀ (.listener _ rfl rfl (by decide)) (by simp [AcceptFresh]) trivial
  have h₂ : GtwReachable (fun _ _ _ => True) r₂.gtw r₂.kernel :=
    .event _ _ _ h₁ (.conn _ (by decide) (by decide) (by decide)) (by simp [AcceptFresh]) trivial
  exact ⟨hc, h₂, by decide, by decide, by decide,
    fun h => absurd (h.conn_open (by decide)) (by decide), by decide, by decide, by decide,
    by decide⟩

end CANopenLinux
