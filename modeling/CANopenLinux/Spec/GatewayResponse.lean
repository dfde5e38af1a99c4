import CANopenLinux.Spec.MainLoop

/-!
# Where the gateway's responses go

`CO_epoll_initCANopenGtw` registers `gtwa_write_response` with `object` pointing at
`gtwa_fd`, so each response is written to whatever `gtwa_fd` holds at the time. In the socket
modes that is the active connection, or `-1`, which drops the response. In standard-input
mode `CO_epoll_createGtw` sets `gtwa_fd` to `STDIN_FILENO`, and nothing in the loop changes it
(`processGtw_stdio`): every response of the run goes to `write()` on descriptor 0, standard
input, not standard output (`mainRun_stdio_responses`). Where standard input is not writable,
as a pipe or a file opened for reading, `write()` fails; each call then reports nothing
written and keeps `connectionOK`, so the response is neither sent nor dropped.
-/

namespace CANopenLinux

/-- `CO_epoll_createGtw` in standard-input mode: no listener, and `gtwa_fd` is
    `STDIN_FILENO`. -/
theorem createGtw_stdio {k k' : GtwKernel} {socketTimeoutMs : UInt32} {env : CreateEnv}
    {g : EpollGtw} (h : createGtw k coCommandIfStdio socketTimeoutMs env = .ok (g, k')) :
    g.commandInterface = coCommandIfStdio ∧ g.gtwaFdSocket = -1 ∧ g.gtwaFd = stdinFileno := by
  by_cases hreg : (0 : Int) ∈ k.registered <;> cases hadd : env.addOk <;>
    simp [createGtw, hadd, hreg, GtwKernel.epollAdd, stdinFileno, bind, Except.bind, pure,
      Except.pure] at h
  obtain ⟨rfl, -⟩ := h
  exact ⟨rfl, rfl, rfl⟩

/-- The part of `CO_epoll_processGtw` before the timeout keeps the mode and both descriptors
    in standard-input mode, for an event on any descriptor. -/
theorem gtwEvent_stdio {g : EpollGtw} (k : GtwKernel) (hstdio : g.commandInterface = coCommandIfStdio)
    (hsock : g.gtwaFdSocket = -1) {ev : EpollEvent} (hfd : 0 ≤ ev.fd) (env : GtwEnv) :
    let g' := (gtwEvent g k ev env).gtw
    g'.commandInterface = g.commandInterface ∧ g'.gtwaFdSocket = -1 ∧ g'.gtwaFd = g.gtwaFd := by
  have hl : ev.fd ≠ -1 := by omega
  unfold gtwEvent gtwRead
  simp only [hsock, hl, and_false, ↓reduceIte, hstdio]
  split_ifs <;> (try split) <;> simp [hsock, hstdio]

/-- In standard-input mode, without a listener, `CO_epoll_processGtw` keeps the mode and both
    descriptors when the event it is given, if any, is on a descriptor. -/
theorem processGtw_stdio {g : EpollGtw} (k : GtwKernel) (hstdio : g.commandInterface = coCommandIfStdio)
    (hsock : g.gtwaFdSocket = -1) {epollNew : Bool} {ev : EpollEvent}
    (hfd : epollNew = true → 0 ≤ ev.fd) (env : GtwEnv) (dt : UInt32) :
    let g' := (processGtw g k epollNew ev env dt).gtw
    g'.commandInterface = g.commandInterface ∧ g'.gtwaFdSocket = -1 ∧ g'.gtwaFd = g.gtwaFd := by
  -- the event part keeps them
  have hev : let r := if epollNew ∧ (ev.fd = g.gtwaFdSocket ∨ ev.fd = g.gtwaFd) then
      gtwEvent g k ev env else ⟨g, k, epollNew, []⟩
      r.gtw.commandInterface = g.commandInterface ∧ r.gtw.gtwaFdSocket = -1 ∧
        r.gtw.gtwaFd = g.gtwaFd := by
    split
    · exact gtwEvent_stdio k hstdio hsock (hfd ‹_ ∧ _›.1) env
    · exact ⟨rfl, hsock, rfl⟩
  -- and without a listener the timeout does nothing
  unfold processGtw gtwTimeout
  rw [if_neg (by rw [hev.2.1]; omega)]
  exact hev

variable (st : Bool)

/-- Over every run of `main`'s loop, in either build, from the gateway that
    `CO_epoll_createGtw` sets up in standard-input mode, and with every event `epoll_wait`
    reports on a descriptor: `gtwa_fd` stays `STDIN_FILENO`, so every response goes to
    `write()` on standard input; a write that fails reports nothing written and keeps
    `connectionOK`. -/
theorem mainRun_stdio_responses {k₀ : GtwKernel} {socketTimeoutMs : UInt32} {env : CreateEnv}
    (s : MainState) (hc : createGtw k₀ coCommandIfStdio socketTimeoutMs env = .ok (s.gtw, s.kernel))
    (es : List MainPassEnv) (hev : ∀ e ∈ es, e.wait.ready = 1 → 0 ≤ e.wait.ev.fd)
    (count : Nat) (written : Int) (connectionOK : Bool) :
    let g := (mainRun st s es).1.gtw
    g.gtwaFd = stdinFileno ∧
      (gtwaWriteResponse g.gtwaFd count written connectionOK).1 = some stdinFileno ∧
      (written < 0 → (gtwaWriteResponse g.gtwaFd count written connectionOK).2 = (0, connectionOK)) := by
  obtain ⟨hstdio, hsock, hfd⟩ := createGtw_stdio hc
  -- the mode and both descriptors are kept over the run
  have hrun : ∀ (s : MainState) (es : List MainPassEnv), s.gtw.commandInterface = coCommandIfStdio →
      s.gtw.gtwaFdSocket = -1 → (∀ e ∈ es, e.wait.ready = 1 → 0 ≤ e.wait.ev.fd) →
      (mainRun st s es).1.gtw.gtwaFd = s.gtw.gtwaFd := by
    intro s es hstdio hsock hev
    induction es generalizing s with
    | nil => rfl
    | cons e es ih =>
      obtain ⟨hg, -, -⟩ := mainPass_gtw st s e
      have hfd : (epollWait s.ep e.wait).epollNew = true → 0 ≤ (epollWait s.ep e.wait).ev.fd :=
        fun hn => epollWait_ev s.ep e.wait ▸ hev e (.head _) ((epollWait_epollNew _ _).mp hn).1
      obtain ⟨h₁, h₂, h₃⟩ := processGtw_stdio _ hstdio hsock
        (fun hn => hfd (Bool.and_eq_true_iff.mp hn).1) _ _
      have hpass : (mainPass st s e).state.gtw.gtwaFd = s.gtw.gtwaFd := hg ▸ h₃
      simp only [mainRun]
      split
      · rw [ih _ (hg ▸ h₁.trans hstdio) (hg ▸ h₂) fun e' h' => hev e' (.tail _ h'), hpass]
      · exact hpass
  have hg := (hrun s es hstdio hsock hev).trans hfd
  refine ⟨hg, by simp [gtwaWriteResponse, hg, stdinFileno], fun hw => ?_⟩
  simp [gtwaWriteResponse, hg, stdinFileno, not_le.mpr hw]

/-- Standard-input mode, one pass that reads a command from standard input, and a response of
    ten bytes whose `write()` fails, as on a pipe. -/
theorem mainRun_stdio_responses_pipe :
    let ep : Epoll := ⟨3, 4, 5, 100000, 0, 0, false, 0, ⟨⟨0, 100000000⟩, ⟨0, 1⟩⟩, ⟨0, 0⟩, false⟩
    let s : MainState := ⟨ep, ⟨[], [], [], 0, [], 0, false, 0⟩,
      ⟨coCommandIfStdio, socketTimeoutUs 0, 0, -1, 0, false⟩, ⟨[0], [0], false⟩, mainlineStart⟩
    let e : MainPassEnv := ⟨⟨1, false, ⟨epollIn, 0⟩, 1000⟩,
      ⟨0, ⟨0, List.replicate 8 0, rfl⟩, Timespec.zero, 0⟩, Timespec.zero, fun m _ _ => (m, 0),
      ⟨none, true, some [0x68, 0x0A], 100, false⟩, fun _ m _ t => (m, t, .not), 0⟩
    let g := (mainRun false s [e]).1.gtw
    createGtw ⟨[], [], false⟩ coCommandIfStdio 0 ⟨none, true, true, true, true⟩ = .ok (s.gtw, s.kernel) ∧
      (∀ e' ∈ [e], e'.wait.ready = 1 → 0 ≤ e'.wait.ev.fd) ∧
      (g.gtwaFd = stdinFileno ∧ (gtwaWriteResponse g.gtwaFd 10 (-1) true).1 = some stdinFileno ∧
        ((-1 : Int) < 0 → (gtwaWriteResponse g.gtwaFd 10 (-1) true).2 = (0, true))) :=
  by
  intro ep s e g
  have hc : createGtw ⟨[], [], false⟩ coCommandIfStdio 0 ⟨none, true, true, true, true⟩ =
      .ok (s.gtw, s.kernel) := rfl
  have hev : ∀ e' ∈ [e], e'.wait.ready = 1 → 0 ≤ e'.wait.ev.fd := by simp [e]
  exact ⟨hc, hev, mainRun_stdio_responses false s hc [e] hev 10 (-1) true⟩

end CANopenLinux
