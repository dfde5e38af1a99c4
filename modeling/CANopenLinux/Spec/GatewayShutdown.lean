import CANopenLinux.Spec.GatewaySession

/-!
# Closing the gateway

`main` calls `CO_epoll_closeGtw` once its loop has ended. In the socket modes it closes the
connection when `gtwa_fd > 0`, and the listener. Each call of `CO_epoll_processGtw` keeps some
of the gateway's open descriptors and adds at most the one `accept4` returned
(`processGtw_openFds`), so over every socket-mode run they stay distinct
(`shutdownInv_of_reachable`), and closing one leaves it closed. Closing the gateway therefore
closes the listener and every connection on a descriptor above 0. A connection on descriptor 0,
which `accept4` returns when standard input is closed, is skipped by the test `gtwa_fd > 0`
and stays open (`closeGtw_closes`).
-/

namespace CANopenLinux

open scoped List

namespace GtwKernel

variable (k : GtwKernel) (fd : Int)

theorem close_openFds_sublist : (k.close fd).openFds <+ k.openFds := by
  unfold close; split
  · exact List.erase_sublist _ _
  · exact List.Sublist.refl _

/-- Closing one of distinct open descriptors leaves it closed. -/
theorem not_mem_close_openFds {k : GtwKernel} (h : k.openFds.Nodup) (fd : Int) :
    fd ∉ (k.close fd).openFds := by
  unfold close; split
  · exact h.not_mem_erase
  · assumption

@[simp] theorem epollAdd_openFds (ok : Bool) : (k.epollAdd fd ok).1.openFds = k.openFds := by
  unfold epollAdd; split <;> rfl

/-- A teardown of the connection, as EOF and the idle timeout do it, only closes. -/
theorem teardown_openFds (fdSocket : Int) :
    (((k.epollDel fd).close fd).socketAcceptEnableForEpoll fdSocket).openFds <+ k.openFds := by
  simpa using close_openFds_sublist (k.epollDel fd) fd

end GtwKernel

/-! ## The open descriptors over a call of `CO_epoll_processGtw` -/

theorem gtwTimeout_openFds (r : GtwResult) (dt : UInt32) :
    (gtwTimeout r dt).gtw.commandInterface = r.gtw.commandInterface ∧
      (gtwTimeout r dt).kernel.openFds <+ r.kernel.openFds := by
  unfold gtwTimeout
  dsimp only
  split_ifs
  · exact ⟨rfl, GtwKernel.teardown_openFds ..⟩
  · exact ⟨rfl, List.Sublist.refl _⟩
  · exact ⟨rfl, List.Sublist.refl _⟩

theorem gtwRead_openFds (g : EpollGtw) (k : GtwKernel) (env : GtwEnv) :
    (gtwRead g k env).gtw.commandInterface = g.commandInterface ∧
      (gtwRead g k env).kernel.openFds <+ k.openFds := by
  unfold gtwRead
  dsimp only
  split
  · exact ⟨rfl, List.Sublist.refl _⟩
  · split
    · exact ⟨rfl, List.Sublist.refl _⟩
    · split
      · exact ⟨rfl, List.Sublist.refl _⟩
      · split
        · exact ⟨rfl, GtwKernel.teardown_openFds ..⟩
        · exact ⟨rfl, List.Sublist.refl _⟩

theorem gtwEvent_openFds (g : EpollGtw) (k : GtwKernel) (ev : EpollEvent) (env : GtwEnv) :
    (gtwEvent g k ev env).gtw.commandInterface = g.commandInterface ∧
      (gtwEvent g k ev env).kernel.openFds <+ env.acceptFd.toList ++ k.openFds := by
  unfold gtwEvent
  split
  · split
    · exact ⟨rfl, by simp⟩
    · rename_i fd hfd
      rw [hfd]
      dsimp only
      split <;> exact ⟨rfl, by simp⟩
  · split
    · obtain ⟨h₁, h₂⟩ := gtwRead_openFds g k env
      exact ⟨h₁, h₂.trans (List.sublist_append_right _ _)⟩
    · split
      · exact ⟨rfl, (GtwKernel.close_openFds_sublist ..).trans (List.sublist_append_right _ _)⟩
      · exact ⟨rfl, List.sublist_append_right _ _⟩

/-- A call of `CO_epoll_processGtw` keeps the mode, and some of the open descriptors plus, if
    it handled an event, the one `accept4` returned. -/
theorem processGtw_openFds (g : EpollGtw) (k : GtwKernel) (b : Bool) (ev : EpollEvent)
    (env : GtwEnv) (dt : UInt32) :
    (processGtw g k b ev env dt).gtw.commandInterface = g.commandInterface ∧
      (processGtw g k b ev env dt).kernel.openFds <+
        (if b then env.acceptFd.toList else []) ++ k.openFds := by
  unfold processGtw
  split
  · rename_i h
    obtain ⟨h₁, h₂⟩ := gtwEvent_openFds g k ev env
    obtain ⟨h₃, h₄⟩ := gtwTimeout_openFds (gtwEvent g k ev env) dt
    exact ⟨h₃.trans h₁, by simpa [h.1] using h₄.trans h₂⟩
  · obtain ⟨h₃, h₄⟩ := gtwTimeout_openFds ⟨g, k, b, []⟩ dt
    exact ⟨h₃, h₄.trans (List.sublist_append_right _ _)⟩

/-! ## Every run -/

/-- The gateway is in a socket mode. -/
def EpollGtw.SocketMode (g : EpollGtw) : Prop :=
  g.commandInterface = coCommandIfLocalSocket ∨
    (coCommandIfTcpSocketMin ≤ g.commandInterface ∧ g.commandInterface ≤ coCommandIfTcpSocketMax)

/-- Every socket-mode run stays in its mode and keeps the gateway's open descriptors distinct. -/
theorem shutdownInv_of_reachable {g : EpollGtw} {k : GtwKernel} (h : GtwReachable NoHangup g k) :
    g.SocketMode ∧ k.openFds.Nodup := by
  induction h with
  | create ci ms cenv g k fd hmode hfd hpos hc =>
    obtain ⟨rfl, rfl⟩ := createGtw_socket hmode hfd hpos hc
    exact ⟨hmode, List.nodup_cons.mpr ⟨List.not_mem_nil fd, List.nodup_nil⟩⟩
  | @event g k k₁ ev env dt _ hd hfresh _ ih =>
    obtain ⟨hci, hsub⟩ := processGtw_openFds g k₁ true ev env dt
    have hopen : k₁.openFds = k.openFds := by cases hd <;> rfl
    refine ⟨by simpa only [EpollGtw.SocketMode, hci] using ih.1, hsub.nodup ?_⟩
    cases hacc : env.acceptFd with
    | none => simpa [hopen] using ih.2
    | some fd =>
      have hnew := (hfresh fd hacc).2
      rw [hopen] at hnew ⊢
      simpa using ⟨hnew, ih.2⟩
  | @idle g k ev env dt _ ih =>
    obtain ⟨hci, hsub⟩ := processGtw_openFds g k false ev env dt
    exact ⟨by simpa only [EpollGtw.SocketMode, hci] using ih.1, hsub.nodup (by simpa using ih.2)⟩

/-- After every socket-mode run, `CO_epoll_closeGtw` leaves the listener closed, and the
    connection too when it is on a descriptor above 0; a connection on descriptor 0 stays
    open. -/
theorem closeGtw_closes {g : EpollGtw} {k : GtwKernel} (h : GtwReachable NoHangup g k) :
    let k' := (closeGtw g k).2
    g.gtwaFdSocket ∉ k'.openFds ∧ (0 < g.gtwaFd → g.gtwaFd ∉ k'.openFds) ∧
      (g.gtwaFd = 0 → 0 ∈ k'.openFds) := by
  intro k'
  have hinv := gtwInv_of_reachable h
  obtain ⟨hmode, hnodup⟩ := shutdownInv_of_reachable h
  have hsock : g.commandInterface = coCommandIfLocalSocket ∨
      g.commandInterface ≥ coCommandIfTcpSocketMin := hmode.imp_right (·.1)
  let k₁ := if g.gtwaFd > 0 then k.close g.gtwaFd else k
  have hk' : k' = k₁.close g.gtwaFdSocket := by simp only [k', closeGtw, if_pos hsock]
  have hk₁ : k₁.openFds <+ k.openFds := by
    by_cases hpos : g.gtwaFd > 0
    · simp only [k₁, if_pos hpos]; exact GtwKernel.close_openFds_sublist ..
    · simp only [k₁, if_neg hpos]; exact List.Sublist.refl _
  rw [hk']
  refine ⟨GtwKernel.not_mem_close_openFds (hk₁.nodup hnodup) _, fun hpos hmem => ?_, fun h0 => ?_⟩
  · -- the connection was closed first
    have : g.gtwaFd ∈ k₁.openFds := (GtwKernel.close_openFds_sublist ..).subset hmem
    simp only [k₁, if_pos hpos] at this
    exact GtwKernel.not_mem_close_openFds hnodup _ this
  · -- `gtwa_fd > 0` fails: only the listener is closed
    have hne : (0 : Int) ≠ g.gtwaFdSocket := by have := hinv.listener_pos; omega
    simp only [k₁, h0, gt_iff_lt, lt_self_iff_false, if_false]
    exact (GtwKernel.mem_close_openFds k hne).mpr (h0 ▸ hinv.conn_open (by omega))

end CANopenLinux
