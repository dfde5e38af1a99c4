import CANopenLinux.Native.DriverIo

/-!
# Receive-queue overflow reports

`CO_CANmodule_addInterface` asks the kernel for each socket's drop count (`SO_RXQ_OVFL`) and
for software timestamps (`SO_TIMESTAMPING`), and `CO_CANread` looks for both in the control
buffer of `recvmsg()`. That buffer, `ctrlmsg`, has room for a `struct timeval` and a
`uint32_t`: 56 bytes. The kernel puts the timestamps first, a `struct scm_timestamping` of three
`timespec`s in a 64-byte message, which it cuts to the 56 bytes there are, and no room is left
for the drop count (`recvCmsgs_eq`). So no whole read changes the module, over any
interleaving of reads on any number of interfaces (`canReads_full`), and a socket that drops
frames is never reported (`canRead_overflow_never_reported`).
-/

namespace CANopenLinux

/-- The module after the reads `(k, rr)`, one after another. -/
def canReads (m : CANmodule) (reads : List (Nat × RecvResult)) : CANmodule :=
  reads.foldl (fun m r => (m.canRead r.1 r.2).1) m

/-- Over every interleaving of whole reads on the module's interfaces, whatever the sockets'
    drop counts, the module stays as it was: no RX overflow is marked, and `rxDropCount` is
    never written. -/
theorem canReads_full (reads : List (Nat × RecvResult)) (h : ∀ r ∈ reads, r.2.n = canMtu) :
    ∀ m : CANmodule, canReads m reads = m := by
  induction reads with
  | nil => intro m; rfl
  | cons r reads ih =>
    intro m
    have hr : (m.canRead r.1 r.2).1 = m := by
      rw [CANmodule.canRead_of_mtu m r.1 r.2 (h r (List.mem_cons_self _ _))]
    simp only [canReads, List.foldl_cons, hr]
    exact ih (fun r' hr' => h r' (List.mem_cons_of_mem _ hr')) m

/-- One interface added to an empty module, its error status clear, and one whole frame read
    after its socket has dropped three frames. The kernel attaches the count 3, but it does not
    fit behind the timestamps: the interface gets no `CO_CAN_ERRRX_OVERFLOW`, and
    `rxDropCount` stays 0. -/
theorem canRead_overflow_never_reported :
    let stale : CANinterface := ⟨0, -1, CANinterfaceErrorhandler.canErrorInit (-1), [], []⟩
    let m := ((⟨[], [], [], 0, [], 0, false, 0⟩ : CANmodule).canModuleAddInterface 1
      ⟨none, 3, stale, fun _ => true⟩).1
    let rr : RecvResult := ⟨canMtu, ⟨0x123, List.replicate 8 0, rfl⟩, Timespec.zero, 3⟩
    let overflow (m : CANmodule) :=
      m.canInterfaces[0]?.map (·.errorhandler.canErrorStatus &&& canErrrxOverflow)
    kernelCmsgs rr = [.timestamping Timespec.zero, .rxqOvfl 3] ∧ m.rxDropCount < rr.dropCount ∧
      overflow m = some 0 ∧ overflow (canReads m [(0, rr)]) = some 0 ∧
      (canReads m [(0, rr)]).rxDropCount = 0 := by
  intro stale m rr overflow
  rw [canReads_full [(0, rr)] (by simp [rr]) m]
  exact ⟨rfl, by decide, by decide, by decide, rfl⟩

end CANopenLinux
