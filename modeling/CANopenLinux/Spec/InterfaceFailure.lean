import CANopenLinux.Native.Driver

/-!
# A failed `CO_CANmodule_addInterface`

`CO_CANmodule_addInterface` counts the new interface and grows the array with `realloc`
before any step that can fail, and returns at the failing step without undoing anything.
So whatever step fails, the slot stays counted (`canModuleAddInterface_of_fault`), and a socket
that `socket()` opened before the failure stays open (`addInterfaceEffects_of_fault`). The
slot's `fd` is then the socket, or `-1` when `socket()` itself failed, or, when
`if_indextoname` failed, whatever `realloc` left in the new memory.

`CO_CANmodule_disable` unregisters and closes the `fd` of every counted interface, the failed
slot's included. `CO_CANmodule_init` runs it on the failure (`canModuleInit_of_fault`), so it
closes the socket the failed call left open, and after a failure of `if_indextoname` it closes
a descriptor the module never opened (`canModuleAddInterface_failure`).

Over runs of adds, the count is right while every add succeeds: each counted interface then
has its `fd` open and in the epoll set. One failed add leaves a counted interface that is not
(`addInterfaces_setUp`).
-/

namespace CANopenLinux

namespace CANmodule

variable (m : CANmodule) (canIfindex : Int) (env : AddInterfaceEnv)

/-- What a failing step leaves: an error, and the module with one more interface, whose `fd`
    is the stale one of `realloc` before `socket()`, `-1` if `socket()` fails, and the socket
    from there on. -/
theorem canModuleAddInterface_of_fault (hn : m.canNormal = false) (f : AddInterfaceFault) :
    let r := m.canModuleAddInterface canIfindex { env with fault := some f }
    r.2 ≠ .no ∧ ∃ i, r.1 = { m with canInterfaces := m.canInterfaces ++ [i] } ∧
      i.fd = if f = .ifIndexToName then env.stale.fd else if f = .socket then -1 else env.fd := by
  unfold canModuleAddInterface
  rw [if_neg (by simp [hn])]
  cases f <;> exact ⟨nofun, _, rfl, rfl⟩

/-- A failing step opens the socket if `socket()` succeeded before it, and closes nothing. -/
theorem addInterfaceEffects_of_fault (hn : m.canNormal = false) (f : AddInterfaceFault) :
    m.addInterfaceEffects { env with fault := some f } =
      if f = .ifIndexToName ∨ f = .socket then [] else [.socket env.fd] := by
  unfold addInterfaceEffects
  rw [if_neg (by simp [hn])]
  cases f <;> rfl

@[simp] theorem canModuleDisableEffects_append (i : CANinterface) :
    { m with canInterfaces := m.canInterfaces ++ [i] }.canModuleDisableEffects =
      m.canModuleDisableEffects ++ [.epollDel i.fd, .close i.fd] := by
  simp [canModuleDisableEffects]

/-- `CO_CANmodule_init` whose interface fails at step `f` returns the error and the module
    that `CO_CANmodule_disable` makes of the one the failed call left, with its one slot. -/
theorem canModuleInit_of_fault (rxSize : Nat) (txArray : List CANtx) (f : AddInterfaceFault) :
    let r := m.canModuleInit rxSize txArray canIfindex { env with fault := some f }
    r.2 ≠ .no ∧ ∃ (m' : CANmodule) (i : CANinterface), r.1 = m'.canModuleDisable ∧
      m'.canInterfaces = [i] ∧
      i.fd = if f = .ifIndexToName then env.stale.fd else if f = .socket then -1 else env.fd := by
  obtain ⟨hne, i, hr, hi⟩ := canModuleAddInterface_of_fault { m with
    canInterfaces := [], rxArray := List.replicate rxSize rxSlotInit,
    rxFilter := List.replicate rxSize ⟨0, 0⟩, txArray, canErrorStatus := 0, canNormal := false,
    canTxCount := 0 } canIfindex env rfl f
  simp only [canModuleInit]
  rw [if_pos hne]
  exact ⟨hne, _, i, rfl, by rw [hr]; rfl, hi⟩

/-! ## Runs of adds -/

/-- Every counted interface is set up: its `fd` is open and in the epoll set. -/
def SetUp (m : CANmodule) (t : FdTable) : Prop :=
  ∀ fd ∈ m.canInterfaces.map (·.fd), fd ∈ t.openFds ∧ fd ∈ t.registered

/-- Installing filters keeps every interface's `fd`. -/
theorem installFilters_fd (ok : Int → Bool) (fs : List CanFilter) :
    (m.installFilters ok fs).1.canInterfaces.map (·.fd) = m.canInterfaces.map (·.fd) := by
  simp only [installFilters, List.map_map]
  exact List.map_congr_left fun i _ => by dsimp only [Function.comp]; split <;> rfl

/-- A successful add appends the socket as the new interface's `fd`, opens it and registers
    it. -/
theorem canModuleAddInterface_fd (hn : m.canNormal = false) (h : env.fault = none) :
    (m.canModuleAddInterface canIfindex env).1.canInterfaces.map (·.fd) =
        m.canInterfaces.map (·.fd) ++ [env.fd] ∧
      m.addInterfaceEffects env = [.socket env.fd, .epollAdd env.fd] := by
  unfold canModuleAddInterface addInterfaceEffects
  simp only [hn, h, Bool.false_eq_true, ↓reduceIte, reduceCtorEq, or_self]
  refine ⟨?_, trivial⟩
  rw [disableRx, installFilters_fd]
  simp

/-- A successful add keeps every counted interface set up. -/
theorem SetUp.addInterface {t : FdTable} (hs : m.SetUp t) (h : env.fault = none) :
    (m.canModuleAddInterface canIfindex env).1.SetUp
      (t.applyAll (m.addInterfaceEffects env)) := by
  cases hn : m.canNormal
  · obtain ⟨hfd, heffs⟩ := m.canModuleAddInterface_fd canIfindex env hn h
    intro fd hmem
    rw [hfd, List.mem_append, List.mem_singleton] at hmem
    rw [heffs]
    simp only [FdTable.applyAll, List.foldl_cons, List.foldl_nil, FdEffect.apply, List.mem_cons]
    rcases hmem with hmem | rfl
    · exact ⟨.inr (hs fd hmem).1, .inr (hs fd hmem).2⟩
    · exact ⟨.inl rfl, .inl rfl⟩
  · simpa [canModuleAddInterface, addInterfaceEffects, hn, FdTable.applyAll] using hs

/-- A failed add leaves a counted interface that is not set up, unless the slot's `fd` was in
    the epoll set already. -/
theorem not_setUp_of_fault (hn : m.canNormal = false) (f : AddInterfaceFault) {t : FdTable}
    (hreg : (if f = .ifIndexToName then env.stale.fd else if f = .socket then -1 else env.fd) ∉
      t.registered) :
    ¬(m.canModuleAddInterface canIfindex { env with fault := some f }).1.SetUp
      (t.applyAll (m.addInterfaceEffects { env with fault := some f })) := by
  obtain ⟨-, i, hr, hi⟩ := m.canModuleAddInterface_of_fault canIfindex env hn f
  -- the failed call registers nothing
  have hregs : (t.applyAll (m.addInterfaceEffects { env with fault := some f })).registered =
      t.registered := by
    rw [m.addInterfaceEffects_of_fault env hn f]
    split <;> rfl
  intro hs
  have := (hs i.fd (by simp [hr])).2
  rw [hregs, hi] at this
  exact hreg this

/-- Calls of `CO_CANmodule_addInterface`, one after another, each with the interface index and
    what the system answers, and the descriptor table they change. -/
def addInterfaces (m : CANmodule) (t : FdTable) :
    List (Int × AddInterfaceEnv) → CANmodule × FdTable
  | [] => (m, t)
  | (canIfindex, env) :: adds =>
    addInterfaces (m.canModuleAddInterface canIfindex env).1
      (t.applyAll (m.addInterfaceEffects env)) adds

/-- Over every run of adds that succeed, every counted interface stays set up. -/
theorem SetUp.addInterfaces {t : FdTable} (hs : m.SetUp t) (adds : List (Int × AddInterfaceEnv))
    (h : ∀ a ∈ adds, a.2.fault = none) :
    (m.addInterfaces t adds).1.SetUp (m.addInterfaces t adds).2 := by
  induction adds generalizing m t with
  | nil => exact hs
  | cons a adds ih =>
    exact ih _ (SetUp.addInterface _ a.1 a.2 hs (h a (.head _))) fun a' h' => h a' (.tail _ h')

@[simp] theorem canModuleAddInterface_canNormal :
    (m.canModuleAddInterface canIfindex env).1.canNormal = m.canNormal := by
  obtain ⟨ifs, h⟩ := m.canModuleAddInterface_eq canIfindex env
  rw [h]

theorem addInterfaces_canNormal (t : FdTable) (adds : List (Int × AddInterfaceEnv)) :
    (m.addInterfaces t adds).1.canNormal = m.canNormal := by
  induction adds generalizing m t with
  | nil => rfl
  | cons a adds ih => rw [addInterfaces, ih, canModuleAddInterface_canNormal]

theorem addInterfaces_append (t : FdTable) (adds adds' : List (Int × AddInterfaceEnv)) :
    m.addInterfaces t (adds ++ adds') =
      (m.addInterfaces t adds).1.addInterfaces (m.addInterfaces t adds).2 adds' := by
  induction adds generalizing m t with
  | nil => rfl
  | cons a adds ih => exact ih _ _

/-- Over every run of `CO_CANmodule_addInterface` calls out of normal mode, from a module whose
    interfaces are all set up: while every add succeeds, every counted interface stays set up;
    one failing add after them leaves a counted interface that is not, unless the failed slot's
    `fd` was in the epoll set already. -/
theorem addInterfaces_setUp {t : FdTable} (hs : m.SetUp t) (hn : m.canNormal = false)
    (adds : List (Int × AddInterfaceEnv)) (h : ∀ a ∈ adds, a.2.fault = none)
    (f : AddInterfaceFault)
    (hreg : (if f = .ifIndexToName then env.stale.fd else if f = .socket then -1 else env.fd) ∉
      (m.addInterfaces t adds).2.registered) :
    let r := m.addInterfaces t adds
    let r' := m.addInterfaces t (adds ++ [(canIfindex, { env with fault := some f })])
    r.1.SetUp r.2 ∧ ¬r'.1.SetUp r'.2 := by
  intro r r'
  refine ⟨hs.addInterfaces m adds h, ?_⟩
  rw [show r' = r.1.addInterfaces r.2 [(canIfindex, { env with fault := some f })] from
    m.addInterfaces_append t adds _]
  exact r.1.not_setUp_of_fault canIfindex env ((m.addInterfaces_canNormal t adds).trans hn) f hreg

/-- One interface added on descriptor 3, then a second add whose `socket()` fails: its slot
    is counted with the `fd` -1. -/
theorem addInterfaces_setUp_socket :
    let m : CANmodule := ⟨[], [], [], 0, [], 0, false, 0⟩
    let env : AddInterfaceEnv := ⟨none, 3, ⟨0, -1, .canErrorDisable, [], []⟩, fun _ => true⟩
    let adds := [((1 : Int), env)]
    let r := m.addInterfaces ⟨[], []⟩ adds
    let r' := m.addInterfaces ⟨[], []⟩ (adds ++ [(2, { env with fault := some .socket })])
    m.SetUp ⟨[], []⟩ ∧ (∀ a ∈ adds, a.2.fault = none) ∧
      (if AddInterfaceFault.socket = .ifIndexToName then env.stale.fd
        else if AddInterfaceFault.socket = .socket then -1 else env.fd) ∉ r.2.registered ∧
      r.1.SetUp r.2 ∧ ¬r'.1.SetUp r'.2 :=
  have hs : SetUp ⟨[], [], [], 0, [], 0, false, 0⟩ ⟨[], []⟩ := nofun
  ⟨hs, by decide, by decide, addInterfaces_setUp _ 2 _ hs rfl _ (by decide) _ (by decide)⟩

end CANmodule

/-- Whatever step of `CO_CANmodule_addInterface` fails, on any module out of normal mode and
    any descriptor table: the call returns an error with one more interface counted; from
    `socket()` on, the new socket is still open afterwards; and `CO_CANmodule_disable` closes
    the failed slot's `fd` after those of the interfaces before it. So does the disable that
    `CO_CANmodule_init` runs on the failure. When `if_indextoname` fails, that `fd` is the
    stale value `realloc` left, a descriptor no call of the module opened. -/
theorem canModuleAddInterface_failure (m : CANmodule) (canIfindex : Int)
    (env : CANmodule.AddInterfaceEnv) (f : CANmodule.AddInterfaceFault) (t : FdTable)
    (rxSize : Nat) (txArray : List CANtx) :
    let m₀ := { m with canNormal := false }
    let env := { env with fault := some f }
    let r := m₀.canModuleAddInterface canIfindex env
    let fd := if f = .ifIndexToName then env.stale.fd else if f = .socket then -1 else env.fd
    let init := m.canModuleInit rxSize txArray canIfindex env
    r.2 ≠ .no ∧ r.1.canInterfaces.length = m.canInterfaces.length + 1 ∧
      (f ≠ .ifIndexToName → f ≠ .socket →
        env.fd ∈ (t.applyAll (m₀.addInterfaceEffects env)).openFds) ∧
      r.1.canModuleDisableEffects = m.canModuleDisableEffects ++ [.epollDel fd, .close fd] ∧
      init.2 ≠ .no ∧
      ∃ m' : CANmodule, init.1 = m'.canModuleDisable ∧
        m'.canModuleDisableEffects = [.epollDel fd, .close fd] := by
  intro m₀ env' r fd init
  obtain ⟨hne, i, hr, hi⟩ := m₀.canModuleAddInterface_of_fault canIfindex env rfl f
  obtain ⟨hne', m', i', hinit, hi', hfd'⟩ :=
    m.canModuleInit_of_fault canIfindex env rxSize txArray f
  have heffs := m₀.addInterfaceEffects_of_fault env rfl f
  refine ⟨hne, by simp [r, hr], fun h₁ h₂ => ?_, ?_, hne', m', hinit, ?_⟩
  · simp [heffs, h₁, h₂, FdTable.applyAll, FdEffect.apply]
  · rw [hr, CANmodule.canModuleDisableEffects_append, hi]
    rfl
  · simp [CANmodule.canModuleDisableEffects, hi', hfd', fd]

end CANopenLinux
