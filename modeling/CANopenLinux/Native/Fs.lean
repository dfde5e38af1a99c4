import Mathlib.Data.List.Basic

/-!
# Files, inodes and open handles

The storage engine's view of the file system. A path names an inode and an inode holds
bytes. `fopen` hands out a `FILE *` that refers to the inode, so a handle keeps writing the
same bytes after `rename` has moved them to another name, or given its name to other bytes.

What the code does to the file system is a list of effects: `fopen(p, "w")`, which truncates
`p` or creates it on a fresh inode; bytes reaching an inode at an offset; and `rename`. A
crash keeps a prefix of the effects, the last write possibly cut short (`Fs.crash`).

No two paths name one inode: the storage never makes a hard link, and `Fs` carries that as a
field, with the bound `next` above every named inode.
-/

namespace CANopenLinux

/-- The directory and the inodes. -/
structure Fs where
  names : String → Option Nat
  data : Nat → List UInt8
  next : Nat
  names_inj : ∀ p q n, names p = some n → names q = some n → p = q
  names_lt : ∀ p n, names p = some n → n < next

/-- One thing the code does to the file system. -/
inductive FsEffect
  /-- `fopen(p, "w")`: truncate `p`, or create it on a fresh inode. -/
  | openWrite (p : String)
  /-- Bytes reaching inode `n` at offset `pos`. -/
  | write (n : Nat) (pos : Nat) (bytes : List UInt8)
  /-- `rename(src, dst)`. -/
  | rename (src dst : String)

/-- The bytes left by writing `bytes` at offset `pos`. -/
def writeAt (content : List UInt8) (pos : Nat) (bytes : List UInt8) : List UInt8 :=
  content.take pos ++ List.replicate (pos - content.length) 0 ++ bytes ++
    content.drop (pos + bytes.length)

@[simp] theorem writeAt_nil_zero (bytes : List UInt8) : writeAt [] 0 bytes = bytes := by
  simp [writeAt]

theorem writeAt_zero (content bytes : List UInt8) :
    writeAt content 0 bytes = bytes ++ content.drop bytes.length := by
  simp [writeAt]

namespace Fs

/-- The empty directory. -/
def empty : Fs where
  names _ := none
  data _ := []
  next := 0
  names_inj _ _ _ h := by cases h
  names_lt _ _ h := by cases h

/-- A directory holding one file. -/
def single (p : String) (bytes : List UInt8) : Fs where
  names q := if q = p then some 0 else none
  data _ := bytes
  next := 1
  names_inj q₁ q₂ n h₁ h₂ := by
    dsimp only at h₁ h₂
    split at h₁ <;> split at h₂ <;> simp_all
  names_lt q n h := by
    dsimp only at h
    split at h <;> simp_all

/-- The bytes of the file at `p`, if there is one. -/
def read (fs : Fs) (p : String) : Option (List UInt8) := (fs.names p).map fs.data

/-- The inode `fopen(p, "w")` writes to: `p`'s own, or a fresh one. -/
def inodeFor (fs : Fs) (p : String) : Nat := (fs.names p).getD fs.next

private theorem openWrite_names_eq_some {names : String → Option Nat} {p q : String} {n k : Nat}
    (h : (if q = p then some n else names q) = some k) :
    (q = p ∧ n = k) ∨ (q ≠ p ∧ names q = some k) := by
  split at h
  · exact .inl ⟨‹_›, Option.some.inj h⟩
  · exact .inr ⟨‹_›, h⟩

/-- `fopen(p, "w")`: truncate `p`, or create it on a fresh inode. -/
def openWrite (fs : Fs) (p : String) : Fs :=
  match fs.names p with
  | some n => { fs with data := fun m => if m = n then [] else fs.data m }
  | none =>
    { names := fun q => if q = p then some fs.next else fs.names q
      data := fun m => if m = fs.next then [] else fs.data m
      next := fs.next + 1
      names_inj := fun q₁ q₂ k h₁ h₂ => by
        rcases openWrite_names_eq_some h₁ with ⟨rfl, rfl⟩ | ⟨-, hq₁⟩ <;>
          rcases openWrite_names_eq_some h₂ with ⟨rfl, hk⟩ | ⟨-, hq₂⟩
        · rfl
        · exact absurd (fs.names_lt q₂ _ hq₂) (Nat.lt_irrefl _)
        · exact absurd (fs.names_lt q₁ _ (hk ▸ hq₁)) (Nat.lt_irrefl _)
        · exact fs.names_inj q₁ q₂ k hq₁ hq₂
      names_lt := fun q k h => by
        rcases openWrite_names_eq_some h with ⟨-, rfl⟩ | ⟨-, hq⟩
        · exact Nat.lt_succ_self _
        · exact Nat.lt_succ_of_lt (fs.names_lt q k hq) }

private theorem rename_names_eq_some {names : String → Option Nat} {src dst q : String}
    {n k : Nat} (h : (if q = dst then some n else if q = src then none else names q) = some k) :
    (q = dst ∧ n = k) ∨ (q ≠ dst ∧ q ≠ src ∧ names q = some k) := by
  split at h
  · exact .inl ⟨‹_›, Option.some.inj h⟩
  · split at h
    · cases h
    · exact .inr ⟨‹_›, ‹_›, h⟩

/-- `rename(src, dst)`: `dst` names `src`'s inode and `src` names nothing; a missing `src`
    makes the call fail with no effect. -/
def rename (fs : Fs) (src dst : String) : Fs :=
  if src = dst then fs else
  match h : fs.names src with
  | none => fs
  | some n =>
    { fs with
      names := fun q => if q = dst then some n else if q = src then none else fs.names q
      names_inj := fun q₁ q₂ k h₁ h₂ => by
        rcases rename_names_eq_some h₁ with ⟨rfl, rfl⟩ | ⟨-, hs₁, hq₁⟩ <;>
          rcases rename_names_eq_some h₂ with ⟨rfl, hk⟩ | ⟨-, hs₂, hq₂⟩
        · rfl
        · exact absurd (fs.names_inj src q₂ _ h hq₂).symm hs₂
        · exact absurd (fs.names_inj src q₁ _ (hk ▸ h) hq₁).symm hs₁
        · exact fs.names_inj q₁ q₂ k hq₁ hq₂
      names_lt := fun q k hq => by
        have := fs.names_lt src n h
        dsimp only at hq
        split at hq
        · simp_all
        · split at hq
          · cases hq
          · exact fs.names_lt q k hq }

/-- Bytes reaching inode `n` at offset `pos`. -/
def write (fs : Fs) (n pos : Nat) (bytes : List UInt8) : Fs :=
  { fs with data := fun m => if m = n then writeAt (fs.data n) pos bytes else fs.data m }

end Fs

/-- What one effect does. -/
def FsEffect.apply : FsEffect → Fs → Fs
  | .openWrite p, fs => fs.openWrite p
  | .write n pos bytes, fs => fs.write n pos bytes
  | .rename src dst, fs => fs.rename src dst

namespace Fs

/-- The file system after the effects, in order. -/
def applyAll (fs : Fs) (effs : List FsEffect) : Fs := effs.foldl (fun fs e => e.apply fs) fs

/-- A crash after the first `k` effects, with the first `j` bytes of the next one on the
    disk if it is a write. -/
def crash (fs : Fs) (effs : List FsEffect) (k j : Nat) : Fs :=
  match effs[k]? with
  | some (.write n pos bytes) => (fs.applyAll (effs.take k)).write n pos (bytes.take j)
  | _ => fs.applyAll (effs.take k)

@[simp] theorem applyAll_nil (fs : Fs) : fs.applyAll [] = fs := rfl

@[simp] theorem applyAll_cons (fs : Fs) (e : FsEffect) (effs : List FsEffect) :
    fs.applyAll (e :: effs) = (e.apply fs).applyAll effs := rfl

theorem applyAll_append (fs : Fs) (effs₁ effs₂ : List FsEffect) :
    fs.applyAll (effs₁ ++ effs₂) = (fs.applyAll effs₁).applyAll effs₂ := by
  simp [applyAll, List.foldl_append]

/-! ## What each effect does to the files -/

variable (fs : Fs) {p q : String}

theorem read_eq_none (h : fs.names p = none) : fs.read p = none := by simp [read, h]

theorem read_of_names {n : Nat} (h : fs.names p = some n) : fs.read p = some (fs.data n) := by
  simp [read, h]

@[simp] theorem names_openWrite_self : (fs.openWrite p).names p = some (fs.inodeFor p) := by
  unfold openWrite inodeFor
  split <;> simp_all

@[simp] theorem read_openWrite_self : (fs.openWrite p).read p = some [] := by
  unfold openWrite read
  split <;> simp_all

theorem read_openWrite_ne (h : q ≠ p) : (fs.openWrite p).read q = fs.read q := by
  unfold openWrite read
  split
  · rename_i n hn
    cases hq : fs.names q with
    | none => simp [hq]
    | some m =>
      have : m ≠ n := fun hmn => h (fs.names_inj q p n (hmn ▸ hq) hn)
      simp [hq, this]
  · cases hq : fs.names q with
    | none => simp [h, hq]
    | some m =>
      have : m ≠ fs.next := Nat.ne_of_lt (fs.names_lt q m hq)
      simp [h, hq, this]

theorem read_rename_dst (src dst : String) (h : src ≠ dst) :
    (fs.rename src dst).read dst = (fs.read src).or (fs.read dst) := by
  unfold rename
  simp only [h, ↓reduceIte]
  split
  · rename_i hs
    simp [read, hs]
  · rename_i n hs
    simp [read, hs]

theorem read_rename_src (src dst : String) (h : src ≠ dst) :
    (fs.rename src dst).read src = none := by
  unfold rename
  simp only [h, ↓reduceIte]
  split
  · rename_i hs
    exact fs.read_eq_none hs
  · simp [read, h]

theorem read_rename_ne (src dst : String) (h₁ : q ≠ src) (h₂ : q ≠ dst) :
    (fs.rename src dst).read q = fs.read q := by
  unfold rename
  split
  · rfl
  split
  · rfl
  · simp [read, h₁, h₂]

@[simp] theorem names_write (n pos : Nat) (bytes : List UInt8) :
    (fs.write n pos bytes).names = fs.names := rfl

theorem names_openWrite_of_ne (h : q ≠ p) : (fs.openWrite p).names q = fs.names q := by
  unfold openWrite
  split <;> simp [h]

theorem names_rename_dst (src dst : String) (h : src ≠ dst) :
    (fs.rename src dst).names dst = (fs.names src).or (fs.names dst) := by
  unfold rename
  simp only [h, ↓reduceIte]
  split <;> simp_all

theorem names_rename_ne (src dst : String) (h₁ : q ≠ src) (h₂ : q ≠ dst) :
    (fs.rename src dst).names q = fs.names q := by
  unfold rename
  split
  · rfl
  split
  · rfl
  · simp [h₁, h₂]

/-- `fopen(p, "w")` writes to an inode no other path names. -/
theorem inodeFor_ne {n : Nat} (hq : fs.names q = some n) (h : p ≠ q) : fs.inodeFor p ≠ n := by
  unfold inodeFor
  cases hp : fs.names p with
  | none => exact Nat.ne_of_gt (fs.names_lt q n hq)
  | some m => exact fun hm => h (fs.names_inj p q n (hm ▸ hp) hq)

theorem read_write_self {n : Nat} (h : fs.names p = some n) (pos : Nat) (bytes : List UInt8) :
    (fs.write n pos bytes).read p = some (writeAt (fs.data n) pos bytes) := by
  simp [read, write, h]

@[simp] theorem data_openWrite_inodeFor : (fs.openWrite p).data (fs.inodeFor p) = [] := by
  unfold openWrite inodeFor
  split <;> simp_all

/-- `fopen(p, "w")`, then bytes written through the handle from the start: the file holds
    exactly those bytes. -/
@[simp] theorem read_openWrite_write (bytes : List UInt8) :
    ((fs.openWrite p).write (fs.inodeFor p) 0 bytes).read p = some bytes := by
  simp [read_write_self _ (names_openWrite_self fs)]

/-- Another path never names the inode `fopen(p, "w")` writes to. -/
theorem names_openWrite_ne (h : q ≠ p) : (fs.openWrite p).names q ≠ some (fs.inodeFor p) :=
  fun hq => h ((fs.openWrite p).names_inj q p _ hq (names_openWrite_self fs))

theorem read_write_ne {n : Nat} (h : fs.names p ≠ some n) (pos : Nat) (bytes : List UInt8) :
    (fs.write n pos bytes).read p = fs.read p := by
  unfold read write
  cases hp : fs.names p with
  | none => rfl
  | some m =>
    have : m ≠ n := fun hmn => h (hmn ▸ hp)
    simp [this]

/-- Writes to inode `n` change no file that another inode holds. -/
theorem read_applyAll_writes {n : Nat} {effs : List FsEffect}
    (h : ∀ eff ∈ effs, ∃ pos bytes, eff = .write n pos bytes) (hq : fs.names q ≠ some n) :
    (fs.applyAll effs).read q = fs.read q := by
  induction effs generalizing fs with
  | nil => rfl
  | cons eff effs ih =>
    obtain ⟨pos, bytes, rfl⟩ := h eff (List.mem_cons_self _ _)
    rw [applyAll_cons, FsEffect.apply, ih _ (fun e he => h e (List.mem_cons_of_mem _ he)) (by exact hq),
      read_write_ne _ hq]

/-! ## Crashes -/

@[simp] theorem crash_nil (k j : Nat) : fs.crash [] k j = fs := by simp [crash]

@[simp] theorem crash_cons_succ (e : FsEffect) (effs : List FsEffect) (k j : Nat) :
    fs.crash (e :: effs) (k + 1) j = (e.apply fs).crash effs k j := by
  simp only [crash, List.getElem?_cons_succ, List.take_succ_cons, applyAll_cons]

@[simp] theorem crash_openWrite_zero (effs : List FsEffect) (j : Nat) :
    fs.crash (.openWrite p :: effs) 0 j = fs := by
  simp only [crash, List.getElem?_cons_zero, List.take_zero, applyAll_nil]

@[simp] theorem crash_rename_zero (effs : List FsEffect) (j : Nat) :
    fs.crash (.rename p q :: effs) 0 j = fs := by
  simp only [crash, List.getElem?_cons_zero, List.take_zero, applyAll_nil]

@[simp] theorem crash_write_zero (n pos : Nat) (bytes : List UInt8) (effs : List FsEffect)
    (j : Nat) : fs.crash (.write n pos bytes :: effs) 0 j = fs.write n pos (bytes.take j) := by
  simp only [crash, List.getElem?_cons_zero, List.take_zero, applyAll_nil]

/-- A crash after the last effect is the whole run. -/
theorem crash_length (effs : List FsEffect) (j : Nat) :
    fs.crash effs effs.length j = fs.applyAll effs := by
  simp [crash]

/-- A crash inside a run of two parts happens inside the first, or after all of it. -/
theorem crash_append (effs₁ effs₂ : List FsEffect) (k j : Nat) :
    fs.crash (effs₁ ++ effs₂) k j =
      if k < effs₁.length then fs.crash effs₁ k j
      else (fs.applyAll effs₁).crash effs₂ (k - effs₁.length) j := by
  induction effs₁ generalizing fs k with
  | nil => simp only [List.nil_append, List.length_nil, Nat.not_lt_zero, ↓reduceIte, applyAll_nil,
      Nat.sub_zero]
  | cons e effs₁ ih =>
    cases k with
    | zero =>
      cases e <;> simp only [List.cons_append, List.length_cons, Nat.zero_lt_succ, ↓reduceIte,
        crash_openWrite_zero, crash_rename_zero, crash_write_zero]
    | succ k =>
      simp only [List.cons_append, crash_cons_succ, ih, List.length_cons, Nat.add_lt_add_iff_right,
        applyAll_cons, Nat.add_sub_add_right]

end Fs

end CANopenLinux
