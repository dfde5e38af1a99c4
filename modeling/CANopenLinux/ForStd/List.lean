import Mathlib.Data.List.Basic

/-!
# List lemmas for the standard library

Generic lemmas about `List.set`, `List.modify` and `List.findIdx?` that the driver's table
proofs use.
-/

namespace Except

/-- A successful bind is a successful first computation and a successful continuation. -/
theorem bind_eq_ok {x : Except ε α} {f : α → Except ε β} {b : β} (h : x >>= f = .ok b) :
    ∃ a, x = .ok a ∧ f a = .ok b := by
  cases x with
  | error e => cases h
  | ok a => exact ⟨a, rfl, h⟩

end Except

namespace List

/-- Setting one position in both arguments sets it in their `zipWith`. -/
theorem zipWith_set (f : α → β → γ) : ∀ (l : List α) (l' : List β) (i : Nat) (a : α) (b : β),
    zipWith f (l.set i a) (l'.set i b) = (zipWith f l l').set i (f a b)
  | [], _, _, _, _ => by simp
  | _ :: _, [], _, _, _ => by simp
  | _ :: _, _ :: _, 0, _, _ => by simp
  | _ :: l, _ :: l', i + 1, a, b => by simp [zipWith_set f l l' i a b]

theorem zip_set (l : List α) (l' : List β) (i : Nat) (a : α) (b : β) :
    (l.set i a).zip (l'.set i b) = (l.zip l').set i (a, b) :=
  zipWith_set Prod.mk l l' i a b

/-- Modifying the element `a` at position `i` changes the count by what `f` does to `a`. -/
theorem countP_modify (p : α → Bool) (f : α → α) : ∀ (l : List α) (i : Nat) (a : α),
    l[i]? = some a → (l.modify f i).countP p + (if p a then 1 else 0) =
      l.countP p + (if p (f a) then 1 else 0)
  | [], _, _, h => by rw [getElem?_nil] at h; cases h
  | x :: l, 0, a, h => by
    obtain rfl : x = a := Option.some.inj (by rwa [getElem?_cons_zero] at h)
    simp only [modify_zero_cons, countP_cons]
    omega
  | x :: l, i + 1, a, h => by
    have := countP_modify p f l i a (by rwa [getElem?_cons_succ] at h)
    simp only [modify_succ_cons, countP_cons]
    omega

/-- A property kept by every step of an `Option`-valued left fold holds of its result. -/
theorem foldlM_option_inv {P : β → Prop} {f : β → α → Option β}
    (hf : ∀ b a b', f b a = some b' → P b → P b') :
    ∀ (l : List α) (b b' : β), l.foldlM f b = some b' → P b → P b'
  | [], b, b', h, hb => by
    obtain rfl : b = b' := by simpa [List.foldlM] using h
    exact hb
  | a :: l, b, b', h, hb => by
    simp only [List.foldlM, Option.bind_eq_bind, Option.bind_eq_some] at h
    obtain ⟨b₁, h₁, h₂⟩ := h
    exact foldlM_option_inv hf l b₁ b' h₂ (hf _ _ _ h₁ hb)

/-- A successful `Except`-valued left fold is a successful first step and a successful
    fold of the rest. -/
theorem foldlM_cons_eq_ok {f : β → α → Except ε β} {a : α} {l : List α} {b b' : β}
    (h : (a :: l).foldlM f b = .ok b') : ∃ b₁, f b a = .ok b₁ ∧ l.foldlM f b₁ = .ok b' := by
  rw [foldlM_cons] at h
  exact Except.bind_eq_ok h

/-- A property kept by every step of an `Except`-valued left fold holds of its result. -/
theorem foldlM_except_inv {P : β → Prop} {f : β → α → Except ε β}
    (hf : ∀ b a b', f b a = .ok b' → P b → P b') :
    ∀ (l : List α) (b b' : β), l.foldlM f b = .ok b' → P b → P b'
  | [], b, b', h, hb => by
    cases h
    exact hb
  | a :: l, b, b', h, hb => by
    obtain ⟨b₁, h₁, h₂⟩ := foldlM_cons_eq_ok h
    exact foldlM_except_inv hf l b₁ b' h₂ (hf _ _ _ h₁ hb)

/-- `findIdx?` finds position `i`, holding `x`, exactly when `x` satisfies `p` and no earlier
    element does. -/
theorem findIdx?_eq_some_and_getElem?_iff {xs : List α} {p : α → Bool} {i : Nat} {x : α} :
    xs.findIdx? p = some i ∧ xs[i]? = some x ↔
      xs[i]? = some x ∧ p x = true ∧ ∀ j < i, ∀ y ∈ xs[j]?, p y = false := by
  rw [findIdx?_eq_some_iff_getElem]
  constructor
  · rintro ⟨⟨hi, hp, hlow⟩, hx⟩
    obtain rfl : xs[i] = x := by simpa [getElem?_eq_getElem hi] using hx
    refine ⟨hx, hp, fun j hj y hy => ?_⟩
    obtain rfl : xs[j] = y := by simpa [getElem?_eq_getElem (Nat.lt_trans hj hi)] using hy
    simpa using hlow j hj
  · rintro ⟨hx, hp, hlow⟩
    obtain ⟨hi, rfl⟩ := getElem?_eq_some_iff.mp hx
    exact ⟨⟨hi, hp, fun j hj => by simp [hlow j hj _ (getElem?_eq_getElem _)]⟩, hx⟩

end List
