import Mathlib.Data.List.Basic

/-!
# Fixed-width integer lemmas for the standard library

In this toolchain `UInt32` and `UInt16` are structures over `BitVec`, but the library states
almost nothing about their bitwise operators. These lemmas move a goal on `&&&` and `^^^`
down to `BitVec`, where the bit-by-bit lemmas are, and give the `toNat` view of a wrapping
increment and decrement away from the wrap-around.

C converts an integer to an unsigned type modulo `2^w` (`Int.toUInt16Wrap`,
`Int.toUInt32Wrap`).
-/

namespace UInt32

theorem toBitVec_and (a b : UInt32) : (a &&& b).toBitVec = a.toBitVec &&& b.toBitVec := rfl

theorem toBitVec_xor (a b : UInt32) : (a ^^^ b).toBitVec = a.toBitVec ^^^ b.toBitVec := rfl

theorem toBitVec_or (a b : UInt32) : (a ||| b).toBitVec = a.toBitVec ||| b.toBitVec := rfl

theorem toBitVec_zero : (0 : UInt32).toBitVec = 0 := rfl

theorem eq_iff_toBitVec_eq {a b : UInt32} : a = b ↔ a.toBitVec = b.toBitVec :=
  ⟨UInt32.toBitVec_eq_of_eq, UInt32.eq_of_toBitVec_eq⟩

/-- Two words agree under a mask exactly when their difference vanishes under it: the
    SocketCAN filter test and the `CO_CANrxMsg` test are one predicate. -/
theorem xor_and_eq_zero_iff (a b m : UInt32) : (a ^^^ b) &&& m = 0 ↔ a &&& m = b &&& m := by
  simp only [eq_iff_toBitVec_eq, toBitVec_and, toBitVec_xor, toBitVec_zero,
    BitVec.eq_of_getLsbD_eq_iff]
  refine forall_congr' fun i => ?_
  simp only [BitVec.getLsbD_and, BitVec.getLsbD_xor, BitVec.getLsbD_zero]
  cases a.toBitVec.getLsbD i <;> cases b.toBitVec.getLsbD i <;> simp

/-- If `a` and `b` agree under `m`, they agree on every bit `c` that `m` contains. -/
theorem and_eq_of_xor_and_eq_zero {a b m c : UInt32} (h : (a ^^^ b) &&& m = 0)
    (hc : m &&& c = c) : a &&& c = b &&& c := by
  simp only [eq_iff_toBitVec_eq, toBitVec_and, toBitVec_xor, toBitVec_zero,
    BitVec.eq_of_getLsbD_eq_iff, BitVec.getLsbD_and, BitVec.getLsbD_xor, BitVec.getLsbD_zero,
    BitVec.ofNat_eq_ofNat] at *
  intro i
  have h1 := h i
  have h2 := hc i
  revert h1 h2
  cases a.toBitVec.getLsbD i <;> cases b.toBitVec.getLsbD i <;> cases m.toBitVec.getLsbD i <;>
    cases c.toBitVec.getLsbD i <;> decide

/-- Setting more bits keeps the bits of `c` that `a` already had. -/
theorem or_and_of_and_eq {a b c : UInt32} (h : a &&& c = c) : (a ||| b) &&& c = c := by
  simp only [eq_iff_toBitVec_eq, toBitVec_and, toBitVec_or, BitVec.eq_of_getLsbD_eq_iff,
    BitVec.getLsbD_and, BitVec.getLsbD_or] at *
  intro i
  have := h i
  revert this
  cases a.toBitVec.getLsbD i <;> cases b.toBitVec.getLsbD i <;> cases c.toBitVec.getLsbD i <;> decide

@[simp] theorem zero_or (a : UInt32) : 0 ||| a = a := by
  simp only [eq_iff_toBitVec_eq, toBitVec_or, toBitVec_zero, BitVec.eq_of_getLsbD_eq_iff]
  intro i
  simp [BitVec.getLsbD_or]

@[simp] theorem or_zero (a : UInt32) : a ||| 0 = a := by
  simp only [eq_iff_toBitVec_eq, toBitVec_or, toBitVec_zero, BitVec.eq_of_getLsbD_eq_iff]
  intro i
  simp [BitVec.getLsbD_or]

theorem or_and_self (a c : UInt32) : (a ||| c) &&& c = c := by
  simp only [eq_iff_toBitVec_eq, toBitVec_and, toBitVec_or, BitVec.eq_of_getLsbD_eq_iff]
  intro i
  simp only [BitVec.getLsbD_and, BitVec.getLsbD_or]
  cases a.toBitVec.getLsbD i <;> cases c.toBitVec.getLsbD i <;> simp

/-- A masked word with some bits added misses `c` if neither the mask nor the added bits
    meet it. -/
theorem and_or_and_eq_zero {a m b c : UInt32} (hm : m &&& c = 0) (hb : b &&& c = 0) :
    ((a &&& m) ||| b) &&& c = 0 := by
  simp only [eq_iff_toBitVec_eq, toBitVec_and, toBitVec_or, toBitVec_zero,
    BitVec.eq_of_getLsbD_eq_iff, BitVec.getLsbD_and, BitVec.getLsbD_or, BitVec.getLsbD_zero,
    BitVec.ofNat_eq_ofNat] at *
  intro i
  have h1 := hm i
  have h2 := hb i
  revert h1 h2
  cases a.toBitVec.getLsbD i <;> cases m.toBitVec.getLsbD i <;> cases b.toBitVec.getLsbD i <;>
    cases c.toBitVec.getLsbD i <;> decide

/-- A word misses two masks exactly when it misses their union. -/
theorem and_or_eq_zero {a b c : UInt32} : a &&& (b ||| c) = 0 ↔ a &&& b = 0 ∧ a &&& c = 0 := by
  simp only [eq_iff_toBitVec_eq, toBitVec_and, toBitVec_or, toBitVec_zero,
    BitVec.eq_of_getLsbD_eq_iff, BitVec.getLsbD_and, BitVec.getLsbD_or,
    Bool.and_or_distrib_left]
  simp [forall_and]

/-- A union is empty exactly when both parts are. -/
theorem or_eq_zero_iff {a b : UInt32} : a ||| b = 0 ↔ a = 0 ∧ b = 0 := by
  simp only [eq_iff_toBitVec_eq, toBitVec_or, toBitVec_zero, BitVec.eq_of_getLsbD_eq_iff,
    BitVec.getLsbD_or, BitVec.getLsbD_zero, BitVec.ofNat_eq_ofNat, Bool.or_eq_false_iff,
    forall_and]

/-- A sum below `2^32` does not wrap. -/
theorem toNat_add_of_lt {a b : UInt32} (h : a.toNat + b.toNat < 4294967296) :
    (a + b).toNat = a.toNat + b.toNat := by
  simp only [UInt32.toNat, UInt32.add_def, BitVec.toNat_add] at h ⊢
  exact Nat.mod_eq_of_lt h

/-- A sum that wraps is smaller than the sum of the values. -/
theorem toNat_add_le (a b : UInt32) : (a + b).toNat ≤ a.toNat + b.toNat := by
  simp only [UInt32.toNat, UInt32.add_def, BitVec.toNat_add]
  exact Nat.mod_le _ _

/-- A product below `2^32` does not wrap. -/
theorem toNat_mul_of_lt {a b : UInt32} (h : a.toNat * b.toNat < 4294967296) :
    (a * b).toNat = a.toNat * b.toNat := by
  simp only [UInt32.toNat, UInt32.mul_def, BitVec.toNat_mul] at h ⊢
  exact Nat.mod_eq_of_lt h

end UInt32

namespace UInt16

theorem toNat_add_one {a : UInt16} (h : a.toNat + 1 < 65536) : (a + 1).toNat = a.toNat + 1 := by
  simp only [UInt16.toNat, UInt16.add_def, BitVec.toNat_add] at h ⊢
  simp; omega

theorem toNat_sub_one {a : UInt16} (h : 0 < a.toNat) : (a - 1).toNat = a.toNat - 1 := by
  have : (1 : UInt16) ≤ a := by rw [UInt16.le_def]; simpa [UInt16.toNat] using h
  rw [UInt16.toNat_sub_of_le _ _ this]; rfl

theorem eq_zero_of_not_pos {a : UInt16} (h : ¬0 < a) : a = 0 := by
  rw [UInt16.lt_def, BitVec.lt_def] at h
  exact UInt16.toNat.inj (by simp [UInt16.toNat] at h ⊢; omega)

/-- A difference wraps modulo `2^16`. -/
theorem toNat_sub_mod (a b : UInt16) : (a - b).toNat = (65536 - b.toNat + a.toNat) % 65536 :=
  BitVec.toNat_sub ..

end UInt16

namespace Int

/-- C's conversion of an integer to `uint16_t`: modulo `2^16`. -/
def toUInt16Wrap (x : Int) : UInt16 := (x % 65536).toNat.toUInt16

/-- C's conversion of an integer to `uint32_t`: modulo `2^32`. -/
def toUInt32Wrap (x : Int) : UInt32 := (x % 4294967296).toNat.toUInt32

/-- C's conversion of a `long` to `int`, as gcc makes it: modulo `2^32`, into
    `[-2^31, 2^31)`. -/
def toInt32Wrap (x : Int) : Int := (x + 2147483648) % 4294967296 - 2147483648

theorem toNat_toUInt16Wrap (x : Int) : x.toUInt16Wrap.toNat = (x % 65536).toNat := by
  rw [toUInt16Wrap, Nat.toUInt16, UInt16.toNat_ofNat_of_lt]
  have := Int.emod_lt_of_pos x (by decide : (0 : Int) < 65536)
  have : (65536 : Nat) = UInt16.size := rfl
  omega

/-- Subtracting after the cast is subtracting before it. -/
theorem toNat_toUInt16Wrap_sub (x : Int) (n : UInt16) :
    (x.toUInt16Wrap - n).toNat = ((x - n.toNat) % 65536).toNat := by
  have := n.toNat_lt_size
  rw [UInt16.toNat_sub_mod, toNat_toUInt16Wrap]
  simp only [UInt16.size] at this
  omega

theorem toNat_toUInt32Wrap (x : Int) : x.toUInt32Wrap.toNat = (x % 4294967296).toNat := by
  rw [toUInt32Wrap, Nat.toUInt32, UInt32.toNat_ofNat_of_lt]
  have := Int.emod_lt_of_pos x (by decide : (0 : Int) < 4294967296)
  have : (4294967296 : Nat) = UInt32.size := rfl
  omega

end Int
