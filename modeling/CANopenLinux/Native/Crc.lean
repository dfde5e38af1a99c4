import CANopenLinux.ForStd.UInt

/-!
# CRC-16/CCITT and its place in a stored file

`crc16_ccitt` is not among the repository's sources; it is the known CRC-16/CCITT that the
storage engine treats as a pure function. A stored file ends with the CRC in the machine's
byte order, little-endian here: `crcBytes` writes it and `crcOfBytes` reads it back.
-/

namespace CANopenLinux

/-- Modelled from the spec: one byte of CRC-16/CCITT, polynomial `0x1021`, most significant
    bit first. -/
def crcStep (crc : UInt16) (b : UInt8) : UInt16 :=
  (List.range 8).foldl (fun c _ => if c &&& 0x8000 ≠ 0 then (c <<< 1) ^^^ 0x1021 else c <<< 1)
    (crc ^^^ (b.toUInt16 <<< 8))

/-- Modelled from the spec: `crc16_ccitt(block, blockLength, crc)`, from the initial value
    `crc`, with no final XOR. -/
def crc16Ccitt (block : List UInt8) (crc : UInt16) : UInt16 := block.foldl crcStep crc

/-- The two bytes `fwrite(&crc, 1, sizeof(crc), fp)` puts in the file. -/
def crcBytes (crc : UInt16) : List UInt8 :=
  [UInt8.ofNat (crc.toNat % 256), UInt8.ofNat (crc.toNat / 256)]

/-- The `uint16_t` that `memcpy` reads from two stored bytes. -/
def crcOfBytes (lo hi : UInt8) : UInt16 := UInt16.ofNat (lo.toNat + 256 * hi.toNat)

@[simp] theorem crcBytes_length (crc : UInt16) : (crcBytes crc).length = 2 := rfl

/-- Reading back the two bytes gives the CRC that was written. -/
@[simp] theorem crcOfBytes_crcBytes (crc : UInt16) :
    crcOfBytes ((crcBytes crc)[0]?.getD 0) ((crcBytes crc)[1]?.getD 0) = crc := by
  have h := crc.toNat_lt_size
  apply UInt16.toNat.inj
  simp [crcBytes, crcOfBytes, UInt8.ofNat, UInt8.toNat, UInt16.ofNat, UInt16.toNat] at h ⊢
  omega

theorem crcOfBytes_toNat (lo hi : UInt8) :
    (crcOfBytes lo hi).toNat = lo.toNat + 256 * hi.toNat := by
  have h₁ := lo.toNat_lt_size
  have h₂ := hi.toNat_lt_size
  simp only [crcOfBytes, UInt16.ofNat, UInt16.toNat, UInt8.size, BitVec.toNat_ofNat] at *
  omega

/-- Writing back the CRC read from two bytes gives those bytes. -/
theorem crcBytes_crcOfBytes (lo hi : UInt8) : crcBytes (crcOfBytes lo hi) = [lo, hi] := by
  have h₁ := lo.toNat_lt_size
  have h₂ := hi.toNat_lt_size
  simp only [crcBytes, crcOfBytes_toNat, List.cons.injEq, and_true]
  constructor <;> apply UInt8.toNat.inj <;>
    simp only [UInt8.ofNat, UInt8.toNat, UInt8.size, BitVec.toNat_ofNat] at * <;> omega

/-- Two bytes hold a CRC exactly when they read back as it. -/
theorem crcBytes_eq_iff {crc : UInt16} {lo hi : UInt8} :
    crcBytes crc = [lo, hi] ↔ crcOfBytes lo hi = crc := by
  constructor
  · intro h
    rw [← crcOfBytes_crcBytes crc, h]
    rfl
  · rintro rfl
    exact crcBytes_crcOfBytes lo hi

set_option maxRecDepth 10000 in
/-- The standard check value of CRC-16/XMODEM, "123456789". -/
example : crc16Ccitt [0x31, 0x32, 0x33, 0x34, 0x35, 0x36, 0x37, 0x38, 0x39] 0 = 0x31C3 := by
  decide

end CANopenLinux
