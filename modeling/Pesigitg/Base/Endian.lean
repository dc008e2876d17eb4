import Pesigitg.Base.Bytes
import Mathlib.Data.List.Induction
import Mathlib.Tactic.Ring

/-! Big-endian readings of byte sequences. `ofBe_toBe` and `toBe_ofBe` are the two
round trips every fixed-width integer field of a wire format rests on. `ByteOrder` reads
and writes what stands in memory on a machine of either order. -/

namespace Pesigitg.Base

/-- The natural number a big-endian byte sequence denotes. -/
def ofBe (bytes : Bytes) : Nat := bytes.foldl (fun value byte => value * 256 + byte.toNat) 0

/-- The low `width` bytes of a number, most significant first. -/
def toBe : Nat → Nat → Bytes
  | 0, _ => []
  | width + 1, value => toBe width (value / 256) ++ [UInt8.ofNat value]

/-- The last byte has the lowest weight. -/
theorem ofBe_concat (bytes : Bytes) (byte : UInt8) :
    ofBe (bytes ++ [byte]) = ofBe bytes * 256 + byte.toNat := by
  simp [ofBe, List.foldl_append]

/-- The encoding has the given width. -/
@[simp] theorem toBe_length (width value : Nat) : (toBe width value).length = width := by
  induction width generalizing value with
  | zero => rfl
  | succ width ih => simp [toBe, ih]

/-- Reading back gives the value up to the width. -/
theorem ofBe_toBe (width value : Nat) : ofBe (toBe width value) = value % 256 ^ width := by
  induction width generalizing value with
  | zero => simp [toBe, ofBe, Nat.mod_one]
  | succ width ih =>
    rw [toBe, ofBe_concat, ih, UInt8.toNat_ofNat', pow_succ' 256 width, Nat.mod_mul]
    omega

/-- A value that fits is read back. -/
theorem ofBe_toBe_of_lt {width value : Nat} (fits : value < 256 ^ width) :
    ofBe (toBe width value) = value := by
  rw [ofBe_toBe, Nat.mod_eq_of_lt fits]

/-- Writing back what was read gives the same bytes. -/
theorem toBe_ofBe (bytes : Bytes) : toBe bytes.length (ofBe bytes) = bytes := by
  induction bytes using List.reverseRecOn with
  | nil => rfl
  | append_singleton bytes byte ih =>
    have high : (ofBe bytes * 256 + byte.toNat) / 256 = ofBe bytes := by
      have := byte.toNat_lt
      omega
    have low : UInt8.ofNat (ofBe bytes * 256 + byte.toNat) = byte := by
      rw [← UInt8.toNat_inj, UInt8.toNat_ofNat']
      have := byte.toNat_lt
      omega
    rw [List.length_append, List.length_singleton, toBe, ofBe_concat, high, ih, low]

/-- The number that some bytes denote fits their width. -/
theorem ofBe_lt (bytes : Bytes) : ofBe bytes < 256 ^ bytes.length := by
  rw [← toBe_ofBe bytes, ofBe_toBe, toBe_length]
  exact Nat.mod_lt _ (Nat.pow_pos (by decide))

/-- `u16::from_be_bytes([high, low])`. -/
def beU16 (high low : UInt8) : UInt16 := UInt16.ofNat (ofBe [high, low])

/-- The two bytes of `value.to_be_bytes()` read back as `value`. -/
theorem beU16_toBe (value : UInt16) {high low : UInt8} (bytes : toBe 2 value.toNat = [high, low]) :
    beU16 high low = value := by
  have small : value.toNat < 256 ^ 2 := value.toNat_lt
  rw [beU16, ← bytes, ofBe_toBe_of_lt small, UInt16.ofNat_toNat]

/-- `u32::from_be_bytes` of four bytes. -/
def beU32 (bytes : Bytes) : UInt32 := UInt32.ofNat (ofBe bytes)

/-- A 32-bit value is read back from its four bytes. -/
theorem beU32_toBe (value : UInt32) : beU32 (toBe 4 value.toNat) = value := by
  have small : value.toNat < 256 ^ 4 := value.toNat_lt
  rw [beU32, ofBe_toBe_of_lt small, UInt32.ofNat_toNat]

/-- Four bytes are the `to_be_bytes()` of the number read from them. -/
theorem toBe_beU32 {bytes : Bytes} (sized : bytes.length = 4) :
    toBe 4 (beU32 bytes).toNat = bytes := by
  have small : ofBe bytes < 2 ^ 32 := by
    have fits := ofBe_lt bytes
    rwa [sized] at fits
  rw [beU32, UInt32.toNat_ofNat_of_lt' small, ← sized, toBe_ofBe]

/-- `u64::from_be_bytes` of eight bytes. -/
def beU64 (bytes : Bytes) : UInt64 := UInt64.ofNat (ofBe bytes)

/-- A 64-bit value is read back from its eight bytes. -/
theorem beU64_toBe (value : UInt64) : beU64 (toBe 8 value.toNat) = value := by
  have small : value.toNat < 256 ^ 8 := value.toNat_lt
  rw [beU64, ofBe_toBe_of_lt small, UInt64.ofNat_toNat]

/-- Eight bytes are the `to_be_bytes()` of the number read from them. -/
theorem toBe_beU64 {bytes : Bytes} (sized : bytes.length = 8) :
    toBe 8 (beU64 bytes).toNat = bytes := by
  have small : ofBe bytes < 2 ^ 64 := by
    have fits := ofBe_lt bytes
    rwa [sized] at fits
  rw [beU64, UInt64.toNat_ofNat_of_lt' small, ← sized, toBe_ofBe]

/-- The byte order of a machine. -/
inductive ByteOrder where
  | little
  | big
deriving DecidableEq, Repr

namespace ByteOrder

/-- The number that some bytes denote in memory. -/
def read : ByteOrder → Bytes → Nat
  | little, bytes => ofBe bytes.reverse
  | big, bytes => ofBe bytes

/-- The low `width` bytes of a number as they stand in memory. -/
def write : ByteOrder → Nat → Nat → Bytes
  | little, width, value => (toBe width value).reverse
  | big, width, value => toBe width value

variable {order : ByteOrder} {width value : Nat}

/-- In either byte order the encoding has the given width. -/
@[simp] theorem write_length : (order.write width value).length = width := by
  cases order <;> simp [write]

/-- In either byte order a value that fits is read back. -/
theorem read_write (fits : value < 256 ^ width) : order.read (order.write width value) = value := by
  cases order with
  | little => rw [write, read, List.reverse_reverse, ofBe_toBe_of_lt fits]
  | big => exact ofBe_toBe_of_lt fits

end ByteOrder

end Pesigitg.Base
