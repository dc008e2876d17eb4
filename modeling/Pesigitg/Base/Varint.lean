import Pesigitg.Base.Endian

/-!
# Variable-length integers

A number written in one, two, four or eight bytes, most significant first. The two top
bits of the first byte hold the base-2 logarithm of the width, the other bits the number.
Nothing asks for the shortest width, so a number has up to four encodings.
-/

namespace Pesigitg.Base

/-- The encoding of `value` in `2 ^ log` bytes. -/
def varint (log value : Nat) : Bytes := toBe (2 ^ log) (log * 2 ^ (8 * 2 ^ log - 2) + value)

/-- The byte sequences that encode a number. -/
def IsVarint (bytes : Bytes) (value : Nat) : Prop :=
  ∃ log < 4, value < 2 ^ (8 * 2 ^ log - 2) ∧ bytes = varint log value

/-- Reading bytes behind a value shifts it by their number. -/
theorem foldl_be (start : Nat) (bytes : Bytes) :
    bytes.foldl (fun value byte => value * 256 + byte.toNat) start =
      start * 256 ^ bytes.length + ofBe bytes := by
  induction bytes using List.reverseRecOn with
  | nil => simp [ofBe]
  | append_singleton bytes byte ih =>
    rw [List.foldl_concat, ih, ofBe_concat, List.length_append, List.length_singleton, pow_succ]
    ring

/-- The first byte has the highest weight. -/
theorem ofBe_cons (first : UInt8) (rest : Bytes) :
    ofBe (first :: rest) = first.toNat * 256 ^ rest.length + ofBe rest := by
  have folded := foldl_be first.toNat rest
  rw [← folded, ofBe, List.foldl_cons, Nat.zero_mul, Nat.zero_add]

/-- The number's bits beside the logarithm: all but two of the first byte's, and the
bytes behind it. -/
theorem two_pow_varint_bits {log width : Nat} (sized : width + 1 = 2 ^ log) :
    2 ^ (8 * 2 ^ log - 2) = 64 * 256 ^ width := by
  have split : 8 * 2 ^ log - 2 = 6 + 8 * width := by omega
  rw [split, pow_add, pow_mul]
  norm_num

/-- A number led by a digit below `count` is below `count` units. -/
theorem leading_lt {digit count low unit : Nat} (digit_lt : digit < count) (low_lt : low < unit) :
    digit * unit + low < count * unit :=
  calc digit * unit + low
      < digit * unit + unit := Nat.add_lt_add_left low_lt _
    _ = (digit + 1) * unit := by ring
    _ ≤ count * unit := Nat.mul_le_mul_right unit digit_lt

/-- A leading byte and a number below it are found again in their weighted sum. -/
theorem digit_split {first low unit log value : Nat} (low_lt : low < unit)
    (value_lt : value < 64 * unit) (equal : first * unit + low = log * (64 * unit) + value) :
    first / 64 = log ∧ value = first % 64 * unit + low := by
  have positive : 0 < unit := by omega
  have lead : first = log * 64 + value / unit := by
    have left : (first * unit + low) / unit = first := by
      rw [Nat.mul_comm, Nat.mul_add_div positive, Nat.div_eq_of_lt low_lt, Nat.add_zero]
    have right : (log * (64 * unit) + value) / unit = log * 64 + value / unit := by
      rw [← Nat.mul_assoc, Nat.mul_comm, Nat.mul_add_div positive]
    rw [← left, equal, right]
  have small : value / unit < 64 := by
    rw [Nat.div_lt_iff_lt_mul positive]
    exact value_lt
  have tail : value % unit = low := by
    have left : (first * unit + low) % unit = low := by
      rw [Nat.mul_comm, Nat.mul_add_mod, Nat.mod_eq_of_lt low_lt]
    rw [← left, equal, ← Nat.mul_assoc, Nat.mul_comm, Nat.mul_add_mod]
  have high : first / 64 = log := by
    rw [lead, Nat.mul_comm, Nat.mul_add_div (by decide), Nat.div_eq_of_lt small, Nat.add_zero]
  have rest : first % 64 = value / unit := by
    rw [lead, Nat.mul_comm, Nat.mul_add_mod, Nat.mod_eq_of_lt small]
  refine ⟨high, ?_⟩
  rw [rest, ← tail, Nat.mul_comm]
  exact (Nat.div_add_mod value unit).symm

/-- What an encoding says byte by byte. -/
theorem isVarint_cons_iff {first : UInt8} {rest : Bytes} {value : Nat} :
    IsVarint (first :: rest) value ↔ rest.length + 1 = 2 ^ (first.toNat / 64) ∧
      value = first.toNat % 64 * 256 ^ rest.length + ofBe rest := by
  constructor
  · rintro ⟨log, small, fits, written⟩
    have sized : rest.length + 1 = 2 ^ log := by
      have lengths := congrArg List.length written
      rwa [varint, toBe_length, List.length_cons] at lengths
    have unit := two_pow_varint_bits sized
    have inside : log * 2 ^ (8 * 2 ^ log - 2) + value < 256 ^ 2 ^ log := by
      have whole : 4 * 2 ^ (8 * 2 ^ log - 2) = 256 ^ 2 ^ log := by
        rw [unit, ← sized, pow_succ]
        ring
      exact whole ▸ leading_lt small fits
    have read := congrArg ofBe written
    rw [varint, ofBe_toBe_of_lt inside, ofBe_cons, unit] at read
    rw [unit] at fits
    obtain ⟨high, total⟩ := digit_split (ofBe_lt rest) fits read
    exact ⟨high ▸ sized, total⟩
  · rintro ⟨sized, total⟩
    have unit := two_pow_varint_bits sized
    have byte_lt := first.toNat_lt
    refine ⟨first.toNat / 64, by omega, ?_, ?_⟩
    · rw [unit, total]
      exact leading_lt (Nat.mod_lt _ (by decide)) (ofBe_lt rest)
    · have whole : first.toNat / 64 * 2 ^ (8 * 2 ^ (first.toNat / 64) - 2) + value =
          ofBe (first :: rest) := by
        rw [unit, total, ofBe_cons]
        calc first.toNat / 64 * (64 * 256 ^ rest.length) +
              (first.toNat % 64 * 256 ^ rest.length + ofBe rest)
            = (64 * (first.toNat / 64) + first.toNat % 64) * 256 ^ rest.length + ofBe rest := by ring
          _ = first.toNat * 256 ^ rest.length + ofBe rest := by rw [Nat.div_add_mod]
      rw [varint, whole, ← sized]
      exact (toBe_ofBe (first :: rest)).symm

/-- An encoding has at least its first byte. -/
theorem IsVarint.exists_cons {bytes : Bytes} {value : Nat} (encoded : IsVarint bytes value) :
    ∃ first rest, bytes = first :: rest := by
  cases bytes with
  | nil =>
    obtain ⟨log, -, -, written⟩ := encoded
    have lengths := congrArg List.length written
    rw [varint, toBe_length, List.length_nil] at lengths
    exact absurd lengths.symm (Nat.pow_pos (by decide)).ne'
  | cons first rest => exact ⟨first, rest, rfl⟩

/-- An encoding has at least one byte. -/
theorem IsVarint.one_le_length {bytes : Bytes} {value : Nat} (encoded : IsVarint bytes value) :
    1 ≤ bytes.length := by
  obtain ⟨first, rest, rfl⟩ := encoded.exists_cons
  simp

end Pesigitg.Base
