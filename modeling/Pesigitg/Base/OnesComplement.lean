import Mathlib.Data.Nat.ModEq
import Pesigitg.Base.Endian

/-!
# One's complement sums

Addition with end-around carry, and the 16-bit words of a byte sequence that internet checksums
add up. `Reduces` says what such a sum is of the ordinary one: congruent to it modulo the largest
word, and zero only if it is. An implementation that adds first and folds the carries in later
satisfies the same relation, so the two meet in `Reduces.eq_limit_iff` and
`Reduces.complement_iff` without a common algorithm.
-/

namespace Pesigitg.Base

/-- Addition with end-around carry; `limit` is the largest word. -/
def carryAdd (limit left right : Nat) : Nat :=
  if limit < left + right then left + right - limit else left + right

/-- The one's complement sum of some words. -/
def carrySum (limit : Nat) (numbers : List Nat) : Nat := numbers.foldl (carryAdd limit) 0

/-- `value` is `total` with all carries added back in. -/
structure Reduces (limit value total : Nat) : Prop where
  le : value ≤ limit
  modEq : value ≡ total [MOD limit]
  zero_iff : value = 0 ↔ total = 0

section Reduction

variable {limit value total number : Nat}

/-- A value within the limit is its own reduction. -/
theorem Reduces.refl (small : value ≤ limit) : Reduces limit value value :=
  ⟨small, Nat.ModEq.refl value, Iff.rfl⟩

/-- Adding one more word. -/
theorem Reduces.carryAdd (reduces : Reduces limit value total) (small : number ≤ limit) :
    Reduces limit (carryAdd limit value number) (total + number) := by
  obtain ⟨le, modEq, zero_iff⟩ := reduces
  unfold Base.carryAdd
  split
  · next carry =>
    refine ⟨by omega, ?_, by omega⟩
    calc value + number - limit ≡ value + number - limit + limit [MOD limit] :=
          (Nat.add_modEq_right).symm
      _ = value + number := by omega
      _ ≡ total + number [MOD limit] := modEq.add_right number
  · next inside => exact ⟨by omega, modEq.add_right number, by omega⟩

/-- Folding every carry back in right away reduces the sum. -/
theorem carrySum_reduces {numbers : List Nat} (small : ∀ number ∈ numbers, number ≤ limit) :
    Reduces limit (carrySum limit numbers) numbers.sum := by
  induction numbers using List.reverseRecOn with
  | nil => exact Reduces.refl (Nat.zero_le limit)
  | append_singleton numbers number ih =>
    rw [carrySum, List.foldl_append, List.sum_append, List.sum_singleton]
    apply Reduces.carryAdd
    · exact ih fun earlier member => small earlier (List.mem_append_left _ member)
    · exact small number (by simp)

/-- Folding the part above the word into the part inside it does not change the reduction. -/
theorem Reduces.fold {high low : Nat} (reduces : Reduces limit value (low + high)) :
    Reduces limit value (high * (limit + 1) + low) := by
  refine ⟨reduces.le, reduces.modEq.trans ?_, ?_⟩
  · have split : high * (limit + 1) + low = low + high + limit * high := by
      rw [Nat.mul_add, Nat.mul_comm limit high]
      omega
    rw [split]
    simp [Nat.ModEq]
  · rw [reduces.zero_iff]
    constructor
    · intro nothing
      obtain ⟨rfl, rfl⟩ := Nat.add_eq_zero_iff.mp nothing
      simp
    · intro nothing
      obtain ⟨product, rfl⟩ := Nat.add_eq_zero_iff.mp nothing
      have none : high = 0 := by
        rcases Nat.mul_eq_zero.mp product with none | impossible
        · exact none
        · omega
      omega

/-- A reduction is all ones exactly when the sum is a positive multiple of the limit. -/
theorem Reduces.eq_limit_iff (reduces : Reduces limit value total) (positive : 0 < limit) :
    value = limit ↔ limit ∣ total ∧ total ≠ 0 := by
  constructor
  · rintro rfl
    refine ⟨?_, fun nothing => absurd (reduces.zero_iff.mpr nothing) (by omega)⟩
    exact (Nat.modEq_zero_iff_dvd).mp (reduces.modEq.symm.trans (by simp [Nat.ModEq]))
  · rintro ⟨divides, nonzero⟩
    have present : value ≠ 0 := fun nothing => nonzero (reduces.zero_iff.mp nothing)
    have multiple : limit ∣ value :=
      (Nat.modEq_zero_iff_dvd).mp (reduces.modEq.trans ((Nat.modEq_zero_iff_dvd).mpr divides))
    exact Nat.le_antisymm reduces.le (Nat.le_of_dvd (by omega) multiple)

/-- The complement of a reduction cancels the sum it was taken of, up to what was added besides. -/
theorem Reduces.complement_iff {sum extra : Nat} (reduces : Reduces limit value (sum + extra)) :
    limit ∣ sum + (limit - value) ↔ limit ∣ extra := by
  have le := reduces.le
  have cancels : sum + (limit - value) + (sum + extra) ≡ sum [MOD limit] := by
    calc sum + (limit - value) + (sum + extra)
        ≡ sum + (limit - value) + value [MOD limit] := reduces.modEq.symm.add_left _
      _ = sum + limit := by omega
      _ ≡ sum [MOD limit] := Nat.add_modEq_right
  rw [← Nat.modEq_zero_iff_dvd, ← Nat.modEq_zero_iff_dvd]
  constructor
  · intro balanced
    have same : 0 + (sum + extra) ≡ sum [MOD limit] :=
      (balanced.symm.add_right (sum + extra)).trans cancels
    have shifted : sum + extra ≡ sum + 0 [MOD limit] := by simpa using same
    exact Nat.ModEq.add_left_cancel' sum shifted
  · intro nothing
    have same : sum + (limit - value) + (sum + extra) ≡ 0 + (sum + extra) [MOD limit] := by
      calc sum + (limit - value) + (sum + extra) ≡ sum [MOD limit] := cancels
        _ = sum + 0 := by omega
        _ ≡ sum + extra [MOD limit] := nothing.symm.add_left sum
        _ = 0 + (sum + extra) := by omega
    exact Nat.ModEq.add_right_cancel' _ same

end Reduction

/-- The big-endian 16-bit words of some bytes, an odd last byte padded with zero. -/
def words : Bytes → List Nat
  | high :: low :: rest => ofBe [high, low] :: words rest
  | [high] => [ofBe [high, 0]]
  | [] => []

/-- What the words add up to. -/
def wordSum (bytes : Bytes) : Nat := (words bytes).sum

section Words

variable {front bytes : Bytes}

/-- The value of two bytes in network order. -/
theorem ofBe_pair (high low : UInt8) : ofBe [high, low] = high.toNat * 256 + low.toNat := by
  simp [ofBe]

/-- Two bytes hold at most 65535. -/
theorem word_le (high low : UInt8) : ofBe [high, low] ≤ 65535 := by
  have highSmall := high.toNat_lt
  have lowSmall := low.toNat_lt
  rw [ofBe_pair]
  omega

/-- So does every word of the bytes. -/
theorem words_le (bytes : Bytes) : ∀ word ∈ words bytes, word ≤ 65535 := by
  induction bytes using words.induct with
  | case1 high low rest ih =>
    intro word member
    rcases List.mem_cons.mp member with rfl | member
    · exact word_le high low
    · exact ih word member
  | case2 high =>
    intro word member
    obtain rfl := List.mem_singleton.mp member
    exact word_le high 0
  | case3 => simp [words]

/-- Words of a sequence that starts on a word boundary stay words. -/
theorem words_append (even : front.length % 2 = 0) :
    words (front ++ bytes) = words front ++ words bytes := by
  induction front using words.induct with
  | case1 high low rest ih =>
    have restEven : rest.length % 2 = 0 := by
      simp only [List.length_cons] at even
      omega
    rw [List.cons_append, List.cons_append, words, ih restEven, words, List.cons_append]
  | case2 high => simp at even
  | case3 => rfl

/-- Behind an even number of bytes the words do not shift. -/
theorem wordSum_append (even : front.length % 2 = 0) :
    wordSum (front ++ bytes) = wordSum front + wordSum bytes := by
  rw [wordSum, words_append even, List.sum_append]
  rfl

/-- A 16-bit value is the sum of its one word. -/
theorem wordSum_toBe {value : Nat} (small : value < 65536) : wordSum (toBe 2 value) = value := by
  have read : ofBe (toBe 2 value) = value := ofBe_toBe_of_lt small
  simpa [wordSum, words, toBe] using read

/-- A sequence of at most `2 * count` bytes has at most `count` words. -/
theorem wordSum_le {count : Nat} (short : bytes.length ≤ 2 * count) :
    wordSum bytes ≤ count * 65535 := by
  induction bytes using words.induct generalizing count with
  | case1 high low rest ih =>
    simp only [List.length_cons] at short
    have first := word_le high low
    have others : wordSum rest ≤ (count - 1) * 65535 := ih (by omega)
    have total : wordSum (high :: low :: rest) = ofBe [high, low] + wordSum rest := by
      simp [wordSum, words]
    have steps : count * 65535 = (count - 1) * 65535 + 65535 := by
      rw [← Nat.succ_mul]
      congr 1
      omega
    omega
  | case2 high =>
    simp only [List.length_singleton] at short
    have first := word_le high 0
    have total : wordSum [high] = ofBe [high, 0] := by simp [wordSum, words]
    have one : 1 * 65535 ≤ count * 65535 := Nat.mul_le_mul_right _ (by omega)
    omega
  | case3 => simp [wordSum, words]

/-- The one's complement sum of some bytes is all ones exactly when their words add up to a
positive multiple of the largest word. -/
theorem carrySum_words_iff :
    carrySum 65535 (words bytes) = 65535 ↔ 65535 ∣ wordSum bytes ∧ wordSum bytes ≠ 0 :=
  (carrySum_reduces (words_le bytes)).eq_limit_iff (by decide)

end Words

end Pesigitg.Base
