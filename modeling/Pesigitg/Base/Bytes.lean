import Pesigitg.Base.Checked

/-!
# Bounds-checked byte buffers

Reads, sub-slices and overwrites of byte sequences, each failing exactly where
the indexed or sliced range leaves the buffer. `byteAt` is the total reading
that the checked one agrees with inside the buffer; the spec lemmas of this
module are stated in terms of it, so that parsers can be described without
carrying bounds in every term.
-/

namespace Pesigitg.Base

/-- A byte buffer. -/
abbrev Bytes := List UInt8

/-- A byte array whose length is part of its type. -/
abbrev Octets (count : Nat) := {bytes : Bytes // bytes.length = count}

/-- The byte at an index, or zero outside the buffer. -/
def byteAt (bytes : Bytes) (index : Nat) : UInt8 := bytes.getD index 0

/-- `bytes[index]`. -/
def readByte (bytes : Bytes) (index : Nat) : Checked UInt8 :=
  match bytes[index]? with
  | some byte => .ok byte
  | none => .error .index

/-- `&bytes[start..stop]`. -/
def slice (bytes : Bytes) (start stop : Nat) : Checked Bytes :=
  if start ≤ stop ∧ stop ≤ bytes.length then .ok ((bytes.take stop).drop start)
  else .error .slice

/-- `&bytes[start..]`. -/
def sliceFrom (bytes : Bytes) (start : Nat) : Checked Bytes :=
  if start ≤ bytes.length then .ok (bytes.drop start) else .error .slice

/-- `bytes[index] = value`. -/
def writeByte (bytes : Bytes) (index : Nat) (value : UInt8) : Checked Bytes :=
  if index < bytes.length then .ok (bytes.set index value) else .error .index

/-- `bytes[start..stop].copy_from_slice(source)`. -/
def copyInto (bytes : Bytes) (start stop : Nat) (source : Bytes) : Checked Bytes :=
  if start ≤ stop ∧ stop ≤ bytes.length then
    if source.length = stop - start then
      .ok (bytes.take start ++ source ++ bytes.drop stop)
    else .error .copyLength
  else .error .slice

/-- Copy a slice into a fresh array of the given length. -/
def toOctets (count : Nat) (bytes : Bytes) : Checked (Octets count) :=
  if sized : bytes.length = count then .ok ⟨bytes, sized⟩ else .error .copyLength

section Reads

variable {bytes : Bytes} {index start stop count : Nat}

/-- Reading inside the bytes does not panic. -/
theorem readByte_of_lt (inside : index < bytes.length) :
    readByte bytes index = .ok (byteAt bytes index) := by
  simp [readByte, byteAt, inside]

/-- A byte is read exactly if the index is inside. -/
theorem readByte_eq_ok_iff {byte : UInt8} :
    readByte bytes index = .ok byte ↔ index < bytes.length ∧ byteAt bytes index = byte := by
  by_cases inside : index < bytes.length
  · simp [readByte_of_lt inside, inside]
  · simp [readByte, inside]

/-- A range inside the bytes can be sliced. -/
theorem slice_of_le (ordered : start ≤ stop) (inside : stop ≤ bytes.length) :
    slice bytes start stop = .ok ((bytes.take stop).drop start) := by
  simp [slice, ordered, inside]

/-- A start inside the bytes, or at their end, can be sliced from. -/
theorem sliceFrom_of_le (inside : start ≤ bytes.length) :
    sliceFrom bytes start = .ok (bytes.drop start) := by
  simp [sliceFrom, inside]

/-- When slicing from a start returns, and what. -/
theorem sliceFrom_eq_ok_iff {rest : Bytes} :
    sliceFrom bytes start = .ok rest ↔ start ≤ bytes.length ∧ bytes.drop start = rest := by
  by_cases inside : start ≤ bytes.length
  · simp [sliceFrom_of_le inside, inside]
  · simp [sliceFrom, inside]

/-- When slicing a range returns, and what. -/
theorem slice_eq_ok_iff {part : Bytes} :
    slice bytes start stop = .ok part ↔
      start ≤ stop ∧ stop ≤ bytes.length ∧ (bytes.take stop).drop start = part := by
  by_cases inside : start ≤ stop ∧ stop ≤ bytes.length
  · simp [slice_of_le inside.1 inside.2, inside]
  · rw [slice, if_neg inside]
    constructor
    · intro equal
      cases equal
    · rintro ⟨ordered, bounded, -⟩
      exact absurd ⟨ordered, bounded⟩ inside

/-- Bytes of the array's length convert to it. -/
theorem toOctets_of_length (sized : bytes.length = count) :
    toOctets count bytes = .ok ⟨bytes, sized⟩ := by
  simp [toOctets, sized]

/-- A bounded slice copied into an array of its own length always succeeds. -/
theorem slice_toOctets (inside : start + count ≤ bytes.length) :
    (slice bytes start (start + count) >>= toOctets count) =
      .ok ⟨(bytes.take (start + count)).drop start, by simp; omega⟩ := by
  rw [slice_of_le (Nat.le_add_right _ _) inside, Checked.ok_bind]
  exact toOctets_of_length _

/-- The byte right behind a known front. -/
theorem readByte_append (before : Bytes) (byte : UInt8) (rest : Bytes) :
    readByte (before ++ byte :: rest) before.length = .ok byte := by
  simp [readByte]

/-- What is left behind a known front. -/
theorem sliceFrom_append (before rest : Bytes) :
    sliceFrom (before ++ rest) before.length = .ok rest := by
  simp [sliceFrom]

/-- The part right behind a known front. -/
theorem slice_append (before part rest : Bytes) :
    slice (before ++ (part ++ rest)) before.length (before.length + part.length) = .ok part := by
  simp [slice, List.take_append]

/-- Reading inside a slice is reading the buffer at the shifted index. -/
theorem byteAt_drop : byteAt (bytes.drop start) index = byteAt bytes (start + index) := by
  simp [byteAt, List.getD_eq_getElem?_getD, List.getElem?_drop]

/-- Cutting behind an index keeps the byte there. -/
theorem byteAt_take (inside : index < count) :
    byteAt (bytes.take count) index = byteAt bytes index := by
  simp [byteAt, List.getD_eq_getElem?_getD, inside]

/-- Bytes of the front are not moved by what follows. -/
theorem byteAt_append_left {rest : Bytes} (inside : index < bytes.length) :
    byteAt (bytes ++ rest) index = byteAt bytes index := by
  simp [byteAt, List.getElem?_append_left inside]

/-- Bytes behind the front are counted from its end. -/
theorem byteAt_append_right {rest : Bytes} (beyond : bytes.length ≤ index) :
    byteAt (bytes ++ rest) index = byteAt rest (index - bytes.length) := by
  simp [byteAt, List.getD_eq_getElem?_getD, List.getElem?_append_right beyond]

end Reads

section Writes

variable {bytes source : Bytes} {index start stop : Nat} {value : UInt8}

/-- Writing inside the bytes does not panic. -/
theorem writeByte_of_lt (inside : index < bytes.length) :
    writeByte bytes index value = .ok (bytes.set index value) := by
  simp [writeByte, inside]

/-- A byte that was set is read back. -/
theorem byteAt_set_self (inside : index < bytes.length) :
    byteAt (bytes.set index value) index = value := by
  simp [byteAt, inside]

/-- Setting a byte leaves the others alone. -/
theorem byteAt_set_of_ne {other : Nat} (distinct : index ≠ other) :
    byteAt (bytes.set index value) other = byteAt bytes other := by
  simp [byteAt, distinct]

/-- A copy returns exactly if the range is inside and as long as the source; the bytes around it
stay. -/
theorem copyInto_eq_ok_iff {result : Bytes} :
    copyInto bytes start stop source = .ok result ↔
      start ≤ stop ∧ stop ≤ bytes.length ∧ source.length = stop - start ∧
        bytes.take start ++ source ++ bytes.drop stop = result := by
  by_cases inside : start ≤ stop ∧ stop ≤ bytes.length
  · by_cases sized : source.length = stop - start
    · simp [copyInto, inside, sized]
    · simp [copyInto, inside, sized]
  · rw [copyInto, if_neg inside]
    constructor
    · intro equal
      cases equal
    · rintro ⟨ordered, bounded, -⟩
      exact absurd ⟨ordered, bounded⟩ inside

/-- An overwrite keeps the buffer's length. -/
theorem copyInto_length {result : Bytes} (copied : copyInto bytes start stop source = .ok result) :
    result.length = bytes.length := by
  obtain ⟨ordered, inside, sized, rfl⟩ := copyInto_eq_ok_iff.mp copied
  simp
  omega

/-- An overwrite leaves every byte outside its range alone. -/
theorem byteAt_copyInto_of_ge {result : Bytes}
    (copied : copyInto bytes start stop source = .ok result) (beyond : stop ≤ index) :
    byteAt result index = byteAt bytes index := by
  obtain ⟨ordered, inside, sized, rfl⟩ := copyInto_eq_ok_iff.mp copied
  have boundary : (bytes.take start ++ source).length = stop := by
    simp
    omega
  rw [byteAt_append_right (by omega), byteAt_drop, boundary]
  congr 1
  omega

end Writes

end Pesigitg.Base
