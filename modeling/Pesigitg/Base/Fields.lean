import Pesigitg.Base.Endian

/-!
# Buffers written field by field

`writeFields` copies a list of parts into a buffer, each at its own offset. When the
offsets ascend, a later part cannot touch an earlier one, so `writeFields_holds` reads
every part back from the result.
-/

namespace Pesigitg.Base

/-- `part` stands in the buffer at `offset`. -/
structure Holds (bytes : Bytes) (offset : Nat) (part : Bytes) : Prop where
  inside : offset + part.length ≤ bytes.length
  byteAt_eq : ∀ index, index < part.length → byteAt bytes (offset + index) = byteAt part index

/-- Copy each part to its offset, in order. -/
def writeFields : List (Nat × Bytes) → Bytes → Checked Bytes
  | [], bytes => pure bytes
  | (offset, part) :: rest, bytes => do
    let bytes ← copyInto bytes offset (offset + part.length) part
    writeFields rest bytes

/-- The parts do not overlap and stand in order, all at `start` or later. -/
def Ascending : Nat → List (Nat × Bytes) → Prop
  | _, [] => True
  | start, (offset, part) :: rest => start ≤ offset ∧ Ascending (offset + part.length) rest

section Overwrite

variable {bytes result source part : Bytes} {start stop index offset : Nat}

/-- A copy leaves the bytes before its range alone. -/
theorem byteAt_copyInto_of_lt (copied : copyInto bytes start stop source = .ok result)
    (before : index < start) : byteAt result index = byteAt bytes index := by
  obtain ⟨ordered, inside, -, rfl⟩ := copyInto_eq_ok_iff.mp copied
  have short : index < (bytes.take start).length := by
    simp
    omega
  rw [List.append_assoc, byteAt_append_left short, byteAt_take before]

/-- The copied part stands where it was put. -/
theorem holds_copyInto (copied : copyInto bytes start stop source = .ok result) :
    Holds result start source := by
  have sized := copyInto_length copied
  obtain ⟨ordered, inside, length, rfl⟩ := copyInto_eq_ok_iff.mp copied
  refine ⟨by omega, ?_⟩
  intro index within
  have boundary : (bytes.take start).length = start := by
    simp
    omega
  rw [List.append_assoc, byteAt_append_right (by omega), byteAt_append_left (by omega), boundary]
  congr 1
  omega

/-- An overwrite elsewhere leaves a part in place. -/
theorem Holds.copyInto (holds : Holds bytes offset part)
    (copied : copyInto bytes start stop source = .ok result)
    (apart : offset + part.length ≤ start ∨ stop ≤ offset) : Holds result offset part := by
  have inside := holds.inside
  refine ⟨by rw [copyInto_length copied]; exact inside, ?_⟩
  intro index within
  rw [← holds.byteAt_eq index within]
  rcases apart with before | beyond
  · exact byteAt_copyInto_of_lt copied (by omega)
  · exact byteAt_copyInto_of_ge copied (by omega)

/-- A field survives a write of a byte outside it. -/
theorem Holds.writeByte {value : UInt8} (holds : Holds bytes offset part)
    (written : writeByte bytes index value = .ok result)
    (apart : offset + part.length ≤ index ∨ index < offset) : Holds result offset part := by
  unfold Base.writeByte at written
  split at written
  · cases written
    refine ⟨by simpa using holds.inside, ?_⟩
    intro shift within
    rw [byteAt_set_of_ne (by omega), holds.byteAt_eq shift within]
  · cases written

/-- A write keeps the length. -/
theorem writeByte_length {value : UInt8} (written : writeByte bytes index value = .ok result) :
    result.length = bytes.length := by
  unfold writeByte at written
  split at written
  · cases written
    simp
  · cases written

end Overwrite

/-- Writing fields in ascending order keeps the length and what stands before them, and
every field can be read back. -/
theorem writeFields_holds {fields : List (Nat × Bytes)} {start : Nat} {bytes result : Bytes}
    (ascending : Ascending start fields) (written : writeFields fields bytes = .ok result) :
    result.length = bytes.length ∧
      (∀ offset part, offset + part.length ≤ start → Holds bytes offset part →
        Holds result offset part) ∧
      ∀ field ∈ fields, Holds result field.1 field.2 := by
  induction fields generalizing start bytes with
  | nil =>
    simp only [writeFields, Checked.pure_eq_ok, Except.ok.injEq] at written
    subst written
    exact ⟨rfl, fun _ _ _ holds => holds, by simp⟩
  | cons field rest ih =>
    obtain ⟨offset, part⟩ := field
    obtain ⟨ordered, later⟩ := ascending
    simp only [writeFields, Checked.bind_eq_ok_iff] at written
    obtain ⟨middle, copied, written⟩ := written
    obtain ⟨sized, keeps, reads⟩ := ih later written
    refine ⟨sized.trans (copyInto_length copied), ?_, ?_⟩
    · intro offset' part' before holds
      exact keeps offset' part' (by omega) (holds.copyInto copied (.inl (by omega)))
    · intro field member
      rcases List.mem_cons.mp member with rfl | member
      · exact keeps offset part (Nat.le_refl _) (holds_copyInto copied)
      · exact reads field member

/-- Each part starts where the one before it ends. -/
def Consecutive : Nat → List (Nat × Bytes) → Prop
  | _, [] => True
  | start, (offset, part) :: rest => offset = start ∧ Consecutive (start + part.length) rest

/-- Consecutive parts replace one stretch of the buffer. -/
theorem writeFields_consecutive {fields : List (Nat × Bytes)} {start : Nat} {bytes : Bytes}
    (consecutive : Consecutive start fields)
    (fit : start + (fields.flatMap Prod.snd).length ≤ bytes.length) :
    writeFields fields bytes = .ok (bytes.take start ++ fields.flatMap Prod.snd ++
      bytes.drop (start + (fields.flatMap Prod.snd).length)) := by
  induction fields generalizing start bytes with
  | nil => simp [writeFields]
  | cons field rest ih =>
    obtain ⟨offset, part⟩ := field
    obtain ⟨rfl, later⟩ := consecutive
    have parts : ((offset, part) :: rest).flatMap Prod.snd = part ++ rest.flatMap Prod.snd := rfl
    rw [parts, List.length_append] at fit ⊢
    have copied : copyInto bytes offset (offset + part.length) part =
        .ok (bytes.take offset ++ part ++ bytes.drop (offset + part.length)) :=
      copyInto_eq_ok_iff.mpr ⟨by omega, by omega, by omega, rfl⟩
    have front : (bytes.take offset ++ part).length = offset + part.length := by
      rw [List.length_append, List.length_take]
      omega
    rw [writeFields, copied, Checked.ok_bind, ih later (by rw [copyInto_length copied]; omega),
      List.take_left' front, List.drop_append, front, List.drop_eq_nil_of_le (by omega),
      List.nil_append, List.drop_drop]
    congr 2
    · simp only [List.append_assoc]
    · congr 1
      omega

/-- Consecutive parts from the start of the buffer. -/
theorem writeFields_front {fields : List (Nat × Bytes)} {bytes parts : Bytes}
    (consecutive : Consecutive 0 fields) (joined : fields.flatMap Prod.snd = parts)
    (fit : parts.length ≤ bytes.length) :
    writeFields fields bytes = .ok (parts ++ bytes.drop parts.length) := by
  subst joined
  rw [writeFields_consecutive consecutive (by omega), List.take_zero, List.nil_append,
    Nat.zero_add]

/-- Overwriting what stands behind a known front. -/
theorem copyInto_behind {front back source : Bytes} {start stop : Nat}
    (begins : start = front.length) (ends : stop = front.length + source.length)
    (fit : source.length ≤ back.length) :
    copyInto (front ++ back) start stop source =
      .ok (front ++ source ++ back.drop source.length) := by
  rw [copyInto_eq_ok_iff, begins, ends]
  refine ⟨by omega, by rw [List.length_append]; omega, by omega, ?_⟩
  rw [List.take_left' rfl, List.drop_append, List.drop_eq_nil_of_le (by omega), List.nil_append,
    Nat.add_sub_cancel_left]

/-- Cutting a part out of a concatenation. -/
theorem cut_middle {front part back : Bytes} {start stop : Nat} (begins : front.length = start)
    (ends : (front ++ part).length = stop) :
    ((front ++ part ++ back).take stop).drop start = part := by
  rw [List.take_left' ends, List.drop_left' begins]

/-- Cutting off what was written to the front. -/
theorem slice_front {parts rest : Bytes} {count : Nat} (sized : count = parts.length) :
    slice (parts ++ rest) 0 count = .ok parts := by
  rw [slice_eq_ok_iff, sized]
  exact ⟨Nat.zero_le _, by simp, by simp⟩

namespace Holds

variable {bytes part : Bytes} {offset : Nat}

/-- A field is the slice at its offset. -/
theorem slice_eq (holds : Holds bytes offset part) :
    (bytes.drop offset).take part.length = part := by
  have inside := holds.inside
  apply List.ext_getElem
  · simp
    omega
  · intro index left right
    have same := holds.byteAt_eq index right
    have within : offset + index < bytes.length := by omega
    simpa [byteAt, within, right] using same

/-- A part that ends with the buffer is the rest of it. -/
theorem drop_eq (holds : Holds bytes offset part) (ends : bytes.length = offset + part.length) :
    bytes.drop offset = part := by
  rw [← holds.slice_eq, List.take_of_length_le]
  simp
  omega

/-- A part of a concatenation stands behind what precedes it. -/
theorem of_append (front part back : Bytes) : Holds (front ++ part ++ back) front.length part := by
  refine ⟨by simp, ?_⟩
  intro index within
  rw [List.append_assoc, byteAt_append_right (Nat.le_add_right _ _), byteAt_append_left (by omega),
    Nat.add_sub_cancel_left]

/-- A field of one byte is that byte. -/
theorem byte {value : UInt8} (holds : Holds bytes offset [value]) : byteAt bytes offset = value :=
  holds.byteAt_eq 0 (by simp)

/-- A part that lies in a prefix of the buffer stands there too. -/
theorem take {count : Nat} (holds : Holds bytes offset part)
    (within : offset + part.length ≤ count) : Holds (bytes.take count) offset part := by
  have inside := holds.inside
  refine ⟨by simp; omega, ?_⟩
  intro index bound
  rw [byteAt_take (by omega), holds.byteAt_eq index bound]

/-- A part of a part. -/
theorem sub {shift : Nat} {inner : Bytes} (holds : Holds bytes offset part)
    (within : Holds part shift inner) : Holds bytes (offset + shift) inner := by
  have inside := holds.inside
  have innerInside := within.inside
  refine ⟨by omega, ?_⟩
  intro index bound
  rw [Nat.add_assoc, holds.byteAt_eq (shift + index) (by omega), within.byteAt_eq index bound]

end Holds

end Pesigitg.Base
