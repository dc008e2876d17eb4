import Mathlib.Data.List.Induction
import Pesigitg.Base.Bytes

/-!
# Decoding UTF-8

The decoder reads a byte at a time. Between characters nothing is pending; inside one it knows
how many bytes are owed, what the next of them may be, and the bits read so far. Bounds on the
byte behind the first one exclude overlong forms, surrogates and codes past the last plane.

A byte below `0x80` stands for a character of its own, wherever it is: text can be cut there.
-/

namespace Pesigitg.Base.Utf8

/-- A character whose first bytes were read. -/
structure Pending where
  owed : Nat
  low : UInt8
  high : UInt8
  code : Nat
  /-- A byte that continues a character is no character itself. -/
  tail : 0x80 ≤ low

/-- What the first byte of a longer character announces. -/
def lead (byte : UInt8) : Option Pending :=
  if 0xC2 ≤ byte ∧ byte ≤ 0xDF then some ⟨1, 0x80, 0xBF, byte.toNat % 32, by decide⟩
  else if byte = 0xE0 then some ⟨2, 0xA0, 0xBF, 0, by decide⟩
  else if byte = 0xED then some ⟨2, 0x80, 0x9F, 13, by decide⟩
  else if 0xE1 ≤ byte ∧ byte ≤ 0xEF then some ⟨2, 0x80, 0xBF, byte.toNat % 16, by decide⟩
  else if byte = 0xF0 then some ⟨3, 0x90, 0xBF, 0, by decide⟩
  else if 0xF1 ≤ byte ∧ byte ≤ 0xF3 then some ⟨3, 0x80, 0xBF, byte.toNat % 8, by decide⟩
  else if byte = 0xF4 then some ⟨3, 0x80, 0x8F, 4, by decide⟩
  else none

/-- The character of a byte below `0x80`. -/
def ascii (byte : UInt8) : Char := Char.ofNat byte.toNat

/-- One byte: the character it completes, if any, and what is pending after it. -/
def step (pending : Option Pending) (byte : UInt8) : Option (List Char × Option Pending) :=
  match pending with
  | none => if byte < 0x80 then some ([ascii byte], none) else (lead byte).map fun p => ([], some p)
  | some p =>
    if p.low ≤ byte ∧ byte ≤ p.high then
      let code := p.code * 64 + byte.toNat % 64
      if p.owed = 1 then some ([Char.ofNat code], none)
      else some ([], some ⟨p.owed - 1, 0x80, 0xBF, code, by decide⟩)
    else none

/-- The characters of the bytes that follow. Text may not end inside a character. -/
def decodeFrom : Option Pending → Bytes → Option (List Char)
  | none, [] => some []
  | some _, [] => none
  | pending, byte :: rest =>
    match step pending byte with
    | some (chars, next) => (decodeFrom next rest).map (chars ++ ·)
    | none => none

/-- The text of some bytes, if they are UTF-8. -/
def decode (bytes : Bytes) : Option (List Char) := decodeFrom none bytes

example : decode [0x47, 0xC3, 0xA9, 0xE2, 0x82, 0xAC, 0xF0, 0x9F, 0x98, 0x80] =
    some ['G', 'é', '€', '😀'] := by decide

-- An overlong slash, a surrogate, and a character that is cut off.
example : decode [0xC0, 0xAF] = none ∧ decode [0xED, 0xA0, 0x80] = none ∧
    decode [0xE2, 0x82] = none := by decide

variable {pending : Option Pending} {byte : UInt8} {front back : Bytes} {chars : List Char}

/-- A byte that the decoder accepts is dealt with first. -/
theorem decodeFrom_cons {first : List Char} {next : Option Pending}
    (stepped : step pending byte = some (first, next)) :
    decodeFrom pending (byte :: back) = (decodeFrom next back).map (first ++ ·) := by
  simp only [decodeFrom, stepped]

/-- If a text decodes, its first byte was accepted. -/
theorem exists_step_of_decodeFrom (read : decodeFrom pending (byte :: back) = some chars) :
    ∃ first next rest, step pending byte = some (first, next) ∧
      decodeFrom next back = some rest ∧ chars = first ++ rest := by
  cases stepped : step pending byte with
  | none => simp [decodeFrom, stepped] at read
  | some out =>
    rw [decodeFrom_cons stepped] at read
    obtain ⟨rest, readRest, rfl⟩ := Option.map_eq_some_iff.mp read
    exact ⟨out.1, out.2, rest, rfl, readRest, rfl⟩

/-- Text that ends between characters may be followed by any other text. -/
theorem decodeFrom_append (read : decodeFrom pending front = some chars) :
    decodeFrom pending (front ++ back) = (decode back).map (chars ++ ·) := by
  induction front generalizing pending chars with
  | nil =>
    cases pending with
    | none =>
      cases read
      simp [decode]
    | some p => cases read
  | cons byte front ih =>
    obtain ⟨first, next, rest, stepped, readRest, rfl⟩ := exists_step_of_decodeFrom read
    rw [List.cons_append, decodeFrom_cons stepped, ih readRest, Option.map_map]
    simp [Function.comp_def]

/-- Behind a complete text the decoder starts afresh. -/
theorem decode_append (read : decode front = some chars) :
    decode (front ++ back) = (decode back).map (chars ++ ·) :=
  decodeFrom_append read

/-- Between two characters an ASCII byte is a character of its own. -/
theorem step_ascii (small : byte < 0x80) : step none byte = some ([ascii byte], none) := if_pos small

/-- Inside a character there is no small byte. -/
theorem step_pending_ascii (small : byte < 0x80) (p : Pending) : step (some p) byte = none := by
  have outside : ¬ p.low ≤ byte := UInt8.not_le.mpr (UInt8.lt_of_lt_of_le small p.tail)
  exact if_neg fun inside => outside inside.1

/-- An ASCII byte in front is its own character. -/
theorem decode_cons_ascii (small : byte < 0x80) :
    decode (byte :: back) = (decode back).map (ascii byte :: ·) := by
  rw [decode, decodeFrom_cons (step_ascii small)]
  rfl

/-- Text is cut at a small byte. -/
theorem decodeFrom_cut (small : byte < 0x80)
    (read : decodeFrom pending (front ++ byte :: back) = some chars) :
    ∃ before after, decodeFrom pending front = some before ∧ decode back = some after ∧
      chars = before ++ ascii byte :: after := by
  induction front generalizing pending chars with
  | nil =>
    obtain ⟨first, next, rest, stepped, readRest, rfl⟩ := exists_step_of_decodeFrom read
    cases pending with
    | none =>
      cases (step_ascii small).symm.trans stepped
      exact ⟨[], rest, rfl, readRest, rfl⟩
    | some p => cases (step_pending_ascii small p).symm.trans stepped
  | cons start front ih =>
    obtain ⟨first, next, rest, stepped, readRest, rfl⟩ := exists_step_of_decodeFrom read
    obtain ⟨before, after, readFront, readBack, rfl⟩ := ih readRest
    refine ⟨first ++ before, after, ?_, readBack, by rw [List.append_assoc]⟩
    rw [decodeFrom_cons stepped, readFront, Option.map_some]

/-- An ASCII byte always stands between two complete texts, so a text may be cut there. -/
theorem decode_cut (small : byte < 0x80) (read : decode (front ++ byte :: back) = some chars) :
    ∃ before after, decode front = some before ∧ decode back = some after ∧
      chars = before ++ ascii byte :: after :=
  decodeFrom_cut small read

/-- ASCII bytes are text. -/
theorem decode_of_ascii (small : ∀ byte ∈ front, byte < 0x80) : (decode front).isSome := by
  induction front with
  | nil => rfl
  | cons byte front ih =>
    rw [decode_cons_ascii (small byte List.mem_cons_self), Option.isSome_map]
    exact ih fun other member => small other (List.mem_cons_of_mem _ member)

/-- A text that stays one with a byte less has a small byte at its end. -/
theorem ascii_of_decode_concat (read : (decode front).isSome)
    (longer : (decode (front ++ [byte])).isSome) : byte < 0x80 := by
  obtain ⟨chars, read⟩ := Option.isSome_iff_exists.mp read
  rw [decode_append read, Option.isSome_map] at longer
  by_contra large
  cases opened : lead byte with
  | none => simp [decode, decodeFrom, step, large, opened] at longer
  | some p => simp [decode, decodeFrom, step, large, opened] at longer

/-- Bytes that are text wherever they are cut are small. -/
theorem ascii_of_decode_take (read : ∀ count, (decode (front.take count)).isSome) :
    ∀ byte ∈ front, byte < 0x80 := by
  induction front using List.reverseRecOn with
  | nil => simp
  | append_singleton front byte ih =>
    have whole : (decode front).isSome := by
      simpa using read front.length
    have longer : (decode (front ++ [byte])).isSome := by
      simpa only [List.take_length] using read (front ++ [byte]).length
    have earlier : ∀ count, (decode (front.take count)).isSome := by
      intro count
      have cut := read (min count front.length)
      rwa [List.take_append_of_le_length (Nat.min_le_right ..), ← List.take_eq_take_min] at cut
    intro other member
    obtain member | rfl := List.mem_append.mp member |>.imp_right List.mem_singleton.mp
    · exact ih earlier other member
    · exact ascii_of_decode_concat whole longer

end Pesigitg.Base.Utf8
