import Pesigitg.Common.Text

/-!
# What the hex decoder accepts

The decoder cuts the trimmed text every two bytes and hands each piece to the integer parser
of the standard library. Two inputs get past the documented "any interior non-hex character
returns an error": the integer parser takes a plus sign for the first digit of a pair, and a
piece that ends inside a character panics. `Misread` is the set of those texts.
-/

namespace Pesigitg.Hex

open Base

/-- The characters `0-9`, `a-f` and `A-F`. -/
def isHexDigit (c : Char) : Bool :=
  ('0' ≤ c && c ≤ '9') || ('a' ≤ c && c ≤ 'f') || ('A' ≤ c && c ≤ 'F')

/-- The value of a hex digit. -/
def digitValue (c : Char) : Nat :=
  if c ≤ '9' then c.toNat - 48 else if c ≤ 'F' then c.toNat - 55 else c.toNat - 87

/-- An even number of hex digits. -/
def HexText (chars : List Char) : Prop :=
  chars.length % 2 = 0 ∧ ∀ c ∈ chars, isHexDigit c = true

/-- The bytes that pairs of hex digits spell. -/
def spelled : List Char → Bytes
  | high :: low :: rest => UInt8.ofNat (digitValue high * 16 + digitValue low) :: spelled rest
  | _ => []

/-- What the decoder should do with a text. -/
structure Exact (text : String) : Prop where
  returns : (decode text).Returns
  accepts : ∀ bytes, decode text = .ok (.ok bytes) ↔ HexText (trim text) ∧ bytes = spelled (trim text)
  encodes : ∀ bytes, decode text = .ok (.ok bytes) →
    encode bytes = String.ofList ((trim text).map Char.toLower)
  refuses : ¬ HexText (trim text) → ∃ message, decode text = .ok (.error message)

/-- Pairs the integer parser takes: a digit or a plus sign, then a digit. -/
inductive Numerals : List Char → Prop where
  | nil : Numerals []
  | cons {lead digit : Char} {rest : List Char} (leads : isHexDigit lead = true ∨ lead = '+')
      (digits : isHexDigit digit = true) (tail : Numerals rest) : Numerals (lead :: digit :: rest)

/-- A text whose second byte does not end a character. -/
inductive Straddles : List Char → Prop where
  | wide {c : Char} {rest : List Char} (size : 3 ≤ c.utf8Size) : Straddles (c :: rest)
  | split {c next : Char} {rest : List Char} (narrow : c.utf8Size = 1) (wide : 2 ≤ next.utf8Size) :
      Straddles (c :: next :: rest)

/-- A text cut inside a character before any pair is refused. -/
inductive CutInside : List Char → Prop where
  | here {rest : List Char} (straddles : Straddles rest) : CutInside rest
  | later {lead digit : Char} {rest : List Char} (leads : isHexDigit lead = true ∨ lead = '+')
      (digits : isHexDigit digit = true) (tail : CutInside rest) : CutInside (lead :: digit :: rest)

/-- The texts of even byte length the decoder gets wrong: it cuts them inside a character, or
accepts them with a plus sign among the digits. -/
def Misread (chars : List Char) : Prop := CutInside chars ∨ Numerals chars ∧ '+' ∈ chars

section Digits

variable {c : Char}

/-- The hex digits, listed. -/
theorem isHexDigit_iff_mem : isHexDigit c = true ↔ c ∈ "0123456789abcdefABCDEF".toList := by
  constructor
  · intro digit
    have coded : Char.ofNat c.toNat = c := Char.ofNat_toNat c
    have range : 48 ≤ c.toNat ∧ c.toNat ≤ 57 ∨ 97 ≤ c.toNat ∧ c.toNat ≤ 102 ∨
        65 ≤ c.toNat ∧ c.toNat ≤ 70 := by
      simp only [isHexDigit, Bool.or_eq_true, Bool.and_eq_true, decide_eq_true_eq, or_assoc] at digit
      exact digit
    rw [← coded]
    generalize c.toNat = code at range
    have all : ∀ code < 103, (48 ≤ code ∧ code ≤ 57 ∨ 97 ≤ code ∧ code ≤ 102 ∨
        65 ≤ code ∧ code ≤ 70) → Char.ofNat code ∈ "0123456789abcdefABCDEF".toList := by
      decide +kernel
    exact all code (by omega) range
  · have all : "0123456789abcdefABCDEF".toList.all isHexDigit = true := by decide
    exact List.all_eq_true.mp all c

/-- The facts about single digits, checked on each of the twenty-two. -/
theorem hexDigit_facts (digit : isHexDigit c = true) :
    c.utf8Size = 1 ∧ digitValue c < 16 ∧ toDigit 16 c = some (digitValue c) ∧
      Hex.digit (digitValue c) = c.toLower ∧ c ≠ '+' := by
  have all : ("0123456789abcdefABCDEF".toList.all fun c => c.utf8Size = 1 ∧ digitValue c < 16 ∧
      toDigit 16 c = some (digitValue c) ∧ Hex.digit (digitValue c) = c.toLower ∧ c ≠ '+') = true := by
    decide
  exact of_decide_eq_true (List.all_eq_true.mp all c (isHexDigit_iff_mem.mp digit))

/-- Nothing else is a digit in base 16. -/
theorem toDigit_eq_none (other : isHexDigit c = false) : toDigit 16 c = none := by
  simp only [isHexDigit, Bool.or_eq_false_iff, Bool.and_eq_false_iff, decide_eq_false_iff_not] at other
  obtain ⟨⟨decimal, lower⟩, upper⟩ := other
  have notDecimal : ¬ ('0' ≤ c ∧ c ≤ '9') := by tauto
  have notLower : ¬ ('a' ≤ c ∧ c ≤ 'f') := by tauto
  have notUpper : ¬ ('A' ≤ c ∧ c ≤ 'F') := by tauto
  simp only [toDigit, if_neg notDecimal, if_neg notLower, if_neg notUpper, Nat.lt_irrefl, if_false]

end Digits

/-- The value the integer parser gives the first character of a pair. -/
def leadValue (c : Char) : Nat := if c = '+' then 0 else digitValue c

/-- A leading digit has its own value. -/
theorem leadValue_digit {c : Char} (digit : isHexDigit c = true) : leadValue c = digitValue c := by
  obtain ⟨-, -, -, -, notPlus⟩ := hexDigit_facts digit
  rw [leadValue, if_neg notPlus]

section Pair

variable {lead digit : Char}

/-- Two digits never leave the range of a byte. -/
theorem hexDigits_two (leads : isHexDigit lead = true) (digits : isHexDigit digit = true) :
    hexDigits [lead, digit] 0 = some (digitValue lead * 16 + digitValue digit) := by
  obtain ⟨-, leadSmall, leadRead, -, -⟩ := hexDigit_facts leads
  obtain ⟨-, small, read, -, -⟩ := hexDigit_facts digits
  simp only [hexDigits, leadRead, read]
  rw [if_pos (by omega), if_pos (by omega)]
  simp

/-- One digit is read as its value. -/
theorem hexDigits_one (digits : isHexDigit digit = true) :
    hexDigits [digit] 0 = some (digitValue digit) := by
  obtain ⟨-, small, read, -, -⟩ := hexDigit_facts digits
  simp only [hexDigits, read]
  rw [if_pos (by omega)]
  simp

/-- The integer parser on a pair it takes. -/
theorem u8FromStrRadix16_some (leads : isHexDigit lead = true ∨ lead = '+')
    (digits : isHexDigit digit = true) :
    u8FromStrRadix16 [lead, digit] =
      some (UInt8.ofNat (leadValue lead * 16 + digitValue digit)) := by
  by_cases plus : lead = '+'
  · subst plus
    simp [u8FromStrRadix16, hexDigits_one digits, leadValue]
  · have hex := leads.resolve_right plus
    simp [u8FromStrRadix16, plus, hexDigits_two hex digits, leadValue]

/-- The integer parser on every other pair. -/
theorem u8FromStrRadix16_none (other : ¬ ((isHexDigit lead = true ∨ lead = '+') ∧
    isHexDigit digit = true)) : u8FromStrRadix16 [lead, digit] = none := by
  by_cases digits : isHexDigit digit = true
  · have neither := not_or.mp fun leads => other ⟨leads, digits⟩
    have unread := toDigit_eq_none (Bool.eq_false_iff.mpr neither.1)
    simp [u8FromStrRadix16, neither.2, hexDigits, unread]
  · have unread := toDigit_eq_none (Bool.eq_false_iff.mpr digits)
    by_cases plus : lead = '+'
    · subst plus
      simp [u8FromStrRadix16, hexDigits, unread]
    · cases leadRead : toDigit 16 lead with
      | none => simp [u8FromStrRadix16, plus, hexDigits, leadRead]
      | some value => simp [u8FromStrRadix16, plus, hexDigits, leadRead, unread]

end Pair

/-- The bytes the decoder reads from pairs it takes. -/
def reading : List Char → Bytes
  | lead :: digit :: rest => UInt8.ofNat (leadValue lead * 16 + digitValue digit) :: reading rest
  | _ => []

/-- The length in bytes adds up over the characters. -/
theorem byteLen_cons (c : Char) (rest : List Char) :
    byteLen (c :: rest) = c.utf8Size + byteLen rest := by
  simp [byteLen]

/-- A plus sign has one byte. -/
theorem plus_utf8Size : ('+').utf8Size = 1 := by decide

/-- What `from_str_radix` accepts in front has one byte. -/
theorem lead_utf8Size {lead : Char} (leads : isHexDigit lead = true ∨ lead = '+') :
    lead.utf8Size = 1 := by
  rcases leads with hex | rfl
  · exact (hexDigit_facts hex).1
  · exact plus_utf8Size

section Loop

variable {chars : List Char}

/-- The loop on pairs it takes. -/
theorem decodePairs_numerals (numerals : Numerals chars) (position : Nat) :
    decodePairs chars position = .ok (.ok (reading chars)) := by
  induction numerals generalizing position with
  | nil => rfl
  | cons leads digits tail ih =>
    rw [decodePairs, if_pos (lead_utf8Size leads), if_pos (hexDigit_facts digits).1,
      u8FromStrRadix16_some leads digits]
    simp only [ih, Checked.ok_bind]
    rfl

/-- Where a pair would end inside a character, the slice panics. -/
theorem decodePairs_straddles (straddles : Straddles chars) (position : Nat) :
    decodePairs chars position = .error .slice := by
  cases straddles with
  | @wide c rest size =>
    cases rest with
    | nil => rw [decodePairs, if_neg (by omega)]
    | cons next rest => rw [decodePairs, if_neg (by omega), if_neg (by omega)]
  | split narrow wide => rw [decodePairs, if_pos narrow, if_neg (by omega)]

/-- The loop panics where it cuts a character, if it gets there. -/
theorem decodePairs_cutInside (cut : CutInside chars) (position : Nat) :
    decodePairs chars position = .error .slice := by
  induction cut generalizing position with
  | here straddles => exact decodePairs_straddles straddles position
  | later leads digits tail ih =>
    rw [decodePairs, if_pos (lead_utf8Size leads), if_pos (hexDigit_facts digits).1,
      u8FromStrRadix16_some leads digits]
    simp only [ih, Checked.error_bind]

/-- The loop refuses every other text. -/
theorem decodePairs_refuses (position : Nat) (even : byteLen chars % 2 = 0)
    (notNumerals : ¬ Numerals chars) (notCut : ¬ CutInside chars) :
    ∃ message, decodePairs chars position = .ok (.error message) := by
  fun_induction decodePairs chars position with
  | case1 position => exact absurd .nil notNumerals
  | case2 last position two => exact ⟨_, rfl⟩
  | case3 last position other =>
    -- An odd size contradicts the even length, and four bytes straddle the cut.
    rw [byteLen_cons] at even
    have atLeast := last.utf8Size_pos
    have wide : 3 ≤ last.utf8Size := by
      simp only [byteLen, List.map_nil, List.sum_nil] at even
      omega
    exact absurd (.here (.wide wide)) notCut
  | case4 first second rest position one two unread => exact ⟨_, rfl⟩
  | case5 first second rest position one two byte read ih =>
    rw [byteLen_cons, byteLen_cons] at even
    have taken : (isHexDigit first = true ∨ first = '+') ∧ isHexDigit second = true := by
      by_contra other
      rw [u8FromStrRadix16_none other] at read
      cases read
    obtain ⟨message, refused⟩ := ih (by omega)
      (fun tail => notNumerals (.cons taken.1 taken.2 tail))
      (fun tail => notCut (.later taken.1 taken.2 tail))
    exact ⟨message, by rw [refused]; rfl⟩
  | case6 first second rest position one two =>
    have atLeast := second.utf8Size_pos
    exact absurd (.here (.split one (by omega))) notCut
  | case7 first second rest position one two => exact ⟨_, rfl⟩
  | case8 first second rest position one two =>
    have atLeast := first.utf8Size_pos
    exact absurd (.here (.wide (by omega))) notCut

end Loop

section Texts

variable {chars : List Char}

/-- Hex text is what the loop takes without a plus sign. -/
theorem hexText_iff : HexText chars ↔ Numerals chars ∧ '+' ∉ chars := by
  constructor
  · rintro ⟨even, digits⟩
    constructor
    · fun_induction spelled chars with
      | case1 high low rest ih =>
        have tail : Numerals rest := ih (by simp only [List.length_cons] at even; omega)
          fun c member => digits c (List.mem_cons_of_mem _ (List.mem_cons_of_mem _ member))
        exact .cons (.inl (digits high (by simp))) (digits low (by simp)) tail
      | case2 chars short =>
        match chars with
        | [] => exact .nil
        | [last] => simp at even
        | high :: low :: rest => exact absurd rfl (short high low rest)
    · intro plus
      exact (hexDigit_facts (digits '+' plus)).2.2.2.2 rfl
  · rintro ⟨numerals, noPlus⟩
    induction numerals with
    | nil => exact ⟨rfl, nofun⟩
    | @cons lead digit rest leads digits tail ih =>
      rw [List.mem_cons, List.mem_cons, not_or, not_or] at noPlus
      obtain ⟨even, all⟩ := ih noPlus.2.2
      constructor
      · simp only [List.length_cons]
        omega
      · intro c member
        rcases List.mem_cons.mp member with rfl | member
        · exact leads.resolve_right (Ne.symm noPlus.1)
        · rcases List.mem_cons.mp member with rfl | member
          · exact digits
          · exact all c member

/-- Without a plus sign the loop reads what the digits spell, and the encoder writes it back. -/
theorem reading_spelled (numerals : Numerals chars) (noPlus : '+' ∉ chars) :
    reading chars = spelled chars ∧ (spelled chars).flatMap byte = chars.map Char.toLower := by
  induction numerals with
  | nil => exact ⟨rfl, rfl⟩
  | @cons lead digit rest leads digits tail ih =>
    rw [List.mem_cons, List.mem_cons, not_or, not_or] at noPlus
    obtain ⟨same, written⟩ := ih noPlus.2.2
    have hex := leads.resolve_right (Ne.symm noPlus.1)
    obtain ⟨-, leadSmall, -, leadLower, -⟩ := hexDigit_facts hex
    obtain ⟨-, small, -, lower, -⟩ := hexDigit_facts digits
    constructor
    · rw [reading, spelled, same, leadValue_digit hex]
    · have value : (UInt8.ofNat (digitValue lead * 16 + digitValue digit)).toNat =
          digitValue lead * 16 + digitValue digit := by
        rw [UInt8.toNat_ofNat']
        omega
      have high : (digitValue lead * 16 + digitValue digit) / 16 = digitValue lead := by omega
      have low : (digitValue lead * 16 + digitValue digit) % 16 = digitValue digit := by omega
      rw [spelled, List.flatMap_cons, written, byte, value, high, low, leadLower, lower]
      rfl

/-- A text of digit pairs has an even number of bytes. -/
theorem hexText_byteLen (hex : HexText chars) : byteLen chars % 2 = 0 := by
  obtain ⟨even, digits⟩ := hex
  have ones : chars.map Char.utf8Size = List.replicate chars.length 1 :=
    List.eq_replicate_iff.mpr ⟨List.length_map _, by
      intro size member
      obtain ⟨c, held, rfl⟩ := List.mem_map.mp member
      exact (hexDigit_facts (digits c held)).1⟩
  rw [byteLen, ones, List.sum_replicate_nat, Nat.mul_one, even]

end Texts

section Outcomes

variable {text : String}

/-- Texts of an even length are read in pairs. -/
theorem decode_even (even : byteLen (trim text) % 2 = 0) :
    decode text = decodePairs (trim text) 0 := by
  simp only [decode, even]
  rfl

/-- A text that is refused and is not hex is treated as it should be. -/
theorem exact_of_refused {message : String} (refused : decode text = .ok (.error message))
    (notHex : ¬ HexText (trim text)) : Exact text := by
  refine ⟨⟨_, refused⟩, ?_, ?_, fun _ => ⟨message, refused⟩⟩
  · intro bytes
    constructor
    · intro accepted
      rw [refused] at accepted
      cases accepted
    · rintro ⟨hex, -⟩
      exact absurd hex notHex
  · intro bytes accepted
    rw [refused] at accepted
    cases accepted

/-- Pairs of digits are treated as they should be. -/
theorem exact_of_numerals (even : byteLen (trim text) % 2 = 0) (numerals : Numerals (trim text))
    (noPlus : '+' ∉ trim text) : Exact text := by
  have hex := hexText_iff.mpr ⟨numerals, noPlus⟩
  obtain ⟨same, written⟩ := reading_spelled numerals noPlus
  have decoded : decode text = .ok (.ok (spelled (trim text))) := by
    rw [decode_even even, decodePairs_numerals numerals 0, same]
  refine ⟨⟨_, decoded⟩, ?_, ?_, fun other => absurd hex other⟩
  · intro bytes
    rw [decoded, Except.ok.injEq, Except.ok.injEq]
    exact ⟨fun equal => ⟨hex, equal.symm⟩, fun held => held.2.symm⟩
  · intro bytes accepted
    rw [decoded, Except.ok.injEq, Except.ok.injEq] at accepted
    rw [← accepted, encode, written]

/-- A text on which `decode` is exact has no pair that is misread. -/
theorem not_misread_of_exact (sound : Exact text) (even : byteLen (trim text) % 2 = 0) :
    ¬ Misread (trim text) := by
  rintro (cut | ⟨numerals, plus⟩)
  · have returns := sound.returns
    rw [decode_even even, decodePairs_cutInside cut] at returns
    exact Checked.not_returns_error _ returns
  · have decoded := (decode_even even).trans (decodePairs_numerals numerals 0)
    have hex := ((sound.accepts _).mp decoded).1
    exact (hexText_iff.mp hex).2 plus

end Outcomes

/-- The decoder accepts exactly hex on the texts of odd byte length, which it refuses as such,
and on those that are not misread. -/
theorem decode_exact_iff (text : String) :
    Exact text ↔ byteLen (trim text) % 2 = 1 ∨ ¬ Misread (trim text) := by
  rcases Nat.mod_two_eq_zero_or_one (byteLen (trim text)) with even | odd
  · have notOdd : ¬ byteLen (trim text) % 2 = 1 := by omega
    constructor
    · exact fun sound => .inr (not_misread_of_exact sound even)
    · intro right
      have misread := right.resolve_left notOdd
      rw [Misread, not_or] at misread
      by_cases numerals : Numerals (trim text)
      · exact exact_of_numerals even numerals fun plus => misread.2 ⟨numerals, plus⟩
      · obtain ⟨message, refused⟩ := decodePairs_refuses 0 even numerals misread.1
        rw [← decode_even even] at refused
        exact exact_of_refused refused fun hex => numerals (hexText_iff.mp hex).1
  · have refused : decode text = .ok (.error "odd number of hex characters") := by
      simp only [decode, odd]
      rfl
    have notHex : ¬ HexText (trim text) := fun hex => by
      have even := hexText_byteLen hex
      omega
    exact ⟨fun _ => .inl odd, fun _ => exact_of_refused refused notHex⟩

/-- A plus sign passes as the first digit of a pair, and a pair that ends inside a character
panics. -/
theorem plus_accepted_and_cut_panics :
    decode "+f" = .ok (.ok [15]) ∧ ¬ HexText (trim "+f") ∧
      decode "aéa" = .error .slice := by
  refine ⟨by decide, ?_, by decide⟩
  rintro ⟨-, digits⟩
  exact absurd (digits '+' (by decide)) (by decide)

end Pesigitg.Hex
