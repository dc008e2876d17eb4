import Pesigitg.Common.Net
import Mathlib.Data.List.DropRight

/-!
# Textual forms of keys and addresses

The hex decoder, the MAC parser and the standard library's address parser, over
the characters of the configuration text. Slicing a string at a byte index that
is not a character boundary panics, which the hex decoder can reach.
-/

namespace Pesigitg

open Base

/-- `char::is_whitespace`, the Unicode `White_Space` property. -/
def isWhitespace (c : Char) : Bool :=
  let code := c.toNat
  (9 ≤ code && code ≤ 13) || code == 0x20 || code == 0x85 || code == 0xA0 || code == 0x1680 ||
    (0x2000 ≤ code && code ≤ 0x200A) || code == 0x2028 || code == 0x2029 || code == 0x202F ||
    code == 0x205F || code == 0x3000

/-- `str::trim`. -/
def trim (text : String) : List Char :=
  (text.toList.dropWhile isWhitespace).rdropWhile isWhitespace

/-- `str::len`, which counts UTF-8 bytes. -/
def byteLen (chars : List Char) : Nat := (chars.map Char.utf8Size).sum

/-- `char::to_digit` for a radix up to 16. -/
def toDigit (radix : Nat) (c : Char) : Option Nat :=
  let value :=
    if '0' ≤ c ∧ c ≤ '9' then c.toNat - '0'.toNat
    else if 'a' ≤ c ∧ c ≤ 'f' then c.toNat - 'a'.toNat + 10
    else if 'A' ≤ c ∧ c ≤ 'F' then c.toNat - 'A'.toNat + 10
    else radix
  if value < radix then some value else none

/-- Accumulate hex digits, failing on a bad digit or on leaving the `u8` range. -/
def hexDigits : List Char → Nat → Option Nat
  | [], value => some value
  | c :: rest, value =>
    match toDigit 16 c with
    | none => none
    | some digit =>
      if value * 16 + digit < 256 then hexDigits rest (value * 16 + digit) else none

/-- `u8::from_str_radix(_, 16)`. A leading plus sign is accepted. -/
def u8FromStrRadix16 (chars : List Char) : Option UInt8 :=
  match chars with
  | [] => none
  | ['+'] => none
  | ['-'] => none
  | '+' :: digits => (hexDigits digits 0).map UInt8.ofNat
  | digits => (hexDigits digits 0).map UInt8.ofNat

namespace Hex

/-- The per-pair loop of `decode`, from the byte position of its next pair. -/
def decodePairs : List Char → Nat → Checked (Except String Bytes)
  | [], _ => .ok (.ok [])
  | [last], position =>
    if last.utf8Size = 2 then .ok (.error s!"invalid hex at position {position}")
    else .error .slice
  | first :: second :: rest, position =>
    if first.utf8Size = 1 then
      -- `s[i..i + 2]` ends inside `second` unless it is a one-byte character.
      if second.utf8Size = 1 then
        match u8FromStrRadix16 [first, second] with
        | none => .ok (.error s!"invalid hex at position {position}")
        | some byte => do
          match ← decodePairs rest (position + 2) with
          | .ok bytes => pure (.ok (byte :: bytes))
          | .error message => pure (.error message)
      else .error .slice
    else if first.utf8Size = 2 then .ok (.error s!"invalid hex at position {position}")
    else .error .slice

/-- `hex::decode`. -/
def decode (text : String) : Checked (Except String Bytes) :=
  let chars := trim text
  if byteLen chars % 2 ≠ 0 then .ok (.error "odd number of hex characters")
  else decodePairs chars 0

/-- A lowercase hex digit. -/
def digit (value : Nat) : Char :=
  if value < 10 then Char.ofNat ('0'.toNat + value) else Char.ofNat ('a'.toNat + (value - 10))

/-- A byte under the format `02x`. -/
def byte (value : UInt8) : List Char := [digit (value.toNat / 16), digit (value.toNat % 16)]

/-- `hex::encode`. -/
def encode (bytes : Bytes) : String := String.ofList (bytes.flatMap byte)

end Hex

namespace MacText

/-- One octet of the per-part loop of `parse`. -/
def parseOctet (part : List Char) (position : Nat) : Except String UInt8 :=
  match u8FromStrRadix16 part with
  | none => .error s!"invalid hex octet '{String.ofList part}' at position {position}"
  | some octet => .ok octet

/-- `mac::parse`. -/
def parse (text : String) : Except String Mac :=
  match text.toList.splitOn ':' with
  | [p0, p1, p2, p3, p4, p5] => do
    let m0 ← parseOctet p0 0
    let m1 ← parseOctet p1 1
    let m2 ← parseOctet p2 2
    let m3 ← parseOctet p3 3
    let m4 ← parseOctet p4 4
    let m5 ← parseOctet p5 5
    pure ⟨[m0, m1, m2, m3, m4, m5], rfl⟩
  | parts => .error s!"expected 6 colon-separated octets, got {parts.length}"

/-- `mac::format`. -/
def format (mac : Mac) : String := String.ofList (List.intercalate [':'] (mac.val.map Hex.byte))

end MacText

namespace AddrText

/-- The longest run of digits at the head of the text, with what follows it. -/
def takeDigits (radix : Nat) : List Char → List Nat × List Char
  | [] => ([], [])
  | c :: rest =>
    match toDigit radix c with
    | none => ([], c :: rest)
    | some digit =>
      let (digits, tail) := takeDigits radix rest
      (digit :: digits, tail)

/-- `Parser::read_number` with a digit limit. -/
def readNumber (radix maxDigits bound : Nat) (allowZeroPrefix : Bool) (chars : List Char) :
    Option (Nat × List Char) :=
  let (digits, rest) := takeDigits radix chars
  let value := digits.foldl (fun total digit => total * radix + digit) 0
  if digits.length = 0 ∨ maxDigits < digits.length then none
  else if allowZeroPrefix = false ∧ digits.head? = some 0 ∧ 1 < digits.length then none
  else if value < bound then some (value, rest)
  else none

/-- `Parser::read_given_char`. -/
def readGivenChar (expected : Char) : List Char → Option (List Char)
  | c :: rest => if c = expected then some rest else none
  | [] => none

/-- `Parser::read_separator`: the separator precedes every item but the first. -/
def readSeparator {α : Type} (separator : Char) (index : Nat)
    (inner : List Char → Option (α × List Char)) (chars : List Char) : Option (α × List Char) :=
  if index = 0 then inner chars
  else (readGivenChar separator chars).bind inner

/-- `Parser::read_ipv4_addr`. -/
def readIpv4Addr (chars : List Char) : Option ((Nat × Nat × Nat × Nat) × List Char) := do
  let octet := readNumber 10 3 256 false
  let (a, rest) ← readSeparator '.' 0 octet chars
  let (b, rest) ← readSeparator '.' 1 octet rest
  let (c, rest) ← readSeparator '.' 2 octet rest
  let (d, rest) ← readSeparator '.' 3 octet rest
  pure ((a, b, c, d), rest)

/-- `read_groups`: up to `remaining` further groups, and whether an embedded IPv4
address ended them. -/
def readGroups : Nat → Nat → List Char → List Nat × Bool × List Char
  | 0, _, chars => ([], false, chars)
  | remaining + 1, index, chars =>
    match if 0 < remaining then readSeparator ':' index readIpv4Addr chars else none with
    | some ((a, b, c, d), rest) => ([a * 256 + b, c * 256 + d], true, rest)
    | none =>
      match readSeparator ':' index (readNumber 16 4 65536 true) chars with
      | none => ([], false, chars)
      | some (group, rest) =>
        let (groups, embedded, tail) := readGroups remaining (index + 1) rest
        (group :: groups, embedded, tail)

/-- `Parser::read_ipv6_addr`. -/
def readIpv6Addr (chars : List Char) : Option (List Nat × List Char) :=
  let (head, embedded, rest) := readGroups 8 0 chars
  if head.length = 8 then some (head, rest)
  else if embedded then none
  else do
    let rest ← readGivenChar ':' rest
    let rest ← readGivenChar ':' rest
    let (tail, _, rest) := readGroups (8 - (head.length + 1)) 0 rest
    pure (head ++ List.replicate (8 - head.length - tail.length) 0 ++ tail, rest)

/-- `str::parse::<IpAddr>`: an IPv4 address, else an IPv6 one, with nothing left over. -/
def parse (text : String) : Except String IpAddr :=
  match readIpv4Addr text.toList with
  | some ((a, b, c, d), []) =>
    .ok (.v4 ⟨[UInt8.ofNat a, UInt8.ofNat b, UInt8.ofNat c, UInt8.ofNat d], rfl⟩)
  | some (_, _ :: _) => .error "invalid IP address syntax"
  | none =>
    match readIpv6Addr text.toList with
    | some (groups, []) =>
      let octets := groups.flatMap (toBe 2)
      if sized : octets.length = 16 then .ok (.v6 ⟨octets, sized⟩)
      else .error "invalid IP address syntax"
    | _ => .error "invalid IP address syntax"

end AddrText

end Pesigitg
