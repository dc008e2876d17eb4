import Pesigitg.Base.Varint
import Pesigitg.Quic.Initial
import Mathlib.Data.Nat.Bitwise

/-!
# The grammar of Initial packets

`Spells` says which byte strings are an Initial with given fields, as one concatenation.
The parser, which works on offsets, accepts exactly those. `Machine` is the parser again
with the integers of the program: sums of `usize` that would overflow stop it, and the
value of a variable-length integer is shifted together in 64 bits.
-/

namespace Pesigitg.Quic

open Base

/-- An Initial up to its packet number, for given encodings of its token length and of
its length. -/
def Initial.header (initial : Initial) (tokenField lengthField : Bytes) : Bytes :=
  [initial.firstByte] ++ toBe 4 initial.version.toNat ++
    [UInt8.ofNat initial.dcid.length] ++ initial.dcid ++
    [UInt8.ofNat initial.scid.length] ++ initial.scid ++
    tokenField ++ initial.token ++ lengthField

/-- The type bits of an Initial, in the version it carries. -/
def Initial.TypeBits (version : UInt32) (bits : Nat) : Prop :=
  version = 1 ∧ bits = 0b00 ∨ version = 0x6b3343cf ∧ bits = 0b01

/-- The packet is the concatenation of the fields of an Initial, with at least `length`
bytes behind them. -/
structure Initial.Spells (initial : Initial) (packet : Bytes) : Prop where
  fields : ∃ tokenField lengthField payload,
    IsVarint tokenField initial.token.length ∧ IsVarint lengthField initial.length ∧
      packet = initial.header tokenField lengthField ++ payload ∧
      initial.length ≤ payload.length ∧
      initial.pnOffset = (initial.header tokenField lengthField).length
  dcid_le : initial.dcid.length ≤ 20
  scid_le : initial.scid.length ≤ 20
  form_bit : initial.firstByte.toNat.testBit 7 = true
  fixed_bit : initial.firstByte.toNat.testBit 6 = true
  kind : Initial.TypeBits initial.version (initial.firstByte.toNat / 16 % 4)

/-- A buffer that is long enough has a front of the given length. -/
theorem exists_append_of_le {bytes : Bytes} {count : Nat} (enough : count ≤ bytes.length) :
    ∃ part rest, bytes = part ++ rest ∧ part.length = count :=
  ⟨bytes.take count, bytes.drop count, (List.take_append_drop count bytes).symm, by
    rw [List.length_take, Nat.min_eq_left enough]⟩

section Varints

/-- The two high bits give the length of a varint. -/
theorem varint_size (first : UInt8) : 1 <<< (first >>> 6).toNat = 2 ^ (first.toNat / 64) := by
  simp [Nat.one_shiftLeft, UInt8.toNat_shiftRight, Nat.shiftRight_eq_div_pow]

/-- The other six bits are the first of its value. -/
theorem varint_lead (first : UInt8) : (first &&& 0x3f).toNat = first.toNat % 64 := by
  rw [UInt8.toNat_and]
  exact Nat.and_two_pow_sub_one_eq_mod first.toNat 6

/-- Reading an encoding that is there. -/
theorem readVarint_of_isVarint {field : Bytes} {value : Nat} (encoded : IsVarint field value)
    (rest : Bytes) : readVarint (field ++ rest) = .ok (some (value, field.length)) := by
  obtain ⟨first, tail, rfl⟩ := encoded.exists_cons
  obtain ⟨sized, rfl⟩ := isVarint_cons_iff.mp encoded
  have cut := slice_append [first] tail rest
  rw [List.length_singleton, Nat.add_comm 1] at cut
  simp only [List.cons_append, List.nil_append] at cut
  simp only [List.cons_append, readVarint, varint_size, varint_lead, ← sized]
  rw [if_neg (by simp), cut, Checked.ok_bind, foldl_be]
  rfl

/-- The reader finds exactly the encoding at the front of the buffer. -/
theorem readVarint_eq_some_iff {buf : Bytes} {value size : Nat} :
    readVarint buf = .ok (some (value, size)) ↔
      ∃ field rest, buf = field ++ rest ∧ IsVarint field value ∧ field.length = size := by
  constructor
  · intro read
    cases buf with
    | nil => cases read
    | cons first tail =>
      by_cases short : (first :: tail).length < 2 ^ (first.toNat / 64)
      · simp only [readVarint, varint_size, if_pos short] at read
        cases read
      -- The field is the first byte and as many bytes behind it as its two top bits ask for.
      have positive : 1 ≤ 2 ^ (first.toNat / 64) := Nat.one_le_two_pow
      obtain ⟨after, rest, rfl, counted⟩ :=
        exists_append_of_le (show 2 ^ (first.toNat / 64) - 1 ≤ tail.length by
          rw [List.length_cons] at short
          omega)
      have encoded : IsVarint (first :: after) _ := isVarint_cons_iff.mpr ⟨by omega, rfl⟩
      have whole := readVarint_of_isVarint encoded rest
      rw [List.cons_append, read, Except.ok.injEq, Option.some.injEq, Prod.mk.injEq] at whole
      obtain ⟨rfl, rfl⟩ := whole
      exact ⟨first :: after, rest, rfl, encoded, rfl⟩
  · rintro ⟨field, rest, rfl, encoded, rfl⟩
    exact readVarint_of_isVarint encoded rest

end Varints

section Stages

variable {firstByte : UInt8} {version : UInt32} {dcid scid token before rest : Bytes}
  {initial : Initial}

/-- The Length field, behind the part of the packet already read. -/
theorem parseLength_iff :
    parseLength (before ++ rest) firstByte version dcid scid token before.length =
        .ok (.ok initial) ↔
      ∃ length field payload, rest = field ++ payload ∧ IsVarint field length ∧
        length ≤ payload.length ∧
        initial = ⟨firstByte, version, dcid, scid, token, length, before.length + field.length⟩ := by
  rw [parseLength, sliceFrom_append, Checked.ok_bind]
  constructor
  · intro accepted
    obtain ⟨decoded, read, accepted⟩ := Checked.bind_eq_ok_iff.mp accepted
    cases decoded with
    | none => simp at accepted
    | some found =>
      obtain ⟨length, size⟩ := found
      obtain ⟨field, payload, rfl, encoded, rfl⟩ := readVarint_eq_some_iff.mp read
      simp only at accepted
      split at accepted
      · simp at accepted
      next fits =>
      rw [Checked.pure_eq_ok, Except.ok.injEq, Except.ok.injEq] at accepted
      simp only [List.length_append] at fits
      exact ⟨length, field, payload, rfl, encoded, by omega, accepted.symm⟩
  · rintro ⟨length, field, payload, rfl, encoded, enough, rfl⟩
    rw [readVarint_of_isVarint encoded, Checked.ok_bind]
    simp only [List.length_append]
    rw [if_neg (by omega)]
    rfl

/-- Reading a token that is there. -/
theorem parseToken_eq {field after : Bytes} (encoded : IsVarint field token.length) :
    parseToken (before ++ (field ++ (token ++ after))) firstByte version dcid scid before.length =
      parseLength ((before ++ field ++ token) ++ after) firstByte version dcid scid token
        (before ++ field ++ token).length := by
  have found := readVarint_of_isVarint encoded (token ++ after)
  have cut := slice_append (before ++ field) token after
  rw [List.append_assoc, List.length_append] at cut
  rw [parseToken, sliceFrom_append, Checked.ok_bind, found, Checked.ok_bind]
  simp only
  rw [if_neg (by simp only [List.length_append]; omega), cut, Checked.ok_bind,
    List.length_append, List.length_append, List.append_assoc, List.append_assoc]

/-- The token field: an encoded length, then as many bytes. -/
theorem parseToken_iff :
    parseToken (before ++ rest) firstByte version dcid scid before.length = .ok (.ok initial) ↔
      ∃ field token after, rest = field ++ (token ++ after) ∧ IsVarint field token.length ∧
        parseLength ((before ++ field ++ token) ++ after) firstByte version dcid scid token
          (before ++ field ++ token).length = .ok (.ok initial) := by
  constructor
  · intro accepted
    have whole := accepted
    rw [parseToken, sliceFrom_append, Checked.ok_bind] at accepted
    obtain ⟨decoded, read, accepted⟩ := Checked.bind_eq_ok_iff.mp accepted
    cases decoded with
    | none => simp at accepted
    | some found =>
      obtain ⟨count, size⟩ := found
      obtain ⟨field, tail, rfl, encoded, rfl⟩ := readVarint_eq_some_iff.mp read
      simp only at accepted
      split at accepted
      · simp at accepted
      next fits =>
      simp only [List.length_append] at fits
      obtain ⟨token, after, rfl, rfl⟩ := exists_append_of_le (show count ≤ tail.length by omega)
      rw [parseToken_eq encoded] at whole
      exact ⟨field, token, after, rfl, encoded, whole⟩
  · rintro ⟨field, token, after, rfl, encoded, accepted⟩
    rwa [parseToken_eq encoded]

/-- The length of a CID fits its byte. -/
theorem maxCidLen_toNat {count : Nat} (short : count ≤ maxCidLen) :
    (UInt8.ofNat count).toNat = count := by
  rw [UInt8.toNat_ofNat']
  unfold maxCidLen at short
  omega

/-- Reading connection IDs that are there. -/
theorem parseCids_eq {after : Bytes} (sized : before.length = 5) (dcid_le : dcid.length ≤ maxCidLen)
    (scid_le : scid.length ≤ maxCidLen) :
    parseCids (before ++ UInt8.ofNat dcid.length ::
        (dcid ++ UInt8.ofNat scid.length :: (scid ++ after))) firstByte version =
      parseToken ((before ++ [UInt8.ofNat dcid.length] ++ dcid ++ [UInt8.ofNat scid.length] ++
          scid) ++ after) firstByte version dcid scid
        (before ++ [UInt8.ofNat dcid.length] ++ dcid ++ [UInt8.ofNat scid.length] ++
          scid).length := by
  have dcidStart : (before ++ [UInt8.ofNat dcid.length]).length = 6 := by simp [sized]
  have dcidEnd : (before ++ [UInt8.ofNat dcid.length] ++ dcid).length = 6 + dcid.length := by
    rw [List.length_append, dcidStart]
  have scidStart : (before ++ [UInt8.ofNat dcid.length] ++ dcid ++
      [UInt8.ofNat scid.length]).length = 6 + dcid.length + 1 := by
    rw [List.length_append, dcidEnd, List.length_singleton]
  have dcidLen := readByte_append before (UInt8.ofNat dcid.length)
    (dcid ++ UInt8.ofNat scid.length :: (scid ++ after))
  have dcidCut := slice_append (before ++ [UInt8.ofNat dcid.length]) dcid
    (UInt8.ofNat scid.length :: (scid ++ after))
  have scidLen := readByte_append (before ++ [UInt8.ofNat dcid.length] ++ dcid)
    (UInt8.ofNat scid.length) (scid ++ after)
  have scidCut := slice_append
    (before ++ [UInt8.ofNat dcid.length] ++ dcid ++ [UInt8.ofNat scid.length]) scid after
  rw [sized] at dcidLen
  rw [dcidStart] at dcidCut
  rw [dcidEnd] at scidLen
  rw [scidStart] at scidCut
  rw [List.length_append, scidStart]
  simp only [List.append_assoc, List.cons_append, List.nil_append] at dcidLen dcidCut scidLen scidCut ⊢
  rw [parseCids, dcidLen, Checked.ok_bind, maxCidLen_toNat dcid_le, if_neg (Nat.not_lt.mpr dcid_le)]
  simp only
  rw [if_neg (by simp [sized]; omega), dcidCut, Checked.ok_bind, scidLen, Checked.ok_bind,
    maxCidLen_toNat scid_le, if_neg (Nat.not_lt.mpr scid_le), if_neg (by simp [sized]; omega),
    scidCut, Checked.ok_bind]

/-- A length byte with enough bytes behind it heads a connection ID. -/
theorem exists_cid {byte : UInt8} {tail : Bytes} (enough : byte.toNat ≤ tail.length) :
    ∃ cid after, byte = UInt8.ofNat cid.length ∧ tail = cid ++ after ∧ cid.length = byte.toNat := by
  obtain ⟨cid, after, split, counted⟩ := exists_append_of_le enough
  exact ⟨cid, after, by rw [counted, UInt8.ofNat_toNat], split, counted⟩

/-- The two connection IDs, each behind its length. -/
theorem parseCids_iff (sized : before.length = 5) (long : 9 ≤ (before ++ rest).length) :
    parseCids (before ++ rest) firstByte version = .ok (.ok initial) ↔
      ∃ dcid scid after, dcid.length ≤ maxCidLen ∧ scid.length ≤ maxCidLen ∧
        rest = UInt8.ofNat dcid.length :: (dcid ++ UInt8.ofNat scid.length :: (scid ++ after)) ∧
        parseToken ((before ++ [UInt8.ofNat dcid.length] ++ dcid ++ [UInt8.ofNat scid.length] ++
            scid) ++ after) firstByte version dcid scid
          (before ++ [UInt8.ofNat dcid.length] ++ dcid ++ [UInt8.ofNat scid.length] ++
            scid).length = .ok (.ok initial) := by
  constructor
  · intro accepted
    have whole := accepted
    obtain ⟨dcidLen, tail, rfl⟩ : ∃ byte tail, rest = byte :: tail := by
      cases rest with
      | nil => simp [sized] at long
      | cons byte tail => exact ⟨byte, tail, rfl⟩
    have read := readByte_append before dcidLen tail
    rw [sized] at read
    rw [parseCids, read, Checked.ok_bind] at accepted
    split at accepted
    · simp at accepted
    next dcid_le =>
    simp only at accepted
    split at accepted
    · simp at accepted
    next dcidFits =>
    simp only [List.length_append, List.length_cons, sized] at dcidFits
    obtain ⟨dcid, tail, dcidByte, rfl, dcidLength⟩ :=
      exists_cid (show dcidLen.toNat ≤ tail.length by omega)
    obtain ⟨scidLen, tail, rfl⟩ : ∃ byte after, tail = byte :: after := by
      cases tail with
      | nil => simp at dcidFits; omega
      | cons byte after => exact ⟨byte, after, rfl⟩
    have scidRead := readByte_append (before ++ [dcidLen] ++ dcid) scidLen tail
    have dcidEnd : (before ++ [dcidLen] ++ dcid).length = 6 + dcidLen.toNat := by
      simp [sized, dcidLength]
      omega
    rw [dcidEnd] at scidRead
    simp only [List.append_assoc, List.cons_append, List.nil_append] at scidRead
    obtain ⟨cut, -, accepted⟩ := Checked.bind_eq_ok_iff.mp accepted
    rw [scidRead, Checked.ok_bind] at accepted
    split at accepted
    · simp at accepted
    next scid_le =>
    split at accepted
    · simp at accepted
    next scidFits =>
    simp only [List.length_append, List.length_cons, sized, dcidLength] at scidFits
    obtain ⟨scid, after, scidByte, rfl, scidLength⟩ :=
      exists_cid (show scidLen.toNat ≤ tail.length by omega)
    rw [← dcidLength] at dcid_le
    rw [← scidLength] at scid_le
    subst dcidByte scidByte
    rw [parseCids_eq sized (Nat.not_lt.mp dcid_le) (Nat.not_lt.mp scid_le)] at whole
    exact ⟨dcid, scid, after, Nat.not_lt.mp dcid_le, Nat.not_lt.mp scid_le, rfl, whole⟩
  · rintro ⟨dcid, scid, after, dcid_le, scid_le, rfl, accepted⟩
    rwa [parseCids_eq sized dcid_le scid_le]

/-- Masking one bit tests it. -/
theorem and_eq_zero_iff_testBit (byte mask : UInt8) (bit : Nat)
    (masked : mask.toNat = 2 ^ bit) : byte &&& mask = 0 ↔ byte.toNat.testBit bit = false := by
  rw [← UInt8.toNat_inj, UInt8.toNat_and, masked, Nat.and_two_pow]
  cases byte.toNat.testBit bit <;> simp

/-- A version and packet type pass exactly if they are those of an Initial. -/
theorem checkVersion_iff {ptype : UInt8} :
    checkVersion version ptype = .ok () ↔ Initial.TypeBits version ptype.toNat := by
  have none : ptype.toNat = 0 ↔ ptype = 0 := by rw [← UInt8.toNat_inj]; rfl
  have one : ptype.toNat = 1 ↔ ptype = 1 := by rw [← UInt8.toNat_inj]; rfl
  unfold checkVersion Initial.TypeBits quicV1 quicV2
  rw [none, one]
  by_cases first : version = 1
  · subst first
    by_cases typed : ptype = 0 <;> simp [typed]
  · by_cases second : version = 0x6b3343cf
    · subst second
      by_cases typed : ptype = 1 <;> simp [typed]
    · simp [first, second]

/-- The type bits of a long header. -/
theorem typeBits_toNat (byte : UInt8) : ((byte >>> 4) &&& 0b11).toNat = byte.toNat / 16 % 4 := by
  rw [UInt8.toNat_and, UInt8.toNat_shiftRight]
  exact (Nat.and_two_pow_sub_one_eq_mod _ 2).trans (by
    rw [Nat.shiftRight_eq_div_pow]
    rfl)

/-- The checks on the first five bytes, on a packet long enough to hold them. -/
theorem parseStrict_eq {bytes : Bytes} (sized : bytes.length = 4)
    (long : 9 ≤ (([firstByte] ++ bytes) ++ rest).length) :
    parseStrict (([firstByte] ++ bytes) ++ rest) =
      if firstByte &&& 0x80 = 0 then .ok (.error .notLongHeader)
      else if firstByte &&& 0x40 = 0 then .ok (.error .fixedBitUnset)
      else match checkVersion (beU32 bytes) ((firstByte >>> 4) &&& 0b11) with
        | .error failure => .ok (.error failure)
        | .ok () => parseCids (([firstByte] ++ bytes) ++ rest) firstByte (beU32 bytes) := by
  have first : readByte (([firstByte] ++ bytes) ++ rest) 0 = .ok firstByte := rfl
  have cut : slice (([firstByte] ++ bytes) ++ rest) 1 5 = .ok bytes := by
    have part := slice_append [firstByte] bytes rest
    rwa [sized, ← List.append_assoc] at part
  rw [parseStrict, if_neg (Nat.not_lt.mpr long), first, Checked.ok_bind, cut]
  rfl

/-- The first five bytes. -/
theorem parseStrict_iff {packet : Bytes} :
    parseStrict packet = .ok (.ok initial) ↔ ∃ firstByte version rest,
      packet = ([firstByte] ++ toBe 4 version.toNat) ++ rest ∧ 9 ≤ packet.length ∧
        firstByte.toNat.testBit 7 = true ∧ firstByte.toNat.testBit 6 = true ∧
        Initial.TypeBits version (firstByte.toNat / 16 % 4) ∧
        parseCids packet firstByte version = .ok (.ok initial) := by
  constructor
  · intro accepted
    by_cases short : packet.length < 9
    · rw [parseStrict, if_pos short] at accepted
      simp at accepted
    have long := Nat.not_lt.mp short
    obtain ⟨firsts, tail, rfl, one⟩ := exists_append_of_le (show 1 ≤ packet.length by omega)
    obtain ⟨firstByte, rfl⟩ := List.length_eq_one_iff.mp one
    obtain ⟨bytes, rest, rfl, four⟩ :=
      exists_append_of_le (show 4 ≤ tail.length by rw [List.length_append, one] at long; omega)
    rw [← List.append_assoc] at accepted long ⊢
    rw [parseStrict_eq four long] at accepted
    split at accepted
    · simp at accepted
    next form =>
    split at accepted
    · simp at accepted
    next fixed =>
    rw [and_eq_zero_iff_testBit firstByte 0x80 7 rfl] at form
    rw [and_eq_zero_iff_testBit firstByte 0x40 6 rfl] at fixed
    cases checked : checkVersion (beU32 bytes) ((firstByte >>> 4) &&& 0b11) with
    | error failure =>
      rw [checked] at accepted
      simp at accepted
    | ok accept =>
      rw [checked] at accepted
      rw [checkVersion_iff, typeBits_toNat] at checked
      refine ⟨firstByte, beU32 bytes, rest, ?_, long, ?_, ?_, checked, accepted⟩
      · rw [toBe_beU32 four]
      · exact Bool.not_eq_false _ ▸ form
      · exact Bool.not_eq_false _ ▸ fixed
  · rintro ⟨firstByte, version, rest, rfl, long, form, fixed, kind, accepted⟩
    rw [← typeBits_toNat, ← checkVersion_iff] at kind
    rw [parseStrict_eq (toBe_length 4 _) long, beU32_toBe, kind,
      if_neg (by rw [and_eq_zero_iff_testBit firstByte 0x80 7 rfl, form]; decide),
      if_neg (by rw [and_eq_zero_iff_testBit firstByte 0x40 6 rfl, fixed]; decide)]
    exact accepted

end Stages

/-- The parser accepts exactly the packets that spell an Initial, and returns the
Initial they spell. -/
theorem parseStrict_spells_iff {packet : Bytes} {initial : Initial} :
    parseStrict packet = .ok (.ok initial) ↔ initial.Spells packet := by
  rw [parseStrict_iff]
  constructor
  · rintro ⟨firstByte, version, rest, rfl, long, form, fixed, kind, accepted⟩
    rw [parseCids_iff (by simp) long] at accepted
    obtain ⟨dcid, scid, rest, dcid_le, scid_le, rfl, accepted⟩ := accepted
    obtain ⟨tokenField, token, rest, rfl, tokenEncoded, accepted⟩ := parseToken_iff.mp accepted
    obtain ⟨length, lengthField, payload, rfl, lengthEncoded, enough, rfl⟩ :=
      parseLength_iff.mp accepted
    refine ⟨⟨tokenField, lengthField, payload, tokenEncoded, lengthEncoded, ?_, enough, ?_⟩,
      dcid_le, scid_le, form, fixed, kind⟩
    · simp [Initial.header]
    · simp [Initial.header]
      omega
  · rintro ⟨⟨tokenField, lengthField, payload, tokenEncoded, lengthEncoded, rfl, enough, offset⟩,
      dcid_le, scid_le, form, fixed, kind⟩
    have one := tokenEncoded.one_le_length
    have two := lengthEncoded.one_le_length
    have split : initial.header tokenField lengthField ++ payload =
        ([initial.firstByte] ++ toBe 4 initial.version.toNat) ++
          UInt8.ofNat initial.dcid.length :: (initial.dcid ++ UInt8.ofNat initial.scid.length ::
            (initial.scid ++ (tokenField ++ (initial.token ++ (lengthField ++ payload))))) := by
      simp [Initial.header]
    have long : 9 ≤ (initial.header tokenField lengthField ++ payload).length := by
      rw [split]
      simp
      omega
    refine ⟨initial.firstByte, initial.version, _, split, long, form, fixed, kind, ?_⟩
    rw [split] at long ⊢
    rw [parseCids_eq (by simp) dcid_le scid_le, parseToken_eq tokenEncoded]
    refine parseLength_iff.mpr ⟨initial.length, lengthField, payload, rfl, lengthEncoded, enough, ?_⟩
    have place : initial.pnOffset = _ := offset
    rw [Initial.header, List.length_append] at place
    rw [← place]

namespace Machine

/-- `left + right` of two `usize`. -/
def add (left right : Nat) : Checked Nat := do
  Checked.assert (left + right < 2 ^ 64) "attempt to add with overflow"
  pure (left + right)

/-- `usize::checked_add`. -/
def checkedAdd (left right : Nat) : Option Nat :=
  if left + right < 2 ^ 64 then some (left + right) else none

/-- Decode a variable-length integer into a `u64`. -/
def readVarint (buf : Bytes) : Checked (Option (UInt64 × Nat)) :=
  match buf with
  | [] => pure none
  | first :: _ =>
    let size := 1 <<< (first >>> 6).toNat
    if buf.length < size then pure none
    else do
      let rest ← slice buf 1 size
      pure (some (rest.foldl (fun value byte => value <<< 8 ||| byte.toUInt64)
        (first &&& 0x3f).toUInt64, size))

/-- The Length field and the end of `parseStrict`. -/
def parseLength (packet : Bytes) (firstByte : UInt8) (version : UInt32)
    (dcid scid token : Bytes) (tokenEnd : Nat) : Checked (Except ParseError Initial) := do
  let rest ← sliceFrom packet tokenEnd
  match ← readVarint rest with
  | none => pure (.error .lengthInvalid)
  | some (length, lenSize) => do
    let pnOffset ← add tokenEnd lenSize
    match checkedAdd pnOffset length.toNat with
    | none => pure (.error .lengthOverrun)
    | some declaredEnd =>
      if packet.length < declaredEnd then pure (.error .lengthOverrun)
      else pure (.ok ⟨firstByte, version, dcid, scid, token, length.toNat, pnOffset⟩)

/-- The token field of `parseStrict`. -/
def parseToken (packet : Bytes) (firstByte : UInt8) (version : UInt32) (dcid scid : Bytes)
    (scidEnd : Nat) : Checked (Except ParseError Initial) := do
  let rest ← sliceFrom packet scidEnd
  match ← readVarint rest with
  | none => pure (.error .tokenLengthInvalid)
  | some (tokenLen, tlSize) => do
    let tokenStart ← add scidEnd tlSize
    match checkedAdd tokenStart tokenLen.toNat with
    | none => pure (.error .tokenLengthInvalid)
    | some tokenEnd =>
      if packet.length < tokenEnd then pure (.error .tokenLengthInvalid)
      else do
        let token ← slice packet tokenStart tokenEnd
        parseLength packet firstByte version dcid scid token tokenEnd

/-- The connection IDs of `parseStrict`. -/
def parseCids (packet : Bytes) (firstByte : UInt8) (version : UInt32) :
    Checked (Except ParseError Initial) := do
  let dcidLen ← readByte packet 5
  if maxCidLen < dcidLen.toNat then pure (.error .dcidLengthInvalid)
  else do
    let dcidEnd ← add 6 dcidLen.toNat
    let dcidNext ← add dcidEnd 1
    if packet.length < dcidNext then pure (.error .dcidLengthInvalid)
    else do
      let dcid ← slice packet 6 dcidEnd
      let scidLen ← readByte packet dcidEnd
      if maxCidLen < scidLen.toNat then pure (.error .scidLengthInvalid)
      else do
        let scidStart ← add dcidEnd 1
        let scidEnd ← add scidStart scidLen.toNat
        if packet.length < scidEnd then pure (.error .scidLengthInvalid)
        else do
          let scid ← slice packet scidStart scidEnd
          parseToken packet firstByte version dcid scid scidEnd

/-- `parseStrict` on machine integers. -/
def parseStrict (packet : Bytes) : Checked (Except ParseError Initial) :=
  if packet.length < 9 then pure (.error .truncated)
  else do
    let firstByte ← readByte packet 0
    if firstByte &&& 0x80 = 0 then pure (.error .notLongHeader)
    else if firstByte &&& 0x40 = 0 then pure (.error .fixedBitUnset)
    else do
      let bytes ← slice packet 1 5
      let version := beU32 bytes
      match checkVersion version ((firstByte >>> 4) &&& 0b11) with
      | .error failure => pure (.error failure)
      | .ok () => parseCids packet firstByte version

/-- An addition that fits 64 bits does not wrap. -/
theorem add_of_lt {left right : Nat} (fits : left + right < 2 ^ 64) :
    add left right = .ok (left + right) := by
  rw [add, Checked.assert, if_pos fits]
  rfl

/-- Shifting a byte in is `* 256 +` as long as the eight top bits are clear. -/
theorem shift_in {value : UInt64} (byte : UInt8) (small : value.toNat < 2 ^ 56) :
    (value <<< 8 ||| byte.toUInt64).toNat = value.toNat * 256 + byte.toNat := by
  have byte_lt : byte.toNat < 2 ^ 8 := byte.toNat_lt
  have shifted : (value <<< 8).toNat = value.toNat <<< 8 := by
    rw [UInt64.toNat_shiftLeft, show UInt64.toNat 8 % 64 = 8 from rfl]
    exact Nat.mod_eq_of_lt (by rw [Nat.shiftLeft_eq]; omega)
  rw [UInt64.toNat_or, shifted, UInt8.toNat_toUInt64, ← Nat.shiftLeft_add_eq_or_of_lt byte_lt,
    Nat.shiftLeft_eq]

/-- The loop of `read_varint` loses no bit while the bytes left fit above the value. -/
theorem foldl_shift_in (bytes : Bytes) (value : UInt64)
    (small : value.toNat < 2 ^ (64 - 8 * bytes.length)) (short : bytes.length ≤ 8) :
    (bytes.foldl (fun (value : UInt64) byte => value <<< 8 ||| byte.toUInt64) value).toNat =
      bytes.foldl (fun value byte => value * 256 + byte.toNat) value.toNat := by
  induction bytes generalizing value with
  | nil => rfl
  | cons byte rest ih =>
    rw [List.length_cons] at small short
    have room : 2 ^ (64 - 8 * (rest.length + 1)) ≤ 2 ^ 56 := Nat.pow_le_pow_right (by decide) (by omega)
    have shifted := shift_in byte (Nat.lt_of_lt_of_le small room)
    have split : 64 - 8 * rest.length = 64 - 8 * (rest.length + 1) + 8 := by omega
    have next : (value <<< 8 ||| byte.toUInt64).toNat < 2 ^ (64 - 8 * rest.length) := by
      have byte_lt := byte.toNat_lt
      rw [shifted, split, pow_add]
      omega
    rw [List.foldl_cons, List.foldl_cons, ih _ next (by omega), shifted]

/-- The machine reader and the reader on numbers find the same. -/
theorem readVarint_agree (buf : Bytes) :
    (readVarint buf = .ok none ∧ Quic.readVarint buf = .ok none) ∨
      ∃ value size, readVarint buf = .ok (some (value, size)) ∧
        Quic.readVarint buf = .ok (some (value.toNat, size)) ∧ size ≤ buf.length := by
  cases buf with
  | nil => exact .inl ⟨rfl, rfl⟩
  | cons first tail =>
    simp only [readVarint, Quic.readVarint]
    by_cases short : (first :: tail).length < 1 <<< (first >>> 6).toNat
    · rw [if_pos short, if_pos short]
      exact .inl ⟨rfl, rfl⟩
    · have positive : 1 ≤ 1 <<< (first >>> 6).toNat := by
        rw [varint_size]
        exact Nat.one_le_two_pow
      have inside := Nat.not_lt.mp short
      rw [if_neg short, if_neg short, slice_of_le positive inside, Checked.ok_bind,
        Checked.ok_bind]
      refine .inr ⟨_, _, rfl, ?_, inside⟩
      have size_le : 1 <<< (first >>> 6).toNat ≤ 8 := by
        have byte_lt := first.toNat_lt
        rw [varint_size]
        exact Nat.pow_le_pow_right (by decide) (show first.toNat / 64 ≤ 3 by omega)
      generalize 1 <<< (first >>> 6).toNat = size at *
      have count : (((first :: tail).take size).drop 1).length = size - 1 := by
        rw [List.length_drop, List.length_take, Nat.min_eq_left inside]
      have lead : (first &&& 0x3f).toUInt64.toNat = (first &&& 0x3f).toNat := UInt8.toNat_toUInt64 _
      have fits : (first &&& 0x3f).toUInt64.toNat <
          2 ^ (64 - 8 * (((first :: tail).take size).drop 1).length) := by
        rw [lead, varint_lead, count]
        have room : 2 ^ 8 ≤ 2 ^ (64 - 8 * (size - 1)) := Nat.pow_le_pow_right (by decide) (by omega)
        omega
      rw [foldl_shift_in _ _ fits (by omega), lead]
      rfl

section Agreement

variable {packet : Bytes} {firstByte : UInt8} {version : UInt32} {dcid scid token : Bytes}

/-- On an addressable packet, wrapping arithmetic reads the length as natural numbers do. -/
theorem parseLength_eq {tokenEnd : Nat} (inside : tokenEnd ≤ packet.length)
    (addressable : packet.length < 2 ^ 64) :
    parseLength packet firstByte version dcid scid token tokenEnd =
      Quic.parseLength packet firstByte version dcid scid token tokenEnd := by
  rw [parseLength, Quic.parseLength, sliceFrom_of_le inside, Checked.ok_bind, Checked.ok_bind]
  rcases readVarint_agree (packet.drop tokenEnd) with ⟨machine, number⟩ | ⟨length, size, machine, number, size_le⟩
  · rw [machine, number]
    rfl
  · rw [List.length_drop] at size_le
    rw [machine, number, Checked.ok_bind, Checked.ok_bind]
    simp only
    rw [add_of_lt (by omega), Checked.ok_bind, checkedAdd]
    by_cases fits : tokenEnd + size + length.toNat < 2 ^ 64
    · rw [if_pos fits]
    · rw [if_neg fits, if_pos (by omega)]

/-- So it reads the token. -/
theorem parseToken_eq {scidEnd : Nat} (inside : scidEnd ≤ packet.length)
    (addressable : packet.length < 2 ^ 64) :
    parseToken packet firstByte version dcid scid scidEnd =
      Quic.parseToken packet firstByte version dcid scid scidEnd := by
  rw [parseToken, Quic.parseToken, sliceFrom_of_le inside, Checked.ok_bind, Checked.ok_bind]
  rcases readVarint_agree (packet.drop scidEnd) with ⟨machine, number⟩ | ⟨count, size, machine, number, size_le⟩
  · rw [machine, number]
    rfl
  · rw [List.length_drop] at size_le
    rw [machine, number, Checked.ok_bind, Checked.ok_bind]
    simp only
    rw [add_of_lt (by omega), Checked.ok_bind, checkedAdd]
    by_cases fits : scidEnd + size + count.toNat < 2 ^ 64
    · rw [if_pos fits]
      simp only
      by_cases past : packet.length < scidEnd + size + count.toNat
      · rw [if_pos past, if_pos past]
      · rw [if_neg past, if_neg past, slice_of_le (by omega) (by omega), Checked.ok_bind,
          Checked.ok_bind, parseLength_eq (by omega) addressable]
    · rw [if_neg fits, if_pos (by omega)]

/-- And the CIDs. -/
theorem parseCids_eq (long : 9 ≤ packet.length) (addressable : packet.length < 2 ^ 64) :
    parseCids packet firstByte version = Quic.parseCids packet firstByte version := by
  rw [parseCids, Quic.parseCids, readByte_of_lt (by omega), Checked.ok_bind, Checked.ok_bind]
  have dcid_lt := (byteAt packet 5).toNat_lt
  by_cases dcidLong : maxCidLen < (byteAt packet 5).toNat
  · rw [if_pos dcidLong, if_pos dcidLong]
  rw [if_neg dcidLong, if_neg dcidLong, add_of_lt (by omega), Checked.ok_bind,
    add_of_lt (by omega), Checked.ok_bind]
  simp only
  by_cases dcidPast : packet.length < 6 + (byteAt packet 5).toNat + 1
  · rw [if_pos dcidPast, if_pos dcidPast]
  rw [if_neg dcidPast, if_neg dcidPast, slice_of_le (by omega) (by omega), Checked.ok_bind,
    Checked.ok_bind, readByte_of_lt (by omega), Checked.ok_bind, Checked.ok_bind, Checked.ok_bind]
  have scid_lt := (byteAt packet (6 + (byteAt packet 5).toNat)).toNat_lt
  by_cases scidLong : maxCidLen < (byteAt packet (6 + (byteAt packet 5).toNat)).toNat
  · rw [if_pos scidLong, if_pos scidLong]
  rw [if_neg scidLong, if_neg scidLong, add_of_lt (by omega), Checked.ok_bind]
  by_cases scidPast : packet.length < 6 + (byteAt packet 5).toNat + 1 +
      (byteAt packet (6 + (byteAt packet 5).toNat)).toNat
  · rw [if_pos scidPast, if_pos scidPast]
  rw [if_neg scidPast, if_neg scidPast, slice_of_le (by omega) (by omega), Checked.ok_bind,
    Checked.ok_bind, parseToken_eq (by omega) addressable]

/-- No sum of the parser overflows on a packet that fits the address space, and no bit of a
variable-length integer is lost. -/
theorem parseStrict_eq (addressable : packet.length < 2 ^ 64) :
    parseStrict packet = Quic.parseStrict packet := by
  rw [parseStrict, Quic.parseStrict]
  by_cases short : packet.length < 9
  · rw [if_pos short, if_pos short]
  rw [if_neg short, if_neg short, readByte_of_lt (by omega), Checked.ok_bind, Checked.ok_bind,
    slice_of_le (by omega) (by omega)]
  by_cases form : byteAt packet 0 &&& 0x80 = 0
  · rw [if_pos form, if_pos form]
  rw [if_neg form, if_neg form]
  by_cases fixed : byteAt packet 0 &&& 0x40 = 0
  · rw [if_pos fixed, if_pos fixed]
  rw [if_neg fixed, if_neg fixed, Checked.ok_bind, Checked.ok_bind]
  simp only
  cases checkVersion (beU32 ((packet.take 5).drop 1)) ((byteAt packet 0 >>> 4) &&& 0b11) with
  | error failure => rfl
  | ok done => exact parseCids_eq (Nat.not_lt.mp short) addressable

end Agreement

end Machine

/-- On every byte string that fits the address space, the parser returns without an access out of
range or an overflow, and it accepts exactly the packets that spell an Initial, with the fields
they spell. -/
theorem parseStrict_exact (packet : Bytes) (addressable : packet.length < 2 ^ 64) :
    (Machine.parseStrict packet).Returns ∧
      ∀ initial, Machine.parseStrict packet = .ok (.ok initial) ↔ initial.Spells packet := by
  rw [Machine.parseStrict_eq addressable]
  exact ⟨parseStrict_returns packet, fun initial => parseStrict_spells_iff⟩

/-- A version 2 Initial with an eight-byte destination connection ID, no source connection ID,
an empty token written in two bytes and two bytes behind the Length. -/
def sampleInitial : Bytes :=
  [0xd0, 0x6b, 0x33, 0x43, 0xcf, 8, 1, 2, 3, 4, 5, 6, 7, 8, 0, 0x40, 0x00, 0x02, 0xaa, 0xbb]

/-- A version 2 Initial with an empty token. -/
theorem sampleInitial_exact :
    sampleInitial.length < 2 ^ 64 ∧
      Machine.parseStrict sampleInitial =
        .ok (.ok ⟨0xd0, 0x6b3343cf, [1, 2, 3, 4, 5, 6, 7, 8], [], [], 2, 18⟩) ∧
      (⟨0xd0, 0x6b3343cf, [1, 2, 3, 4, 5, 6, 7, 8], [], [], 2, 18⟩ : Initial).Spells
        sampleInitial := by
  have short : sampleInitial.length < 2 ^ 64 := by decide
  have accepted : Machine.parseStrict sampleInitial =
      .ok (.ok ⟨0xd0, 0x6b3343cf, [1, 2, 3, 4, 5, 6, 7, 8], [], [], 2, 18⟩) := by decide +kernel
  exact ⟨short, accepted, ((parseStrict_exact sampleInitial short).2 _).mp accepted⟩

end Pesigitg.Quic
