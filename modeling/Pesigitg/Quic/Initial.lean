import Pesigitg.Base.Endian

/-!
# QUIC Initial packets

`parseStrict` decodes the unprotected part of a version 1 or version 2 Initial. The version is
read before the packet type because the two versions encode the type differently.
-/

namespace Pesigitg.Quic

open Base

def quicV1 : UInt32 := 0x00000001

def quicV2 : UInt32 := 0x6b3343cf

/-- Longest connection ID that versions 1 and 2 allow. -/
def maxCidLen : Nat := 20

/-- Parsed view over an Initial. -/
structure Initial where
  firstByte : UInt8
  version : UInt32
  dcid : Bytes
  scid : Bytes
  token : Bytes
  length : Nat
  pnOffset : Nat
deriving DecidableEq, Repr

/-- Reasons a candidate Initial can fail to parse. -/
inductive ParseError where
  | truncated
  | notLongHeader
  | fixedBitUnset
  | notInitial
  | unsupportedVersion (version : UInt32)
  | dcidLengthInvalid
  | scidLengthInvalid
  | tokenLengthInvalid
  | lengthInvalid
  | lengthOverrun
deriving DecidableEq, Repr

/-- Decode a variable-length integer: its value and the bytes it takes. -/
def readVarint (buf : Bytes) : Checked (Option (Nat × Nat)) :=
  match buf with
  | [] => pure none
  | first :: _ =>
    let size := 1 <<< (first >>> 6).toNat
    if buf.length < size then pure none
    else do
      let rest ← slice buf 1 size
      -- At most 62 bits, so shifting a byte in never loses one.
      pure (some (rest.foldl (fun value byte => value * 256 + byte.toNat) (first &&& 0x3f).toNat,
        size))

/-- The type bits of an Initial in the packet's version. -/
def checkVersion (version : UInt32) (ptype : UInt8) : Except ParseError Unit :=
  if version = quicV1 ∧ ptype ≠ 0b00 then .error .notInitial
  else if version = quicV2 ∧ ptype ≠ 0b01 then .error .notInitial
  else if version = quicV1 ∨ version = quicV2 then .ok ()
  else .error (.unsupportedVersion version)

/-- The Length field and the end of `parseStrict`. -/
def parseLength (packet : Bytes) (firstByte : UInt8) (version : UInt32)
    (dcid scid token : Bytes) (tokenEnd : Nat) : Checked (Except ParseError Initial) := do
  let rest ← sliceFrom packet tokenEnd
  match ← readVarint rest with
  | none => pure (.error .lengthInvalid)
  | some (length, lenSize) =>
    let pnOffset := tokenEnd + lenSize
    let declaredEnd := pnOffset + length
    if packet.length < declaredEnd then pure (.error .lengthOverrun)
    else pure (.ok ⟨firstByte, version, dcid, scid, token, length, pnOffset⟩)

/-- The token field of `parseStrict`. -/
def parseToken (packet : Bytes) (firstByte : UInt8) (version : UInt32) (dcid scid : Bytes)
    (scidEnd : Nat) : Checked (Except ParseError Initial) := do
  let rest ← sliceFrom packet scidEnd
  match ← readVarint rest with
  | none => pure (.error .tokenLengthInvalid)
  | some (tokenLen, tlSize) =>
    let tokenStart := scidEnd + tlSize
    let tokenEnd := tokenStart + tokenLen
    if packet.length < tokenEnd then pure (.error .tokenLengthInvalid)
    else do
      let token ← slice packet tokenStart tokenEnd
      parseLength packet firstByte version dcid scid token tokenEnd

/-- The connection IDs of `parseStrict`. -/
def parseCids (packet : Bytes) (firstByte : UInt8) (version : UInt32) :
    Checked (Except ParseError Initial) := do
  let dcidLen ← readByte packet 5
  if maxCidLen < dcidLen.toNat then pure (.error .dcidLengthInvalid)
  else
    let dcidEnd := 6 + dcidLen.toNat
    if packet.length < dcidEnd + 1 then pure (.error .dcidLengthInvalid)
    else do
      let dcid ← slice packet 6 dcidEnd
      let scidLen ← readByte packet dcidEnd
      if maxCidLen < scidLen.toNat then pure (.error .scidLengthInvalid)
      else
        let scidStart := dcidEnd + 1
        let scidEnd := scidStart + scidLen.toNat
        if packet.length < scidEnd then pure (.error .scidLengthInvalid)
        else do
          let scid ← slice packet scidStart scidEnd
          parseToken packet firstByte version dcid scid scidEnd

/-- Parse a candidate Initial, with the reason if it is none. -/
def parseStrict (packet : Bytes) : Checked (Except ParseError Initial) :=
  if packet.length < 9 then pure (.error .truncated)
  else do
    let firstByte ← readByte packet 0
    if firstByte &&& 0x80 = 0 then pure (.error .notLongHeader)
    else if firstByte &&& 0x40 = 0 then pure (.error .fixedBitUnset)
    else do
      let bytes ← slice packet 1 5
      let version := beU32 bytes
      match checkVersion version ((firstByte >>> 4) &&& 0b11) with
      | .error failure => pure (.error failure)
      | .ok () => parseCids packet firstByte version

/-- What the parser promises about an accepted packet. -/
structure Initial.WellFormed (initial : Initial) : Prop where
  version_known : initial.version = quicV1 ∨ initial.version = quicV2
  dcid_le : initial.dcid.length ≤ maxCidLen
  scid_le : initial.scid.length ≤ maxCidLen

/-- Only versions 1 and 2 are accepted. -/
theorem checkVersion_ok {version : UInt32} {ptype : UInt8}
    (accepted : checkVersion version ptype = .ok ()) : version = quicV1 ∨ version = quicV2 := by
  unfold checkVersion at accepted
  split at accepted
  · cases accepted
  · split at accepted
    · cases accepted
    · split at accepted
      · next known => exact known
      · cases accepted

/-- The last stage keeps the version and the CIDs. -/
theorem parseLength_ok {packet : Bytes} {firstByte : UInt8} {version : UInt32}
    {dcid scid token : Bytes} {tokenEnd : Nat} {initial : Initial}
    (accepted : parseLength packet firstByte version dcid scid token tokenEnd =
      .ok (.ok initial)) :
    initial.version = version ∧ initial.dcid = dcid ∧ initial.scid = scid := by
  simp only [parseLength, Checked.bind_eq_ok_iff] at accepted
  obtain ⟨rest, -, decoded, -, accepted⟩ := accepted
  split at accepted
  · simp at accepted
  · split at accepted
    · simp at accepted
    · simp only [Checked.pure_eq_ok, Except.ok.injEq] at accepted
      subst accepted
      exact ⟨rfl, rfl, rfl⟩

/-- So does the stage before. -/
theorem parseToken_ok {packet : Bytes} {firstByte : UInt8} {version : UInt32} {dcid scid : Bytes}
    {scidEnd : Nat} {initial : Initial}
    (accepted : parseToken packet firstByte version dcid scid scidEnd = .ok (.ok initial)) :
    initial.version = version ∧ initial.dcid = dcid ∧ initial.scid = scid := by
  simp only [parseToken, Checked.bind_eq_ok_iff] at accepted
  obtain ⟨rest, -, decoded, -, accepted⟩ := accepted
  split at accepted
  · simp at accepted
  · split at accepted
    · simp at accepted
    · rw [Checked.bind_eq_ok_iff] at accepted
      obtain ⟨token, -, accepted⟩ := accepted
      exact parseLength_ok accepted

/-- CIDs that are accepted are short enough. -/
theorem parseCids_ok {packet : Bytes} {firstByte : UInt8} {version : UInt32} {initial : Initial}
    (accepted : parseCids packet firstByte version = .ok (.ok initial)) :
    initial.version = version ∧ initial.dcid.length ≤ maxCidLen ∧
      initial.scid.length ≤ maxCidLen := by
  simp only [parseCids, Checked.bind_eq_ok_iff] at accepted
  obtain ⟨dcidLen, -, accepted⟩ := accepted
  split at accepted
  · simp at accepted
  next dcidShort =>
  split at accepted
  · simp at accepted
  simp only [Checked.bind_eq_ok_iff] at accepted
  obtain ⟨dcid, dcidRead, scidLen, -, accepted⟩ := accepted
  split at accepted
  · simp at accepted
  next scidShort =>
  split at accepted
  · simp at accepted
  rw [Checked.bind_eq_ok_iff] at accepted
  obtain ⟨scid, scidRead, accepted⟩ := accepted
  obtain ⟨sameVersion, rfl, rfl⟩ := parseToken_ok accepted
  obtain ⟨-, dcidInside, dcidEq⟩ := slice_eq_ok_iff.mp dcidRead
  obtain ⟨-, scidInside, scidEq⟩ := slice_eq_ok_iff.mp scidRead
  refine ⟨sameVersion, ?_, ?_⟩
  · rw [← dcidEq]
    simp
    omega
  · rw [← scidEq]
    simp
    omega

/-- An accepted Initial is well formed. -/
theorem parseStrict_wellFormed {packet : Bytes} {initial : Initial}
    (accepted : parseStrict packet = .ok (.ok initial)) : initial.WellFormed := by
  unfold parseStrict at accepted
  split at accepted
  · simp at accepted
  simp only [Checked.bind_eq_ok_iff] at accepted
  obtain ⟨firstByte, -, accepted⟩ := accepted
  split at accepted
  · simp at accepted
  split at accepted
  · simp at accepted
  rw [Checked.bind_eq_ok_iff] at accepted
  obtain ⟨bytes, -, accepted⟩ := accepted
  cases known : checkVersion (beU32 bytes) ((firstByte >>> 4) &&& 0b11) with
  | error failure =>
    rw [known] at accepted
    simp at accepted
  | ok checked =>
    rw [known] at accepted
    obtain ⟨sameVersion, dcidLe, scidLe⟩ := parseCids_ok accepted
    exact ⟨sameVersion ▸ checkVersion_ok known, dcidLe, scidLe⟩

section Totality

variable {packet : Bytes} {firstByte : UInt8} {version : UInt32} {dcid scid token : Bytes}

/-- Reading a varint never panics. -/
theorem readVarint_returns (buf : Bytes) : (readVarint buf).Returns := by
  cases buf with
  | nil => exact ⟨none, rfl⟩
  | cons first rest =>
    simp only [readVarint]
    split
    · exact ⟨none, rfl⟩
    · next inside =>
      have positive : 1 ≤ 1 <<< (first >>> 6).toNat := by
        rw [Nat.one_shiftLeft]
        exact Nat.one_le_two_pow
      rw [slice_of_le positive (Nat.not_lt.mp inside)]
      exact ⟨_, rfl⟩

/-- Nor does reading the length, from a position inside the packet. -/
theorem parseLength_returns {tokenEnd : Nat} (inside : tokenEnd ≤ packet.length) :
    (parseLength packet firstByte version dcid scid token tokenEnd).Returns := by
  unfold parseLength
  rw [sliceFrom_of_le inside, Checked.ok_bind]
  refine (readVarint_returns _).bind fun decoded _ => ?_
  cases decoded with
  | none => exact ⟨_, rfl⟩
  | some value =>
    simp only
    split <;> exact ⟨_, rfl⟩

/-- Nor does reading the token. -/
theorem parseToken_returns {scidEnd : Nat} (inside : scidEnd ≤ packet.length) :
    (parseToken packet firstByte version dcid scid scidEnd).Returns := by
  unfold parseToken
  rw [sliceFrom_of_le inside, Checked.ok_bind]
  refine (readVarint_returns _).bind fun decoded _ => ?_
  cases decoded with
  | none => exact ⟨_, rfl⟩
  | some value =>
    simp only
    split
    · exact ⟨_, rfl⟩
    · next fits =>
      rw [slice_of_le (by omega) (by omega), Checked.ok_bind]
      exact parseLength_returns (by omega)

/-- Nor does reading the CIDs, behind the check of the first bytes. -/
theorem parseCids_returns (long : 9 ≤ packet.length) :
    (parseCids packet firstByte version).Returns := by
  unfold parseCids
  rw [readByte_of_lt (by omega), Checked.ok_bind]
  split
  · exact ⟨_, rfl⟩
  simp only
  split
  · exact ⟨_, rfl⟩
  rw [slice_of_le (by omega) (by omega), Checked.ok_bind, readByte_of_lt (by omega),
    Checked.ok_bind]
  split
  · exact ⟨_, rfl⟩
  split
  · exact ⟨_, rfl⟩
  rw [slice_of_le (by omega) (by omega), Checked.ok_bind]
  exact parseToken_returns (by omega)

/-- The parser accepts or refuses every byte string; none makes it panic. -/
theorem parseStrict_returns (packet : Bytes) : (parseStrict packet).Returns := by
  unfold parseStrict
  split
  · exact ⟨_, rfl⟩
  rw [readByte_of_lt (by omega), Checked.ok_bind]
  split
  · exact ⟨_, rfl⟩
  split
  · exact ⟨_, rfl⟩
  rw [slice_of_le (by omega) (by omega), Checked.ok_bind]
  simp only
  split
  · exact ⟨_, rfl⟩
  · exact parseCids_returns (by omega)

end Totality

end Pesigitg.Quic
