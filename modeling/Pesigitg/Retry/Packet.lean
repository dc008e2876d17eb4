import Pesigitg.Base.Fields
import Pesigitg.Quic.Initial
import Pesigitg.Retry.Token

/-!
# Retry packets

`buildRetry` lays a Retry packet out in a caller's buffer and closes it with the integrity
tag. `RetryPacket.read` is the other side: the fields a client finds in the packet it received.
-/

namespace Pesigitg

open Base Quic

def retryKeyV1 : Octets 16 :=
  ⟨[0xbe, 0x0c, 0x69, 0x0b, 0x9f, 0x66, 0x57, 0x5a, 0x1d, 0x76, 0x6b, 0x54, 0xe3, 0x68, 0xc8, 0x4e],
    rfl⟩

def retryNonceV1 : Octets 12 :=
  ⟨[0x46, 0x15, 0x99, 0xd3, 0x5d, 0x63, 0x2b, 0xf2, 0x23, 0x98, 0x25, 0xbb], rfl⟩

def retryKeyV2 : Octets 16 :=
  ⟨[0x8f, 0xb4, 0xb0, 0x1b, 0x56, 0xac, 0x48, 0xe2, 0x60, 0xfb, 0xcb, 0xce, 0xad, 0x7c, 0xcc, 0x92],
    rfl⟩

def retryNonceV2 : Octets 12 :=
  ⟨[0xd8, 0x69, 0x69, 0xbc, 0x2d, 0x7c, 0x6d, 0x99, 0x90, 0xef, 0xb0, 0x4a], rfl⟩

/-- Size of the trailing integrity tag. -/
@[simp, reducible] def integrityTagLen : Nat := 16

/-- Upper bound on the pseudo-packet that is authenticated. -/
@[simp, reducible] def pseudoMax : Nat := 1024

/-- Errors raised while building a Retry packet. -/
inductive BuildError where
  | outputTooSmall
  | cidTooLong
  | pseudoTooLong
  | unsupportedVersion
deriving DecidableEq, Repr

/-- The 16-byte integrity tag over a pseudo-packet: the original connection ID with its length,
then the Retry packet without its tag. -/
def computeIntegrityTag (crypto : RetryCrypto) (version : UInt32) (odcid retryWithoutTag : Bytes) :
    Checked (Except BuildError (Octets 16)) :=
  if maxCidLen < odcid.length then pure (.error .cidTooLong)
  else
    let keyIv :=
      if version = quicV1 then some (retryKeyV1, retryNonceV1)
      else if version = quicV2 then some (retryKeyV2, retryNonceV2)
      else none
    match keyIv with
    | none => pure (.error .unsupportedVersion)
    | some (key, iv) =>
      let pseudoLen := 1 + odcid.length + retryWithoutTag.length
      if pseudoMax < pseudoLen then pure (.error .pseudoTooLong)
      else do
        let pseudo ← writeFields
          [(0, [UInt8.ofNat odcid.length]), (1, odcid), (1 + odcid.length, retryWithoutTag)]
          (List.replicate pseudoMax 0)
        let aad ← slice pseudo 0 pseudoLen
        pure (.ok (crypto.aes128GcmTag key iv aad))

/-- First byte of a Retry packet, which encodes the type differently in the two versions. -/
def retryFirstByte (version : UInt32) : Option UInt8 :=
  if version = quicV1 then some 0xf0 else if version = quicV2 then some 0xc0 else none

/-- Build a Retry packet into `out`; the result is its length and the buffer. -/
def buildRetry (crypto : RetryCrypto) (out : Bytes) (version : UInt32)
    (odcid dcid scid token : Bytes) : Checked (Except BuildError (Nat × Bytes)) :=
  if maxCidLen < odcid.length ∨ maxCidLen < dcid.length ∨ maxCidLen < scid.length then
    pure (.error .cidTooLong)
  else
    match retryFirstByte version with
    | none => pure (.error .unsupportedVersion)
    | some firstByte =>
      let bodyLen := 1 + 4 + 1 + dcid.length + 1 + scid.length + token.length
      let total := bodyLen + integrityTagLen
      if out.length < total then pure (.error .outputTooSmall)
      else do
        let out ← writeFields
          [(0, [firstByte]), (1, toBe 4 version.toNat), (5, [UInt8.ofNat dcid.length]), (6, dcid),
            (6 + dcid.length, [UInt8.ofNat scid.length]), (7 + dcid.length, scid),
            (7 + dcid.length + scid.length, token)] out
        let body ← slice out 0 bodyLen
        match ← computeIntegrityTag crypto version odcid body with
        | .error failure => pure (.error failure)
        | .ok tag => do
          let out ← copyInto out bodyLen total tag.val
          pure (.ok (total, out))

/-- The fields of a Retry packet as its receiver reads them: no field carries the token's length,
it is what remains before the tag. -/
structure RetryPacket where
  firstByte : UInt8
  version : UInt32
  dcid : Bytes
  scid : Bytes
  token : Bytes
  tag : Bytes
deriving DecidableEq, Repr

/-- Read the fields of a Retry packet. -/
def RetryPacket.read (packet : Bytes) : Option RetryPacket :=
  let dcidLen := (byteAt packet 5).toNat
  let scidLen := (byteAt packet (6 + dcidLen)).toNat
  let tokenStart := 7 + dcidLen + scidLen
  let tagStart := packet.length - integrityTagLen
  if packet.length < tokenStart + integrityTagLen then none
  else
    some {
      firstByte := byteAt packet 0
      version := beU32 ((packet.drop 1).take 4)
      dcid := (packet.drop 6).take dcidLen
      scid := (packet.drop (7 + dcidLen)).take scidLen
      token := (packet.drop tokenStart).take (tagStart - tokenStart)
      tag := packet.drop tagStart }

section Build

variable {crypto : RetryCrypto} {version : UInt32} {out built packet odcid dcid scid token : Bytes}
  {count : Nat}

/-- The length of a CID fits its byte. -/
theorem cidLength_byte {cid : Bytes} (short : cid.length ≤ maxCidLen) :
    (UInt8.ofNat cid.length).toNat = cid.length := by
  rw [UInt8.toNat_ofNat']
  have bound : cid.length ≤ 20 := short
  omega

/-- The body fields of a Retry packet, where `buildRetry` puts them. -/
structure RetryBody (packet : Bytes) (firstByte : UInt8) (version : UInt32)
    (dcid scid token : Bytes) : Prop where
  firstAt : Holds packet 0 [firstByte]
  versionAt : Holds packet 1 (toBe 4 version.toNat)
  dcidLengthAt : Holds packet 5 [UInt8.ofNat dcid.length]
  dcidAt : Holds packet 6 dcid
  scidLengthAt : Holds packet (6 + dcid.length) [UInt8.ofNat scid.length]
  scidAt : Holds packet (7 + dcid.length) scid
  tokenAt : Holds packet (7 + dcid.length + scid.length) token

/-- Reading a packet with these fields and 16 bytes after them. -/
theorem RetryBody.read {firstByte : UInt8} {tag : Bytes}
    (body : RetryBody packet firstByte version dcid scid token)
    (dcidShort : dcid.length ≤ maxCidLen) (scidShort : scid.length ≤ maxCidLen)
    (closed : Holds packet (7 + dcid.length + scid.length + token.length) tag)
    (sized : packet.length = 7 + dcid.length + scid.length + token.length + 16)
    (tagSized : tag.length = 16) :
    RetryPacket.read packet = some ⟨firstByte, version, dcid, scid, token, tag⟩ := by
  have dcidLen : (byteAt packet 5).toNat = dcid.length := by
    rw [body.dcidLengthAt.byte, cidLength_byte dcidShort]
  have scidLen : (byteAt packet (6 + dcid.length)).toNat = scid.length := by
    rw [body.scidLengthAt.byte, cidLength_byte scidShort]
  have versionRead : beU32 ((packet.drop 1).take 4) = version := by
    have bytes := body.versionAt.slice_eq
    rw [toBe_length] at bytes
    rw [bytes, beU32_toBe]
  have tokenRead : (packet.drop (7 + dcid.length + scid.length)).take
      (packet.length - 16 - (7 + dcid.length + scid.length)) = token := by
    have width : packet.length - 16 - (7 + dcid.length + scid.length) = token.length := by omega
    rw [width]
    exact body.tokenAt.slice_eq
  have tagRead : packet.drop (packet.length - 16) = tag := by
    have place : packet.length - 16 = 7 + dcid.length + scid.length + token.length := by omega
    rw [place]
    exact closed.drop_eq (by omega)
  have long : ¬ packet.length < 7 + dcid.length + scid.length + 16 := by omega
  simp only [RetryPacket.read, dcidLen, scidLen, integrityTagLen, if_neg long, versionRead,
    body.dcidAt.slice_eq, body.scidAt.slice_eq, tokenRead, tagRead, body.firstAt.byte]

/-- The fields stand where they were written. -/
theorem retryBody_of_written {firstByte : UInt8} {filled : Bytes}
    (written : writeFields
      [(0, [firstByte]), (1, toBe 4 version.toNat), (5, [UInt8.ofNat dcid.length]), (6, dcid),
        (6 + dcid.length, [UInt8.ofNat scid.length]), (7 + dcid.length, scid),
        (7 + dcid.length + scid.length, token)] out = .ok filled) :
    RetryBody filled firstByte version dcid scid token := by
  have ascending : Ascending 0 [(0, [firstByte]), (1, toBe 4 version.toNat),
      (5, [UInt8.ofNat dcid.length]), (6, dcid), (6 + dcid.length, [UInt8.ofNat scid.length]),
      (7 + dcid.length, scid), (7 + dcid.length + scid.length, token)] := by
    simp only [Ascending, List.length_cons, List.length_nil, toBe_length, and_true]
    omega
  obtain ⟨-, -, fields⟩ := writeFields_holds ascending written
  exact {
    firstAt := fields (0, [firstByte]) (by simp)
    versionAt := fields (1, toBe 4 version.toNat) (by simp)
    dcidLengthAt := fields (5, [UInt8.ofNat dcid.length]) (by simp)
    dcidAt := fields (6, dcid) (by simp)
    scidLengthAt := fields (6 + dcid.length, [UInt8.ofNat scid.length]) (by simp)
    scidAt := fields (7 + dcid.length, scid) (by simp)
    tokenAt := fields (7 + dcid.length + scid.length, token) (by simp) }

/-- Bytes that agree with the body hold the same fields. -/
theorem RetryBody.kept {firstByte : UInt8} {filled : Bytes}
    (body : RetryBody filled firstByte version dcid scid token)
    (kept : ∀ offset part, offset + part.length ≤ 7 + dcid.length + scid.length + token.length →
      Holds filled offset part → Holds packet offset part) :
    RetryBody packet firstByte version dcid scid token where
  firstAt := kept _ _ (by simp; omega) body.firstAt
  versionAt := kept _ _ (by simp; omega) body.versionAt
  dcidLengthAt := kept _ _ (by simp; omega) body.dcidLengthAt
  dcidAt := kept _ _ (by omega) body.dcidAt
  scidLengthAt := kept _ _ (by simp; omega) body.scidLengthAt
  scidAt := kept _ _ (by omega) body.scidAt
  tokenAt := kept _ _ (by omega) body.tokenAt

/-- What a successful `buildRetry` did: the fields, then the tag of the body behind them. -/
theorem buildRetry_exit
    (done : buildRetry crypto out version odcid dcid scid token = .ok (.ok (count, built))) :
    ∃ firstByte filled body tag bodyLen,
      bodyLen = 7 + dcid.length + scid.length + token.length ∧ count = bodyLen + 16 ∧
      dcid.length ≤ maxCidLen ∧ scid.length ≤ maxCidLen ∧
      retryFirstByte version = some firstByte ∧
      RetryBody filled firstByte version dcid scid token ∧ slice filled 0 bodyLen = .ok body ∧
      computeIntegrityTag crypto version odcid body = .ok (.ok tag) ∧
      copyInto filled bodyLen (bodyLen + 16) tag.val = .ok built := by
  unfold buildRetry at done
  split at done
  · simp at done
  next short =>
  simp only [not_or, Nat.not_lt] at short
  obtain ⟨-, dcidShort, scidShort⟩ := short
  cases known : retryFirstByte version with
  | none =>
    rw [known] at done
    simp at done
  | some firstByte =>
    rw [known] at done
    simp only at done
    split at done
    · simp at done
    simp only [Checked.bind_eq_ok_iff] at done
    obtain ⟨filled, written, body, bodyRead, tagResult, tagged, done⟩ := done
    cases tagResult with
    | error failure => simp at done
    | ok tag =>
      simp only [Checked.bind_eq_ok_iff, Checked.pure_eq_ok, Except.ok.injEq, Prod.mk.injEq] at done
      obtain ⟨closed, copied, rfl, rfl⟩ := done
      exact ⟨firstByte, filled, body, tag, _, by omega, rfl, dcidShort, scidShort, rfl,
        retryBody_of_written written, bodyRead, tagged, copied⟩

/-- A built packet reads back as what it was built from, closed by the tag of what precedes. -/
theorem buildRetry_read
    (done : buildRetry crypto out version odcid dcid scid token = .ok (.ok (count, built)))
    (cut : slice built 0 count = .ok packet) :
    ∃ firstByte tag, retryFirstByte version = some firstByte ∧
      packet.length = 7 + dcid.length + scid.length + token.length + 16 ∧
      computeIntegrityTag crypto version odcid (packet.take (packet.length - 16)) =
        .ok (.ok tag) ∧
      RetryPacket.read packet = some ⟨firstByte, version, dcid, scid, token, tag.val⟩ := by
  obtain ⟨firstByte, filled, body, tag, bodyLen, bodyLenEq, rfl, dcidShort, scidShort, known, fields,
    bodyRead, tagged, copied⟩ := buildRetry_exit done
  obtain ⟨-, total, packetEq⟩ := slice_eq_ok_iff.mp cut
  obtain ⟨-, inside, bodyEq⟩ := slice_eq_ok_iff.mp bodyRead
  rw [List.drop_zero] at packetEq bodyEq
  have packetSize : packet.length = bodyLen + 16 := by
    rw [← packetEq, List.length_take]
    omega
  -- The tag is written behind the fields, and the packet is cut off behind the tag.
  have parts : RetryBody packet firstByte version dcid scid token := by
    refine fields.kept ?_
    intro offset part before holds
    rw [← packetEq]
    exact (holds.copyInto copied (.inl (by omega))).take (by omega)
  have tagAt : Holds packet bodyLen tag.val := by
    rw [← packetEq]
    exact (holds_copyInto copied).take (by rw [tag.property])
  have bodyKept : packet.take (packet.length - 16) = body := by
    obtain ⟨-, room, -, closedEq⟩ := copyInto_eq_ok_iff.mp copied
    have front : (filled.take bodyLen).length = bodyLen := by
      rw [List.length_take]
      omega
    rw [packetSize, Nat.add_sub_cancel, ← packetEq, List.take_take, Nat.min_eq_left (by omega),
      ← closedEq, List.append_assoc, List.take_append_of_le_length (by omega),
      List.take_of_length_le (by omega), bodyEq]
  refine ⟨firstByte, tag, known, by omega, ?_, ?_⟩
  · rw [bodyKept]
    exact tagged
  · apply parts.read dcidShort scidShort ?_ (by omega) tag.property
    rw [← bodyLenEq]
    exact tagAt

end Build

end Pesigitg
