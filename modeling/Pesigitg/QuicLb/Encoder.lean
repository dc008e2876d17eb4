import Pesigitg.Routing.Cid

/-!
# The backend's Connection ID encoder

`QuicLbEncoder` is the server-side counterpart of the router: it writes a config
id and a server id into a CID, fills the nonce with random bytes and encrypts.
The random bytes are arguments, so every statement is about each possible draw.
`encodeInto_eq` reduces an encode to its cipher step. `encryptPayload_decrypts`
runs that step in the three cipher modes and back through the router's
decryptor; `encodeInto_returns_iff` says when it gets through at all.
-/

namespace Pesigitg

open Base

/-- Encoder for a single server identity. -/
structure QuicLbEncoder where
  configId : UInt8
  serverId : Bytes
  nonceLength : UInt8
  encryption : Encryption
  encodeCidLength : Bool
deriving DecidableEq, Repr

namespace QuicLbEncoder

/-- Construction asserts the field ranges. -/
def new (configId : UInt8) (serverId : Bytes) (nonceLength : UInt8) (encryption : Encryption)
    (encodeCidLength : Bool) : Checked QuicLbEncoder := do
  Checked.assert (configId ≤ 6) "config_id must be 0-6"
  Checked.assert (serverId ≠ [] ∧ serverId.length ≤ 15)
    "assertion failed: !server_id.is_empty() && server_id.len() <= 15"
  Checked.assert (4 ≤ nonceLength ∧ nonceLength ≤ 18)
    "assertion failed: (4..=18).contains(&nonce_length)"
  Checked.assert (serverId.length + nonceLength.toNat ≤ 19)
    "assertion failed: server_id.len() + nonce_length as usize <= 19"
  pure ⟨configId, serverId, nonceLength, encryption, encodeCidLength⟩

/-- Total CID length: first octet, server id and nonce. -/
def cidLength (encoder : QuicLbEncoder) : Nat :=
  1 + encoder.serverId.length + encoder.nonceLength.toNat

/-- Top three bits: the config id. Low five bits: the CID length minus one, or
random bits from `low`. -/
def firstOctet (encoder : QuicLbEncoder) (low : UInt8) : UInt8 :=
  let upper := encoder.configId <<< 5
  if encoder.encodeCidLength then
    let length := UInt8.ofNat encoder.cidLength
    let lenBits := (if length < 1 then 0 else length - 1) &&& 0x1f
    upper ||| lenBits
  else upper ||| (low &&& 0x1f)

/-- The in-place encryption step of `encodeInto`. -/
def encryptPayload (aes : Aes128) (encoder : QuicLbEncoder) (payload : Bytes) : Checked Bytes :=
  let sidLen := encoder.serverId.length
  let nonceLen := encoder.nonceLength.toNat
  let payloadLen := sidLen + nonceLen
  match encoder.encryption with
  | .plaintext => pure payload
  | .singlePass key => do
    let part ← slice payload 0 payloadLen
    let block ← copyInto (List.replicate 16 0) 0 payloadLen part
    let block ← toOctets 16 block
    copyInto payload 0 16 (aes.encryptBlock key block).val
  | .fourPass key => do
    let part ← slice payload 0 payloadLen
    let part ← encryptFourPass (aes.encryptBlock key) sidLen nonceLen part
    copyInto payload 0 payloadLen part

/-- Encode one CID into the head of `buf`; returns the count written and the buffer. -/
def encodeInto (aes : Aes128) (encoder : QuicLbEncoder)
    (nonce : Octets encoder.nonceLength.toNat) (low : UInt8) (buf : Bytes) :
    Checked (Nat × Bytes) := do
  let cidLen := encoder.cidLength
  Checked.assert (cidLen ≤ buf.length) s!"buf too small: have {buf.length}, need {cidLen}"
  let sidLen := encoder.serverId.length
  let payloadLen := sidLen + encoder.nonceLength.toNat
  let payload ← copyInto (List.replicate 19 0) 0 sidLen encoder.serverId
  -- `fill_bytes` over the nonce range of the payload.
  let payload ← copyInto payload sidLen payloadLen nonce.val
  let payload ← encryptPayload aes encoder payload
  let buf ← writeByte buf 0 (encoder.firstOctet low)
  let part ← slice payload 0 payloadLen
  let buf ← copyInto buf 1 cidLen part
  pure (cidLen, buf)

/-- What the assertions of `new` leave. -/
structure Valid (encoder : QuicLbEncoder) : Prop where
  configId_le : encoder.configId.toNat ≤ 6
  serverId_pos : 0 < encoder.serverId.length
  serverId_le : encoder.serverId.length ≤ 15
  nonceLength_ge : 4 ≤ encoder.nonceLength.toNat
  nonceLength_le : encoder.nonceLength.toNat ≤ 18
  sum_le : encoder.serverId.length + encoder.nonceLength.toNat ≤ 19

/-- An encoder that was built is valid and has the given parameters. -/
theorem new_ok {configId nonceLength : UInt8} {serverId : Bytes} {encryption : Encryption}
    {encodeCidLength : Bool} {encoder : QuicLbEncoder}
    (built : new configId serverId nonceLength encryption encodeCidLength = .ok encoder) :
    encoder = ⟨configId, serverId, nonceLength, encryption, encodeCidLength⟩ ∧ encoder.Valid := by
  simp only [new, Checked.bind_eq_ok_iff, Checked.pure_eq_ok, Except.ok.injEq] at built
  obtain ⟨⟨⟩, idOk, ⟨⟩, sidOk, ⟨⟩, nonceOk, ⟨⟩, sumOk, rfl⟩ := built
  rw [Checked.assert_eq_ok_iff] at idOk sidOk nonceOk sumOk
  refine ⟨rfl, ?_⟩
  exact {
    configId_le := UInt8.le_iff_toNat_le.mp idOk
    serverId_pos := List.length_pos_iff.mpr sidOk.1
    serverId_le := sidOk.2
    nonceLength_ge := UInt8.le_iff_toNat_le.mp nonceOk.1
    nonceLength_le := UInt8.le_iff_toNat_le.mp nonceOk.2
    sum_le := sumOk }

variable {aes : Aes128} {encoder : QuicLbEncoder}

/-- The plaintext the cipher step starts from. -/
def plainPayload (encoder : QuicLbEncoder) (nonce : Octets encoder.nonceLength.toNat) : Bytes :=
  encoder.serverId ++ nonce.val ++
    List.replicate (19 - (encoder.serverId.length + encoder.nonceLength.toNat)) 0

/-- The payload buffer has 19 bytes. -/
theorem plainPayload_length (valid : encoder.Valid) (nonce : Octets encoder.nonceLength.toNat) :
    (encoder.plainPayload nonce).length = 19 := by
  have bound := valid.sum_le
  simp [plainPayload, nonce.property]
  omega

/-- Building the plaintext payload. -/
theorem fill_payload (valid : encoder.Valid) (nonce : Octets encoder.nonceLength.toNat) :
    (do
      let payload ← copyInto (List.replicate 19 0) 0 encoder.serverId.length encoder.serverId
      copyInto payload encoder.serverId.length
        (encoder.serverId.length + encoder.nonceLength.toNat) nonce.val) =
      .ok (encoder.plainPayload nonce) := by
  have sidBound := valid.serverId_le
  have bound := valid.sum_le
  have first : copyInto (List.replicate 19 0) 0 encoder.serverId.length encoder.serverId =
      .ok (encoder.serverId ++ List.replicate (19 - encoder.serverId.length) 0) := by
    rw [copyInto_eq_ok_iff]
    refine ⟨Nat.zero_le _, by simp; omega, by simp, ?_⟩
    rw [List.drop_replicate, List.take_zero, List.nil_append]
  rw [first, Checked.ok_bind, copyInto_eq_ok_iff]
  refine ⟨Nat.le_add_right _ _, by simp; omega, by simp [nonce.property], ?_⟩
  rw [List.take_left, List.drop_append, List.drop_eq_nil_of_le (Nat.le_add_right _ _),
    List.drop_replicate, plainPayload, List.nil_append]
  congr 2
  omega

/-- An encode with room for the CID is its cipher step, framed by the first octet
and the untouched tail of the buffer. -/
theorem encodeInto_eq (valid : encoder.Valid) (nonce : Octets encoder.nonceLength.toNat)
    (low : UInt8) {buf : Bytes} (room : encoder.cidLength ≤ buf.length) :
    encodeInto aes encoder nonce low buf = (do
      let payload ← encryptPayload aes encoder (encoder.plainPayload nonce)
      let part ← slice payload 0 (encoder.serverId.length + encoder.nonceLength.toNat)
      pure (encoder.cidLength, encoder.firstOctet low :: part ++ buf.drop encoder.cidLength)) := by
  have filled := fill_payload valid nonce
  obtain ⟨head, tail, rfl⟩ : ∃ head tail, buf = head :: tail := by
    cases buf with
    | nil => simp [cidLength] at room
    | cons head tail => exact ⟨head, tail, rfl⟩
  have asserted : Checked.assert (encoder.cidLength ≤ (head :: tail).length)
      s!"buf too small: have {(head :: tail).length}, need {encoder.cidLength}" = .ok () :=
    Checked.assert_eq_ok_iff.mpr room
  unfold encodeInto
  simp only [asserted, Checked.ok_bind]
  rw [← bind_assoc, filled, Checked.ok_bind]
  congr 1
  funext payload
  rw [writeByte_of_lt (by simp), Checked.ok_bind]
  cases cut : slice payload 0 (encoder.serverId.length + encoder.nonceLength.toNat) with
  | error reason => rfl
  | ok part =>
    have partLength : part.length = encoder.serverId.length + encoder.nonceLength.toNat := by
      obtain ⟨-, inside, rfl⟩ := slice_eq_ok_iff.mp cut
      simpa using inside
    have copied : copyInto ((head :: tail).set 0 (encoder.firstOctet low)) 1 encoder.cidLength
        part = .ok (encoder.firstOctet low :: part ++ (head :: tail).drop encoder.cidLength) := by
      rw [copyInto_eq_ok_iff]
      refine ⟨by simp only [cidLength]; omega, by simpa using room, ?_, ?_⟩
      · rw [partLength, cidLength]
        omega
      · rw [cidLength, Nat.add_assoc, Nat.add_comm 1]
        simp
    rw [Checked.ok_bind, copied]
    rfl

/-- The router's side of an encoder: the lengths and the mode agree. -/
structure Matches (encoder : QuicLbEncoder) (config : RouteConfig) : Prop where
  serverIdLength : config.serverIdLength.toNat = encoder.serverId.length
  nonceLength : config.nonceLength = encoder.nonceLength
  encryption : config.encryption = encoder.encryption

section Cipher

variable {key : Option Key} {cipherKey : Key} (nonce : Octets encoder.nonceLength.toNat)

/-- Its fields are the id and the nonce. -/
theorem plainFields_length :
    (encoder.serverId ++ nonce.val).length =
      encoder.serverId.length + encoder.nonceLength.toNat := by
  rw [List.length_append, nonce.property]

/-- A body of the CID's payload length, padded to the scratch buffer. -/
def padPayload (encoder : QuicLbEncoder) (body : Bytes) : Bytes :=
  body ++ List.replicate (19 - (encoder.serverId.length + encoder.nonceLength.toNat)) 0

/-- The rest of it is padding. -/
theorem plainPayload_eq_pad :
    encoder.plainPayload nonce = encoder.padPayload (encoder.serverId ++ nonce.val) := rfl

/-- The payload range of a padded body is the body. -/
theorem slice_padPayload {body : Bytes}
    (sized : body.length = encoder.serverId.length + encoder.nonceLength.toNat) :
    slice (encoder.padPayload body) 0
      (encoder.serverId.length + encoder.nonceLength.toNat) = .ok body := by
  rw [slice_eq_ok_iff, padPayload, ← sized]
  refine ⟨Nat.zero_le _, by rw [List.length_append]; omega, ?_⟩
  rw [List.drop_zero, List.take_left]

/-- Overwriting the payload range replaces the body and keeps the padding. -/
theorem copyInto_padPayload {body other : Bytes}
    (sized : body.length = encoder.serverId.length + encoder.nonceLength.toNat)
    (otherSized : other.length = encoder.serverId.length + encoder.nonceLength.toNat) :
    copyInto (encoder.padPayload body) 0
      (encoder.serverId.length + encoder.nonceLength.toNat) other =
        .ok (encoder.padPayload other) := by
  rw [copyInto_eq_ok_iff]
  refine ⟨Nat.zero_le _, by rw [padPayload, List.length_append]; omega, by simpa using otherSized, ?_⟩
  rw [List.take_zero, List.nil_append, padPayload, padPayload, List.drop_append, sized,
    Nat.sub_self, List.drop_zero, List.drop_eq_nil_of_le (Nat.le_of_eq sized), List.nil_append]

/-- One block: the sixteen payload bytes are encrypted where they stand. -/
theorem encryptPayload_singlePass (mode : encoder.encryption = .singlePass cipherKey)
    (whole : encoder.serverId.length + encoder.nonceLength.toNat = 16) :
    ∃ plain : Block, plain.val = encoder.serverId ++ nonce.val ∧
      encryptPayload aes encoder (encoder.plainPayload nonce) =
        .ok (encoder.padPayload (aes.encryptBlock cipherKey plain).val) := by
  have fields := plainFields_length nonce
  have sized : (encoder.serverId ++ nonce.val).length = 16 := fields.trans whole
  have cut := slice_padPayload fields
  have filled : copyInto (List.replicate 16 0) 0 16 (encoder.serverId ++ nonce.val) =
      .ok (encoder.serverId ++ nonce.val) := by
    rw [copyInto_eq_ok_iff]
    exact ⟨Nat.zero_le _, by simp, sized, by simp⟩
  have copied := copyInto_padPayload fields
    ((aes.encryptBlock cipherKey ⟨_, sized⟩).property.trans whole.symm)
  rw [whole] at cut copied
  refine ⟨⟨_, sized⟩, rfl, ?_⟩
  simp only [encryptPayload, mode, whole, plainPayload_eq_pad, cut, filled, Checked.ok_bind,
    toOctets_of_length sized]
  exact copied

/-- Four passes: the two fields go through the network and the padding stays. -/
theorem encryptPayload_fourPass (valid : encoder.Valid)
    (mode : encoder.encryption = .fourPass cipherKey) (short : encoder.nonceLength.toNat ≤ 16) :
    ∃ masked : Octets encoder.serverId.length × Octets encoder.nonceLength.toNat,
      encryptPayload aes encoder (encoder.plainPayload nonce) =
        .ok (encoder.padPayload (cidBuffer masked [])) ∧
      ∀ rest, decryptFourPass (aes.encryptBlock cipherKey) encoder.serverId.length
          encoder.nonceLength.toNat (cidBuffer masked rest) =
        .ok (encoder.serverId ++ nonce.val ++ rest) := by
  have sidShort : encoder.serverId.length ≤ 16 := by
    have bound := valid.serverId_le
    omega
  obtain ⟨masked, inverse⟩ := decryptFourPass_encryptFourPass (aes.encryptBlock cipherKey)
    sidShort short (⟨encoder.serverId, rfl⟩, nonce)
  refine ⟨masked, ?_, fun rest => (inverse rest).2⟩
  have fields := plainFields_length nonce
  have maskedLength : (cidBuffer masked []).length =
      encoder.serverId.length + encoder.nonceLength.toNat := by
    rw [cidBuffer_length, List.length_nil, Nat.add_zero]
  have encrypted : encryptFourPass (aes.encryptBlock cipherKey) encoder.serverId.length
      encoder.nonceLength.toNat (encoder.serverId ++ nonce.val) = .ok (cidBuffer masked []) := by
    have whole := (inverse []).1
    rwa [cidBuffer, List.append_nil] at whole
  simp only [encryptPayload, mode, plainPayload_eq_pad, slice_padPayload fields, encrypted,
    Checked.ok_bind]
  exact copyInto_padPayload fields maskedLength

/-- The cipher step of an encoder whose mode follows from its key gets through on
nonces that fit a block, and a matching router config decrypts its output to the
plaintext it started from. -/
theorem encryptPayload_decrypts (aes : Aes128) (valid : encoder.Valid)
    (mode : encoder.encryption =
      Encryption.derive key (encoder.serverId.length + encoder.nonceLength.toNat))
    (usable : key = none ∨ encoder.nonceLength.toNat ≤ 16) :
    ∃ body, body.length = encoder.serverId.length + encoder.nonceLength.toNat ∧
      encryptPayload aes encoder (encoder.plainPayload nonce) = .ok (encoder.padPayload body) ∧
      ∀ config, aes.Inverts → config.Admitted → encoder.Matches config →
        decryptPayload aes config (encoder.padPayload body) =
          .ok (encoder.plainPayload nonce) := by
  have fields := plainFields_length nonce
  cases key with
  | none =>
    have plain : encoder.encryption = .plaintext := mode
    refine ⟨_, fields, by simp [encryptPayload, plain, plainPayload_eq_pad], ?_⟩
    intro config inverts admitted agrees
    simp [decryptPayload, agrees.encryption, plain, plainPayload_eq_pad]
  | some secret =>
    by_cases whole : encoder.serverId.length + encoder.nonceLength.toNat = 16
    · have single : encoder.encryption = .singlePass secret := by
        simpa [Encryption.derive, whole] using mode
      obtain ⟨plain, plainEq, encrypted⟩ := encryptPayload_singlePass nonce single whole
      refine ⟨_, (aes.encryptBlock secret plain).property.trans whole.symm, encrypted, ?_⟩
      intro config inverts admitted agrees
      simp only [decryptPayload, agrees.encryption, single, padPayload]
      rw [decryptSinglePass_append, inverts, plainEq]
      rfl
    · have four : encoder.encryption = .fourPass secret := by
        simpa [Encryption.derive, whole] using mode
      have short : encoder.nonceLength.toNat ≤ 16 := by simpa using usable
      obtain ⟨masked, encrypted, decrypted⟩ := encryptPayload_fourPass nonce valid four short
      have maskedLength : (cidBuffer masked []).length =
          encoder.serverId.length + encoder.nonceLength.toNat := by
        rw [cidBuffer_length, List.length_nil, Nat.add_zero]
      refine ⟨_, maskedLength, encrypted, ?_⟩
      intro config inverts admitted agrees
      have nonceLen : config.cidPayloadLength.toNat - encoder.serverId.length =
          encoder.nonceLength.toNat := by
        rw [admitted.cidPayloadLength_toNat, agrees.serverIdLength, agrees.nonceLength]
        omega
      have shape : ∀ rest, cidBuffer masked [] ++ rest = cidBuffer masked rest := by
        intro rest
        simp [cidBuffer]
      simp only [decryptPayload, agrees.encryption, four, agrees.serverIdLength, nonceLen,
        padPayload, shape, decrypted]
      rfl

/-- An encode with room for the CID returns exactly when there is no key or the
nonce fits a cipher block. -/
theorem encodeInto_returns_iff (valid : encoder.Valid)
    (mode : encoder.encryption =
      Encryption.derive key (encoder.serverId.length + encoder.nonceLength.toNat))
    (low : UInt8) {buf : Bytes} (room : encoder.cidLength ≤ buf.length) :
    (encodeInto aes encoder nonce low buf).Returns ↔
      key = none ∨ encoder.nonceLength.toNat ≤ 16 := by
  rw [encodeInto_eq valid nonce low room]
  constructor
  · rintro ⟨result, returned⟩
    rw [Checked.bind_eq_ok_iff] at returned
    obtain ⟨payload, encrypted, -⟩ := returned
    cases key with
    | none => exact .inl rfl
    | some secret =>
      right
      by_cases whole : encoder.serverId.length + encoder.nonceLength.toNat = 16
      · omega
      · have four : encoder.encryption = .fourPass secret := by
          simpa [Encryption.derive, whole] using mode
        simp only [encryptPayload, four, Checked.bind_eq_ok_iff] at encrypted
        obtain ⟨part, cut, masked, passes, -⟩ := encrypted
        have sidShort : encoder.serverId.length ≤ 16 := by
          have bound := valid.serverId_le
          omega
        have partLength : encoder.serverId.length + encoder.nonceLength.toNat ≤ part.length := by
          obtain ⟨-, inside, rfl⟩ := slice_eq_ok_iff.mp cut
          simpa using inside
        exact (encryptFourPass_returns_iff _ sidShort partLength).mp ⟨masked, passes⟩
  · intro usable
    obtain ⟨body, sized, encrypted, -⟩ := encryptPayload_decrypts nonce aes valid mode usable
    rw [encrypted, Checked.ok_bind, slice_padPayload sized, Checked.ok_bind]
    exact Checked.returns_ok _

end Cipher

end QuicLbEncoder

end Pesigitg
