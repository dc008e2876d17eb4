import Pesigitg.QuicLb.Encoder

/-!
# Encoder and router together

The backend's encoder and the router's decryptor are built from the same lengths
and key. `resolveServerIdx_encodeInto` is the round trip: a CID that was encoded
for a server resolves to the first server with that id. Both sides copy the
nonce into one cipher block in four-pass mode, which bounds the parameters they
can be used with below the range they admit: `admitted_parameters_return_iff`.
-/

namespace Pesigitg

open Base

/-- A block cipher that exchanges one plaintext with its ciphertext under every
key: it inverts, and it agrees with any cipher on the one pair given. -/
def Aes128.exchanging (plain cipher : Block) : Aes128 where
  encryptBlock _ block := if block = plain then cipher else if block = cipher then plain else block
  decryptBlock _ block := if block = plain then cipher else if block = cipher then plain else block

/-- A cipher that exchanges two blocks is its own inverse. -/
theorem Aes128.exchanging_inverts (plain cipher : Block) :
    (Aes128.exchanging plain cipher).Inverts := by
  intro key block
  simp only [Aes128.exchanging]
  by_cases isPlain : block = plain
  · subst isPlain
    by_cases fixed : cipher = block <;> simp [fixed]
  · by_cases isCipher : block = cipher
    · subst isCipher
      simp [isPlain]
    · simp [isPlain, isCipher]

/-- A key is absent after validation exactly when the entry has none. -/
theorem RouteConfig.validateKey_none_iff {raw : RawConfig} {key : Option Key}
    (parsed : RouteConfig.validateKey raw = .ok (.ok key)) : key = none ↔ raw.key = none := by
  unfold RouteConfig.validateKey at parsed
  cases present : raw.key with
  | none =>
    rw [present] at parsed
    simp only [Checked.pure_eq_ok, Except.ok.injEq] at parsed
    simp [← parsed]
  | some text =>
    rw [present] at parsed
    simp only [Checked.bind_eq_ok_iff] at parsed
    obtain ⟨decoded, -, parsed⟩ := parsed
    cases decoded with
    | error failure => simp at parsed
    | ok secret =>
      simp only [Checked.pure_eq_ok, Except.ok.injEq] at parsed
      simp [← parsed]

/-- Without a key there is no encryption, and only then. -/
theorem Encryption.derive_plaintext_iff {key : Option Key} {sum : Nat} :
    Encryption.derive key sum = .plaintext ↔ key = none := by
  cases key with
  | none => simp [Encryption.derive]
  | some secret =>
    by_cases whole : sum = 16 <;> simp [Encryption.derive, whole]

/-- Every returned CID resolves to the first server carrying the encoded id. -/
theorem resolveServerIdx_encodeInto {aes : Aes128} {encoder : QuicLbEncoder}
    {config : RouteConfig} {key : Option Key} {low : UInt8} {buf written : Bytes} {count : Nat}
    {nonce : Octets encoder.nonceLength.toNat} (inverts : aes.Inverts) (valid : encoder.Valid)
    (mode : encoder.encryption =
      Encryption.derive key (encoder.serverId.length + encoder.nonceLength.toNat))
    (admitted : config.Admitted) (agrees : encoder.Matches config)
    (encoded : encoder.encodeInto aes nonce low buf = .ok (count, written)) :
    count = encoder.cidLength ∧
      ∃ body, written.take count = encoder.firstOctet low :: body ∧
        body.length = config.cidPayloadLength.toNat ∧
        ∀ extra, resolveServerIdx aes (encoder.firstOctet low :: body ++ extra) config =
          .ok (config.findServerIdx encoder.serverId) := by
  have room : encoder.cidLength ≤ buf.length := by
    simp only [QuicLbEncoder.encodeInto, Checked.bind_eq_ok_iff] at encoded
    obtain ⟨⟨⟩, asserted, -⟩ := encoded
    exact Checked.assert_eq_ok_iff.mp asserted
  have usable := (QuicLbEncoder.encodeInto_returns_iff nonce valid mode low room).mp ⟨_, encoded⟩
  obtain ⟨body, sized, encrypted, decrypts⟩ :=
    QuicLbEncoder.encryptPayload_decrypts nonce aes valid mode usable
  rw [QuicLbEncoder.encodeInto_eq valid nonce low room, encrypted, Checked.ok_bind,
    QuicLbEncoder.slice_padPayload sized, Checked.ok_bind, Checked.pure_eq_ok] at encoded
  simp only [Except.ok.injEq, Prod.mk.injEq] at encoded
  obtain ⟨rfl, rfl⟩ := encoded
  have payloadSized : body.length = config.cidPayloadLength.toNat := by
    rw [sized, admitted.cidPayloadLength_toNat, agrees.serverIdLength, agrees.nonceLength]
  refine ⟨rfl, body, ?_, payloadSized, ?_⟩
  · have cidSized : (encoder.firstOctet low :: body).length = encoder.cidLength := by
      rw [List.length_cons, sized, QuicLbEncoder.cidLength]
      omega
    rw [← cidSized, List.take_left]
  · intro extra
    rw [resolveServerIdx_of_long admitted payloadSized, sized]
    have plain := decrypts config inverts admitted agrees
    rw [QuicLbEncoder.padPayload] at plain
    have identity : slice (encoder.plainPayload nonce) 0 config.serverIdLength.toNat =
        .ok encoder.serverId := by
      rw [slice_eq_ok_iff, agrees.serverIdLength, QuicLbEncoder.plainPayload_length valid]
      have bound := valid.serverId_le
      refine ⟨Nat.zero_le _, by omega, ?_⟩
      rw [List.drop_zero, QuicLbEncoder.plainPayload, List.append_assoc, List.take_left]
    rw [plain, Checked.ok_bind, identity, Checked.ok_bind, Checked.pure_eq_ok]

/-- When the parameters both sides admit can be used. The router panics exactly on
a long enough DCID under a key and a nonce longer than a cipher block, the encoder
exactly under a key and such a nonce. -/
theorem admitted_parameters_return_iff (aes : Aes128) :
    (∀ raw config dcid, RouteConfig.validate raw = .ok (.ok config) →
      ((resolveServerIdx aes dcid config).Returns ↔
        raw.key = none ∨ raw.nonceLength.toNat ≤ 16 ∨
          dcid.length < 1 + raw.serverIdLength.toNat + raw.nonceLength.toNat)) ∧
    (∀ configId serverId nonceLength key encodeCidLength encoder,
      QuicLbEncoder.new configId serverId nonceLength
        (Encryption.derive key (serverId.length + nonceLength.toNat)) encodeCidLength =
          .ok encoder →
      ∀ (nonce : Octets encoder.nonceLength.toNat) (low : UInt8) (buf : Bytes),
        encoder.cidLength ≤ buf.length →
          ((encoder.encodeInto aes nonce low buf).Returns ↔
            key = none ∨ nonceLength.toNat ≤ 16)) := by
  constructor
  · intro raw config dcid accepted
    have admitted := RouteConfig.validate_admits accepted
    rw [resolveServerIdx_returns_iff admitted, admitted.cidLength_toNat]
    obtain ⟨-, -, -, -, key, servers, keyOk, -, rfl⟩ := RouteConfig.validate_ok accepted
    rw [Encryption.derive_plaintext_iff, RouteConfig.validateKey_none_iff keyOk]
  · intro configId serverId nonceLength key encodeCidLength encoder built nonce low buf room
    obtain ⟨rfl, valid⟩ := QuicLbEncoder.new_ok built
    exact QuicLbEncoder.encodeInto_returns_iff nonce valid rfl low room

/-- An entry at the edge of the admitted lengths: one id byte and the longest nonce. -/
def longNonceEntry : RawConfig where
  configId := 0
  firstOctetEncodesCidLength := true
  serverIdLength := 1
  nonceLength := 18
  key := some "000102030405060708090a0b0c0d0e0f"
  servers := []
  maxKeyAgeSecs := none

/-- The key of `longNonceEntry`. -/
def longNonceKey : Key := ⟨[0, 1, 2, 3, 4, 5, 6, 7, 8, 9, 10, 11, 12, 13, 14, 15], rfl⟩

/-- The one block the router encrypts on an all-zero DCID before it panics (a zero
server id marked with pass 3), and its AES-128 ciphertext under `longNonceKey`. -/
def longNonceCipher : Aes128 :=
  Aes128.exchanging ⟨[3, 0, 0, 0, 0, 0, 0, 0, 0, 0, 0, 0, 0, 0, 0, 0], rfl⟩
    ⟨[0x8c, 0xb8, 0x99, 0x14, 0x8f, 0x1f, 0xa8, 0xff, 0x91, 0x32, 0xd0, 0xeb, 0x15, 0xa9, 0x36,
      0xf2], rfl⟩

/-- What `longNonceEntry` is accepted as. -/
def longNonceConfig : RouteConfig where
  configId := 0
  firstOctetEncodesCidLength := true
  serverIdLength := 1
  nonceLength := 18
  encryption := .fourPass longNonceKey
  servers := []
  maxKeyAgeSecs := none

/-- An encoder `new` accepts with the same lengths and key. -/
def longNonceEncoder : QuicLbEncoder := ⟨0, [0], 18, .fourPass longNonceKey, true⟩

/-- A nonce of 18 bytes is accepted with a key, and then neither side can use it. -/
theorem long_nonce_panics :
    RouteConfig.validate longNonceEntry = .ok (.ok longNonceConfig) ∧
      resolveServerIdx longNonceCipher (List.replicate 20 0) longNonceConfig = .error .index ∧
      QuicLbEncoder.new 0 [0] 18 (Encryption.derive (some longNonceKey) (1 + 18)) true =
        .ok longNonceEncoder ∧
      longNonceEncoder.encodeInto longNonceCipher ⟨List.replicate 18 0, rfl⟩ 0
        (List.replicate 20 0) = .error .slice := by
  refine ⟨by decide +kernel, by decide +kernel, by decide +kernel, by decide +kernel⟩

/-- The edge entry and encoder against the exact condition. -/
theorem long_nonce_return_iff :
    ((resolveServerIdx longNonceCipher (List.replicate 20 0) longNonceConfig).Returns ↔
      longNonceEntry.key = none ∨ longNonceEntry.nonceLength.toNat ≤ 16 ∨
        (List.replicate 20 (0 : UInt8)).length <
          1 + longNonceEntry.serverIdLength.toNat + longNonceEntry.nonceLength.toNat) ∧
    ((longNonceEncoder.encodeInto longNonceCipher ⟨List.replicate 18 0, rfl⟩ 0
        (List.replicate 20 0)).Returns ↔
      some longNonceKey = none ∨ (18 : UInt8).toNat ≤ 16) :=
  ⟨(admitted_parameters_return_iff longNonceCipher).1 longNonceEntry longNonceConfig
      (List.replicate 20 0) (by decide +kernel),
    (admitted_parameters_return_iff longNonceCipher).2 0 [0] 18 (some longNonceKey) true
      longNonceEncoder (by decide +kernel) ⟨List.replicate 18 0, rfl⟩ 0 (List.replicate 20 0)
      (by decide)⟩

end Pesigitg
