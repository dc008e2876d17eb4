import Pesigitg.Routing.FourPass
import Pesigitg.Routing.Route

/-!
# Connection ID extraction and decryption

The primitives that read a Connection ID out of a QUIC packet and resolve it to
a server of a config. `CarriesDcid` describes the two header forms independently
of the readers; `extractRawDcid_carries` connects them. `resolveServerIdx` runs
on attacker-chosen bytes, and `resolveServerIdx_returns_iff` is the exact
condition under which it gets through.
-/

namespace Pesigitg

open Base

/-- The first CID octet of a long or short header packet, whose top three bits
are the config id. -/
def firstCidOctet (quic : Bytes) : Checked (Option UInt8) :=
  if quic.isEmpty then pure none
  else do
    let first ← readByte quic 0
    if first &&& 0x80 ≠ 0 then
      if quic.length < 7 then pure none
      else do
        let dcidLen ← readByte quic 5
        if dcidLen = 0 then pure none
        else do
          let octet ← readByte quic 6
          pure (some octet)
    else if quic.length < 2 then pure none
    else do
      let octet ← readByte quic 1
      pure (some octet)

/-- The raw DCID bytes, without looking at the config id. -/
def extractRawDcid (quic : Bytes) (cidLength : UInt8) : Checked (Option Bytes) :=
  if quic.isEmpty then pure none
  else do
    let first ← readByte quic 0
    let dcid ←
      if first &&& 0x80 ≠ 0 then
        if quic.length < 6 then pure none
        else do
          let dcidLen ← readByte quic 5
          let stop := 6 + dcidLen.toNat
          if quic.length < stop then pure none
          else do
            let dcid ← slice quic 6 stop
            pure (some dcid)
      else
        let stop := 1 + cidLength.toNat
        if quic.length < stop then pure none
        else do
          let dcid ← slice quic 1 stop
          pure (some dcid)
    match dcid with
    | none => pure none
    | some dcid => if dcid.isEmpty then pure none else pure (some dcid)

/-- The Source CID of a long header packet. -/
def extractScid (quic : Bytes) : Checked (Option Bytes) :=
  if quic.isEmpty then pure none
  else do
    let first ← readByte quic 0
    if first &&& 0x80 = 0 then pure none
    else if quic.length < 6 then pure none
    else do
      let dcidLen ← readByte quic 5
      let scidLenOffset := 6 + dcidLen.toNat
      if quic.length < scidLenOffset + 1 then pure none
      else do
        let scidLen ← readByte quic scidLenOffset
        if scidLen.toNat = 0 then pure none
        else
          let scidStart := scidLenOffset + 1
          let scidEnd := scidStart + scidLen.toNat
          if quic.length < scidEnd then pure none
          else do
            let scid ← slice quic scidStart scidEnd
            pure (some scid)

/-- AES-128-ECB decryption of the first sixteen bytes in place. -/
def decryptSinglePass (decrypt : Block → Block) (buf : Bytes) : Checked Bytes := do
  let part ← slice buf 0 16
  let block ← toOctets 16 part
  copyInto buf 0 16 (decrypt block).val

/-- The in-place decryption step of `resolveServerIdx`. -/
def decryptPayload (aes : Aes128) (config : RouteConfig) (buf : Bytes) : Checked Bytes :=
  match config.encryption with
  | .plaintext => pure buf
  | .singlePass key => decryptSinglePass (aes.decryptBlock key) buf
  | .fourPass key =>
    decryptFourPass (aes.encryptBlock key) config.serverIdLength.toNat
      (config.cidPayloadLength.toNat - config.serverIdLength.toNat) buf

/-- Decrypt the CID payload and find the matching server. -/
def resolveServerIdx (aes : Aes128) (dcid : Bytes) (config : RouteConfig) :
    Checked (Option Nat) :=
  let payloadLen := config.cidPayloadLength.toNat
  let sidLen := config.serverIdLength.toNat
  if dcid.length < 1 + payloadLen then pure none
  else do
    let payload ← slice dcid 1 (1 + payloadLen)
    let buf ← copyInto (List.replicate 19 0) 0 payloadLen payload
    let buf ← decryptPayload aes config buf
    let id ← slice buf 0 sidLen
    pure (config.findServerIdx id)

/-- QUIC bytes whose destination CID is `cid`: a long header with any version and
any bytes after the CID, or a short header with any bytes after it. -/
inductive CarriesDcid (cid : Bytes) : Bytes → Prop where
  | long (first : UInt8) (version rest : Bytes) (form : first &&& 0x80 ≠ 0)
      (versionLength : version.length = 4) :
      CarriesDcid cid (first :: version ++ UInt8.ofNat cid.length :: cid ++ rest)
  | short (first : UInt8) (rest : Bytes) (form : first &&& 0x80 = 0) :
      CarriesDcid cid (first :: cid ++ rest)

/-- A packet that carries a CID is not empty. -/
theorem CarriesDcid.ne_nil {cid quic : Bytes} (carries : CarriesDcid cid quic) : quic ≠ [] := by
  cases carries with
  | long first version rest form versionLength => simp
  | short first rest form => simp

/-- A version field of four bytes, spelled out. -/
private theorem version_bytes {version : Bytes} (versionLength : version.length = 4) :
    ∃ a b c d, version = [a, b, c, d] := by
  obtain ⟨a, b, c, d, rfl⟩ := List.length_eq_four.mp versionLength
  exact ⟨a, b, c, d, rfl⟩

section Extraction

variable {cid quic : Bytes}

/-- The first octet of the CID is found in either header form. -/
theorem firstCidOctet_carries {octet : UInt8} {payload : Bytes} (small : payload.length < 255)
    (carries : CarriesDcid (octet :: payload) quic) : firstCidOctet quic = .ok (some octet) := by
  cases carries with
  | long first version rest form versionLength =>
    obtain ⟨a, b, c, d, rfl⟩ := version_bytes versionLength
    have nonzero : UInt8.ofNat (octet :: payload).length ≠ 0 := by
      intro zero
      have value := congrArg UInt8.toNat zero
      rw [UInt8.toNat_ofNat', List.length_cons] at value
      simp only [UInt8.toNat_zero] at value
      omega
    generalize tagEq : UInt8.ofNat (octet :: payload).length = tag at nonzero ⊢
    have long : ¬ (first :: [a, b, c, d] ++ tag :: octet :: payload ++ rest).length < 7 := by
      simp
    simp only [firstCidOctet, long, if_false]
    simp [readByte, form, nonzero]
  | short first rest form => simp [firstCidOctet, readByte, form]

/-- A long header says how long its DCID is, whatever length the config expects. -/
theorem extractRawDcid_long {first : UInt8} {version rest : Bytes} (cidLength : UInt8)
    (form : first &&& 0x80 ≠ 0) (versionLength : version.length = 4) (small : cid.length < 256)
    (nonempty : cid ≠ []) :
    extractRawDcid (first :: version ++ UInt8.ofNat cid.length :: cid ++ rest) cidLength =
      .ok (some cid) := by
  have byteLength : (UInt8.ofNat cid.length).toNat = cid.length := by
    rw [UInt8.toNat_ofNat', Nat.mod_eq_of_lt small]
  obtain ⟨a, b, c, d, rfl⟩ := version_bytes versionLength
  have part : slice (first :: [a, b, c, d] ++ UInt8.ofNat cid.length :: cid ++ rest) 6
      (6 + cid.length) = .ok cid := by
    rw [slice_eq_ok_iff]
    refine ⟨Nat.le_add_right _ _, by simp; omega, ?_⟩
    rw [Nat.add_comm]
    simp
  have enough : ¬ (first :: [a, b, c, d] ++ UInt8.ofNat cid.length :: cid ++ rest).length <
      6 + cid.length := by
    simp
    omega
  have tag : readByte (first :: [a, b, c, d] ++ UInt8.ofNat cid.length :: cid ++ rest) 5 =
      .ok (UInt8.ofNat cid.length) := by simp [readByte]
  have head : readByte (first :: [a, b, c, d] ++ UInt8.ofNat cid.length :: cid ++ rest) 0 =
      .ok first := by simp [readByte]
  have long : ¬ (first :: [a, b, c, d] ++ UInt8.ofNat cid.length :: cid ++ rest).length < 6 := by
    simp
  simp only [extractRawDcid, head, tag, Checked.ok_bind, byteLength, part, long, enough, form,
    if_true, if_false, ne_eq, not_false_iff, Checked.pure_eq_ok]
  simp [nonempty]

/-- So is the whole CID, given its length. -/
theorem extractRawDcid_carries {cidLength : UInt8} (sized : cid.length = cidLength.toNat)
    (nonempty : cid ≠ []) (carries : CarriesDcid cid quic) :
    extractRawDcid quic cidLength = .ok (some cid) := by
  cases carries with
  | long first version rest form versionLength =>
    have small : cid.length < 256 := by
      rw [sized]
      exact cidLength.toNat_lt
    exact extractRawDcid_long cidLength form versionLength small nonempty
  | short first rest form =>
    have part : slice (first :: cid ++ rest) 1 (1 + cidLength.toNat) = .ok cid := by
      rw [slice_eq_ok_iff, ← sized]
      refine ⟨Nat.le_add_right _ _, by simp; omega, ?_⟩
      rw [Nat.add_comm]
      simp
    have enough : ¬ (first :: cid ++ rest).length < 1 + cidLength.toNat := by
      rw [← sized]
      simp
      omega
    have head : readByte (first :: cid ++ rest) 0 = .ok first := by simp [readByte]
    simp only [extractRawDcid, head, Checked.ok_bind, part, enough, form, if_false, ne_eq,
      not_true, Checked.pure_eq_ok]
    simp [nonempty]

/-- The bounded slice at the end of both header forms. -/
private theorem returns_dcid {start stop : Nat} (quic : Bytes) (ordered : start ≤ stop) :
    (do
      let dcid ← if quic.length < stop then pure none
        else do
          let dcid ← slice quic start stop
          pure (some dcid)
      match dcid with
      | none => pure none
      | some dcid => if dcid.isEmpty then pure none else pure (some dcid) :
        Checked (Option Bytes)).Returns := by
  by_cases cut : quic.length < stop
  · simp [cut]
  · rw [if_neg cut, slice_of_le ordered (Nat.not_lt.mp cut)]
    generalize (quic.take stop).drop start = part
    cases part with
    | nil => exact Checked.returns_ok _
    | cons head tail => exact Checked.returns_ok _

/-- Reading the raw DCID never leaves the packet. -/
theorem extractRawDcid_returns (quic : Bytes) (cidLength : UInt8) :
    (extractRawDcid quic cidLength).Returns := by
  cases quic with
  | nil => exact Checked.returns_ok _
  | cons head tail =>
    have first : readByte (head :: tail) 0 = .ok head := by simp [readByte]
    simp only [extractRawDcid, first, Checked.ok_bind, List.isEmpty_cons, Bool.false_eq_true,
      if_false]
    by_cases long : head &&& 0x80 ≠ 0
    · simp only [long, if_true, ne_eq, not_false_iff]
      by_cases short : (head :: tail).length < 6
      · simp only [short, if_true, Checked.pure_eq_ok, Checked.ok_bind]
        exact Checked.returns_ok _
      · have tag : readByte (head :: tail) 5 = .ok (byteAt (head :: tail) 5) :=
          readByte_of_lt (by omega)
        simp only [short, if_false, tag, Checked.ok_bind]
        exact returns_dcid _ (by omega)
    · simp only [long, if_false]
      exact returns_dcid _ (by omega)

end Extraction

section Resolution

variable {aes : Aes128} {config : RouteConfig}

/-- The zero-padded buffer the decryptor works on. -/
theorem copy_payload {payload : Bytes} (short : payload.length ≤ 19) :
    copyInto (List.replicate 19 0) 0 payload.length payload =
      .ok (payload ++ List.replicate (19 - payload.length) 0) := by
  rw [copyInto_eq_ok_iff]
  refine ⟨Nat.zero_le _, by simpa using short, by simp, ?_⟩
  rw [List.drop_replicate, List.take_zero, List.nil_append]

/-- The first block is decrypted in place and the rest of the buffer stays. -/
theorem decryptSinglePass_append (decrypt : Block → Block) (block : Block) (rest : Bytes) :
    decryptSinglePass decrypt (block.val ++ rest) = .ok ((decrypt block).val ++ rest) := by
  have enough : 16 ≤ (block.val ++ rest).length := by
    rw [List.length_append, block.property]
    omega
  have part : slice (block.val ++ rest) 0 16 = .ok block.val := by
    rw [slice_eq_ok_iff]
    refine ⟨Nat.zero_le _, enough, ?_⟩
    rw [List.drop_zero, List.take_append_of_le_length (Nat.le_of_eq block.property.symm),
      List.take_of_length_le (Nat.le_of_eq block.property)]
  rw [decryptSinglePass, part, Checked.ok_bind, toOctets_of_length block.property,
    Checked.ok_bind, copyInto_eq_ok_iff]
  refine ⟨Nat.zero_le _, enough, (decrypt block).property, ?_⟩
  rw [List.take_zero, List.nil_append, List.drop_append, block.property,
    List.drop_eq_nil_of_le (Nat.le_of_eq block.property), List.nil_append, Nat.sub_self,
    List.drop_zero]

/-- Decrypting in place needs 16 bytes and keeps the length. -/
theorem decryptSinglePass_returns (decrypt : Block → Block) {buf : Bytes}
    (long : 16 ≤ buf.length) :
    ∃ result, decryptSinglePass decrypt buf = .ok result ∧ result.length = buf.length := by
  have sized : (buf.take 16).length = 16 := by simp [long]
  have decrypted := decryptSinglePass_append decrypt ⟨buf.take 16, sized⟩ (buf.drop 16)
  rw [List.take_append_drop] at decrypted
  refine ⟨_, decrypted, ?_⟩
  rw [List.length_append, (decrypt _).property, List.length_drop]
  omega

/-- A DCID long enough for the config is padded, decrypted and looked up. -/
theorem resolveServerIdx_of_long (admitted : config.Admitted) {octet : UInt8}
    {payload extra : Bytes} (sized : payload.length = config.cidPayloadLength.toNat) :
    resolveServerIdx aes (octet :: payload ++ extra) config =
      (do
        let buf ← decryptPayload aes config
          (payload ++ List.replicate (19 - payload.length) 0)
        let id ← slice buf 0 config.serverIdLength.toNat
        pure (config.findServerIdx id)) := by
  have short : payload.length ≤ 19 := by
    rw [sized, admitted.cidPayloadLength_toNat]
    exact admitted.sum_le
  have enough : ¬ (octet :: payload ++ extra).length < 1 + payload.length := by
    simp
    omega
  have part : slice (octet :: payload ++ extra) 1 (1 + payload.length) = .ok payload := by
    rw [slice_eq_ok_iff]
    refine ⟨Nat.le_add_right _ _, by simp; omega, ?_⟩
    rw [Nat.add_comm]
    simp
  simp only [resolveServerIdx, ← sized, enough, if_false, part, Checked.ok_bind,
    copy_payload short]

/-- Decryption of an admitted config's buffer gets through exactly when the
cipher mode has no four-pass nonce longer than a block. -/
theorem decryptPayload_returns_iff (aes : Aes128) (admitted : config.Admitted) {buf : Bytes}
    (sized : buf.length = 19) :
    (∃ result, decryptPayload aes config buf = .ok result ∧
        config.serverIdLength.toNat ≤ result.length) ↔
      config.encryption = .plaintext ∨ config.nonceLength.toNat ≤ 16 := by
  have sidShort : config.serverIdLength.toNat ≤ 16 := by
    have bound := admitted.serverIdLength_le
    omega
  have nonceLen : config.cidPayloadLength.toNat - config.serverIdLength.toNat =
      config.nonceLength.toNat := by
    rw [admitted.cidPayloadLength_toNat]
    omega
  obtain ⟨key, mode⟩ := admitted.encryption_eq
  cases key with
  | none =>
    have plain : config.encryption = .plaintext := mode
    simp only [decryptPayload, plain, true_or, iff_true]
    exact ⟨buf, rfl, by omega⟩
  | some key =>
    by_cases block : config.serverIdLength.toNat + config.nonceLength.toNat = 16
    · have single : config.encryption = .singlePass key := by
        simpa [Encryption.derive, block] using mode
      have whole : 16 ≤ buf.length := by omega
      obtain ⟨result, decrypted, length⟩ :=
        decryptSinglePass_returns (aes.decryptBlock key) whole
      have nonceShort : config.nonceLength.toNat ≤ 16 := by omega
      simp only [decryptPayload, single, nonceShort, or_true, iff_true]
      exact ⟨result, decrypted, by omega⟩
    · have four : config.encryption = .fourPass key := by
        simpa [Encryption.derive, block] using mode
      have fields : config.serverIdLength.toNat + config.nonceLength.toNat ≤ buf.length := by
        have bound := admitted.sum_le
        omega
      have returnsIff := decryptFourPass_returns_iff (aes.encryptBlock key) sidShort fields
      simp only [decryptPayload, four, nonceLen, reduceCtorEq, false_or]
      rw [← returnsIff]
      constructor
      · rintro ⟨result, decrypted, -⟩
        exact ⟨result, decrypted⟩
      · intro returns
        have nonceShort := returnsIff.mp returns
        obtain ⟨state, rest, rfl⟩ := exists_cidBuffer fields
        rw [decryptFourPass_eq sidShort nonceShort]
        refine ⟨_, rfl, ?_⟩
        rw [cidBuffer_length]
        omega

/-- `resolveServerIdx` on an admitted config panics exactly when it reaches the
four-pass cipher with a nonce of 17 or 18 bytes. -/
theorem resolveServerIdx_returns_iff (admitted : config.Admitted) (dcid : Bytes) :
    (resolveServerIdx aes dcid config).Returns ↔
      config.encryption = .plaintext ∨ config.nonceLength.toNat ≤ 16 ∨
        dcid.length < config.cidLength.toNat := by
  have cidLen : config.cidLength.toNat = 1 + config.cidPayloadLength.toNat := by
    rw [admitted.cidLength_toNat, admitted.cidPayloadLength_toNat]
    omega
  by_cases short : dcid.length < config.cidLength.toNat
  · have early : dcid.length < 1 + config.cidPayloadLength.toNat := by omega
    simp [resolveServerIdx, early, short]
  · -- Split the DCID into its first octet, the payload and whatever follows.
    obtain ⟨octet, body, rfl⟩ : ∃ octet body, dcid = octet :: body := by
      cases dcid with
      | nil => simp at short; omega
      | cons octet body => exact ⟨octet, body, rfl⟩
    have enough : config.cidPayloadLength.toNat ≤ body.length := by
      simp at short
      omega
    have shape : octet :: body = octet :: body.take config.cidPayloadLength.toNat ++
        body.drop config.cidPayloadLength.toNat := by simp
    have sized : (body.take config.cidPayloadLength.toNat).length =
        config.cidPayloadLength.toNat := by simp [enough]
    have total : (body.take config.cidPayloadLength.toNat ++ List.replicate
        (19 - (body.take config.cidPayloadLength.toNat).length) (0 : UInt8)).length = 19 := by
      have bound := admitted.sum_le
      have payload := admitted.cidPayloadLength_toNat
      simp
      omega
    simp only [short, or_false]
    rw [← decryptPayload_returns_iff aes admitted total]
    rw [shape, resolveServerIdx_of_long admitted sized]
    constructor
    · rintro ⟨result, resolved⟩
      simp only [Checked.bind_eq_ok_iff] at resolved
      obtain ⟨buf, decrypted, id, cut, -⟩ := resolved
      exact ⟨buf, decrypted, (slice_eq_ok_iff.mp cut).2.1⟩
    · rintro ⟨buf, decrypted, long⟩
      rw [decrypted, Checked.ok_bind, slice_of_le (Nat.zero_le _) long, Checked.ok_bind]
      exact Checked.returns_ok _

/-- A refreshed config resolves CIDs to the same positions. -/
theorem RouteConfig.Refreshes.resolveServerIdx_eq {live loaded : RouteConfig}
    (refreshed : live.Refreshes loaded) (aes : Aes128) (dcid : Bytes) :
    resolveServerIdx aes dcid live = resolveServerIdx aes dcid loaded := by
  have found := refreshed.findServerIdx_eq
  have settings := refreshed.settings
  generalize live.servers = servers at settings
  subst settings
  simp only [resolveServerIdx, found]
  rfl

end Resolution

end Pesigitg
