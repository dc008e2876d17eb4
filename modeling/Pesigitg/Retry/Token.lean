import Pesigitg.Retry.Config

/-!
# Retry tokens

A token is a timestamp and a truncated HMAC over the client's address, the timestamp and the
original destination connection ID. `verify_mint` is the round trip: a minted token verifies
for the same address and connection ID until its lifetime is over.
-/

namespace Pesigitg

open Base

/-- The two third-party primitives of the Retry service: HMAC-SHA256 under a token key, and
the tag of AES-128-GCM over associated data with an empty plaintext. -/
structure RetryCrypto where
  hmacSha256 : TokenKey → Bytes → Octets 32
  aes128GcmTag : Octets 16 → Octets 12 → Bytes → Octets 16

/-- Size of the timestamp at the start of a token. -/
@[simp, reducible] def tsLen : Nat := 8

/-- Size of the truncated tag. -/
@[simp, reducible] def macLen : Nat := 16

/-- Total token length on the wire. -/
@[simp, reducible] def tokenLen : Nat := tsLen + macLen

/-- Longest original connection ID that is signed. -/
@[simp, reducible] def maxOdcid : Nat := 20

inductive MintError where
  | odcidTooLong
deriving DecidableEq, Repr

/-- Reasons a token may be rejected. -/
inductive VerifyError where
  | invalid
  | expired
deriving DecidableEq, Repr

namespace Token

/-- The bytes that mint and verify feed into the HMAC. -/
def feed (client : IpAddr) (ts : Bytes) (odcid : Bytes) : Bytes :=
  let address :=
    match client with
    | .v4 octets => 4 :: octets.val
    | .v6 octets => 6 :: octets.val
  address ++ ts ++ [UInt8.ofNat odcid.length] ++ odcid

/-- Mint a token that binds the client and the connection ID to a time. -/
def mint (crypto : RetryCrypto) (key : TokenKey) (client : IpAddr) (odcid : Bytes)
    (nowMs : UInt64) : Except MintError Bytes :=
  if maxOdcid < odcid.length then .error .odcidTooLong
  else
    let ts := toBe tsLen nowMs.toNat
    .ok (ts ++ (crypto.hmacSha256 key (feed client ts odcid)).val.take macLen)

/-- `verify_truncated_left`: a non-empty prefix of the full tag. -/
def verifyTruncatedLeft (full : Octets 32) (tag : Bytes) : Bool :=
  !tag.isEmpty && tag.length ≤ 32 && full.val.take tag.length == tag

/-- Verify a token against the address and connection ID it must be bound to. -/
def verify (crypto : RetryCrypto) (key : TokenKey) (token : Bytes) (client : IpAddr)
    (odcid : Bytes) (nowMs lifetimeMs : UInt64) : Except VerifyError Unit :=
  if token.length ≠ tokenLen ∨ maxOdcid < odcid.length then .error .invalid
  else
    let tsBytes := token.take tsLen
    let tsMs := beU64 tsBytes
    if ¬ verifyTruncatedLeft (crypto.hmacSha256 key (feed client tsBytes odcid))
        (token.drop tsLen) then .error .invalid
    -- A token from the future is not one this service minted.
    else if nowMs < tsMs then .error .invalid
    else if lifetimeMs < nowMs - tsMs then .error .expired
    else .ok ()

variable {crypto : RetryCrypto} {key : TokenKey} {client : IpAddr} {odcid token : Bytes}
  {nowMs : UInt64}

/-- A token is the time and a tag over the client, the time and the DCID. -/
theorem mint_ok (minted : mint crypto key client odcid nowMs = .ok token) :
    odcid.length ≤ 20 ∧ token = toBe 8 nowMs.toNat ++
      (crypto.hmacSha256 key (feed client (toBe 8 nowMs.toNat) odcid)).val.take 16 := by
  unfold mint at minted
  split at minted
  · cases minted
  · next short =>
    simp only [Except.ok.injEq] at minted
    exact ⟨Nat.not_lt.mp short, minted.symm⟩

/-- A token has 24 bytes. -/
theorem mint_length (minted : mint crypto key client odcid nowMs = .ok token) :
    token.length = 24 := by
  obtain ⟨-, rfl⟩ := mint_ok minted
  simp [(crypto.hmacSha256 key (feed client (toBe 8 nowMs.toNat) odcid)).property]

/-- The tag of a token: the leading bytes of the HMAC of its message. -/
def truncatedTag (crypto : RetryCrypto) (key : TokenKey) (message : Bytes) : Bytes :=
  (crypto.hmacSha256 key message).val.take macLen

/-- A tag has 16 bytes. -/
theorem truncatedTag_length (message : Bytes) :
    (truncatedTag crypto key message).length = 16 := by
  simp [truncatedTag, (crypto.hmacSha256 key message).property]

/-- A tag of 16 bytes is verified by comparing it. -/
theorem verifyTruncatedLeft_iff {message tag : Bytes} (sized : tag.length = 16) :
    verifyTruncatedLeft (crypto.hmacSha256 key message) tag = true ↔
      truncatedTag crypto key message = tag := by
  have nonempty : tag ≠ [] := by
    rintro rfl
    cases sized
  simp [verifyTruncatedLeft, truncatedTag, sized, nonempty]

/-- What verification decides for a token cut into its timestamp and its tag. -/
theorem verify_cut {ts tag : Bytes} {nowMs lifetimeMs : UInt64} (tsSized : ts.length = 8)
    (tagSized : tag.length = 16) (short : odcid.length ≤ 20) :
    verify crypto key (ts ++ tag) client odcid nowMs lifetimeMs =
      if truncatedTag crypto key (feed client ts odcid) ≠ tag then .error .invalid
      else if nowMs < beU64 ts then .error .invalid
      else if lifetimeMs < nowMs - beU64 ts then .error .expired
      else .ok () := by
  have accepted : ¬ ((ts ++ tag).length ≠ tokenLen ∨ maxOdcid < odcid.length) := by
    simp only [List.length_append, tokenLen, tsLen, macLen, maxOdcid]
    omega
  unfold verify
  rw [if_neg accepted]
  simp only [tsLen, List.take_left' tsSized, List.drop_left' tsSized,
    verifyTruncatedLeft_iff tagSized, ne_eq]

/-- A minted token verifies from its minting on until its lifetime is over. -/
theorem verify_mint (minted : mint crypto key client odcid nowMs = .ok token)
    {laterMs lifetimeMs : UInt64} (notBefore : nowMs.toNat ≤ laterMs.toNat)
    (fresh : laterMs.toNat ≤ nowMs.toNat + lifetimeMs.toNat) :
    verify crypto key token client odcid laterMs lifetimeMs = .ok () := by
  obtain ⟨short, rfl⟩ := mint_ok minted
  have inTime : ¬ laterMs < nowMs := by
    rw [UInt64.lt_iff_toNat_lt]
    omega
  have inLife : ¬ lifetimeMs < laterMs - nowMs := by
    rw [UInt64.lt_iff_toNat_lt, UInt64.toNat_sub_of_le _ _ (UInt64.le_iff_toNat_le.mpr notBefore)]
    omega
  rw [← truncatedTag, verify_cut (toBe_length 8 _) (truncatedTag_length _) short, beU64_toBe]
  simp only [ne_eq, not_true_eq_false, if_false, inTime, inLife]

/-- The message determines what was fed into it: the family byte fixes the width of the
address, the timestamp has a fixed width, and the connection ID is the rest. -/
theorem feed_injective {client client' : IpAddr} {ts ts' odcid odcid' : Bytes}
    (sized : ts.length = ts'.length) (equal : feed client ts odcid = feed client' ts' odcid') :
    client = client' ∧ ts = ts' ∧ odcid = odcid' := by
  -- With addresses of one width the message is cut at the same places on both sides.
  have cut {address address' : Bytes} (width : address.length = address'.length)
      (equal : address ++ ts ++ [UInt8.ofNat odcid.length] ++ odcid =
        address' ++ ts' ++ [UInt8.ofNat odcid'.length] ++ odcid') :
      address = address' ∧ ts = ts' ∧ odcid = odcid' := by
    have heads : (address ++ ts ++ [UInt8.ofNat odcid.length]).length =
        (address' ++ ts' ++ [UInt8.ofNat odcid'.length]).length := by
      simp [width, sized]
    obtain ⟨head, rest⟩ := List.append_inj equal heads
    obtain ⟨front, -⟩ := List.append_inj head (by simp [width, sized])
    obtain ⟨addresses, stamps⟩ := List.append_inj front width
    exact ⟨addresses, stamps, rest⟩
  cases client with
  | v4 octets =>
    cases client' with
    | v4 octets' =>
      obtain ⟨addresses, rest⟩ := cut (by simp [octets.property, octets'.property]) equal
      exact ⟨congrArg IpAddr.v4 (Subtype.ext (List.cons.inj addresses).2), rest⟩
    | v6 octets' =>
      simp [feed] at equal
  | v6 octets =>
    cases client' with
    | v4 octets' =>
      simp [feed] at equal
    | v6 octets' =>
      obtain ⟨addresses, rest⟩ := cut (by simp [octets.property, octets'.property]) equal
      exact ⟨congrArg IpAddr.v6 (Subtype.ext (List.cons.inj addresses).2), rest⟩

/-- A token accepted for a client and a connection ID is the one this service mints for them
at the time it carries. -/
theorem mint_of_verify {nowMs lifetimeMs : UInt64} (sized : token.length = 24)
    (verified : verify crypto key token client odcid nowMs lifetimeMs = .ok ()) :
    mint crypto key client odcid (beU64 (token.take 8)) = .ok token := by
  have tsSized : (token.take 8).length = 8 := by simp [sized]
  have tagSized : (token.drop 8).length = 16 := by simp [sized]
  have short : odcid.length ≤ 20 := by
    by_contra long
    have rejected : token.length ≠ tokenLen ∨ maxOdcid < odcid.length := .inr (by simpa using long)
    rw [verify, if_pos rejected] at verified
    cases verified
  have tag : truncatedTag crypto key (feed client (token.take 8) odcid) = token.drop 8 := by
    by_contra other
    rw [← List.take_append_drop 8 token, verify_cut tsSized tagSized short] at verified
    rw [if_pos other] at verified
    cases verified
  rw [mint, if_neg (by simpa using short)]
  simp only [tsLen, toBe_beU64 tsSized]
  rw [← truncatedTag, tag, List.take_append_drop]

section Exact

/- The truncated tag cannot be injective on all messages: there are more of them than tags.
What verification needs is that the two messages it compares do not collide. -/

variable {client' : IpAddr} {odcid' : Bytes} {mintedMs lifetimeMs : UInt64}

/-- The two messages compared when a token minted for one client and connection ID is
presented by another do not share a tag unless they are the same message. -/
def NoCollision (crypto : RetryCrypto) (key : TokenKey) (mintedMs : UInt64)
    (client : IpAddr) (odcid : Bytes) (client' : IpAddr) (odcid' : Bytes) : Prop :=
  let message := feed client (toBe 8 mintedMs.toNat) odcid
  let message' := feed client' (toBe 8 mintedMs.toNat) odcid'
  truncatedTag crypto key message' = truncatedTag crypto key message → message' = message

/-- Without a collision, only the same client and DCID have the same tag. -/
theorem NoCollision.same_tag_iff
    (noCollision : NoCollision crypto key mintedMs client odcid client' odcid') :
    truncatedTag crypto key (feed client' (toBe 8 mintedMs.toNat) odcid') =
      truncatedTag crypto key (feed client (toBe 8 mintedMs.toNat) odcid) ↔
    client' = client ∧ odcid' = odcid := by
  constructor
  · intro tags
    obtain ⟨clients, -, odcids⟩ := feed_injective rfl (noCollision tags)
    exact ⟨clients, odcids⟩
  · rintro ⟨rfl, rfl⟩
    rfl

/-- The verdict on a minted token, for whoever presents it. -/
theorem verify_minted_for (short' : odcid'.length ≤ 20)
    (noCollision : NoCollision crypto key mintedMs client odcid client' odcid')
    (minted : mint crypto key client odcid mintedMs = .ok token) :
    verify crypto key token client' odcid' nowMs lifetimeMs =
      if ¬ (client' = client ∧ odcid' = odcid) then .error .invalid
      else if nowMs < mintedMs then .error .invalid
      else if lifetimeMs < nowMs - mintedMs then .error .expired
      else .ok () := by
  obtain ⟨-, rfl⟩ := mint_ok minted
  rw [← truncatedTag, verify_cut (toBe_length 8 _) (truncatedTag_length _) short', beU64_toBe]
  simp only [ne_eq, noCollision.same_tag_iff]

/-- Verification accepts a minted token for its own client and connection ID within its
lifetime, calls it expired after that, and invalid in every other case; and whatever it
accepts was minted. -/
theorem verify_exact (nowMs lifetimeMs : UInt64) (short : odcid.length ≤ 20)
    (short' : odcid'.length ≤ 20)
    (noCollision : NoCollision crypto key mintedMs client odcid client' odcid') :
    (∃ token, mint crypto key client odcid mintedMs = .ok token ∧
      (verify crypto key token client' odcid' nowMs lifetimeMs = .ok () ↔
        client' = client ∧ odcid' = odcid ∧ mintedMs ≤ nowMs ∧ nowMs - mintedMs ≤ lifetimeMs) ∧
      (verify crypto key token client' odcid' nowMs lifetimeMs = .error .expired ↔
        client' = client ∧ odcid' = odcid ∧ mintedMs ≤ nowMs ∧ lifetimeMs < nowMs - mintedMs) ∧
      (verify crypto key token client' odcid' nowMs lifetimeMs = .error .invalid ↔
        ¬ (client' = client ∧ odcid' = odcid ∧ mintedMs ≤ nowMs))) ∧
    ∀ (token : Bytes) (nowMs lifetimeMs : UInt64), token.length = 24 →
      verify crypto key token client odcid nowMs lifetimeMs = .ok () →
      mint crypto key client odcid (beU64 (token.take 8)) = .ok token := by
  refine ⟨⟨_, if_neg (Nat.not_lt.mpr short), ?_⟩, fun token nowMs lifetimeMs => mint_of_verify⟩
  rw [verify_minted_for short' noCollision (if_neg (Nat.not_lt.mpr short))]
  by_cases same : client' = client ∧ odcid' = odcid
  · obtain ⟨rfl, rfl⟩ := same
    by_cases early : nowMs < mintedMs
    · have notBefore : ¬ mintedMs ≤ nowMs := UInt64.not_le.mpr early
      simp [early, notBefore]
    · have notBefore : mintedMs ≤ nowMs := UInt64.not_lt.mp early
      by_cases late : lifetimeMs < nowMs - mintedMs
      · have notFresh : ¬ nowMs - mintedMs ≤ lifetimeMs := UInt64.not_le.mpr late
        simp [early, notBefore, late, notFresh]
      · have fresh : nowMs - mintedMs ≤ lifetimeMs := UInt64.not_lt.mp late
        simp [early, notBefore, late, fresh]
  · have other (rest : Prop) : ¬ (client' = client ∧ odcid' = odcid ∧ rest) :=
      fun both => same ⟨both.1, both.2.1⟩
    simp [same, other]

/-- A stand-in for HMAC that returns the start of its message. -/
def sampleCrypto : RetryCrypto where
  hmacSha256 _ message := ⟨(message ++ List.replicate 32 0).take 32, by simp⟩
  aes128GcmTag _ _ _ := ⟨List.replicate 16 5, rfl⟩

def sampleKey : TokenKey := ⟨List.replicate 32 7, rfl⟩

/-- Two clients that this HMAC tells apart. -/
theorem verify_exact_two_clients :
    ∃ token, mint sampleCrypto sampleKey (.v4 (ipv4Octets 10 0 0 1)) [1, 2, 3] 5 = .ok token ∧
      verify sampleCrypto sampleKey token (.v4 (ipv4Octets 10 0 0 2)) [1, 2, 3] 6 10 =
        .error .invalid := by
  have noCollision : NoCollision sampleCrypto sampleKey 5 (.v4 (ipv4Octets 10 0 0 1)) [1, 2, 3]
      (.v4 (ipv4Octets 10 0 0 2)) [1, 2, 3] := by
    intro tags
    exact absurd tags (by decide +kernel)
  obtain ⟨⟨token, minted, -, -, invalid⟩, -⟩ :=
    verify_exact 6 10 (by decide) (by decide) noCollision
  exact ⟨token, minted, invalid.mpr (by decide)⟩

end Exact

end Token

end Pesigitg
