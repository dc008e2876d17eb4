import Pesigitg.Retry.Exchange

/-!
# The bytes of a reply

The fields of a reply's headers and of its Retry packet are written one behind the other, so a
reply can be given as a concatenation. `writeReply_eq` is that form of the rewritten frame before
its checksum is filled in; the checksums are then functions of it (`writeIpv4Checksum_eq`,
`writeIpv6UdpChecksum_eq`).
-/

namespace Pesigitg

open Base Quic

section Packet

variable {crypto : RetryCrypto} {version : UInt32} {out odcid dcid scid token : Bytes}

/-- An integrity tag can be computed for every packet that fits the scratch buffer. -/
theorem computeIntegrityTag_returns {body : Bytes} (odcidShort : odcid.length ≤ 20)
    (known : version = quicV1 ∨ version = quicV2)
    (fits : 1 + odcid.length + body.length ≤ 1024) :
    ∃ tag, computeIntegrityTag crypto version odcid body = .ok (.ok tag) := by
  have sized : ([UInt8.ofNat odcid.length] ++ odcid ++ body).length =
      1 + odcid.length + body.length := by
    simp
    omega
  have room : (List.replicate pseudoMax (0 : UInt8)).length = 1024 := List.length_replicate
  have written : writeFields
      [(0, [UInt8.ofNat odcid.length]), (1, odcid), (1 + odcid.length, body)]
      (List.replicate pseudoMax 0) = .ok ([UInt8.ofNat odcid.length] ++ odcid ++ body ++ _) :=
    writeFields_front (by simp [Consecutive]) (by simp) (by omega)
  have keyed : ∃ key iv, (if version = quicV1 then some (retryKeyV1, retryNonceV1)
      else if version = quicV2 then some (retryKeyV2, retryNonceV2) else none) =
        some (key, iv) := by
    rcases known with rfl | rfl
    · exact ⟨_, _, rfl⟩
    · exact ⟨_, _, rfl⟩
  obtain ⟨key, iv, keyed⟩ := keyed
  have notLong : ¬ maxCidLen < odcid.length := by
    simp only [maxCidLen]
    omega
  have inRoom : ¬ pseudoMax < 1 + odcid.length + body.length := by
    simp only [pseudoMax]
    omega
  simp only [computeIntegrityTag, notLong, if_false, keyed, inRoom, written, Checked.ok_bind]
  rw [slice_front sized.symm]
  exact ⟨_, rfl⟩

/-- The body of a Retry packet. -/
def retryBody (firstByte : UInt8) (version : UInt32) (dcid scid token : Bytes) : Bytes :=
  [firstByte] ++ toBe 4 version.toNat ++ [UInt8.ofNat dcid.length] ++ dcid ++
    [UInt8.ofNat scid.length] ++ scid ++ token

/-- The length of a Retry packet without its tag. -/
theorem retryBody_length (firstByte : UInt8) (version : UInt32) (dcid scid token : Bytes) :
    (retryBody firstByte version dcid scid token).length =
      7 + dcid.length + scid.length + token.length := by
  simp [retryBody]
  omega

/-- A Retry packet for short connection IDs and a token is built in a buffer with room for it:
its body, and a tag behind it. -/
theorem buildRetry_eq (odcidShort : odcid.length ≤ 20) (dcidShort : dcid.length ≤ 20)
    (scidShort : scid.length ≤ 20) (tokenSized : token.length = 24)
    (known : version = quicV1 ∨ version = quicV2) (room : 87 ≤ out.length) :
    ∃ (firstByte : UInt8) (tag : Octets 16) (rest : Bytes),
      buildRetry crypto out version odcid dcid scid token =
        .ok (.ok (7 + dcid.length + scid.length + 40,
          retryBody firstByte version dcid scid token ++ tag.val ++ rest)) := by
  obtain ⟨firstByte, first⟩ : ∃ firstByte, retryFirstByte version = some firstByte := by
    rcases known with rfl | rfl
    · exact ⟨_, rfl⟩
    · exact ⟨_, rfl⟩
  have sized := retryBody_length firstByte version dcid scid token
  generalize packet : retryBody firstByte version dcid scid token = body at sized
  obtain ⟨tag, tagged⟩ : ∃ tag, computeIntegrityTag crypto version odcid body = .ok (.ok tag) :=
    computeIntegrityTag_returns odcidShort known (by omega)
  have tagSized : tag.val.length = 16 := tag.property
  have written : writeFields
      [(0, [firstByte]), (1, toBe 4 version.toNat), (5, [UInt8.ofNat dcid.length]), (6, dcid),
        (6 + dcid.length, [UInt8.ofNat scid.length]), (7 + dcid.length, scid),
        (7 + dcid.length + scid.length, token)] out = .ok (body ++ out.drop body.length) :=
    writeFields_front (by simp [Consecutive]; omega) (by simp [← packet, retryBody]) (by omega)
  have bodyLen : 1 + 4 + 1 + dcid.length + 1 + scid.length + token.length = body.length := by omega
  have closed : copyInto (body ++ out.drop body.length) body.length (body.length + 16) tag.val =
      .ok (body ++ tag.val ++ (out.drop body.length).drop tag.val.length) :=
    copyInto_behind rfl (by omega) (by rw [List.length_drop]; omega)
  have short : ¬ (maxCidLen < odcid.length ∨ maxCidLen < dcid.length ∨
      maxCidLen < scid.length) := by
    simp only [maxCidLen]
    omega
  have enough : ¬ out.length < body.length + 16 := by omega
  refine ⟨firstByte, tag, (out.drop body.length).drop tag.val.length, ?_⟩
  simp only [buildRetry, short, if_false, first, bodyLen, integrityTagLen, enough, written,
    Checked.ok_bind]
  rw [slice_front rfl, Checked.ok_bind, tagged, Checked.ok_bind]
  simp only [closed, Checked.ok_bind, Checked.pure_eq_ok, packet]
  have total : body.length + 16 = 7 + dcid.length + scid.length + 40 := by omega
  rw [total]

end Packet

section Headers

variable {layout : FrameLayout} {localMac : Mac} {payloadLen : Nat}

/-- An IPv4 reply up to its header checksum. -/
def ipv4Front (layout : FrameLayout) (localMac : Mac) (payloadLen : Nat) : Bytes :=
  layout.srcMac.val ++ localMac.val ++ toBe 2 ethPIp.toNat ++ [0x45, 0x00] ++
    toBe 2 (UInt16.ofNat (ipv4MinHdrLen + udpHdrLen + payloadLen)).toNat ++
    [0x00, 0x00, 0x40, 0x00, 64, ipprotoUdp]

/-- The UDP header of a reply up to its checksum. -/
def udpFront (layout : FrameLayout) (payloadLen : Nat) : Bytes :=
  toBe 2 layout.dstPort.toNat ++ toBe 2 layout.srcPort.toNat ++
    toBe 2 (UInt16.ofNat (udpHdrLen + payloadLen)).toNat

/-- The Ethernet and IPv6 headers of a reply up to the addresses. -/
def ipv6Front (layout : FrameLayout) (localMac : Mac) (payloadLen : Nat) : Bytes :=
  layout.srcMac.val ++ localMac.val ++ toBe 2 ethPIpv6.toNat ++ [0x60, 0x00, 0x00, 0x00] ++
    toBe 2 (UInt16.ofNat (udpHdrLen + payloadLen)).toNat ++ [ipprotoUdp, 64]

/-- Up to the IPv4 checksum there are 24 bytes. -/
@[simp] theorem ipv4Front_length : (ipv4Front layout localMac payloadLen).length = 24 := by
  simp [ipv4Front, layout.srcMac.property, localMac.property]

/-- Up to the UDP checksum there are 6 bytes. -/
@[simp] theorem udpFront_length : (udpFront layout payloadLen).length = 6 := by
  simp [udpFront]

/-- Up to the IPv6 addresses there are 22 bytes. -/
@[simp] theorem ipv6Front_length : (ipv6Front layout localMac payloadLen).length = 22 := by
  simp [ipv6Front, layout.srcMac.property, localMac.property]

/-- The headers of an IPv4 reply, its checksums still zero. -/
theorem buildReflectedHeaders_v4 {client server : Octets 4} (isIpv4 : layout.isIpv4 = true)
    (src : layout.srcIp = .v4 client) (dst : layout.dstIp = .v4 server) :
    buildReflectedHeaders (List.replicate 64 0) layout localMac payloadLen =
      .ok (42, ipv4Front layout localMac payloadLen ++ [0, 0] ++
        (server.val ++ client.val ++ udpFront layout payloadLen ++ [0, 0]) ++
        List.replicate 22 0) := by
  have clientSized : client.val.length = 4 := client.property
  have serverSized : server.val.length = 4 := server.property
  have joined : (reflectedIpv4 layout localMac payloadLen server client).flatMap Prod.snd =
      ipv4Front layout localMac payloadLen ++ [0, 0] ++
        (server.val ++ client.val ++ udpFront layout payloadLen ++ [0, 0]) := by
    simp [reflectedIpv4, ipv4Front, udpFront]
  have sized : (ipv4Front layout localMac payloadLen ++ [0, 0] ++
      (server.val ++ client.val ++ udpFront layout payloadLen ++ [0, 0])).length = 42 := by
    simp [clientSized, serverSized]
  have consecutive : Consecutive 0 (reflectedIpv4 layout localMac payloadLen server client) := by
    simp [Consecutive, reflectedIpv4, layout.srcMac.property, localMac.property, clientSized,
      serverSized]
  have written : writeFields (reflectedIpv4 layout localMac payloadLen server client)
      (List.replicate 64 0) = .ok _ :=
    writeFields_front consecutive joined (by rw [sized]; decide)
  rw [sized, List.drop_replicate] at written
  rw [buildReflectedHeaders, if_pos isIpv4, reflectedV4Addrs, src, dst]
  simp only [Checked.pure_eq_ok, Checked.ok_bind, written]
  rfl

/-- The headers of an IPv6 reply, its checksum still zero. -/
theorem buildReflectedHeaders_v6 {client server : Octets 16} (isIpv6 : layout.isIpv4 = false)
    (src : layout.srcIp = .v6 client) (dst : layout.dstIp = .v6 server) :
    buildReflectedHeaders (List.replicate 64 0) layout localMac payloadLen =
      .ok (62, ipv6Front layout localMac payloadLen ++ (server.val ++ client.val) ++
        udpFront layout payloadLen ++ [0, 0] ++ List.replicate 2 0) := by
  have clientSized : client.val.length = 16 := client.property
  have serverSized : server.val.length = 16 := server.property
  have joined : (reflectedIpv6 layout localMac payloadLen server client).flatMap Prod.snd =
      ipv6Front layout localMac payloadLen ++ (server.val ++ client.val) ++
        udpFront layout payloadLen ++ [0, 0] := by
    simp [reflectedIpv6, ipv6Front, udpFront]
  have sized : (ipv6Front layout localMac payloadLen ++ (server.val ++ client.val) ++
      udpFront layout payloadLen ++ [0, 0]).length = 62 := by
    simp [clientSized, serverSized]
  have consecutive : Consecutive 0 (reflectedIpv6 layout localMac payloadLen server client) := by
    simp [Consecutive, reflectedIpv6, layout.srcMac.property, localMac.property, clientSized,
      serverSized]
  have written : writeFields (reflectedIpv6 layout localMac payloadLen server client)
      (List.replicate 64 0) = .ok _ :=
    writeFields_front consecutive joined (by rw [sized]; decide)
  rw [sized, List.drop_replicate] at written
  rw [buildReflectedHeaders, if_neg (Bool.eq_false_iff.mp isIpv6), reflectedV6Addrs, src, dst]
  simp only [Checked.pure_eq_ok, Checked.ok_bind, written]
  rfl

/-- A field of a frame given in parts. -/
theorem u16At_behind {frame : Bytes} {value : UInt16} {offset : Nat} (front back : Bytes)
    (parts : frame = front ++ toBe 2 value.toNat ++ back) (behind : front.length = offset) :
    u16At frame offset = value := by
  subst parts behind
  exact holds_u16 (Holds.of_append front _ back)

end Headers

section Checksums

variable {layout : FrameLayout} {front back : Bytes}

/-- Writing the two zeros that stand there already. -/
theorem writeByte_zeros (back : Bytes) {index : Nat} (before : index = front.length) :
    writeByte (front ++ [0, 0] ++ back) index 0 = .ok (front ++ [0, 0] ++ back) ∧
      writeByte (front ++ [0, 0] ++ back) (index + 1) 0 = .ok (front ++ [0, 0] ++ back) := by
  subst before
  constructor
  · rw [writeByte_of_lt (by simp)]
    simp
  · rw [writeByte_of_lt (by simp)]
    simp

/-- The checksum fills its two zero bytes. -/
theorem copyInto_zeros {index : Nat} {value : Nat} (before : index = front.length) :
    copyInto (front ++ [0, 0] ++ back) index (index + 2) (toBe 2 value) =
      .ok (front ++ toBe 2 value ++ back) := by
  rw [List.append_assoc front]
  have filled : copyInto (front ++ ([0, 0] ++ back)) index (index + 2) (toBe 2 value) =
      .ok (front ++ toBe 2 value ++ ([0, 0] ++ back).drop (toBe 2 value).length) :=
    copyInto_behind before (by simp [before]) (by simp)
  simpa using filled

/-- The IPv4 checksum of a frame whose checksum bytes are zero is taken over as many bytes as the
received header had. -/
theorem writeIpv4Checksum_eq {ipOffset ipHdrLen : Nat} (before : front.length = ipOffset + 10)
    (inside : ipOffset + ipHdrLen ≤ (front ++ [0, 0] ++ back).length) :
    writeIpv4Checksum (front ++ [0, 0] ++ back) ipOffset ipHdrLen =
      .ok (front ++ toBe 2 (onesComplementSum
        (((front ++ [0, 0] ++ back).take (ipOffset + ipHdrLen)).drop ipOffset)).toNat ++ back) := by
  obtain ⟨first, second⟩ := writeByte_zeros back before.symm
  rw [writeIpv4Checksum, first, Checked.ok_bind, second, Checked.ok_bind,
    slice_of_le (Nat.le_add_right _ _) inside, Checked.ok_bind, copyInto_zeros before.symm]

/-- The UDP checksum of an IPv6 reply, whose datagram is the rest of the frame. -/
theorem writeIpv6UdpChecksum_eq {udpLen : UInt16}
    (before : front.length = layout.udpOffset + 6)
    (read : u16At (front ++ [0, 0] ++ back) (layout.udpOffset + 4) = udpLen)
    (whole : (front ++ [0, 0] ++ back).length = layout.udpOffset + udpLen.toNat)
    (addresses : layout.ipOffset + 40 ≤ (front ++ [0, 0] ++ back).length) :
    ∃ sum : UInt16,
      sum = (~~~ foldCarry 2 (foldSlice
        (foldSlice 0 (((front ++ [0, 0] ++ back).take (layout.ipOffset + 40)).drop
          (layout.ipOffset + 8)) + udpLen.toUInt32 + ipprotoUdp.toUInt32)
        ((front ++ [0, 0] ++ back).drop layout.udpOffset))).toUInt16 ∧
      writeIpv6UdpChecksum (front ++ [0, 0] ++ back) layout =
        .ok (front ++ toBe 2 (if sum = 0 then 0xffff else sum).toNat ++ back) := by
  refine ⟨_, rfl, ?_⟩
  obtain ⟨first, second⟩ := writeByte_zeros back before.symm
  have lengthRead : readU16 (front ++ [0, 0] ++ back) (layout.udpOffset + 4) = .ok udpLen := by
    rw [readU16_of_le (by simp [before]), read]
  rw [writeIpv6UdpChecksum, lengthRead, Checked.ok_bind, first, Checked.ok_bind, second,
    Checked.ok_bind, slice_of_le (by omega) addresses, Checked.ok_bind,
    slice_of_le (Nat.le_add_right _ _) (by omega), Checked.ok_bind, ← whole, List.take_length]
  exact copyInto_zeros before.symm

end Checksums

section Write

variable {layout : FrameLayout} {frame hdr rest packet : Bytes} {localMac : Mac} {hdrLen : Nat}

/-- A frame of exactly the reply's length becomes the headers and the packet, with the checksum
filled in. -/
theorem writeReply_eq (hdrSized : hdr.length = hdrLen)
    (sized : frame.length = hdrLen + packet.length) :
    writeReply layout frame (hdr ++ rest) hdrLen packet =
      if layout.isIpv4 then writeIpv4Checksum (hdr ++ packet) layout.ipOffset layout.ipHdrLen
      else writeIpv6UdpChecksum (hdr ++ packet) layout := by
  have first : copyInto frame 0 hdrLen hdr = .ok (hdr ++ frame.drop hdrLen) := by
    have copied : copyInto ([] ++ frame) 0 hdrLen hdr = .ok ([] ++ hdr ++ frame.drop hdr.length) :=
      copyInto_behind rfl (by simp [hdrSized]) (by omega)
    simpa [hdrSized] using copied
  have second : copyInto (hdr ++ frame.drop hdrLen) hdrLen (hdrLen + packet.length) packet =
      .ok (hdr ++ packet) := by
    have copied : copyInto (hdr ++ frame.drop hdrLen) hdrLen (hdrLen + packet.length) packet =
        .ok (hdr ++ packet ++ (frame.drop hdrLen).drop packet.length) :=
      copyInto_behind hdrSized.symm (by omega) (by rw [List.length_drop]; omega)
    have nothing : (frame.drop hdrLen).drop packet.length = [] :=
      List.drop_eq_nil_of_le (by rw [List.length_drop]; omega)
    rwa [nothing, List.append_nil] at copied
  rw [writeReply, slice_front hdrSized.symm, Checked.ok_bind, first, Checked.ok_bind, second,
    Checked.ok_bind]

/-- What the layout of a received frame promises the rewrite. -/
structure FrameLayout.Sound (layout : FrameLayout) : Prop where
  ipOffset : layout.ipOffset = 14
  ipv4 : layout.isIpv4 = true → 20 ≤ layout.ipHdrLen ∧ layout.ipHdrLen ≤ 60 ∧
    layout.ipHdrLen % 4 = 0 ∧ ∃ client server, layout.srcIp = .v4 client ∧ layout.dstIp = .v4 server
  ipv6 : layout.isIpv4 = false → layout.udpOffset = 54 ∧
    ∃ client server, layout.srcIp = .v6 client ∧ layout.dstIp = .v6 server

/-- An IPv4 header has at most 60 bytes, in words of four. -/
theorem ihlOf_bounds (byte : UInt8) : ihlOf byte ≤ 60 ∧ ihlOf byte % 4 = 0 := by
  have small : (byte &&& 0x0f).toNat < 16 := by
    rw [UInt8.toNat_and]
    exact Nat.and_lt_two_pow byte.toNat (by decide : (0x0f : UInt8).toNat < 2 ^ 4)
  unfold ihlOf
  omega

/-- A layout that Retry can answer has its headers where they fit. -/
theorem fromParsed_sound {contents : Bytes} {parsed : ParsedFrame} (shape : Layout contents parsed)
    (promoted : FrameLayout.fromParsed parsed = some layout) : layout.Sound := by
  obtain ⟨l4, ipOffset, ipHdrLen, srcIp, dstIp, family⟩ := fromParsed_ok promoted
  refine ⟨ipOffset, ?_, ?_⟩
  · intro isIpv4
    rcases family with ⟨-, ipv4⟩ | ⟨isIpv6, -⟩
    · rw [ipHdrLen, srcIp, dstIp]
      cases shape with
      | udp4 header protocol inside =>
        have ihl := header.ihl_eq
        rw [ihlAt] at ihl
        obtain ⟨small, whole⟩ := ihlOf_bounds (byteAt contents 14)
        rw [ihl] at small whole
        exact ⟨header.ihl_ge, small, whole, _, _, rfl, rfl⟩
      | icmp4 header protocol quote inside => cases l4
      | udp6 header inside => cases ipv4
      | icmp6 header quote inside => cases ipv4
    · rw [isIpv4] at isIpv6
      cases isIpv6
  · intro isIpv6
    rcases family with ⟨isIpv4, -⟩ | ⟨-, ipv6, plain⟩
    · rw [isIpv4] at isIpv6
      cases isIpv6
    · refine ⟨udpOffset_of_plain_ipv6 shape l4 ipv6 plain, ?_⟩
      rw [srcIp, dstIp]
      cases shape with
      | udp4 header protocol inside => cases ipv6
      | icmp4 header protocol quote inside => cases ipv6
      | udp6 header inside => exact ⟨_, _, rfl, rfl⟩
      | icmp6 header quote inside => cases l4

/-- An IPv4 reply behind its header checksum. -/
def ipv4Back (layout : FrameLayout) (server client : Octets 4) (packet : Bytes) : Bytes :=
  server.val ++ client.val ++ udpFront layout packet.length ++ [0, 0] ++ packet

/-- An IPv6 reply up to its UDP checksum. -/
def ipv6UdpFront (layout : FrameLayout) (localMac : Mac) (server client : Octets 16)
    (payloadLen : Nat) : Bytes :=
  ipv6Front layout localMac payloadLen ++ (server.val ++ client.val) ++ udpFront layout payloadLen

/-- Behind the IPv4 checksum there are 16 bytes and the packet. -/
theorem ipv4Back_length (server client : Octets 4) :
    (ipv4Back layout server client packet).length = 16 + packet.length := by
  simp [ipv4Back, server.property, client.property]
  omega

/-- Up to the UDP checksum there are 60 bytes over IPv6. -/
theorem ipv6UdpFront_length (server client : Octets 16) (payloadLen : Nat) :
    (ipv6UdpFront layout localMac server client payloadLen).length = 60 := by
  simp [ipv6UdpFront, server.property, client.property]

/-- The rewrite of an IPv4 frame. -/
theorem writeReply_v4 {client server : Octets 4} (sound : layout.Sound)
    (isIpv4 : layout.isIpv4 = true) (long : 32 ≤ packet.length)
    (sized : frame.length = 42 + packet.length) :
    writeReply layout frame (ipv4Front layout localMac packet.length ++ [0, 0] ++
        (server.val ++ client.val ++ udpFront layout packet.length ++ [0, 0]) ++ rest) 42 packet =
      .ok (ipv4Front layout localMac packet.length ++ toBe 2 (onesComplementSum
        (((ipv4Front layout localMac packet.length ++ [0, 0] ++
          ipv4Back layout server client packet).take (14 + layout.ipHdrLen)).drop 14)).toNat ++
        ipv4Back layout server client packet) := by
  obtain ⟨-, small, -⟩ := sound.ipv4 isIpv4
  have back : (ipv4Back layout server client packet).length = 16 + packet.length :=
    ipv4Back_length server client
  have whole : ipv4Front layout localMac packet.length ++ [0, 0] ++
      (server.val ++ client.val ++ udpFront layout packet.length ++ [0, 0]) ++ packet =
      ipv4Front layout localMac packet.length ++ [0, 0] ++
        ipv4Back layout server client packet := by
    simp [ipv4Back]
  have hdrSized : (ipv4Front layout localMac packet.length ++ [0, 0] ++
      (server.val ++ client.val ++ udpFront layout packet.length ++ [0, 0])).length = 42 := by
    simp [server.property, client.property]
  rw [writeReply_eq hdrSized sized, if_pos isIpv4, whole, sound.ipOffset,
    writeIpv4Checksum_eq (by simp) (by simp [back]; omega)]

/-- The rewrite of an IPv6 frame. -/
theorem writeReply_v6 {client server : Octets 16} (sound : layout.Sound)
    (isIpv6 : layout.isIpv4 = false) (short : packet.length ≤ 1000)
    (sized : frame.length = 62 + packet.length) :
    ∃ sum : UInt16,
      sum = (~~~ foldCarry 2 (foldSlice
        (foldSlice 0 (server.val ++ client.val) + (UInt16.ofNat (8 + packet.length)).toUInt32 +
          ipprotoUdp.toUInt32)
        (udpFront layout packet.length ++ [0, 0] ++ packet))).toUInt16 ∧
      writeReply layout frame (ipv6Front layout localMac packet.length ++
          (server.val ++ client.val) ++ udpFront layout packet.length ++ [0, 0] ++ rest) 62 packet =
        .ok (ipv6UdpFront layout localMac server client packet.length ++
          toBe 2 (if sum = 0 then 0xffff else sum).toNat ++ packet) := by
  obtain ⟨udpOffset, -⟩ := sound.ipv6 isIpv6
  have front : (ipv6UdpFront layout localMac server client packet.length).length = 60 :=
    ipv6UdpFront_length server client packet.length
  have hdrSized : (ipv6Front layout localMac packet.length ++ (server.val ++ client.val) ++
      udpFront layout packet.length ++ [0, 0]).length = 62 := by
    simp [server.property, client.property]
  have lengthSmall : (UInt16.ofNat (8 + packet.length)).toNat = 8 + packet.length := by
    rw [UInt16.toNat_ofNat', Nat.mod_eq_of_lt (by omega)]
  -- The UDP length stands in the last two bytes before the checksum.
  have read : u16At (ipv6UdpFront layout localMac server client packet.length ++ [0, 0] ++ packet)
      (layout.udpOffset + 4) = UInt16.ofNat (8 + packet.length) := by
    apply u16At_behind (ipv6Front layout localMac packet.length ++ (server.val ++ client.val) ++
      toBe 2 layout.dstPort.toNat ++ toBe 2 layout.srcPort.toNat) ([0, 0] ++ packet)
    · simp [ipv6UdpFront, udpFront]
    · simp [udpOffset, server.property, client.property]
  have total : (ipv6UdpFront layout localMac server client packet.length ++ [0, 0] ++
      packet).length = 62 + packet.length := by
    simp [front]
    omega
  obtain ⟨sum, sumEq, written⟩ := writeIpv6UdpChecksum_eq (by rw [front, udpOffset]) read
    (by rw [total, lengthSmall, udpOffset]; omega) (by rw [total, sound.ipOffset]; omega)
  refine ⟨sum, ?_, ?_⟩
  · have parts : ipv6UdpFront layout localMac server client packet.length ++ [0, 0] ++ packet =
        ipv6Front layout localMac packet.length ++ (server.val ++ client.val) ++
          (udpFront layout packet.length ++ [0, 0] ++ packet) := by
      simp [ipv6UdpFront]
    rw [sumEq, parts, sound.ipOffset, udpOffset,
      cut_middle (by simp) (by simp [server.property, client.property]),
      List.drop_left' (by simp [server.property, client.property])]
  · rw [writeReply_eq hdrSized sized, if_neg (Bool.eq_false_iff.mp isIpv6)]
    exact written

end Write

end Pesigitg
