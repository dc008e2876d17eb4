import Pesigitg.Retry.Datapath

/-!
# The Retry exchange

What happens between the load balancer and a client: the frame that leaves is addressed back
to the sender and carries a Retry that answers its Initial, and the Initial that comes back
with the token is let through.
-/

namespace Pesigitg

open Base Quic

section Checksums

variable {frame result : Bytes}

/-- Zeroing and filling a two-byte field leaves everything else alone. -/
theorem writeChecksum_keeps {place : Nat} {first second sum : Bytes}
    (firstWritten : writeByte frame place 0 = .ok first)
    (secondWritten : writeByte first (place + 1) 0 = .ok second)
    (copied : copyInto second place (place + 2) sum = .ok result) :
    result.length = frame.length ∧ ∀ offset part, Holds frame offset part →
      offset + part.length ≤ place ∨ place + 2 ≤ offset → Holds result offset part := by
  refine ⟨?_, ?_⟩
  · rw [copyInto_length copied, writeByte_length secondWritten, writeByte_length firstWritten]
  · intro offset part holds apart
    exact ((holds.writeByte firstWritten (by omega)).writeByte secondWritten (by omega)).copyInto
      copied apart

/-- Writing the IPv4 checksum keeps every other field. -/
theorem writeIpv4Checksum_keeps {ipOffset ipHdrLen : Nat}
    (done : writeIpv4Checksum frame ipOffset ipHdrLen = .ok result) :
    result.length = frame.length ∧ ∀ offset part, Holds frame offset part →
      offset + part.length ≤ ipOffset + 10 ∨ ipOffset + 12 ≤ offset → Holds result offset part := by
  simp only [writeIpv4Checksum, Checked.bind_eq_ok_iff] at done
  obtain ⟨first, firstWritten, second, secondWritten, header, -, copied⟩ := done
  exact writeChecksum_keeps firstWritten secondWritten copied

/-- Writing the UDP checksum keeps every other field. -/
theorem writeIpv6UdpChecksum_keeps {layout : FrameLayout}
    (done : writeIpv6UdpChecksum frame layout = .ok result) :
    result.length = frame.length ∧ ∀ offset part, Holds frame offset part →
      offset + part.length ≤ layout.udpOffset + 6 ∨ layout.udpOffset + 8 ≤ offset →
        Holds result offset part := by
  simp only [writeIpv6UdpChecksum, Checked.bind_eq_ok_iff] at done
  obtain ⟨udpLen, -, first, firstWritten, second, secondWritten, addresses, -, datagram, -,
    copied⟩ := done
  exact writeChecksum_keeps firstWritten secondWritten copied

/-- Where the checksum of a reply stands. -/
def checksumOffset (layout : FrameLayout) : Nat :=
  if layout.isIpv4 then layout.ipOffset + 10 else layout.udpOffset + 6

/-- A written reply is the headers and the packet, up to the checksum. -/
theorem writeReply_holds {layout : FrameLayout} {hdrBuf packet : Bytes} {hdrLen : Nat}
    (done : writeReply layout frame hdrBuf hdrLen packet = .ok result)
    (behind : checksumOffset layout + 2 ≤ hdrLen) :
    result.length = frame.length ∧ Holds result hdrLen packet ∧
      ∀ offset part, Holds hdrBuf offset part → offset + part.length ≤ hdrLen →
        offset + part.length ≤ checksumOffset layout ∨ checksumOffset layout + 2 ≤ offset →
          Holds result offset part := by
  simp only [writeReply, Checked.bind_eq_ok_iff] at done
  obtain ⟨hdr, hdrCut, first, firstCopied, second, secondCopied, done⟩ := done
  obtain ⟨-, -, hdrEq⟩ := slice_eq_ok_iff.mp hdrCut
  rw [List.drop_zero] at hdrEq
  -- Both checksums leave everything but their own two bytes alone.
  have summed : result.length = second.length ∧ ∀ offset part, Holds second offset part →
      offset + part.length ≤ checksumOffset layout ∨ checksumOffset layout + 2 ≤ offset →
        Holds result offset part := by
    unfold checksumOffset
    split at done
    · next isIpv4 =>
      rw [if_pos isIpv4]
      exact writeIpv4Checksum_keeps done
    · next isIpv6 =>
      rw [if_neg isIpv6]
      exact writeIpv6UdpChecksum_keeps done
  refine ⟨?_, ?_, ?_⟩
  · rw [summed.1, copyInto_length secondCopied, copyInto_length firstCopied]
  · exact summed.2 _ _ (holds_copyInto secondCopied) (.inr behind)
  · intro offset part holds inside apart
    have inHdr : Holds hdr offset part := by
      rw [← hdrEq]
      exact holds.take inside
    have inFirst := (holds_copyInto firstCopied).sub inHdr
    rw [Nat.zero_add] at inFirst
    exact summed.2 _ _ (inFirst.copyInto secondCopied (.inl inside)) apart

end Checksums

section Reply

variable {frame hdrBuf packet : Bytes} {layout : FrameLayout} {localMac : Mac} {hdrLen : Nat}

/-- The layout of a frame that answers another one: endpoints swapped, and the QUIC payload at
`quicOffset`. -/
structure Answers (parsed reflected : ParsedFrame) (quicOffset : Nat) : Prop where
  srcAddr : reflected.srcAddr = parsed.dstAddr
  dstAddr : reflected.dstAddr = parsed.srcAddr
  ports : ∃ udpOffset udpOffset' quicOffset' srcPort dstPort,
    parsed.l4 = .udp udpOffset' quicOffset' srcPort dstPort ∧
      reflected.l4 = .udp udpOffset quicOffset dstPort srcPort

/-- A layout that Retry can answer, in terms of the parsed one; over IPv6 it has no extension
headers. -/
theorem fromParsed_ok {parsed : ParsedFrame} (promoted : FrameLayout.fromParsed parsed = some layout) :
    parsed.l4 = .udp layout.udpOffset layout.quicOffset layout.srcPort layout.dstPort ∧
      layout.ipOffset = 14 ∧ layout.ipHdrLen = parsed.ipHdrLen ∧ layout.srcIp = parsed.srcAddr ∧
      layout.dstIp = parsed.dstAddr ∧
      (layout.isIpv4 = true ∧ parsed.family = .ipv4 ∨
        layout.isIpv4 = false ∧ parsed.family = .ipv6 ∧ parsed.ipHdrLen ≤ 40) := by
  unfold FrameLayout.fromParsed at promoted
  cases l4 : parsed.l4 with
  | icmp innerQuicOffset reversedFlow =>
    rw [l4] at promoted
    cases promoted
  | udp udpOffset quicOffset srcPort dstPort =>
    rw [l4] at promoted
    cases family : parsed.family with
    | ipv4 =>
      simp only [family, Option.map_some, Option.some.injEq] at promoted
      subst promoted
      exact ⟨rfl, rfl, rfl, rfl, rfl, .inl ⟨rfl, rfl⟩⟩
    | ipv6 =>
      simp only [family] at promoted
      split at promoted
      · cases promoted
      · next short =>
        simp only [Option.map_some, Option.some.injEq] at promoted
        subst promoted
        exact ⟨rfl, rfl, rfl, rfl, rfl, .inr ⟨rfl, rfl, Nat.not_lt.mp short⟩⟩

/-- The fields of the reply's headers come one after the other. -/
theorem ascending_reflectedIpv4 (payloadLen : Nat) (src dst : Octets 4) :
    Ascending 0 (reflectedIpv4 layout localMac payloadLen src dst) := by
  simp [Ascending, reflectedIpv4, layout.srcMac.property, localMac.property, src.property,
    dst.property]

/-- So they do over IPv6. -/
theorem ascending_reflectedIpv6 (payloadLen : Nat) (src dst : Octets 16) :
    Ascending 0 (reflectedIpv6 layout localMac payloadLen src dst) := by
  simp [Ascending, reflectedIpv6, layout.srcMac.property, localMac.property, src.property,
    dst.property]

/-- An IPv4 reply parses as a UDP frame with the endpoints swapped. -/
theorem layout_of_ipv4_reply {src dst : Octets 4} {payloadLen : Nat} (long : 42 ≤ frame.length)
    (fields : ∀ field ∈ reflectedIpv4 layout localMac payloadLen src dst,
      field.1 + field.2.length ≤ 24 ∨ 26 ≤ field.1 → Holds frame field.1 field.2) :
    Layout frame ⟨.ipv4, 20, localMac, .v4 src, .v4 dst,
      .udp 34 42 layout.dstPort layout.srcPort⟩ := by
  have mac : octetsAt 6 frame 6 = localMac :=
    holds_octets (fields (6, localMac.val) (by simp [reflectedIpv4]) (by simp [localMac.property]))
  have ethertype : u16At frame 12 = ethPIp :=
    holds_u16 (fields (12, toBe 2 ethPIp.toNat) (by simp [reflectedIpv4]) (by simp))
  have version : byteAt frame 14 = 0x45 :=
    (fields (14, [0x45]) (by simp [reflectedIpv4]) (by simp)).byte
  have protocol : byteAt frame 23 = ipprotoUdp :=
    (fields (23, [ipprotoUdp]) (by simp [reflectedIpv4]) (by simp)).byte
  have srcAddr : ipv4At frame 26 = .v4 src :=
    holds_ipv4 (fields (26, src.val) (by simp [reflectedIpv4]) (by simp))
  have dstAddr : ipv4At frame 30 = .v4 dst :=
    holds_ipv4 (fields (30, dst.val) (by simp [reflectedIpv4]) (by simp))
  have srcPort : u16At frame 34 = layout.dstPort :=
    holds_u16 (fields (34, toBe 2 layout.dstPort.toNat) (by simp [reflectedIpv4]) (by simp))
  have dstPort : u16At frame 36 = layout.srcPort :=
    holds_u16 (fields (36, toBe 2 layout.srcPort.toNat) (by simp [reflectedIpv4]) (by simp))
  have ihl : ihlAt frame 14 = 20 := by
    rw [ihlAt, version]
    rfl
  have header : Ipv4Frame frame 20 := ⟨by omega, ethertype, ihl, Nat.le_refl 20⟩
  have shape := Layout.udp4 header protocol (by omega)
  rw [mac, srcAddr, dstAddr, srcPort, dstPort] at shape
  exact shape

/-- An IPv6 reply parses as a UDP frame with the endpoints swapped. -/
theorem layout_of_ipv6_reply {src dst : Octets 16} {payloadLen : Nat} (long : 62 ≤ frame.length)
    (fields : ∀ field ∈ reflectedIpv6 layout localMac payloadLen src dst,
      field.1 + field.2.length ≤ 60 → Holds frame field.1 field.2) :
    Layout frame ⟨.ipv6, 40, localMac, .v6 src, .v6 dst,
      .udp 54 62 layout.dstPort layout.srcPort⟩ := by
  have mac : octetsAt 6 frame 6 = localMac :=
    holds_octets (fields (6, localMac.val) (by simp [reflectedIpv6]) (by simp [localMac.property]))
  have ethertype : u16At frame 12 = ethPIpv6 :=
    holds_u16 (fields (12, toBe 2 ethPIpv6.toNat) (by simp [reflectedIpv6]) (by simp))
  have protocol : byteAt frame 20 = ipprotoUdp :=
    (fields (20, [ipprotoUdp]) (by simp [reflectedIpv6]) (by simp)).byte
  have srcAddr : ipv6At frame 22 = .v6 src :=
    holds_ipv6 (fields (22, src.val) (by simp [reflectedIpv6]) (by simp [src.property]))
  have dstAddr : ipv6At frame 38 = .v6 dst :=
    holds_ipv6 (fields (38, dst.val) (by simp [reflectedIpv6]) (by simp [dst.property]))
  have srcPort : u16At frame 54 = layout.dstPort :=
    holds_u16 (fields (54, toBe 2 layout.dstPort.toNat) (by simp [reflectedIpv6]) (by simp))
  have dstPort : u16At frame 56 = layout.srcPort :=
    holds_u16 (fields (56, toBe 2 layout.srcPort.toNat) (by simp [reflectedIpv6]) (by simp))
  have chain : ExtChain outerStops frame 6 (byteAt frame 20) 54 ipprotoUdp 54 := by
    rw [protocol]
    exact .stopped 54 (by decide)
  have header : Ipv6Frame frame ipprotoUdp 54 := ⟨by omega, ethertype, chain⟩
  have shape := Layout.udp6 header (by omega)
  rw [mac, srcAddr, dstAddr, srcPort, dstPort] at shape
  exact shape

/-- The built headers hold all their fields, with the addresses swapped. -/
theorem buildReflectedHeaders_ipv4 {payloadLen : Nat} (isIpv4 : layout.isIpv4 = true)
    (built : buildReflectedHeaders (List.replicate 64 0) layout localMac payloadLen =
      .ok (hdrLen, hdrBuf)) :
    ∃ src dst, layout.srcIp = .v4 dst ∧ layout.dstIp = .v4 src ∧ hdrLen = 42 ∧
      ∀ field ∈ reflectedIpv4 layout localMac payloadLen src dst, Holds hdrBuf field.1 field.2 := by
  rw [buildReflectedHeaders, if_pos isIpv4, Checked.bind_eq_ok_iff] at built
  obtain ⟨⟨src, dst⟩, addresses, built⟩ := built
  simp only [Checked.bind_eq_ok_iff, Checked.pure_eq_ok, Except.ok.injEq, Prod.mk.injEq] at built
  obtain ⟨out, written, rfl, rfl⟩ := built
  unfold reflectedV4Addrs at addresses
  split at addresses
  · next client server srcEq dstEq =>
    simp only [Checked.pure_eq_ok, Except.ok.injEq, Prod.mk.injEq] at addresses
    obtain ⟨rfl, rfl⟩ := addresses
    exact ⟨_, _, srcEq, dstEq, rfl,
      (writeFields_holds (ascending_reflectedIpv4 payloadLen _ _) written).2.2⟩
  · cases addresses
  · cases addresses

/-- So they do over IPv6. -/
theorem buildReflectedHeaders_ipv6 {payloadLen : Nat} (isIpv6 : layout.isIpv4 = false)
    (built : buildReflectedHeaders (List.replicate 64 0) layout localMac payloadLen =
      .ok (hdrLen, hdrBuf)) :
    ∃ src dst, layout.srcIp = .v6 dst ∧ layout.dstIp = .v6 src ∧ hdrLen = 62 ∧
      ∀ field ∈ reflectedIpv6 layout localMac payloadLen src dst, Holds hdrBuf field.1 field.2 := by
  rw [buildReflectedHeaders, if_neg (Bool.eq_false_iff.mp isIpv6), Checked.bind_eq_ok_iff] at built
  obtain ⟨⟨src, dst⟩, addresses, built⟩ := built
  simp only [Checked.bind_eq_ok_iff, Checked.pure_eq_ok, Except.ok.injEq, Prod.mk.injEq] at built
  obtain ⟨out, written, rfl, rfl⟩ := built
  unfold reflectedV6Addrs at addresses
  split at addresses
  · next client server srcEq dstEq =>
    simp only [Checked.pure_eq_ok, Except.ok.injEq, Prod.mk.injEq] at addresses
    obtain ⟨rfl, rfl⟩ := addresses
    exact ⟨_, _, srcEq, dstEq, rfl,
      (writeFields_holds (ascending_reflectedIpv6 payloadLen _ _) written).2.2⟩
  · cases addresses
  · cases addresses

/-- A UDP frame without IPv6 extension headers has its UDP header right behind the fixed one. -/
theorem udpOffset_of_plain_ipv6 {contents : Bytes} {parsed : ParsedFrame}
    (shape : Layout contents parsed) {udpOffset quicOffset : Nat} {srcPort dstPort : UInt16}
    (l4 : parsed.l4 = .udp udpOffset quicOffset srcPort dstPort) (family : parsed.family = .ipv6)
    (plain : parsed.ipHdrLen ≤ 40) : udpOffset = 54 := by
  cases shape with
  | udp4 header protocol inside => cases family
  | icmp4 header protocol quote inside => cases family
  | udp6 header inside =>
    have forward := header.chain.offset_le
    cases l4
    simp only at plain
    omega
  | icmp6 header quote inside => cases l4

/-- All fields lie in the first 42 bytes. -/
theorem reflectedIpv4_le {payloadLen : Nat} {src dst : Octets 4} :
    ∀ field ∈ reflectedIpv4 layout localMac payloadLen src dst,
      field.1 + field.2.length ≤ 42 := by
  simp [reflectedIpv4, layout.srcMac.property, localMac.property, src.property, dst.property]

/-- Over IPv6 they lie in the first 62. -/
theorem reflectedIpv6_le {payloadLen : Nat} {src dst : Octets 16} :
    ∀ field ∈ reflectedIpv6 layout localMac payloadLen src dst,
      field.1 + field.2.length ≤ 62 := by
  simp [reflectedIpv6, layout.srcMac.property, localMac.property, src.property, dst.property]

end Reply

section Emissions

variable {crypto : RetryCrypto} {view after : FrameView} {parsed : ParsedFrame}
  {table : ConfigTable} {localMac : Mac} {nowMs : UInt64}

/-- A resized frame has the new length. -/
theorem resize_len {resized : FrameView} {newLen : Nat} (done : view.resize newLen = some resized) :
    resized.len = newLen := by
  unfold FrameView.resize at done
  split at done
  · cases done
    rfl
  · cases done

/-- The reply is the contents of the frame. -/
theorem Emission.contents_eq (emission : Emission crypto view parsed table localMac nowMs after)
    (sized : emission.frame.length = emission.resized.len) : after.contents = emission.frame :=
  (congrArg FrameView.contents emission.after_eq).trans (FrameView.contents_writeBack sized)

/-- The emitted frame is the reflected headers and the packet, up to the checksum. -/
theorem Emission.writes (emission : Emission crypto view parsed table localMac nowMs after)
    (behind : checksumOffset emission.layout + 2 ≤ emission.hdrLen) :
    after.contents.length = emission.hdrLen + emission.packet.length ∧
      Holds after.contents emission.hdrLen emission.packet ∧
      ∀ offset part, Holds emission.hdrBuf offset part → offset + part.length ≤ emission.hdrLen →
        offset + part.length ≤ checksumOffset emission.layout ∨
          checksumOffset emission.layout + 2 ≤ offset → Holds after.contents offset part := by
  obtain ⟨sized, payload, headers⟩ := writeReply_holds emission.written behind
  have newLen := resize_len emission.resize
  rw [FrameView.contents_length] at sized
  rw [emission.contents_eq sized]
  exact ⟨sized.trans newLen, payload, headers⟩

/-- The emitted frame answers the one it was written over, and its payload is the packet. -/
theorem Emission.reply (emission : Emission crypto view parsed table localMac nowMs after)
    (shape : Layout view.contents parsed) :
    ∃ reflected quicOffset, Layout after.contents reflected ∧
      Answers parsed reflected quicOffset ∧
      after.contents.drop quicOffset = emission.packet := by
  obtain ⟨l4, ipOffset, -, srcIp, dstIp, family⟩ := fromParsed_ok emission.fromParsed
  rcases family with ⟨isIpv4, -⟩ | ⟨isIpv6, ipv6, plain⟩
  · obtain ⟨src, dst, srcEq, dstEq, hdrLen, fields⟩ :=
      buildReflectedHeaders_ipv4 isIpv4 emission.headers
    have sumAt : checksumOffset emission.layout = 24 := by
      rw [checksumOffset, if_pos isIpv4, ipOffset]
    obtain ⟨sized, payload, headers⟩ := emission.writes (by omega)
    have kept : ∀ field ∈ reflectedIpv4 emission.layout localMac emission.packet.length src dst,
        field.1 + field.2.length ≤ 24 ∨ 26 ≤ field.1 → Holds after.contents field.1 field.2 := by
      intro field member apart
      have within := reflectedIpv4_le field member
      exact headers _ _ (fields field member) (by omega) (by omega)
    refine ⟨_, 42, layout_of_ipv4_reply (by omega) kept, ⟨?_, ?_, ⟨_, _, _, _, _, l4, rfl⟩⟩, ?_⟩
    · rw [← dstIp, dstEq]
    · rw [← srcIp, srcEq]
    · rw [hdrLen] at payload
      exact payload.drop_eq (by omega)
  · obtain ⟨src, dst, srcEq, dstEq, hdrLen, fields⟩ :=
      buildReflectedHeaders_ipv6 isIpv6 emission.headers
    have udpOffset := udpOffset_of_plain_ipv6 shape l4 ipv6 plain
    have sumAt : checksumOffset emission.layout = 60 := by
      rw [checksumOffset, if_neg (Bool.eq_false_iff.mp isIpv6), udpOffset]
    obtain ⟨sized, payload, headers⟩ := emission.writes (by omega)
    have kept : ∀ field ∈ reflectedIpv6 emission.layout localMac emission.packet.length src dst,
        field.1 + field.2.length ≤ 60 → Holds after.contents field.1 field.2 := by
      intro field member before
      have within := reflectedIpv6_le field member
      exact headers _ _ (fields field member) (by omega) (by omega)
    refine ⟨_, 62, layout_of_ipv6_reply (by omega) kept, ⟨?_, ?_, ⟨_, _, _, _, _, l4, rfl⟩⟩, ?_⟩
    · rw [← dstIp, dstEq]
    · rw [← srcIp, srcEq]
    · rw [hdrLen] at payload
      exact payload.drop_eq (by omega)

end Emissions

/-- The header form, fixed and type bits of a Retry in its version. -/
def IsRetryType (version : UInt32) (firstByte : UInt8) : Prop :=
  firstByte &&& 0xc0 = 0xc0 ∧
    (version = quicV1 ∧ (firstByte >>> 4) &&& 0b11 = 0b11 ∨
      version = quicV2 ∧ (firstByte >>> 4) &&& 0b11 = 0b00)

/-- The first byte has the Retry type of its version. -/
theorem retryFirstByte_type {version : UInt32} {firstByte : UInt8}
    (known : retryFirstByte version = some firstByte) : IsRetryType version firstByte := by
  unfold retryFirstByte at known
  split at known
  · next v1 =>
    cases known
    exact ⟨by decide, .inl ⟨v1, by decide⟩⟩
  · split at known
    · next v2 =>
      cases known
      exact ⟨by decide, .inr ⟨v2, by decide⟩⟩
    · cases known

/-- A Retry packet that answers an Initial: `payload` is its bytes, `packet` its fields. -/
structure RetryFor (crypto : RetryCrypto) (initial : Initial) (payload : Bytes)
    (packet : RetryPacket) : Prop where
  read : RetryPacket.read payload = some packet
  type : IsRetryType initial.version packet.firstByte
  version : packet.version = initial.version
  dcid : packet.dcid = initial.scid
  token : packet.token.length = 24
  tag : ∃ tag, computeIntegrityTag crypto initial.version initial.dcid
    (payload.take (payload.length - 16)) = .ok (.ok tag) ∧ packet.tag = tag.val

/-- The packet of an emission answers its Initial, with the Initial's destination connection ID as
source connection ID and the minted token. -/
theorem Emission.retryFor {crypto : RetryCrypto} {view after : FrameView} {parsed : ParsedFrame}
    {table : ConfigTable} {localMac : Mac} {nowMs : UInt64}
    (emission : Emission crypto view parsed table localMac nowMs after) :
    ∃ packet, RetryFor crypto emission.initial emission.packet packet ∧
      packet.scid = emission.initial.dcid ∧ packet.token = emission.token := by
  obtain ⟨firstByte, tag, known, -, tagged, read⟩ := buildRetry_read emission.built emission.cut
  exact ⟨_, ⟨read, retryFirstByte_type known, rfl, rfl, Token.mint_length emission.minted,
    ⟨tag, tagged, rfl⟩⟩, rfl, rfl⟩

/-- A Retry has the length of the two connection IDs and 47 bytes: seven of header, the token and
the tag. -/
theorem Emission.packet_size {crypto : RetryCrypto} {view after : FrameView} {parsed : ParsedFrame}
    {table : ConfigTable} {localMac : Mac} {nowMs : UInt64}
    (emission : Emission crypto view parsed table localMac nowMs after) :
    emission.packet.length = 47 + emission.initial.dcid.length + emission.initial.scid.length := by
  have tokenSized := Token.mint_length emission.minted
  obtain ⟨-, -, -, sized, -, -⟩ := buildRetry_read emission.built emission.cut
  omega

/-- A frame that carries an Initial. -/
structure CarriesInitial (view : FrameView) (parsed : ParsedFrame) (initial : Initial) : Prop where
  parse : parseFrame view.contents = .ok (some parsed)
  udp : ∃ udpOffset quicOffset srcPort dstPort,
    parsed.l4 = .udp udpOffset quicOffset srcPort dstPort ∧
      parseStrict (view.contents.drop quicOffset) = .ok (.ok initial)

/-- A frame the Retry service is responsible for: to one of its ports, and without IPv6 extension
headers. -/
structure InScope (retry : RetryConfig) (parsed : ParsedFrame) : Prop where
  plain : parsed.family = .ipv6 → parsed.ipHdrLen = 40
  port : ∀ udpOffset quicOffset srcPort dstPort,
    parsed.l4 = .udp udpOffset quicOffset srcPort dstPort →
      retry.ports = [] ∨ dstPort ∈ retry.ports

/-- The payload begins inside the frame. -/
theorem quicOffset_le {contents : Bytes} {parsed : ParsedFrame} (shape : Layout contents parsed)
    {udpOffset quicOffset : Nat} {srcPort dstPort : UInt16}
    (l4 : parsed.l4 = .udp udpOffset quicOffset srcPort dstPort) :
    quicOffset ≤ contents.length := by
  cases shape with
  | udp4 header protocol inside =>
    cases l4
    exact inside
  | icmp4 header protocol quote inside => cases l4
  | udp6 header inside =>
    cases l4
    exact inside
  | icmp6 header quote inside => cases l4

/-- A CID of at most 20 bytes can be copied aside. -/
theorem copyInto_snapshot {cid : Bytes} (short : cid.length ≤ 20) :
    ∃ copied, copyInto (List.replicate 20 0) 0 cid.length cid = .ok copied := by
  refine ⟨_, copyInto_eq_ok_iff.mpr ⟨Nat.zero_le _, ?_, rfl, rfl⟩⟩
  simpa using short

/-- Without extension headers the IPv6 header has its fixed length. -/
theorem ipHdrLen_of_plain_ipv6 {contents : Bytes} {parsed : ParsedFrame}
    (shape : Layout contents parsed) (family : parsed.family = .ipv6)
    (plain : parsed.ipHdrLen ≤ 40) : parsed.ipHdrLen = 40 := by
  cases shape with
  | udp4 header protocol inside => cases family
  | icmp4 header protocol quote inside => cases family
  | udp6 header inside =>
    have forward := header.chain.offset_le
    simp only at plain ⊢
    omega
  | icmp6 header quote inside =>
    have forward := header.chain.offset_le
    simp only at plain ⊢
    omega

/-- An Initial that the Retry service decides on. -/
structure Offered (table : ConfigTable) (view : FrameView) (parsed : ParsedFrame)
    (retry : RetryConfig) (initial : Initial) : Prop where
  configured : table.retry = some retry
  enabled : retry.enabled = true
  carries : CarriesInitial view parsed initial
  inScope : InScope retry parsed

section Offers

variable {view : FrameView} {parsed : ParsedFrame} {table : ConfigTable} {retry : RetryConfig}
  {initial : Initial}

/-- A frame that Retry is offered is handled as its Initial. -/
theorem tryHandle_offered (offered : Offered table view parsed retry initial)
    (crypto : RetryCrypto) (localMac : Mac) (nowMs pending : UInt64) :
    ∃ layout, FrameLayout.fromParsed parsed = some layout ∧
      tryHandle crypto view parsed table localMac nowMs pending =
        handleInitial crypto view layout retry localMac nowMs pending initial := by
  obtain ⟨udpOffset, quicOffset, srcPort, dstPort, l4, parsedInitial⟩ := offered.carries.udp
  have listed := offered.inScope.port _ _ _ _ l4
  have shape := parseFrame_eq_some_iff.mp offered.carries.parse
  obtain ⟨layout, promoted⟩ : ∃ layout, FrameLayout.fromParsed parsed = some layout := by
    unfold FrameLayout.fromParsed
    cases family : parsed.family with
    | ipv4 => simp [l4]
    | ipv6 => simp [l4, offered.inScope.plain family]
  obtain ⟨layoutL4, -, -, -, -, -⟩ := fromParsed_ok promoted
  obtain ⟨-, rfl, -, rfl⟩ : udpOffset = layout.udpOffset ∧ quicOffset = layout.quicOffset ∧
      srcPort = layout.srcPort ∧ dstPort = layout.dstPort := by
    simpa using l4.symm.trans layoutL4
  have notFiltered : ¬ (retry.ports ≠ [] ∧ layout.dstPort ∉ retry.ports) := by
    rintro ⟨limited, missing⟩
    rcases listed with unlimited | listed
    · exact limited unlimited
    · exact missing listed
  refine ⟨layout, promoted, ?_⟩
  unfold tryHandle
  simp only [offered.configured, promoted]
  rw [if_neg (Decidable.not_not.mpr offered.enabled), if_neg notFiltered,
    sliceFrom_of_le (quicOffset_le shape layoutL4), Checked.ok_bind, parsedInitial, Checked.ok_bind]

/-- A frame without such an Initial is skipped as it is. -/
theorem tryHandle_not_offered (parse : parseFrame view.contents = .ok (some parsed))
    (none : ∀ retry initial, ¬ Offered table view parsed retry initial) (crypto : RetryCrypto)
    (localMac : Mac) (nowMs pending : UInt64) :
    ∃ detail, tryHandle crypto view parsed table localMac nowMs pending =
      .ok ((.skip, detail), view, pending) := by
  have shape := parseFrame_eq_some_iff.mp parse
  unfold tryHandle
  cases configured : table.retry with
  | none => exact ⟨.none, rfl⟩
  | some retry =>
    simp only
    split
    · exact ⟨.none, rfl⟩
    next enabled =>
    cases promoted : FrameLayout.fromParsed parsed with
    | none => exact ⟨.none, rfl⟩
    | some layout =>
      simp only
      split
      · exact ⟨.none, rfl⟩
      next notFiltered =>
      obtain ⟨l4, -, -, -, -, family⟩ := fromParsed_ok promoted
      rw [sliceFrom_of_le (quicOffset_le shape l4), Checked.ok_bind]
      obtain ⟨result, read⟩ := parseStrict_returns (view.contents.drop layout.quicOffset)
      rw [read, Checked.ok_bind]
      cases result with
      | error failure => exact ⟨_, rfl⟩
      | ok initial =>
        refine absurd ?_ (none retry initial)
        refine ⟨configured, Decidable.not_not.mp enabled, ⟨parse, _, _, _, _, l4, read⟩, ?_, ?_⟩
        · intro ipv6
          rcases family with ⟨-, ipv4⟩ | ⟨-, -, plain⟩
          · rw [ipv4] at ipv6
            cases ipv6
          · exact ipHdrLen_of_plain_ipv6 shape ipv6 plain
        · intro udpOffset quicOffset srcPort dstPort l4'
          obtain ⟨-, -, -, rfl⟩ := L4.udp.inj (l4.symm.trans l4')
          by_cases unlimited : retry.ports = []
          · exact .inl unlimited
          · exact .inr (Decidable.of_not_not fun missing => notFiltered ⟨unlimited, missing⟩)

/-- An Initial whose token verifies is forwarded, in every mode, and its frame is not touched. -/
theorem tryHandle_of_verified {crypto : RetryCrypto} {nowMs : UInt64}
    (configured : table.retry = some retry) (enabled : retry.enabled = true)
    (carries : CarriesInitial view parsed initial) (inScope : InScope retry parsed)
    (sized : initial.token.length = 24)
    (verified : Token.verify crypto retry.tokenKey initial.token parsed.srcAddr initial.dcid nowMs
      retry.tokenLifetimeMs = .ok ()) (localMac : Mac) (pending : UInt64) :
    tryHandle crypto view parsed table localMac nowMs pending =
      .ok ((.forward, .tokenValid), view, pending) := by
  obtain ⟨layout, promoted, handled⟩ :=
    tryHandle_offered ⟨configured, enabled, carries, inScope⟩ crypto localMac nowMs pending
  obtain ⟨-, -, -, srcIp, -, -⟩ := fromParsed_ok promoted
  obtain ⟨_, _, _, _, -, parsedInitial⟩ := carries.udp
  have wellFormed := parseStrict_wellFormed parsedInitial
  obtain ⟨dcidBuf, dcidCopied⟩ := copyInto_snapshot wellFormed.dcid_le
  obtain ⟨scidBuf, scidCopied⟩ := copyInto_snapshot wellFormed.scid_le
  have classified : classify crypto initial layout.srcIp retry nowMs pending =
      .ok ((.forward, .tokenValid), pending) := by
    rw [classify, if_pos (show initial.token.length = tokenLen from sized), srcIp, verified]
    rfl
  simp only [handled, handleInitial, dcidCopied, scidCopied, classified, Checked.ok_bind]
  rfl

end Offers

/-- A frame that was answered carried an Initial. -/
theorem Emission.carries {crypto : RetryCrypto} {view after : FrameView} {parsed : ParsedFrame}
    {table : ConfigTable} {localMac : Mac} {nowMs : UInt64}
    (emission : Emission crypto view parsed table localMac nowMs after)
    (parse : parseFrame view.contents = .ok (some parsed)) :
    CarriesInitial view parsed emission.initial :=
  ⟨parse, _, _, _, _, (fromParsed_ok emission.fromParsed).1, emission.parsedInitial⟩

/-- Every emission is a Retry for its Initial, in a frame that answers the received one. -/
theorem tryHandle_answered {crypto : RetryCrypto} {view after : FrameView} {parsed : ParsedFrame}
    {table : ConfigTable} {localMac : Mac} {nowMs pending pending' : UInt64} {detail : Detail}
    (parse : parseFrame view.contents = .ok (some parsed))
    (emitted : tryHandle crypto view parsed table localMac nowMs pending =
      .ok ((.emitted, detail), after, pending')) :
    ∃ (emission : Emission crypto view parsed table localMac nowMs after)
      (reflected : ParsedFrame) (quicOffset : Nat) (packet : RetryPacket),
      parseFrame after.contents = .ok (some reflected) ∧ Answers parsed reflected quicOffset ∧
        RetryFor crypto emission.initial (after.contents.drop quicOffset) packet ∧
        packet.scid = emission.initial.dcid ∧ packet.token = emission.token := by
  obtain ⟨emission⟩ := tryHandle_emission emitted
  obtain ⟨reflected, quicOffset, shape, answers, payload⟩ :=
    emission.reply (parseFrame_eq_some_iff.mp parse)
  obtain ⟨packet, retryFor, scid, token⟩ := emission.retryFor
  rw [← payload] at retryFor
  exact ⟨emission, reflected, quicOffset, packet, parseFrame_eq_some_iff.mpr shape, answers,
    retryFor, scid, token⟩

/-- The exchange a Retry starts: whoever comes back under the same signing key with the token, the
connection ID and the address of the reply, before the token expires, is forwarded. -/
def LetsBackIn (crypto : RetryCrypto) (retry : RetryConfig) (parsed : ParsedFrame)
    (initial : Initial) (packet : RetryPacket) (issuedMs : UInt64) : Prop :=
  ∀ view' parsed' initial' table' retry' localMac' nowMs pending',
    table'.retry = some retry' → retry'.enabled = true → retry'.tokenKey = retry.tokenKey →
    CarriesInitial view' parsed' initial' → InScope retry' parsed' →
    parsed'.srcAddr = parsed.srcAddr → initial'.version = initial.version →
    initial'.dcid = packet.scid → initial'.token = packet.token →
    issuedMs.toNat ≤ nowMs.toNat → nowMs.toNat ≤ issuedMs.toNat + retry'.tokenLifetimeMs.toNat →
    tryHandle crypto view' parsed' table' localMac' nowMs pending' =
      .ok ((.forward, .tokenValid), view', pending')

namespace SampleRetry

def file : RawRetry where
  enabled := true
  tokenKey := some "0102030405060708090a0b0c0d0e0f101112131415161718191a1b1c1d1e1f20"
  tokenLifetimeSecs := 10
  mode := "always"
  ports := []
  load := none
  maxKeyAgeSecs := none

def entry : RawConfig := ⟨0, false, 3, 13, none, [], none⟩

/-- The table in the file, if it parses. -/
def loaded : Option ConfigTable :=
  match ConfigTable.fromStr [entry] (some file) 0 with
  | .ok (.ok table) => some table
  | _ => none

def table : ConfigTable := loaded.get (by decide +kernel)

def retry : RetryConfig := table.retry.get (by decide +kernel)

/-- The sample's table has Retry settings. -/
theorem configured : table.retry = some retry := (Option.some_get _).symm

def localMac : Mac := macOctets 0x11 0x22 0x33 0x44 0x55 0x66

def client : Octets 4 := ipv4Octets 203 0 113 7

def server : Octets 4 := ipv4Octets 10 0 0 1

def clientDcid : Bytes := List.replicate 8 0xaa

def clientScid : Bytes := List.replicate 4 0xbb

/-- HMAC-SHA256 of the client's address, the time 2000 and the connection ID under the key of
the file. -/
def mac : Octets 32 :=
  ⟨[0xa9, 0x16, 0x0d, 0xd6, 0xb8, 0x23, 0xc5, 0x3f, 0x6c, 0x45, 0xc8, 0xe7, 0x9e, 0xa3, 0x04, 0xf6,
    0xd2, 0x07, 0x2a, 0x5f, 0xf4, 0xd8, 0xd8, 0xe5, 0xd8, 0x76, 0xe8, 0xdc, 0x9c, 0x36, 0x4d, 0xdd],
    rfl⟩

def token : Bytes := [0, 0, 0, 0, 0, 0, 0x07, 0xd0] ++ mac.val.take 16

/-- The Retry for the sample Initial, without its tag. -/
def body : Bytes := [0xf0, 0, 0, 0, 1, 4] ++ clientScid ++ [8] ++ clientDcid ++ token

/-- The integrity tag of that body. -/
def tag : Octets 16 :=
  ⟨[0xd5, 0xf4, 0x8f, 0xb0, 0x7d, 0xcf, 0xb9, 0x3b, 0x8d, 0x98, 0x70, 0xd1, 0x48, 0xb1, 0x38, 0x22],
    rfl⟩

/-- The two primitives on the messages of the sample exchange. -/
def crypto : RetryCrypto where
  hmacSha256 key message :=
    if key = retry.tokenKey ∧
        message = [4, 203, 0, 113, 7, 0, 0, 0, 0, 0, 0, 0x07, 0xd0, 8] ++ clientDcid then mac
    else ⟨List.replicate 32 0, rfl⟩
  aes128GcmTag key nonce aad :=
    if key = retryKeyV1 ∧ nonce = retryNonceV1 ∧ aad = 8 :: clientDcid ++ body then tag
    else ⟨List.replicate 16 0, rfl⟩

/-- A version 1 Initial from the sample client, in a frame of its own. -/
def frame (scid payload initialToken : Bytes) : Bytes :=
  let quic := [0xc0, 0, 0, 0, 1, 8] ++ clientDcid ++ [UInt8.ofNat scid.length] ++ scid ++
    [UInt8.ofNat initialToken.length] ++ initialToken ++ [UInt8.ofNat payload.length] ++ payload
  localMac.val ++ List.replicate 6 0xaa ++ [0x08, 0x00] ++
    [0x45, 0] ++ toBe 2 (28 + quic.length) ++ [0, 0, 0, 0, 0x40, 17, 0, 0] ++ client.val ++
    server.val ++ toBe 2 12345 ++ toBe 2 4433 ++ toBe 2 (8 + quic.length) ++ [0, 0] ++ quic

def view (scid payload initialToken : Bytes) : FrameView :=
  let bytes := frame scid payload initialToken
  ⟨bytes ++ List.replicate 64 0, bytes.length, by simp⟩

def parsed : ParsedFrame :=
  ⟨.ipv4, 20, ⟨List.replicate 6 0xaa, rfl⟩, .v4 client, .v4 server, .udp 34 42 12345 4433⟩

def first : FrameView := view clientScid (List.replicate 20 0) []

/-- The frame after `tryHandle` has written the reply into it. -/
def reply : FrameView :=
  match tryHandle crypto first parsed table localMac 2000 0 with
  | .ok (_, after, _) => after
  | .error _ => first

def initial : Initial := ⟨0xc0, 1, clientDcid, clientScid, [], 20, 21⟩

def packet : RetryPacket := ⟨0xf0, 1, clientScid, clientDcid, token, tag.val⟩

/-- The client's second Initial, under a new source connection ID and with another payload. -/
def second : FrameView := view [0x5c] (List.replicate 24 1) token

def secondInitial : Initial := ⟨0xc0, 1, clientDcid, [0x5c], token, 24, 42⟩

/-- What the parsers and the classifier make of the three frames. -/
theorem frames_read :
    (parseFrame first.contents = .ok (some parsed) ∧
      parseStrict (first.contents.drop 42) = .ok (.ok initial)) ∧
    (tryHandle crypto first parsed table localMac 2000 0 = .ok ((.emitted, .issued), reply, 0) ∧
      parseFrame reply.contents = .ok (some
        ⟨.ipv4, 20, localMac, .v4 server, .v4 client, .udp 34 42 4433 12345⟩) ∧
      RetryPacket.read (reply.contents.drop 42) = some packet) ∧
    parseFrame second.contents = .ok (some parsed) ∧
      parseStrict (second.contents.drop 42) = .ok (.ok secondInitial) := by decide +kernel

/-- The first frame is parsed. -/
theorem first_parses : parseFrame first.contents = .ok (some parsed) := frames_read.1.1

/-- It carries an Initial. -/
theorem first_initial : parseStrict (first.contents.drop 42) = .ok (.ok initial) :=
  frames_read.1.2

/-- It is answered. -/
theorem first_emitted : tryHandle crypto first parsed table localMac 2000 0 =
    .ok ((.emitted, .issued), reply, 0) := frames_read.2.1.1

/-- The answer is parsed, with the addresses swapped. -/
theorem reply_parses : parseFrame reply.contents = .ok (some
    ⟨.ipv4, 20, localMac, .v4 server, .v4 client, .udp 34 42 4433 12345⟩) := frames_read.2.1.2.1

/-- It is a Retry packet. -/
theorem reply_read : RetryPacket.read (reply.contents.drop 42) = some packet :=
  frames_read.2.1.2.2

/-- The second frame carries an Initial with the token. -/
theorem second_carries : CarriesInitial second parsed secondInitial :=
  ⟨frames_read.2.2.1, 34, 42, 12345, 4433, rfl, frames_read.2.2.2⟩

end SampleRetry

/-- A Retry closes the loop: the emitted frame answers the client with a Retry for its Initial, and
the client's next Initial with that token passes, in every mode. -/
theorem retry_closes_loop {crypto : RetryCrypto} {view after : FrameView} {parsed : ParsedFrame}
    {table : ConfigTable} {localMac : Mac} {issuedMs pending pending' : UInt64} {detail : Detail}
    (parse : parseFrame view.contents = .ok (some parsed))
    (emitted : tryHandle crypto view parsed table localMac issuedMs pending =
      .ok ((.emitted, detail), after, pending')) :
    ∃ retry initial reflected quicOffset packet, table.retry = some retry ∧
      CarriesInitial view parsed initial ∧
      parseFrame after.contents = .ok (some reflected) ∧ Answers parsed reflected quicOffset ∧
      RetryFor crypto initial (after.contents.drop quicOffset) packet ∧
      LetsBackIn crypto retry parsed initial packet issuedMs := by
  obtain ⟨emission, reflected, quicOffset, packet, replyParse, answers, retryFor, scid, token⟩ :=
    tryHandle_answered parse emitted
  obtain ⟨-, -, -, srcIp, -, -⟩ := fromParsed_ok emission.fromParsed
  refine ⟨emission.retry, emission.initial, reflected, quicOffset, packet, emission.configured,
    emission.carries parse, replyParse, answers, retryFor, ?_⟩
  intro view' parsed' initial' table' retry' localMac' nowMs pending' configured enabled sameKey
    carries inScope sameAddr _ sameDcid sameToken notBefore fresh
  have tokenSized : initial'.token.length = 24 := by
    rw [sameToken]
    exact retryFor.token
  have verified := Token.verify_mint emission.minted notBefore fresh
  rw [srcIp, ← sameAddr, ← sameKey, ← token, ← sameToken, ← scid, ← sameDcid] at verified
  exact tryHandle_of_verified configured enabled carries inScope tokenSized verified localMac'
    pending'

/-- The sample client is let back in with its second Initial, fifty milliseconds later. -/
theorem sample_client_let_back_in :
    tryHandle SampleRetry.crypto SampleRetry.first SampleRetry.parsed SampleRetry.table
        SampleRetry.localMac 2000 0 = .ok ((.emitted, .issued), SampleRetry.reply, 0) ∧
      tryHandle SampleRetry.crypto SampleRetry.second SampleRetry.parsed SampleRetry.table
        SampleRetry.localMac 2050 0 = .ok ((.forward, .tokenValid), SampleRetry.second, 0) := by
  refine ⟨SampleRetry.first_emitted, ?_⟩
  obtain ⟨retry, initial, reflected, quicOffset, packet, configured, carries, parse, answers,
    retryFor, backIn⟩ := retry_closes_loop SampleRetry.first_parses SampleRetry.first_emitted
  have sameRetry : retry = SampleRetry.retry :=
    Option.some.inj (configured.symm.trans SampleRetry.configured)
  -- The reply parses to one layout only, which says where its payload starts.
  have payloadAt : quicOffset = 42 := by
    obtain ⟨udpOffset, udpOffset', quicOffset', srcPort, dstPort, -, l4⟩ := answers.ports
    have same := parse.symm.trans SampleRetry.reply_parses
    simp only [Except.ok.injEq, Option.some.injEq] at same
    rw [same] at l4
    exact ((L4.udp.inj l4).2.1).symm
  have samePacket : packet = SampleRetry.packet := by
    have read := retryFor.read
    rw [payloadAt] at read
    exact Option.some.inj (read.symm.trans SampleRetry.reply_read)
  have sameVersion : SampleRetry.secondInitial.version = initial.version := by
    rw [← retryFor.version, samePacket]
    rfl
  exact backIn SampleRetry.second SampleRetry.parsed SampleRetry.secondInitial SampleRetry.table
    SampleRetry.retry SampleRetry.localMac 2050 0 SampleRetry.configured (by decide +kernel)
    (by rw [sameRetry]) SampleRetry.second_carries ⟨by simp [SampleRetry.parsed], fun _ _ _ _ _ =>
      .inl (by decide +kernel)⟩ rfl sameVersion (by rw [samePacket]; rfl) (by rw [samePacket]; rfl)
    (by decide) (by decide +kernel)

/-- What the Retry says to the client: it names the client's own connection ID as destination and
the Initial's destination connection ID as source, and carries a token, all in the encoding of
the Initial's version. -/
theorem retry_names_initial_cids {crypto : RetryCrypto} {view after : FrameView}
    {parsed : ParsedFrame} {table : ConfigTable} {localMac : Mac}
    {nowMs pending pending' : UInt64} {detail : Detail}
    (parse : parseFrame view.contents = .ok (some parsed))
    (emitted : tryHandle crypto view parsed table localMac nowMs pending =
      .ok ((.emitted, detail), after, pending')) :
    ∃ initial reflected quicOffset packet, CarriesInitial view parsed initial ∧
      parseFrame after.contents = .ok (some reflected) ∧ Answers parsed reflected quicOffset ∧
      RetryPacket.read (after.contents.drop quicOffset) = some packet ∧
      packet.dcid = initial.scid ∧ packet.scid = initial.dcid ∧ packet.token ≠ [] ∧
      packet.version = initial.version ∧ IsRetryType initial.version packet.firstByte := by
  obtain ⟨emission, reflected, quicOffset, packet, replyParse, answers, retryFor, scid, -⟩ :=
    tryHandle_answered parse emitted
  have someToken : packet.token ≠ [] := by
    intro empty
    have sized := retryFor.token
    rw [empty] at sized
    cases sized
  exact ⟨emission.initial, reflected, quicOffset, packet, emission.carries parse, replyParse,
    answers, retryFor.read, retryFor.dcid, scid, someToken, retryFor.version, retryFor.type⟩

/-- The Retry for the sample Initial has the Initial's destination connection ID as its source
connection ID. -/
theorem sample_retry_reuses_dcid :
    parseFrame SampleRetry.first.contents = .ok (some SampleRetry.parsed) ∧
      parseStrict (SampleRetry.first.contents.drop 42) = .ok (.ok SampleRetry.initial) ∧
      tryHandle SampleRetry.crypto SampleRetry.first SampleRetry.parsed SampleRetry.table
        SampleRetry.localMac 2000 0 = .ok ((.emitted, .issued), SampleRetry.reply, 0) ∧
      RetryPacket.read (SampleRetry.reply.contents.drop 42) = some SampleRetry.packet ∧
      ¬ SampleRetry.packet.scid ≠ SampleRetry.initial.dcid :=
  ⟨SampleRetry.first_parses, SampleRetry.first_initial, SampleRetry.first_emitted,
    SampleRetry.reply_read, fun differs => differs rfl⟩

/-- The sample emission meets the hypotheses. -/
theorem sample_retry_names_cids :
    ∃ initial reflected quicOffset packet,
      CarriesInitial SampleRetry.first SampleRetry.parsed initial ∧
      parseFrame SampleRetry.reply.contents = .ok (some reflected) ∧
      Answers SampleRetry.parsed reflected quicOffset ∧
      RetryPacket.read (SampleRetry.reply.contents.drop quicOffset) = some packet ∧
      packet.dcid = initial.scid ∧ packet.scid = initial.dcid ∧ packet.token ≠ [] ∧
      packet.version = initial.version ∧ IsRetryType initial.version packet.firstByte :=
  retry_names_initial_cids SampleRetry.first_parses SampleRetry.first_emitted

end Pesigitg
