import Pesigitg.Quic.Grammar
import Pesigitg.Retry.Exchange

/-!
# Amplification

A Retry goes to an address nobody has validated yet. Its length is that of the two connection IDs
of the Initial and 47 bytes of header, token and tag, whatever the length of the datagram it
answers: an Initial with short connection IDs and next to no payload is answered by a datagram
more than three times its own.
-/

namespace Pesigitg

open Base Quic

/-- What a frame carries behind its UDP header. -/
def udpPayload (contents : Bytes) (parsed : ParsedFrame) : Bytes :=
  match parsed.l4 with
  | .udp _ quicOffset _ _ => contents.drop quicOffset
  | .icmp _ _ => []

/-- The payload starts at the QUIC offset. -/
theorem udpPayload_udp {contents : Bytes} {parsed : ParsedFrame} {udpOffset quicOffset : Nat}
    {srcPort dstPort : UInt16} (l4 : parsed.l4 = .udp udpOffset quicOffset srcPort dstPort) :
    udpPayload contents parsed = contents.drop quicOffset := by
  rw [udpPayload, l4]

/-- The shortest datagram an Initial can stand in: the fixed bytes, its connection IDs and a byte
for each of the two length fields. -/
theorem CarriesInitial.le_payload {view : FrameView} {parsed : ParsedFrame} {initial : Initial}
    (carries : CarriesInitial view parsed initial) :
    9 + initial.dcid.length + initial.scid.length ≤ (udpPayload view.contents parsed).length := by
  obtain ⟨-, udpOffset, quicOffset, srcPort, dstPort, l4, accepted⟩ := carries
  obtain ⟨tokenField, lengthField, payload, tokenVarint, lengthVarint, packet, -, -⟩ :=
    (parseStrict_spells_iff.mp accepted).fields
  have tokenSize := tokenVarint.one_le_length
  have lengthSize := lengthVarint.one_le_length
  rw [udpPayload_udp l4, packet]
  simp only [Initial.header, List.length_append, List.length_cons, List.length_nil, toBe_length]
  omega

section Emissions

variable {crypto : RetryCrypto} {view after : FrameView} {parsed : ParsedFrame}
  {table : ConfigTable} {localMac : Mac} {nowMs : UInt64}

/-- The datagram that leaves is the Retry packet. -/
theorem Emission.payload_length (emission : Emission crypto view parsed table localMac nowMs after)
    (parse : parseFrame view.contents = .ok (some parsed)) :
    ∃ reflected, parseFrame after.contents = .ok (some reflected) ∧
      (udpPayload after.contents reflected).length =
        47 + emission.initial.dcid.length + emission.initial.scid.length := by
  obtain ⟨reflected, quicOffset, shape, answers, payload⟩ :=
    emission.reply (parseFrame_eq_some_iff.mp parse)
  obtain ⟨udpOffset, -, -, srcPort, dstPort, -, l4⟩ := answers.ports
  refine ⟨reflected, parseFrame_eq_some_iff.mpr shape, ?_⟩
  rw [udpPayload_udp l4, payload, emission.packet_size]

/-- Only an Initial whose connection IDs have less than ten bytes between them can be amplified:
with longer ones the Initial itself has a third of the length of the Retry. -/
theorem Emission.not_amplified_iff
    (emission : Emission crypto view parsed table localMac nowMs after)
    (parse : parseFrame view.contents = .ok (some parsed)) :
    47 + emission.initial.dcid.length + emission.initial.scid.length ≤
        3 * (udpPayload view.contents parsed).length ↔
      10 ≤ emission.initial.dcid.length + emission.initial.scid.length ∨
        47 + emission.initial.dcid.length + emission.initial.scid.length ≤
          3 * (udpPayload view.contents parsed).length := by
  have shortest := (emission.carries parse).le_payload
  omega

end Emissions

/-- A Retry is at most three times the datagram it answers exactly if the connection IDs of the
Initial are long enough, or the datagram is long enough for 47 bytes and those connection IDs. -/
theorem retry_not_amplified_iff {crypto : RetryCrypto} {view after : FrameView} {parsed : ParsedFrame}
    {table : ConfigTable} {localMac : Mac} {nowMs pending pending' : UInt64} {detail : Detail}
    (parse : parseFrame view.contents = .ok (some parsed))
    (emitted : tryHandle crypto view parsed table localMac nowMs pending =
      .ok ((.emitted, detail), after, pending')) :
    ∃ initial reflected, CarriesInitial view parsed initial ∧
      parseFrame after.contents = .ok (some reflected) ∧
      ((udpPayload after.contents reflected).length ≤
          3 * (udpPayload view.contents parsed).length ↔
        10 ≤ initial.dcid.length + initial.scid.length ∨
          47 + initial.dcid.length + initial.scid.length ≤
            3 * (udpPayload view.contents parsed).length) := by
  obtain ⟨emission⟩ := tryHandle_emission emitted
  obtain ⟨reflected, replyParse, sized⟩ := emission.payload_length parse
  refine ⟨emission.initial, reflected, emission.carries parse, replyParse, ?_⟩
  rw [sized]
  exact emission.not_amplified_iff parse

/-- The Initial of the sample client has 20 bytes of payload and is not amplified. -/
theorem sample_retry_not_amplified :
    tryHandle SampleRetry.crypto SampleRetry.first SampleRetry.parsed SampleRetry.table
        SampleRetry.localMac 2000 0 = .ok ((.emitted, .issued), SampleRetry.reply, 0) ∧
      ∃ reflected, parseFrame SampleRetry.reply.contents = .ok (some reflected) ∧
        (udpPayload SampleRetry.reply.contents reflected).length ≤
          3 * (udpPayload SampleRetry.first.contents SampleRetry.parsed).length := by
  refine ⟨SampleRetry.first_emitted, ?_⟩
  obtain ⟨initial, reflected, carries, parse, bounded⟩ :=
    retry_not_amplified_iff SampleRetry.first_parses SampleRetry.first_emitted
  obtain ⟨-, udpOffset, quicOffset, srcPort, dstPort, l4, accepted⟩ := carries
  obtain ⟨-, rfl, -, -⟩ := L4.udp.inj l4
  obtain rfl : initial = SampleRetry.initial := by
    have same := accepted.symm.trans SampleRetry.first_initial
    simpa only [Except.ok.injEq] using same
  exact ⟨reflected, parse, bounded.mpr (by decide +kernel)⟩

namespace SmallInitial

/-- The shortest Initial there is: no connection IDs, no token and no payload. -/
def quic : Bytes := [0xc0, 0, 0, 0, 1, 0, 0, 0, 0]

def frame : Bytes :=
  SampleRetry.localMac.val ++ List.replicate 6 0xaa ++ [0x08, 0x00] ++
    [0x45, 0, 0, 37, 0, 0, 0, 0, 0x40, 17, 0, 0] ++ SampleRetry.client.val ++
    SampleRetry.server.val ++ toBe 2 12345 ++ toBe 2 4433 ++ [0, 17, 0, 0] ++ quic

def received : FrameView := ⟨frame ++ List.replicate 64 0, 51, by decide⟩

def reply : FrameView :=
  match tryHandle SampleRetry.crypto received SampleRetry.parsed SampleRetry.table
    SampleRetry.localMac 2000 0 with
  | .ok (_, after, _) => after
  | .error _ => received

end SmallInitial

/-- Nine bytes from an unvalidated address are answered by forty-seven. -/
theorem small_initial_amplified :
    parseFrame SmallInitial.received.contents = .ok (some SampleRetry.parsed) ∧
      tryHandle SampleRetry.crypto SmallInitial.received SampleRetry.parsed SampleRetry.table
        SampleRetry.localMac 2000 0 = .ok ((.emitted, .issued), SmallInitial.reply, 0) ∧
      parseFrame SmallInitial.reply.contents = .ok (some
        ⟨.ipv4, 20, SampleRetry.localMac, .v4 SampleRetry.server, .v4 SampleRetry.client,
          .udp 34 42 4433 12345⟩) ∧
      (udpPayload SmallInitial.received.contents SampleRetry.parsed).length = 9 ∧
      (udpPayload SmallInitial.reply.contents
        ⟨.ipv4, 20, SampleRetry.localMac, .v4 SampleRetry.server, .v4 SampleRetry.client,
          .udp 34 42 4433 12345⟩).length = 47 := by
  decide +kernel

end Pesigitg
