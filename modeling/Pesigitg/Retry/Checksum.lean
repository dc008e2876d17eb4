import Pesigitg.Base.OnesComplement
import Pesigitg.Retry.Classifier
import Pesigitg.Retry.Reply

/-!
# Checksums of a reply

The accumulator of the checksum loop reduces to a one's complement sum (`foldCarry_reduces`), so
a written checksum cancels whatever it was computed over. For an IPv6 reply that is the datagram
and its pseudo-header. For an IPv4 reply it is a stretch as long as the header of the received
frame, which is the reply's header only if the received one had no options.
-/

namespace Pesigitg

open Base Quic

section Accumulator

/-- A sum of words that fits 32 bits does not wrap. -/
theorem foldSlice_toNat {acc : UInt32} {bytes : Bytes} (fits : acc.toNat + wordSum bytes < 2 ^ 32) :
    (foldSlice acc bytes).toNat = acc.toNat + wordSum bytes := by
  induction acc, bytes using foldSlice.induct with
  | case1 acc high low rest ih =>
    have total : wordSum (high :: low :: rest) = ofBe [high, low] + wordSum rest := by
      simp [wordSum, words]
    have word : (beU16 high low).toUInt32.toNat = ofBe [high, low] := by
      have bound := word_le high low
      rw [UInt16.toNat_toUInt32, beU16, UInt16.toNat_ofNat', Nat.mod_eq_of_lt (by omega)]
    have added : (acc + (beU16 high low).toUInt32).toNat = acc.toNat + ofBe [high, low] := by
      rw [UInt32.toNat_add, word, Nat.mod_eq_of_lt (by omega)]
    rw [foldSlice, ih (by omega), added, total]
    omega
  | case2 acc high =>
    have total : wordSum [high] = high.toNat * 256 := by
      simp [wordSum, words, ofBe_pair]
    have shifted : (high.toUInt32 <<< 8).toNat = high.toNat * 256 := by
      have bound := high.toNat_lt
      rw [UInt32.toNat_shiftLeft, UInt8.toNat_toUInt32]
      simp only [UInt32.reduceToNat, Nat.reduceMod, Nat.shiftLeft_eq, Nat.reducePow]
      omega
    rw [foldSlice, UInt32.toNat_add, shifted, total, Nat.mod_eq_of_lt (by omega)]
  | case3 acc => simp [foldSlice, wordSum, words]

/-- Folding the carries in once keeps the reduction. -/
theorem reduces_foldStep {value : Nat} {sum : UInt32}
    (reduces : Reduces 65535 value ((sum &&& (0xffff : UInt32)) + (sum >>> 16)).toNat) :
    Reduces 65535 value sum.toNat := by
  have halves : sum.toNat = sum.toNat / 65536 * (65535 + 1) + sum.toNat % 65536 := by omega
  rw [foldStep_toNat] at reduces
  rw [halves]
  exact reduces.fold

/-- However many rounds the folding loop is given, once no carry is left it has computed the
one's complement sum. -/
theorem foldCarry_reduces {rounds : Nat} {acc : UInt32}
    (done : (foldCarry rounds acc).toNat ≤ 65535) :
    Reduces 65535 (foldCarry rounds acc).toNat acc.toNat := by
  induction rounds generalizing acc with
  | zero => exact Reduces.refl done
  | succ rounds ih =>
    rw [foldCarry] at done ⊢
    split at done
    · next carry =>
      rw [if_pos carry]
      exact reduces_foldStep (ih done)
    · next inside =>
      rw [if_neg inside]
      exact Reduces.refl done

/-- The complement of the folded accumulator. -/
theorem complement_foldCarry (acc : UInt32) :
    ∃ value, Reduces 65535 value acc.toNat ∧
      (~~~ (foldCarry 2 acc).toUInt16).toNat = 65535 - value := by
  have reduces := foldCarry_reduces (foldCarry_le acc)
  have le := reduces.le
  refine ⟨_, reduces, ?_⟩
  rw [UInt16.toNat_not, UInt32.toNat_toUInt16, Nat.mod_eq_of_lt (by omega)]
  rfl

/-- The checksum of up to 128 KiB is the complement of the reduced sum. -/
theorem onesComplementSum_reduces {bytes : Bytes} (short : bytes.length ≤ 131072) :
    ∃ value, Reduces 65535 value (wordSum bytes) ∧
      (onesComplementSum bytes).toNat = 65535 - value := by
  have bound := wordSum_le (show bytes.length ≤ 2 * 65536 from short)
  have summed : (foldSlice 0 bytes).toNat = wordSum bytes := by
    rw [foldSlice_toNat (by simp; omega)]
    simp
  rw [onesComplementSum, ← summed]
  exact complement_foldCarry (foldSlice 0 bytes)

/-- A complement written as all ones where it is zero cancels the accumulator all the same. -/
theorem nonzero_complement {acc : UInt32} {sum : UInt16}
    (summed : sum = (~~~ foldCarry 2 acc).toUInt16) :
    (if sum = 0 then 0xffff else sum) ≠ 0 ∧
      65535 ∣ acc.toNat + (if sum = 0 then 0xffff else sum).toNat := by
  obtain ⟨value, reduces, complement⟩ := complement_foldCarry acc
  rw [UInt32.toUInt16_not] at summed
  rw [← summed] at complement
  have cancels : 65535 ∣ acc.toNat + sum.toNat := by
    rw [complement]
    exact (show Reduces 65535 value (acc.toNat + 0) from reduces).complement_iff.mpr
      (Nat.dvd_zero 65535)
  split
  · next zero =>
    rw [zero] at cancels
    exact ⟨by decide, (Nat.dvd_add_right cancels).mpr (Nat.dvd_refl 65535)⟩
  · next nonzero => exact ⟨nonzero, cancels⟩

end Accumulator

section Headers

variable {eth head tail rest : Bytes} {extra : Nat}

/-- A header checksum that was taken over more than the header. -/
theorem header_verifies_iff (ethSized : eth.length = 14) (headSized : head.length = 10)
    (tailSized : tail.length = 8) (nonzero : wordSum head ≠ 0) (short : extra ≤ 40) {sum : UInt16}
    (summed : sum = onesComplementSum (((eth ++ head ++ [0, 0] ++ (tail ++ rest)).take
      (14 + (20 + extra))).drop 14)) :
    carrySum 65535 (words (((eth ++ head ++ toBe 2 sum.toNat ++ (tail ++ rest)).drop 14).take 20)) =
        65535 ↔ 65535 ∣ wordSum (rest.take extra) := by
  have stretch : ((eth ++ head ++ [0, 0] ++ (tail ++ rest)).take (14 + (20 + extra))).drop 14 =
      head ++ [0, 0] ++ tail ++ rest.take extra := by
    have covered : 20 = (head ++ [0, 0] ++ tail).length := by simp [headSized, tailSized]
    have parts : eth ++ head ++ [0, 0] ++ (tail ++ rest) =
        eth ++ (head ++ [0, 0] ++ tail ++ rest) := by simp
    rw [parts, ← ethSized, List.take_length_add_append, List.drop_left' rfl, covered,
      List.take_length_add_append]
  have header : ((eth ++ head ++ toBe 2 sum.toNat ++ (tail ++ rest)).drop 14).take 20 =
      head ++ toBe 2 sum.toNat ++ tail := by
    have parts : eth ++ head ++ toBe 2 sum.toNat ++ (tail ++ rest) =
        eth ++ (head ++ toBe 2 sum.toNat ++ tail ++ rest) := by simp
    rw [parts, List.drop_left' ethSized, List.take_left' (by simp [headSized, tailSized])]
  have overlap : (rest.take extra).length ≤ 40 := by
    rw [List.length_take]
    omega
  obtain ⟨value, reduces, complement⟩ := onesComplementSum_reduces
    (show (head ++ [0, 0] ++ tail ++ rest.take extra).length ≤ 131072 by
      simp only [List.length_append, headSized, tailSized, List.length_cons, List.length_nil]
      omega)
  rw [stretch] at summed
  rw [← summed] at complement
  have whole : wordSum (head ++ [0, 0] ++ tail ++ rest.take extra) =
      wordSum head + wordSum tail + wordSum (rest.take extra) := by
    rw [wordSum_append (by simp [headSized, tailSized]), wordSum_append (by simp [headSized]),
      wordSum_append (by simp [headSized])]
    rfl
  have written : wordSum (head ++ toBe 2 sum.toNat ++ tail) =
      wordSum head + wordSum tail + (65535 - value) := by
    rw [wordSum_append (by simp [headSized]), wordSum_append (by simp [headSized]),
      wordSum_toBe sum.toNat_lt, complement]
    omega
  rw [whole] at reduces
  rw [header, carrySum_words_iff, written, reduces.complement_iff]
  exact and_iff_left (by omega)

end Headers

section Emissions

variable {crypto : RetryCrypto} {view after : FrameView} {parsed : ParsedFrame}
  {table : ConfigTable} {localMac : Mac} {nowMs pending pending' : UInt64} {detail : Detail}

/-- The Retry packet for an Initial, with the token minted for its sender. -/
def retryPacketFor (crypto : RetryCrypto) (retry : RetryConfig) (srcIp : IpAddr)
    (initial : Initial) (nowMs : UInt64) : Option Bytes :=
  match Token.mint crypto retry.tokenKey srcIp initial.dcid nowMs with
  | .error _ => none
  | .ok token =>
    match buildRetry crypto (List.replicate 128 0) initial.version initial.dcid initial.scid
        initial.dcid token with
    | .ok (.ok (count, buffer)) => some (buffer.take count)
    | _ => none

/-- The layout of an emission keeps the family of the frame. -/
theorem Emission.isIpv4_eq (emission : Emission crypto view parsed table localMac nowMs after) :
    emission.layout.isIpv4 = match parsed.family with | .ipv4 => true | .ipv6 => false := by
  obtain ⟨-, -, -, -, -, ⟨isIpv4, ipv4⟩ | ⟨isIpv6, ipv6, -⟩⟩ := fromParsed_ok emission.fromParsed
  · rw [isIpv4, ipv4]
  · rw [isIpv6, ipv6]

/-- The packet that was emitted is the one for its Initial. -/
theorem Emission.packet_eq (emission : Emission crypto view parsed table localMac nowMs after) :
    retryPacketFor crypto emission.retry parsed.srcAddr emission.initial nowMs =
      some emission.packet := by
  obtain ⟨-, -, -, srcIp, -, -⟩ := fromParsed_ok emission.fromParsed
  obtain ⟨-, -, cut⟩ := slice_eq_ok_iff.mp emission.cut
  rw [List.drop_zero] at cut
  simp only [retryPacketFor, ← srcIp, emission.minted, emission.built, cut]

/-- A Retry packet has 47 to 87 bytes. -/
theorem Emission.packet_length
    (emission : Emission crypto view parsed table localMac nowMs after) :
    47 ≤ emission.packet.length ∧ emission.packet.length ≤ 87 := by
  have formed := parseStrict_wellFormed emission.parsedInitial
  have dcidShort : emission.initial.dcid.length ≤ 20 := formed.dcid_le
  have scidShort : emission.initial.scid.length ≤ 20 := formed.scid_le
  rw [emission.packet_size]
  omega

/-- The Initial of an emission is the one the classifier was offered. -/
theorem Emission.offered (emission : Emission crypto view parsed table localMac nowMs after)
    (parse : parseFrame view.contents = .ok (some parsed))
    (emitted : tryHandle crypto view parsed table localMac nowMs pending =
      .ok ((.emitted, detail), after, pending')) :
    Offered table view parsed emission.retry emission.initial := by
  obtain ⟨retry, initial, offered, -, -⟩ := (tryHandle_classified parse emitted).emitted
  obtain rfl : emission.retry = retry :=
    Option.some.inj (emission.configured.symm.trans offered.configured)
  exact ⟨emission.configured, emission.enabled, emission.carries parse, offered.inScope⟩

/-- The frame an emission leaves behind, for a rewrite that is known exactly. -/
theorem Emission.contents_of_written
    (emission : Emission crypto view parsed table localMac nowMs after) {hdrLen : Nat}
    {hdrBuf reply : Bytes}
    (headers : buildReflectedHeaders (List.replicate 64 0) emission.layout localMac
      emission.packet.length = .ok (hdrLen, hdrBuf))
    (written : ∀ frame : Bytes, frame.length = hdrLen + emission.packet.length →
      writeReply emission.layout frame hdrBuf hdrLen emission.packet = .ok reply)
    (sized : reply.length = hdrLen + emission.packet.length) : after.contents = reply := by
  have same := emission.headers.symm.trans headers
  simp only [Except.ok.injEq, Prod.mk.injEq] at same
  obtain ⟨hdrLenEq, hdrBufEq⟩ := same
  have newLen := resize_len emission.resize
  have frameEq : emission.frame = reply := by
    have done := emission.written
    rw [hdrLenEq, hdrBufEq, written _ (by rw [FrameView.contents_length, newLen, hdrLenEq])] at done
    exact (Except.ok.inj done).symm
  rw [emission.contents_eq (by rw [frameEq, sized, newLen, hdrLenEq]), frameEq]

end Emissions

section Ipv4

variable {crypto : RetryCrypto} {view after : FrameView} {parsed : ParsedFrame}
  {table : ConfigTable} {localMac : Mac} {nowMs pending pending' : UInt64} {detail : Detail}

/-- The IPv4 header of a reply verifies, and it and the UDP header give the right lengths. -/
structure Ipv4HeaderCorrect (frame : Bytes) (retryLen : Nat) : Prop where
  checksum : carrySum 65535 (words ((frame.drop 14).take 20)) = 65535
  totalLength : (u16At frame 16).toNat = frame.length - 14
  udpLength : (u16At frame 38).toNat = 8 + retryLen

/-- What stands in a reply where the received IPv4 header had its options: the start of the UDP
datagram, as long as the options were. -/
def optionOverlap (parsed : ParsedFrame) (packet : Bytes) : Bytes :=
  match parsed.l4 with
  | .icmp _ _ => []
  | .udp _ _ srcPort dstPort =>
    (toBe 2 dstPort.toNat ++ toBe 2 srcPort.toNat ++ toBe 2 (8 + packet.length) ++ [0, 0] ++
      packet).take (parsed.ipHdrLen - 20)

/-- An IPv4 reply splits at its Ethernet header. -/
theorem ipv4Front_split (layout : FrameLayout) (localMac : Mac) (payloadLen : Nat) :
    ∃ eth head, ipv4Front layout localMac payloadLen = eth ++ head ∧ eth.length = 14 ∧
      head.length = 10 ∧ wordSum head ≠ 0 := by
  refine ⟨layout.srcMac.val ++ localMac.val ++ toBe 2 ethPIp.toNat, [0x45, 0x00] ++
    toBe 2 (UInt16.ofNat (ipv4MinHdrLen + udpHdrLen + payloadLen)).toNat ++
    [0x00, 0x00, 0x40, 0x00, 64, ipprotoUdp], ?_, ?_, ?_, ?_⟩
  · simp [ipv4Front]
  · simp [layout.srcMac.property, localMac.property]
  · simp
  · rw [List.append_assoc, wordSum_append (by rfl)]
    have first : wordSum [0x45, 0x00] = 17664 := by decide
    omega

/-- The frame that answers an IPv4 frame. -/
theorem Emission.contents_v4 (emission : Emission crypto view parsed table localMac nowMs after)
    (shape : Layout view.contents parsed) (isIpv4 : emission.layout.isIpv4 = true) :
    ∃ client server : Octets 4, after.contents =
      ipv4Front emission.layout localMac emission.packet.length ++ toBe 2 (onesComplementSum
        (((ipv4Front emission.layout localMac emission.packet.length ++ [0, 0] ++
          ipv4Back emission.layout server client emission.packet).take
            (14 + emission.layout.ipHdrLen)).drop 14)).toNat ++
        ipv4Back emission.layout server client emission.packet := by
  have sound := fromParsed_sound shape emission.fromParsed
  obtain ⟨long, short⟩ := emission.packet_length
  obtain ⟨-, -, -, client, server, src, dst⟩ := sound.ipv4 isIpv4
  refine ⟨client, server, ?_⟩
  apply emission.contents_of_written (buildReflectedHeaders_v4 isIpv4 src dst)
  · exact fun frame sized => writeReply_v4 sound isIpv4 (by omega) sized
  · simp [ipv4Back_length]
    omega

/-- The length fields of an IPv4 reply, whatever its checksum. -/
theorem ipv4_reply_lengths {layout : FrameLayout} {client server : Octets 4} {packet check : Bytes}
    (short : packet.length ≤ 87) (checkSized : check.length = 2) :
    (u16At (ipv4Front layout localMac packet.length ++ check ++
        ipv4Back layout server client packet) 16).toNat = 28 + packet.length ∧
      (u16At (ipv4Front layout localMac packet.length ++ check ++
        ipv4Back layout server client packet) 38).toNat = 8 + packet.length := by
  have small : (UInt16.ofNat (ipv4MinHdrLen + udpHdrLen + packet.length)).toNat =
      28 + packet.length := Nat.mod_eq_of_lt (by simp only [ipv4MinHdrLen, udpHdrLen]; omega)
  have udpSmall : (UInt16.ofNat (udpHdrLen + packet.length)).toNat = 8 + packet.length :=
    Nat.mod_eq_of_lt (by simp only [udpHdrLen]; omega)
  constructor
  · rw [← small]
    apply congrArg
    apply u16At_behind (layout.srcMac.val ++ localMac.val ++ toBe 2 ethPIp.toNat ++ [0x45, 0x00])
      ([0x00, 0x00, 0x40, 0x00, 64, ipprotoUdp] ++ check ++ ipv4Back layout server client packet)
    · simp [ipv4Front]
    · simp [layout.srcMac.property, localMac.property]
  · rw [← udpSmall]
    apply congrArg
    apply u16At_behind (ipv4Front layout localMac packet.length ++ check ++ server.val ++
      client.val ++ toBe 2 layout.dstPort.toNat ++ toBe 2 layout.srcPort.toNat) ([0, 0] ++ packet)
    · simp [ipv4Back, udpFront]
    · simp [checkSized, server.property, client.property]

/-- The checksum of an IPv4 reply verifies unless the bytes that took the place of the options
disturb it. -/
theorem Emission.checksum_v4_iff
    (emission : Emission crypto view parsed table localMac nowMs after)
    (shape : Layout view.contents parsed) (isIpv4 : emission.layout.isIpv4 = true) :
    carrySum 65535 (words ((after.contents.drop 14).take 20)) = 65535 ↔
      65535 ∣ wordSum (optionOverlap parsed emission.packet) := by
  obtain ⟨l4, -, ipHdrLen, -, -, -⟩ := fromParsed_ok emission.fromParsed
  obtain ⟨ge, le, -, -⟩ := (fromParsed_sound shape emission.fromParsed).ipv4 isIpv4
  obtain ⟨-, short⟩ := emission.packet_length
  obtain ⟨client, server, contents⟩ := emission.contents_v4 shape isIpv4
  obtain ⟨eth, head, split, ethSized, headSized, nonzero⟩ :=
    ipv4Front_split emission.layout localMac emission.packet.length
  have udpSmall : (UInt16.ofNat (udpHdrLen + emission.packet.length)).toNat =
      8 + emission.packet.length := Nat.mod_eq_of_lt (by simp only [udpHdrLen]; omega)
  have back : ipv4Back emission.layout server client emission.packet =
      (server.val ++ client.val) ++ (udpFront emission.layout emission.packet.length ++ [0, 0] ++
        emission.packet) := by simp [ipv4Back]
  have overlap : optionOverlap parsed emission.packet =
      (udpFront emission.layout emission.packet.length ++ [0, 0] ++ emission.packet).take
        (emission.layout.ipHdrLen - 20) := by
    simp only [optionOverlap, l4, udpFront, udpSmall, ipHdrLen]
  have whole : 14 + emission.layout.ipHdrLen = 14 + (20 + (emission.layout.ipHdrLen - 20)) := by
    omega
  rw [contents, split, back, overlap, whole]
  exact header_verifies_iff ethSized headSized (by simp [server.property, client.property]) nonzero
    (by omega) rfl

/-- The lengths and the packet an IPv4 reply carries. -/
theorem Emission.lengths_v4 (emission : Emission crypto view parsed table localMac nowMs after)
    (shape : Layout view.contents parsed) (isIpv4 : emission.layout.isIpv4 = true) :
    (u16At after.contents 16).toNat = after.contents.length - 14 ∧
      (u16At after.contents 38).toNat = 8 + emission.packet.length ∧
      after.contents.drop 42 = emission.packet := by
  obtain ⟨-, short⟩ := emission.packet_length
  obtain ⟨client, server, contents⟩ := emission.contents_v4 shape isIpv4
  generalize onesComplementSum _ = sum at contents
  have total : after.contents.length = 42 + emission.packet.length := by
    rw [contents]
    simp [ipv4Back_length]
    omega
  rw [total, contents]
  obtain ⟨totalLength, udpLength⟩ := ipv4_reply_lengths short (toBe_length 2 sum.toNat)
  refine ⟨by rw [totalLength]; omega, udpLength, ?_⟩
  have parts : ipv4Front emission.layout localMac emission.packet.length ++ toBe 2 sum.toNat ++
      ipv4Back emission.layout server client emission.packet =
      (ipv4Front emission.layout localMac emission.packet.length ++ toBe 2 sum.toNat ++
        server.val ++ client.val ++ udpFront emission.layout emission.packet.length ++ [0, 0]) ++
        emission.packet := by
    simp [ipv4Back]
  rw [parts, List.drop_left' (by simp [server.property, client.property])]

/-- An emitted IPv4 Retry has a correct IPv4 header exactly if the frame it answers had no IPv4
options, or the part of the datagram that the checksum then takes in sums to nothing. -/
theorem ipv4_retry_header_iff (parse : parseFrame view.contents = .ok (some parsed))
    (ipv4 : parsed.family = .ipv4)
    (emitted : tryHandle crypto view parsed table localMac nowMs pending =
      .ok ((.emitted, detail), after, pending')) :
    ∃ retry initial packet, Offered table view parsed retry initial ∧
      retryPacketFor crypto retry parsed.srcAddr initial nowMs = some packet ∧
      after.contents.drop 42 = packet ∧
      (Ipv4HeaderCorrect after.contents packet.length ↔
        parsed.ipHdrLen = 20 ∨ 65535 ∣ wordSum (optionOverlap parsed packet)) := by
  obtain ⟨emission⟩ := tryHandle_emission emitted
  have shape := parseFrame_eq_some_iff.mp parse
  have isIpv4 : emission.layout.isIpv4 = true := by rw [emission.isIpv4_eq, ipv4]
  have checksum := emission.checksum_v4_iff shape isIpv4
  obtain ⟨totalLength, udpLength, carried⟩ := emission.lengths_v4 shape isIpv4
  refine ⟨_, _, _, emission.offered parse emitted, emission.packet_eq, carried, ?_⟩
  constructor
  · intro correct
    exact .inr (checksum.mp correct.checksum)
  · rintro (plain | vanishes)
    · refine ⟨checksum.mpr ?_, totalLength, udpLength⟩
      have nothing : optionOverlap parsed emission.packet = [] := by
        unfold optionOverlap
        split
        · rfl
        · rw [plain, Nat.sub_self, List.take_zero]
      rw [nothing]
      exact Nat.dvd_zero 65535
    · exact ⟨checksum.mpr vanishes, totalLength, udpLength⟩

end Ipv4

namespace SampleRetry

/-- The sample's first Initial in a frame with one word of IPv4 options. -/
def optioned : FrameView :=
  let quic := first.contents.drop 42
  let bytes := localMac.val ++ List.replicate 6 0xaa ++ [0x08, 0x00] ++
    [0x46, 0] ++ toBe 2 (32 + quic.length) ++ [0, 0, 0, 0, 0x40, 17, 0, 0] ++ client.val ++
    server.val ++ [1, 1, 1, 1] ++ toBe 2 12345 ++ toBe 2 4433 ++ toBe 2 (8 + quic.length) ++
    [0, 0] ++ quic
  ⟨bytes ++ List.replicate 64 0, bytes.length, by simp⟩

def optionedParsed : ParsedFrame :=
  { parsed with ipHdrLen := 24, l4 := .udp 38 46 12345 4433 }

def optionedReply : FrameView :=
  match tryHandle crypto optioned optionedParsed table localMac 2000 0 with
  | .ok (_, after, _) => after
  | .error _ => optioned

end SampleRetry

open SampleRetry in
/-- One word of options, and the checksum of the reply is off. -/
theorem optioned_ipv4_retry_fails :
    parseFrame optioned.contents = .ok (some optionedParsed) ∧
      tryHandle crypto optioned optionedParsed table localMac 2000 0 =
        .ok ((.emitted, .issued), optionedReply, 0) ∧
      ¬ Ipv4HeaderCorrect optionedReply.contents (optionedReply.contents.drop 42).length := by
  refine ⟨by decide +kernel, by decide +kernel, ?_⟩
  intro correct
  have verifies := correct.checksum
  revert verifies
  decide +kernel

open SampleRetry in
/-- The sample's first Initial, without options, is answered with a correct header. -/
theorem ipv4_retry_header_iff_sample :
    parsed.ipHdrLen = 20 ∧
      Ipv4HeaderCorrect reply.contents (reply.contents.drop 42).length := by
  refine ⟨rfl, ?_⟩
  obtain ⟨_, _, _, -, -, carried, correct⟩ := ipv4_retry_header_iff first_parses rfl first_emitted
  rw [carried]
  exact correct.mpr (.inl rfl)

section Ipv6

variable {crypto : RetryCrypto} {view after : FrameView} {parsed : ParsedFrame}
  {table : ConfigTable} {localMac : Mac} {nowMs pending pending' : UInt64} {detail : Detail}

/-- The pseudo-header of an IPv6 frame without extension headers: its two addresses, the length of
its datagram and the protocol number of UDP. -/
def pseudoHeader (frame : Bytes) : Bytes :=
  (frame.drop 22).take 32 ++ toBe 4 (frame.length - 54) ++ [0, 0, 0, 17]

/-- The UDP checksum of an IPv6 reply verifies and is there, and the lengths are right. -/
structure Ipv6DatagramCorrect (frame : Bytes) (retryLen : Nat) : Prop where
  checksum : carrySum 65535 (words (pseudoHeader frame ++ frame.drop 54)) = 65535
  present : u16At frame 60 ≠ 0
  payloadLength : (u16At frame 18).toNat = 8 + retryLen
  udpLength : (u16At frame 58).toNat = 8 + retryLen

/-- The frame that answers an IPv6 frame. -/
theorem Emission.contents_v6 (emission : Emission crypto view parsed table localMac nowMs after)
    (shape : Layout view.contents parsed) (isIpv6 : emission.layout.isIpv4 = false) :
    ∃ (client server : Octets 16) (sum : UInt16),
      sum = (~~~ foldCarry 2 (foldSlice
        (foldSlice 0 (server.val ++ client.val) +
          (UInt16.ofNat (8 + emission.packet.length)).toUInt32 + ipprotoUdp.toUInt32)
        (udpFront emission.layout emission.packet.length ++ [0, 0] ++
          emission.packet))).toUInt16 ∧
      after.contents = ipv6UdpFront emission.layout localMac server client emission.packet.length ++
        toBe 2 (if sum = 0 then 0xffff else sum).toNat ++ emission.packet := by
  have sound := fromParsed_sound shape emission.fromParsed
  obtain ⟨-, short⟩ := emission.packet_length
  obtain ⟨-, client, server, src, dst⟩ := sound.ipv6 isIpv6
  refine ⟨client, server, _, rfl, ?_⟩
  apply emission.contents_of_written (buildReflectedHeaders_v6 isIpv6 src dst)
  · intro frame sized
    obtain ⟨sum, rfl, written⟩ := writeReply_v6 sound isIpv6 (by omega) sized
    exact written
  · simp [ipv6UdpFront_length]
    omega

/-- A 16-bit value in four bytes has two leading zeros. -/
theorem toBe_four_of_lt {value : Nat} (small : value < 65536) :
    toBe 4 value = [0, 0] ++ toBe 2 value := by
  have third : value / 256 / 256 = 0 := by omega
  simp [toBe, third]

/-- A datagram whose checksum cancels the accumulated pseudo-header and datagram verifies. -/
theorem datagram_verifies {addresses front packet : Bytes} {check : UInt16} {udpLen : Nat}
    (addressesSized : addresses.length = 32) (frontSized : front.length = 6)
    (udpSmall : udpLen < 65536) (nonzero : check ≠ 0)
    (cancels : 65535 ∣
      wordSum addresses + udpLen + 17 + wordSum (front ++ [0, 0] ++ packet) + check.toNat) :
    carrySum 65535 (words (addresses ++ toBe 4 udpLen ++ [0, 0, 0, 17] ++
      (front ++ toBe 2 check.toNat ++ packet))) = 65535 := by
  have positive : 0 < check.toNat := by
    have differs := mt UInt16.toNat_inj.mp nonzero
    simp only [UInt16.reduceToNat] at differs
    omega
  have lengthSum : wordSum (toBe 4 udpLen) = udpLen := by
    rw [toBe_four_of_lt udpSmall, wordSum_append (by rfl), wordSum_toBe udpSmall]
    exact Nat.zero_add udpLen
  have protocolSum : wordSum [0, 0, 0, 17] = 17 := by decide
  have zeroSum : wordSum [0, 0] = 0 := by decide
  have total : wordSum (addresses ++ toBe 4 udpLen ++ [0, 0, 0, 17] ++
      (front ++ toBe 2 check.toNat ++ packet)) =
      wordSum addresses + udpLen + 17 + (wordSum front + check.toNat + wordSum packet) := by
    rw [wordSum_append (by simp [addressesSized]), wordSum_append (by simp [addressesSized]),
      wordSum_append (by simp [addressesSized]), wordSum_append (by simp [frontSized]),
      wordSum_append (by simp [frontSized]), wordSum_toBe check.toNat_lt, lengthSum, protocolSum]
  rw [wordSum_append (by simp [frontSized]), wordSum_append (by simp [frontSized]),
    zeroSum] at cancels
  rw [carrySum_words_iff, total]
  refine ⟨?_, by omega⟩
  have same : wordSum addresses + udpLen + 17 + (wordSum front + check.toNat + wordSum packet) =
      wordSum addresses + udpLen + 17 + (wordSum front + 0 + wordSum packet) + check.toNat := by
    omega
  rw [same]
  exact cancels

/-- The accumulator of the UDP checksum before its carries are folded in. -/
theorem udpAccumulator_toNat {addresses datagram : Bytes} {udpLen : Nat}
    (addressesSized : addresses.length = 32) (short : datagram.length ≤ 1000)
    (udpSmall : udpLen < 65536) :
    (foldSlice (foldSlice 0 addresses + (UInt16.ofNat udpLen).toUInt32 + ipprotoUdp.toUInt32)
      datagram).toNat = wordSum addresses + udpLen + 17 + wordSum datagram := by
  have addressBound := wordSum_le (show addresses.length ≤ 2 * 16 by omega)
  have datagramBound := wordSum_le (show datagram.length ≤ 2 * 500 by omega)
  have addressSum : (foldSlice 0 addresses).toNat = wordSum addresses := by
    rw [foldSlice_toNat (by simp; omega)]
    simp
  have lengthEq : (UInt16.ofNat udpLen).toUInt32.toNat = udpLen := by
    rw [UInt16.toNat_toUInt32, UInt16.toNat_ofNat', Nat.mod_eq_of_lt udpSmall]
  have protocolEq : ipprotoUdp.toUInt32.toNat = 17 := by decide
  have start : (foldSlice 0 addresses + (UInt16.ofNat udpLen).toUInt32 +
      ipprotoUdp.toUInt32).toNat = wordSum addresses + udpLen + 17 := by
    rw [UInt32.toNat_add, UInt32.toNat_add, addressSum, lengthEq, protocolEq]
    omega
  rw [foldSlice_toNat (by rw [start]; omega), start]

/-- An IPv6 reply with a checksum that cancels the rest. -/
theorem ipv6_reply_correct {layout : FrameLayout} {client server : Octets 16} {packet : Bytes}
    {check : UInt16} (short : packet.length ≤ 87) (nonzero : check ≠ 0)
    (cancels : 65535 ∣ wordSum (server.val ++ client.val) + (8 + packet.length) + 17 +
      wordSum (udpFront layout packet.length ++ [0, 0] ++ packet) + check.toNat) :
    Ipv6DatagramCorrect (ipv6UdpFront layout localMac server client packet.length ++
      toBe 2 check.toNat ++ packet) packet.length := by
  have front : (ipv6UdpFront layout localMac server client packet.length).length = 60 :=
    ipv6UdpFront_length server client packet.length
  have addressesSized : (server.val ++ client.val).length = 32 := by
    simp [server.property, client.property]
  have udpSmall : (UInt16.ofNat (udpHdrLen + packet.length)).toNat = 8 + packet.length :=
    Nat.mod_eq_of_lt (by simp only [udpHdrLen]; omega)
  have total : (ipv6UdpFront layout localMac server client packet.length ++ toBe 2 check.toNat ++
      packet).length - 54 = 8 + packet.length := by
    simp [front]
    omega
  have parts : ipv6UdpFront layout localMac server client packet.length ++ toBe 2 check.toNat ++
      packet = ipv6Front layout localMac packet.length ++ ((server.val ++ client.val) ++
        (udpFront layout packet.length ++ toBe 2 check.toNat ++ packet)) := by
    simp [ipv6UdpFront]
  have datagram : (ipv6UdpFront layout localMac server client packet.length ++
      toBe 2 check.toNat ++ packet).drop 54 =
      udpFront layout packet.length ++ toBe 2 check.toNat ++ packet := by
    rw [parts, ← List.append_assoc, List.drop_left' (by simp [server.property, client.property])]
  refine ⟨?_, ?_, ?_, ?_⟩
  · rw [pseudoHeader, total, datagram, parts, List.drop_left' ipv6Front_length,
      List.take_left' addressesSized]
    exact datagram_verifies addressesSized udpFront_length (by omega) nonzero cancels
  · rwa [u16At_behind _ packet rfl front]
  · rw [← udpSmall]
    apply congrArg
    apply u16At_behind (layout.srcMac.val ++ localMac.val ++ toBe 2 ethPIpv6.toNat ++
      [0x60, 0x00, 0x00, 0x00]) ([ipprotoUdp, 64] ++ (server.val ++ client.val) ++
      udpFront layout packet.length ++ toBe 2 check.toNat ++ packet)
    · simp [ipv6UdpFront, ipv6Front]
    · simp [layout.srcMac.property, localMac.property]
  · rw [← udpSmall]
    apply congrArg
    apply u16At_behind (ipv6Front layout localMac packet.length ++ (server.val ++ client.val) ++
      toBe 2 layout.dstPort.toNat ++ toBe 2 layout.srcPort.toNat) (toBe 2 check.toNat ++ packet)
    · simp [ipv6UdpFront, udpFront]
    · simp [server.property, client.property]

/-- Every emitted IPv6 Retry has a UDP checksum that verifies and is not zero, and right length
fields. -/
theorem ipv6_retry_datagram_correct (parse : parseFrame view.contents = .ok (some parsed))
    (ipv6 : parsed.family = .ipv6)
    (emitted : tryHandle crypto view parsed table localMac nowMs pending =
      .ok ((.emitted, detail), after, pending')) :
    ∃ retry initial packet, Offered table view parsed retry initial ∧
      retryPacketFor crypto retry parsed.srcAddr initial nowMs = some packet ∧
      after.contents.drop 62 = packet ∧ Ipv6DatagramCorrect after.contents packet.length := by
  obtain ⟨emission⟩ := tryHandle_emission emitted
  have isIpv6 : emission.layout.isIpv4 = false := by rw [emission.isIpv4_eq, ipv6]
  obtain ⟨-, short⟩ := emission.packet_length
  obtain ⟨client, server, sum, summed, contents⟩ :=
    emission.contents_v6 (parseFrame_eq_some_iff.mp parse) isIpv6
  obtain ⟨nonzero, cancels⟩ := nonzero_complement summed
  refine ⟨_, _, _, emission.offered parse emitted, emission.packet_eq, ?_, ?_⟩
  · rw [contents, List.drop_left' (by simp [ipv6UdpFront_length])]
  · rw [udpAccumulator_toNat (by simp [server.property, client.property]) (by simp; omega)
      (by omega)] at cancels
    rw [contents]
    exact ipv6_reply_correct short nonzero cancels

end Ipv6

namespace SampleRetry

/-- The sample's first Initial from an IPv6 client. -/
def overIpv6 : FrameView :=
  let quic := first.contents.drop 42
  let bytes := localMac.val ++ List.replicate 6 0xaa ++ [0x86, 0xdd] ++
    [0x60, 0, 0, 0] ++ toBe 2 (8 + quic.length) ++ [17, 64] ++ List.replicate 16 0x20 ++
    List.replicate 16 0x2a ++ toBe 2 12345 ++ toBe 2 4433 ++ toBe 2 (8 + quic.length) ++
    [0, 0] ++ quic
  ⟨bytes ++ List.replicate 64 0, bytes.length, by simp⟩

def overIpv6Parsed : ParsedFrame :=
  { parsed with
    family := .ipv6
    ipHdrLen := 40
    srcAddr := ipv6At overIpv6.contents 22
    dstAddr := ipv6At overIpv6.contents 38
    l4 := .udp 54 62 12345 4433 }

def ipv6Reply : FrameView :=
  match tryHandle crypto overIpv6 overIpv6Parsed table localMac 2000 0 with
  | .ok (_, after, _) => after
  | .error _ => overIpv6

/-- The sample over IPv6 is parsed. -/
theorem overIpv6_parses : parseFrame overIpv6.contents = .ok (some overIpv6Parsed) := by
  decide +kernel

/-- It is answered. -/
theorem overIpv6_emitted : tryHandle crypto overIpv6 overIpv6Parsed table localMac 2000 0 =
    .ok ((.emitted, .issued), ipv6Reply, 0) := by
  decide +kernel

end SampleRetry

open SampleRetry in
/-- The answer to the sample client over IPv6. -/
theorem ipv6_retry_datagram_correct_sample :
    Ipv6DatagramCorrect ipv6Reply.contents (ipv6Reply.contents.drop 62).length := by
  obtain ⟨_, _, _, -, -, carried, correct⟩ :=
    ipv6_retry_datagram_correct overIpv6_parses rfl overIpv6_emitted
  rwa [carried]

end Pesigitg
