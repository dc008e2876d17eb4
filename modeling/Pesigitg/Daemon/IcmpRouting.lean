import Pesigitg.Daemon.Stickiness

/-!
# ICMP errors and the connection table

An ICMP error quotes a packet that a server sent, so the flow it belongs to is the quoted one
read backwards. `icmp_follows_flow` joins the nested parser, that reversal and the history of the
connection table: while a hashed flow is remembered, every error about its short header packets
reaches the server the flow was hashed to.
-/

namespace Pesigitg

open Base

/-- An ICMP error quoting a packet from the flow's destination back to its source, whose UDP
header starts at `udp`. The outer and the quoted IP header have any length, or up to six
extension headers each. -/
inductive QuotesFlow (frame : Bytes) (flow : FlowKey) : Nat → Prop where
  | ipv4 {ihl udp : Nat} (header : Ipv4Frame frame ihl) (protocol : byteAt frame 23 = ipprotoIcmp)
      (quote : Ipv4Quote frame (14 + ihl) udp)
      (source : ipv4At frame (14 + ihl + 8 + 12) = flow.dstAddr)
      (destination : ipv4At frame (14 + ihl + 8 + 16) = flow.srcAddr)
      (sourcePort : u16At frame udp = flow.dstPort)
      (destinationPort : u16At frame (udp + 2) = flow.srcPort) : QuotesFlow frame flow udp
  | ipv6 {offset udp : Nat} (header : Ipv6Frame frame ipprotoIcmpv6 offset)
      (quote : Ipv6Quote frame offset udp)
      (source : ipv6At frame (offset + 8 + 8) = flow.dstAddr)
      (destination : ipv6At frame (offset + 8 + 24) = flow.srcAddr)
      (sourcePort : u16At frame udp = flow.dstPort)
      (destinationPort : u16At frame (udp + 2) = flow.srcPort) : QuotesFlow frame flow udp

section Quotes

variable {frame : Bytes} {flow : FlowKey} {udp : Nat}

/-- The parser reads the flow itself out of such a frame. -/
theorem QuotesFlow.parses (quotes : QuotesFlow frame flow udp) (complete : udp + 8 ≤ frame.length) :
    ∃ parsed, parseFrame frame = .ok (some parsed) ∧ parsed.l4 = .icmp (udp + 8) flow := by
  have ports : udp + 4 ≤ frame.length := by omega
  cases quotes with
  | ipv4 header protocol quote source destination sourcePort destinationPort =>
    refine ⟨_, parseFrame_eq_some_iff.mpr (.icmp4 header protocol quote ports), ?_⟩
    simp only [source, destination, sourcePort, destinationPort]
  | ipv6 header quote source destination sourcePort destinationPort =>
    refine ⟨_, parseFrame_eq_some_iff.mpr (.icmp6 header quote ports), ?_⟩
    simp only [source, destination, sourcePort, destinationPort]

/-- A frame that quotes a packet has an Ethernet header. -/
theorem QuotesFlow.long (quotes : QuotesFlow frame flow udp) : 12 ≤ frame.length := by
  cases quotes with
  | ipv4 header =>
    have long := header.long
    omega
  | ipv6 header =>
    have long := header.long
    omega

end Quotes

/-- A short header packet names no source CID. -/
theorem extractScid_short {quic : Bytes} (short : ∀ octet ∈ quic.head?, octet &&& 0x80 = 0) :
    extractScid quic = .ok none := by
  cases quic with
  | nil => rfl
  | cons first rest =>
    have form : first &&& 0x80 = 0 := short first rfl
    simp only [extractScid, List.isEmpty_cons, Bool.false_eq_true, if_false, readByte_of_lt,
      List.length_cons, Nat.zero_lt_succ, Checked.ok_bind]
    simp [byteAt, form]

section Routing

variable {aes : Aes128} {hash : FlowKey → UInt64} {table : ConfigTable} {conn : ConnectionTable}
  {frame : Bytes} {innerQuicOffset : Nat} {flow : FlowKey} {localMac mac : Mac} {now : Instant}

/-- An error about a short header packet goes where the table sends its flow. -/
theorem processIcmp_sticky (long : 12 ≤ frame.length) (inside : innerQuicOffset ≤ frame.length)
    (short : ∀ octet ∈ (frame.drop innerQuicOffset).head?, octet &&& 0x80 = 0)
    (found : conn.lookup flow none now = some mac) :
    processIcmp aes frame table conn innerQuicOffset flow localMac now =
      .ok (.icmpForward, mac.val ++ localMac.val ++ frame.drop 12, conn) := by
  rw [processIcmp, sliceFrom_of_le inside, Checked.ok_bind]
  simp only [routeIcmp, routeScid, extractScid_short short, Checked.ok_bind, Checked.pure_eq_ok,
    found, Route.apply, Route.mac?, writeMacs_of_le long, Route.verdict, Route.record]

/-- What a packet was hashed to is found for its flow for five seconds, whatever calls follow. -/
theorem lookup_after_hashed {conn₁ conn₂ : ConnectionTable} {first : Instant}
    {table₀ : ConfigTable} {frame₀ : Bytes} {offset₀ : Nat} {local₀ : Mac} {key : Option DcidKey}
    {log : List ConnCall}
    (hashed : ConnStep aes hash conn
      (.udp first table₀ frame₀ offset₀ flow local₀ (.hashed key mac)) conn₁)
    (run : ConnRun aes hash conn₁ log conn₂) (clock : ∀ call ∈ log, call.time ≤ now)
    (within : now < first + seconds 5) (dcid : Option DcidKey) :
    conn₂.lookup flow dcid now = some mac := by
  have stored : conn₁.byFlow flow = some ⟨mac, first + entryTtl⟩ := by
    rw [hashed.table_eq]
    simp only [ConnCall.after, Route.record, ConnectionTable.insert, ExpiringMap.insert_self]
  have visible : ∀ call ∈ log, call.time < first + entryTtl := by
    intro call member
    exact Nat.lt_of_le_of_lt (clock call member) within
  have held := find_of_stored (run.byFlow_kept stored visible) within
  exact ConnectionTable.lookup_eq_some_iff.mpr (.inl held)

/-- After a packet of a flow was hashed to `mac`, whatever calls follow and whatever table is in
force: for five seconds every ICMP error about a short header packet of the flow is forwarded
to `mac`. -/
theorem icmp_follows_flow {conn₁ conn₂ : ConnectionTable} {first : Instant}
    {table₀ : ConfigTable} {frame₀ : Bytes} {offset₀ : Nat} {local₀ : Mac} {key : Option DcidKey}
    {log : List ConnCall}
    (hashed : ConnStep aes hash conn
      (.udp first table₀ frame₀ offset₀ flow local₀ (.hashed key mac)) conn₁)
    (run : ConnRun aes hash conn₁ log conn₂) (clock : ∀ call ∈ log, call.time ≤ now)
    (within : now < first + seconds 5) {udp : Nat} (quotes : QuotesFlow frame flow udp)
    (complete : udp + 8 ≤ frame.length)
    (short : ∀ octet ∈ (frame.drop (udp + 8)).head?, octet &&& 0x80 = 0)
    (table : ConfigTable) (localMac : Mac) :
    ∃ parsed, parseFrame frame = .ok (some parsed) ∧
      processPacketParsed aes hash frame parsed table conn₂ localMac now =
        .ok (.icmpForward, mac.val ++ localMac.val ++ frame.drop 12, conn₂) := by
  obtain ⟨parsed, parses, l4⟩ := quotes.parses complete
  refine ⟨parsed, parses, ?_⟩
  rw [processPacketParsed, l4]
  exact processIcmp_sticky quotes.long complete short
    (lookup_after_hashed hashed run clock within none)

end Routing

namespace SampleFallback

/-- A router's "fragmentation needed" about a packet of the sample's flow. Both IPv4 headers carry
four bytes of options, and the quote ends in the first bytes of a short header. -/
def errorFrame : Bytes :=
  [2, 0, 0, 0, 0, 1, 2, 0, 0, 0, 0, 9, 0x08, 0x00] ++
    [0x46, 0, 0, 80, 0, 0, 0, 0, 64, 1, 0, 0, 203, 0, 113, 9, 192, 0, 2, 1, 1, 1, 1, 0] ++
    [3, 4, 0, 0, 0, 0, 5, 0] ++
    [0x46, 0, 5, 0, 0, 0, 0, 0, 64, 17, 0, 0, 192, 0, 2, 1, 198, 51, 100, 7, 1, 1, 1, 0] ++
    [0x01, 0xbb, 0x9c, 0x40, 4, 0xe0, 0, 0] ++ [0x40, 1, 2, 3]

/-- The sample's error quotes the flow. -/
theorem errorFrame_quotes : QuotesFlow errorFrame flow 70 := by
  have header : Ipv4Frame errorFrame 24 := ⟨by decide, by decide, by decide, by decide⟩
  have quote : Ipv4Quote errorFrame (14 + 24) 70 :=
    ⟨by decide, by decide, by decide, by decide, by decide⟩
  exact .ipv4 header (by decide) quote (by decide) (by decide) (by decide) (by decide)

/-- Its quote begins with a short header. -/
theorem errorFrame_short : ∀ octet ∈ (errorFrame.drop (70 + 8)).head?, octet &&& 0x80 = 0 := by
  intro octet lead
  have first : (errorFrame.drop (70 + 8)).head? = some 0x40 := by decide
  obtain rfl := Option.some.inj (first.symm.trans lead)
  decide

end SampleFallback

open SampleFallback in
/-- Four seconds after the first packet, under an empty table, an error about its flow reaches the
server. -/
theorem icmp_follows_sample :
    ∃ parsed, parseFrame errorFrame = .ok (some parsed) ∧
      processPacketParsed cipher (fun _ => 0) errorFrame parsed
          ⟨fun _ => none, fun _ => none, [], none⟩ (afterFirst.maybeSweep 8) localMac (seconds 4) =
        .ok (.icmpForward, mac.val ++ localMac.val ++ errorFrame.drop 12,
          afterFirst.maybeSweep 8) := by
  have run : ConnRun cipher (fun _ => 0) afterFirst [.sweep 8] (afterFirst.maybeSweep 8) :=
    .snoc .nil (by simp) (.sweep afterFirst 8)
  exact icmp_follows_flow firstStep run (by simp [ConnCall.time]) (by decide) errorFrame_quotes
    (by decide) errorFrame_short _ localMac

end Pesigitg
