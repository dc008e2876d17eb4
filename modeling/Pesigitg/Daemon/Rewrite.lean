import Pesigitg.Daemon.FallbackPool
import Pesigitg.Daemon.Stickiness

/-!
# What routing does to a frame

An exit of the pipeline either rewrites both Ethernet addresses or leaves the frame and the
connection table alone. Each exit is described once, by the source its MAC comes from
(`Route.Sourced`); the effects on the frame and on the table are then read off `Route.apply`.
-/

namespace Pesigitg

open Base

/-- A server the table can route to: one of an active config, or one of the fallback pool. -/
def ConfigTable.Lists (table : ConfigTable) (server : Server) : Prop :=
  (∃ config ∈ table.configs, server ∈ config.servers) ∨ server ∈ table.fallbackServers

/-- In a table whose pool is current, the pool adds no server of its own. -/
theorem ConfigTable.Pooled.lists_iff {table : ConfigTable} (pooled : table.Pooled)
    {server : Server} :
    table.Lists server ↔ ∃ config ∈ table.configs, server ∈ config.servers := by
  constructor
  · rintro (active | pool)
    · exact active
    · obtain ⟨config, active, listed, -⟩ :=
        ConfigTable.mem_eligibleServers.mp (pooled.firsts.part server pool)
      exact ⟨config, active, listed⟩
  · exact .inl

/-- An entry of the connection table that a lookup at this time sees. -/
def ConnectionTable.Live (conn : ConnectionTable) (now : Instant) (mac : Mac) : Prop :=
  (∃ flow, conn.byFlow.find flow now = some mac) ∨ ∃ dcid, conn.byDcid.find dcid now = some mac

/-- A MAC that is looked up is in a live entry. -/
theorem ConnectionTable.live_of_lookup {conn : ConnectionTable} {flow : FlowKey}
    {dcid : Option DcidKey} {now : Instant} {mac : Mac}
    (found : conn.lookup flow dcid now = some mac) : conn.Live now mac := by
  rcases lookup_eq_some_iff.mp found with byFlow | ⟨-, key, -, byDcid⟩
  · exact .inl ⟨flow, byFlow⟩
  · exact .inr ⟨key, byDcid⟩

namespace Verdict

/-- The verdicts under which the frame is sent on to a backend. -/
def forwards : Verdict → Bool
  | .cidForward _ | .cidForwardDraining _ | .fallbackForward | .icmpForward => true
  | .cidUnroutableNoServer | .cidUnroutableBadServerId | .pass => false

end Verdict

/-- The frame with its Ethernet addresses replaced and nothing else. -/
structure Readdressed (frame frame' : Bytes) (mac localMac : Mac) : Prop where
  length : frame'.length = frame.length
  destination : frame'.take 6 = mac.val
  source : (frame'.drop 6).take 6 = localMac.val
  rest : ∀ index, 12 ≤ index → frame'[index]? = frame[index]?

/-- What carrying out a route leaves behind. -/
structure Effect (table : ConfigTable) (conn : ConnectionTable) (localMac : Mac) (now : Instant)
    (frame : Bytes) (verdict : Verdict) (frame' : Bytes) (conn' : ConnectionTable) : Prop where
  forwarded : verdict.forwards = true →
    ∃ mac, ((∃ server, table.Lists server ∧ server.mac = some mac) ∨ conn.Live now mac) ∧
      Readdressed frame frame' mac localMac
  dropped : verdict.forwards = false → frame' = frame ∧ conn' = conn

section Rewrite

variable {aes : Aes128} {hash : FlowKey → UInt64} {table : ConfigTable}
  {conn conn' : ConnectionTable} {frame frame' : Bytes} {flow : FlowKey} {mac localMac : Mac}
  {now : Instant} {route : Route} {verdict : Verdict}

/-- Writing the MACs readdresses the frame and changes nothing else. -/
theorem writeMacs_readdressed (written : writeMacs frame mac localMac = .ok frame') :
    Readdressed frame frame' mac localMac := by
  have macLength : mac.val.length = 6 := mac.property
  have localLength : localMac.val.length = 6 := localMac.property
  have long := writeMacs_long written
  obtain rfl := writeMacs_ok written
  constructor
  · simp [macLength, localLength]
    omega
  · simp [macLength]
  · simp [macLength, localLength]
  · intro index beyond
    rw [List.getElem?_append_right (by simp [macLength, localLength, beyond]),
      List.getElem?_drop]
    congr 1
    simp only [List.length_append, macLength, localLength]
    omega

/-- Where the MAC of a forwarding exit comes from; the other exits drop or pass the packet. -/
inductive Route.Sourced (table : ConfigTable) (conn : ConnectionTable) (now : Instant) :
    Route → Prop where
  | cid {dcid : Bytes} {server : Server} {mac : Mac} {configId : UInt8}
      (listed : table.Lists server) (resolved : server.mac = some mac) :
      Sourced table conn now (.cid dcid server mac configId)
  | unroutable {verdict : Verdict} (drops : verdict.forwards = false) :
      Sourced table conn now (.unroutable verdict)
  | sticky {mac : Mac} (live : conn.Live now mac) : Sourced table conn now (.sticky mac)
  | hashed {dcid : Option DcidKey} {server : Server} {mac : Mac} (listed : table.Lists server)
      (resolved : server.mac = some mac) : Sourced table conn now (.hashed dcid mac)
  | quoted {server : Server} {mac : Mac} (listed : table.Lists server)
      (resolved : server.mac = some mac) : Sourced table conn now (.quoted mac)
  | quotedSticky {mac : Mac} (live : conn.Live now mac) :
      Sourced table conn now (.quotedSticky mac)
  | pass : Sourced table conn now .pass

/-- The hashed server is one of the pool. -/
theorem fallbackMac_some {servers : List Server}
    (chosen : fallbackMac hash flow servers = .ok (some mac)) :
    ∃ server ∈ servers, server.mac = some mac := by
  unfold fallbackMac at chosen
  split at chosen
  · simp at chosen
  · rw [Checked.bind_eq_ok_iff] at chosen
    obtain ⟨server, indexed, chosen⟩ := chosen
    exact ⟨server, List.mem_of_getElem? (serverAt_eq_ok_iff.mp indexed), Except.ok.inj chosen⟩

/-- The MAC of a UDP packet comes from the table or from a live entry. -/
theorem routeUdp_sourced {quic : Bytes}
    (routed : routeUdp aes hash quic table conn flow now = .ok route) :
    route.Sourced table conn now := by
  rcases routeUdp_eq_ok_iff.mp routed with cidRouted | ⟨-, fellBack⟩
  · rcases routeCid_cases cidRouted with
      ⟨dcid, server, mac, configId, rfl, -, resolved, active⟩ | ⟨verdict, rfl, rfl | rfl⟩
    · exact .cid (.inl active) resolved
    · exact .unroutable rfl
    · exact .unroutable rfl
  · obtain ⟨rawDcid, -, ⟨mac, rfl, found⟩ | ⟨-, ⟨mac, rfl, chosen⟩ | rfl⟩⟩ :=
      routeFallback_cases fellBack
    · exact .sticky (ConnectionTable.live_of_lookup found)
    · obtain ⟨server, pool, resolved⟩ := fallbackMac_some chosen
      exact .hashed (.inr pool) resolved
    · exact .pass

/-- So does that of an ICMP error. -/
theorem routeIcmp_sourced {innerQuic : Bytes}
    (routed : routeIcmp aes innerQuic table conn flow now = .ok route) :
    route.Sourced table conn now := by
  rcases routeIcmp_cases routed with ⟨mac, rfl, quoted⟩ | ⟨mac, rfl, found⟩ | rfl
  · obtain ⟨config, active, server, listed, resolved⟩ := routeScid_some quoted
    exact .quoted (.inl ⟨config, active, listed⟩) resolved
  · exact .quotedSticky (ConnectionTable.live_of_lookup found)
  · exact .pass

/-- A route forwards exactly when it has a MAC, and that MAC has a source. -/
theorem Route.Sourced.mac_of_forwards (sourced : route.Sourced table conn now) :
    if route.verdict.forwards then
      ∃ mac, route.mac? = some mac ∧
        ((∃ server, table.Lists server ∧ server.mac = some mac) ∨ conn.Live now mac)
    else route.mac? = none ∧ ∀ flow, route.record conn flow now = conn := by
  cases sourced with
  | @cid dcid server mac configId listed resolved =>
    have forwards : (Route.cid dcid server mac configId).verdict.forwards = true := by
      simp only [Route.verdict]
      split <;> rfl
    rw [if_pos forwards]
    exact ⟨mac, rfl, .inl ⟨server, listed, resolved⟩⟩
  | @unroutable verdict drops =>
    have stays : (Route.unroutable verdict).verdict.forwards = false := drops
    rw [if_neg (by simp [stays])]
    exact ⟨rfl, fun _ => rfl⟩
  | sticky live => exact ⟨_, rfl, .inr live⟩
  | hashed listed resolved => exact ⟨_, rfl, .inl ⟨_, listed, resolved⟩⟩
  | quoted listed resolved => exact ⟨_, rfl, .inl ⟨_, listed, resolved⟩⟩
  | quotedSticky live => exact ⟨_, rfl, .inr live⟩
  | pass => exact ⟨rfl, fun _ => rfl⟩

/-- Carrying out a route with a source. -/
theorem Route.Sourced.effect (sourced : route.Sourced table conn now)
    (applied : route.apply frame conn flow localMac now = .ok (verdict, frame', conn')) :
    Effect table conn localMac now frame verdict frame' conn' := by
  have source := sourced.mac_of_forwards
  unfold Route.apply at applied
  by_cases forwards : route.verdict.forwards = true
  · rw [if_pos forwards] at source
    obtain ⟨mac, target, source⟩ := source
    simp only [target, Checked.bind_eq_ok_iff, Checked.pure_eq_ok, Except.ok.injEq,
      Prod.mk.injEq] at applied
    obtain ⟨written, rewritten, rfl, rfl, rfl⟩ := applied
    exact ⟨fun _ => ⟨mac, source, writeMacs_readdressed rewritten⟩, by simp [forwards]⟩
  · rw [if_neg forwards] at source
    obtain ⟨target, untouched⟩ := source
    simp only [target, Checked.pure_eq_ok, Checked.ok_bind, Except.ok.injEq,
      Prod.mk.injEq] at applied
    obtain ⟨rfl, rfl, rfl⟩ := applied
    exact ⟨fun sent => absurd sent forwards, fun _ => ⟨rfl, untouched flow⟩⟩

/-- What processing a UDP packet does to the frame and the connections. -/
theorem processUdp_effect {quicOffset : Nat}
    (processed : processUdp aes hash frame table conn quicOffset flow localMac now =
      .ok (verdict, frame', conn')) :
    Effect table conn localMac now frame verdict frame' conn' := by
  obtain ⟨route, routed, applied⟩ := processUdp_ok processed
  exact (routeUdp_sourced routed).effect applied

/-- What processing an ICMP error does to them. -/
theorem processIcmp_effect {innerQuicOffset : Nat}
    (processed : processIcmp aes frame table conn innerQuicOffset flow localMac now =
      .ok (verdict, frame', conn')) :
    Effect table conn localMac now frame verdict frame' conn' := by
  obtain ⟨route, routed, applied⟩ := processIcmp_ok processed
  exact (routeIcmp_sourced routed).effect applied

/-- An ICMP error leaves the connections alone. -/
theorem processIcmp_keeps_table {innerQuicOffset : Nat}
    (processed : processIcmp aes frame table conn innerQuicOffset flow localMac now =
      .ok (verdict, frame', conn')) : conn' = conn := by
  obtain ⟨route, routed, applied⟩ := processIcmp_ok processed
  rw [(Route.apply_ok applied).2.1]
  rcases routeIcmp_cases routed with ⟨mac, rfl, -⟩ | ⟨mac, rfl, -⟩ | rfl
  · rfl
  · rfl
  · rfl

/-- Whatever exit a packet takes, routing replaces both Ethernet addresses of a frame it
forwards and nothing else, and touches neither the frame nor the connection table otherwise.
An ICMP error never changes the connection table. -/
theorem routing_touches_only_macs {parsed : ParsedFrame}
    (processed : processPacketParsed aes hash frame parsed table conn localMac now =
      .ok (verdict, frame', conn')) :
    Effect table conn localMac now frame verdict frame' conn' ∧
      ∀ innerQuicOffset reversedFlow, parsed.l4 = .icmp innerQuicOffset reversedFlow →
        conn' = conn := by
  unfold processPacketParsed at processed
  cases layer : parsed.l4 with
  | udp udpOffset quicOffset srcPort dstPort =>
    rw [layer] at processed
    exact ⟨processUdp_effect processed, by simp⟩
  | icmp innerQuicOffset reversedFlow =>
    rw [layer] at processed
    exact ⟨processIcmp_effect processed, fun _ _ _ => processIcmp_keeps_table processed⟩

end Rewrite

namespace SampleFallback

/-- The layout of the sample's frame: a UDP payload behind 42 bytes of headers. -/
def parsed : ParsedFrame :=
  ⟨.ipv4, 20, localMac, flow.srcAddr, flow.dstAddr, .udp 34 42 flow.srcPort flow.dstPort⟩

end SampleFallback

open SampleFallback in
/-- The sample's first packet is hashed and readdressed. -/
theorem routing_touches_only_macs_sample :
    processPacketParsed cipher (fun _ => 0) frame parsed table start localMac 7 =
        .ok (.fallbackForward, mac.val ++ localMac.val ++ frame.drop 12, afterFirst) ∧
      Effect table start localMac 7 frame .fallbackForward
        (mac.val ++ localMac.val ++ frame.drop 12) afterFirst := by
  have processed : processPacketParsed cipher (fun _ => 0) frame parsed table start localMac 7 =
      .ok (.fallbackForward, mac.val ++ localMac.val ++ frame.drop 12, afterFirst) := by rfl
  exact ⟨processed, (routing_touches_only_macs processed).1⟩

end Pesigitg
