import Pesigitg.Daemon.ConfigTable
import Pesigitg.Daemon.Frame

/-!
# The packet pipeline

`processUdp` and `processIcmp` choose a backend for a parsed frame and rewrite its
Ethernet addresses. The choice is separated from its effects: `routeUdp` and
`routeIcmp` name the exit taken with the data that decided it, and `Route.apply`
carries out what that exit does to the frame and to the connection table. Only a
fallback exit reads the connection table.
-/

namespace Pesigitg

open Base

/-- Outcome of packet processing. -/
inductive Verdict where
  | cidForward (configId : UInt8)
  | cidForwardDraining (configId : UInt8)
  | fallbackForward
  | icmpForward
  | cidUnroutableNoServer
  | cidUnroutableBadServerId
  | pass
deriving DecidableEq, Repr

/-- `servers[index]`. -/
def serverAt (servers : List Server) (index : Nat) : Checked Server :=
  match servers[index]? with
  | some server => .ok server
  | none => .error .index

/-- Select a backend by hashing the 4-tuple. `hash` is the flow's `FxHasher` value. -/
def fallbackMac (hash : FlowKey → UInt64) (flow : FlowKey) (servers : List Server) :
    Checked (Option Mac) :=
  if servers.isEmpty then pure none
  else do
    let target := (hash flow).toNat % servers.length
    let server ← serverAt servers target
    pure server.mac

/-- The exit a packet leaves the pipeline through. -/
inductive Route where
  /-- The CID names a healthy server with a MAC. -/
  | cid (dcid : Bytes) (server : Server) (mac : Mac) (configId : UInt8)
  /-- The CID belongs to a config but not to a usable server. -/
  | unroutable (verdict : Verdict)
  /-- The connection table knows the flow or its DCID. -/
  | sticky (mac : Mac)
  /-- The flow is hashed to a fallback server and remembered. -/
  | hashed (dcid : Option DcidKey) (mac : Mac)
  /-- The quoted packet's source CID names a server with a MAC. -/
  | quoted (mac : Mac)
  /-- The quoted packet's flow is known to the connection table. -/
  | quotedSticky (mac : Mac)
  | pass
deriving DecidableEq, Repr

/-- The server a resolved index stands for, if it is healthy and has a MAC. -/
def usableServer (config : RouteConfig) : Option Nat → Checked (Option (Server × Mac))
  | none => pure none
  | some index => do
    let server ← serverAt config.servers index
    if server.healthy then pure (server.mac.map fun mac => (server, mac)) else pure none

/-- The CID path: a route, or `none` to fall through to the fallback path. -/
def routeCid (aes : Aes128) (quic : Bytes) (table : ConfigTable) : Checked (Option Route) := do
  match ← lookupConfig quic table with
  | none => pure none
  | some (dcid, config) => do
    let serverIdx ← resolveServerIdx aes dcid config
    match ← usableServer config serverIdx with
    | some (server, mac) => pure (some (.cid dcid server mac config.configId))
    | none =>
      -- A CID too short for the config is a client's own, not a stale server's.
      if config.cidPayloadLength.toNat < dcid.length then
        pure (some (.unroutable
          (if serverIdx.isSome then .cidUnroutableNoServer else .cidUnroutableBadServerId)))
      else pure none

/-- The raw DCID of a packet on the fallback path. -/
def fallbackRawDcid (quic : Bytes) (table : ConfigTable) : Checked (Option Bytes) :=
  match table.fallbackCidLength with
  | none => pure none
  | some length => extractRawDcid quic length

/-- The fallback path. -/
def routeFallback (hash : FlowKey → UInt64) (quic : Bytes) (table : ConfigTable)
    (conn : ConnectionTable) (flow : FlowKey) (now : Instant) : Checked Route := do
  let rawDcid ← fallbackRawDcid quic table
  let dcidKey := rawDcid.map DcidKey.fromSlice
  match conn.lookup flow dcidKey now with
  | some mac => pure (.sticky mac)
  | none => do
    match ← fallbackMac hash flow table.fallbackServers with
    | some mac => pure (.hashed dcidKey mac)
    | none => pure .pass

/-- The exit of a UDP packet. -/
def routeUdp (aes : Aes128) (hash : FlowKey → UInt64) (quic : Bytes) (table : ConfigTable)
    (conn : ConnectionTable) (flow : FlowKey) (now : Instant) : Checked Route := do
  match ← routeCid aes quic table with
  | some route => pure route
  | none => routeFallback hash quic table conn flow now

/-- The MAC a quoted packet's source CID leads to. -/
def routeScid (aes : Aes128) (innerQuic : Bytes) (table : ConfigTable) : Checked (Option Mac) := do
  match ← extractScid innerQuic with
  | none => pure none
  | some scid =>
    if scid.isEmpty then pure none
    else do
      let first ← readByte scid 0
      let configId := first >>> 5
      if configId = 7 then pure none
      else
        match table.get configId with
        | none => pure none
        | some config => do
          match ← resolveServerIdx aes scid config with
          | none => pure none
          | some serverIdx => do
            let server ← serverAt config.servers serverIdx
            pure server.mac

/-- The exit of an ICMP error. -/
def routeIcmp (aes : Aes128) (innerQuic : Bytes) (table : ConfigTable) (conn : ConnectionTable)
    (reversedFlow : FlowKey) (now : Instant) : Checked Route := do
  match ← routeScid aes innerQuic table with
  | some mac => pure (.quoted mac)
  | none =>
    match conn.lookup reversedFlow none now with
    | some mac => pure (.quotedSticky mac)
    | none => pure .pass

/-- Rewrite the Ethernet destination and source. -/
def writeMacs (frame : Bytes) (mac localMac : Mac) : Checked Bytes := do
  let frame ← copyInto frame 0 6 mac.val
  copyInto frame 6 12 localMac.val

namespace Route

/-- The MAC a route forwards to. -/
def mac? : Route → Option Mac
  | .cid _ _ mac _ | .sticky mac | .hashed _ mac | .quoted mac | .quotedSticky mac => some mac
  | .unroutable _ | .pass => none

def verdict : Route → Verdict
  | .cid _ server _ configId =>
    if server.draining then .cidForwardDraining configId else .cidForward configId
  | .unroutable verdict => verdict
  | .sticky _ | .hashed _ _ => .fallbackForward
  | .quoted _ | .quotedSticky _ => .icmpForward
  | .pass => .pass

/-- What a route leaves in the connection table. -/
def record (route : Route) (conn : ConnectionTable) (flow : FlowKey) (now : Instant) :
    ConnectionTable :=
  match route with
  | .cid dcid _ mac _ => conn.recordDcid (DcidKey.fromSlice dcid) mac now
  | .hashed dcid mac => conn.insert flow dcid mac now
  | .unroutable _ | .sticky _ | .quoted _ | .quotedSticky _ | .pass => conn

/-- Carry out a route. -/
def apply (route : Route) (frame : Bytes) (conn : ConnectionTable) (flow : FlowKey)
    (localMac : Mac) (now : Instant) : Checked (Verdict × Bytes × ConnectionTable) := do
  let frame ← match route.mac? with
    | some mac => writeMacs frame mac localMac
    | none => pure frame
  pure (route.verdict, frame, route.record conn flow now)

end Route

/-- Process a regular UDP/QUIC packet. -/
def processUdp (aes : Aes128) (hash : FlowKey → UInt64) (frame : Bytes) (table : ConfigTable)
    (conn : ConnectionTable) (quicOffset : Nat) (flow : FlowKey) (localMac : Mac) (now : Instant) :
    Checked (Verdict × Bytes × ConnectionTable) := do
  let quic ← sliceFrom frame quicOffset
  let route ← routeUdp aes hash quic table conn flow now
  route.apply frame conn flow localMac now

/-- Process an ICMP error packet containing an echoed QUIC packet. -/
def processIcmp (aes : Aes128) (frame : Bytes) (table : ConfigTable) (conn : ConnectionTable)
    (innerQuicOffset : Nat) (reversedFlow : FlowKey) (localMac : Mac) (now : Instant) :
    Checked (Verdict × Bytes × ConnectionTable) := do
  let innerQuic ← sliceFrom frame innerQuicOffset
  let route ← routeIcmp aes innerQuic table conn reversedFlow now
  route.apply frame conn reversedFlow localMac now

/-- Process a frame whose layout is known. -/
def processPacketParsed (aes : Aes128) (hash : FlowKey → UInt64) (frame : Bytes)
    (parsed : ParsedFrame) (table : ConfigTable) (conn : ConnectionTable) (localMac : Mac)
    (now : Instant) : Checked (Verdict × Bytes × ConnectionTable) :=
  match parsed.l4 with
  | .udp _ quicOffset srcPort dstPort =>
    processUdp aes hash frame table conn quicOffset
      ⟨parsed.srcAddr, parsed.dstAddr, srcPort, dstPort⟩ localMac now
  | .icmp innerQuicOffset reversedFlow =>
    processIcmp aes frame table conn innerQuicOffset reversedFlow localMac now

section Effects

variable {frame : Bytes} {mac localMac : Mac}

/-- Rewriting the addresses of a frame that has an Ethernet header. -/
theorem writeMacs_of_le (long : 12 ≤ frame.length) :
    writeMacs frame mac localMac = .ok (mac.val ++ localMac.val ++ frame.drop 12) := by
  have macLength : mac.val.length = 6 := mac.property
  have localLength : localMac.val.length = 6 := localMac.property
  have first : copyInto frame 0 6 mac.val = .ok (mac.val ++ frame.drop 6) := by
    rw [copyInto_eq_ok_iff]
    exact ⟨by omega, by omega, macLength, by simp⟩
  rw [writeMacs, first, Checked.ok_bind, copyInto_eq_ok_iff]
  refine ⟨by omega, by simp; omega, localLength, ?_⟩
  rw [List.take_append_of_le_length (Nat.le_of_eq macLength.symm),
    List.take_of_length_le (Nat.le_of_eq macLength), List.drop_append, macLength,
    List.drop_eq_nil_of_le (by omega), List.nil_append, List.drop_drop]

/-- Bytes behind an offset past the Ethernet header mean that both addresses are there. -/
theorem bounds_of_payload {quicOffset : Nat} (afterEthernet : ethHdrLen ≤ quicOffset)
    (payload : frame.drop quicOffset ≠ []) : 12 ≤ frame.length ∧ quicOffset ≤ frame.length := by
  have inside : quicOffset < frame.length := by
    rw [ne_eq, List.drop_eq_nil_iff, Nat.not_le] at payload
    exact payload
  simp only [ethHdrLen] at afterEthernet
  exact ⟨by omega, Nat.le_of_lt inside⟩

/-- A rewrite only succeeds where there are addresses to rewrite. -/
theorem writeMacs_long {result : Bytes} (written : writeMacs frame mac localMac = .ok result) :
    12 ≤ frame.length := by
  rw [writeMacs, Checked.bind_eq_ok_iff] at written
  obtain ⟨middle, first, second⟩ := written
  have bound := (copyInto_eq_ok_iff.mp second).2.1
  rwa [copyInto_length first] at bound

/-- It leaves the two MACs in front of the rest of the frame. -/
theorem writeMacs_ok {result : Bytes} (written : writeMacs frame mac localMac = .ok result) :
    result = mac.val ++ localMac.val ++ frame.drop 12 := by
  have long := writeMacs_long written
  rw [writeMacs_of_le long] at written
  exact (Except.ok.inj written).symm

end Effects

end Pesigitg
