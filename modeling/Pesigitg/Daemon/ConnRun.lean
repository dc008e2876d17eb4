import Pesigitg.Daemon.Packet

/-!
# Runs over one connection table

A worker calls `processUdp`, `processIcmp` and `maybeSweep` on its own table, with
the config table replaced at will between packets. `ConnRun` is such a run with its
log: each entry keeps the call's inputs and the exit the packet took. What a call
does to the table is said once, by `ConnStep.table_eq`.
-/

namespace Pesigitg

open Base

/-- One logged call. -/
inductive ConnCall where
  | udp (now : Instant) (table : ConfigTable) (frame : Bytes) (quicOffset : Nat) (flow : FlowKey)
      (localMac : Mac) (route : Route)
  | icmp (now : Instant) (table : ConfigTable) (frame : Bytes) (innerQuicOffset : Nat)
      (reversedFlow : FlowKey) (localMac : Mac) (route : Route)
  | sweep (now : Instant)

namespace ConnCall

/-- The clock reading a call was made with. -/
def time : ConnCall → Instant
  | .udp now _ _ _ _ _ _ | .icmp now _ _ _ _ _ _ | .sweep now => now

/-- The table after the call. -/
def after (conn : ConnectionTable) : ConnCall → ConnectionTable
  | .udp now _ _ _ flow _ route => route.record conn flow now
  | .icmp _ _ _ _ _ _ _ => conn
  | .sweep now => conn.maybeSweep now

end ConnCall

/-- A call the code can make from `conn` to `conn'`, logged as it happened. -/
inductive ConnStep (aes : Aes128) (hash : FlowKey → UInt64) :
    ConnectionTable → ConnCall → ConnectionTable → Prop where
  | udp {conn conn' : ConnectionTable} {now : Instant} {table : ConfigTable} {frame frame' : Bytes}
      {quicOffset : Nat} {flow : FlowKey} {localMac : Mac} {route : Route} {verdict : Verdict}
      (routed : routeUdp aes hash (frame.drop quicOffset) table conn flow now = .ok route)
      (processed : processUdp aes hash frame table conn quicOffset flow localMac now =
        .ok (verdict, frame', conn')) :
      ConnStep aes hash conn (.udp now table frame quicOffset flow localMac route) conn'
  | icmp {conn conn' : ConnectionTable} {now : Instant} {table : ConfigTable}
      {frame frame' : Bytes} {innerQuicOffset : Nat} {reversedFlow : FlowKey} {localMac : Mac}
      {route : Route} {verdict : Verdict}
      (routed : routeIcmp aes (frame.drop innerQuicOffset) table conn reversedFlow now = .ok route)
      (processed : processIcmp aes frame table conn innerQuicOffset reversedFlow localMac now =
        .ok (verdict, frame', conn')) :
      ConnStep aes hash conn
        (.icmp now table frame innerQuicOffset reversedFlow localMac route) conn'
  | sweep (conn : ConnectionTable) (now : Instant) :
      ConnStep aes hash conn (.sweep now) (conn.maybeSweep now)

/-- A run from `start`, its log oldest first, with a clock that never goes back. -/
inductive ConnRun (aes : Aes128) (hash : FlowKey → UInt64) (start : ConnectionTable) :
    List ConnCall → ConnectionTable → Prop where
  | nil : ConnRun aes hash start [] start
  | snoc {log : List ConnCall} {conn conn' : ConnectionTable} {call : ConnCall}
      (prior : ConnRun aes hash start log conn)
      (clock : ∀ earlier ∈ log, earlier.time ≤ call.time)
      (step : ConnStep aes hash conn call conn') :
      ConnRun aes hash start (log ++ [call]) conn'

section Calls

variable {aes : Aes128} {hash : FlowKey → UInt64} {table : ConfigTable}
  {conn conn' : ConnectionTable} {frame frame' : Bytes} {quicOffset : Nat} {flow : FlowKey}
  {localMac : Mac} {now : Instant} {route : Route} {verdict : Verdict}

/-- Carrying out a route gives its verdict and its record, and rewrites the frame
to the route's MAC if it has one. -/
theorem Route.apply_ok
    (applied : route.apply frame conn flow localMac now = .ok (verdict, frame', conn')) :
    verdict = route.verdict ∧ conn' = route.record conn flow now ∧
      ∀ mac, route.mac? = some mac → frame' = mac.val ++ localMac.val ++ frame.drop 12 := by
  unfold Route.apply at applied
  cases target : route.mac? with
  | none =>
    simp only [target, Checked.pure_eq_ok, Checked.ok_bind, Except.ok.injEq,
      Prod.mk.injEq] at applied
    obtain ⟨rfl, rfl, rfl⟩ := applied
    exact ⟨rfl, rfl, by simp⟩
  | some mac =>
    simp only [target, Checked.bind_eq_ok_iff, Checked.pure_eq_ok, Except.ok.injEq,
      Prod.mk.injEq] at applied
    obtain ⟨written, rewritten, rfl, rfl, rfl⟩ := applied
    refine ⟨rfl, rfl, ?_⟩
    intro other same
    cases same
    exact writeMacs_ok rewritten

/-- Indexing returns exactly if the server is there. -/
theorem serverAt_eq_ok_iff {servers : List Server} {index : Nat} {server : Server} :
    serverAt servers index = .ok server ↔ servers[index]? = some server := by
  unfold serverAt
  cases servers[index]? <;> simp

/-- A usable server stands at the resolved index, healthy and with a MAC. -/
theorem usableServer_placed {config : RouteConfig} {index : Option Nat} {server : Server}
    {mac : Mac} (usable : usableServer config index = .ok (some (server, mac))) :
    ∃ position, index = some position ∧ config.servers[position]? = some server ∧
      server.healthy = true ∧ server.mac = some mac := by
  cases index with
  | none => simp [usableServer] at usable
  | some position =>
    rw [usableServer, Checked.bind_eq_ok_iff] at usable
    obtain ⟨entry, indexed, usable⟩ := usable
    have placed : config.servers[position]? = some entry := serverAt_eq_ok_iff.mp indexed
    by_cases healthy : entry.healthy = true
    · cases resolved : entry.mac with
      | none => simp [healthy, resolved] at usable
      | some found =>
        simp only [healthy, if_true, resolved, Option.map_some, Checked.pure_eq_ok,
          Except.ok.injEq, Option.some.injEq, Prod.mk.injEq] at usable
        obtain ⟨rfl, rfl⟩ := usable
        exact ⟨position, rfl, placed, healthy, resolved⟩
    · simp [healthy] at usable

/-- What a successful lookup read: the CID's first octet, the config it names and the CID. -/
theorem lookupConfig_some {quic dcid : Bytes} {config : RouteConfig}
    (found : lookupConfig quic table = .ok (some (dcid, config))) :
    ∃ octet, firstCidOctet quic = .ok (some octet) ∧ octet >>> 5 ≠ 7 ∧
      table.get (octet >>> 5) = some config ∧
      extractRawDcid quic config.cidLength = .ok (some dcid) := by
  rw [lookupConfig, Checked.bind_eq_ok_iff] at found
  obtain ⟨octet, first, found⟩ := found
  cases octet with
  | none => simp at found
  | some octet =>
    simp only at found
    split at found
    · simp at found
    · next named =>
      cases placed : table.get (octet >>> 5) with
      | none => simp [placed] at found
      | some entry =>
        simp only [placed, Checked.bind_eq_ok_iff] at found
        obtain ⟨raw, extracted, found⟩ := found
        cases raw with
        | none => simp at found
        | some bytes =>
          simp only [Checked.pure_eq_ok, Except.ok.injEq, Option.some.injEq,
            Prod.mk.injEq] at found
          obtain ⟨rfl, rfl⟩ := found
          exact ⟨octet, first, named, placed, extracted⟩

/-- The other way round: what these reads give is what the lookup finds. -/
theorem lookupConfig_of_reads {quic dcid : Bytes} {octet : UInt8} {config : RouteConfig}
    (first : firstCidOctet quic = .ok (some octet)) (placed : table.get (octet >>> 5) = some config)
    (extracted : extractRawDcid quic config.cidLength = .ok (some dcid)) :
    lookupConfig quic table = .ok (some (dcid, config)) := by
  have notReserved : octet >>> 5 ≠ 7 := ConfigTable.get_not_reserved placed
  simp only [lookupConfig, first, Checked.ok_bind, notReserved, if_false, placed, extracted,
    Checked.pure_eq_ok]

/-- The config that the first octet of a long header's DCID selects, and the DCID itself. -/
theorem lookupConfig_long {octet first : UInt8} {payload version rest : Bytes}
    {config : RouteConfig} (form : first &&& 0x80 ≠ 0) (versionLength : version.length = 4)
    (small : payload.length < 255) (placed : table.get (octet >>> 5) = some config) :
    lookupConfig (first :: version ++ UInt8.ofNat (octet :: payload).length ::
      (octet :: payload) ++ rest) table = .ok (some (octet :: payload, config)) := by
  have short : (octet :: payload).length < 256 := by
    rw [List.length_cons]
    omega
  exact lookupConfig_of_reads
    (firstCidOctet_carries small (.long first version rest form versionLength)) placed
    (extractRawDcid_long config.cidLength form versionLength short (List.cons_ne_nil octet payload))

/-- A long header whose DCID names an empty slot has no config. -/
theorem lookupConfig_long_none {octet first : UInt8}
    {payload version rest : Bytes} (form : first &&& 0x80 ≠ 0) (versionLength : version.length = 4)
    (small : payload.length < 255) (unplaced : table.get (octet >>> 5) = none) :
    lookupConfig (first :: version ++ UInt8.ofNat (octet :: payload).length ::
      (octet :: payload) ++ rest) table = .ok none := by
  have carries : CarriesDcid (octet :: payload) (first :: version ++
      UInt8.ofNat (octet :: payload).length :: (octet :: payload) ++ rest) :=
    .long first version rest form versionLength
  simp only [lookupConfig, firstCidOctet_carries small carries, Checked.ok_bind, unplaced,
    Checked.pure_eq_ok, ite_self]

/-- A looked-up config is an active one. -/
theorem lookupConfig_mem {quic dcid : Bytes} {config : RouteConfig}
    (found : lookupConfig quic table = .ok (some (dcid, config))) : config ∈ table.configs := by
  obtain ⟨octet, -, -, placed, -⟩ := lookupConfig_some found
  obtain ⟨inside, stored⟩ := ConfigTable.get_eq_some placed
  exact ConfigTable.mem_configs.mpr ⟨_, stored⟩

/-- A UDP packet that got through took some exit, and that exit was carried out. -/
theorem processUdp_ok
    (processed : processUdp aes hash frame table conn quicOffset flow localMac now =
      .ok (verdict, frame', conn')) :
    ∃ route, routeUdp aes hash (frame.drop quicOffset) table conn flow now = .ok route ∧
      route.apply frame conn flow localMac now = .ok (verdict, frame', conn') := by
  rw [processUdp, Checked.bind_eq_ok_iff] at processed
  obtain ⟨quic, sliced, processed⟩ := processed
  obtain ⟨-, rfl⟩ := sliceFrom_eq_ok_iff.mp sliced
  rw [Checked.bind_eq_ok_iff] at processed
  exact processed

/-- An ICMP error that was processed was routed, and its route applied. -/
theorem processIcmp_ok
    (processed : processIcmp aes frame table conn quicOffset flow localMac now =
      .ok (verdict, frame', conn')) :
    ∃ route, routeIcmp aes (frame.drop quicOffset) table conn flow now = .ok route ∧
      route.apply frame conn flow localMac now = .ok (verdict, frame', conn') := by
  rw [processIcmp, Checked.bind_eq_ok_iff] at processed
  obtain ⟨innerQuic, sliced, processed⟩ := processed
  obtain ⟨-, rfl⟩ := sliceFrom_eq_ok_iff.mp sliced
  rw [Checked.bind_eq_ok_iff] at processed
  exact processed

/-- A packet whose exit has a MAC is rewritten to it. -/
theorem processUdp_of_route {mac : Mac} (long : 12 ≤ frame.length)
    (inside : quicOffset ≤ frame.length)
    (routed : routeUdp aes hash (frame.drop quicOffset) table conn flow now = .ok route)
    (target : route.mac? = some mac) :
    processUdp aes hash frame table conn quicOffset flow localMac now =
      .ok (route.verdict, mac.val ++ localMac.val ++ frame.drop 12,
        route.record conn flow now) := by
  rw [processUdp, sliceFrom_of_le inside, Checked.ok_bind, routed, Checked.ok_bind]
  simp only [Route.apply, target, writeMacs_of_le long, Checked.ok_bind, Checked.pure_eq_ok]

/-- A packet whose exit has no MAC keeps its frame. -/
theorem processUdp_of_kept (inside : quicOffset ≤ frame.length)
    (routed : routeUdp aes hash (frame.drop quicOffset) table conn flow now = .ok route)
    (kept : route.mac? = none) :
    processUdp aes hash frame table conn quicOffset flow localMac now =
      .ok (route.verdict, frame, route.record conn flow now) := by
  rw [processUdp, sliceFrom_of_le inside, Checked.ok_bind, routed, Checked.ok_bind]
  simp only [Route.apply, kept, Checked.ok_bind, Checked.pure_eq_ok]

/-- A MAC found through a quoted source CID is that of a server of an active config. -/
theorem routeScid_some {innerQuic : Bytes} {mac : Mac}
    (found : routeScid aes innerQuic table = .ok (some mac)) :
    ∃ config ∈ table.configs, ∃ server ∈ config.servers, server.mac = some mac := by
  rw [routeScid, Checked.bind_eq_ok_iff] at found
  obtain ⟨scid, -, found⟩ := found
  cases scid with
  | none => simp at found
  | some scid =>
    simp only at found
    split at found
    · simp at found
    · rw [Checked.bind_eq_ok_iff] at found
      obtain ⟨first, -, found⟩ := found
      split at found
      · simp at found
      · cases placed : table.get (first >>> 5) with
        | none => simp [placed] at found
        | some config =>
          simp only [placed, Checked.bind_eq_ok_iff] at found
          obtain ⟨index, -, found⟩ := found
          cases index with
          | none => simp at found
          | some index =>
            rw [Checked.bind_eq_ok_iff] at found
            obtain ⟨server, indexed, found⟩ := found
            obtain ⟨inside, stored⟩ := ConfigTable.get_eq_some placed
            exact ⟨config, ConfigTable.mem_configs.mpr ⟨_, stored⟩, server,
              List.mem_of_getElem? (serverAt_eq_ok_iff.mp indexed), Except.ok.inj found⟩

/-- The exits of an ICMP error, none of which touches the table. -/
theorem routeIcmp_cases {innerQuic : Bytes}
    (routed : routeIcmp aes innerQuic table conn flow now = .ok route) :
    (∃ mac, route = .quoted mac ∧ routeScid aes innerQuic table = .ok (some mac)) ∨
      (∃ mac, route = .quotedSticky mac ∧ conn.lookup flow none now = some mac) ∨
      route = .pass := by
  rw [routeIcmp, Checked.bind_eq_ok_iff] at routed
  obtain ⟨scid, quoted, routed⟩ := routed
  cases scid with
  | some mac =>
    simp only [Checked.pure_eq_ok, Except.ok.injEq] at routed
    exact .inl ⟨mac, routed.symm, quoted⟩
  | none =>
    cases found : conn.lookup flow none now with
    | some mac =>
      simp only [found, Checked.pure_eq_ok, Except.ok.injEq] at routed
      exact .inr (.inl ⟨mac, routed.symm, rfl⟩)
    | none =>
      simp only [found, Checked.pure_eq_ok, Except.ok.injEq] at routed
      exact .inr (.inr routed.symm)

/-- How the CID path leaves: the looked-up config, the index its CID resolves to, and either
the usable server there or, for a CID that fills the config, the reason there is none. -/
theorem routeCid_found {quic : Bytes} (routed : routeCid aes quic table = .ok (some route)) :
    ∃ dcid config index, lookupConfig quic table = .ok (some (dcid, config)) ∧
      resolveServerIdx aes dcid config = .ok index ∧
      ((∃ server mac, usableServer config index = .ok (some (server, mac)) ∧
          route = .cid dcid server mac config.configId) ∨
        usableServer config index = .ok none ∧ config.cidPayloadLength.toNat < dcid.length ∧
          route = .unroutable
            (if index.isSome then .cidUnroutableNoServer else .cidUnroutableBadServerId)) := by
  rw [routeCid, Checked.bind_eq_ok_iff] at routed
  obtain ⟨looked, found, routed⟩ := routed
  cases looked with
  | none => simp at routed
  | some pair =>
    obtain ⟨dcid, config⟩ := pair
    simp only [Checked.bind_eq_ok_iff] at routed
    obtain ⟨index, resolved, usable, chosen, routed⟩ := routed
    refine ⟨dcid, config, index, found, resolved, ?_⟩
    cases usable with
    | none =>
      simp only at routed
      split at routed
      · next fills =>
        simp only [Checked.pure_eq_ok, Except.ok.injEq, Option.some.injEq] at routed
        exact .inr ⟨chosen, fills, routed.symm⟩
      · simp at routed
    | some choice =>
      obtain ⟨server, mac⟩ := choice
      simp only [Checked.pure_eq_ok, Except.ok.injEq, Option.some.injEq] at routed
      exact .inl ⟨server, mac, chosen, routed.symm⟩

/-- A CID that resolves to a healthy server with a MAC is routed to it. -/
theorem routeCid_usable {quic dcid : Bytes} {config : RouteConfig} {index : Nat} {server : Server}
    {mac : Mac} (looked : lookupConfig quic table = .ok (some (dcid, config)))
    (resolved : resolveServerIdx aes dcid config = .ok (some index))
    (listed : config.servers[index]? = some server) (healthy : server.healthy = true)
    (addressed : server.mac = some mac) :
    routeCid aes quic table = .ok (some (.cid dcid server mac config.configId)) := by
  simp only [routeCid, looked, Checked.ok_bind, resolved, usableServer, serverAt, listed, healthy,
    if_true, addressed, Option.map_some, Checked.pure_eq_ok]

/-- The CID path gives up on a packet with a config exactly when its CID does not fill it. -/
theorem routeCid_none_iff {quic dcid : Bytes} {config : RouteConfig}
    (looked : lookupConfig quic table = .ok (some (dcid, config))) :
    routeCid aes quic table = .ok none ↔ dcid.length ≤ config.cidPayloadLength.toNat := by
  constructor
  · intro routed
    simp only [routeCid, looked, Checked.ok_bind, Checked.bind_eq_ok_iff] at routed
    obtain ⟨index, -, usable, -, routed⟩ := routed
    cases usable with
    | some choice => simp at routed
    | none =>
      simp only at routed
      split at routed
      · simp at routed
      · next short => exact Nat.not_lt.mp short
  · intro short
    have unread : dcid.length < 1 + config.cidPayloadLength.toNat := by omega
    have notFilled : ¬ config.cidPayloadLength.toNat < dcid.length := Nat.not_lt.mpr short
    simp only [routeCid, looked, Checked.ok_bind, resolveServerIdx, unread, if_true,
      Checked.pure_eq_ok, usableServer, notFilled, if_false]

/-- The exits of the CID path. A forwarded packet goes to a healthy server of an
active config. -/
theorem routeCid_cases {quic : Bytes} (routed : routeCid aes quic table = .ok (some route)) :
    (∃ dcid server mac configId, route = .cid dcid server mac configId ∧
      server.healthy = true ∧ server.mac = some mac ∧
      ∃ config ∈ table.configs, server ∈ config.servers) ∨
      ∃ verdict, route = .unroutable verdict ∧
        (verdict = .cidUnroutableNoServer ∨ verdict = .cidUnroutableBadServerId) := by
  obtain ⟨dcid, config, index, found, -, ⟨server, mac, usable, rfl⟩ | ⟨-, -, rfl⟩⟩ :=
    routeCid_found routed
  · left
    obtain ⟨position, -, placed, healthy, resolved⟩ := usableServer_placed usable
    exact ⟨dcid, server, mac, _, rfl, healthy, resolved, config, lookupConfig_mem found,
      List.mem_of_getElem? placed⟩
  · right
    refine ⟨_, rfl, ?_⟩
    cases index with
    | none => exact .inr rfl
    | some position => exact .inl rfl

/-- The exits of the fallback path. -/
theorem routeFallback_cases {quic : Bytes}
    (routed : routeFallback hash quic table conn flow now = .ok route) :
    ∃ rawDcid, fallbackRawDcid quic table = .ok rawDcid ∧
      ((∃ mac, route = .sticky mac ∧
          conn.lookup flow (rawDcid.map DcidKey.fromSlice) now = some mac) ∨
        conn.lookup flow (rawDcid.map DcidKey.fromSlice) now = none ∧
          ((∃ mac, route = .hashed (rawDcid.map DcidKey.fromSlice) mac ∧
            fallbackMac hash flow table.fallbackServers = .ok (some mac)) ∨ route = .pass)) := by
  rw [routeFallback, Checked.bind_eq_ok_iff] at routed
  obtain ⟨rawDcid, extracted, routed⟩ := routed
  refine ⟨rawDcid, extracted, ?_⟩
  simp only at routed
  cases found : conn.lookup flow (rawDcid.map DcidKey.fromSlice) now with
  | some mac =>
    simp only [found, Checked.pure_eq_ok, Except.ok.injEq] at routed
    exact .inl ⟨mac, routed.symm, rfl⟩
  | none =>
    right
    refine ⟨rfl, ?_⟩
    simp only [found, Checked.bind_eq_ok_iff] at routed
    obtain ⟨chosen, hashed, routed⟩ := routed
    cases chosen with
    | some mac =>
      simp only [Checked.pure_eq_ok, Except.ok.injEq] at routed
      exact .inl ⟨mac, routed.symm, hashed⟩
    | none =>
      simp only [Checked.pure_eq_ok, Except.ok.injEq] at routed
      exact .inr routed.symm

/-- A UDP packet takes the exit of the CID path, or that of the fallback path where the CID path
gives up. -/
theorem routeUdp_eq_ok_iff {quic : Bytes} :
    routeUdp aes hash quic table conn flow now = .ok route ↔
      routeCid aes quic table = .ok (some route) ∨
        routeCid aes quic table = .ok none ∧
          routeFallback hash quic table conn flow now = .ok route := by
  rw [routeUdp, Checked.bind_eq_ok_iff]
  constructor
  · rintro ⟨cid, cidRouted, routed⟩
    cases cid with
    | some chosen =>
      simp only [Checked.pure_eq_ok, Except.ok.injEq] at routed
      rw [cidRouted, routed]
      exact .inl rfl
    | none => exact .inr ⟨cidRouted, routed⟩
  · rintro (cidRouted | ⟨fellBack, routed⟩)
    · exact ⟨some route, cidRouted, rfl⟩
    · exact ⟨none, fellBack, routed⟩

/-- The ways a UDP packet leaves the pipeline, each with what held when it took it. -/
inductive UdpExit (hash : FlowKey → UInt64) (quic : Bytes) (table : ConfigTable)
    (conn : ConnectionTable) (flow : FlowKey) (now : Instant) : Route → Prop where
  | cid {dcid : Bytes} {server : Server} {mac : Mac} {configId : UInt8}
      (healthy : server.healthy = true) (resolved : server.mac = some mac)
      (active : ∃ config ∈ table.configs, server ∈ config.servers) :
      UdpExit hash quic table conn flow now (.cid dcid server mac configId)
  | unroutable (verdict : Verdict) : UdpExit hash quic table conn flow now (.unroutable verdict)
  | sticky {rawDcid : Option Bytes} {mac : Mac}
      (found : conn.lookup flow (rawDcid.map DcidKey.fromSlice) now = some mac) :
      UdpExit hash quic table conn flow now (.sticky mac)
  | hashed {rawDcid : Option Bytes} {mac : Mac}
      (extracted : fallbackRawDcid quic table = .ok rawDcid)
      (missed : conn.lookup flow (rawDcid.map DcidKey.fromSlice) now = none)
      (chosen : fallbackMac hash flow table.fallbackServers = .ok (some mac)) :
      UdpExit hash quic table conn flow now (.hashed (rawDcid.map DcidKey.fromSlice) mac)
  | pass : UdpExit hash quic table conn flow now .pass

/-- A packet that was routed left by one of the exits. -/
theorem routeUdp_exit {quic : Bytes}
    (routed : routeUdp aes hash quic table conn flow now = .ok route) :
    UdpExit hash quic table conn flow now route := by
  rcases routeUdp_eq_ok_iff.mp routed with cidRouted | ⟨-, fellBack⟩
  · rcases routeCid_cases cidRouted with
      ⟨dcid, server, mac, configId, rfl, healthy, resolved, active⟩ | ⟨verdict, rfl, -⟩
    · exact .cid healthy resolved active
    · exact .unroutable verdict
  · obtain ⟨rawDcid, extracted, exits⟩ := routeFallback_cases fellBack
    rcases exits with ⟨mac, rfl, found⟩ | ⟨missed, ⟨mac, rfl, chosen⟩ | rfl⟩
    · exact .sticky found
    · exact .hashed extracted missed chosen
    · exact .pass

/-- What a call does to the table is determined by its log entry. -/
theorem ConnStep.table_eq {call : ConnCall} (step : ConnStep aes hash conn call conn') :
    conn' = call.after conn := by
  cases step with
  | udp routed processed =>
    obtain ⟨route', routed', applied⟩ := processUdp_ok processed
    rw [routed] at routed'
    cases routed'
    exact (Route.apply_ok applied).2.1
  | icmp routed processed =>
    obtain ⟨route', routed', applied⟩ := processIcmp_ok processed
    rw [routed] at routed'
    cases routed'
    rw [(Route.apply_ok applied).2.1]
    rcases routeIcmp_cases routed with ⟨mac, rfl, -⟩ | ⟨mac, rfl, -⟩ | rfl
    · rfl
    · rfl
    · rfl
  | sweep now => rfl

end Calls

end Pesigitg
