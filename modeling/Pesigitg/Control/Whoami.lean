import Pesigitg.Daemon.CidRouting
import Pesigitg.Daemon.ClientDcid
import Pesigitg.Daemon.ReloadRouting

/-!
# Offline whoami

The control tool decodes a CID against the configs of a file, in a decision tree of its own over
the list that the parser returns. The datapath reaches the same decision through a packet's header
and a table of slots. `whoami_matches` runs the two side by side, and `whoami_agrees_with_datapath`
reads off that they agree on every CID.
-/

namespace Pesigitg

open Base

/-- What offline whoami finds out about a CID. -/
inductive WhoamiVerdict where
  | reserved
  | unknownConfig (configId : UInt8)
  | truncated (config : RouteConfig)
  | routes (config : RouteConfig) (index : Nat) (server : Server)
  | noEntry (config : RouteConfig)
deriving DecidableEq, Repr

/-- The decisions of `analyze_whoami_offline`. -/
def whoamiVerdict (aes : Aes128) (cid : Bytes) (configs : List RouteConfig) :
    Checked WhoamiVerdict := do
  let first ← readByte cid 0
  let configId := first >>> 5
  if configId = 7 then pure .reserved
  else
    match configs.find? fun config => config.configId == configId with
    | none => pure (.unknownConfig configId)
    | some config =>
      if cid.length < 1 + config.cidPayloadLength.toNat then pure (.truncated config)
      else do
        match ← resolveServerIdx aes cid config with
        | none => pure (.noEntry config)
        | some index => do
          let server ← serverAt config.servers index
          pure (.routes config index server)

namespace WhoamiVerdict

/-- The lines printed before the CID is compared with a config. -/
def configLines (cid : Bytes) (config : RouteConfig) : List String :=
  [s!"cid:       {Hex.encode cid}",
    s!"config_id: {config.configId}",
    s!"scheme:    {config.encryption.name}",
    s!"sid_len:   {config.serverIdLength} bytes",
    s!"nonce_len: {config.nonceLength} bytes"]

/-- The printed report. `showAddr` is the standard library's form of an address. -/
def lines (showAddr : IpAddr → String) (cid : Bytes) : WhoamiVerdict → List String
  | reserved =>
    [s!"cid:       {Hex.encode cid}", "verdict:   config_id 7 is reserved (unroutable)"]
  | unknownConfig configId =>
    [s!"cid:       {Hex.encode cid}", s!"config_id: {configId}",
      s!"verdict:   no route config with config_id={configId} in this file"]
  | truncated config =>
    let needed := 1 + config.cidPayloadLength.toNat
    configLines cid config ++
      [s!"verdict:   truncated (CID is {cid.length} byte(s); payload needs {needed})"]
  | routes config _ server =>
    let mac := (server.mac.map MacText.format).getD "(unset)"
    configLines cid config ++
      [s!"server_id: {Hex.encode server.id}",
        s!"verdict:   routes to {showAddr server.address} ({mac})"] ++
      if server.draining then ["state:     draining"] else []
  | noEntry config =>
    let configId := config.configId
    configLines cid config ++
      [s!"verdict:   server_id has no entry in config_id={configId} " ++
        "(would count as cid_unroutable)"]

/-- What a report comes down to. -/
inductive Kind where
  | leavesCidPath
  | routes
  | noEntry
deriving DecidableEq, Repr

def kind : WhoamiVerdict → Kind
  | reserved => .leavesCidPath
  | unknownConfig _ => .leavesCidPath
  | truncated _ => .leavesCidPath
  | routes _ _ _ => .routes
  | noEntry _ => .noEntry

/-- The kind of a printed report. A truncated CID and a missing entry print equally many lines,
and differ in the first character behind the label of the last one. -/
def Kind.read (printed : List String) : Kind :=
  if printed.length ≤ 3 then .leavesCidPath
  else if 7 ≤ printed.length then .routes
  else if (printed.getLast?.bind fun line => line.toList[11]?) = some 't' then .leavesCidPath
  else .noEntry

/-- The printed report tells the kinds of verdict apart. -/
theorem read_lines (showAddr : IpAddr → String) (cid : Bytes) (verdict : WhoamiVerdict) :
    Kind.read (verdict.lines showAddr cid) = verdict.kind := by
  cases verdict with
  | reserved => rfl
  | unknownConfig configId => rfl
  | truncated config =>
    simp only [Kind.read, lines, configLines, List.getLast?_append, List.getLast?_singleton,
      Option.some_or, Option.bind_some, String.toList_append, List.append_assoc]
    rw [List.getElem?_append_left (by decide)]
    rfl
  | routes config index server =>
    simp only [Kind.read, lines, configLines]
    split <;> rfl
  | noEntry config =>
    simp only [Kind.read, lines, configLines, List.getLast?_append, List.getLast?_singleton,
      Option.some_or, Option.bind_some, String.toList_append, List.append_assoc]
    rw [List.getElem?_append_left (by decide)]
    rfl

end WhoamiVerdict

/-- `analyze_whoami_offline`. -/
def analyzeWhoamiOffline (showAddr : IpAddr → String) (aes : Aes128) (cid : Bytes)
    (configs : List RouteConfig) : Checked (List String) := do
  let verdict ← whoamiVerdict aes cid configs
  pure (verdict.lines showAddr cid)

section BringUp

/-- A config with every server healthy and under a given MAC. -/
def RouteConfig.bringUp (macs : Nat → Mac) (config : RouteConfig) : RouteConfig :=
  { config with
    servers := config.servers.mapIdx fun index server =>
      { server with healthy := true, mac := some (macs index) } }

/-- A table with every server healthy and under the MAC given to its config and position. -/
def ConfigTable.bringUp (macs : UInt8 → Nat → Mac) (table : ConfigTable) : ConfigTable :=
  ConfigTable.rebuildFallbackServers { table with
    slots := fun id => (table.slots id).map fun config => config.bringUp (macs config.configId) }

/-- Bringing the servers up changes health and MACs only. -/
theorem RouteConfig.bringUp_refreshes (macs : Nat → Mac) (config : RouteConfig) :
    (config.bringUp macs).Refreshes config := by
  refine ⟨rfl, ?_⟩
  ext1 index
  simp only [RouteConfig.bringUp, List.getElem?_map, List.getElem?_mapIdx, Option.map_map]
  rfl

/-- Every server is up, with the MAC of its index. -/
theorem RouteConfig.bringUp_server {macs : Nat → Mac} {config : RouteConfig} {index : Nat}
    {server : Server} (listed : config.servers[index]? = some server) :
    (config.bringUp macs).servers[index]? =
      some { server with healthy := true, mac := some (macs index) } := by
  rw [RouteConfig.bringUp, List.getElem?_mapIdx, listed]
  rfl

/-- Every config of the table is brought up. -/
theorem ConfigTable.get_bringUp (macs : UInt8 → Nat → Mac) (table : ConfigTable) (configId : UInt8) :
    (table.bringUp macs).get configId =
      (table.get configId).map fun config => config.bringUp (macs config.configId) := by
  unfold ConfigTable.get
  split <;> rfl

end BringUp

/-- A decision of the tool and the exit of the CID path it belongs to. -/
inductive WhoamiMatches (macs : UInt8 → Nat → Mac) (cid : Bytes) (configs : List RouteConfig) :
    WhoamiVerdict → Option Route → Prop where
  | reserved : WhoamiMatches macs cid configs .reserved none
  | unknownConfig (configId : UInt8) :
      WhoamiMatches macs cid configs (.unknownConfig configId) none
  | truncated (config : RouteConfig) : WhoamiMatches macs cid configs (.truncated config) none
  | routes {config : RouteConfig} {index : Nat} {server : Server} (member : config ∈ configs)
      (listed : config.servers[index]? = some server) :
      WhoamiMatches macs cid configs (.routes config index server)
        (some (.cid cid
          { server with healthy := true, mac := some (macs config.configId index) }
          (macs config.configId index) config.configId))
  | noEntry (config : RouteConfig) :
      WhoamiMatches macs cid configs (.noEntry config)
        (some (.unroutable .cidUnroutableBadServerId))

section Match

variable {aes : Aes128} {table : ConfigTable} {configs : List RouteConfig}
  {macs : UInt8 → Nat → Mac} {octet first : UInt8} {payload version rest quic : Bytes}

/-- An index that was found is one of the list. -/
theorem findServerIdx_listed {config : RouteConfig} {id : Bytes} {index : Nat}
    (found : config.findServerIdx id = some index) :
    ∃ server, config.servers[index]? = some server := by
  rw [RouteConfig.findServerIdx, List.findIdx?_eq_some_iff_getElem] at found
  obtain ⟨inside, -⟩ := found
  exact ⟨_, List.getElem?_eq_getElem inside⟩

/-- A CID of no config: both give up on it. -/
theorem whoami_matches_unplaced
    (looked : lookupConfig quic (table.bringUp macs) = .ok none)
    (unlisted : (configs.find? fun config => config.configId == octet >>> 5) = none) :
    ∃ verdict route, whoamiVerdict aes (octet :: payload) configs = .ok verdict ∧
      routeCid aes quic (table.bringUp macs) = .ok route ∧
      WhoamiMatches macs (octet :: payload) configs verdict route := by
  have read : readByte (octet :: payload) 0 = .ok octet := readByte_of_lt (by simp)
  have fallsBack : routeCid aes quic (table.bringUp macs) = .ok none := by
    rw [routeCid, looked, Checked.ok_bind]
    rfl
  by_cases isReserved : octet >>> 5 = 7
  · refine ⟨.reserved, none, ?_, fallsBack, .reserved⟩
    simp only [whoamiVerdict, read, Checked.ok_bind, isReserved, if_true, Checked.pure_eq_ok]
  · refine ⟨.unknownConfig (octet >>> 5), none, ?_, fallsBack, .unknownConfig _⟩
    simp only [whoamiVerdict, read, Checked.ok_bind, isReserved, if_false, unlisted,
      Checked.pure_eq_ok]

/-- A CID of a config: both compare its length with the config's and look its server id up. -/
theorem whoami_matches_placed {config : RouteConfig} {index : Option Nat}
    (notReserved : octet >>> 5 ≠ 7)
    (looked : lookupConfig quic (table.bringUp macs) =
      .ok (some (octet :: payload, config.bringUp (macs config.configId))))
    (listed : (configs.find? fun config => config.configId == octet >>> 5) = some config)
    (resolved : resolveServerIdx aes (octet :: payload) config = .ok index) :
    ∃ verdict route, whoamiVerdict aes (octet :: payload) configs = .ok verdict ∧
      routeCid aes quic (table.bringUp macs) = .ok route ∧
      WhoamiMatches macs (octet :: payload) configs verdict route := by
  have read : readByte (octet :: payload) 0 = .ok octet := readByte_of_lt (by simp)
  have liveResolved : resolveServerIdx aes (octet :: payload)
      (config.bringUp (macs config.configId)) = .ok index :=
    ((config.bringUp_refreshes _).resolveServerIdx_eq aes (octet :: payload)).trans resolved
  have samePayload : (config.bringUp (macs config.configId)).cidPayloadLength =
      config.cidPayloadLength := rfl
  by_cases short : (octet :: payload).length < 1 + config.cidPayloadLength.toNat
  · refine ⟨.truncated config, none, ?_, ?_, .truncated config⟩
    · simp only [whoamiVerdict, read, Checked.ok_bind, notReserved, if_false, listed, short,
        if_true, Checked.pure_eq_ok]
    · apply (routeCid_none_iff looked).mpr
      rw [samePayload]
      omega
  · cases index with
    | none =>
      refine ⟨.noEntry config, _, ?_, ?_, .noEntry config⟩
      · simp only [whoamiVerdict, read, Checked.ok_bind, notReserved, if_false, listed, short,
          resolved, Checked.pure_eq_ok]
      · have fills : config.cidPayloadLength.toNat < (octet :: payload).length := by omega
        simp only [routeCid, looked, Checked.ok_bind, liveResolved, usableServer,
          Checked.pure_eq_ok, samePayload, fills, if_true]
        rfl
    | some index =>
      obtain ⟨-, id, found, -⟩ := resolveServerIdx_some resolved
      obtain ⟨server, atIndex⟩ := findServerIdx_listed found
      refine ⟨.routes config index server, _, ?_, ?_,
        .routes (List.mem_of_find?_eq_some listed) atIndex⟩
      · simp only [whoamiVerdict, read, Checked.ok_bind, notReserved, if_false, listed, short,
          resolved, serverAt_eq_ok_iff.mpr atIndex, Checked.pure_eq_ok]
      · have usable := routeCid_usable looked liveResolved (RouteConfig.bringUp_server atIndex)
          rfl rfl
        exact usable

/-- The tool and the CID path decide every CID alike. -/
theorem whoami_matches
    (lookups : ∀ configId, table.get configId =
      configs.find? fun config => config.configId == configId)
    (form : first &&& 0x80 ≠ 0) (versionLength : version.length = 4)
    (small : payload.length < 255)
    (carries : quic = first :: version ++ UInt8.ofNat (octet :: payload).length ::
      (octet :: payload) ++ rest)
    (returns : ∀ config, table.get (octet >>> 5) = some config →
      (resolveServerIdx aes (octet :: payload) config).Returns) :
    ∃ verdict route, whoamiVerdict aes (octet :: payload) configs = .ok verdict ∧
      routeCid aes quic (table.bringUp macs) = .ok route ∧
      WhoamiMatches macs (octet :: payload) configs verdict route := by
  subst carries
  cases placed : table.get (octet >>> 5) with
  | none =>
    have unplaced : (table.bringUp macs).get (octet >>> 5) = none := by
      rw [ConfigTable.get_bringUp, placed]
      rfl
    rw [lookups] at placed
    exact whoami_matches_unplaced (lookupConfig_long_none form versionLength small unplaced) placed
  | some config =>
    have live : (table.bringUp macs).get (octet >>> 5) =
        some (config.bringUp (macs config.configId)) := by
      rw [ConfigTable.get_bringUp, placed]
      rfl
    have notReserved : octet >>> 5 ≠ 7 := ConfigTable.get_not_reserved placed
    obtain ⟨index, resolved⟩ := returns config placed
    rw [lookups] at placed
    exact whoami_matches_placed notReserved (lookupConfig_long form versionLength small live)
      placed resolved

end Match

/-- A verdict of the CID path that sends the packet on. -/
def Verdict.IsCidForward (verdict : Verdict) : Prop :=
  ∃ configId, verdict = .cidForward configId ∨ verdict = .cidForwardDraining configId

/-- The packet was sent on by its CID, to a MAC. -/
def CidForwardsTo (processed : Checked (Verdict × Bytes × ConnectionTable)) (frame : Bytes)
    (localMac mac : Mac) : Prop :=
  ∃ verdict conn', processed = .ok (verdict, mac.val ++ localMac.val ++ frame.drop 12, conn') ∧
    verdict.IsCidForward

section Datapath

variable {aes : Aes128} {hash : FlowKey → UInt64} {table : ConfigTable} {conn : ConnectionTable}
  {frame : Bytes} {quicOffset : Nat} {flow : FlowKey} {localMac : Mac} {now : Instant}

/-- A packet whose CID names a server goes there. -/
theorem processUdp_cid {dcid : Bytes} {server : Server} {mac : Mac} {configId : UInt8}
    (long : 12 ≤ frame.length) (inside : quicOffset ≤ frame.length)
    (routed : routeCid aes (frame.drop quicOffset) table =
      .ok (some (.cid dcid server mac configId))) :
    CidForwardsTo (processUdp aes hash frame table conn quicOffset flow localMac now) frame
      localMac mac := by
  have route : routeUdp aes hash (frame.drop quicOffset) table conn flow now =
      .ok (.cid dcid server mac configId) := routeUdp_eq_ok_iff.mpr (.inl routed)
  refine ⟨_, _, processUdp_of_route long inside route rfl, configId, ?_⟩
  simp only [Route.verdict]
  split
  · exact .inr rfl
  · exact .inl rfl

/-- The verdict of a packet that its CID leads nowhere. -/
theorem processUdp_verdict {verdict : Verdict} {frame' : Bytes} {conn' : ConnectionTable}
    {route : Option Route}
    (routed : routeCid aes (frame.drop quicOffset) table = .ok route)
    (processed : processUdp aes hash frame table conn quicOffset flow localMac now =
      .ok (verdict, frame', conn')) :
    (∃ taken, route = some taken ∧ verdict = taken.verdict) ∨
      route = none ∧ (verdict = .fallbackForward ∨ verdict = .pass) := by
  obtain ⟨taken, udpRouted, applied⟩ := processUdp_ok processed
  obtain ⟨rfl, -, -⟩ := Route.apply_ok applied
  rcases routeUdp_eq_ok_iff.mp udpRouted with cidRouted | ⟨fellBack, fallback⟩
  · rw [routed] at cidRouted
    exact .inl ⟨taken, Except.ok.inj cidRouted, rfl⟩
  · rw [routed] at fellBack
    refine .inr ⟨Except.ok.inj fellBack, ?_⟩
    obtain ⟨-, -, ⟨mac, rfl, -⟩ | ⟨-, ⟨mac, rfl, -⟩ | rfl⟩⟩ := routeFallback_cases fallback
    · exact .inl rfl
    · exact .inl rfl
    · exact .inr rfl

/-- A packet whose CID names no server keeps its frame. -/
theorem processUdp_unroutable {verdict : Verdict} (inside : quicOffset ≤ frame.length)
    (routed : routeCid aes (frame.drop quicOffset) table = .ok (some (.unroutable verdict))) :
    processUdp aes hash frame table conn quicOffset flow localMac now =
      .ok (verdict, frame, conn) :=
  processUdp_of_kept inside (routeUdp_eq_ok_iff.mpr (.inl routed)) rfl

/-- A packet is sent to one MAC only. -/
theorem CidForwardsTo.unique {processed : Checked (Verdict × Bytes × ConnectionTable)}
    {mac mac' : Mac} (forwards : CidForwardsTo processed frame localMac mac)
    (forwards' : CidForwardsTo processed frame localMac mac') : mac = mac' := by
  obtain ⟨verdict, conn', done, -⟩ := forwards
  obtain ⟨verdict', conn'', done', -⟩ := forwards'
  rw [done] at done'
  simp only [Except.ok.injEq, Prod.mk.injEq, List.append_assoc] at done'
  obtain ⟨-, same, -⟩ := done'
  have sized : mac.val.length = mac'.val.length := by rw [mac.property, mac'.property]
  exact Subtype.ext (List.append_inj_left same sized)

/-- A packet is sent on by its CID only if the CID path chose a server. -/
theorem CidForwardsTo.route {mac : Mac} {route : Option Route}
    (routed : routeCid aes (frame.drop quicOffset) table = .ok route)
    (forwards : CidForwardsTo (processUdp aes hash frame table conn quicOffset flow localMac now)
      frame localMac mac) :
    ∃ taken, route = some taken ∧ taken.verdict.IsCidForward := by
  obtain ⟨verdict, conn', processed, cidForward⟩ := forwards
  rcases processUdp_verdict routed processed with ⟨taken, chosen, rfl⟩ | ⟨-, fellBack⟩
  · exact ⟨taken, chosen, cidForward⟩
  · obtain ⟨configId, isForward⟩ := cidForward
    rcases fellBack with rfl | rfl
    · rcases isForward with same | same <;> cases same
    · rcases isForward with same | same <;> cases same

end Datapath

/-- No other server was given this one's MAC. -/
def OwnMac (configs : List RouteConfig) (macs : UInt8 → Nat → Mac) (config : RouteConfig)
    (index : Nat) : Prop :=
  ∀ other ∈ configs, ∀ position < other.servers.length,
    macs other.configId position = macs config.configId index → other = config ∧ position = index

section Agreement

variable {aes : Aes128} {hash : FlowKey → UInt64} {table : ConfigTable} {conn : ConnectionTable}
  {frame cid : Bytes} {quicOffset : Nat} {flow : FlowKey} {localMac : Mac} {now : Instant}
  {macs : UInt8 → Nat → Mac} {configs : List RouteConfig} {verdict : WhoamiVerdict}
  {route : Option Route}

/-- The tool reports a route to a server under a MAC exactly when the packet goes to that MAC. -/
theorem WhoamiMatches.routes_iff (matched : WhoamiMatches macs cid configs verdict route)
    (long : 12 ≤ frame.length) (inside : quicOffset ≤ frame.length)
    (routed : routeCid aes (frame.drop quicOffset) table = .ok route) (mac : Mac) :
    (∃ config index server, verdict = .routes config index server ∧
        macs config.configId index = mac) ↔
      CidForwardsTo (processUdp aes hash frame table conn quicOffset flow localMac now) frame
        localMac mac := by
  constructor
  · rintro ⟨config, index, server, rfl, rfl⟩
    cases matched with
    | routes member listed => exact processUdp_cid long inside routed
  · intro forwards
    obtain ⟨taken, rfl, configId, isForward⟩ := CidForwardsTo.route routed forwards
    cases matched with
    | routes member listed =>
      exact ⟨_, _, _, rfl, (processUdp_cid long inside routed).unique forwards⟩
    | noEntry config => rcases isForward with same | same <;> cases same

/-- The tool reports no entry exactly when the packet counts as one with a bad server id. -/
theorem WhoamiMatches.noEntry_iff (matched : WhoamiMatches macs cid configs verdict route)
    (inside : quicOffset ≤ frame.length)
    (routed : routeCid aes (frame.drop quicOffset) table = .ok route) :
    verdict.kind = .noEntry ↔
      ∃ frame' conn', processUdp aes hash frame table conn quicOffset flow localMac now =
        .ok (.cidUnroutableBadServerId, frame', conn') := by
  constructor
  · intro isNoEntry
    cases matched with
    | noEntry => exact ⟨_, _, processUdp_unroutable inside routed⟩
    | _ => cases isNoEntry
  · rintro ⟨frame', conn', processed⟩
    rcases processUdp_verdict routed processed with ⟨taken, rfl, same⟩ | ⟨-, same | same⟩
    · cases matched with
      | routes member listed =>
        simp only [Route.verdict] at same
        split at same <;> cases same
      | noEntry config => rfl
    · cases same
    · cases same

/-- The tool reports reserved, unknown config or truncated exactly when the CID path gives up. -/
theorem WhoamiMatches.leaves_iff (matched : WhoamiMatches macs cid configs verdict route) :
    verdict.kind = .leavesCidPath ↔ route = none := by
  cases matched <;> simp [WhoamiVerdict.kind]

/-- With the MACs told apart, the report names exactly the server the packet goes to. -/
theorem WhoamiMatches.routes_own_iff (matched : WhoamiMatches macs cid configs verdict route)
    (long : 12 ≤ frame.length) (inside : quicOffset ≤ frame.length)
    (routed : routeCid aes (frame.drop quicOffset) table = .ok route) {config : RouteConfig}
    {index : Nat} {server : Server} (listed : config.servers[index]? = some server)
    (own : OwnMac configs macs config index) :
    verdict = .routes config index server ↔
      CidForwardsTo (processUdp aes hash frame table conn quicOffset flow localMac now) frame
        localMac (macs config.configId index) := by
  rw [← matched.routes_iff long inside routed]
  constructor
  · rintro rfl
    exact ⟨config, index, server, rfl, rfl⟩
  · rintro ⟨other, position, entry, rfl, sameMac⟩
    cases matched with
    | routes member atPosition =>
      obtain ⟨bound, -⟩ := List.getElem?_eq_some_iff.mp atPosition
      obtain ⟨rfl, rfl⟩ := own other member position bound sameMac
      rw [listed] at atPosition
      rw [Option.some.inj atPosition]

/-- Offline whoami agrees with the datapath on every CID and every accepted file, with all servers
of the file up: it reports a route exactly when the packet goes to the reported server's MAC, no
entry exactly when the packet counts as one with a bad server id, and reserved, unknown or
truncated exactly when the packet is left to the fallback path. The printed report shows which of
the three it was. -/
theorem whoami_agrees_with_datapath {raws : List RawConfig} {rawRetry : Option RawRetry}
    {loadedAt : Instant} (parsed : ConfigTable.fromStr raws rawRetry loadedAt = .ok (.ok table))
    {octet first : UInt8} {payload version rest : Bytes} (afterEthernet : ethHdrLen ≤ quicOffset)
    (form : first &&& 0x80 ≠ 0) (versionLength : version.length = 4)
    (small : (octet :: payload).length ≤ 255)
    (carries : frame.drop quicOffset = first :: version ++
      UInt8.ofNat (octet :: payload).length :: (octet :: payload) ++ rest)
    (returns : ∀ config, table.get (octet >>> 5) = some config →
      (resolveServerIdx aes (octet :: payload) config).Returns)
    (macs : UInt8 → Nat → Mac) (showAddr : IpAddr → String) (hash : FlowKey → UInt64)
    (conn : ConnectionTable) (flow : FlowKey) (localMac : Mac) (now : Instant) :
    ∃ configs verdict, parseRoutes raws = .ok (.ok configs) ∧
      whoamiVerdict aes (octet :: payload) configs = .ok verdict ∧
      analyzeWhoamiOffline showAddr aes (octet :: payload) configs =
        .ok (verdict.lines showAddr (octet :: payload)) ∧
      WhoamiVerdict.Kind.read (verdict.lines showAddr (octet :: payload)) = verdict.kind ∧
      (∀ mac, (∃ config index server, verdict = .routes config index server ∧
          macs config.configId index = mac) ↔
        CidForwardsTo (processUdp aes hash frame (table.bringUp macs) conn quicOffset flow localMac
          now) frame localMac mac) ∧
      (∀ config index server, config.servers[index]? = some server →
        OwnMac configs macs config index →
        (verdict = .routes config index server ↔
          CidForwardsTo (processUdp aes hash frame (table.bringUp macs) conn quicOffset flow
            localMac now) frame localMac (macs config.configId index))) ∧
      (verdict.kind = .noEntry ↔
        ∃ frame' conn', processUdp aes hash frame (table.bringUp macs) conn quicOffset flow
          localMac now = .ok (.cidUnroutableBadServerId, frame', conn')) ∧
      (verdict.kind = .leavesCidPath ↔
        routeCid aes (frame.drop quicOffset) (table.bringUp macs) = .ok none) := by
  obtain ⟨long, inside⟩ := bounds_of_payload afterEthernet (by rw [carries]; simp)
  rw [List.length_cons] at small
  obtain ⟨configs, routes, lookups, -⟩ := ConfigTable.fromStr_get parsed
  obtain ⟨verdict, route, decided, routed, matched⟩ :=
    whoami_matches lookups form versionLength (by omega) carries returns
  refine ⟨configs, verdict, routes, decided, ?_, verdict.read_lines showAddr _, ?_, ?_, ?_, ?_⟩
  · rw [analyzeWhoamiOffline, decided]
    rfl
  · exact matched.routes_iff long inside routed
  · intro config index server listed own
    exact matched.routes_own_iff long inside routed listed own
  · exact matched.noEntry_iff inside routed
  · rw [matched.leaves_iff, routed, Except.ok.injEq]

end Agreement

namespace SampleRoute

/-- A long header packet with the sample's CID. -/
def longFrame : Bytes :=
  List.replicate 42 0 ++ (0xc0 :: [0, 0, 0, 1] ++ UInt8.ofNat cid.length :: cid ++ [0, 0, 0])

end SampleRoute

open SampleRoute in
/-- The sample's encrypted CID: the tool names the sample's server, and the packet goes to the MAC
that the server was given. -/
theorem whoami_agrees_with_datapath_sample :
    whoamiVerdict cipher cid [config false] = .ok (.routes (config false) 0 (server false)) ∧
      CidForwardsTo (processUdp cipher (fun _ => 0) longFrame (fileTable.bringUp fun _ _ => mac)
        (ConnectionTable.new 0) 42 flow localMac 7) longFrame localMac mac := by
  have resolves : whoamiVerdict cipher cid [config false] =
      .ok (.routes (config false) 0 (server false)) := by decide +kernel
  refine ⟨resolves, ?_⟩
  have carries : longFrame.drop 42 = 0xc0 :: [0, 0, 0, 1] ++
      UInt8.ofNat (0x50 :: ciphertext).length :: (0x50 :: ciphertext) ++ [0, 0, 0] :=
    List.drop_left' rfl
  have returns : ∀ live, fileTable.get ((0x50 : UInt8) >>> 5) = some live →
      (resolveServerIdx cipher (0x50 :: ciphertext) live).Returns := by
    intro live placed
    have filed : fileTable.get ((0x50 : UInt8) >>> 5) = some (config false) := rfl
    obtain rfl := Option.some.inj (placed.symm.trans filed)
    exact ⟨some 0, by decide +kernel⟩
  obtain ⟨configs, verdict, routes, decided, -, -, goes, -⟩ :=
    whoami_agrees_with_datapath entry_accepted (by decide) (by decide) rfl (by decide) carries
      returns (fun _ _ => mac) (fun _ => "") (fun _ => 0) (ConnectionTable.new 0) flow localMac 7
  rw [entry_routes] at routes
  cases routes
  obtain rfl := Except.ok.inj (resolves.symm.trans decided)
  exact (goes mac).mp ⟨_, _, _, rfl, rfl⟩

end Pesigitg
