import Pesigitg.Daemon.CidRouting
import Pesigitg.Daemon.ConnRun
import Pesigitg.Daemon.MainLoop

/-!
# Routing across a reload

`reload_config` stores a table that was parsed afresh, so the entry of a server that did not
change starts out unhealthy again, and the CID path forwards to healthy servers only.
`reload_unroutes_kept_server` follows a packet that the live table forwards by its CID to
such a server: the stored table still decodes the CID to the server, and drops the packet
as unroutable.
-/

namespace Pesigitg

open Base

/-- `table` forwards the packet by its CID, which names `configId`, to `server`. -/
structure CidForwards (aes : Aes128) (table : ConfigTable) (quic : Bytes) (configId : UInt8)
    (server : Server) (mac : Mac) : Prop where
  names : ∃ octet, firstCidOctet quic = .ok (some octet) ∧ octet >>> 5 = configId
  routes : ∃ dcid id, routeCid aes quic table = .ok (some (.cid dcid server mac id))

/-- The settings that decide how a CID is read. -/
structure RouteConfig.ReadsAlike (renewed config : RouteConfig) : Prop where
  configId : renewed.configId = config.configId
  serverIdLength : renewed.serverIdLength = config.serverIdLength
  nonceLength : renewed.nonceLength = config.nonceLength
  encryption : renewed.encryption = config.encryption

/-- Two entries for the same backend; the health fields may differ. -/
structure Server.SameBackend (renewed server : Server) : Prop where
  id : renewed.id = server.id
  address : renewed.address = server.address
  mac : renewed.mac = server.mac
  draining : renewed.draining = server.draining

/-- `stored` keeps the settings of the live slot and one of its servers. -/
def KeepsServer (live stored : ConfigTable) (configId : UInt8) (server : Server) : Prop :=
  ∃ config renewed, live.get configId = some config ∧ stored.get configId = some renewed ∧
    renewed.ReadsAlike config ∧ server ∈ config.servers ∧
    ∃ entry ∈ renewed.servers, entry.SameBackend server

namespace RouteConfig.ReadsAlike

variable {renewed config : RouteConfig}

/-- Configs that read alike have payloads of one length. -/
theorem cidPayloadLength (alike : renewed.ReadsAlike config) :
    renewed.cidPayloadLength = config.cidPayloadLength := by
  rw [RouteConfig.cidPayloadLength, RouteConfig.cidPayloadLength, alike.serverIdLength,
    alike.nonceLength]

/-- And CIDs of one length. -/
theorem cidLength (alike : renewed.ReadsAlike config) : renewed.cidLength = config.cidLength := by
  rw [RouteConfig.cidLength, RouteConfig.cidLength, alike.cidPayloadLength]

/-- And the same decryption. -/
theorem decryptPayload (alike : renewed.ReadsAlike config) (aes : Aes128) (buf : Bytes) :
    decryptPayload aes renewed buf = Pesigitg.decryptPayload aes config buf := by
  unfold Pesigitg.decryptPayload
  rw [alike.encryption, alike.serverIdLength, alike.cidPayloadLength]

end RouteConfig.ReadsAlike

section Resolve

variable {aes : Aes128} {dcid : Bytes} {config : RouteConfig} {index : Nat}

/-- A CID that resolves is long enough and carries the id of the server it resolves to, under
every config that reads it alike. -/
theorem resolveServerIdx_some (resolved : resolveServerIdx aes dcid config = .ok (some index)) :
    config.cidPayloadLength.toNat < dcid.length ∧
      ∃ id, config.findServerIdx id = some index ∧
        ∀ renewed : RouteConfig, renewed.ReadsAlike config →
          resolveServerIdx aes dcid renewed = .ok (renewed.findServerIdx id) := by
  unfold resolveServerIdx at resolved
  by_cases short : dcid.length < 1 + config.cidPayloadLength.toNat
  · simp [short] at resolved
  · simp only [short, if_false, Checked.bind_eq_ok_iff] at resolved
    obtain ⟨payload, cut, padded, copied, buf, decrypted, id, taken, found⟩ := resolved
    refine ⟨by omega, id, by simpa using found, ?_⟩
    intro renewed alike
    unfold resolveServerIdx
    simp only [alike.cidPayloadLength, alike.serverIdLength, short, if_false, cut, copied,
      alike.decryptPayload aes, decrypted, taken, Checked.ok_bind, Checked.pure_eq_ok]

/-- A found server has the id that was looked for. -/
theorem RouteConfig.findServerIdx_id {id : Bytes} {server : Server}
    (found : config.findServerIdx id = some index) (placed : config.servers[index]? = some server) :
    server.id = id := by
  rw [RouteConfig.findServerIdx, List.findIdx?_eq_some_iff_getElem] at found
  obtain ⟨inside, same, -⟩ := found
  obtain ⟨-, rfl⟩ := List.getElem?_eq_some_iff.mp placed
  simpa using same

/-- The lookup of a listed id succeeds. -/
theorem RouteConfig.findServerIdx_isSome {server : Server} (member : server ∈ config.servers) :
    ∃ index other, config.findServerIdx server.id = some index ∧
      config.servers[index]? = some other ∧ other ∈ config.servers := by
  have found : (config.findServerIdx server.id).isSome = true := by
    rw [RouteConfig.findServerIdx, List.findIdx?_isSome, List.any_eq_true]
    exact ⟨server, member, by simp⟩
  obtain ⟨index, found⟩ := Option.isSome_iff_exists.mp found
  have inside := (List.findIdx?_eq_some_iff_getElem.mp found).1
  exact ⟨index, config.servers[index], found, List.getElem?_eq_getElem inside,
    List.getElem_mem inside⟩

end Resolve

section Reload

variable {aes : Aes128} {table : ConfigTable} {quic : Bytes} {configId : UInt8} {server : Server}
  {mac : Mac}

/-- What the CID path found on the way to a forwarded packet. -/
theorem CidForwards.found (forwarded : CidForwards aes table quic configId server mac) :
    ∃ octet dcid config index, firstCidOctet quic = .ok (some octet) ∧ octet >>> 5 = configId ∧
      configId ≠ 7 ∧ table.get configId = some config ∧
      extractRawDcid quic config.cidLength = .ok (some dcid) ∧
      resolveServerIdx aes dcid config = .ok (some index) ∧
      config.servers[index]? = some server ∧ server.healthy = true := by
  obtain ⟨⟨octet, first, rfl⟩, dcid, id, routed⟩ := forwarded
  obtain ⟨looked, config, index, found, resolved, ⟨other, mac', usable, same⟩ |
      ⟨-, -, impossible⟩⟩ :=
    routeCid_found routed
  · cases same
    obtain ⟨position, rfl, placed, healthy, -⟩ := usableServer_placed usable
    obtain ⟨octet', first', named, filed, extracted⟩ := lookupConfig_some found
    obtain rfl : octet = octet' := by
      rw [first] at first'
      simpa using first'
    exact ⟨octet, dcid, config, position, first, rfl, named, filed, extracted, resolved, placed,
      healthy⟩
  · cases impossible

/-- A table without a healthy server forwards nothing by its CID. -/
theorem not_cidForwards_of_unhealthy
    (unhealthy : ∀ server ∈ table.servers, server.healthy = false) :
    ¬ CidForwards aes table quic configId server mac := by
  intro forwarded
  obtain ⟨octet, dcid, config, index, -, -, -, filed, -, -, placed, healthy⟩ := forwarded.found
  obtain ⟨inside, stored⟩ := ConfigTable.get_eq_some filed
  have member := ConfigTable.mem_servers.mpr ⟨_, config, stored, List.mem_of_getElem? placed⟩
  rw [unhealthy server member] at healthy
  cases healthy

/-- A table that keeps the server, but unhealthy, reads the CID as before and finds nobody to
forward the packet to. -/
theorem routeCid_kept_unhealthy {stored : ConfigTable}
    (forwarded : CidForwards aes table quic configId server mac)
    (kept : KeepsServer table stored configId server)
    (unhealthy : ∀ server ∈ stored.servers, server.healthy = false) :
    routeCid aes quic stored = .ok (some (.unroutable .cidUnroutableNoServer)) := by
  obtain ⟨octet, dcid, config, index, first, rfl, named, filed, extracted, resolved, placed, -⟩ :=
    forwarded.found
  obtain ⟨config', renewed, filed', filedStored, alike, -, entry, listed, same⟩ := kept
  obtain rfl : config = config' := by
    rw [filed] at filed'
    exact Option.some.inj filed'
  obtain ⟨long, id, found, rereads⟩ := resolveServerIdx_some resolved
  -- The CID carries the id of the kept server, which the stored config lists as well.
  have carried : id = entry.id := by
    rw [same.id, RouteConfig.findServerIdx_id found placed]
  obtain ⟨position, other, foundAgain, placedAgain, member⟩ :=
    RouteConfig.findServerIdx_isSome listed
  have again : resolveServerIdx aes dcid renewed = .ok (some position) := by
    rw [rereads renewed alike, carried, foundAgain]
  have looked : lookupConfig quic stored = .ok (some (dcid, renewed)) := by
    simp only [lookupConfig, first, Checked.ok_bind, named, if_false, filedStored, alike.cidLength,
      extracted, Checked.pure_eq_ok]
  have down : other.healthy = false := by
    obtain ⟨inside, slot⟩ := ConfigTable.get_eq_some filedStored
    exact unhealthy other (ConfigTable.mem_servers.mpr ⟨_, renewed, slot, member⟩)
  simp only [routeCid, looked, Checked.ok_bind, again, usableServer, serverAt, placedAgain, down,
    Bool.false_eq_true, if_false, Checked.pure_eq_ok, alike.cidPayloadLength, long, if_true,
    Option.isSome_some]

/-- After every accepted reload, no packet that the live table forwarded by its CID to a server
the file keeps is forwarded by its CID: the stored table counts it as one without a server
and leaves it as it is. -/
theorem reload_unroutes_kept_server {state after : MainState} {reload : Reload}
    {loaded : ConfigTable}
    (accepted : loadRouteConfig reload.file reload.neighbours reload.loadedAt = .ok (.ok loaded))
    (done : state.reloadConfig reload = .ok after)
    (kept : KeepsServer state.routeConfig after.routeConfig configId server)
    {frame : Bytes} {quicOffset : Nat}
    (forwarded : CidForwards aes state.routeConfig (frame.drop quicOffset) configId server mac) :
    (∀ configId other,
      ¬ CidForwards aes after.routeConfig (frame.drop quicOffset) configId other mac) ∧
    ∀ hash conn flow localMac now,
      processUdp aes hash frame after.routeConfig conn quicOffset flow localMac now =
        .ok (.cidUnroutableNoServer, frame, conn) := by
  have unhealthy := (reloadConfig_reloaded accepted done).unhealthy
  refine ⟨fun _ _ => not_cidForwards_of_unhealthy unhealthy, ?_⟩
  intro hash conn flow localMac now
  have inside : quicOffset ≤ frame.length := by
    apply Nat.le_of_not_lt
    intro beyond
    obtain ⟨octet, first, -⟩ := forwarded.names
    rw [List.drop_eq_nil_of_le (Nat.le_of_lt beyond)] at first
    simp [firstCidOctet] at first
  exact processUdp_of_kept inside
    (routeUdp_eq_ok_iff.mpr (.inl (routeCid_kept_unhealthy forwarded kept unhealthy))) rfl

end Reload

namespace SampleReload

/-- A short header packet whose plaintext CID names the server, behind 42 bytes of headers. -/
def frame : Bytes := List.replicate 42 0 ++ [0x40, 0x00, 0x01, 0xaa, 0xbb, 0xcc, 0xdd, 7]

def mac : Mac := macOctets 0x02 0 0 0 0 0x0a

/-- The server entry as the file has it, before and after a probe succeeded. -/
def server (healthy : Bool) (since : Option Instant) : Server :=
  ⟨[1], .v4 (ipv4Octets 10 0 0 1), some mac, false, healthy, 0, since⟩

def config (healthy : Bool) (since : Option Instant) : RouteConfig :=
  ⟨0, false, 1, 4, .plaintext, [server healthy since], none⟩

/-- The live table: one tick after startup, with the server found up. -/
def live : MainState := ticked start true 1

/-- The state after a reload of the same file. -/
def stored : MainState := reread live 2

/-- The live state is reached. -/
theorem live_run : MainRun [(.tick (tick true 1), live)] live :=
  .step (.startup loaded) (tick_step true (Nat.zero_le 1))

/-- The reload stores the file's table. -/
theorem reloads : live.reloadConfig (reload 2) = .ok stored := by
  simp only [MainState.reloadConfig, reload, loaded, Checked.ok_bind]
  rfl

/-- The server is still in it. -/
theorem keeps : KeepsServer live.routeConfig stored.routeConfig 0 (server true (some 1)) :=
  ⟨config true (some 1), config false none, by decide +kernel, by decide +kernel,
    ⟨rfl, rfl, rfl, rfl⟩, List.mem_cons_self, server false none, List.mem_cons_self,
    ⟨rfl, rfl, rfl, rfl⟩⟩

/-- Before the reload, its packets are forwarded. -/
theorem forwards (aes : Aes128) :
    CidForwards aes live.routeConfig (frame.drop 42) 0 (server true (some 1)) mac := by
  have looked : lookupConfig (frame.drop 42) live.routeConfig =
      .ok (some ([0x00, 0x01, 0xaa, 0xbb, 0xcc, 0xdd], config true (some 1))) := by decide +kernel
  refine ⟨⟨0, rfl, rfl⟩, [0x00, 0x01, 0xaa, 0xbb, 0xcc, 0xdd], 0, ?_⟩
  simp only [routeCid, looked, Checked.ok_bind]
  rfl

end SampleReload

open SampleReload in
/-- A server that is up and stays in the file loses its connections to the reload. -/
theorem reload_drops_in_flight :
    MainRun [(.tick (tick true 1), live)] live ∧
      loadRouteConfig file (fun _ => none) 0 = .ok (.ok table) ∧
      live.reloadConfig (reload 2) = .ok stored ∧
      KeepsServer live.routeConfig stored.routeConfig 0 (server true (some 1)) ∧
      CidForwards SampleRoute.cipher live.routeConfig (frame.drop 42) 0 (server true (some 1)) mac ∧
      ¬ ∃ configId other,
        CidForwards SampleRoute.cipher stored.routeConfig (frame.drop 42) configId other mac := by
  refine ⟨live_run, loaded, reloads, keeps, forwards _, ?_⟩
  rintro ⟨configId, other, forwarded⟩
  exact not_cidForwards_of_unhealthy (by decide +kernel) forwarded

open SampleReload in
/-- The sample's packet is counted as one without a server. -/
theorem reload_unroutes_sample :
    processUdp SampleRoute.cipher (fun _ => 0) frame stored.routeConfig (ConnectionTable.new 0) 42
        SampleRoute.flow SampleRoute.localMac 2 =
      .ok (.cidUnroutableNoServer, frame, ConnectionTable.new 0) :=
  (reload_unroutes_kept_server loaded reloads keeps (forwards SampleRoute.cipher)).2
    (fun _ => 0) (ConnectionTable.new 0) SampleRoute.flow SampleRoute.localMac 2

end Pesigitg
