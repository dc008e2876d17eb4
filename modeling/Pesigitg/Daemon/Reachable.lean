import Pesigitg.Daemon.ReloadRouting

/-!
# Which servers a connection ID can reach

Decoding is onto in every cipher mode: whatever id a config lists, the backend's encoder makes
a CID that decodes to it. The lookup then takes the first server with that id, and validation
compares config ids with each other but not the server ids of a config. A server is reachable
exactly when no server before it has its id.
-/

namespace Pesigitg

open Base

/-- No server of the config before the one at `index` has the same id bytes. -/
def RouteConfig.FirstOfId (config : RouteConfig) (index : Nat) : Prop :=
  ∀ earlier < index, (config.servers[earlier]?).map Server.id ≠
    (config.servers[index]?).map Server.id

section Reaching

variable {aes : Aes128} {config : RouteConfig} {index : Nat}

/-- The encoder a backend of a config is provisioned with. -/
def RouteConfig.encoderFor (config : RouteConfig) (server : Server) : QuicLbEncoder :=
  ⟨config.configId, server.id, config.nonceLength, config.encryption,
    config.firstOctetEncodesCidLength⟩

/-- The encoder for a server of an admitted config is a valid one. -/
theorem RouteConfig.Admitted.encoder_valid (admitted : config.Admitted) {server : Server}
    (listed : server ∈ config.servers) : (config.encoderFor server).Valid := by
  have sized := admitted.id_length server listed
  exact {
    configId_le := admitted.configId_le
    serverId_pos := sized ▸ admitted.serverIdLength_pos
    serverId_le := sized ▸ admitted.serverIdLength_le
    nonceLength_ge := admitted.nonceLength_ge
    nonceLength_le := admitted.nonceLength_le
    sum_le := sized ▸ admitted.sum_le }

/-- Every id a config lists is the decoding of some CID. -/
theorem RouteConfig.Admitted.exists_cid (admitted : config.Admitted) (inverts : aes.Inverts)
    (nonce_le : config.nonceLength.toNat ≤ 16) {server : Server}
    (listed : server ∈ config.servers) :
    ∃ dcid, resolveServerIdx aes dcid config = .ok (config.findServerIdx server.id) := by
  have valid := admitted.encoder_valid listed
  obtain ⟨key, mode⟩ := admitted.encryption_eq
  have sized := admitted.id_length server listed
  have encoderMode : (config.encoderFor server).encryption = Encryption.derive key
      ((config.encoderFor server).serverId.length +
        (config.encoderFor server).nonceLength.toNat) := by
    rw [encoderFor, sized, mode]
  have agrees : (config.encoderFor server).Matches config := ⟨sized.symm, rfl, rfl⟩
  let nonce : Octets (config.encoderFor server).nonceLength.toNat :=
    ⟨List.replicate (config.encoderFor server).nonceLength.toNat 0, List.length_replicate⟩
  let buf : Bytes := List.replicate (config.encoderFor server).cidLength 0
  have returns : (QuicLbEncoder.encodeInto aes (config.encoderFor server) nonce 0 buf).Returns :=
    (QuicLbEncoder.encodeInto_returns_iff nonce valid encoderMode 0 (by simp [buf])).mpr
      (.inr nonce_le)
  obtain ⟨⟨count, written⟩, encoded⟩ := returns
  obtain ⟨-, body, -, -, resolves⟩ :=
    resolveServerIdx_encodeInto inverts valid encoderMode admitted agrees encoded
  exact ⟨_, resolves []⟩

/-- What is found is the first server with its id. -/
theorem RouteConfig.firstOfId_of_found {id : Bytes} (found : config.findServerIdx id = some index) :
    config.FirstOfId index := by
  rw [findServerIdx, List.findIdx?_eq_some_iff_getElem] at found
  obtain ⟨inside, matched, before⟩ := found
  intro earlier less same
  have distinct := before earlier less
  rw [List.getElem?_eq_getElem inside, List.getElem?_eq_getElem (less.trans inside),
    Option.map_some, Option.map_some, Option.some.injEq] at same
  rw [same] at distinct
  exact absurd matched distinct

end Reaching

/-- A server of an accepted file is reachable by some CID exactly when no server of its config
before it has the same id. -/
theorem server_reachable_iff (aes : Aes128) (inverts : aes.Inverts) {raws : List RawConfig}
    {configs : List RouteConfig} (accepted : parseRoutes raws = .ok (.ok configs))
    {config : RouteConfig} (member : config ∈ configs)
    (lengths : config.serverIdLength.toNat ≤ 16 ∧ config.nonceLength.toNat ≤ 16) {index : Nat}
    (inside : index < config.servers.length) :
    (∃ dcid, resolveServerIdx aes dcid config = .ok (some index)) ↔ config.FirstOfId index := by
  obtain ⟨raw, -, validated⟩ := ConfigTable.parseRoutesLoop_ok (ConfigTable.parseRoutes_ok accepted) config member
  have admitted := RouteConfig.validate_admits validated
  constructor
  · rintro ⟨dcid, resolved⟩
    obtain ⟨-, id, found, -⟩ := resolveServerIdx_some resolved
    exact RouteConfig.firstOfId_of_found found
  · intro first
    have placed : config.servers[index]? = some config.servers[index] :=
      List.getElem?_eq_getElem inside
    obtain ⟨dcid, resolved⟩ := admitted.exists_cid inverts lengths.2 (List.getElem_mem inside)
    refine ⟨dcid, ?_⟩
    rw [resolved, RouteConfig.findServerIdx_first placed]
    intro earlier less other there same
    apply first earlier less
    rw [there, placed, Option.map_some, Option.map_some, same]

namespace SampleRoute

/-- The sample's entry with a second backend. -/
def pairEntry : RawConfig :=
  { entry with
    servers := [⟨"000001", "10.0.0.1", some "02:00:00:00:00:0a", false⟩,
      ⟨"000002", "10.0.0.2", some "02:00:00:00:00:0b", false⟩] }

/-- What `pairEntry` is accepted as. -/
def pairConfig : RouteConfig :=
  { config false with
    servers := [⟨[0, 0, 1], .v4 (ipv4Octets 10 0 0 1), some mac, false, false, 0, none⟩,
      ⟨[0, 0, 2], .v4 (ipv4Octets 10 0 0 2), some (macOctets 0x02 0 0 0 0 0x0b), false, false, 0,
        none⟩] }

/-- The pair is accepted. -/
theorem pairEntry_routes : parseRoutes [pairEntry] = .ok (.ok [pairConfig]) := by decide +kernel

end SampleRoute

open SampleRoute in
/-- Both backends of the pair are reached. -/
theorem sample_server_reachable :
    (∃ dcid, resolveServerIdx cipher dcid pairConfig = .ok (some 0)) ∧
      ∃ dcid, resolveServerIdx cipher dcid pairConfig = .ok (some 1) := by
  have inverts := Aes128.exchanging_inverts ⟨[0, 0, 1] ++ nonce.val, rfl⟩ ⟨ciphertext, rfl⟩
  have reachable {index : Nat} (inside : index < pairConfig.servers.length) :=
    server_reachable_iff cipher inverts pairEntry_routes List.mem_cons_self (by decide) inside
  have firstOfId : pairConfig.FirstOfId 1 := by
    intro earlier less
    obtain rfl : earlier = 0 := Nat.lt_one_iff.mp less
    decide
  exact ⟨(reachable (by decide)).mpr nofun, (reachable (by decide)).mpr firstOfId⟩

namespace SampleRoute

/-- The sample's entry with two backends whose ids are the same byte string, spelled in
different case. -/
def twinEntry : RawConfig :=
  { entry with
    servers := [⟨"00000a", "10.0.0.1", some "02:00:00:00:00:0a", false⟩,
      ⟨"00000A", "10.0.0.2", some "02:00:00:00:00:0b", false⟩] }

/-- What `twinEntry` is accepted as. -/
def twinConfig : RouteConfig :=
  { config false with
    servers := [⟨[0, 0, 10], .v4 (ipv4Octets 10 0 0 1), some mac, false, false, 0, none⟩,
      ⟨[0, 0, 10], .v4 (ipv4Octets 10 0 0 2), some (macOctets 0x02 0 0 0 0 0x0b), false, false, 0,
        none⟩] }

end SampleRoute

open SampleRoute in
/-- The second backend is accepted, and no CID reaches it. -/
theorem twin_server_unreachable :
    parseRoutes [twinEntry] = .ok (.ok [twinConfig]) ∧ 1 < twinConfig.servers.length ∧
      ∀ dcid, resolveServerIdx cipher dcid twinConfig ≠ .ok (some 1) := by
  refine ⟨by decide +kernel, by decide, ?_⟩
  intro dcid resolved
  obtain ⟨-, id, found, -⟩ := resolveServerIdx_some resolved
  exact RouteConfig.firstOfId_of_found found 0 (by decide) (by decide)

end Pesigitg
