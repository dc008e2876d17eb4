import Pesigitg.Control.BackendConfig
import Pesigitg.Daemon.Reachable

/-!
# Backends that read the router's file

The two backends of the repository take the file of the router and a server id, and build their
CID generator from the entry that lists the id. They have readers of their own: the first entry in
the order of the file counts, ids are compared as decoded bytes, and one of the two also reads a
flat layout that the router does not know.

`resolveNested_of_accepted` says what the readers find in a file that the router accepts, and
`backend_cids_reach_server` follows the CIDs that are generated from it through the router.
-/

namespace Pesigitg

open Base

/-- `CidGenParams`. -/
structure CidGenParams where
  configId : UInt8
  serverId : Bytes
  nonceLength : UInt8
  encryption : Encryption
  encodeCidLength : Bool
deriving DecidableEq, Repr

/-- The top-level fields of the flat layout. -/
structure FlatConfig where
  configId : Option UInt8
  firstOctetEncodesCidLength : Option Bool
  serverIdLength : Option UInt8
  nonceLength : Option UInt8
  key : Option String
  servers : List RawServer

/-- `ConfigFile`, as welman reads it. -/
structure Welman.ConfigFile where
  configs : List RawConfig
  flat : FlatConfig

/-- `make_encryption`. An error is its message under the context that was added to it. -/
def makeEncryption (keyHex : Option String) (sidLen nonceLen : UInt8) :
    Checked (Except (List String) Encryption) :=
  match keyHex with
  | none => pure (.ok .plaintext)
  | some keyHex => do
    match ← Hex.decode keyHex with
    | .error message => pure (.error ["parsing key", message])
    | .ok keyBytes =>
      if sized : keyBytes.length = 16 then
        if sidLen.toNat + nonceLen.toNat = 16 then pure (.ok (.singlePass ⟨keyBytes, sized⟩))
        else pure (.ok (.fourPass ⟨keyBytes, sized⟩))
      else pure (.error [s!"key must be 16 bytes, got {keyBytes.length}"])

/-- Some entry decodes to the id. -/
def hasServer (serverId : Bytes) : List RawServer → Checked Bool
  | [] => pure false
  | raw :: rest => do
    match ← Hex.decode raw.id with
    | .ok id => if id = serverId then pure true else hasServer serverId rest
    | .error _ => hasServer serverId rest

/-- The parameters from one entry. -/
def entryParams (configId : UInt8) (serverId : Bytes) (nonceLength : UInt8)
    (encodeCidLength : Bool) (encryption : Except (List String) Encryption) :
    Except (List String) CidGenParams :=
  encryption.map fun encryption =>
    ⟨configId, serverId, nonceLength, encryption, encodeCidLength⟩

/-- The loop over `[[configs]]`, which ends at the first entry that lists the id. -/
def resolveNested (serverId : Bytes) :
    List RawConfig → Checked (Option (Except (List String) CidGenParams))
  | [] => pure none
  | raw :: rest =>
    if raw.serverIdLength.toNat ≠ serverId.length then resolveNested serverId rest
    else do
      if ← hasServer serverId raw.servers then
        let encryption ← makeEncryption raw.key raw.serverIdLength raw.nonceLength
        pure (some (entryParams raw.configId serverId raw.nonceLength
          raw.firstOctetEncodesCidLength encryption))
      else resolveNested serverId rest

/-- The flat top-level layout. -/
def resolveFlat (serverId : Bytes) (flat : FlatConfig) :
    Checked (Option (Except (List String) CidGenParams)) :=
  match flat.configId, flat.serverIdLength, flat.nonceLength with
  | some configId, some sidLen, some nonceLen =>
    if sidLen.toNat = serverId.length then do
      if ← hasServer serverId flat.servers then
        let encryption ← makeEncryption flat.key sidLen nonceLen
        pure (some (entryParams configId serverId nonceLen
          (flat.firstOctetEncodesCidLength.getD false) encryption))
      else pure none
    else pure none
  | _, _, _ => pure none

/-- What both backends do with the server id of their command line. -/
def resolveWith (path serverIdHex : String)
    (find : Bytes → Checked (Option (Except (List String) CidGenParams))) :
    Checked (Except (List String) CidGenParams) := do
  match ← Hex.decode serverIdHex with
  | .error message => pure (.error ["parsing --server-id", message])
  | .ok serverId =>
    match ← find serverId with
    | some result => pure result
    | none => pure (.error [s!"server_id {serverIdHex} not found in any config in {path}"])

/-- `resolve_config` of welman. -/
def Welman.resolveConfig (path : String) (file : Welman.ConfigFile) (serverIdHex : String) :
    Checked (Except (List String) CidGenParams) :=
  resolveWith path serverIdHex fun serverId => do
    match ← resolveNested serverId file.configs with
    | some result => pure (some result)
    | none => resolveFlat serverId file.flat

/-- `resolve_config` of quic-echo. -/
def QuicEcho.resolveConfig (path : String) (configs : List RawConfig) (serverIdHex : String) :
    Checked (Except (List String) CidGenParams) :=
  resolveWith path serverIdHex fun serverId => resolveNested serverId configs

/-- `encode_to_vec`. -/
def QuicLbEncoder.encodeToVec (aes : Aes128) (encoder : QuicLbEncoder)
    (nonce : Octets encoder.nonceLength.toNat) (low : UInt8) : Checked Bytes := do
  let (_, buf) ← encoder.encodeInto aes nonce low (List.replicate encoder.cidLength 0)
  pure buf

namespace QuicLbCidGenerator

/-- `QuicLbCidGenerator::new`. -/
def new (params : CidGenParams) : Checked QuicLbEncoder :=
  QuicLbEncoder.new params.configId params.serverId params.nonceLength params.encryption
    params.encodeCidLength

/-- `QuicLbCidGenerator::validate`. -/
def validate (generator : QuicLbEncoder) (id : Bytes) : Bool := id.length == generator.cidLength

end QuicLbCidGenerator

/-- Where a packet goes whose CID names a server. -/
def Server.destination (server : Server) (cid : Bytes) (configId : UInt8) : Route :=
  if server.healthy then
    match server.mac with
    | some mac => .cid cid server mac configId
    | none => .unroutable .cidUnroutableNoServer
  else .unroutable .cidUnroutableNoServer

/-- The config has a server with the id. -/
def RouteConfig.lists (config : RouteConfig) (serverId : Bytes) : Bool :=
  config.servers.any fun server => server.id == serverId

/-- The parameters that a loaded config stands for. -/
def RouteConfig.cidGenParams (config : RouteConfig) (serverId : Bytes) : CidGenParams :=
  ⟨config.configId, serverId, config.nonceLength, config.encryption,
    config.firstOctetEncodesCidLength⟩

section Reading

variable (serverId : Bytes)

/-- The id of an accepted server is its hex text decoded. -/
theorem parseServer_decodes {raw : RawServer} {expectedIdLen : UInt8} {server : Server}
    (parsed : parseServer raw expectedIdLen = .ok (.ok server)) :
    Hex.decode raw.id = .ok (.ok server.id) := by
  unfold parseServer at parsed
  simp only [Checked.pure_eq_ok] at parsed
  split at parsed
  · simp at parsed
  · rw [Checked.bind_eq_ok_iff] at parsed
    obtain ⟨decoded, read, parsed⟩ := parsed
    rw [read]
    cases decoded with
    | error message => simp at parsed
    | ok id =>
      simp only at parsed
      split at parsed
      · simp at parsed
      · split at parsed
        · simp at parsed
        · split at parsed
          · cases parsed
            rfl
          · split at parsed
            · simp at parsed
            · cases parsed
              rfl

/-- Among entries that the router accepts, a backend finds the ids that the router has. -/
theorem hasServer_of_accepted {expectedIdLen : UInt8} {raws : List RawServer}
    {servers : List Server} (parsed : parseServers expectedIdLen raws = .ok (.ok servers)) :
    hasServer serverId raws = .ok (servers.any fun server => server.id == serverId) := by
  induction raws generalizing servers with
  | nil =>
    cases parsed
    rfl
  | cons raw rest ih =>
    simp only [parseServers, Checked.bind_eq_ok_iff] at parsed
    obtain ⟨first, head, parsed⟩ := parsed
    cases first with
    | error failure => simp at parsed
    | ok server =>
      simp only [Checked.bind_eq_ok_iff] at parsed
      obtain ⟨others, tail, parsed⟩ := parsed
      cases others with
      | error failure => simp at parsed
      | ok remaining =>
        cases parsed
        simp only [hasServer, parseServer_decodes head, Checked.ok_bind, List.any_cons]
        by_cases same : server.id = serverId
        · simp [same]
        · simp [same, ih tail]

/-- The backends derive the same encryption as the router. -/
theorem makeEncryption_of_accepted {raw : RawConfig} {config : RouteConfig}
    (accepted : RouteConfig.validate raw = .ok (.ok config)) :
    makeEncryption raw.key raw.serverIdLength raw.nonceLength = .ok (.ok config.encryption) := by
  obtain ⟨-, -, -, -, key, servers, keyOk, -, rfl⟩ := RouteConfig.validate_ok accepted
  unfold RouteConfig.validateKey at keyOk
  cases given : raw.key with
  | none =>
    rw [given] at keyOk
    cases keyOk
    rfl
  | some text =>
    rw [given] at keyOk
    simp only [Checked.bind_eq_ok_iff, parseHexKey] at keyOk
    obtain ⟨result, ⟨decoded, read, sized⟩, keyOk⟩ := keyOk
    cases decoded with
    | error message =>
      cases sized
      simp at keyOk
    | ok bytes =>
      simp only at sized
      split at sized
      · next length =>
        cases sized
        cases keyOk
        simp only [makeEncryption, read, Checked.ok_bind, length, dif_pos, Encryption.derive]
        split <;> rfl
      · cases sized
        simp at keyOk

/-- In a list of entries that the router accepts, a backend finds the first config that lists its
id, with the parameters the router has for it. -/
theorem resolveNested_of_accepted {seen : Fin 7 → Bool} {raws : List RawConfig}
    {loaded : List RouteConfig} (parsed : parseRoutesLoop seen raws = .ok (.ok loaded)) :
    resolveNested serverId raws =
      .ok ((loaded.find? fun config => config.lists serverId).map fun config =>
        .ok (config.cidGenParams serverId)) := by
  induction raws generalizing seen loaded with
  | nil =>
    cases parsed
    rfl
  | cons raw rest ih =>
    obtain ⟨config, id, remaining, rfl, accepted, -, -, tail⟩ :=
      ConfigTable.parseRoutesLoop_cons_ok parsed
    have admitted := RouteConfig.validate_admits accepted
    have encryption := makeEncryption_of_accepted accepted
    obtain ⟨-, -, -, -, key, servers, -, serversOk, shape⟩ := RouteConfig.validate_ok accepted
    have listed : hasServer serverId raw.servers = .ok (config.lists serverId) := by
      rw [hasServer_of_accepted serverId serversOk, RouteConfig.lists, shape]
    by_cases own : config.lists serverId = true
    · -- The id is one of this entry, so it has the length that the entry asks for.
      obtain ⟨server, member, same⟩ := List.any_eq_true.mp own
      have length : raw.serverIdLength.toNat = serverId.length := by
        rw [← beq_iff_eq.mp same, admitted.id_length server member, shape]
      have params : entryParams raw.configId serverId raw.nonceLength
          raw.firstOctetEncodesCidLength (.ok config.encryption) =
          .ok (config.cidGenParams serverId) := by
        rw [RouteConfig.cidGenParams, shape]
        rfl
      have head : ((config :: remaining).find? fun config => config.lists serverId) =
          some config := List.find?_cons_of_pos own
      rw [head]
      simp only [resolveNested, length, ne_eq, not_true_eq_false, if_false, listed, own,
        Checked.ok_bind, if_true, encryption, Checked.pure_eq_ok, params, Option.map_some]
    · have absent := Bool.eq_false_iff.mpr own
      have later : ((config :: remaining).find? fun config => config.lists serverId) =
          remaining.find? fun config => config.lists serverId := List.find?_cons_of_neg own
      rw [later, ← ih tail]
      simp only [resolveNested, listed, absent, Checked.ok_bind, Bool.false_eq_true, if_false,
        ite_self]

end Reading

section Routing

variable {aes : Aes128} {config : RouteConfig} {index : Nat} {server : Server}

/-- The parameters of an admitted config pass the assertions of the encoder. -/
theorem QuicLbCidGenerator.new_of_admitted (admitted : config.Admitted)
    (listed : server ∈ config.servers) :
    QuicLbCidGenerator.new (config.cidGenParams server.id) = .ok (config.encoderFor server) := by
  have valid := admitted.encoder_valid listed
  simp only [QuicLbCidGenerator.new, RouteConfig.cidGenParams, QuicLbEncoder.new,
    Checked.bind_eq_ok_iff]
  exact ⟨(), Checked.assert_eq_ok_iff.mpr (UInt8.le_iff_toNat_le.mpr valid.configId_le),
    (), Checked.assert_eq_ok_iff.mpr ⟨List.length_pos_iff.mp valid.serverId_pos, valid.serverId_le⟩,
    (), Checked.assert_eq_ok_iff.mpr ⟨UInt8.le_iff_toNat_le.mpr valid.nonceLength_ge,
      UInt8.le_iff_toNat_le.mpr valid.nonceLength_le⟩,
    (), Checked.assert_eq_ok_iff.mpr valid.sum_le, rfl⟩

/-- A CID that resolves to a server goes there if it can, and is not passed on otherwise. -/
theorem routeCid_destination {table : ConfigTable} {quic cid : Bytes}
    (looked : lookupConfig quic table = .ok (some (cid, config)))
    (resolved : resolveServerIdx aes cid config = .ok (some index))
    (listed : config.servers[index]? = some server)
    (filled : config.cidPayloadLength.toNat < cid.length) :
    routeCid aes quic table = .ok (some (server.destination cid config.configId)) := by
  simp only [routeCid, looked, Checked.ok_bind, resolved, usableServer, serverAt, listed]
  by_cases healthy : server.healthy = true
  · cases mac : server.mac with
    | none => simp [healthy, mac, filled, Server.destination]
    | some mac => simp [healthy, mac, Server.destination]
  · simp [healthy, filled, Server.destination]

/-- The mode of a backend's encoder is the one its key asks for. -/
theorem RouteConfig.Admitted.encoder_mode (admitted : config.Admitted)
    (listed : server ∈ config.servers) :
    ∃ key, (config.encoderFor server).encryption = Encryption.derive key
      ((config.encoderFor server).serverId.length +
        (config.encoderFor server).nonceLength.toNat) := by
  obtain ⟨key, mode⟩ := admitted.encryption_eq
  refine ⟨key, ?_⟩
  rw [encoderFor, admitted.id_length server listed, mode]

/-- A buffer of the CID's length holds the CID and nothing else. -/
theorem QuicLbEncoder.encodeInto_exact {encoder : QuicLbEncoder} (valid : encoder.Valid)
    {nonce : Octets encoder.nonceLength.toNat} {low : UInt8} {count : Nat} {buf : Bytes}
    (encoded : encoder.encodeInto aes nonce low (List.replicate encoder.cidLength 0) =
      .ok (count, buf)) : buf.length = encoder.cidLength := by
  have room : encoder.cidLength ≤ (List.replicate encoder.cidLength (0 : UInt8)).length := by simp
  rw [encodeInto_eq valid nonce low room, Checked.bind_eq_ok_iff] at encoded
  obtain ⟨payload, -, encoded⟩ := encoded
  rw [Checked.bind_eq_ok_iff] at encoded
  obtain ⟨part, cut, encoded⟩ := encoded
  cases encoded
  obtain ⟨-, inside, rfl⟩ := slice_eq_ok_iff.mp cut
  simp only [List.drop_replicate, Nat.sub_self, List.replicate_zero, List.append_nil,
    List.length_cons, List.length_take, List.drop_zero, cidLength]
  omega

/-- A generated CID has the length of the generator and the first octet of its config, and the
router resolves it to the first server with the id it was made for. -/
theorem QuicLbEncoder.encodeToVec_ok (inverts : aes.Inverts) (admitted : config.Admitted)
    (listed : server ∈ config.servers)
    {nonce : Octets (config.encoderFor server).nonceLength.toNat} {low : UInt8} {cid : Bytes}
    (generated : (config.encoderFor server).encodeToVec aes nonce low = .ok cid) :
    cid.length = (config.encoderFor server).cidLength ∧
      ∃ octet body, cid = octet :: body ∧ octet >>> 5 = config.configId ∧
        body.length = config.cidPayloadLength.toNat ∧
        resolveServerIdx aes cid config = .ok (config.findServerIdx server.id) := by
  have valid := admitted.encoder_valid listed
  obtain ⟨key, mode⟩ := admitted.encoder_mode listed
  have sized := admitted.id_length server listed
  simp only [encodeToVec, Checked.bind_eq_ok_iff] at generated
  obtain ⟨⟨count, buf⟩, encoded, written⟩ := generated
  cases written
  obtain ⟨rfl, body, whole, filled, resolves⟩ := resolveServerIdx_encodeInto inverts valid mode
    admitted ⟨sized.symm, rfl, rfl⟩ encoded
  have exact := encodeInto_exact valid encoded
  rw [List.take_of_length_le (Nat.le_of_eq exact)] at whole
  refine ⟨exact, _, body, whole, firstOctet_configId valid low, filled, ?_⟩
  have resolved := resolves []
  rwa [List.append_nil, ← whole] at resolved

/-- A generator draws CIDs if it has no key or its nonce fits a cipher block. -/
theorem QuicLbEncoder.encodeToVec_returns_iff (admitted : config.Admitted)
    (listed : server ∈ config.servers)
    (nonce : Octets (config.encoderFor server).nonceLength.toNat) (low : UInt8) :
    ((config.encoderFor server).encodeToVec aes nonce low).Returns ↔
      config.encryption = .plaintext ∨ config.nonceLength.toNat ≤ 16 := by
  have valid := admitted.encoder_valid listed
  obtain ⟨key, mode⟩ := admitted.encoder_mode listed
  have keyless : key = none ↔ config.encryption = .plaintext := by
    change config.encryption = _ at mode
    rw [mode]
    cases key with
    | none => simp [Encryption.derive]
    | some secret =>
      simp only [Encryption.derive]
      split <;> simp
  have encodes : ((config.encoderFor server).encodeInto aes nonce low
      (List.replicate (config.encoderFor server).cidLength 0)).Returns ↔
      key = none ∨ config.nonceLength.toNat ≤ 16 :=
    encodeInto_returns_iff nonce valid mode low (Nat.le_of_eq List.length_replicate.symm)
  rw [← keyless, ← encodes]
  constructor
  · rintro ⟨cid, generated⟩
    simp only [encodeToVec, Checked.bind_eq_ok_iff] at generated
    obtain ⟨result, encoded, -⟩ := generated
    exact ⟨result, encoded⟩
  · rintro ⟨result, encoded⟩
    refine ⟨result.2, ?_⟩
    simp only [encodeToVec, encoded, Checked.ok_bind]
    rfl

end Routing

section Tables

variable {loaded live : ConfigTable}

/-- The config of a slot, in the table as it is now. -/
theorem ConfigTable.Refreshes.get_some (refreshed : live.Refreshes loaded) {configId : UInt8}
    {original : RouteConfig} (placed : loaded.get configId = some original) :
    ∃ config, live.get configId = some config ∧ config.Refreshes original := by
  unfold ConfigTable.get at placed ⊢
  split at placed
  · next inside =>
    have slot := refreshed ⟨configId.toNat, inside⟩
    rw [placed] at slot
    generalize stored : live.slots ⟨configId.toNat, inside⟩ = current at slot
    cases slot with
    | some same => exact ⟨_, by rw [dif_pos inside, stored], same⟩
  · cases placed

/-- A backend's parameters do not depend on what a table has learned about its servers. -/
theorem RouteConfig.Refreshes.cidGenParams_eq {config original : RouteConfig}
    (refreshed : config.Refreshes original) (serverId : Bytes) :
    config.cidGenParams serverId = original.cidGenParams serverId := by
  rw [refreshed.settings]
  rfl

/-- The slot of a config of the file holds that config. -/
theorem ConfigTable.fromStr_placed {raws : List RawConfig} {rawRetry : Option RawRetry}
    {loadedAt : Instant} (parsed : ConfigTable.fromStr raws rawRetry loadedAt = .ok (.ok loaded))
    {configs : List RouteConfig} (routes : parseRoutes raws = .ok (.ok configs))
    {config : RouteConfig} (member : config ∈ configs) :
    loaded.get config.configId = some config := by
  obtain ⟨others, again, placed, -⟩ := ConfigTable.fromStr_get parsed
  cases routes.symm.trans again
  obtain ⟨distinct, -⟩ := ConfigTable.parseRoutesLoop_distinct (ConfigTable.parseRoutes_ok routes)
  have byNumber := ConfigTable.find_configId distinct member rfl
  rw [placed, ← byNumber]
  congr 1
  funext other
  rw [Bool.eq_iff_iff, beq_iff_eq, beq_iff_eq, UInt8.toNat_inj]

end Tables

/-- Both backends build their generator from a file that the router accepts as soon as some config
lists their id. The router decodes every CID they draw to the first server with the id in the
config they took, whatever surrounds the CID and whatever the connection table holds. The file is
one that welman reads: a top-level key of the flat layout with a value of another type makes it
refuse a file that the router accepts, since the router ignores such keys. -/
theorem backend_cids_reach_server {aes : Aes128} (inverts : aes.Inverts)
    (hash : FlowKey → UInt64) {raws : List RawConfig} {rawRetry : Option RawRetry}
    {loadedAt : Instant} {loaded live : ConfigTable}
    (parsed : ConfigTable.fromStr raws rawRetry loadedAt = .ok (.ok loaded))
    (refreshed : live.Refreshes loaded) (path : String) (flat : FlatConfig)
    {serverIdHex : String} {id : Bytes} (decoded : Hex.decode serverIdHex = .ok (.ok id))
    (listed : ∃ config ∈ loaded.configs, ∃ server ∈ config.servers, server.id = id) :
    ∃ params encoder config index server,
      Welman.resolveConfig path ⟨raws, flat⟩ serverIdHex = .ok (.ok params) ∧
      QuicEcho.resolveConfig path raws serverIdHex = .ok (.ok params) ∧
      QuicLbCidGenerator.new params = .ok encoder ∧
      live.get params.configId = some config ∧ config.findServerIdx id = some index ∧
      config.servers[index]? = some server ∧
      (∀ nonce low, (encoder.encodeToVec aes nonce low).Returns ↔
        params.encryption = .plaintext ∨ params.nonceLength.toNat ≤ 16) ∧
      ∀ nonce low cid, encoder.encodeToVec aes nonce low = .ok cid →
        QuicLbCidGenerator.validate encoder cid = true ∧
        ∀ quic conn flow now, CarriesDcid cid quic →
          routeUdp aes hash quic live conn flow now =
            .ok (server.destination cid config.configId) := by
  obtain ⟨configs, routes, placed, members⟩ := ConfigTable.fromStr_get parsed
  have looped := ConfigTable.parseRoutes_ok routes
  -- The first config of the file that lists the id is the one both readers take.
  obtain ⟨original, found⟩ : ∃ original,
      (configs.find? fun config => config.lists id) = some original := by
    rw [← Option.isSome_iff_exists, List.find?_isSome]
    obtain ⟨config, member, server, serverMember, same⟩ := listed
    exact ⟨config, (members config).mp member,
      List.any_eq_true.mpr ⟨server, serverMember, beq_iff_eq.mpr same⟩⟩
  have read := resolveNested_of_accepted id looped
  rw [found] at read
  have member := List.mem_of_find?_eq_some found
  obtain ⟨raw, -, validated⟩ := ConfigTable.parseRoutesLoop_ok looped original member
  obtain ⟨config, stored, same⟩ :=
    refreshed.get_some (ConfigTable.fromStr_placed parsed routes member)
  have admitted := (RouteConfig.validate_admits validated).refresh same
  have lists : original.lists id = true := by simpa using List.find?_some found
  -- The table as it is now lists the id at the place where the file has it.
  obtain ⟨index, resolved⟩ : ∃ index, config.findServerIdx id = some index := by
    rw [same.findServerIdx_eq, ← Option.isSome_iff_exists, RouteConfig.findServerIdx,
      List.findIdx?_isSome]
    exact lists
  obtain ⟨inside, -, -⟩ := List.findIdx?_eq_some_iff_getElem.mp resolved
  have placed : config.servers[index]? = some config.servers[index] :=
    List.getElem?_eq_getElem inside
  have named := RouteConfig.findServerIdx_id resolved placed
  have listed : config.servers[index] ∈ config.servers := List.getElem_mem inside
  have params : original.cidGenParams id = config.cidGenParams config.servers[index].id := by
    rw [named, same.cidGenParams_eq]
  refine ⟨original.cidGenParams id, config.encoderFor config.servers[index], config, index,
    config.servers[index], ?_, ?_, ?_, ?_, resolved, placed, ?_, ?_⟩
  · simp only [Welman.resolveConfig, resolveWith, decoded, read, Checked.ok_bind, Option.map_some]
    rfl
  · simp only [QuicEcho.resolveConfig, resolveWith, decoded, read, Checked.ok_bind,
      Option.map_some]
    rfl
  · rw [params]
    exact QuicLbCidGenerator.new_of_admitted admitted listed
  · exact stored
  · intro nonce low
    rw [params]
    exact QuicLbEncoder.encodeToVec_returns_iff admitted listed nonce low
  · intro nonce low cid generated
    obtain ⟨length, octet, body, rfl, names, sized, reaches⟩ :=
      QuicLbEncoder.encodeToVec_ok inverts admitted listed generated
    refine ⟨beq_iff_eq.mpr length, ?_⟩
    intro quic conn flow now carries
    rw [named, resolved] at reaches
    have ownId : config.configId = original.configId := by rw [same.settings]
    have slot : live.get config.configId = some config := ownId ▸ stored
    have looked := lookupConfig_carries admitted sized names slot carries
    have filled : config.cidPayloadLength.toNat < (octet :: body).length := by
      rw [List.length_cons, sized]
      exact Nat.lt_succ_self _
    exact routeUdp_eq_ok_iff.mpr (.inl (routeCid_destination looked reaches placed filled))

open SampleRoute in
/-- The backend of the sample's entry: both readers find it, and after a probe its CIDs are sent to
its MAC. -/
theorem backend_cids_reach_server_sample :
    ∃ params encoder config index server,
      Welman.resolveConfig "routes.toml" ⟨[entry], ⟨none, none, none, none, none, []⟩⟩ "000001" =
        .ok (.ok params) ∧
      QuicEcho.resolveConfig "routes.toml" [entry] "000001" = .ok (.ok params) ∧
      QuicLbCidGenerator.new params = .ok encoder ∧
      (tableOf (SampleRoute.config true)).get params.configId = some config ∧
      config.findServerIdx [0, 0, 1] = some index ∧ config.servers[index]? = some server ∧
      (∀ nonce low, (encoder.encodeToVec cipher nonce low).Returns ↔
        params.encryption = .plaintext ∨ params.nonceLength.toNat ≤ 16) ∧
      ∀ nonce low cid, encoder.encodeToVec cipher nonce low = .ok cid →
        QuicLbCidGenerator.validate encoder cid = true ∧
        ∀ quic conn flow now, CarriesDcid cid quic →
          routeUdp cipher (fun _ => 0) quic (tableOf (SampleRoute.config true)) conn flow now =
            .ok (server.destination cid config.configId) := by
  refine backend_cids_reach_server (Aes128.exchanging_inverts _ _) (fun _ => 0) entry_accepted ?_
    "routes.toml" ⟨none, none, none, none, none, []⟩
    (by decide +kernel : Hex.decode "000001" = .ok (.ok [0, 0, 1]))
    ⟨SampleRoute.config false, ConfigTable.mem_configs.mpr ⟨2, rfl⟩, SampleRoute.server false,
      List.mem_cons_self, rfl⟩
  intro id
  by_cases second : id.val = 2
  · simp only [tableOf, fileTable, second, if_true]
    exact .some ⟨rfl, rfl⟩
  · simp only [tableOf, fileTable, second, if_false]
    exact .none

end Pesigitg
