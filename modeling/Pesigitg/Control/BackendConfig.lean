import Pesigitg.Daemon.CidRouting
import Pesigitg.Daemon.StatusApi

/-!
# Provisioning a backend

The control tool prints what a backend needs to make CIDs: from the route config file, or from the
daemon's `/config` answer. The second way reads a document that never says whether the first octet
encodes the CID length, and takes the missing field for `false`.
`backend_config_agrees_iff` says that this is the only difference.
-/

namespace Pesigitg

open Base

section Analyzers

open Json

/-- The printed entry for one config. -/
def provisioningEntry (configId : UInt8) (serverId : String) (serverIdLength nonceLength : UInt8)
    (firstOctetEncodesCidLength : Bool) (encryption : String) (key : Json)
    (keyRedacted draining : Bool) (address : String) (cidTotalLength : Nat) : Json :=
  object
    [("config_id", number configId.toNat),
      ("server_id", string serverId),
      ("server_id_length", number serverIdLength.toNat),
      ("nonce_length", number nonceLength.toNat),
      ("first_octet_encodes_cid_length", bool firstOctetEncodesCidLength),
      ("encryption", string encryption),
      ("key", key),
      ("key_redacted", bool keyRedacted),
      ("draining", bool draining),
      ("address", string address),
      ("cid_total_length", number cidTotalLength)]

/-- A config passes the `--config-id` filter. -/
def passesFilter (filter : Option UInt8) (configId : UInt8) : Bool :=
  match filter with
  | none => true
  | some wanted => configId == wanted

/-- The key of an entry and whether it was redacted. -/
def offlineKey (redactKey : Bool) : Encryption → Json × Bool
  | .plaintext => (null, false)
  | .singlePass key => (if redactKey then null else string (Hex.encode key.val), redactKey)
  | .fourPass key => (if redactKey then null else string (Hex.encode key.val), redactKey)

/-- One round of `analyze_backend_config_offline`. -/
def offlineEntry (showAddr : IpAddr → String) (serverIdHex : String) (redactKey : Bool)
    (filter : Option UInt8) (config : RouteConfig) : Option Json :=
  if passesFilter filter config.configId then
    match config.servers.find? fun server => Hex.encode server.id == serverIdHex with
    | none => none
    | some server =>
      let (key, keyRedacted) := offlineKey redactKey config.encryption
      some (provisioningEntry config.configId (Hex.encode server.id) config.serverIdLength
        config.nonceLength config.firstOctetEncodesCidLength config.encryption.name key keyRedacted
        server.draining (showAddr server.address) config.cidLength.toNat)
  else none

/-- `analyze_backend_config_offline`. -/
def analyzeBackendConfigOffline (showAddr : IpAddr → String) (serverIdHex : String)
    (configs : List RouteConfig) (redactKey : Bool) (filter : Option UInt8) : List Json :=
  configs.filterMap (offlineEntry showAddr serverIdHex redactKey filter)

/-- `as_u64` with a default of zero, cut to a byte. -/
def byteField (key : String) (document : Json) : UInt8 :=
  UInt8.ofNat (((document.get key).bind asNumber).getD 0)

/-- One round of `analyze_backend_config_online`. -/
def onlineEntry (serverIdHex : String) (filter : Option UInt8) (config : Json) : Option Json :=
  let configId := byteField "config_id" config
  if passesFilter filter configId then
    match (config.get "servers").bind asArray with
    | none => none
    | some servers =>
      match servers.find? fun server => (server.get "id").bind asString == some serverIdHex with
      | none => none
      | some server =>
        let encryption := ((config.get "encryption").bind asString).getD "?"
        let serverIdLength := byteField "server_id_length" config
        let nonceLength := byteField "nonce_length" config
        let firstOctetEncodesCidLength :=
          ((config.get "first_octet_encodes_cid_length").bind asBool).getD false
        let address := ((server.get "address").bind asString).getD ""
        let draining := ((server.get "draining").bind asBool).getD false
        let keyRedacted := encryption != "plaintext"
        some (provisioningEntry configId serverIdHex serverIdLength nonceLength
          firstOctetEncodesCidLength encryption null keyRedacted draining address
          (1 + serverIdLength + nonceLength).toNat)
  else none

/-- `analyze_backend_config_online`. -/
def analyzeBackendConfigOnline (serverIdHex : String) (configs : List Json)
    (filter : Option UInt8) : List Json :=
  configs.filterMap (onlineEntry serverIdHex filter)

/-- The `route.configs` array of a `/config` answer. -/
def routeConfigs (response : Json) : Option (List Json) :=
  ((response.get "route").bind (get "configs")).bind asArray

end Analyzers

/-- What both analyzers print for a config, up to the field the daemon does not report. -/
def provision (showAddr : IpAddr → String) (serverIdHex : String) (filter : Option UInt8)
    (firstOctetEncodesCidLength : Bool) (config : RouteConfig) : Option Json :=
  if passesFilter filter config.configId then
    ((config.servers.map Server.identity).find? fun identity =>
      Hex.encode identity.1 == serverIdHex).map fun identity =>
        provisioningEntry config.configId serverIdHex config.serverIdLength config.nonceLength
          firstOctetEncodesCidLength config.encryption.name .null
          (config.encryption.name != "plaintext") identity.2.2 (showAddr identity.2.1)
          config.cidLength.toNat
  else none

section Reading

variable {showAddr : IpAddr → String} {serverIdHex : String} {filter : Option UInt8}
  {now : Instant}

/-- The answer of the daemon lists a view of each config of the table. -/
theorem routeConfigs_buildConfigResponse (args : Args) (path : String) (table : ConfigTable) :
    routeConfigs (buildConfigResponse showAddr args path table now) =
      some (table.configs.map fun config => (RouteConfigView.fromRoute showAddr config
        (table.loadedAtOf config.configId) now).toJson) := by
  have route (response : ConfigResponse) :
      response.toJson.get "route" = some response.route.toJson := rfl
  have configs (view : RouteView) :
      view.toJson.get "configs" = some (.array (view.configs.map RouteConfigView.toJson)) := by
    rw [RouteView.toJson, Json.get_object_append]
    rfl
  rw [routeConfigs, buildConfigResponse, route, Option.bind_some, configs, Option.bind_some,
    Json.asArray_array, ConfigResponse.build, List.map_map]
  rfl

/-- With keys hidden, only the presence of a key is shown. -/
theorem offlineKey_redacted (encryption : Encryption) :
    offlineKey true encryption = (.null, encryption.name != "plaintext") := by
  cases encryption <;> rfl

/-- With keys hidden, an entry read from the file is the config's `provision`. -/
theorem offlineEntry_redacted (config : RouteConfig) :
    offlineEntry showAddr serverIdHex true filter config =
      provision showAddr serverIdHex filter config.firstOctetEncodesCidLength config := by
  have searched : (config.servers.map Server.identity).find? (fun identity =>
      Hex.encode identity.1 == serverIdHex) =
      (config.servers.find? fun server => Hex.encode server.id == serverIdHex).map
        Server.identity := by
    rw [List.find?_map]
    rfl
  simp only [offlineEntry, provision, offlineKey_redacted, searched]
  cases found : config.servers.find? fun server => Hex.encode server.id == serverIdHex with
  | none => rfl
  | some server =>
    have named : Hex.encode server.id = serverIdHex := by simpa using List.find?_some found
    simp only [named]
    rfl

/-- The fields of a config that its view carries over into the answer. -/
theorem RouteConfigView.toJson_fields (view : RouteConfigView) :
    view.toJson.get "config_id" = some (.number view.configId.toNat) ∧
      view.toJson.get "encryption" = some (.string view.encryption) ∧
      view.toJson.get "server_id_length" = some (.number view.serverIdLength.toNat) ∧
      view.toJson.get "nonce_length" = some (.number view.nonceLength.toNat) ∧
      view.toJson.get "servers" = some (.array (view.servers.map ServerView.toJson)) ∧
      view.toJson.get "first_octet_encodes_cid_length" = none := by
  have optional {key : String} (age : key ≠ "key_age_secs") (maxAge : key ≠ "max_key_age_secs") :
      view.toJson.get key = (Json.object [("config_id", .number view.configId.toNat),
        ("encryption", .string view.encryption),
        ("server_id_length", .number view.serverIdLength.toNat),
        ("nonce_length", .number view.nonceLength.toNat),
        ("servers", .array (view.servers.map ServerView.toJson))]).get key := by
    rw [RouteConfigView.toJson, Json.get_object_append, Json.get_object_append,
      Json.get_object_append, Json.get_optionalField_of_ne age, Json.get_optionalField_of_ne maxAge,
      Option.or_none, Option.or_none, ← Json.get_object_append]
    rfl
  refine ⟨?_, ?_, ?_, ?_, ?_, ?_⟩
  all_goals
    rw [optional (by decide) (by decide)]
    rfl

/-- A number that fits a byte is read from the answer. -/
theorem byteField_of_get {key : String} {document : Json} {value : UInt8}
    (read : document.get key = some (.number value.toNat)) : byteField key document = value := by
  simp [byteField, read]

/-- What the online reader finds in the document of a view. -/
theorem onlineEntry_toJson (view : RouteConfigView) :
    onlineEntry serverIdHex filter view.toJson =
      if passesFilter filter view.configId then
        (view.servers.find? fun server => server.id == serverIdHex).map fun server =>
          provisioningEntry view.configId serverIdHex view.serverIdLength view.nonceLength false
            view.encryption .null (view.encryption != "plaintext") server.draining server.address
            (1 + view.serverIdLength + view.nonceLength).toNat
      else none := by
  obtain ⟨configId, encryption, serverIdLength, nonceLength, servers, encodes⟩ := view.toJson_fields
  have searched : (view.servers.map ServerView.toJson).find? (fun server =>
      (server.get "id").bind Json.asString == some serverIdHex) =
      (view.servers.find? fun server => server.id == serverIdHex).map ServerView.toJson := by
    rw [List.find?_map]
    rfl
  unfold onlineEntry
  simp only [byteField_of_get configId, byteField_of_get serverIdLength,
    byteField_of_get nonceLength, encryption, servers, encodes, Option.bind_some,
    Json.asString_string, Json.asArray_array, Option.bind_none, Option.getD_none, Option.getD_some,
    searched]
  cases view.servers.find? fun server => server.id == serverIdHex with
  | none => rfl
  | some server => rfl

/-- An entry read from the answer is the config's `provision` too, without the length flag, which
the answer does not have. -/
theorem onlineEntry_view (config : RouteConfig) (loadedAt : Option Instant) :
    onlineEntry serverIdHex filter
        (RouteConfigView.fromRoute showAddr config loadedAt now).toJson =
      provision showAddr serverIdHex filter false config := by
  have total : 1 + config.serverIdLength + config.nonceLength = config.cidLength := by
    rw [UInt8.add_assoc]
    rfl
  rw [onlineEntry_toJson]
  simp only [provision, RouteConfigView.fromRoute, List.find?_map, Option.map_map, total]
  rfl

/-- Health and MACs do not matter. -/
theorem provision_refreshed {live loaded : RouteConfig} (refreshed : live.Refreshes loaded)
    (encodes : Bool) :
    provision showAddr serverIdHex filter encodes live =
      provision showAddr serverIdHex filter encodes loaded := by
  have servers := refreshed.servers
  have settings := refreshed.settings
  unfold provision
  rw [servers]
  generalize live.servers = entries at settings
  subst settings
  rfl

end Reading

/-- A loaded table after any amount of MAC resolution and health mirroring. -/
def ConfigTable.Refreshes (live loaded : ConfigTable) : Prop :=
  ∀ id, Option.Rel RouteConfig.Refreshes (live.slots id) (loaded.slots id)

/-- A table is a refreshed version of itself. -/
theorem ConfigTable.Refreshes.refl (table : ConfigTable) : table.Refreshes table := by
  intro id
  cases table.slots id with
  | none => exact .none
  | some config => exact .some ⟨rfl, rfl⟩

/-- What depends only on the settings of a config comes out alike for both tables. -/
theorem ConfigTable.Refreshes.filterMap_configs {α : Type} {read : RouteConfig → Option α}
    {live loaded : ConfigTable} (refreshed : live.Refreshes loaded)
    (stable : ∀ {current original : RouteConfig}, current.Refreshes original →
      read current = read original) :
    live.configs.filterMap read = loaded.configs.filterMap read := by
  have alike (id : Fin 7) : (live.slots id).bind read = (loaded.slots id).bind read := by
    have slot := refreshed id
    generalize live.slots id = current, loaded.slots id = original at slot ⊢
    cases slot with
    | none => rfl
    | some same => exact stable same
  simp only [ConfigTable.configs, List.filterMap_filterMap, alike]

section Entries

variable {showAddr : IpAddr → String} {serverIdHex : String} {filter : Option UInt8}
  {config : RouteConfig} {entry : Json}

/-- A config has an entry if it passes the filter and lists the server. -/
theorem provision_isSome_iff (encodes : Bool) :
    (∃ entry, provision showAddr serverIdHex filter encodes config = some entry) ↔
      passesFilter filter config.configId = true ∧
        ∃ server ∈ config.servers, Hex.encode server.id = serverIdHex := by
  rw [← Option.isSome_iff_exists]
  by_cases passes : passesFilter filter config.configId = true
  · simp [provision, passes, Server.identity]
  · simp [provision, passes]

/-- An entry says what it was told about the first octet. -/
theorem provision_encodes {encodes : Bool}
    (provisioned : provision showAddr serverIdHex filter encodes config = some entry) :
    entry.get "first_octet_encodes_cid_length" = some (.bool encodes) := by
  unfold provision at provisioned
  split at provisioned
  · obtain ⟨identity, -, rfl⟩ := Option.map_eq_some_iff.mp provisioned
    rfl
  · cases provisioned

/-- What the offline reading lists. -/
theorem mem_offline_iff {configs : List RouteConfig} :
    entry ∈ analyzeBackendConfigOffline showAddr serverIdHex configs true filter ↔
      ∃ config ∈ configs, provision showAddr serverIdHex filter
        config.firstOctetEncodesCidLength config = some entry := by
  simp only [analyzeBackendConfigOffline, List.mem_filterMap, offlineEntry_redacted]

/-- The daemon's answer leads to one entry for each config of the table, and none of them encodes
the CID length. -/
theorem mem_online_iff {table : ConfigTable} {now : Instant} :
    entry ∈ analyzeBackendConfigOnline serverIdHex (table.configs.map fun config =>
        (RouteConfigView.fromRoute showAddr config (table.loadedAtOf config.configId) now).toJson)
        filter ↔
      ∃ config ∈ table.configs,
        provision showAddr serverIdHex filter false config = some entry := by
  simp only [analyzeBackendConfigOnline, List.mem_filterMap, List.mem_map,
    exists_exists_and_eq_and, onlineEntry_view]

/-- A refreshed table leads to the entries of the loaded one. -/
theorem ConfigTable.Refreshes.provisions_iff {live loaded : ConfigTable}
    (refreshed : live.Refreshes loaded) (encodes : Bool) :
    (∃ config ∈ live.configs, provision showAddr serverIdHex filter encodes config = some entry) ↔
      ∃ config ∈ loaded.configs,
        provision showAddr serverIdHex filter encodes config = some entry := by
  rw [← List.mem_filterMap, ← List.mem_filterMap,
    refreshed.filterMap_configs fun same => provision_refreshed same encodes]

/-- The daemon's answer and the file it was loaded from provision a backend alike exactly if no
config that lists the server encodes the CID length in the first octet. -/
theorem backend_config_agrees_iff {raws : List RawConfig} {rawRetry : Option RawRetry}
    {loadedAt : Instant} {loaded live : ConfigTable}
    (parsed : ConfigTable.fromStr raws rawRetry loadedAt = .ok (.ok loaded))
    (refreshed : live.Refreshes loaded) (showAddr : IpAddr → String) (args : Args) (path : String)
    (now : Instant) (serverIdHex : String) (filter : Option UInt8) :
    ∃ configs documents, parseRoutes raws = .ok (.ok configs) ∧
      routeConfigs (buildConfigResponse showAddr args path live now) = some documents ∧
      ((∀ entry, entry ∈ analyzeBackendConfigOnline serverIdHex documents filter ↔
          entry ∈ analyzeBackendConfigOffline showAddr serverIdHex configs true filter) ↔
        ∀ config ∈ configs, passesFilter filter config.configId = true →
          (∃ server ∈ config.servers, Hex.encode server.id = serverIdHex) →
          config.firstOctetEncodesCidLength = false) := by
  obtain ⟨configs, routes, -, members⟩ := ConfigTable.fromStr_get parsed
  refine ⟨configs, _, routes, routeConfigs_buildConfigResponse args path live, ?_⟩
  simp only [mem_online_iff, refreshed.provisions_iff, members, mem_offline_iff]
  constructor
  · intro agree config member passes listed
    obtain ⟨entry, provisioned⟩ :=
      (provision_isSome_iff config.firstOctetEncodesCidLength).mpr ⟨passes, listed⟩
    obtain ⟨other, -, online⟩ := (agree entry).mpr ⟨config, member, provisioned⟩
    have said := (provision_encodes provisioned).symm.trans (provision_encodes online)
    simpa using said
  · intro unset entry
    have same {config : RouteConfig} (member : config ∈ configs) {encodes : Bool}
        (provisioned : provision showAddr serverIdHex filter encodes config = some entry) :
        config.firstOctetEncodesCidLength = false := by
      obtain ⟨passes, listed⟩ := (provision_isSome_iff encodes).mp ⟨entry, provisioned⟩
      exact unset config member passes listed
    constructor
    · rintro ⟨config, member, provisioned⟩
      exact ⟨config, member, by rwa [same member provisioned]⟩
    · rintro ⟨config, member, provisioned⟩
      exact ⟨config, member, by rwa [same member provisioned] at provisioned⟩

end Entries

namespace SampleRoute

def args : Args := ⟨[443], "eth0", 1, none, none, none, true⟩

/-- The sample's entry, with a random first octet. -/
def randomEntry : RawConfig := { entry with firstOctetEncodesCidLength := false }

def randomConfig : RouteConfig := { config false with firstOctetEncodesCidLength := false }

def randomTable : ConfigTable := tableOf randomConfig

/-- The sample is accepted. -/
theorem randomEntry_routes : parseRoutes [randomEntry] = .ok (.ok [randomConfig]) := by
  decide +kernel

/-- It gives the sample's table. -/
theorem randomEntry_accepted :
    ConfigTable.fromStr [randomEntry] none 0 = .ok (.ok randomTable) :=
  tableOf_accepted randomEntry_routes rfl

end SampleRoute

open SampleRoute in
/-- The sample's config encodes the CID length, and the daemon's answer hides it. -/
theorem online_backend_config_differs :
    ConfigTable.fromStr [entry] none 0 = .ok (.ok fileTable) ∧
      parseRoutes [entry] = .ok (.ok [config false]) ∧
      ∃ documents, routeConfigs
          (buildConfigResponse (fun _ => "10.0.0.1") args "lb.toml" fileTable 0) = some documents ∧
        ∃ provisioned,
          provisioned ∈ analyzeBackendConfigOffline (fun _ => "10.0.0.1") "000001" [config false]
            true none ∧
          provisioned ∉ analyzeBackendConfigOnline "000001" documents none := by
  refine ⟨entry_accepted, entry_routes, _, routeConfigs_buildConfigResponse args "lb.toml" fileTable,
    ?_⟩
  obtain ⟨provisioned, found⟩ : ∃ provisioned,
      provision (fun _ => "10.0.0.1") "000001" none true (config false) = some provisioned :=
    (provision_isSome_iff true).mpr ⟨rfl, server false, by decide, by decide +kernel⟩
  refine ⟨provisioned, mem_offline_iff.mpr ⟨config false, by simp, found⟩, ?_⟩
  intro listed
  obtain ⟨other, -, online⟩ := mem_online_iff.mp listed
  have said := (provision_encodes found).symm.trans (provision_encodes online)
  simp at said

open SampleRoute in
/-- With a random first octet, both ways print the same for the sample's server. -/
theorem backend_config_agrees_iff_sample :
    ∃ configs documents, parseRoutes [randomEntry] = .ok (.ok configs) ∧
      routeConfigs (buildConfigResponse (fun _ => "10.0.0.1") args "lb.toml" randomTable 0) =
        some documents ∧
      ∀ provisioned, provisioned ∈ analyzeBackendConfigOnline "000001" documents none ↔
        provisioned ∈ analyzeBackendConfigOffline (fun _ => "10.0.0.1") "000001" configs true
          none := by
  obtain ⟨configs, documents, routes, answered, agrees⟩ :=
    backend_config_agrees_iff randomEntry_accepted (.refl randomTable) (fun _ => "10.0.0.1") args
      "lb.toml" 0 "000001" none
  refine ⟨configs, documents, routes, answered, agrees.mpr ?_⟩
  rw [randomEntry_routes] at routes
  cases routes
  intro config member _ _
  obtain rfl := List.mem_singleton.mp member
  rfl

end Pesigitg
