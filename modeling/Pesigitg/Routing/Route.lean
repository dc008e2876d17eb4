import Pesigitg.Common.Text

/-!
# Validated route entries

Per-config settings of the load balancer and the validation that admits them.
The TOML reader itself is outside the model: a `RawConfig` is what it hands to
`RouteConfig.validate`. `validate_admits` collects everything an accepted
config satisfies; the datapath proofs use that record and never the validator.
-/

namespace Pesigitg

open Base

/-- Encryption mode derived from `server_id_length + nonce_length`. The expanded
cipher stored beside each key is a function of the key, so only the key is kept. -/
inductive Encryption where
  | plaintext
  | singlePass (key : Key)
  | fourPass (key : Key)
deriving DecidableEq, Repr

namespace Encryption

/-- The mode for an optional key and the length sum. -/
def derive (key : Option Key) (sum : Nat) : Encryption :=
  match key with
  | none => .plaintext
  | some key => if sum = 16 then .singlePass key else .fourPass key

/-- True if both modes would produce identical CID encryption. -/
def sameKey : Encryption → Encryption → Bool
  | .plaintext, .plaintext => true
  | .singlePass a, .singlePass b => a == b
  | .fourPass a, .fourPass b => a == b
  | _, _ => false

/-- The mode as the daemon and the control tool print it. -/
def name : Encryption → String
  | .plaintext => "plaintext"
  | .singlePass _ => "single_pass"
  | .fourPass _ => "four_pass"

end Encryption

/-- A backend server. -/
structure Server where
  id : Bytes
  address : IpAddr
  mac : Option Mac
  draining : Bool
  healthy : Bool
  transitions : Nat
  stateSince : Option Instant
deriving DecidableEq, Repr

namespace Server

/-- The part of a server entry that only a reload can change. -/
def identity (server : Server) : Bytes × IpAddr × Bool :=
  (server.id, server.address, server.draining)

/-- A server entry as the parser leaves it: unhealthy until a probe succeeds. -/
structure Fresh (server : Server) : Prop where
  healthy : server.healthy = false
  transitions : server.transitions = 0
  stateSince : server.stateSince = none

end Server

/-- Per-config-id configuration. -/
structure RouteConfig where
  configId : UInt8
  firstOctetEncodesCidLength : Bool
  serverIdLength : UInt8
  nonceLength : UInt8
  encryption : Encryption
  servers : List Server
  maxKeyAgeSecs : Option Nat
deriving DecidableEq, Repr

/-- A rejected configuration and its message. -/
inductive RouteConfigError where
  | validation (message : String)
deriving DecidableEq, Repr

structure RawServer where
  id : String
  address : String
  mac : Option String
  draining : Bool
deriving DecidableEq, Repr

structure RawConfig where
  configId : UInt8
  firstOctetEncodesCidLength : Bool
  serverIdLength : UInt8
  nonceLength : UInt8
  key : Option String
  servers : List RawServer
  maxKeyAgeSecs : Option Nat
deriving DecidableEq, Repr

/-- Parse a hex-encoded 16-byte AES key. -/
def parseHexKey (text : String) : Checked (Except RouteConfigError Key) := do
  match ← Hex.decode text with
  | .error message => pure (.error (.validation s!"invalid hex key: {message}"))
  | .ok bytes =>
    if sized : bytes.length = 16 then pure (.ok ⟨bytes, sized⟩)
    else
      pure (.error (.validation
        s!"key must be exactly 16 bytes (128 bits), got {bytes.length} bytes"))

/-- Parse a single `[[configs.servers]]` entry. -/
def parseServer (raw : RawServer) (expectedIdLen : UInt8) :
    Checked (Except RouteConfigError Server) :=
  let expectedHexLen := expectedIdLen.toNat * 2
  let hexLen := byteLen (trim raw.id)
  if hexLen ≠ expectedHexLen then
    pure (.error (.validation
      s!"server id '{raw.id}' has {hexLen} hex chars, expected {expectedHexLen} (server_id_length * 2)"))
  else do
    match ← Hex.decode raw.id with
    | .error message =>
      pure (.error (.validation s!"invalid hex server id '{raw.id}': {message}"))
    | .ok id =>
      if id.length ≠ expectedIdLen.toNat then
        pure (.error (.validation
          s!"server id '{raw.id}' is {id.length} bytes, expected {expectedIdLen}"))
      else
        match AddrText.parse raw.address with
        | .error message =>
          pure (.error (.validation s!"invalid server address '{raw.address}': {message}"))
        | .ok address =>
          match raw.mac with
          | none =>
            pure (.ok ⟨id, address, none, raw.draining, false, 0, none⟩)
          | some text =>
            match MacText.parse text with
            | .error message =>
              pure (.error (.validation s!"invalid server mac '{text}': {message}"))
            | .ok mac =>
              pure (.ok ⟨id, address, some mac, raw.draining, false, 0, none⟩)

/-- The server list, stopping at the first entry that fails. -/
def parseServers (expectedIdLen : UInt8) :
    List RawServer → Checked (Except RouteConfigError (List Server))
  | [] => pure (.ok [])
  | raw :: rest => do
    match ← parseServer raw expectedIdLen with
    | .error failure => pure (.error failure)
    | .ok server =>
      match ← parseServers expectedIdLen rest with
      | .error failure => pure (.error failure)
      | .ok servers => pure (.ok (server :: servers))

/-- An accepted entry has an id of the configured length and starts unhealthy. -/
theorem parseServer_ok {raw : RawServer} {expectedIdLen : UInt8} {server : Server}
    (parsed : parseServer raw expectedIdLen = .ok (.ok server)) :
    server.id.length = expectedIdLen.toNat ∧ server.Fresh := by
  unfold parseServer at parsed
  simp only [Checked.pure_eq_ok] at parsed
  split at parsed
  · simp at parsed
  · rw [Checked.bind_eq_ok_iff] at parsed
    obtain ⟨decoded, -, parsed⟩ := parsed
    cases decoded with
    | error message => simp at parsed
    | ok id =>
      simp only at parsed
      split at parsed
      · simp at parsed
      · next sized =>
        have length : id.length = expectedIdLen.toNat := Decidable.not_not.mp sized
        split at parsed
        · simp at parsed
        · split at parsed
          · simp only [Except.ok.injEq] at parsed
            subst parsed
            exact ⟨length, rfl, rfl, rfl⟩
          · split at parsed
            · simp at parsed
            · simp only [Except.ok.injEq] at parsed
              subst parsed
              exact ⟨length, rfl, rfl, rfl⟩

/-- Accepted servers have ids of the configured length, and nothing learned yet. -/
theorem parseServers_ok {expectedIdLen : UInt8} {raws : List RawServer} {servers : List Server}
    (parsed : parseServers expectedIdLen raws = .ok (.ok servers)) :
    ∀ server ∈ servers, server.id.length = expectedIdLen.toNat ∧ server.Fresh := by
  induction raws generalizing servers with
  | nil =>
    simp only [parseServers, Checked.pure_eq_ok, Except.ok.injEq] at parsed
    subst parsed
    simp
  | cons raw rest ih =>
    simp only [parseServers, Checked.bind_eq_ok_iff] at parsed
    obtain ⟨first, head, parsed⟩ := parsed
    cases first with
    | error failure => simp at parsed
    | ok server =>
      simp only [Checked.bind_eq_ok_iff] at parsed
      obtain ⟨others, tail, parsed⟩ := parsed
      cases others with
      | error failure => simp at parsed
      | ok remaining =>
        simp only [Checked.pure_eq_ok, Except.ok.injEq] at parsed
        subst parsed
        intro entry member
        rcases List.mem_cons.mp member with rfl | member
        · exact parseServer_ok head
        · exact ih tail entry member

namespace RouteConfig

/-- The key part of `validate`: absent, or sixteen decoded bytes. -/
def validateKey (raw : RawConfig) : Checked (Except RouteConfigError (Option Key)) :=
  match raw.key with
  | none => pure (.ok none)
  | some text => do
    match ← parseHexKey text with
    | .error failure => pure (.error failure)
    | .ok key => pure (.ok (some key))

/-- `RouteConfig::validate`. -/
def validate (raw : RawConfig) : Checked (Except RouteConfigError RouteConfig) :=
  if 6 < raw.configId then
    pure (.error (.validation s!"config_id must be 0-6, got {raw.configId}"))
  else if raw.serverIdLength = 0 ∨ 15 < raw.serverIdLength then
    pure (.error (.validation s!"server_id_length must be 1-15, got {raw.serverIdLength}"))
  else if raw.nonceLength < 4 ∨ 18 < raw.nonceLength then
    pure (.error (.validation s!"nonce_length must be 4-18, got {raw.nonceLength}"))
  else
    let sum := raw.serverIdLength.toNat + raw.nonceLength.toNat
    if 19 < sum then
      pure (.error (.validation
        s!"server_id_length ({raw.serverIdLength}) + nonce_length ({raw.nonceLength}) = {sum}, exceeds max 19"))
    else do
      match ← validateKey raw with
      | .error failure => pure (.error failure)
      | .ok key =>
        match ← parseServers raw.serverIdLength raw.servers with
        | .error failure => pure (.error failure)
        | .ok servers =>
          if raw.maxKeyAgeSecs = some 0 then
            pure (.error (.validation
              s!"max_key_age_secs must be > 0 when set (config_id={raw.configId})"))
          else
            pure (.ok {
              configId := raw.configId
              firstOctetEncodesCidLength := raw.firstOctetEncodesCidLength
              serverIdLength := raw.serverIdLength
              nonceLength := raw.nonceLength
              encryption := Encryption.derive key sum
              servers := servers
              maxKeyAgeSecs := raw.maxKeyAgeSecs })

/-- CID payload length, excluding the first octet. -/
def cidPayloadLength (config : RouteConfig) : UInt8 := config.serverIdLength + config.nonceLength

/-- Full CID length including the first octet. -/
def cidLength (config : RouteConfig) : UInt8 := 1 + config.cidPayloadLength

/-- Look up a server's index by its raw id bytes. -/
def findServerIdx (config : RouteConfig) (id : Bytes) : Option Nat :=
  config.servers.findIdx? fun server => server.id == id

/-- Everything validation establishes about a config. -/
structure Admitted (config : RouteConfig) : Prop where
  configId_le : config.configId.toNat ≤ 6
  serverIdLength_pos : 0 < config.serverIdLength.toNat
  serverIdLength_le : config.serverIdLength.toNat ≤ 15
  nonceLength_ge : 4 ≤ config.nonceLength.toNat
  nonceLength_le : config.nonceLength.toNat ≤ 18
  sum_le : config.serverIdLength.toNat + config.nonceLength.toNat ≤ 19
  encryption_eq : ∃ key, config.encryption =
    Encryption.derive key (config.serverIdLength.toNat + config.nonceLength.toNat)
  id_length : ∀ server ∈ config.servers, server.id.length = config.serverIdLength.toNat

/-- A loaded config after any amount of MAC resolution and health mirroring. -/
structure Refreshes (live loaded : RouteConfig) : Prop where
  settings : live = { loaded with servers := live.servers }
  servers : live.servers.map Server.identity = loaded.servers.map Server.identity

/-- What an accepting run of `validate` went through. -/
theorem validate_ok {raw : RawConfig} {config : RouteConfig}
    (accepted : validate raw = .ok (.ok config)) :
    ¬ 6 < raw.configId ∧ ¬ (raw.serverIdLength = 0 ∨ 15 < raw.serverIdLength) ∧
      ¬ (raw.nonceLength < 4 ∨ 18 < raw.nonceLength) ∧
      ¬ 19 < raw.serverIdLength.toNat + raw.nonceLength.toNat ∧
      ∃ key servers, validateKey raw = .ok (.ok key) ∧
        parseServers raw.serverIdLength raw.servers = .ok (.ok servers) ∧
        config = {
          configId := raw.configId
          firstOctetEncodesCidLength := raw.firstOctetEncodesCidLength
          serverIdLength := raw.serverIdLength
          nonceLength := raw.nonceLength
          encryption := Encryption.derive key (raw.serverIdLength.toNat + raw.nonceLength.toNat)
          servers := servers
          maxKeyAgeSecs := raw.maxKeyAgeSecs } := by
  unfold validate at accepted
  simp only [Checked.pure_eq_ok] at accepted
  split at accepted
  · simp at accepted
  · next idOk =>
    split at accepted
    · simp at accepted
    · next sidOk =>
      split at accepted
      · simp at accepted
      · next nonceOk =>
        split at accepted
        · simp at accepted
        · next sumOk =>
          rw [Checked.bind_eq_ok_iff] at accepted
          obtain ⟨keyResult, keyOk, accepted⟩ := accepted
          cases keyResult with
          | error failure => simp at accepted
          | ok key =>
            simp only [Checked.bind_eq_ok_iff] at accepted
            obtain ⟨serverResult, serversOk, accepted⟩ := accepted
            cases serverResult with
            | error failure => simp at accepted
            | ok servers =>
              simp only at accepted
              split at accepted
              · simp at accepted
              · simp only [Except.ok.injEq] at accepted
                exact ⟨idOk, sidOk, nonceOk, sumOk, key, servers, keyOk, serversOk, accepted.symm⟩

/-- What validation accepts is admitted. -/
theorem validate_admits {raw : RawConfig} {config : RouteConfig}
    (accepted : validate raw = .ok (.ok config)) : config.Admitted := by
  obtain ⟨idOk, sidOk, nonceOk, sumOk, key, servers, -, serversOk, rfl⟩ := validate_ok accepted
  simp only [not_or, UInt8.lt_iff_toNat_lt, not_lt] at idOk sidOk nonceOk sumOk
  have positive : 0 < raw.serverIdLength.toNat := by
    apply Nat.pos_of_ne_zero
    intro zero
    exact sidOk.1 (UInt8.toNat_inj.mp zero)
  exact {
    configId_le := idOk
    serverIdLength_pos := positive
    serverIdLength_le := sidOk.2
    nonceLength_ge := nonceOk.1
    nonceLength_le := nonceOk.2
    sum_le := sumOk
    encryption_eq := ⟨key, rfl⟩
    id_length := fun server member => (parseServers_ok serversOk server member).1 }

/-- Validation hands out servers that no probe has marked healthy. -/
theorem validate_fresh {raw : RawConfig} {config : RouteConfig}
    (accepted : validate raw = .ok (.ok config)) : ∀ server ∈ config.servers, server.Fresh := by
  obtain ⟨-, -, -, -, key, servers, -, serversOk, rfl⟩ := validate_ok accepted
  intro server member
  exact (parseServers_ok serversOk server member).2

namespace Admitted

variable {config : RouteConfig}

/-- The `u8` sum does not wrap. -/
theorem cidPayloadLength_toNat (admitted : config.Admitted) :
    config.cidPayloadLength.toNat = config.serverIdLength.toNat + config.nonceLength.toNat := by
  have bound := admitted.sum_le
  rw [cidPayloadLength, UInt8.toNat_add]
  omega

/-- The length of a CID does not wrap. -/
theorem cidLength_toNat (admitted : config.Admitted) :
    config.cidLength.toNat = 1 + config.serverIdLength.toNat + config.nonceLength.toNat := by
  have bound := admitted.sum_le
  rw [cidLength, UInt8.toNat_add, admitted.cidPayloadLength_toNat]
  simp only [UInt8.toNat_one]
  omega

/-- MAC resolution and health mirroring keep a config admitted. -/
theorem refresh {live loaded : RouteConfig} (admitted : loaded.Admitted)
    (refreshed : live.Refreshes loaded) : live.Admitted := by
  have ids : ∀ server ∈ live.servers, server.id.length = loaded.serverIdLength.toNat := by
    intro server member
    have image : server.identity ∈ loaded.servers.map Server.identity := by
      rw [← refreshed.servers]
      exact List.mem_map_of_mem member
    obtain ⟨original, originalMember, same⟩ := List.mem_map.mp image
    have sameId : original.id = server.id := congrArg Prod.fst same
    rw [← sameId]
    exact admitted.id_length original originalMember
  rw [refreshed.settings]
  exact { admitted with id_length := ids }

end Admitted

/-- A refreshed config resolves server ids to the same positions. -/
theorem Refreshes.findServerIdx_eq {live loaded : RouteConfig}
    (refreshed : live.Refreshes loaded) (id : Bytes) :
    live.findServerIdx id = loaded.findServerIdx id := by
  have byIdentity (config : RouteConfig) : config.findServerIdx id =
      (config.servers.map Server.identity).findIdx? fun identity => identity.1 == id := by
    rw [List.findIdx?_map]
    rfl
  rw [byIdentity, byIdentity, refreshed.servers]

end RouteConfig

end Pesigitg
