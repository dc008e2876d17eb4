import Pesigitg.Base.Json
import Pesigitg.Daemon.Args
import Pesigitg.Daemon.ConfigTable

/-!
# The `/config` endpoint

The daemon answers `/config` with views of its settings and of the live table. A view has its own
fields: keys are left out of it, and so is whatever its record does not list.
-/

namespace Pesigitg

open Base

/-- `saturating_duration_since`, in whole seconds. -/
def secsSince (now start : Instant) : Nat := (now - start) / 1000000000

structure ServerView where
  id : String
  address : String
  mac : Option String
  healthy : Bool
  draining : Bool
  transitions : Nat
  stateSinceSecs : Option Nat
deriving DecidableEq, Repr

structure RouteConfigView where
  configId : UInt8
  encryption : String
  serverIdLength : UInt8
  nonceLength : UInt8
  keyAgeSecs : Option Nat
  maxKeyAgeSecs : Option Nat
  servers : List ServerView
deriving DecidableEq, Repr

structure RetryConfigView where
  enabled : Bool
  mode : String
  ports : List UInt16
  tokenLifetimeSecs : UInt64
  keyAgeSecs : Nat
  maxKeyAgeSecs : Option UInt64
deriving DecidableEq, Repr

structure RouteView where
  path : String
  configs : List RouteConfigView
  fallbackPool : List String
  retry : Option RetryConfigView
deriving DecidableEq, Repr

structure DaemonView where
  interface : String
  ports : List UInt16
  queues : UInt32
  configPath : Option String
  routeConfigPath : Option String
  statusSocketPath : Option String
  foreground : Bool
deriving DecidableEq, Repr

structure ConfigResponse where
  daemon : DaemonView
  route : RouteView
deriving DecidableEq, Repr

section Views

variable (showAddr : IpAddr → String)

/-- `From<&Server>`. -/
def ServerView.ofServer (now : Instant) (server : Server) : ServerView where
  id := Hex.encode server.id
  address := showAddr server.address
  mac := server.mac.map MacText.format
  healthy := server.healthy
  draining := server.draining
  transitions := server.transitions
  stateSinceSecs := server.stateSince.map (secsSince now)

/-- `RouteConfigView::from_route`. -/
def RouteConfigView.fromRoute (config : RouteConfig) (loadedAt : Option Instant) (now : Instant) :
    RouteConfigView where
  configId := config.configId
  encryption := config.encryption.name
  serverIdLength := config.serverIdLength
  nonceLength := config.nonceLength
  keyAgeSecs :=
    match config.encryption with
    | .plaintext => none
    | _ => loadedAt.map (secsSince now)
  maxKeyAgeSecs := config.maxKeyAgeSecs
  servers := config.servers.map (ServerView.ofServer showAddr now)

/-- `RetryConfigView::from_retry`. The name of a mode is its configuration spelling. -/
def RetryConfigView.fromRetry (retry : RetryConfig) (now : Instant) : RetryConfigView where
  enabled := retry.enabled
  mode := retry.mode.display
  ports := retry.ports
  tokenLifetimeSecs := retry.tokenLifetimeMs / 1000
  keyAgeSecs := secsSince now retry.loadedAt
  maxKeyAgeSecs := retry.maxKeyAgeSecs

/-- `ConfigTable::loaded_at`. -/
def ConfigTable.loadedAtOf (table : ConfigTable) (configId : UInt8) : Option Instant :=
  if inside : configId.toNat < 7 then table.loadedAt ⟨configId.toNat, inside⟩ else none

/-- The record that `build_config_response` serializes. -/
def ConfigResponse.build (args : Args) (path : String) (table : ConfigTable) (now : Instant) :
    ConfigResponse where
  daemon := {
    interface := args.interface
    ports := args.ports
    queues := args.queues
    configPath := args.config
    routeConfigPath := args.routeconfig
    statusSocketPath := args.statusSocket
    foreground := args.foreground }
  route := {
    path := path
    configs := table.configs.map fun config =>
      RouteConfigView.fromRoute showAddr config (table.loadedAtOf config.configId) now
    fallbackPool := table.fallbackServers.map fun server => showAddr server.address
    retry := table.retry.map fun retry => RetryConfigView.fromRetry retry now }

end Views

section Serialize

open Json

def ServerView.toJson (view : ServerView) : Json :=
  object
    [("id", string view.id),
      ("address", string view.address),
      ("mac", ofOption string view.mac),
      ("healthy", bool view.healthy),
      ("draining", bool view.draining),
      ("transitions", number view.transitions),
      ("state_since_secs", ofOption number view.stateSinceSecs)]

def RouteConfigView.toJson (view : RouteConfigView) : Json :=
  object
    ([("config_id", number view.configId.toNat),
      ("encryption", string view.encryption),
      ("server_id_length", number view.serverIdLength.toNat),
      ("nonce_length", number view.nonceLength.toNat)] ++
      optionalField "key_age_secs" number view.keyAgeSecs ++
      optionalField "max_key_age_secs" number view.maxKeyAgeSecs ++
      [("servers", array (view.servers.map ServerView.toJson))])

def RetryConfigView.toJson (view : RetryConfigView) : Json :=
  object
    ([("enabled", bool view.enabled),
      ("mode", string view.mode),
      ("ports", array (view.ports.map fun port => number port.toNat)),
      ("token_lifetime_secs", number view.tokenLifetimeSecs.toNat),
      ("key_age_secs", number view.keyAgeSecs)] ++
      optionalField "max_key_age_secs" (fun secs => number secs.toNat) view.maxKeyAgeSecs)

def RouteView.toJson (view : RouteView) : Json :=
  object
    ([("path", string view.path),
      ("configs", array (view.configs.map RouteConfigView.toJson)),
      ("fallback_pool", array (view.fallbackPool.map string))] ++
      optionalField "retry" RetryConfigView.toJson view.retry)

def DaemonView.toJson (view : DaemonView) : Json :=
  object
    [("interface", string view.interface),
      ("ports", array (view.ports.map fun port => number port.toNat)),
      ("queues", number view.queues.toNat),
      ("config_path", ofOption string view.configPath),
      ("route_config_path", ofOption string view.routeConfigPath),
      ("status_socket_path", ofOption string view.statusSocketPath),
      ("foreground", bool view.foreground)]

def ConfigResponse.toJson (response : ConfigResponse) : Json :=
  object [("daemon", response.daemon.toJson), ("route", response.route.toJson)]

end Serialize

/-- `build_config_response`. -/
def buildConfigResponse (showAddr : IpAddr → String) (args : Args) (path : String)
    (table : ConfigTable) (now : Instant) : Json :=
  (ConfigResponse.build showAddr args path table now).toJson

end Pesigitg
