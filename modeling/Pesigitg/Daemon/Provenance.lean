import Pesigitg.Daemon.FallbackPool
import Pesigitg.Daemon.HealthHistory

/-!
# Where the stored table comes from

`MainState.Traced` ties the stored table to what was read from outside: every entry is one of the
file in force, its MAC is that of the file or else the first one the neighbour tables gave since
then, and an entry is marked healthy only while the probes of its address say so. The other
direction of the last point does not hold: after a reload a server may be up and not marked. The
Retry section is that of the file, and the pool is the one that the entries give.

A reload, a refused reload and a tick keep it. A tick stores one of two tables, the clone with its
MACs looked up or that clone with the checker's flags (`checkAndRebuild_stores`).
-/

namespace Pesigitg

open Base ProbeHistory

/-- The file that the stored table was parsed from, and the neighbour tables read since then. -/
structure TableSource where
  file : RouteFile
  loadedAt : Instant
  readings : List (Fin 7 → Neighbours)

namespace TableSource

/-- The first MAC that the neighbour tables gave for an address. -/
def firstMac (source : TableSource) (id : Fin 7) (addr : IpAddr) : Option Mac :=
  source.readings.findSome? fun reading => (reading id).bind fun table => table addr

/-- The source after an event of the main thread. -/
def after (source : TableSource) : MainEvent → TableSource
  | .reload reload => ⟨reload.file, reload.loadedAt, [reload.neighbours]⟩
  | .tick tick => { source with readings := source.readings ++ [tick.neighbours] }

end TableSource

/-- A Retry section as it is configured: without the age of its key, which a reload may carry over,
and the load that the workers have counted. -/
def RetryConfig.settings (retry : RetryConfig) : RetryConfig :=
  { retry with loadedAt := 0, loadTracker := retry.loadTracker.map fun _ => .new }

/-- The stored table is that of the file: its entries, each with its identity and with the MAC of
the file or else the first one that was read, and its Retry section. -/
structure ConfigTable.Grown (table : ConfigTable) (source : TableSource) (parsed : ConfigTable)
    (grown : Fin 7 → Server → Server) : Prop where
  read : ConfigTable.fromStr source.file.configs source.file.retry source.loadedAt =
    .ok (.ok parsed)
  slots : table.slots = (parsed.updateServers fun id => List.map (grown id)).slots
  entries : ∀ id origin, (grown id origin).identity = origin.identity ∧
    (grown id origin).mac = origin.mac.or (source.firstMac id origin.address)
  retry : table.retry.map RetryConfig.settings = parsed.retry.map RetryConfig.settings

/-- Records that are marked healthy have the history for it. Failures of a server that is down are
counted in 32 bits and may wrap; those of a healthy one cannot. -/
def HealthState.Vouches (state : HealthState) (histories : IpAddr → List ProbeOutcome) : Prop :=
  ∀ addr health, state addr = some health → health.healthy = true →
    up (histories addr) = true ∧ health.consecutiveFailures.toNat = failures (histories addr)

namespace MainState

/-- The outcomes of the probes that an event sends. -/
def probes (state : MainState) : MainEvent → List (IpAddr × Bool)
  | .reload _ => []
  | .tick tick =>
    tick.prober.probeAll
      (state.health.due (resolved state.routeConfig tick.neighbours) tick.now)

/-- What the main thread's state says about the outside. -/
structure Traced (source : TableSource) (histories : IpAddr → List ProbeOutcome)
    (state : MainState) : Prop where
  entries : ∃ parsed grown, state.routeConfig.Grown source parsed grown
  flags : ∀ server ∈ state.routeConfig.servers, server.healthy = true →
    state.health.flag server.address = true
  vouches : state.health.Vouches histories
  pooled : state.routeConfig.Pooled

end MainState

section Probes

variable {state : HealthState} {histories : IpAddr → List ProbeOutcome}

/-- One outcome. A success starts the count again, and a failure that leaves the server up is at
most the second in a row. -/
theorem ServerHealth.recordProbe_vouched {health : ServerHealth} {history : List ProbeOutcome}
    (ok : Bool) (now : Instant)
    (vouched : health.healthy = true →
      up history = true ∧ health.consecutiveFailures.toNat = failures history)
    (healthy : (health.recordProbe ok now).1.healthy = true) :
    up (history ++ [(now, ok)]) = true ∧
      (health.recordProbe ok now).1.consecutiveFailures.toNat =
        failures (history ++ [(now, ok)]) := by
  cases ok with
  | true =>
    refine ⟨up_success history now, ?_⟩
    rw [failures_success]
    simp only [recordProbe, if_true]
    split <;> rfl
  | false =>
    simp only [recordProbe, Bool.false_eq_true, if_false] at healthy ⊢
    by_cases goesDown : health.healthy = true ∧ failureThreshold ≤ health.consecutiveFailures + 1
    · rw [if_pos goesDown] at healthy
      cases healthy
    · rw [if_neg goesDown] at healthy ⊢
      obtain ⟨wasUp, counted⟩ := vouched healthy
      have below : (health.consecutiveFailures + 1).toNat < 3 := by
        rw [not_and] at goesDown
        exact Nat.not_le.mp fun reached => goesDown healthy (UInt32.le_iff_toNat_le.mpr reached)
      rw [up, Bool.and_eq_true, decide_eq_true_eq] at wasUp
      have next : (health.consecutiveFailures + 1).toNat = failures history + 1 := by
        rw [UInt32.toNat_add, counted, UInt32.toNat_one]
        exact Nat.mod_eq_of_lt (by omega)
      rw [up_failure, failures_failure, wasUp.1, Bool.true_and, decide_eq_true_eq]
      exact ⟨by omega, next⟩

/-- A server whose flag is set has a history that says so. -/
theorem HealthState.Vouches.up_of_flag (vouches : state.Vouches histories) {addr : IpAddr}
    (flag : state.flag addr = true) : up (histories addr) = true := by
  cases found : state addr with
  | none =>
    rw [HealthState.flag, found] at flag
    cases flag
  | some health =>
    rw [HealthState.flag_of_some found] at flag
    exact (vouches addr health found flag).1

/-- A batch of outcomes, each heard by the record of its own address. -/
theorem HealthState.recordProbes_vouches {after : HealthState} {changed flipped : Bool}
    {probes : List (IpAddr × Bool)} {now : Instant} (vouches : state.Vouches histories)
    (recorded : recordProbes now probes state changed = .ok (after, flipped)) :
    after.Vouches fun addr => histories addr ++ probed now probes addr := by
  induction probes generalizing state histories changed with
  | nil =>
    cases recorded
    simpa [probed] using vouches
  | cons probe rest ih =>
    obtain ⟨addr, ok⟩ := probe
    simp only [recordProbes, Checked.bind_eq_ok_iff] at recorded
    obtain ⟨health, found, recorded⟩ := recorded
    rw [Checked.expect_eq_ok_iff] at found
    have heardFirst : Vouches (Function.update state addr (some (health.recordProbe ok now).1))
        (heard histories addr (now, ok)) := by
      intro other record stored healthy
      by_cases this : other = addr
      · subst this
        rw [Function.update_self] at stored
        cases stored
        rw [heard, Function.update_self]
        exact ServerHealth.recordProbe_vouched ok now (vouches other health found) healthy
      · rw [Function.update_of_ne this] at stored
        rw [heard, Function.update_of_ne this]
        exact vouches other record stored healthy
    have all := ih heardFirst recorded
    simpa only [heard_append_probed] using all

/-- Following the table's addresses creates records that are not healthy and drops others. -/
theorem HealthState.Vouches.tracked (vouches : state.Vouches histories) (table : ConfigTable)
    (now : Instant) : (state.tracked table now).Vouches histories := by
  intro addr health stored healthy
  simp only [HealthState.tracked, discover, evictRemoved] at stored
  by_cases listed : addr ∈ table.addresses
  · rw [if_pos listed, if_pos listed] at stored
    cases known : state addr with
    | none =>
      rw [known] at stored
      cases stored
      cases healthy
    | some record =>
      rw [known] at stored
      cases stored
      exact vouches addr _ known healthy
  · rw [if_neg listed, if_neg listed] at stored
    cases stored

/-- A pass adds its probes to the histories, and its flags follow them. -/
theorem HealthState.check_vouches {after : HealthState} {table clone : ConfigTable}
    {prober : Prober} {changed : Bool} {now : Instant} (vouches : state.Vouches histories)
    (checked : check prober state table now = .ok (after, clone, changed)) :
    after.Vouches fun addr =>
      histories addr ++ probed now (prober.probeAll (state.due table now)) addr := by
  have tracked := vouches.tracked table now
  unfold check at checked
  by_cases nothing : (state.due table now).isEmpty = true
  · rw [if_pos nothing] at checked
    cases checked
    have silent : prober.probeAll (state.due table now) = [] := by
      rw [List.eq_nil_iff_forall_not_mem]
      intro probe member
      have asked := prober.asked _ probe member
      rw [List.isEmpty_iff.mp nothing] at asked
      cases asked
    simpa [silent, probed] using tracked
  · rw [if_neg nothing, applyProbeResults, Checked.bind_eq_ok_iff] at checked
    obtain ⟨⟨recorded, flipped⟩, done, checked⟩ := checked
    cases checked
    exact recordProbes_vouches tracked done

end Probes

section Entries

variable {table parsed : ConfigTable} {source : TableSource} {grown : Fin 7 → Server → Server}

/-- Two rewrites of the entries are one. -/
theorem ConfigTable.slots_updateServers_comp {update : Fin 7 → Server → Server}
    (slots : table.slots = (parsed.updateServers fun id => List.map (grown id)).slots) :
    (table.updateServers fun id => List.map (update id)).slots =
      (parsed.updateServers fun id => List.map (update id ∘ grown id)).slots := by
  funext id
  simp only [updateServers, slots, Option.map_map, Function.comp_def, List.map_map]

/-- Resolving a MAC keeps what the file says of a server. -/
theorem resolveMac_identity (neighbours : Neighbours) (server : Server) :
    (resolveMac neighbours server).identity = server.identity := by
  unfold resolveMac
  split <;> rfl

/-- A MAC is the known one, or else that of the neighbour table. -/
theorem resolveMac_mac (neighbours : Neighbours) (server : Server) :
    (resolveMac neighbours server).mac =
      server.mac.or (neighbours.bind fun table => table server.address) := by
  obtain ⟨id, address, mac, draining, healthy, transitions, stateSince⟩ := server
  cases neighbours <;> cases mac <;> rfl

/-- A server with a MAC is left alone. -/
theorem resolveMac_of_resolved (neighbours : Neighbours) {server : Server}
    (resolved : server.mac.isSome = true) : resolveMac neighbours server = server := by
  obtain ⟨mac, found⟩ := Option.isSome_iff_exists.mp resolved
  unfold resolveMac
  split
  · next missing =>
    rw [found] at missing
    cases missing
  · rfl

/-- A tick's clone has every missing MAC looked up: where none is missing, the lookup would change
nothing. -/
theorem MainState.slots_resolved (table : ConfigTable) (neighbours : Fin 7 → Neighbours) :
    (MainState.resolved table neighbours).slots =
      (table.updateServers fun id => List.map (resolveMac (neighbours id))).slots := by
  unfold resolved
  split
  · rfl
  · next complete =>
    funext id
    cases filed : table.slots id with
    | none => simp [ConfigTable.updateServers, filed]
    | some config =>
      have kept : config.servers.map (resolveMac (neighbours id)) = config.servers := by
        refine (List.map_congr_left fun server listed => ?_).trans (List.map_id _)
        apply resolveMac_of_resolved
        by_contra missing
        apply complete
        rw [ConfigTable.hasUnresolvedMacs, List.any_eq_true]
        refine ⟨config, ConfigTable.mem_configs.mpr ⟨id, filed⟩, ?_⟩
        exact List.any_eq_true.mpr ⟨server, listed, by simpa using missing⟩
      simp [ConfigTable.updateServers, filed, kept]

/-- A tick leaves the Retry section of its clone alone. -/
theorem MainState.retry_resolved (table : ConfigTable) (neighbours : Fin 7 → Neighbours) :
    (MainState.resolved table neighbours).retry = table.retry := by
  unfold resolved
  split <;> rfl

/-- What a reload carries over is no setting. -/
theorem ConfigTable.inheritAgesFrom_settings (table previous : ConfigTable) :
    (table.inheritAgesFrom previous).retry.map RetryConfig.settings =
      table.retry.map RetryConfig.settings := by
  unfold inheritAgesFrom
  cases new : table.retry with
  | none => rfl
  | some new =>
    cases previous.retry with
    | none => rfl
    | some old =>
      simp only [Option.map_some, RetryConfig.inheritAgeFrom]
      split <;> rfl

/-- A pass adds its neighbour tables behind the earlier ones. -/
theorem TableSource.firstMac_tick (tick : Tick) (id : Fin 7) (addr : IpAddr) :
    (source.after (.tick tick)).firstMac id addr =
      (source.firstMac id addr).or ((tick.neighbours id).bind fun table => table addr) := by
  simp only [after, firstMac, List.findSome?_append, List.findSome?_singleton]

/-- The address is part of what the file says. -/
theorem Server.address_of_identity {entry origin : Server}
    (same : entry.identity = origin.identity) : entry.address = origin.address := by
  simp only [Server.identity, Prod.mk.injEq] at same
  exact same.2.1

/-- Mirroring the flag keeps what the file says of a server. -/
theorem HealthState.mirrorServer_identity (state : HealthState) (server : Server) :
    (state.mirrorServer server).identity = server.identity := by
  unfold mirrorServer
  split <;> rfl

/-- Mirroring the flag keeps the MAC. -/
theorem HealthState.mirrorServer_mac (state : HealthState) (server : Server) :
    (state.mirrorServer server).mac = server.mac := by
  unfold mirrorServer
  split <;> rfl

namespace ConfigTable.Grown

/-- A rewrite of the entries that looks up the missing MACs. -/
theorem resolve (made : table.Grown source parsed grown) (tick : Tick) :
    ConfigTable.Grown (MainState.resolved table tick.neighbours) (source.after (.tick tick)) parsed
      fun id => resolveMac (tick.neighbours id) ∘ grown id := by
  obtain ⟨read, slots, entries, retry⟩ := made
  refine ⟨read, ?_, ?_, ?_⟩
  · rw [MainState.slots_resolved, ConfigTable.slots_updateServers_comp slots]
  · intro id origin
    obtain ⟨identity, mac⟩ := entries id origin
    refine ⟨(resolveMac_identity _ _).trans identity, ?_⟩
    simp only [Function.comp_apply, resolveMac_mac, mac, Server.address_of_identity identity,
      TableSource.firstMac_tick, Option.or_assoc]
  · rw [MainState.retry_resolved]
    exact retry

/-- A rewrite that copies health records onto the entries. -/
theorem mirror (made : table.Grown source parsed grown) (state : HealthState) :
    (state.mirror table).Grown source parsed fun id => state.mirrorServer ∘ grown id := by
  obtain ⟨read, slots, entries, retry⟩ := made
  refine ⟨read, ConfigTable.slots_updateServers_comp slots, ?_, retry⟩
  intro id origin
  obtain ⟨identity, mac⟩ := entries id origin
  exact ⟨(state.mirrorServer_identity _).trans identity, (state.mirrorServer_mac _).trans mac⟩

/-- Every server of the file has its entry in the stored table. -/
theorem mem_servers (made : table.Grown source parsed grown) {id : Fin 7} {config : RouteConfig}
    {origin : Server} (filed : parsed.slots id = some config) (listed : origin ∈ config.servers) :
    grown id origin ∈ table.servers := by
  rw [ConfigTable.mem_servers, made.slots, ← ConfigTable.mem_servers, ConfigTable.mem_updateServers]
  exact ⟨id, config, origin, filed, listed, rfl⟩

/-- Every stored entry has an entry of the file behind it. -/
theorem origin (made : table.Grown source parsed grown) {config : RouteConfig} {server : Server}
    (active : config ∈ table.configs) (listed : server ∈ config.servers) :
    ∃ id config origin, parsed.slots id = some config ∧ origin ∈ config.servers ∧
      server = grown id origin := by
  obtain ⟨id, filed⟩ := ConfigTable.mem_configs.mp active
  rw [← ConfigTable.mem_updateServers, ConfigTable.mem_servers, ← made.slots]
  exact ⟨id, config, filed, listed⟩

/-- Only the slots and the settings matter. -/
theorem congr (made : table.Grown source parsed grown) {other : ConfigTable}
    (same : other.slots = table.slots)
    (retry : other.retry.map RetryConfig.settings = table.retry.map RetryConfig.settings) :
    other.Grown source parsed grown :=
  ⟨made.read, same.trans made.slots, made.entries, retry.trans made.retry⟩

end ConfigTable.Grown

/-- A table that was just loaded. -/
theorem loadRouteConfig_grown {file : RouteFile} {neighbours : Fin 7 → Neighbours} {now : Instant}
    (loaded : loadRouteConfig file neighbours now = .ok (.ok table)) :
    ∃ parsed,
      table.Grown ⟨file, now, [neighbours]⟩ parsed fun id => resolveMac (neighbours id) := by
  simp only [loadRouteConfig, Checked.bind_eq_ok_iff] at loaded
  obtain ⟨result, read, loaded⟩ := loaded
  cases result with
  | error failure => simp at loaded
  | ok parsed =>
    cases loaded
    refine ⟨parsed, read, rfl, ?_, rfl⟩
    intro id origin
    refine ⟨resolveMac_identity _ _, ?_⟩
    rw [resolveMac_mac, TableSource.firstMac, List.findSome?_singleton]

end Entries

section Main

variable {state after : MainState} {source : TableSource}
  {histories : IpAddr → List ProbeOutcome}

/-- What a tick stores, up to the pool: the clone with its MACs looked up, with the flags of the
checker or, when none of them changed, with its own. -/
theorem checkAndRebuild_stores {tick : Tick} {rebuilt : Bool}
    (done : state.checkAndRebuild tick = .ok (after, rebuilt)) :
    ∃ clone changed,
      state.health.check tick.prober (MainState.resolved state.routeConfig tick.neighbours)
        tick.now = .ok (after.health, clone, changed) ∧
      after.routeConfig.retry = state.routeConfig.retry ∧
      ((after.routeConfig.slots =
            (MainState.resolved state.routeConfig tick.neighbours).slots ∧ changed = false) ∨
        after.routeConfig.slots = (after.health.mirror
            (MainState.resolved state.routeConfig tick.neighbours)).slots) := by
  simp only [MainState.checkAndRebuild, Checked.bind_eq_ok_iff] at done
  obtain ⟨⟨health, clone, changed⟩, checked, done⟩ := done
  obtain ⟨health', clone', changed', same, -, -, -, outcome⟩ := HealthState.check_spec tick.prober
    state.health (MainState.resolved state.routeConfig tick.neighbours) tick.now
  rw [checked] at same
  cases same
  split at done
  · cases done
    refine ⟨clone, changed, checked, ?_⟩
    have retry := MainState.retry_resolved state.routeConfig tick.neighbours
    rcases outcome with ⟨-, rfl, unchanged⟩ | ⟨-, rfl⟩
    · exact ⟨retry, .inl ⟨rfl, unchanged⟩⟩
    · exact ⟨retry, .inr rfl⟩
  · next kept =>
    cases done
    obtain ⟨complete, unchanged⟩ := Bool.or_eq_false_iff.mp (Bool.eq_false_iff.mpr kept)
    refine ⟨clone, changed, checked, rfl, .inl ⟨?_, unchanged⟩⟩
    simp only [MainState.resolved, complete, Bool.false_eq_true, if_false]

/-- A pass sets the clock to its time. -/
theorem MainStep.clock_tick {tick : Tick}
    (moved : MainStep state (.tick tick) after) : after.clock = tick.now := by
  cases moved with
  | tick later done =>
    obtain ⟨after', rebuilt', done', -, clock, -⟩ := checkAndRebuild_spec state tick
    rw [done] at done'
    cases done'
    exact clock

/-- The servers depend on the slots only. -/
theorem ConfigTable.servers_congr {table other : ConfigTable} (same : other.slots = table.slots) :
    other.servers = table.servers := by
  simp only [servers, configs, same]

/-- A reload only moves the next probes of the records forward. -/
theorem HealthState.Vouches.resetBackoff {health : HealthState}
    (vouches : health.Vouches histories) (now : Instant) :
    (health.resetBackoff now).Vouches histories := by
  intro addr record stored healthy
  simp only [HealthState.resetBackoff, Option.map_eq_some_iff] at stored
  obtain ⟨old, found, rfl⟩ := stored
  exact vouches addr old found healthy

namespace MainState.Traced

/-- A freshly loaded table marks nobody healthy. -/
theorem load {file : RouteFile} {neighbours : Fin 7 → Neighbours} {loadedAt : Instant}
    {table : ConfigTable} {health : HealthState} (stored : ConfigTable)
    (loaded : loadRouteConfig file neighbours loadedAt = .ok (.ok table))
    (slots : stored.slots = table.slots)
    (retry : stored.retry.map RetryConfig.settings = table.retry.map RetryConfig.settings)
    (pooled : stored.Pooled)
    (vouches : health.Vouches histories) (now : Instant) :
    MainState.Traced ⟨file, loadedAt, [neighbours]⟩ histories ⟨stored, health, now⟩ := by
  obtain ⟨parsed, made⟩ := loadRouteConfig_grown loaded
  refine ⟨⟨parsed, _, made.congr slots retry⟩, ?_, vouches, pooled⟩
  intro server listed healthy
  rw [ConfigTable.servers_congr slots] at listed
  rw [loadRouteConfig_unhealthy loaded server listed] at healthy
  cases healthy

/-- A step of the main thread. -/
theorem step {event : MainEvent} (traced : MainState.Traced source histories state)
    (moved : MainStep state event after) :
    MainState.Traced (source.after event)
      (fun addr => histories addr ++ HealthState.probed after.clock (state.probes event) addr)
      after := by
  have pooled := moved.pooled traced.pooled
  cases moved with
  | @reload reload table _ later loaded done =>
    simp only [MainState.reloadConfig, loaded, Checked.ok_bind, Checked.pure_eq_ok,
      Except.ok.injEq] at done
    subst done
    simp only [MainState.probes, HealthState.probed, List.filter_nil, List.map_nil,
      List.append_nil]
    exact load (table.inheritAgesFrom state.routeConfig) loaded rfl
      (table.inheritAgesFrom_settings state.routeConfig) pooled
      (traced.vouches.resetBackoff reload.now) reload.now
  | @tick tick rebuilt _ later done =>
    obtain ⟨clone, changed, checked, retry, slots⟩ := checkAndRebuild_stores done
    obtain ⟨parsed, grown, made⟩ := traced.entries
    have resolved := made.resolve tick
    have settings : after.routeConfig.retry.map RetryConfig.settings =
        (MainState.resolved state.routeConfig tick.neighbours).retry.map RetryConfig.settings := by
      rw [retry, MainState.retry_resolved]
    obtain ⟨health', clone', changed', same, known, -, sameFlags, -⟩ := HealthState.check_spec
      tick.prober state.health (MainState.resolved state.routeConfig tick.neighbours) tick.now
    rw [checked] at same
    cases same
    have vouches := HealthState.check_vouches traced.vouches checked
    have clock := MainStep.clock_tick (.tick later done)
    refine ⟨?_, ?_, by simpa only [clock, MainState.probes] using vouches, pooled⟩
    · rcases slots with ⟨kept, -⟩ | mirrored
      · exact ⟨parsed, _, resolved.congr kept settings⟩
      · exact ⟨parsed, _, (resolved.mirror after.health).congr mirrored settings⟩
    · intro server listed healthy
      rcases slots with ⟨kept, unchanged⟩ | mirrored
      · rw [ConfigTable.servers_congr kept] at listed
        rw [sameFlags unchanged _ (ConfigTable.mem_addresses.mpr ⟨server, listed, rfl⟩)]
        obtain ⟨original, member, address, flag⟩ := mem_servers_resolved listed
        rw [address]
        exact traced.flags original member (flag ▸ healthy)
      · rw [ConfigTable.servers_congr mirrored] at listed
        rw [← HealthState.mirror_consistent known server listed]
        exact healthy

/-- An entry that is marked healthy has the history for it. -/
theorem up {parsed : ConfigTable} {grown : Fin 7 → Server → Server}
    (traced : MainState.Traced source histories state)
    (made : state.routeConfig.Grown source parsed grown) {id : Fin 7} {config : RouteConfig}
    {origin : Server} (filed : parsed.slots id = some config) (listed : origin ∈ config.servers)
    (healthy : (grown id origin).healthy = true) :
    ProbeHistory.up (histories origin.address) = true := by
  have flag := traced.flags _ (made.mem_servers filed listed) healthy
  rw [Server.address_of_identity (made.entries id origin).1] at flag
  exact traced.vouches.up_of_flag flag

/-- A reload whose file is refused keeps the table. -/
theorem refuse (traced : MainState.Traced source histories state) {reload : Reload}
    {failure : RouteConfigError}
    (refused : loadRouteConfig reload.file reload.neighbours reload.loadedAt = .ok (.error failure))
    (done : state.reloadConfig reload = .ok after) :
    MainState.Traced source histories after := by
  simp only [MainState.reloadConfig, refused, Checked.ok_bind, Checked.pure_eq_ok,
    Except.ok.injEq] at done
  subst done
  refine ⟨traced.entries, ?_, traced.vouches.resetBackoff reload.now, traced.pooled⟩
  intro server listed healthy
  have flag := traced.flags server listed healthy
  simp only [HealthState.flag, HealthState.resetBackoff] at flag ⊢
  cases found : state.health server.address with
  | none =>
    rw [found] at flag
    cases flag
  | some record =>
    rw [found] at flag
    exact flag

end MainState.Traced

end Main

end Pesigitg
