import Pesigitg.Base.FirstOf
import Pesigitg.Daemon.MainLoop
import Pesigitg.Daemon.Packet

/-!
# The fallback pool

The pool for hashed connections is derived from the servers of all configs and stored beside
them, so every path that replaces the live table has to leave it current. `Pooled` says that it
is; startup, reloads and ticks keep it, and `fallback_pool_exact` says what a current pool holds.
-/

namespace Pesigitg

open Base

/-- A server that may take new connections. -/
def Server.eligible (server : Server) : Bool :=
  server.healthy && server.mac.isSome && !server.draining

/-- A server is eligible if it is up, has a MAC and is not draining. -/
theorem Server.eligible_iff {server : Server} :
    server.eligible = true ↔
      server.healthy = true ∧ server.mac.isSome = true ∧ server.draining = false := by
  simp [Server.eligible, and_assoc]

namespace ConfigTable

variable {table : ConfigTable}

/-- The eligible servers of all active configs, by slot and then by position. -/
def eligibleServers (table : ConfigTable) : List Server :=
  (table.configs.flatMap RouteConfig.servers).filter Server.eligible

/-- The stored pool is the one the table's servers give. -/
def Pooled (table : ConfigTable) : Prop :=
  table.fallbackServers = (table.configs.flatMap RouteConfig.servers).foldl pushFallback []

/-- What a current pool holds. -/
structure PoolExact (table : ConfigTable) : Prop where
  /-- The addresses are those of the eligible servers of active configs. -/
  eligible : ∀ addr, addr ∈ table.fallbackServers.map Server.address ↔
    ∃ config ∈ table.configs, ∃ server ∈ config.servers, server.address = addr ∧
      server.healthy = true ∧ server.mac.isSome = true ∧ server.draining = false
  once : (table.fallbackServers.map Server.address).Nodup
  /-- They come in the order in which an eligible server first has them. -/
  ordered : (table.fallbackServers.map Server.address).Pairwise fun earlier later =>
    (table.eligibleServers.map Server.address).idxOf earlier <
      (table.eligibleServers.map Server.address).idxOf later
  resolved : ∀ server ∈ table.fallbackServers, server.mac.isSome = true
  /-- Hashing a flow into a pool that is not empty yields a MAC. -/
  routes : ∀ hash flow, table.fallbackServers ≠ [] →
    ∃ mac, fallbackMac hash flow table.fallbackServers = .ok (some mac)

/-- A rebuilt pool is current. -/
theorem pooled_rebuildFallbackServers (table : ConfigTable) : table.rebuildFallbackServers.Pooled :=
  rfl

/-- The load times have no part in the pool. -/
theorem Pooled.inheritAgesFrom (pooled : table.Pooled) (previous : ConfigTable) :
    (table.inheritAgesFrom previous).Pooled := pooled

/-- The pool keeps the first eligible server of each address. -/
theorem pushFallback_eq : pushFallback = pushFirst Server.address Server.eligible := rfl

/-- The eligible servers are those of active configs. -/
theorem mem_eligibleServers {server : Server} :
    server ∈ table.eligibleServers ↔
      ∃ config ∈ table.configs, server ∈ config.servers ∧ server.eligible = true := by
  rw [eligibleServers, List.mem_filter, List.mem_flatMap]
  constructor
  · rintro ⟨⟨config, active, listed⟩, eligible⟩
    exact ⟨config, active, listed, eligible⟩
  · rintro ⟨config, active, listed, eligible⟩
    exact ⟨⟨config, active, listed⟩, eligible⟩

/-- The pool holds the first eligible server of each address. -/
theorem Pooled.firsts (pooled : table.Pooled) :
    FirstOccurrences Server.address table.eligibleServers table.fallbackServers := by
  rw [pooled, pushFallback_eq]
  exact FirstOccurrences.foldl_pushFirst _ _ _

/-- Hashing a flow into servers that all have a MAC finds one. -/
theorem fallbackMac_of_resolved {servers : List Server} (hash : FlowKey → UInt64) (flow : FlowKey)
    (pool : servers ≠ []) (resolved : ∀ server ∈ servers, server.mac.isSome = true) :
    ∃ mac, fallbackMac hash flow servers = .ok (some mac) := by
  have inside : (hash flow).toNat % servers.length < servers.length :=
    Nat.mod_lt _ (List.length_pos_iff.mpr pool)
  obtain ⟨mac, found⟩ := Option.isSome_iff_exists.mp (resolved _ (List.getElem_mem inside))
  refine ⟨mac, ?_⟩
  simp only [fallbackMac, List.isEmpty_eq_false_iff.mpr pool, Bool.false_eq_true, if_false,
    serverAt, List.getElem?_eq_getElem inside, Checked.ok_bind, found, Checked.pure_eq_ok]

/-- A current pool holds each eligible address once, in order. -/
theorem Pooled.poolExact (pooled : table.Pooled) : table.PoolExact := by
  have firsts := pooled.firsts
  have resolved : ∀ server ∈ table.fallbackServers, server.mac.isSome = true := by
    intro server member
    obtain ⟨-, -, -, eligible⟩ := mem_eligibleServers.mp (firsts.part server member)
    exact (Server.eligible_iff.mp eligible).2.1
  refine ⟨?_, firsts.once, firsts.ordered, resolved, ?_⟩
  · intro addr
    rw [firsts.keys, List.mem_map]
    constructor
    · rintro ⟨server, member, rfl⟩
      obtain ⟨config, active, listed, eligible⟩ := mem_eligibleServers.mp member
      exact ⟨config, active, server, listed, rfl, Server.eligible_iff.mp eligible⟩
    · rintro ⟨config, active, server, listed, rfl, eligible⟩
      exact ⟨server, mem_eligibleServers.mpr
        ⟨config, active, listed, Server.eligible_iff.mpr eligible⟩, rfl⟩
  · exact fun hash flow pool => fallbackMac_of_resolved hash flow pool resolved

end ConfigTable

section Runs

variable {state after : MainState}

/-- A loaded table has a current pool. -/
theorem loadRouteConfig_pooled {file : RouteFile} {neighbours : Fin 7 → Neighbours}
    {now : Instant} {table : ConfigTable}
    (loaded : loadRouteConfig file neighbours now = .ok (.ok table)) : table.Pooled := by
  simp only [loadRouteConfig, Checked.bind_eq_ok_iff] at loaded
  obtain ⟨result, -, loaded⟩ := loaded
  cases result with
  | error failure => simp at loaded
  | ok parsed =>
    simp only [Checked.pure_eq_ok, Except.ok.injEq] at loaded
    subst loaded
    exact ConfigTable.pooled_rebuildFallbackServers _

/-- A tick stores a rebuilt clone or nothing. -/
theorem checkAndRebuild_pooled {tick : Tick} {rebuilt : Bool} (pooled : state.routeConfig.Pooled)
    (done : state.checkAndRebuild tick = .ok (after, rebuilt)) : after.routeConfig.Pooled := by
  simp only [MainState.checkAndRebuild, Checked.bind_eq_ok_iff] at done
  obtain ⟨⟨health, clone, changed⟩, -, done⟩ := done
  split at done
  · cases done
    exact ConfigTable.pooled_rebuildFallbackServers _
  · cases done
    exact pooled

/-- Every step of the main loop leaves the pool current. -/
theorem MainStep.pooled {event : MainEvent} (step : MainStep state event after)
    (pooled : state.routeConfig.Pooled) : after.routeConfig.Pooled := by
  cases step with
  | reload later loaded done =>
    simp only [MainState.reloadConfig, loaded, Checked.ok_bind, Checked.pure_eq_ok,
      Except.ok.injEq] at done
    subst done
    exact (loadRouteConfig_pooled loaded).inheritAgesFrom _
  | tick later done => exact checkAndRebuild_pooled pooled done

/-- So the pool is current at every moment of a run. -/
theorem MainRun.pooled {log : List (MainEvent × MainState)} (run : MainRun log state) :
    state.routeConfig.Pooled := by
  induction run with
  | startup loaded => exact loadRouteConfig_pooled loaded
  | step _ step ih => exact step.pooled ih

/-- In every table that is ever stored, the fallback pool is exactly the eligible servers. -/
theorem fallback_pool_exact {log : List (MainEvent × MainState)} (run : MainRun log state) :
    state.routeConfig.PoolExact ∧
      ∀ event reached, (event, reached) ∈ log → reached.routeConfig.PoolExact := by
  refine ⟨run.pooled.poolExact, ?_⟩
  induction run with
  | startup loaded => simp
  | @step log before after event run step ih =>
    intro earlier reached member
    rcases List.mem_append.mp member with member | last
    · exact ih earlier reached member
    · cases List.mem_singleton.mp last
      exact (step.pooled run.pooled).poolExact

end Runs

open SampleReload in
/-- The pool fills with the sample's server once a probe finds it up, and a reload empties it. -/
theorem fallback_pool_sample :
    ∃ log state, MainRun log state ∧ state.routeConfig.PoolExact ∧
      log.map (fun entry => entry.2.routeConfig.fallbackServers.map Server.address) =
        [[.v4 (ipv4Octets 10 0 0 1)], [], []] := by
  refine ⟨log true, _, run true, (fallback_pool_exact (run true)).1, ?_⟩
  decide +kernel

end Pesigitg
