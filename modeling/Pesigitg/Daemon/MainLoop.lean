import Pesigitg.Daemon.Health

/-!
# Reloads and health ticks of the main loop

The daemon's main thread owns the health checker and replaces the live config table in
two ways: a SIGHUP stores a freshly parsed table, and every tick works on a clone of the
live table and stores it back only if a MAC was unresolved or a health flag flipped.

A parsed table has every server marked unhealthy. `checkAndRebuild_of_consistent` says a
tick keeps a table that agrees with the checker in agreement, and
`checkAndRebuild_of_reloaded` says exactly when the first tick after a reload brings the new
table into agreement.
-/

namespace Pesigitg

open Base

/-- The two sections of a route config file. -/
structure RouteFile where
  configs : List RawConfig
  retry : Option RawRetry

/-- A successful or failed `ConfigTable::from_file`, followed by neighbour resolution. -/
def loadRouteConfig (file : RouteFile) (neighbours : Fin 7 → Neighbours) (now : Instant) :
    Checked (Except RouteConfigError ConfigTable) := do
  match ← ConfigTable.fromStr file.configs file.retry now with
  | .error failure => pure (.error failure)
  | .ok table =>
    let table := table.updateServers fun id => resolveMacs (neighbours id)
    pure (.ok table.rebuildFallbackServers)

/-- The main thread's state: the stored table and the checker's records. The clock is the
latest reading taken. -/
structure MainState where
  routeConfig : ConfigTable
  health : HealthState
  clock : Instant

/-- A SIGHUP, with what the file and the neighbour table hold when it is handled. -/
structure Reload where
  file : RouteFile
  neighbours : Fin 7 → Neighbours
  loadedAt : Instant
  now : Instant

/-- One pass of the periodic work, with what the network answers. -/
structure Tick where
  neighbours : Fin 7 → Neighbours
  prober : Prober
  now : Instant

namespace MainState

/-- `reload_config` and the `reset_backoff` after it; a file that does not parse leaves
the stored table in place. -/
def reloadConfig (state : MainState) (reload : Reload) : Checked MainState := do
  let health := state.health.resetBackoff reload.now
  match ← loadRouteConfig reload.file reload.neighbours reload.loadedAt with
  | .ok table => pure ⟨table.inheritAgesFrom state.routeConfig, health, reload.now⟩
  | .error _ => pure ⟨state.routeConfig, health, reload.now⟩

/-- The clone that a tick works on. -/
def resolved (table : ConfigTable) (neighbours : Fin 7 → Neighbours) : ConfigTable :=
  if table.hasUnresolvedMacs then table.updateServers fun id => resolveMacs (neighbours id)
  else table

/-- `check_and_rebuild`. -/
def checkAndRebuild (state : MainState) (tick : Tick) : Checked (MainState × Bool) := do
  let clone := resolved state.routeConfig tick.neighbours
  let (health, clone, changed) ← state.health.check tick.prober clone tick.now
  let rebuild := state.routeConfig.hasUnresolvedMacs || changed
  if rebuild then pure (⟨clone.rebuildFallbackServers, health, tick.now⟩, rebuild)
  else pure (⟨state.routeConfig, health, tick.now⟩, rebuild)

/-- Every stored server entry whose address the checker tracks has the checker's flag. -/
def Mirrored (state : MainState) : Prop :=
  ∀ server ∈ state.routeConfig.servers, ∀ health, state.health server.address = some health →
    server.healthy = health.healthy

/-- Every server of the stored table is tracked. -/
def Tracked (state : MainState) : Prop :=
  ∀ addr ∈ state.routeConfig.addresses, (state.health addr).isSome = true

/-- A table straight from a file, with a checker that has to probe everything. -/
structure Reloaded (state : MainState) : Prop where
  unhealthy : ∀ server ∈ state.routeConfig.servers, server.healthy = false
  due : ∀ addr health, state.health addr = some health → health.nextProbeAt ≤ state.clock

/-- A tick after a reload restores the flags: none of the servers was healthy, or the clone is
stored because a MAC was unresolved or a probe flips a flag. -/
def Restores (state : MainState) (tick : Tick) : Prop :=
  (∀ server ∈ state.routeConfig.servers, state.health.flag server.address = false) ∨
    state.routeConfig.hasUnresolvedMacs = true ∨
    state.health.Flipped state.routeConfig tick.prober tick.now

end MainState

section Flags

variable {state : MainState} {tick : Tick}

open MainState

/-- Resolving MACs keeps the addresses. -/
theorem addresses_resolved (table : ConfigTable) (neighbours : Fin 7 → Neighbours) :
    (resolved table neighbours).addresses = table.addresses := by
  unfold resolved
  split
  · exact ConfigTable.addresses_updateServers fun id server => resolveMac_address _ server
  · rfl

/-- It keeps which servers are due. -/
theorem due_resolved (table : ConfigTable) (neighbours : Fin 7 → Neighbours) (health : HealthState)
    (now : Instant) : health.due (resolved table neighbours) now = health.due table now := by
  simp only [HealthState.due, HealthState.tracked, addresses_resolved]

/-- It keeps which flags flip. -/
theorem flipped_resolved (table : ConfigTable) (neighbours : Fin 7 → Neighbours)
    (health : HealthState) (prober : Prober) (now : Instant) :
    health.Flipped (resolved table neighbours) prober now ↔ health.Flipped table prober now := by
  simp only [HealthState.Flipped, due_resolved, HealthState.tracked, addresses_resolved]

/-- Resolving neighbours leaves address and flag of every entry alone. -/
theorem mem_servers_resolved {table : ConfigTable} {neighbours : Fin 7 → Neighbours}
    {server : Server} (member : server ∈ (resolved table neighbours).servers) :
    ∃ original ∈ table.servers, server.address = original.address ∧
      server.healthy = original.healthy := by
  unfold resolved at member
  split at member
  · obtain ⟨id, config, original, filed, originalMember, rfl⟩ :=
      ConfigTable.mem_updateServers.mp member
    exact ⟨original, ConfigTable.mem_servers.mpr ⟨id, config, filed, originalMember⟩,
      resolveMac_address _ _, resolveMac_healthy _ _⟩
  · exact ⟨server, member, rfl, rfl⟩

/-- It keeps the stored flags as the checker has them. -/
theorem consistent_resolved {table : ConfigTable} {health : HealthState}
    (consistent : table.Consistent health) (neighbours : Fin 7 → Neighbours) :
    (resolved table neighbours).Consistent health := by
  intro server member
  obtain ⟨original, originalMember, sameAddress, sameFlag⟩ := mem_servers_resolved member
  rw [sameFlag, sameAddress]
  exact consistent original originalMember

/-- Consistency looks at the checker's flags of the table's addresses only. -/
theorem ConfigTable.Consistent.congr {table : ConfigTable} {health after : HealthState}
    (consistent : table.Consistent health)
    (same : ∀ addr ∈ table.addresses, after.flag addr = health.flag addr) :
    table.Consistent after := by
  intro server member
  rw [same _ (ConfigTable.mem_addresses.mpr ⟨server, member, rfl⟩)]
  exact consistent server member

/-- A tracked table is mirrored exactly when it is consistent. -/
theorem mirrored_iff_consistent (tracked : state.Tracked) :
    state.Mirrored ↔ state.routeConfig.Consistent state.health := by
  constructor
  · intro mirrored server member
    have listed := ConfigTable.mem_addresses.mpr ⟨server, member, rfl⟩
    obtain ⟨health, found⟩ := Option.isSome_iff_exists.mp (tracked _ listed)
    rw [HealthState.flag_of_some found]
    exact mirrored server member health found
  · intro consistent server member health found
    rw [consistent server member, HealthState.flag_of_some found]

/-- What a tick does, in terms of the state before it: it stores the clone when a MAC was
unresolved or a flag flips, and the clone carries the checker's flags if anything was due. -/
theorem checkAndRebuild_spec (state : MainState) (tick : Tick) :
    ∃ after rebuilt, state.checkAndRebuild tick = .ok (after, rebuilt) ∧
      after.Tracked ∧ after.clock = tick.now ∧
      (rebuilt = true ↔ state.routeConfig.hasUnresolvedMacs = true ∨
        state.health.Flipped state.routeConfig tick.prober tick.now) ∧
      (rebuilt = false → after.routeConfig = state.routeConfig ∧
        ∀ addr ∈ state.routeConfig.addresses, after.health.flag addr = state.health.flag addr) ∧
      (rebuilt = true → state.health.due state.routeConfig tick.now ≠ [] →
        after.routeConfig.Consistent after.health) ∧
      (state.routeConfig.Consistent state.health →
        after.routeConfig.Consistent after.health) := by
  obtain ⟨health, clone, changed, checked, known, changedIff, sameFlags, outcome⟩ :=
    HealthState.check_spec tick.prober state.health (resolved state.routeConfig tick.neighbours)
      tick.now
  rw [addresses_resolved] at known sameFlags
  rw [flipped_resolved] at changedIff
  rw [due_resolved] at outcome
  have cloneAddresses : clone.addresses = state.routeConfig.addresses := by
    rcases outcome with ⟨-, rfl, -⟩ | ⟨-, rfl⟩
    · exact addresses_resolved _ _
    · rw [← addresses_resolved state.routeConfig tick.neighbours]
      exact ConfigTable.addresses_updateServers fun _ server =>
        HealthState.mirrorServer_address server
  have mirrors : state.health.due state.routeConfig tick.now ≠ [] → clone.Consistent health := by
    intro someDue
    rcases outcome with ⟨nothing, -, -⟩ | ⟨-, rfl⟩
    · exact absurd nothing someDue
    · apply HealthState.mirror_consistent
      rw [addresses_resolved]
      exact known
  have keeps : state.routeConfig.Consistent state.health → clone.Consistent health := by
    intro consistent
    by_cases nothing : state.health.due state.routeConfig tick.now = []
    · rcases outcome with ⟨-, rfl, unchanged⟩ | ⟨someDue, -⟩
      · apply (consistent_resolved consistent tick.neighbours).congr
        rw [addresses_resolved]
        exact sameFlags unchanged
      · exact absurd nothing someDue
    · exact mirrors nothing
  have rebuiltIff : (state.routeConfig.hasUnresolvedMacs || changed) = true ↔
      state.routeConfig.hasUnresolvedMacs = true ∨
        state.health.Flipped state.routeConfig tick.prober tick.now := by
    rw [Bool.or_eq_true, changedIff]
  by_cases rebuild : (state.routeConfig.hasUnresolvedMacs || changed) = true
  · refine ⟨⟨clone.rebuildFallbackServers, health, tick.now⟩, true, ?_, ?_, rfl, ?_, ?_, ?_, ?_⟩
    · simp only [checkAndRebuild, checked, Checked.ok_bind]
      rw [rebuild]
      rfl
    · intro addr member
      apply known
      rw [← cloneAddresses]
      exact member
    · rw [← rebuiltIff, rebuild]
    · intro impossible
      cases impossible
    · intro _ someDue
      exact mirrors someDue
    · exact keeps
  · have notRebuilt : (state.routeConfig.hasUnresolvedMacs || changed) = false :=
      Bool.eq_false_iff.mpr rebuild
    have unchanged : changed = false := (Bool.or_eq_false_iff.mp notRebuilt).2
    refine ⟨⟨state.routeConfig, health, tick.now⟩, false, ?_, known, rfl, ?_, ?_, ?_, ?_⟩
    · simp only [checkAndRebuild, checked, Checked.ok_bind]
      rw [notRebuilt]
      rfl
    · rw [← rebuiltIff, notRebuilt]
    · intro _
      exact ⟨rfl, sameFlags unchanged⟩
    · intro impossible
      cases impossible
    · intro consistent
      exact consistent.congr (sameFlags unchanged)

/-- A tick brings a reloaded table into agreement exactly if it restores the flags. -/
theorem checkAndRebuild_of_reloaded {after : MainState} {rebuilt : Bool}
    (ticked : state.checkAndRebuild tick = .ok (after, rebuilt)) (reloaded : state.Reloaded)
    (later : state.clock ≤ tick.now) : after.Mirrored ↔ state.Restores tick := by
  obtain ⟨after', rebuilt', same, tracked, -, rebuiltIff, keepsTable, mirrors, keeps⟩ :=
    checkAndRebuild_spec state tick
  obtain ⟨rfl, rfl⟩ : after = after' ∧ rebuilt = rebuilt' := by
    simpa using ticked.symm.trans same
  rw [mirrored_iff_consistent tracked]
  -- Every record is due since the backoff was reset, and so is a new address.
  have allDue : ∀ server ∈ state.routeConfig.servers,
      server.address ∈ state.health.due state.routeConfig tick.now := by
    intro server member
    have listed := ConfigTable.mem_addresses.mpr ⟨server, member, rfl⟩
    rw [HealthState.due, List.mem_filter, HealthState.tracked_of_mem listed]
    refine ⟨listed, ?_⟩
    cases found : state.health server.address with
    | none => simp [ServerHealth.discovered]
    | some health =>
      have reset := reloaded.due _ _ found
      simp only [Option.getD_some, decide_eq_true_eq]
      exact Nat.le_trans reset later
  by_cases rebuild : rebuilt = true
  · have restores : state.Restores tick := .inr (rebuiltIff.mp rebuild)
    refine ⟨fun _ => restores, fun _ => ?_⟩
    by_cases someDue : state.health.due state.routeConfig tick.now = []
    · -- Nothing is due only in a table without servers.
      apply keeps
      intro server member
      have impossible := allDue server member
      rw [someDue] at impossible
      cases impossible
    · exact mirrors rebuild someDue
  · have notRebuilt : rebuilt = false := Bool.eq_false_iff.mpr rebuild
    obtain ⟨sameTable, sameFlags⟩ := keepsTable notRebuilt
    rw [sameTable]
    constructor
    · intro consistent
      left
      intro server member
      rw [← sameFlags _ (ConfigTable.mem_addresses.mpr ⟨server, member, rfl⟩),
        ← consistent server member]
      exact reloaded.unhealthy server member
    · intro restores server member
      rcases restores with wasUnhealthy | stored
      · rw [sameFlags _ (ConfigTable.mem_addresses.mpr ⟨server, member, rfl⟩),
          wasUnhealthy server member]
        exact reloaded.unhealthy server member
      · exact absurd (rebuiltIff.mpr stored) rebuild

/-- A tick keeps a consistent table mirrored. -/
theorem checkAndRebuild_of_consistent {after : MainState} {rebuilt : Bool}
    (ticked : state.checkAndRebuild tick = .ok (after, rebuilt))
    (consistent : state.routeConfig.Consistent state.health) : after.Mirrored := by
  obtain ⟨after', rebuilt', same, tracked, -, -, -, -, keeps⟩ := checkAndRebuild_spec state tick
  obtain ⟨rfl, rfl⟩ : after = after' ∧ rebuilt = rebuilt' := by
    simpa using ticked.symm.trans same
  rw [mirrored_iff_consistent tracked]
  exact keeps consistent

/-- After a pass every listed server has a record. -/
theorem checkAndRebuild_tracked {after : MainState} {rebuilt : Bool}
    (ticked : state.checkAndRebuild tick = .ok (after, rebuilt)) : after.Tracked := by
  obtain ⟨after', rebuilt', same, tracked, -⟩ := checkAndRebuild_spec state tick
  obtain ⟨rfl, rfl⟩ : after = after' ∧ rebuilt = rebuilt' := by
    simpa using ticked.symm.trans same
  exact tracked

/-- A table from a file has no healthy server. -/
theorem loadRouteConfig_unhealthy {file : RouteFile} {neighbours : Fin 7 → Neighbours}
    {now : Instant} {table : ConfigTable}
    (loaded : loadRouteConfig file neighbours now = .ok (.ok table)) :
    ∀ server ∈ table.servers, server.healthy = false := by
  simp only [loadRouteConfig, Checked.bind_eq_ok_iff] at loaded
  obtain ⟨result, parsed, loaded⟩ := loaded
  cases result with
  | error failure => simp at loaded
  | ok parsedTable =>
    simp only [Checked.pure_eq_ok, Except.ok.injEq] at loaded
    subst loaded
    intro server member
    obtain ⟨id, config, original, filed, originalMember, rfl⟩ :=
      ConfigTable.mem_updateServers.mp member
    rw [resolveMac_healthy]
    exact (ConfigTable.fromStr_fresh parsed filed original originalMember).healthy

/-- After a successful reload the table is straight from the file and everything is due. -/
theorem reloadConfig_reloaded {reload : Reload} {table : ConfigTable} {after : MainState}
    (loaded : loadRouteConfig reload.file reload.neighbours reload.loadedAt = .ok (.ok table))
    (done : state.reloadConfig reload = .ok after) : after.Reloaded := by
  simp only [reloadConfig, loaded, Checked.ok_bind, Checked.pure_eq_ok, Except.ok.injEq] at done
  subst done
  refine ⟨?_, ?_⟩
  · intro server member
    exact loadRouteConfig_unhealthy loaded server member
  · intro addr health found
    simp only [HealthState.resetBackoff, Option.map_eq_some_iff] at found
    obtain ⟨old, -, rfl⟩ := found
    exact Nat.le_refl _

end Flags

/-- What the main thread does to its state. -/
inductive MainEvent where
  | reload (reload : Reload)
  | tick (tick : Tick)

/-- A successful reload, or a tick. The clock does not run backwards. -/
inductive MainStep (state : MainState) : MainEvent → MainState → Prop where
  | reload {reload : Reload} {table : ConfigTable} {after : MainState}
      (later : state.clock ≤ reload.now)
      (loaded : loadRouteConfig reload.file reload.neighbours reload.loadedAt = .ok (.ok table))
      (done : state.reloadConfig reload = .ok after) : MainStep state (.reload reload) after
  | tick {tick : Tick} {rebuilt : Bool} {after : MainState} (later : state.clock ≤ tick.now)
      (done : state.checkAndRebuild tick = .ok (after, rebuilt)) : MainStep state (.tick tick) after

/-- A run of the main thread from startup: each event with the state after it, and the
state reached. -/
inductive MainRun : List (MainEvent × MainState) → MainState → Prop where
  | startup {file : RouteFile} {neighbours : Fin 7 → Neighbours} {now : Instant}
      {table : ConfigTable} (loaded : loadRouteConfig file neighbours now = .ok (.ok table)) :
      MainRun [] ⟨table, .new, now⟩
  | step {log : List (MainEvent × MainState)} {state after : MainState} {event : MainEvent}
      (run : MainRun log state) (step : MainStep state event after) :
      MainRun (log ++ [(event, after)]) after

section Runs

variable {log : List (MainEvent × MainState)} {state : MainState}

/-- Where a run stands: at startup or after a tick all of whose predecessors mirrored, the
table is consistent; after a reload it is a reloaded one. -/
theorem MainRun.settled (run : MainRun log state)
    (mirrored : ∀ tick after, (MainEvent.tick tick, after) ∈ log → after.Mirrored) :
    (∀ earlier reload middle, log = earlier ++ [(MainEvent.reload reload, middle)] →
        middle = state ∧ state.Reloaded) ∧
      ((∀ earlier reload middle, log ≠ earlier ++ [(MainEvent.reload reload, middle)]) →
        state.routeConfig.Consistent state.health) := by
  cases run with
  | startup loaded =>
    constructor
    · intro earlier reload middle impossible
      simp at impossible
    · intro _ server member
      exact loadRouteConfig_unhealthy loaded server member
  | @step log before after event run step =>
    cases step with
    | reload later loaded done =>
      constructor
      · intro earlier reload middle same
        obtain ⟨-, last⟩ := List.append_inj' same rfl
        cases last
        exact ⟨rfl, reloadConfig_reloaded loaded done⟩
      · intro notReload
        exact absurd rfl (notReload _ _ _)
    | tick later done =>
      constructor
      · intro earlier reload middle same
        obtain ⟨-, last⟩ := List.append_inj' same rfl
        cases last
      · intro _
        rw [← mirrored_iff_consistent (checkAndRebuild_tracked done)]
        exact mirrored _ _ (List.mem_append_right _ List.mem_cons_self)

/-- Two neighbours in an extended list are neighbours in the list or its last entry and
the new one. -/
theorem pair_infix_concat {α : Type} {first second last : α} {list : List α} :
    [first, second] <:+: list ++ [last] ↔
      [first, second] <:+: list ∨ (∃ earlier, list = earlier ++ [first]) ∧ second = last := by
  rw [List.infix_concat_iff, List.suffix_concat_iff]
  constructor
  · rintro ((empty | ⟨front, split, suffix⟩) | inside)
    · cases empty
    · right
      obtain ⟨rfl, same⟩ : [first] = front ∧ [second] = [last] :=
        List.append_inj' (show [first] ++ [second] = front ++ [last] from split) rfl
      obtain ⟨earlier, rfl⟩ := suffix
      exact ⟨⟨earlier, rfl⟩, List.singleton_inj.mp same⟩
    · exact .inl inside
  · rintro (inside | ⟨⟨earlier, rfl⟩, rfl⟩)
    · exact .inr inside
    · exact .inl (.inr ⟨[first], rfl, ⟨earlier, rfl⟩⟩)

/-- After every tick of a run the stored flags are the checker's, exactly if every tick that
directly follows a reload restores them. -/
theorem mirrored_after_ticks_iff (run : MainRun log state) :
    (∀ tick after, (MainEvent.tick tick, after) ∈ log → after.Mirrored) ↔
      ∀ reload middle tick after,
        [(MainEvent.reload reload, middle), (MainEvent.tick tick, after)] <:+: log →
          middle.Restores tick := by
  induction run with
  | startup loaded => simp
  | @step log before after event run step ih =>
    have split : (∀ tick reached, (MainEvent.tick tick, reached) ∈ log ++ [(event, after)] →
        reached.Mirrored) ↔
        (∀ tick reached, (MainEvent.tick tick, reached) ∈ log → reached.Mirrored) ∧
          ∀ tick, event = .tick tick → after.Mirrored := by
      constructor
      · intro all
        refine ⟨fun tick reached member => all tick reached (List.mem_append_left _ member), ?_⟩
        rintro tick rfl
        exact all tick after (List.mem_append_right _ List.mem_cons_self)
      · rintro ⟨earlier, last⟩ tick reached member
        rcases List.mem_append.mp member with member | member
        · exact earlier tick reached member
        · cases List.mem_singleton.mp member
          exact last tick rfl
    rw [split]
    constructor
    · rintro ⟨earlier, last⟩ reload middle tick reached adjacent
      rcases pair_infix_concat.mp adjacent with inside | ⟨⟨front, ended⟩, same⟩
      · exact ih.mp earlier reload middle tick reached inside
      · cases same
        obtain ⟨rfl, reloaded⟩ := (run.settled earlier).1 front reload middle ended
        cases step with
        | tick later done => exact (checkAndRebuild_of_reloaded done reloaded later).mp (last tick rfl)
    · intro restores
      have earlier := ih.mpr fun reload middle tick reached inside =>
        restores reload middle tick reached (pair_infix_concat.mpr (.inl inside))
      refine ⟨earlier, ?_⟩
      rintro tick rfl
      cases step with
      | tick later done =>
        obtain ⟨afterReload, otherwise⟩ := run.settled earlier
        by_cases ended : ∃ front reload middle, log = front ++ [(MainEvent.reload reload, middle)]
        · obtain ⟨front, reload, middle, ended⟩ := ended
          obtain ⟨rfl, reloaded⟩ := afterReload front reload middle ended
          apply (checkAndRebuild_of_reloaded done reloaded later).mpr
          exact restores reload middle tick after (pair_infix_concat.mpr (.inr ⟨⟨front, ended⟩, rfl⟩))
        · apply checkAndRebuild_of_consistent done
          apply otherwise
          intro front reload middle same
          exact ended ⟨front, reload, middle, same⟩

end Runs

/-- A network on which every probe has the same outcome. -/
def Prober.answering (outcome : Bool) : Prober where
  probeAll := fun addrs => addrs.dedup.map fun addr => (addr, outcome)
  once := by
    intro addrs
    simp [Function.comp_def, List.nodup_dedup]
  asked := by
    intro addrs probe member
    obtain ⟨addr, listed, rfl⟩ := List.mem_map.mp member
    exact List.mem_dedup.mp listed

namespace SampleReload

/-- One server with a configured MAC, so that no neighbour has to be resolved. -/
def entry : RawConfig where
  configId := 0
  firstOctetEncodesCidLength := false
  serverIdLength := 1
  nonceLength := 4
  key := none
  servers := [⟨"01", "10.0.0.1", some "02:00:00:00:00:0a", false⟩]
  maxKeyAgeSecs := none

def file : RouteFile := ⟨[entry], none⟩

/-- The table in the file, if it parses. -/
def parsed : Option ConfigTable :=
  match loadRouteConfig file (fun _ => none) 0 with
  | .ok (.ok table) => some table
  | _ => none

def table : ConfigTable := parsed.get (by decide +kernel)

/-- The sample's file is accepted. -/
theorem loaded : loadRouteConfig file (fun _ => none) 0 = .ok (.ok table) := by
  have some : parsed = some table := (Option.some_get _).symm
  unfold parsed at some
  split at some
  · next found => rw [found, Option.some.inj some]
  · cases some

def start : MainState := ⟨table, .new, 0⟩

def tick (outcome : Bool) (now : Instant) : Tick := ⟨fun _ => none, .answering outcome, now⟩

def reload (now : Instant) : Reload := ⟨file, fun _ => none, 0, now⟩

/-- The state after a tick. -/
def ticked (state : MainState) (outcome : Bool) (now : Instant) : MainState :=
  match state.checkAndRebuild (tick outcome now) with
  | .ok (after, _) => after
  | .error _ => state

/-- The state after a reload of the file. -/
def reread (state : MainState) (now : Instant) : MainState :=
  ⟨table.inheritAgesFrom state.routeConfig, state.health.resetBackoff now, now⟩

/-- A pass over the sample. -/
theorem tick_step {state : MainState} (outcome : Bool) {now : Instant} (later : state.clock ≤ now) :
    MainStep state (.tick (tick outcome now)) (ticked state outcome now) := by
  obtain ⟨after, rebuilt, done, -⟩ := checkAndRebuild_spec state (tick outcome now)
  have same : ticked state outcome now = after := by
    rw [ticked, done]
  rw [same]
  exact .tick later done

/-- A reload of the same file. -/
theorem reload_step {state : MainState} {now : Instant} (later : state.clock ≤ now) :
    MainStep state (.reload (reload now)) (reread state now) := by
  refine .reload later loaded ?_
  simp only [MainState.reloadConfig, reload, loaded, Checked.ok_bind]
  rfl

/-- One tick with the given outcome, a reload, and a tick that finds the server up. -/
def log (outcome : Bool) : List (MainEvent × MainState) :=
  let first := ticked start outcome 1
  let middle := reread first 2
  [(.tick (tick outcome 1), first), (.reload (reload 2), middle),
    (.tick (tick true 3), ticked middle true 3)]

/-- The three steps are a run. -/
theorem run (outcome : Bool) :
    MainRun (log outcome) (ticked (reread (ticked start outcome 1) 2) true 3) := by
  have first := MainRun.step (.startup loaded) (tick_step outcome (Nat.zero_le 1))
  have clock : (ticked start outcome 1).clock ≤ 2 := by
    cases outcome <;> decide +kernel
  have second := first.step (reload_step clock)
  exact second.step (tick_step true (by decide : 2 ≤ 3))

end SampleReload

open SampleReload in
/-- The server is up before the reload and after it, so no flag flips, the mirrored clone is
dropped, and the stored entry stays marked unhealthy. -/
theorem reload_leaves_server_unhealthy :
    ∃ log state tick, MainRun log state ∧ (MainEvent.tick tick, state) ∈ log ∧
      ¬ state.Mirrored := by
  refine ⟨_, _, tick true 3, run true, by simp [log], ?_⟩
  intro mirrored
  have stale : ∃ server ∈ (ticked (reread (ticked start true 1) 2) true 3).routeConfig.servers,
      server.healthy = false ∧
        (ticked (reread (ticked start true 1) 2) true 3).health.flag server.address = true := by
    decide +kernel
  obtain ⟨server, member, unhealthy, up⟩ := stale
  cases found : (ticked (reread (ticked start true 1) 2) true 3).health server.address with
  | none =>
    rw [HealthState.flag, found] at up
    cases up
  | some health =>
    rw [HealthState.flag_of_some found] at up
    have same := mirrored server member health found
    rw [unhealthy, up] at same
    cases same

open SampleReload in
/-- A server that was down before the reload is marked healthy by the tick that finds it up. -/
theorem mirrored_after_reload_of_down :
    MainRun (log false) (ticked (reread (ticked start false 1) 2) true 3) ∧
      ∀ tick after, (MainEvent.tick tick, after) ∈ log false → after.Mirrored := by
  refine ⟨run false, (mirrored_after_ticks_iff (run false)).mpr ?_⟩
  intro other middle second after adjacent
  have wasDown : ∀ server ∈ (reread (ticked start false 1) 2).routeConfig.servers,
      (reread (ticked start false 1) 2).health.flag server.address = false := by
    decide +kernel
  rcases pair_infix_concat.mp (show _ <:+: [_, _] ++ [_] from adjacent) with inside | ⟨⟨earlier, ended⟩, -⟩
  · rcases pair_infix_concat.mp (show _ <:+: [_] ++ [_] from inside) with inside | ⟨-, ended⟩
    · have short := inside.length_le
      simp at short
    · cases ended
  · obtain ⟨-, same⟩ := List.append_inj' (show [_] ++ [_] = earlier ++ [_] from ended) rfl
    cases same
    exact .inl wasDown

end Pesigitg
