import Pesigitg.Daemon.ConfigTable

/-!
# Backend health

The health checker keeps one record per backend address and copies its flag onto the
server entries of a config table. Probing itself is network traffic: a `Prober` answers
for a set of addresses, each at most once, and a lost probe task leaves its address out.

`ConfigTable.Consistent` is the relation between a table and the checker that routing relies
on: every entry has the flag of its address, and an address without a record counts
as unhealthy.
-/

namespace Pesigitg

open Base

/-- Consecutive probe failures before marking a server as down. -/
def failureThreshold : UInt32 := 3

/-- Probe cadence while a server is healthy. -/
def probeInterval : Nat := seconds 5

/-- Delays after a server is marked unhealthy, the last one a cap. -/
def backoffSchedule : List Nat := [seconds 10, seconds 30, seconds 60, seconds 300]

structure ServerHealth where
  consecutiveFailures : UInt32
  healthy : Bool
  nextProbeAt : Instant
  transitions : UInt32
  stateSince : Instant
  everHealthy : Bool
deriving DecidableEq, Repr

/-- The `state` map of the health checker. -/
abbrev HealthState := IpAddr → Option ServerHealth

/-- The QUIC probes: results for the addresses asked for, one each, in any order. -/
structure Prober where
  probeAll : List IpAddr → List (IpAddr × Bool)
  once : ∀ addrs, ((probeAll addrs).map Prod.fst).Nodup
  asked : ∀ addrs, ∀ probe ∈ probeAll addrs, probe.1 ∈ addrs

/-- The kernel neighbour table, or a failed query. -/
abbrev Neighbours := Option (IpAddr → Option Mac)

def backoffFor (failures : UInt32) : Nat :=
  if failures < failureThreshold then probeInterval
  else
    let index := (failures - failureThreshold).toNat
    backoffSchedule.get ⟨min index 3, Nat.lt_of_le_of_lt (Nat.min_le_right _ _) (by decide)⟩

namespace ServerHealth

/-- The record of an address seen for the first time. -/
def discovered (now : Instant) : ServerHealth where
  consecutiveFailures := 0
  healthy := false
  nextProbeAt := now
  transitions := 0
  stateSince := now
  everHealthy := false

/-- The body of the loop over probe results; the flag is whether the state flipped. -/
def recordProbe (health : ServerHealth) (ok : Bool) (now : Instant) : ServerHealth × Bool :=
  if ok then
    let health := { health with consecutiveFailures := 0, nextProbeAt := now + probeInterval }
    if health.healthy then (health, false)
    else
      -- The first success ever is warm-up, not a flap.
      ({ health with
          healthy := true
          stateSince := now
          transitions := if health.everHealthy then health.transitions + 1 else health.transitions
          everHealthy := true }, true)
  else
    let failures := health.consecutiveFailures + 1
    let health := { health with
      consecutiveFailures := failures
      nextProbeAt := now + backoffFor failures }
    if health.healthy ∧ failureThreshold ≤ failures then
      ({ health with healthy := false, stateSince := now, transitions := health.transitions + 1 },
        true)
    else (health, false)

/-- A probe outcome that changes the flag: a success of an unhealthy server, or the
failure that reaches the threshold of a healthy one. -/
def Flips (health : ServerHealth) (ok : Bool) : Prop :=
  if ok then health.healthy = false
  else health.healthy = true ∧ failureThreshold ≤ health.consecutiveFailures + 1

instance (health : ServerHealth) (ok : Bool) : Decidable (health.Flips ok) :=
  inferInstanceAs (Decidable (if ok then health.healthy = false
    else health.healthy = true ∧ failureThreshold ≤ health.consecutiveFailures + 1))

/-- An outcome that flips the flag is reported. -/
theorem recordProbe_of_flips {health : ServerHealth} {ok : Bool} (now : Instant)
    (flips : health.Flips ok) : (health.recordProbe ok now).2 = true := by
  cases ok with
  | true => simp_all [Flips, recordProbe]
  | false => simp_all [Flips, recordProbe]

/-- An outcome that does not flip the flag is not, and keeps it. -/
theorem recordProbe_of_not_flips {health : ServerHealth} {ok : Bool} (now : Instant)
    (stays : ¬ health.Flips ok) :
    (health.recordProbe ok now).2 = false ∧
      (health.recordProbe ok now).1.healthy = health.healthy := by
  cases ok with
  | true => simp_all [Flips, recordProbe]
  | false =>
    have notDown : ¬ (health.healthy = true ∧ failureThreshold ≤ health.consecutiveFailures + 1) := by
      simpa [Flips] using stays
    simp [recordProbe, notDown]

/-- A change is reported exactly if the flag flips. -/
theorem recordProbe_changed_iff (health : ServerHealth) (ok : Bool) (now : Instant) :
    (health.recordProbe ok now).2 = true ↔ health.Flips ok := by
  by_cases flips : health.Flips ok
  · simp [recordProbe_of_flips now flips, flips]
  · simp [(recordProbe_of_not_flips now flips).1, flips]

end ServerHealth

/-- Fill in missing MACs from a neighbour table. -/
def resolveMac (neighbours : Neighbours) (server : Server) : Server :=
  match neighbours, server.mac with
  | some table, none => { server with mac := table server.address }
  | _, _ => server

/-- `neigh::resolve_macs`. -/
def resolveMacs (neighbours : Neighbours) (servers : List Server) : List Server :=
  servers.map (resolveMac neighbours)

namespace ConfigTable

/-- A loop over `configs_mut` that rewrites each config's servers. -/
def updateServers (update : Fin 7 → List Server → List Server) (table : ConfigTable) :
    ConfigTable :=
  { table with
    slots := fun id => (table.slots id).map fun config =>
      { config with servers := update id config.servers } }

/-- The server entries of all active configs. -/
def servers (table : ConfigTable) : List Server := table.configs.flatMap RouteConfig.servers

/-- The distinct addresses of a table's servers. -/
def addresses (table : ConfigTable) : List IpAddr := (table.servers.map Server.address).dedup

end ConfigTable

namespace HealthState

/-- A checker that tracks nothing yet. -/
def new : HealthState := fun _ => none

/-- Make every tracked address due now. -/
def resetBackoff (state : HealthState) (now : Instant) : HealthState := fun addr =>
  (state addr).map fun health => { health with nextProbeAt := now }

/-- Drop the records of addresses not in `current`. -/
def evictRemoved (state : HealthState) (current : List IpAddr) : HealthState := fun addr =>
  if addr ∈ current then state addr else none

/-- Make sure every address has a record. -/
def discover (state : HealthState) (addrs : List IpAddr) (now : Instant) : HealthState := fun addr =>
  if addr ∈ addrs then some ((state addr).getD (.discovered now)) else state addr

/-- The records that a check works on: those of the table's addresses. -/
def tracked (state : HealthState) (table : ConfigTable) (now : Instant) : HealthState :=
  (state.evictRemoved table.addresses).discover table.addresses now

/-- The addresses whose next probe is due. -/
def due (state : HealthState) (table : ConfigTable) (now : Instant) : List IpAddr :=
  table.addresses.filter fun addr =>
    match state.tracked table now addr with
    | some health => health.nextProbeAt ≤ now
    | none => false

/-- The loop of `apply_probe_results` over the probe outcomes. -/
def recordProbes (now : Instant) :
    List (IpAddr × Bool) → HealthState → Bool → Checked (HealthState × Bool)
  | [], state, changed => pure (state, changed)
  | (addr, ok) :: rest, state, changed => do
    let health ← Checked.expect (state addr) "state missing for probed addr"
    let (health, flipped) := health.recordProbe ok now
    recordProbes now rest (Function.update state addr (some health)) (changed || flipped)

/-- Copy the record of a server's address onto the entry. -/
def mirrorServer (state : HealthState) (server : Server) : Server :=
  match state server.address with
  | some health =>
    { server with
      healthy := health.healthy
      transitions := health.transitions.toNat
      stateSince := some health.stateSince }
  | none => server

/-- The loop of `apply_probe_results` over the server entries. -/
def mirror (state : HealthState) (table : ConfigTable) : ConfigTable :=
  table.updateServers fun _ servers => servers.map state.mirrorServer

/-- `apply_probe_results`. -/
def applyProbeResults (state : HealthState) (probes : List (IpAddr × Bool)) (now : Instant)
    (table : ConfigTable) : Checked (HealthState × ConfigTable × Bool) := do
  let (state, changed) ← recordProbes now probes state false
  pure (state, state.mirror table, changed)

/-- `HealthChecker::check`. -/
def check (prober : Prober) (state : HealthState) (table : ConfigTable) (now : Instant) :
    Checked (HealthState × ConfigTable × Bool) :=
  let due := state.due table now
  if due.isEmpty then pure (state.tracked table now, table, false)
  else applyProbeResults (state.tracked table now) (prober.probeAll due) now table

/-- The flag the checker has for an address; one without a record counts as unhealthy. -/
def flag (state : HealthState) (addr : IpAddr) : Bool := (state addr).elim false ServerHealth.healthy

end HealthState

/-- Every server entry has the flag of its address. -/
def ConfigTable.Consistent (table : ConfigTable) (state : HealthState) : Prop :=
  ∀ server ∈ table.servers, server.healthy = state.flag server.address

section Tables

variable {table : ConfigTable}

/-- The servers of a table are those of its configs. -/
theorem ConfigTable.mem_servers {server : Server} :
    server ∈ table.servers ↔ ∃ id config, table.slots id = some config ∧ server ∈ config.servers := by
  simp only [servers, List.mem_flatMap, mem_configs]
  constructor
  · rintro ⟨config, ⟨id, filed⟩, member⟩
    exact ⟨id, config, filed, member⟩
  · rintro ⟨id, config, filed, member⟩
    exact ⟨config, ⟨id, filed⟩, member⟩

/-- The addresses of a table are those of its servers. -/
theorem ConfigTable.mem_addresses {addr : IpAddr} :
    addr ∈ table.addresses ↔ ∃ server ∈ table.servers, server.address = addr := by
  simp [addresses]

/-- The entries after a rewrite that treats each server by itself. -/
theorem ConfigTable.mem_updateServers {update : Fin 7 → Server → Server} {server : Server} :
    server ∈ (table.updateServers fun id => List.map (update id)).servers ↔
      ∃ id config original, table.slots id = some config ∧ original ∈ config.servers ∧
        server = update id original := by
  rw [mem_servers]
  constructor
  · rintro ⟨id, config, filed, member⟩
    simp only [updateServers, Option.map_eq_some_iff] at filed
    obtain ⟨old, stored, rfl⟩ := filed
    obtain ⟨original, originalMember, rfl⟩ := List.mem_map.mp member
    exact ⟨id, old, original, stored, originalMember, rfl⟩
  · rintro ⟨id, config, original, filed, member, rfl⟩
    exact ⟨id, { config with servers := config.servers.map (update id) },
      by simp [updateServers, filed], List.mem_map_of_mem member⟩

/-- Such a rewrite keeps the addresses if it keeps each server's. -/
theorem ConfigTable.addresses_updateServers {update : Fin 7 → Server → Server}
    (same : ∀ id server, (update id server).address = server.address) :
    (table.updateServers fun id => List.map (update id)).addresses = table.addresses := by
  have each : ∀ ids : List (Fin 7),
      ((ids.filterMap (table.updateServers fun id => List.map (update id)).slots).flatMap
        RouteConfig.servers).map Server.address =
      ((ids.filterMap table.slots).flatMap RouteConfig.servers).map Server.address := by
    intro ids
    induction ids with
    | nil => rfl
    | cons id rest ih =>
      cases stored : table.slots id with
      | none =>
        have empty : (table.updateServers fun id => List.map (update id)).slots id = none := by
          simp [updateServers, stored]
        rw [List.filterMap_cons_none empty, List.filterMap_cons_none stored]
        exact ih
      | some config =>
        have filled : (table.updateServers fun id => List.map (update id)).slots id =
            some { config with servers := config.servers.map (update id) } := by
          simp [updateServers, stored]
        rw [List.filterMap_cons_some filled, List.filterMap_cons_some stored, List.flatMap_cons,
          List.flatMap_cons, List.map_append, List.map_append, ih, List.map_map]
        congr 1
        apply List.map_congr_left
        intro server member
        exact same id server
  unfold addresses servers configs
  rw [each]

/-- Resolving a MAC keeps the address. -/
theorem resolveMac_address (neighbours : Neighbours) (server : Server) :
    (resolveMac neighbours server).address = server.address := by
  unfold resolveMac
  split <;> rfl

/-- Resolving a MAC keeps the health flag. -/
theorem resolveMac_healthy (neighbours : Neighbours) (server : Server) :
    (resolveMac neighbours server).healthy = server.healthy := by
  unfold resolveMac
  split <;> rfl

end Tables

namespace HealthState

variable {state : HealthState} {table : ConfigTable} {now : Instant}

/-- The flag of a known server is its record's. -/
@[simp] theorem flag_of_some {addr : IpAddr} {health : ServerHealth}
    (found : state addr = some health) : state.flag addr = health.healthy := by
  rw [flag, found]
  rfl

/-- A listed server has a record: the one it had, or a new one. -/
theorem tracked_of_mem {addr : IpAddr} (member : addr ∈ table.addresses) :
    state.tracked table now addr = some ((state addr).getD (.discovered now)) := by
  simp [tracked, discover, evictRemoved, member]

/-- Starting to track an address does not change its flag. -/
theorem flag_tracked {addr : IpAddr} (member : addr ∈ table.addresses) :
    (state.tracked table now).flag addr = state.flag addr := by
  rw [flag_of_some (tracked_of_mem member), flag]
  cases state addr <;> rfl

/-- A server that is due has a record. -/
theorem due_tracked {addr : IpAddr} (member : addr ∈ state.due table now) :
    ∃ health, state.tracked table now addr = some health := by
  exact ⟨_, tracked_of_mem (List.mem_of_mem_filter member)⟩

/-- An update of one record that keeps its flag keeps all flags. -/
theorem flag_update {addr : IpAddr} {health next : ServerHealth} (found : state addr = some health)
    (same : next.healthy = health.healthy) (other : IpAddr) :
    HealthState.flag (Function.update state addr (some next)) other = state.flag other := by
  by_cases this : other = addr
  · subst this
    rw [flag_of_some (Function.update_self ..), flag_of_some found, same]
  · simp only [flag, Function.update_of_ne this]

/-- Updating a record creates none. -/
theorem isSome_update {addr : IpAddr} {health next : ServerHealth} (found : state addr = some health)
    (other : IpAddr) :
    (Function.update state addr (some next) other).isSome = (state other).isSome := by
  by_cases this : other = addr
  · subst this
    simp [found]
  · rw [Function.update_of_ne this]

/-- Recording the outcomes of tracked addresses succeeds, keeps the tracked addresses,
and reports a change exactly when an outcome flips a flag; without a flip all flags stay. -/
theorem recordProbes_spec (state : HealthState) (now : Instant) {probes : List (IpAddr × Bool)}
    (changed : Bool)
    (once : (probes.map Prod.fst).Nodup)
    (known : ∀ probe ∈ probes, ∃ health, state probe.1 = some health) :
    ∃ after flipped, recordProbes now probes state changed = .ok (after, changed || flipped) ∧
      (∀ addr, (after addr).isSome = (state addr).isSome) ∧
      (flipped = true ↔ ∃ probe ∈ probes, ∃ health, state probe.1 = some health ∧
        health.Flips probe.2) ∧
      (flipped = false → ∀ addr, after.flag addr = state.flag addr) := by
  induction probes generalizing state changed with
  | nil => exact ⟨state, false, by simp [recordProbes], by simp, by simp, by simp⟩
  | cons probe rest ih =>
    obtain ⟨addr, ok⟩ := probe
    obtain ⟨health, found⟩ := known _ List.mem_cons_self
    simp only [List.map_cons, List.nodup_cons, List.mem_map] at once
    obtain ⟨fresh, restOnce⟩ := once
    obtain ⟨next, flip, step⟩ : ∃ next flip, health.recordProbe ok now = (next, flip) := ⟨_, _, rfl⟩
    have flipIff : flip = true ↔ health.Flips ok := by
      have changed := health.recordProbe_changed_iff ok now
      rwa [step] at changed
    -- The other addresses keep their records while this one is updated.
    have other : ∀ probe ∈ rest, Function.update state addr (some next) probe.1 = state probe.1 := by
      intro probe member
      apply Function.update_of_ne
      rintro rfl
      exact fresh ⟨probe, member, rfl⟩
    have restKnown : ∀ probe ∈ rest, ∃ health,
        Function.update state addr (some next) probe.1 = some health := by
      intro probe member
      rw [other probe member]
      exact known probe (List.mem_cons_of_mem _ member)
    obtain ⟨after, flipped, recorded, sameDomain, flippedIff, sameFlags⟩ :=
      ih _ (changed || flip) restOnce restKnown
    have restIff : (flipped = true ↔ ∃ probe ∈ rest, ∃ health, state probe.1 = some health ∧
        health.Flips probe.2) := by
      rw [flippedIff]
      constructor
      · rintro ⟨probe, member, record, stored, flips⟩
        exact ⟨probe, member, record, (other probe member).symm.trans stored, flips⟩
      · rintro ⟨probe, member, record, stored, flips⟩
        exact ⟨probe, member, record, (other probe member).trans stored, flips⟩
    refine ⟨after, flip || flipped, ?_, ?_, ?_, ?_⟩
    · simp only [recordProbes, found, Checked.expect_some, Checked.ok_bind, step]
      rw [recorded, Bool.or_assoc]
    · intro addr'
      rw [sameDomain addr', isSome_update found]
    · rw [Bool.or_eq_true, flipIff, restIff]
      constructor
      · rintro (flips | ⟨probe, member, record⟩)
        · exact ⟨(addr, ok), List.mem_cons_self, health, found, flips⟩
        · exact ⟨probe, List.mem_cons_of_mem _ member, record⟩
      · rintro ⟨probe, member, record, stored, flips⟩
        rcases List.mem_cons.mp member with rfl | member
        · rw [found] at stored
          cases stored
          exact .inl flips
        · exact .inr ⟨probe, member, record, stored, flips⟩
    · intro bothFalse
      obtain ⟨flipFalse, restFalse⟩ := Bool.or_eq_false_iff.mp bothFalse
      have stays : ¬ health.Flips ok := by
        rw [← flipIff, flipFalse]
        exact Bool.false_ne_true
      have sameHealthy : next.healthy = health.healthy := by
        have result := (ServerHealth.recordProbe_of_not_flips now stays).2
        rwa [step] at result
      intro addr'
      rw [sameFlags restFalse addr', flag_update found sameHealthy]

/-- Some outcome of the probes that are due now flips the flag of its address. -/
def Flipped (state : HealthState) (table : ConfigTable) (prober : Prober) (now : Instant) : Prop :=
  ∃ probe ∈ prober.probeAll (state.due table now), ∃ health,
    state.tracked table now probe.1 = some health ∧ health.Flips probe.2

/-- Mirroring the flag keeps the address. -/
theorem mirrorServer_address (server : Server) :
    (state.mirrorServer server).address = server.address := by
  unfold mirrorServer
  split <;> rfl

/-- A mirrored table is consistent if all its addresses are tracked. -/
theorem mirror_consistent (known : ∀ addr ∈ table.addresses, (state addr).isSome = true) :
    (state.mirror table).Consistent state := by
  intro server member
  obtain ⟨id, config, original, filed, originalMember, rfl⟩ :=
    ConfigTable.mem_updateServers.mp member
  have listed : original.address ∈ table.addresses :=
    ConfigTable.mem_addresses.mpr
      ⟨original, ConfigTable.mem_servers.mpr ⟨id, config, filed, originalMember⟩, rfl⟩
  obtain ⟨health, found⟩ := Option.isSome_iff_exists.mp (known _ listed)
  rw [mirrorServer_address, flag_of_some found]
  simp only [mirrorServer, found]

/-- What a check does: it tracks the table's addresses, reports the flips, and either
has nothing due and leaves the table alone or mirrors its records onto it. -/
theorem check_spec (prober : Prober) (state : HealthState) (table : ConfigTable) (now : Instant) :
    ∃ after table' changed, check prober state table now = .ok (after, table', changed) ∧
      (∀ addr ∈ table.addresses, (after addr).isSome = true) ∧
      (changed = true ↔ state.Flipped table prober now) ∧
      (changed = false → ∀ addr ∈ table.addresses, after.flag addr = state.flag addr) ∧
      (state.due table now = [] ∧ table' = table ∧ changed = false ∨
        state.due table now ≠ [] ∧ table' = after.mirror table) := by
  have allKnown : ∀ addr ∈ table.addresses, (state.tracked table now addr).isSome = true := by
    intro addr member
    rw [tracked_of_mem member]
    rfl
  by_cases nothing : state.due table now = []
  · refine ⟨state.tracked table now, table, false, ?_, allKnown, ?_, ?_, .inl ⟨nothing, rfl, rfl⟩⟩
    · simp [check, nothing]
    · constructor
      · intro impossible
        cases impossible
      · rintro ⟨probe, member, -⟩
        have asked := prober.asked _ probe member
        rw [nothing] at asked
        cases asked
    · intro _ addr member
      exact flag_tracked member
  · have known : ∀ probe ∈ prober.probeAll (state.due table now), ∃ health,
        state.tracked table now probe.1 = some health :=
      fun probe member => due_tracked (prober.asked _ probe member)
    obtain ⟨after, flipped, recorded, sameDomain, flippedIff, sameFlags⟩ :=
      recordProbes_spec (state.tracked table now) now false (prober.once _) known
    refine ⟨after, after.mirror table, flipped, ?_, ?_, flippedIff, ?_, .inr ⟨nothing, rfl⟩⟩
    · rw [check, if_neg (by simpa using nothing), applyProbeResults, recorded, Checked.ok_bind]
      rfl
    · intro addr member
      rw [sameDomain addr, allKnown addr member]
    · intro unchanged addr member
      rw [sameFlags unchanged addr, flag_tracked member]

end HealthState

end Pesigitg
