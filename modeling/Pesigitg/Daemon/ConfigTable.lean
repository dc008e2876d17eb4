import Mathlib.Data.List.FinRange
import Mathlib.Logic.Function.Basic
import Pesigitg.Retry.Config
import Pesigitg.Routing.Cid

/-!
# The seven-slot config table

The daemon files each validated route under its config id and keeps the merged
server list for fallback hashing beside the slots. `ConfigTable.WellPlaced` is
what parsing establishes about the slots; replacing server entries without
touching their identity keeps it.
-/

namespace Pesigitg

open Base

/-- Bounds check of a slot index. -/
def slotIndex (configId : UInt8) : Checked (Fin 7) :=
  if inside : configId.toNat < 7 then .ok ⟨configId.toNat, inside⟩ else .error .index

/-- Up to seven simultaneous configurations. -/
structure ConfigTable where
  slots : Fin 7 → Option RouteConfig
  loadedAt : Fin 7 → Option Instant
  fallbackServers : List Server
  retry : Option RetryConfig

/-- The loop of `parse_routes`: validate each entry and reject a repeated id. -/
def parseRoutesLoop (seen : Fin 7 → Bool) :
    List RawConfig → Checked (Except RouteConfigError (List RouteConfig))
  | [] => pure (.ok [])
  | raw :: rest => do
    match ← RouteConfig.validate raw with
    | .error failure => pure (.error failure)
    | .ok config => do
      let id ← slotIndex config.configId
      if seen id then
        pure (.error (.validation s!"duplicate config_id {config.configId}"))
      else
        match ← parseRoutesLoop (Function.update seen id true) rest with
        | .error failure => pure (.error failure)
        | .ok configs => pure (.ok (config :: configs))

/-- `parse_routes` on the entries the TOML reader found. -/
def parseRoutes (raws : List RawConfig) : Checked (Except RouteConfigError (List RouteConfig)) :=
  if raws.isEmpty then pure (.error (.validation "no [[configs]] entries found"))
  else parseRoutesLoop (fun _ => false) raws

namespace ConfigTable

/-- File each config in its slot. -/
def place (now : Instant) : List RouteConfig → ConfigTable → Checked ConfigTable
  | [], table => pure table
  | config :: rest, table => do
    let id ← slotIndex config.configId
    place now rest { table with
      slots := Function.update table.slots id (some config)
      loadedAt := Function.update table.loadedAt id (some now) }

/-- The `[retry]` part of `fromStr`. -/
def validateRetry (raw : Option RawRetry) (now : Instant) :
    Checked (Except RouteConfigError (Option RetryConfig)) :=
  match raw with
  | none => pure (.ok none)
  | some raw => do
    match ← RetryConfig.validate raw now with
    | .error failure => pure (.error failure)
    | .ok retry => pure (.ok (some retry))

/-- `ConfigTable::from_str` on the two sections of the file. -/
def fromStr (raws : List RawConfig) (rawRetry : Option RawRetry) (now : Instant) :
    Checked (Except RouteConfigError ConfigTable) := do
  match ← parseRoutes raws with
  | .error failure => pure (.error failure)
  | .ok configs => do
    let table ← place now configs ⟨fun _ => none, fun _ => none, [], none⟩
    match ← validateRetry rawRetry now with
    | .error failure => pure (.error failure)
    | .ok retry => pure (.ok { table with retry := retry })

/-- Carry load times over for slots whose encryption key did not change. -/
def inheritAgesFrom (table previous : ConfigTable) : ConfigTable :=
  { table with
    loadedAt := fun id =>
      match table.slots id, previous.slots id with
      | some new, some old =>
        if new.encryption.sameKey old.encryption then previous.loadedAt id else table.loadedAt id
      | _, _ => table.loadedAt id
    retry :=
      match table.retry, previous.retry with
      | some new, some old => some (new.inheritAgeFrom old)
      | retry, _ => retry }

/-- Look up a config by id. -/
def get (table : ConfigTable) (configId : UInt8) : Option RouteConfig :=
  if inside : configId.toNat < 7 then table.slots ⟨configId.toNat, inside⟩ else none

/-- All active configs, in slot order. -/
def configs (table : ConfigTable) : List RouteConfig :=
  (List.finRange 7).filterMap table.slots

/-- CID length for raw DCID extraction: that of the first active config. -/
def fallbackCidLength (table : ConfigTable) : Option UInt8 :=
  table.configs.head?.map RouteConfig.cidLength

/-- Some server of some active config has no MAC. -/
def hasUnresolvedMacs (table : ConfigTable) : Bool :=
  table.configs.any fun config => config.servers.any fun server => server.mac.isNone

/-- One step of `rebuildFallbackServers`. -/
def pushFallback (merged : List Server) (server : Server) : List Server :=
  if server.healthy && server.mac.isSome && !server.draining &&
      !merged.any (fun other => other.address == server.address) then
    merged ++ [server]
  else merged

/-- Rebuild the merged fallback server list. -/
def rebuildFallbackServers (table : ConfigTable) : ConfigTable :=
  { table with
    fallbackServers := (table.configs.flatMap RouteConfig.servers).foldl pushFallback [] }

/-- Every populated slot holds an admitted config under its own id. -/
def WellPlaced (table : ConfigTable) : Prop :=
  ∀ id config, table.slots id = some config →
    config.configId.toNat = id.val ∧ config.Admitted

/-- A config that is found is in the slot of its id. -/
theorem get_eq_some {table : ConfigTable} {configId : UInt8} {config : RouteConfig}
    (found : table.get configId = some config) :
    ∃ inside : configId.toNat < 7, table.slots ⟨configId.toNat, inside⟩ = some config := by
  unfold get at found
  split at found
  · next inside => exact ⟨inside, found⟩
  · cases found

/-- The id of a filed config is not the reserved one. -/
theorem get_not_reserved {table : ConfigTable} {configId : UInt8} {config : RouteConfig}
    (found : table.get configId = some config) : configId ≠ 7 := by
  rintro rfl
  obtain ⟨inside, -⟩ := get_eq_some found
  exact absurd inside (by decide)

/-- A slot index that is in range is the id. -/
theorem slotIndex_ok {configId : UInt8} {id : Fin 7} (indexed : slotIndex configId = .ok id) :
    configId.toNat = id.val := by
  unfold slotIndex at indexed
  split at indexed
  · cases indexed
    rfl
  · cases indexed

/-- The configs of a table are those of its slots. -/
theorem mem_configs {table : ConfigTable} {config : RouteConfig} :
    config ∈ table.configs ↔ ∃ id, table.slots id = some config := by
  simp [configs]

/-- An accepted list starts with a valid entry in a slot of its own. -/
theorem parseRoutesLoop_cons_ok {seen : Fin 7 → Bool} {raw : RawConfig} {rest : List RawConfig}
    {loaded : List RouteConfig}
    (parsed : parseRoutesLoop seen (raw :: rest) = .ok (.ok loaded)) :
    ∃ config id remaining, loaded = config :: remaining ∧
      RouteConfig.validate raw = .ok (.ok config) ∧ slotIndex config.configId = .ok id ∧
      seen id = false ∧
      parseRoutesLoop (Function.update seen id true) rest = .ok (.ok remaining) := by
  simp only [parseRoutesLoop, Checked.bind_eq_ok_iff] at parsed
  obtain ⟨first, validated, parsed⟩ := parsed
  cases first with
  | error failure => simp at parsed
  | ok config =>
    simp only [Checked.bind_eq_ok_iff] at parsed
    obtain ⟨id, indexed, parsed⟩ := parsed
    split at parsed
    · simp at parsed
    · next unused =>
      rw [Checked.bind_eq_ok_iff] at parsed
      obtain ⟨others, tail, parsed⟩ := parsed
      cases others with
      | error failure => simp at parsed
      | ok remaining =>
        simp only [Checked.pure_eq_ok, Except.ok.injEq] at parsed
        exact ⟨config, id, remaining, parsed.symm, validated, indexed, by simpa using unused, tail⟩

/-- Every config of an accepted list passed validation. -/
theorem parseRoutesLoop_ok {seen : Fin 7 → Bool} {raws : List RawConfig}
    {loaded : List RouteConfig} (parsed : parseRoutesLoop seen raws = .ok (.ok loaded)) :
    ∀ config ∈ loaded, ∃ raw ∈ raws, RouteConfig.validate raw = .ok (.ok config) := by
  induction raws generalizing seen loaded with
  | nil =>
    cases parsed
    simp
  | cons raw rest ih =>
    obtain ⟨config, id, remaining, rfl, validated, -, -, tail⟩ := parseRoutesLoop_cons_ok parsed
    intro entry member
    rcases List.mem_cons.mp member with rfl | member
    · exact ⟨raw, List.mem_cons_self, validated⟩
    · obtain ⟨source, sourceMember, sourceValidated⟩ := ih tail entry member
      exact ⟨source, List.mem_cons_of_mem _ sourceMember, sourceValidated⟩

/-- An accepted list went through the loop. -/
theorem parseRoutes_ok {raws : List RawConfig} {loaded : List RouteConfig}
    (parsed : parseRoutes raws = .ok (.ok loaded)) :
    parseRoutesLoop (fun _ => false) raws = .ok (.ok loaded) := by
  unfold parseRoutes at parsed
  split at parsed
  · simp at parsed
  · exact parsed

/-- Accepted configs have slots of their own, none of them used before. -/
theorem parseRoutesLoop_distinct {seen : Fin 7 → Bool} {raws : List RawConfig}
    {loaded : List RouteConfig} (parsed : parseRoutesLoop seen raws = .ok (.ok loaded)) :
    (loaded.map RouteConfig.configId).Nodup ∧
      ∀ config ∈ loaded, ∃ id, slotIndex config.configId = .ok id ∧ seen id = false := by
  induction raws generalizing seen loaded with
  | nil =>
    cases parsed
    simp
  | cons raw rest ih =>
    obtain ⟨config, id, remaining, rfl, -, indexed, unused, tail⟩ := parseRoutesLoop_cons_ok parsed
    obtain ⟨distinct, free⟩ := ih tail
    constructor
    · rw [List.map_cons, List.nodup_cons]
      refine ⟨?_, distinct⟩
      intro repeated
      obtain ⟨other, member, same⟩ := List.mem_map.mp repeated
      obtain ⟨slot, otherIndexed, unmarked⟩ := free other member
      rw [same, indexed] at otherIndexed
      cases otherIndexed
      simp at unmarked
    · intro entry member
      rcases List.mem_cons.mp member with rfl | member
      · exact ⟨id, indexed, unused⟩
      · obtain ⟨slot, otherIndexed, unmarked⟩ := free entry member
        refine ⟨slot, otherIndexed, ?_⟩
        by_cases same : slot = id
        · subst same
          simp at unmarked
        · rwa [Function.update_of_ne same] at unmarked

/-- Filing puts each config under its own id, so a property of all loaded configs is one of
all filed ones. -/
theorem place_filed {now : Instant} {loaded : List RouteConfig} {table result : ConfigTable}
    {property : RouteConfig → Prop} (holds : ∀ config ∈ loaded, property config)
    (before : ∀ id config, table.slots id = some config →
      config.configId.toNat = id.val ∧ property config)
    (placed : place now loaded table = .ok result) :
    ∀ id config, result.slots id = some config →
      config.configId.toNat = id.val ∧ property config := by
  induction loaded generalizing table with
  | nil =>
    simp only [place, Checked.pure_eq_ok, Except.ok.injEq] at placed
    subst placed
    exact before
  | cons config rest ih =>
    simp only [place, Checked.bind_eq_ok_iff] at placed
    obtain ⟨id, indexed, placed⟩ := placed
    apply ih (fun entry member => holds entry (List.mem_cons_of_mem _ member)) ?_ placed
    intro slot entry filed
    by_cases same : slot = id
    · subst same
      simp only [Function.update_self, Option.some.injEq] at filed
      subst filed
      exact ⟨slotIndex_ok indexed, holds _ List.mem_cons_self⟩
    · simp only [Function.update_of_ne same] at filed
      exact before slot entry filed

/-- Filing configs with distinct ids keeps each of them. -/
theorem place_slots {now : Instant} {loaded : List RouteConfig} {table result : ConfigTable}
    (distinct : (loaded.map RouteConfig.configId).Nodup) (placed : place now loaded table = .ok result)
    (id : Fin 7) :
    result.slots id =
      (loaded.find? fun config => config.configId.toNat == id.val).or (table.slots id) := by
  induction loaded generalizing table with
  | nil =>
    simp only [place, Checked.pure_eq_ok, Except.ok.injEq] at placed
    subst placed
    rfl
  | cons config rest ih =>
    simp only [place, Checked.bind_eq_ok_iff] at placed
    obtain ⟨slot, indexed, placed⟩ := placed
    rw [List.map_cons, List.nodup_cons] at distinct
    obtain ⟨fresh, distinct⟩ := distinct
    rw [ih distinct placed]
    by_cases same : slot = id
    · subst same
      have own : (config.configId.toNat == slot.val) = true := by
        rw [slotIndex_ok indexed, beq_self_eq_true]
      have noOther : (rest.find? fun other => other.configId.toNat == slot.val) = none := by
        rw [List.find?_eq_none]
        intro other member claims
        apply fresh
        rw [beq_iff_eq, ← slotIndex_ok indexed] at claims
        exact List.mem_map.mpr ⟨other, member, UInt8.toNat_inj.mp claims⟩
      simp only [noOther, List.find?_cons, own, Function.update_self, Option.none_or,
        Option.some_or]
    · have other : (config.configId.toNat == id.val) = false := by
        rw [beq_eq_false_iff_ne, slotIndex_ok indexed]
        exact fun claims => same (Fin.ext claims)
      simp only [List.find?_cons, other, Function.update_of_ne (Ne.symm same)]

/-- Filing stamps the slots it fills, and no others. -/
theorem place_loadedAt {now : Instant} {loaded : List RouteConfig} {table result : ConfigTable}
    (stamped : ∀ id, table.loadedAt id = (table.slots id).map fun _ => now)
    (placed : place now loaded table = .ok result) :
    ∀ id, result.loadedAt id = (result.slots id).map fun _ => now := by
  induction loaded generalizing table with
  | nil =>
    simp only [place, Checked.pure_eq_ok, Except.ok.injEq] at placed
    subst placed
    exact stamped
  | cons config rest ih =>
    simp only [place, Checked.bind_eq_ok_iff] at placed
    obtain ⟨slot, -, placed⟩ := placed
    refine ih ?_ placed
    intro id
    by_cases same : id = slot
    · subst same
      simp
    · simp only [Function.update_of_ne same]
      exact stamped id

/-- The stages of an accepting `fromStr`. -/
theorem fromStr_ok {raws : List RawConfig} {rawRetry : Option RawRetry} {now : Instant}
    {table : ConfigTable} (parsed : fromStr raws rawRetry now = .ok (.ok table)) :
    ∃ loaded filed retry, parseRoutes raws = .ok (.ok loaded) ∧
      place now loaded ⟨fun _ => none, fun _ => none, [], none⟩ = .ok filed ∧
      validateRetry rawRetry now = .ok (.ok retry) ∧ table = { filed with retry := retry } := by
  simp only [fromStr, Checked.bind_eq_ok_iff] at parsed
  obtain ⟨routes, routesOk, parsed⟩ := parsed
  cases routes with
  | error failure => simp at parsed
  | ok loaded =>
    simp only [Checked.bind_eq_ok_iff] at parsed
    obtain ⟨filed, placed, retryResult, validated, parsed⟩ := parsed
    cases retryResult with
    | error failure => simp at parsed
    | ok retry =>
      simp only [Checked.pure_eq_ok, Except.ok.injEq] at parsed
      exact ⟨loaded, filed, retry, routesOk, placed, validated, parsed.symm⟩

/-- The Retry settings of a parsed table are the validated section of the file. -/
theorem fromStr_retry {raws : List RawConfig} {rawRetry : Option RawRetry} {now : Instant}
    {table : ConfigTable} (parsed : fromStr raws rawRetry now = .ok (.ok table)) :
    Option.Rel (fun raw retry => RetryConfig.validate raw now = .ok (.ok retry)) rawRetry
      table.retry := by
  obtain ⟨_, _, _, -, -, validated, rfl⟩ := fromStr_ok parsed
  cases rawRetry with
  | none =>
    simp only [validateRetry, Checked.pure_eq_ok, Except.ok.injEq] at validated
    subst validated
    exact .none
  | some raw =>
    rw [validateRetry, Checked.bind_eq_ok_iff] at validated
    obtain ⟨result, accepted, validated⟩ := validated
    cases result with
    | error failure => simp at validated
    | ok retry =>
      simp only [Checked.pure_eq_ok, Except.ok.injEq] at validated
      subst validated
      exact .some accepted

/-- A parsed table is stamped with the time it was parsed at. -/
theorem fromStr_loadedAt {raws : List RawConfig} {rawRetry : Option RawRetry} {now : Instant}
    {table : ConfigTable} (parsed : fromStr raws rawRetry now = .ok (.ok table)) (id : Fin 7) :
    table.loadedAt id = (table.slots id).map fun _ => now := by
  obtain ⟨_, _, _, -, placed, -, rfl⟩ := fromStr_ok parsed
  have stamped := place_loadedAt (fun _ => rfl) placed id
  exact stamped

/-- A search by id finds the one config that has it. -/
theorem find_configId {loaded : List RouteConfig} {config : RouteConfig} {id : Nat}
    (distinct : (loaded.map RouteConfig.configId).Nodup) (member : config ∈ loaded)
    (named : config.configId.toNat = id) :
    (loaded.find? fun config => config.configId.toNat == id) = some config := by
  cases found : loaded.find? fun config => config.configId.toNat == id with
  | none =>
    rw [List.find?_eq_none] at found
    exact absurd named (by simpa using found config member)
  | some other =>
    have sameName : other.configId.toNat = id := by simpa using List.find?_some found
    have same := List.inj_on_of_nodup_map distinct (List.mem_of_find?_eq_some found) member
      (UInt8.toNat_inj.mp (sameName.trans named.symm))
    rw [same]

/-- The table of a file and the list of its configs hold the same configs and answer every lookup
alike. -/
theorem fromStr_get {raws : List RawConfig} {rawRetry : Option RawRetry} {now : Instant}
    {table : ConfigTable} (parsed : fromStr raws rawRetry now = .ok (.ok table)) :
    ∃ loaded, parseRoutes raws = .ok (.ok loaded) ∧
      (∀ configId, table.get configId =
        loaded.find? fun config => config.configId == configId) ∧
      ∀ config, config ∈ table.configs ↔ config ∈ loaded := by
  obtain ⟨loaded, filed, retry, routes, placed, -, rfl⟩ := fromStr_ok parsed
  obtain ⟨distinct, indexed⟩ := parseRoutesLoop_distinct (parseRoutes_ok routes)
  have slots (id : Fin 7) : filed.slots id =
      loaded.find? fun config => config.configId.toNat == id.val := by
    rw [place_slots distinct placed, Option.or_none]
  refine ⟨loaded, routes, ?_, ?_⟩
  · intro configId
    have byNumber : (fun config : RouteConfig => config.configId == configId) =
        fun config => config.configId.toNat == configId.toNat := by
      funext config
      rw [Bool.eq_iff_iff, beq_iff_eq, beq_iff_eq, UInt8.toNat_inj]
    rw [get, byNumber]
    split
    · next inside => exact slots _
    · next outside =>
      symm
      rw [List.find?_eq_none]
      intro config member claims
      obtain ⟨id, filedAt, -⟩ := indexed config member
      rw [beq_iff_eq, slotIndex_ok filedAt] at claims
      exact outside (claims ▸ id.isLt)
  · intro config
    rw [mem_configs]
    constructor
    · rintro ⟨id, stored⟩
      exact List.mem_of_find?_eq_some ((slots id).symm.trans stored)
    · intro member
      obtain ⟨id, filedAt, -⟩ := indexed config member
      refine ⟨id, ?_⟩
      show filed.slots id = some config
      rw [slots]
      exact find_configId distinct member (slotIndex_ok filedAt)

/-- Every config of a parsed table is a validated entry of the file, filed under its id. -/
theorem fromStr_filed {raws : List RawConfig} {rawRetry : Option RawRetry} {now : Instant}
    {table : ConfigTable} (parsed : fromStr raws rawRetry now = .ok (.ok table)) :
    ∀ id config, table.slots id = some config → config.configId.toNat = id.val ∧
      ∃ raw ∈ raws, RouteConfig.validate raw = .ok (.ok config) := by
  obtain ⟨loaded, filed, retry, routes, placed, -, rfl⟩ := fromStr_ok parsed
  have placedAll := place_filed (parseRoutesLoop_ok (parseRoutes_ok routes))
    (by intro id config stored; cases stored) placed
  exact placedAll

/-- A parsed table is well placed. -/
theorem fromStr_wellPlaced {raws : List RawConfig} {rawRetry : Option RawRetry} {now : Instant}
    {table : ConfigTable} (parsed : fromStr raws rawRetry now = .ok (.ok table)) :
    table.WellPlaced := by
  intro id config filed
  obtain ⟨placed, raw, -, validated⟩ := fromStr_filed parsed id config filed
  exact ⟨placed, RouteConfig.validate_admits validated⟩

/-- A parsed table holds no server that a probe has marked healthy. -/
theorem fromStr_fresh {raws : List RawConfig} {rawRetry : Option RawRetry} {now : Instant}
    {table : ConfigTable} (parsed : fromStr raws rawRetry now = .ok (.ok table)) {id : Fin 7}
    {config : RouteConfig} (filed : table.slots id = some config) :
    ∀ server ∈ config.servers, server.Fresh := by
  obtain ⟨-, raw, -, validated⟩ := fromStr_filed parsed id config filed
  exact RouteConfig.validate_fresh validated

end ConfigTable

/-- Look up the config for a QUIC packet by its CID's first octet. -/
def lookupConfig (quic : Bytes) (table : ConfigTable) : Checked (Option (Bytes × RouteConfig)) := do
  match ← firstCidOctet quic with
  | none => pure none
  | some firstOctet =>
    let configId := firstOctet >>> 5
    if configId = 7 then pure none
    else
      match table.get configId with
      | none => pure none
      | some config => do
        match ← extractRawDcid quic config.cidLength with
        | none => pure none
        | some dcid => pure (some (dcid, config))

end Pesigitg
