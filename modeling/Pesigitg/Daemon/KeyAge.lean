import Pesigitg.Base.Generations
import Pesigitg.Daemon.StatusApi

/-!
# Key age warnings

The daemon warns once about every key that has been in use for too long. A table is stamped when
it is parsed, and a reload carries the stamp of a key over if the key is still the same, so the
stamp names a generation: a stretch of tables that hold one key. `foldlM_checkAt` says what the
checks of a table do to each key on its own, and `KeyAgeState.enter_shows` that the daemon keeps
step with a `Watch` for each key.
-/

namespace Pesigitg

open Base

/-- The keys that have an age. -/
inductive KeyRef where
  | quicLb (slot : Fin 7)
  | retry
deriving DecidableEq, Repr

/-- A line the warner logs. -/
structure KeyAgeWarning where
  key : KeyRef
  age : Nat
  max : Nat
deriving DecidableEq, Repr

def KeyAgeWarning.message (warning : KeyAgeWarning) : String :=
  match warning.key with
  | .quicLb slot =>
    s!"QUIC-LB key for config_id={slot.val} is {warning.age}s old, exceeds max_key_age_secs={warning.max}s; rotate the key"
  | .retry =>
    s!"Retry token key is {warning.age}s old, exceeds retry.max_key_age_secs={warning.max}s; rotate retry.token_key"

/-- Which load time of each key has been warned about. -/
structure KeyAgeWarner where
  qlbWarnedFor : Fin 7 → Option Instant
  retryWarnedFor : Option Instant

namespace KeyAgeWarner

def new : KeyAgeWarner := ⟨fun _ => none, none⟩

/-- One pass of the loop over the configs, with the lines logged so far. -/
def checkConfig (table : ConfigTable) (now : Instant)
    (state : KeyAgeWarner × List KeyAgeWarning) (config : RouteConfig) :
    Checked (KeyAgeWarner × List KeyAgeWarning) :=
  match config.maxKeyAgeSecs with
  | none => pure state
  | some max =>
    match table.loadedAtOf config.configId with
    | none => pure state
    | some loaded =>
      let age := secsSince now loaded
      if age ≤ max then pure state
      else do
        let slot ← slotIndex config.configId
        if state.1.qlbWarnedFor slot = some loaded then pure state
        else
          let warned := Function.update state.1.qlbWarnedFor slot (some loaded)
          pure ({ state.1 with qlbWarnedFor := warned }, state.2 ++ [⟨.quicLb slot, age, max⟩])

/-- The check of the Retry key. -/
def checkRetry (table : ConfigTable) (now : Instant) (state : KeyAgeWarner × List KeyAgeWarning) :
    KeyAgeWarner × List KeyAgeWarning :=
  match table.retry with
  | none => state
  | some retry =>
    match retry.maxKeyAgeSecs with
    | none => state
    | some max =>
      let age := secsSince now retry.loadedAt
      if max.toNat < age ∧ state.1.retryWarnedFor ≠ some retry.loadedAt then
        ({ state.1 with retryWarnedFor := some retry.loadedAt },
          state.2 ++ [⟨.retry, age, max.toNat⟩])
      else state

/-- `KeyAgeWarner::check_at`. -/
def checkAt (table : ConfigTable) (now : Instant) (state : KeyAgeWarner × List KeyAgeWarning) :
    Checked (KeyAgeWarner × List KeyAgeWarning) := do
  let state ← table.configs.foldlM (checkConfig table now) state
  pure (checkRetry table now state)

end KeyAgeWarner

/-- What makes two keys the same. -/
inductive KeyMaterial where
  | cid (encryption : Encryption)
  | token (key : TokenKey)

def KeyMaterial.same : KeyMaterial → KeyMaterial → Bool
  | .cid new, .cid old => new.sameKey old
  | .token new, .token old => new == old
  | _, _ => false

/-- A key that a table holds, and the age it may reach. -/
structure HeldKey where
  material : KeyMaterial
  maxAge : Option Nat

namespace ConfigTable

def held (table : ConfigTable) : KeyRef → Option HeldKey
  | .quicLb slot => (table.slots slot).map fun config => ⟨.cid config.encryption, config.maxKeyAgeSecs⟩
  | .retry => table.retry.map fun retry =>
    ⟨.token retry.tokenKey, retry.maxKeyAgeSecs.map UInt64.toNat⟩

def heldSince (table : ConfigTable) : KeyRef → Option Instant
  | .quicLb slot => table.loadedAt slot
  | .retry => table.retry.map RetryConfig.loadedAt

/-- Both tables hold the key, and it is the same one. -/
def keeps (key : KeyRef) (old new : ConfigTable) : Bool :=
  match new.held key, old.held key with
  | some new, some old => new.material.same old.material
  | _, _ => false

/-- The warning about a key that has been held since some time, if it is due. -/
def overdue (table : ConfigTable) (key : KeyRef) (since now : Instant) : Option KeyAgeWarning :=
  match (table.held key).bind HeldKey.maxAge with
  | none => none
  | some max =>
    if secsSince now since ≤ max then none else some ⟨key, secsSince now since, max⟩

/-- What a check sees of one key: its generation and the warning that is due for it. -/
def sighting (table : ConfigTable) (key : KeyRef) (now : Instant) :
    Option (Instant × KeyAgeWarning) :=
  (table.heldSince key).bind fun since =>
    (table.overdue key since now).map fun warning => (since, warning)

variable {table previous : ConfigTable} {key : KeyRef}

/-- A key is seen to be overdue if it has a limit, a load time, and more seconds behind it. -/
theorem sighting_eq {held : HeldKey} {now : Instant} (found : table.held key = some held) :
    table.sighting key now = held.maxAge.bind fun max => (table.heldSince key).bind fun since =>
      if secsSince now since ≤ max then none else some (since, ⟨key, secsSince now since, max⟩) := by
  rw [sighting]
  cases table.heldSince key with
  | none =>
    cases held.maxAge with
    | none => rfl
    | some max => rfl
  | some since =>
    rw [Option.bind_some, overdue, found, Option.bind_some]
    cases held.maxAge with
    | none => rfl
    | some max =>
      simp only [Option.bind_some]
      split
      · rfl
      · rfl

/-- A key that is not there is not overdue. -/
theorem overdue_none {since now : Instant} (absent : table.held key = none) :
    table.overdue key since now = none := by
  rw [overdue, absent, Option.bind_none]

/-- Nor is it seen. -/
theorem sighting_none {now : Instant} (absent : table.held key = none) :
    table.sighting key now = none := by
  rw [sighting]
  cases table.heldSince key with
  | none => rfl
  | some since => rw [Option.bind_some, overdue_none absent, Option.map_none]

/-- A warning names the key it is about. -/
theorem sighting_key {now : Instant} {sighting : Instant × KeyAgeWarning}
    (seen : table.sighting key now = some sighting) : sighting.2.key = key := by
  cases found : table.held key with
  | none => rw [sighting_none found] at seen; cases seen
  | some held =>
    rw [sighting_eq found] at seen
    obtain ⟨max, -, seen⟩ := Option.bind_eq_some_iff.mp seen
    obtain ⟨since, -, seen⟩ := Option.bind_eq_some_iff.mp seen
    split at seen
    · cases seen
    · cases seen
      rfl

/-- Inheriting load times changes no key. -/
theorem held_inheritAgesFrom : (table.inheritAgesFrom previous).held key = table.held key := by
  cases key with
  | quicLb slot => rfl
  | retry =>
    simp only [held, inheritAgesFrom]
    cases table.retry with
    | none => rfl
    | some new =>
      cases previous.retry with
      | none => rfl
      | some old =>
        simp only [RetryConfig.inheritAgeFrom]
        split
        · rfl
        · rfl

/-- A reload carries the load time of a key over exactly if it keeps the key. -/
theorem heldSince_inheritAgesFrom :
    (table.inheritAgesFrom previous).heldSince key =
      if keeps key previous table then previous.heldSince key else table.heldSince key := by
  cases key with
  | quicLb slot =>
    cases new : table.slots slot with
    | none => simp [heldSince, inheritAgesFrom, keeps, held, new]
    | some config =>
      cases old : previous.slots slot with
      | none => simp [heldSince, inheritAgesFrom, keeps, held, new, old]
      | some before =>
        simp [heldSince, inheritAgesFrom, keeps, held, new, old, KeyMaterial.same]
  | retry =>
    cases new : table.retry with
    | none => simp [heldSince, inheritAgesFrom, keeps, held, new]
    | some config =>
      cases old : previous.retry with
      | none => simp [heldSince, inheritAgesFrom, keeps, held, new, old]
      | some before =>
        simp only [heldSince, inheritAgesFrom, keeps, held, new, old, Option.map_some,
          KeyMaterial.same, RetryConfig.inheritAgeFrom, beq_iff_eq]
        split
        · rfl
        · rfl

/-- A parsed table holds every key since it was parsed. -/
theorem heldSince_fromStr {raws : List RawConfig} {rawRetry : Option RawRetry} {now : Instant}
    (parsed : fromStr raws rawRetry now = .ok (.ok table)) :
    table.heldSince key = (table.held key).map fun _ => now := by
  cases key with
  | quicLb slot =>
    rw [heldSince, fromStr_loadedAt parsed, held, Option.map_map]
    rfl
  | retry =>
    have validated := fromStr_retry parsed
    rw [heldSince, held, Option.map_map]
    cases configured : table.retry with
    | none => rfl
    | some retry =>
      rw [configured] at validated
      cases validated with
      | some accepted =>
        obtain ⟨_, _, _, -, -, -, rfl⟩ := RetryConfig.validate_ok accepted
        rfl

/-- A key that is kept is there before and after. -/
theorem held_of_keeps (kept : keeps key previous table = true) :
    (previous.held key).isSome = true ∧ (table.held key).isSome = true := by
  unfold keeps at kept
  split at kept
  · next new old found foundOld => simp [found, foundOld]
  · cases kept

/-- An id below seven is a slot. -/
theorem slotIndex_eq {configId : UInt8} {slot : Fin 7} (named : configId.toNat = slot.val) :
    slotIndex configId = .ok slot := by
  rw [slotIndex, dif_pos (by omega)]
  exact congrArg _ (Fin.ext named)

/-- The load time of an id is that of its slot. -/
theorem loadedAtOf_eq {configId : UInt8} {slot : Fin 7} (named : configId.toNat = slot.val) :
    table.loadedAtOf configId = table.loadedAt slot := by
  rw [loadedAtOf, dif_pos (by omega)]
  exact congrArg _ (Fin.ext named)

end ConfigTable

namespace KeyAgeWarner

def warnedFor (warner : KeyAgeWarner) : KeyRef → Option Instant
  | .quicLb slot => warner.qlbWarnedFor slot
  | .retry => warner.retryWarnedFor

/-- Remember that a load time of a key has been warned about. -/
def mark (warner : KeyAgeWarner) (key : KeyRef) (loaded : Instant) : KeyAgeWarner :=
  match key with
  | .quicLb slot =>
    { warner with qlbWarnedFor := Function.update warner.qlbWarnedFor slot (some loaded) }
  | .retry => { warner with retryWarnedFor := some loaded }

/-- What the warner remembers and has logged about one key. -/
def alarmOf (key : KeyRef) (state : KeyAgeWarner × List KeyAgeWarning) :
    Alarm Instant KeyAgeWarning :=
  ⟨state.1.warnedFor key, state.2.filter fun warning => warning.key = key⟩

variable {table : ConfigTable} {now : Instant} {state : KeyAgeWarner × List KeyAgeWarning}

/-- Warn about a generation of a key, unless that is what the last warning was about. -/
def warn (key : KeyRef) (state : KeyAgeWarner × List KeyAgeWarning)
    (sighting : Instant × KeyAgeWarning) : KeyAgeWarner × List KeyAgeWarning :=
  if state.1.warnedFor key = some sighting.1 then state
  else (state.1.mark key sighting.1, state.2 ++ [sighting.2])

/-- Marking a key as warned about marks no other. -/
theorem warnedFor_mark (warner : KeyAgeWarner) (key other : KeyRef) (loaded : Instant) :
    (warner.mark key loaded).warnedFor other =
      if other = key then some loaded else warner.warnedFor other := by
  cases key with
  | quicLb slot =>
    cases other with
    | quicLb slot' => simp [mark, warnedFor, Function.update_apply]
    | retry => simp [mark, warnedFor]
  | retry =>
    cases other with
    | quicLb slot' => simp [mark, warnedFor]
    | retry => simp [mark, warnedFor]

/-- A key sees its own warnings only. -/
theorem alarmOf_warn {key : KeyRef} {sighting : Instant × KeyAgeWarning}
    (own : sighting.2.key = key) (other : KeyRef) :
    alarmOf other (warn key state sighting) =
      if other = key then (alarmOf other state).see sighting else alarmOf other state := by
  by_cases same : other = key
  · subst same
    rw [if_pos rfl, warn, Alarm.see]
    split
    · next warned => rw [if_pos (show (alarmOf other state).raisedFor = _ from warned)]
    · next fresh =>
      rw [if_neg (show (alarmOf other state).raisedFor ≠ _ from fresh)]
      simp [alarmOf, warnedFor_mark, own]
  · rw [if_neg same, warn]
    split
    · rfl
    · simp [alarmOf, warnedFor_mark, same, own, Ne.symm same]

/-- Look at one key of a table. -/
def lookAt (table : ConfigTable) (now : Instant) (state : KeyAgeWarner × List KeyAgeWarning)
    (key : KeyRef) : KeyAgeWarner × List KeyAgeWarning :=
  (table.sighting key now).elim state (warn key state)

/-- Checking a config is looking at its key. -/
theorem checkConfig_eq {config : RouteConfig} {slot : Fin 7}
    (filed : table.slots slot = some config) (named : config.configId.toNat = slot.val) :
    checkConfig table now state config = .ok (lookAt table now state (.quicLb slot)) := by
  have held : table.held (.quicLb slot) = some ⟨.cid config.encryption, config.maxKeyAgeSecs⟩ := by
    rw [ConfigTable.held, filed, Option.map_some]
  rw [checkConfig, ConfigTable.loadedAtOf_eq named, ConfigTable.slotIndex_eq named, lookAt,
    ConfigTable.sighting_eq held, ConfigTable.heldSince]
  cases config.maxKeyAgeSecs with
  | none => rfl
  | some max =>
    cases table.loadedAt slot with
    | none => rfl
    | some loaded =>
      by_cases young : secsSince now loaded ≤ max
      · simp only [young, if_true, Option.bind_some, Option.elim_none, Checked.pure_eq_ok]
      · by_cases warned : state.1.qlbWarnedFor slot = some loaded
        · simp [young, warned, warn, warnedFor]
        · simp [young, warned, warn, warnedFor, mark]

/-- Checking the Retry settings is looking at theirs. -/
theorem checkRetry_eq : checkRetry table now state = lookAt table now state .retry := by
  unfold checkRetry
  cases configured : table.retry with
  | none => simp [lookAt, ConfigTable.sighting, ConfigTable.heldSince, configured]
  | some retry =>
    have held : table.held .retry =
        some ⟨.token retry.tokenKey, retry.maxKeyAgeSecs.map UInt64.toNat⟩ := by
      rw [ConfigTable.held, configured, Option.map_some]
    rw [lookAt, ConfigTable.sighting_eq held, ConfigTable.heldSince, configured, Option.map_some]
    cases limit : retry.maxKeyAgeSecs with
    | none => simp [limit]
    | some max =>
      by_cases young : secsSince now retry.loadedAt ≤ max.toNat
      · simp [limit, young, Nat.not_lt.mpr young]
      · by_cases warned : state.1.retryWarnedFor = some retry.loadedAt
        · simp [limit, young, warned, warn, warnedFor]
        · simp [limit, young, Nat.not_le.mp young, warned, warn, warnedFor, mark]

/-- The keys in the order in which a check looks at them. -/
def keys : List KeyRef := (List.finRange 7).map .quicLb ++ [.retry]

/-- All keys are listed. -/
theorem mem_keys (key : KeyRef) : key ∈ keys := by
  cases key with
  | quicLb slot => simp [keys]
  | retry => simp [keys]

/-- None is listed twice. -/
theorem keys_nodup : keys.Nodup := by decide

/-- Checking the configs one by one is looking at their keys in turn. -/
theorem foldlM_checkConfig (placed : table.WellPlaced) (ids : List (Fin 7)) :
    (ids.filterMap table.slots).foldlM (checkConfig table now) state =
      .ok ((ids.map .quicLb).foldl (lookAt table now) state) := by
  induction ids generalizing state with
  | nil => rfl
  | cons id rest ih =>
    rw [List.map_cons, List.foldl_cons]
    cases filed : table.slots id with
    | none =>
      have unseen : table.sighting (.quicLb id) now = none :=
        ConfigTable.sighting_none (by rw [ConfigTable.held, filed, Option.map_none])
      rw [List.filterMap_cons_none filed, ih, lookAt, unseen, Option.elim_none]
    | some config =>
      rw [List.filterMap_cons_some filed, List.foldlM_cons,
        checkConfig_eq filed (placed id config filed).1, Checked.ok_bind, ih]

/-- A check of a table looks at one key after the other. -/
theorem checkAt_eq (placed : table.WellPlaced) :
    checkAt table now state = .ok (keys.foldl (lookAt table now) state) := by
  rw [checkAt, ConfigTable.configs, foldlM_checkConfig placed, Checked.ok_bind, checkRetry_eq,
    keys, List.foldl_append]
  rfl

/-- Looking at a key can only raise that key's alarm. -/
theorem alarmOf_lookAt (key other : KeyRef) :
    alarmOf other (lookAt table now state key) =
      if other = key then
        (table.sighting key now).elim (alarmOf other state) (alarmOf other state).see
      else alarmOf other state := by
  rw [lookAt]
  cases seen : table.sighting key now with
  | none => simp
  | some sighting =>
    have own : sighting.2.key = key := ConfigTable.sighting_key seen
    rw [Option.elim_some, Option.elim_some, alarmOf_warn own]

/-- One check lets every key see what is due for it. -/
theorem alarmOf_foldl_lookAt {keys : List KeyRef} (distinct : keys.Nodup) {key : KeyRef}
    (member : key ∈ keys) :
    alarmOf key (keys.foldl (lookAt table now) state) =
      (table.sighting key now).elim (alarmOf key state) (alarmOf key state).see := by
  have skipped (others : List KeyRef) (absent : key ∉ others) :
      ∀ before, alarmOf key (others.foldl (lookAt table now) before) = alarmOf key before := by
    induction others with
    | nil => exact fun _ => rfl
    | cons other rest ih =>
      intro before
      rw [List.mem_cons, not_or] at absent
      rw [List.foldl_cons, ih absent.2, alarmOf_lookAt, if_neg absent.1]
  induction keys generalizing state with
  | nil => cases member
  | cons first rest ih =>
    rw [List.nodup_cons] at distinct
    rw [List.foldl_cons]
    by_cases same : key = first
    · subst same
      rw [skipped rest distinct.1, alarmOf_lookAt, if_pos rfl]
    · have later : key ∈ rest := (List.mem_cons.mp member).resolve_left same
      rw [ih distinct.2 later, alarmOf_lookAt, if_neg same]

/-- The checks of one table raise each key's alarm as its own sightings do, whatever the other keys
are. -/
theorem foldlM_checkAt (placed : table.WellPlaced) (checks : List Instant)
    (state : KeyAgeWarner × List KeyAgeWarning) :
    ∃ next, checks.foldlM (fun state now => checkAt table now state) state = .ok next ∧ ∀ key,
      alarmOf key next =
        (checks.filterMap (table.sighting key)).foldl Alarm.see (alarmOf key state) := by
  induction checks generalizing state with
  | nil => exact ⟨state, rfl, fun _ => rfl⟩
  | cons now rest ih =>
    obtain ⟨next, checked, seen⟩ := ih (keys.foldl (lookAt table now) state)
    refine ⟨next, ?_, ?_⟩
    · rw [List.foldlM_cons, checkAt_eq placed, Checked.ok_bind, checked]
    · intro key
      rw [seen key, alarmOf_foldl_lookAt keys_nodup (mem_keys key)]
      cases sighted : table.sighting key now with
      | none => rw [List.filterMap_cons_none sighted, Option.elim_none]
      | some sighting => rw [List.filterMap_cons_some sighted, Option.elim_some, List.foldl_cons]

end KeyAgeWarner

/-- The time of a table as the live one: the file it is from and when that was parsed, and when
the warner looked at it. Start-up brings in the first table and each reload the next. -/
structure Tenure where
  raws : List RawConfig
  rawRetry : Option RawRetry
  parsedAt : Instant
  table : ConfigTable
  parsed : ConfigTable.fromStr raws rawRetry parsedAt = .ok (.ok table)
  checks : List Instant

/-- The live table, and the warner with what it has logged. -/
structure KeyAgeState where
  live : Option ConfigTable
  log : KeyAgeWarner × List KeyAgeWarning

namespace KeyAgeState

def start : KeyAgeState := ⟨none, KeyAgeWarner.new, []⟩

/-- A parsed table takes over from the live one and is checked until the next one does. -/
def enter (state : KeyAgeState) (tenure : Tenure) : Checked KeyAgeState := do
  let table :=
    match state.live with
    | none => tenure.table
    | some previous => tenure.table.inheritAgesFrom previous
  let log ← tenure.checks.foldlM (fun log now => KeyAgeWarner.checkAt table now log) state.log
  pure ⟨some table, log⟩

def run (tenures : List Tenure) : Checked KeyAgeState := tenures.foldlM enter start

end KeyAgeState

namespace Tenure

/-- The key is the same in both tables. -/
def keeps (key : KeyRef) (old new : Tenure) : Bool := ConfigTable.keeps key old.table new.table

/-- The checks of a table that find a key overdue. -/
def breaches (key : KeyRef) (since : Instant) (tenure : Tenure) : List KeyAgeWarning :=
  tenure.checks.filterMap (tenure.table.overdue key since)

/-- The watch of one key over a run. -/
def watch (key : KeyRef) (tenures : List Tenure) : Watch Tenure Instant KeyAgeWarning :=
  Watch.run (keeps key) parsedAt (breaches key) tenures

end Tenure

section Simulation

variable {table previous : ConfigTable} {key : KeyRef} {tenure : Tenure} {since : Instant}

/-- A live table has the keys of the parsed one, and one of them since the given time. -/
structure ConfigTable.Continues (key : KeyRef) (table : ConfigTable) (latest : Tenure × Instant) :
    Prop where
  slots : table.slots = latest.1.table.slots
  held : table.held key = latest.1.table.held key
  since : table.heldSince key = (table.held key).map fun _ => latest.2

/-- A table that continues a tenure is well placed. -/
theorem ConfigTable.Continues.wellPlaced (continues : table.Continues key (tenure, since)) :
    table.WellPlaced := by
  rw [WellPlaced, continues.slots]
  exact fromStr_wellPlaced tenure.parsed

/-- It sees a key as the tenure's table does, measured from the start of the generation. -/
theorem ConfigTable.Continues.sighting (continues : table.Continues key (tenure, since))
    (now : Instant) : table.sighting key now =
      (tenure.table.overdue key since now).map fun warning => (since, warning) := by
  have sameOverdue : table.overdue key since now = tenure.table.overdue key since now := by
    rw [overdue, overdue, continues.held]
  cases found : table.held key with
  | none => rw [sighting_none found, ← sameOverdue, overdue_none found, Option.map_none]
  | some held =>
    rw [ConfigTable.sighting, continues.since, found, Option.map_some, Option.bind_some, sameOverdue]

/-- The table of a tenure holds each key since the time a watch has for it. -/
theorem ConfigTable.continues_enter {live : Option ConfigTable}
    {latest : Option (Tenure × Instant)} (shown : Option.Rel (Continues key) live latest)
    (tenure : Tenure) :
    (match live with
      | none => tenure.table
      | some previous => tenure.table.inheritAgesFrom previous).Continues key
        (tenure, Watch.stampOf (Tenure.keeps key) Tenure.parsedAt latest tenure) := by
  cases shown with
  | none => exact ⟨rfl, rfl, heldSince_fromStr tenure.parsed⟩
  | @some previous latest continues =>
    refine ⟨rfl, held_inheritAgesFrom, ?_⟩
    have sameKeeps : keeps key previous tenure.table = Tenure.keeps key latest.1 tenure := by
      rw [Tenure.keeps, keeps, keeps, continues.held]
    rw [heldSince_inheritAgesFrom, held_inheritAgesFrom, sameKeeps, Watch.stampOf]
    cases kept : Tenure.keeps key latest.1 tenure with
    | false => exact heldSince_fromStr tenure.parsed
    | true =>
      obtain ⟨old, new⟩ := held_of_keeps (sameKeeps.trans kept)
      obtain ⟨oldKey, old⟩ := Option.isSome_iff_exists.mp old
      obtain ⟨newKey, new⟩ := Option.isSome_iff_exists.mp new
      rw [if_pos rfl, if_pos rfl, continues.since, old, new, Option.map_some, Option.map_some]

/-- The state of a run, seen from one key. -/
structure KeyAgeState.Shows (key : KeyRef) (state : KeyAgeState)
    (watch : Watch Tenure Instant KeyAgeWarning) : Prop where
  live : Option.Rel (ConfigTable.Continues key) state.live watch.latest
  alarm : KeyAgeWarner.alarmOf key state.log = watch.alarm

/-- A tenure lets the watch of every key enter it. -/
theorem KeyAgeState.enter_shows {state : KeyAgeState}
    {watches : KeyRef → Watch Tenure Instant KeyAgeWarning}
    (shows : ∀ key, state.Shows key (watches key)) (tenure : Tenure) :
    ∃ next, state.enter tenure = .ok next ∧ ∀ key, next.Shows key
      ((watches key).enter (Tenure.keeps key) Tenure.parsedAt (Tenure.breaches key) tenure) := by
  have continues (key : KeyRef) := ConfigTable.continues_enter (shows key).live tenure
  obtain ⟨log, checked, seen⟩ :=
    KeyAgeWarner.foldlM_checkAt (continues .retry).wellPlaced tenure.checks state.log
  refine ⟨_, by rw [enter, checked, Checked.ok_bind, Checked.pure_eq_ok], ?_⟩
  intro key
  refine ⟨.some (continues key), ?_⟩
  have sightings := funext (continues key).sighting
  rw [seen key, sightings, Watch.enter, Tenure.breaches, (shows key).alarm, List.map_filterMap]

/-- A whole run keeps step with the watch of each key. -/
theorem KeyAgeState.run_shows (tenures : List Tenure) :
    ∃ final, run tenures = .ok final ∧ ∀ key, final.Shows key (Tenure.watch key tenures) := by
  induction tenures using List.reverseRecOn with
  | nil =>
    refine ⟨start, rfl, ?_⟩
    intro key
    cases key with
    | quicLb slot => exact ⟨.none, rfl⟩
    | retry => exact ⟨.none, rfl⟩
  | append_singleton earlier tenure ih =>
    obtain ⟨state, reached, shows⟩ := ih
    obtain ⟨next, entered, shown⟩ := enter_shows shows tenure
    refine ⟨next, ?_, ?_⟩
    · rw [run, List.foldlM_append, ← run, reached, Checked.ok_bind, List.foldlM_cons, entered,
        Checked.ok_bind, List.foldlM_nil, Checked.pure_eq_ok]
    · intro key
      rw [Tenure.watch, Watch.run, List.foldl_append]
      exact shown key

end Simulation

namespace Tenure

def holds (key : KeyRef) (tenure : Tenure) : Bool := (tenure.table.held key).isSome

/-- The generations of a key: the maximal stretches of tables that hold it unchanged. -/
def generations (key : KeyRef) (tenures : List Tenure) : List (List Tenure) :=
  (tenures.splitBy (keeps key)).filter fun stretch => stretch.all (holds key)

/-- Some check of a generation saw the key older than the table at that time allows. -/
def breached (key : KeyRef) (stretch : List Tenure) : Bool :=
  stretch.head?.any fun first => stretch.any fun tenure => tenure.checks.any fun now =>
    ((tenure.table.held key).bind HeldKey.maxAge).any fun max => max < secsSince now first.parsedAt

/-- The warning about a generation: that of the first check that saw it too old. -/
def warning (key : KeyRef) (stretch : List Tenure) : Option KeyAgeWarning :=
  Watch.firstBreach parsedAt (breaches key) stretch

/-- When the key of the last table was loaded: when the first table of its generation was parsed. -/
def loadTime (key : KeyRef) (tenures : List Tenure) : Option Instant :=
  ((tenures.splitBy (keeps key)).getLast?.filter fun stretch => stretch.all (holds key)).bind
    fun stretch => stretch.head?.map parsedAt

variable {key : KeyRef} {tenures stretch : List Tenure}

/-- A key is overdue exactly if it has a limit and is past it. -/
theorem overdue_isSome {table : ConfigTable} {since now : Instant} :
    (table.overdue key since now).isSome =
      ((table.held key).bind HeldKey.maxAge).any fun max => max < secsSince now since := by
  rw [ConfigTable.overdue]
  cases (table.held key).bind HeldKey.maxAge with
  | none => rfl
  | some max =>
    simp only [Option.any_some]
    split
    · next young => simp [Nat.not_lt.mpr young]
    · next old => simp [Nat.not_le.mp old]

/-- A stretch has a warning exactly if it was breached. -/
theorem warning_isSome : (warning key stretch).isSome = breached key stretch := by
  rw [warning, Watch.firstBreach, breached]
  cases stretch.head? with
  | none => rfl
  | some first =>
    rw [Option.bind_some, Option.any_some, Bool.eq_iff_iff]
    simp only [Option.isSome_iff_ne_none, ne_eq, List.head?_eq_none_iff, List.flatMap_eq_nil_iff,
      breaches, List.filterMap_eq_nil_iff, List.any_eq_true, ← overdue_isSome, not_forall,
      exists_prop]

/-- Neighbours that keep a key both hold it. -/
theorem holds_of_isChain {first second : Tenure} {rest : List Tenure}
    (chain : (first :: second :: rest).IsChain fun old new => keeps key old new = true) :
    (first :: second :: rest).all (holds key) = true := by
  induction rest generalizing first second with
  | nil =>
    rw [List.isChain_cons_cons] at chain
    obtain ⟨old, new⟩ := ConfigTable.held_of_keeps chain.1
    simp [holds, old, new]
  | cons third rest ih =>
    rw [List.isChain_cons_cons] at chain
    obtain ⟨old, -⟩ := ConfigTable.held_of_keeps chain.1
    rw [List.all_cons, ih chain.2, holds, old, Bool.and_self]

/-- A stretch without the key is one table, and nothing is due in it. -/
theorem warning_of_lacks (member : stretch ∈ tenures.splitBy (keeps key))
    (lacks : stretch.all (holds key) = false) : warning key stretch = none := by
  have chain := List.isChain_of_mem_splitBy member
  match stretch with
  | [] => rfl
  | [first] =>
    have absent : first.table.held key = none := by simpa [holds] using lacks
    rw [← Option.not_isSome_iff_eq_none, warning_isSome]
    simp [breached, absent]
  | first :: second :: rest =>
    rw [holds_of_isChain chain] at lacks
    cases lacks

/-- A stretch holds the key if its last table does. -/
theorem all_holds {last : Tenure} (member : stretch ∈ tenures.splitBy (keeps key))
    (isLast : stretch.getLast? = some last) : stretch.all (holds key) = holds key last := by
  have chain := List.isChain_of_mem_splitBy member
  match stretch with
  | [] => cases isLast
  | [first] =>
    cases isLast
    simp
  | first :: second :: rest =>
    have all := holds_of_isChain chain
    rw [all, List.all_eq_true.mp all last (List.mem_of_getLast? isLast)]

/-- Stretches without the key have no warning, so that they may be left out. -/
theorem filterMap_generations :
    (generations key tenures).filterMap (warning key) =
      (tenures.splitBy (keeps key)).filterMap (warning key) := by
  rw [generations, List.filterMap_filter]
  apply List.filterMap_congr
  intro stretch member
  split
  · rfl
  · next lacks => exact (warning_of_lacks member (by simpa using lacks)).symm

end Tenure

/-- The live table's load time of a key is when its generation began. -/
theorem KeyAgeState.Shows.loadTime {key : KeyRef} {tenures : List Tenure} {state : KeyAgeState}
    (shows : state.Shows key (Tenure.watch key tenures))
    (distinct : (tenures.map Tenure.parsedAt).Nodup) {table : ConfigTable}
    (live : state.live = some table) : table.heldSince key = Tenure.loadTime key tenures := by
  have shown := shows.live
  rw [live] at shown
  by_cases empty : tenures = []
  · subst empty
    cases shown
  · obtain ⟨groups, group, first, last, current⟩ := Watch.run_current distinct empty
    rw [Tenure.watch, current.latest] at shown
    cases shown with
    | some continues =>
      have member : group ∈ tenures.splitBy (Tenure.keeps key) := by
        rw [current.split]
        simp
      rw [Tenure.loadTime, current.split, List.getLast?_concat, continues.since, continues.held,
        Option.filter_some, Tenure.all_holds member current.isLast, Tenure.holds]
      cases last.table.held key with
      | none => rfl
      | some held => simp [current.isFirst]

/-- One warning a generation. Whatever the sequence of reloads and checks, the load time of a key
is when the first table of its current generation was parsed, and the warnings about it are one
for every generation that a check saw too old, raised by the first such check. -/
theorem key_age_warned_once {tenures : List Tenure}
    (increasing : (tenures.map Tenure.parsedAt).Pairwise (· < ·)) :
    ∃ final, KeyAgeState.run tenures = .ok final ∧ ∀ key,
      (∀ table, final.live = some table → table.heldSince key = Tenure.loadTime key tenures) ∧
      (final.log.2.filter fun warning => warning.key = key) =
        (Tenure.generations key tenures).filterMap (Tenure.warning key) ∧
      (final.log.2.filter fun warning => warning.key = key).length =
        (Tenure.generations key tenures).countP (Tenure.breached key) := by
  obtain ⟨final, reached, shows⟩ := KeyAgeState.run_shows tenures
  have distinct : (tenures.map Tenure.parsedAt).Nodup := increasing.imp Nat.ne_of_lt
  have raised (key : KeyRef) : (final.log.2.filter fun warning => warning.key = key) =
      (Tenure.generations key tenures).filterMap (Tenure.warning key) := by
    have alarm := congrArg Alarm.raised (shows key).alarm
    rw [Tenure.filterMap_generations]
    exact alarm.trans (Watch.run_raised distinct)
  refine ⟨final, reached, ?_⟩
  intro key
  refine ⟨?_, raised key, ?_⟩
  · exact fun table live => (shows key).loadTime distinct live
  · rw [raised key, List.length_filterMap_eq_countP]
    simp only [Tenure.warning_isSome]

namespace SampleKeyAge

def entry (key : String) (maxAge : Nat) : RawConfig := ⟨6, false, 3, 13, some key, [], some maxAge⟩

def tenureOf (key : String) (maxAge : Nat) (parsedAt : Instant) (checks : List Instant) :
    Option Tenure :=
  match parsed : ConfigTable.fromStr [entry key maxAge] none parsedAt with
  | .ok (.ok table) => some ⟨_, _, _, table, parsed, checks⟩
  | _ => none

def firstKey : String := "000102030405060708090a0b0c0d0e0f"

def secondKey : String := "101112131415161718191a1b1c1d1e1f"

/-- Overdue after a minute, and then still live after a reload that only shortens the limit; the
key of a second reload is overdue after a minute as well. -/
def tenures : List Tenure :=
  [tenureOf firstKey 60 0 [seconds 61, seconds 62], tenureOf firstKey 30 (seconds 100) [seconds 130],
    tenureOf secondKey 60 (seconds 200) [seconds 250, seconds 265]].filterMap id

end SampleKeyAge

/-- Two keys, three tables and five checks: two warnings. -/
theorem sample_keys_warned_once :
    ∃ final, KeyAgeState.run SampleKeyAge.tenures = .ok final ∧
      (final.log.2.filter fun warning => warning.key = .quicLb (Fin.last 6)).map
          KeyAgeWarning.message =
        ["QUIC-LB key for config_id=6 is 61s old, exceeds max_key_age_secs=60s; rotate the key",
          "QUIC-LB key for config_id=6 is 65s old, exceeds max_key_age_secs=60s; rotate the key"] := by
  obtain ⟨final, reached, warned⟩ := key_age_warned_once
    (show (SampleKeyAge.tenures.map Tenure.parsedAt).Pairwise (· < ·) by decide +kernel)
  refine ⟨final, reached, ?_⟩
  rw [(warned _).2.1]
  decide +kernel

end Pesigitg
