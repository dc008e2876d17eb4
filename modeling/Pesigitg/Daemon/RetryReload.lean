import Pesigitg.Daemon.FrameBuild
import Pesigitg.Daemon.MainLoop
import Pesigitg.Retry.Amplification
import Pesigitg.Retry.PanicFree

/-!
# Retry decisions across a reload

A reload validates the `[retry]` section anew, and of the settings in use it only keeps the load
time of the key. The load tracker starts from zero, while the clone of the periodic rebuild
shares it. So with an unchanged section a reload changes what happens to an Initial exactly if
load mode had its trigger reached: the service stops answering until a window of the new tracker
is complete.
-/

namespace Pesigitg

open Base Quic

/-- Settings in use: those of a section, with the batches recorded on their tracker since, and a
load time that earlier reloads may have carried over. -/
def RetryConfig.InUse (retry : RetryConfig) (raw : RawRetry) : Prop :=
  ∃ validated parsedAt age, ∃ batches : List (UInt64 × UInt64),
    validate raw parsedAt = .ok (.ok validated) ∧
    retry = { validated with
      loadTracker := validated.loadTracker.map fun tracker =>
        batches.foldl (fun tracker batch => tracker.recordBatch batch.1 batch.2) tracker
      loadedAt := age }

/-- Load mode has its trigger reached. -/
def RetryConfig.Engaged (retry : RetryConfig) : Prop :=
  retry.enabled = true ∧ retry.mode = .load ∧ retry.Answering

/-- What becomes of a frame: the outcome and the bytes it leaves with. -/
def decisionOf (result : Checked ((Outcome × Detail) × FrameView × UInt64)) :
    Checked (Outcome × Bytes) :=
  result.map fun handled => (handled.1.1, handled.2.1.contents)

/-- The settings of a section, whatever their tracker and load time. -/
structure RetryConfig.SameSettings (retry' retry : RetryConfig) : Prop where
  enabled : retry'.enabled = retry.enabled
  tokenKey : retry'.tokenKey = retry.tokenKey
  tokenLifetimeMs : retry'.tokenLifetimeMs = retry.tokenLifetimeMs
  mode : retry'.mode = retry.mode
  ports : retry'.ports = retry.ports
  loadTriggerRate : retry'.loadTriggerRate = retry.loadTriggerRate

/-- The same settings, with a tracker that has not seen anything in load mode. -/
structure RetryConfig.Restarted (retry' retry : RetryConfig) : Prop extends
    RetryConfig.SameSettings retry' retry where
  tracker : retry.mode = .load → retry'.loadTracker = some LoadRateTracker.new
  armed : retry.mode = .load → ∃ tracker trigger, retry.loadTracker = some tracker ∧
    retry.loadTriggerRate = some trigger ∧ trigger ≠ 0

section Congruence

variable {crypto : RetryCrypto} {retry retry' : RetryConfig} {nowMs pending : UInt64}

/-- The decision on an Initial reads the tracker in load mode only. -/
theorem classify_congr {initial : Initial} {srcIp : IpAddr} (same : retry'.SameSettings retry)
    (triggered : retry.mode = .load → loadOverTrigger retry' pending = loadOverTrigger retry pending) :
    classify crypto initial srcIp retry' nowMs pending =
      classify crypto initial srcIp retry nowMs pending := by
  have gated : loadGatedDecision retry' pending = loadGatedDecision retry pending := by
    rw [loadGatedDecision, loadGatedDecision, same.mode]
    cases mode : retry.mode with
    | always => rfl
    | observe => rfl
    | load => simp only [triggered mode]
  have tokenless : classifyTokenless retry' pending = classifyTokenless retry pending := by
    rw [classifyTokenless, classifyTokenless, same.mode]
    cases mode : retry.mode with
    | always => rfl
    | observe => rfl
    | load => simp only [triggered mode]
  simp only [classify, gated, tokenless, same.tokenKey, same.tokenLifetimeMs]

/-- A reply depends on the settings only, not on the tracker. -/
theorem emit_congr {view : FrameView} {layout : FrameLayout} {version : UInt32} {odcid scid : Bytes}
    {localMac : Mac} (same : retry'.SameSettings retry) :
    emit crypto view layout version odcid scid retry' localMac nowMs =
      emit crypto view layout version odcid scid retry localMac nowMs := by
  rw [emit, emit, same.tokenKey]

/-- The Retry path does the same under equal settings, as long as the load is judged alike. -/
theorem tryHandle_congr {view : FrameView} {parsed : ParsedFrame} {table table' : ConfigTable}
    {localMac : Mac} (configured : table.retry = some retry)
    (configured' : table'.retry = some retry') (same : retry'.SameSettings retry)
    (triggered : retry.enabled = true → retry.mode = .load →
      loadOverTrigger retry' pending = loadOverTrigger retry pending) :
    tryHandle crypto view parsed table' localMac nowMs pending =
      tryHandle crypto view parsed table localMac nowMs pending := by
  rw [tryHandle, tryHandle, configured, configured']
  simp only [same.enabled, same.ports]
  by_cases enabled : retry.enabled = true
  · have handled (layout : FrameLayout) (initial : Initial) :
        handleInitial crypto view layout retry' localMac nowMs pending initial =
          handleInitial crypto view layout retry localMac nowMs pending initial := by
      simp only [handleInitial, classify_congr same (triggered enabled), emit_congr same]
    simp only [handled]
  · rw [if_pos enabled, if_pos enabled]

end Congruence

namespace Probe

def eth : EthHeader := ⟨SampleRetry.localMac, macOctets 2 0 0 0 0 7⟩

def ip : Ipv4Header where
  ihl := 5
  ihl_ge := le_rfl
  ihl_le := by decide
  head := ⟨[0, 0, 37, 0, 0, 0x40, 0, 64], rfl⟩
  checksum := ⟨toBe 2 0, rfl⟩
  src := SampleRetry.client
  dst := SampleRetry.server
  options := ⟨[], rfl⟩

def udp (port : UInt16) : UdpHeader := ⟨40000, port, ⟨[0, 17, 0, 0], rfl⟩⟩

/-- The shortest Initial, to a given port. -/
def frame (port : UInt16) : Bytes :=
  ipv4Head eth ip ++ ((udp port).bytes ++ SmallInitial.quic)

/-- Its chunk has room for any Retry. -/
def view (port : UInt16) : FrameView :=
  ⟨frame port ++ List.replicate 149 0, (frame port).length, by simp⟩

def parsed (port : UInt16) : ParsedFrame :=
  builtLayout eth (udp port) .ipv4 (ip.bytes ipprotoUdp) (ipv4Head eth ip) (.v4 ip.src) (.v4 ip.dst)

def initial : Initial := ⟨0xc0, 1, [], [], [], 0, 9⟩

/-- The sample's view holds its frame. -/
theorem contents_eq (port : UInt16) : (view port).contents = frame port := by
  simp [FrameView.contents, view]

/-- It carries an Initial. -/
theorem carries (port : UInt16) : CarriesInitial (view port) (parsed port) initial := by
  refine ⟨?_, _, _, _, _, rfl, ?_⟩
  · rw [contents_eq]
    exact parseFrame_eq_some_iff.mpr (layout_build_ipv4 eth (udp port) SmallInitial.quic ip)
  · rw [contents_eq, frame, ← List.append_assoc, List.drop_left]
    decide +kernel

/-- Its port is one that Retry is configured for. -/
theorem inScope {retry : RetryConfig} {port : UInt16}
    (listed : retry.ports = [] ∨ port ∈ retry.ports) : InScope retry (parsed port) := by
  refine ⟨nofun, ?_⟩
  intro udpOffset quicOffset srcPort dstPort l4
  obtain ⟨-, -, -, rfl⟩ := L4.udp.inj l4
  exact listed

variable {table : ConfigTable} {retry : RetryConfig} {port : UInt16} {tracker : LoadRateTracker}
  {trigger : UInt64}

/-- In load mode an Initial without a token is answered exactly if the last rate reaches the
trigger. -/
theorem classify_eq (mode : retry.mode = .load) (tracked : retry.loadTracker = some tracker)
    (triggerSet : retry.loadTriggerRate = some trigger) (crypto : RetryCrypto) (srcIp : IpAddr)
    (nowMs pending : UInt64) :
    classify crypto initial srcIp retry nowMs pending =
      .ok (if trigger ≤ tracker.rate then (.emit, .issued) else (.skip, .observed), pending + 1) := by
  have empty : ¬ initial.token.length = tokenLen := by decide
  rw [classify, if_neg empty, classifyTokenless, mode]
  simp only [loadOverTrigger, tracked, triggerSet, Checked.expect, Checked.ok_bind,
    Checked.pure_eq_ok, decide_eq_true_eq]

/-- In load mode the probe is answered exactly if the trigger is reached. -/
theorem handled (configured : table.retry = some retry) (enabled : retry.enabled = true)
    (mode : retry.mode = .load) (listed : retry.ports = [] ∨ port ∈ retry.ports)
    (tracked : retry.loadTracker = some tracker) (triggerSet : retry.loadTriggerRate = some trigger)
    (crypto : RetryCrypto) (localMac : Mac) (nowMs pending : UInt64) :
    ∃ outcome detail after pending',
      tryHandle crypto (view port) (parsed port) table localMac nowMs pending =
        .ok ((outcome, detail), after, pending') ∧
      (outcome = .emitted ↔ trigger ≤ tracker.rate) := by
  have offered : Offered table (view port) (parsed port) retry initial :=
    ⟨configured, enabled, carries port, inScope listed⟩
  obtain ⟨layout, promoted, handled⟩ := tryHandle_offered offered crypto localMac nowMs pending
  have sound := fromParsed_sound (parseFrame_eq_some_iff.mp (carries port).parse) promoted
  have formed : initial.WellFormed := ⟨.inl rfl, by decide, by decide⟩
  have classified := classify_eq mode tracked triggerSet crypto layout.srcIp nowMs pending
  rw [handled]
  by_cases reached : trigger ≤ tracker.rate
  · rw [if_pos reached] at classified
    obtain ⟨after, emitted⟩ : ∃ after, emit crypto (view port) layout initial.version initial.dcid
        initial.scid retry localMac nowMs = .ok (.emitted, after) :=
      emit_of_room sound formed.version_known formed.dcid_le formed.scid_le (by
        simp [FrameView.capacity, view])
    rw [handleInitial_eq formed classified]
    simp only [emitted, Checked.ok_bind]
    exact ⟨_, _, _, _, rfl, by simp [reached]⟩
  · rw [if_neg reached] at classified
    rw [handleInitial_eq formed classified]
    exact ⟨_, _, _, _, rfl, by simp [reached]⟩

end Probe

/-- Where Initials are answered, the rate has reached the trigger. -/
theorem RetryConfig.Answering.reached {retry : RetryConfig} {tracker : LoadRateTracker}
    {trigger : UInt64} (answering : retry.Answering) (mode : retry.mode = .load)
    (tracked : retry.loadTracker = some tracker) (triggerSet : retry.loadTriggerRate = some trigger) :
    trigger ≤ tracker.rate := by
  rcases answering with always | ⟨-, tracker', trigger', tracked', triggerSet', reached⟩
  · rw [mode] at always
    cases always
  · rw [Option.some.inj (tracked.symm.trans tracked'),
      Option.some.inj (triggerSet.symm.trans triggerSet')]
    exact reached

section Restarts

variable {retry retry' : RetryConfig} {table table' : ConfigTable}

/-- Below the trigger, a new tracker makes no difference. -/
theorem RetryConfig.Restarted.loadOverTrigger_eq (restarted : retry'.Restarted retry)
    (idle : ¬ retry.Engaged) (enabled : retry.enabled = true) (mode : retry.mode = .load)
    (pending : UInt64) : loadOverTrigger retry' pending = loadOverTrigger retry pending := by
  obtain ⟨tracker, trigger, tracked, triggerSet, positive⟩ := restarted.armed mode
  have below : ¬ trigger ≤ tracker.rate := fun reached =>
    idle ⟨enabled, mode, .inr ⟨mode, tracker, trigger, tracked, triggerSet, reached⟩⟩
  have zero : ¬ trigger ≤ LoadRateTracker.new.rate := fun reached =>
    positive (UInt64.le_zero_iff.mp reached)
  rw [loadOverTrigger, loadOverTrigger, restarted.tracker mode, restarted.loadTriggerRate, tracked,
    triggerSet]
  simp only [Checked.expect, Checked.ok_bind, Checked.pure_eq_ok, below, zero]

/-- With the trigger reached, some frame is answered before the restart and not after it. -/
theorem RetryConfig.Restarted.probe_differs (restarted : retry'.Restarted retry)
    (engaged : retry.Engaged) (configured : table.retry = some retry)
    (configured' : table'.retry = some retry') (crypto : RetryCrypto) (localMac : Mac)
    (nowMs pending : UInt64) :
    ∃ port, decisionOf (tryHandle crypto (Probe.view port) (Probe.parsed port) table' localMac nowMs
        pending) ≠
      decisionOf (tryHandle crypto (Probe.view port) (Probe.parsed port) table localMac nowMs
        pending) := by
  obtain ⟨enabled, mode, answering⟩ := engaged
  obtain ⟨tracker, trigger, tracked, triggerSet, positive⟩ := restarted.armed mode
  have reached := answering.reached mode tracked triggerSet
  obtain ⟨port, listed⟩ : ∃ port, retry.ports = [] ∨ port ∈ retry.ports := by
    cases retry.ports with
    | nil => exact ⟨0, .inl rfl⟩
    | cons port rest => exact ⟨port, .inr List.mem_cons_self⟩
  have listed' : retry'.ports = [] ∨ port ∈ retry'.ports := by
    rw [restarted.ports]
    exact listed
  obtain ⟨outcome, _, _, _, handled, answered⟩ := Probe.handled configured enabled mode listed
    tracked triggerSet crypto localMac nowMs pending
  obtain ⟨outcome', _, _, _, handled', answered'⟩ := Probe.handled configured'
    (restarted.enabled.trans enabled) (restarted.mode.trans mode) listed' (restarted.tracker mode)
    (restarted.loadTriggerRate.trans triggerSet) crypto localMac nowMs pending
  refine ⟨port, fun decisions => ?_⟩
  rw [handled, handled'] at decisions
  have outcomes : outcome' = outcome := congrArg Prod.fst (Except.ok.inj decisions)
  have still := answered'.mp (outcomes.trans (answered.mpr reached))
  exact positive (UInt64.le_zero_iff.mp still)

end Restarts

section Reloads

variable {retry validated : RetryConfig} {raw : RawRetry}

/-- The settings a reload stores for an unchanged section: those in use, with a new tracker. -/
theorem inUse_restarted {now : Instant} (inUse : retry.InUse raw)
    (accepted : RetryConfig.validate raw now = .ok (.ok validated)) :
    (validated.inheritAgeFrom retry).Restarted retry := by
  obtain ⟨earlier, parsedAt, age, batches, acceptedBefore, rfl⟩ := inUse
  obtain ⟨mode, tokenKey, rate, modeOk, keyOk, rateOk, rfl⟩ := RetryConfig.validate_ok accepted
  obtain ⟨mode', tokenKey', rate', modeOk', keyOk', rateOk', rfl⟩ :=
    RetryConfig.validate_ok acceptedBefore
  obtain rfl : mode = mode' := Except.ok.inj (modeOk.symm.trans modeOk')
  obtain rfl : tokenKey = tokenKey' := Except.ok.inj (Except.ok.inj (keyOk.symm.trans keyOk'))
  obtain rfl : rate = rate' := Except.ok.inj (rateOk.symm.trans rateOk')
  rw [RetryConfig.inheritAgeFrom, if_pos rfl]
  refine ⟨⟨rfl, rfl, rfl, rfl, rfl, rfl⟩, ?_, ?_⟩
  · intro load
    simp only at load
    rw [load, if_pos rfl]
  · intro load
    simp only at load
    subst load
    obtain ⟨trigger, rfl, positive⟩ := RetryConfig.validateLoad_load rateOk
    exact ⟨_, trigger, rfl, rfl, positive⟩

/-- The Retry settings of the table a reload stores. -/
theorem reloadConfig_retry {state : MainState} {reload : Reload} {loaded : ConfigTable}
    (live : state.routeConfig.retry = some retry) (same : reload.file.retry = some raw)
    (accepted : ConfigTable.fromStr reload.file.configs reload.file.retry reload.loadedAt =
      .ok (.ok loaded)) :
    ∃ next validated, state.reloadConfig reload = .ok next ∧
      RetryConfig.validate raw reload.loadedAt = .ok (.ok validated) ∧
      next.routeConfig.retry = some (validated.inheritAgeFrom retry) := by
  have validated := ConfigTable.fromStr_retry accepted
  rw [same] at validated
  cases configured : loaded.retry with
  | none =>
    rw [configured] at validated
    cases validated
  | some validatedRetry =>
    rw [configured] at validated
    cases validated with
    | some valid =>
      have stored : state.reloadConfig reload = .ok
          ⟨((loaded.updateServers fun id => resolveMacs (reload.neighbours
            id)).rebuildFallbackServers).inheritAgesFrom state.routeConfig,
            state.health.resetBackoff reload.now, reload.now⟩ := by
        rw [MainState.reloadConfig, loadRouteConfig, accepted]
        rfl
      refine ⟨_, validatedRetry, stored, valid, ?_⟩
      simp only [ConfigTable.inheritAgesFrom, ConfigTable.rebuildFallbackServers,
        ConfigTable.updateServers, configured, live]

end Reloads

/-- A reload with an unchanged `[retry]` section keeps every decision exactly if load mode has not
reached its trigger. -/
theorem reload_keeps_retry_decisions_iff {crypto : RetryCrypto} {state : MainState}
    {reload : Reload} {retry : RetryConfig} {raw : RawRetry} {loaded : ConfigTable}
    (live : state.routeConfig.retry = some retry) (inUse : retry.InUse raw)
    (same : reload.file.retry = some raw)
    (accepted : ConfigTable.fromStr reload.file.configs reload.file.retry reload.loadedAt =
      .ok (.ok loaded)) :
    ∃ next, state.reloadConfig reload = .ok next ∧
      ((∀ view parsed localMac nowMs pending, parseFrame view.contents = .ok (some parsed) →
        decisionOf (tryHandle crypto view parsed next.routeConfig localMac nowMs pending) =
          decisionOf (tryHandle crypto view parsed state.routeConfig localMac nowMs pending)) ↔
        ¬ retry.Engaged) := by
  obtain ⟨next, validated, reloaded, valid, configured⟩ := reloadConfig_retry live same accepted
  have restarted := inUse_restarted inUse valid
  refine ⟨next, reloaded, ?_, ?_⟩
  · intro agree engaged
    obtain ⟨port, differs⟩ :=
      restarted.probe_differs engaged live configured crypto SampleRetry.localMac 0 0
    exact differs (agree _ _ SampleRetry.localMac 0 0 (Probe.carries port).parse)
  · intro idle view parsed localMac nowMs pending _
    exact congrArg decisionOf (tryHandle_congr live configured restarted.toSameSettings
      fun enabled mode => restarted.loadOverTrigger_eq idle enabled mode pending)

namespace SampleFlood

/-- Load mode with a trigger of one Initial a second. -/
def loadSection : RawRetry := { SampleRetry.file with mode := "load", load := some 1 }

def fresh : RetryConfig where
  enabled := true
  tokenKey := ⟨(List.range' 1 32).map UInt8.ofNat, rfl⟩
  tokenLifetimeMs := 10000
  mode := .load
  ports := []
  loadTriggerRate := some 1
  loadTracker := some LoadRateTracker.new
  loadedAt := 0
  maxKeyAgeSecs := none

/-- The settings in use after some batches. -/
def retry (batches : List (UInt64 × UInt64)) : RetryConfig :=
  { fresh with
    loadTracker := fresh.loadTracker.map fun tracker =>
      batches.foldl (fun tracker batch => tracker.recordBatch batch.1 batch.2) tracker }

def state (batches : List (UInt64 × UInt64)) : MainState :=
  ⟨{ SampleRetry.table with retry := some (retry batches) }, fun _ => none, seconds 2⟩

/-- Five Initials in one second, and the first batch of the next. -/
def flood : List (UInt64 × UInt64) := [(5, 1000), (0, 2000)]

/-- A reload of the same file. -/
def reload : Reload :=
  ⟨⟨[SampleRetry.entry], some loadSection⟩, fun _ => none, seconds 3, seconds 3⟩

/-- The sample's section is accepted. -/
theorem validate_fresh : RetryConfig.validate loadSection 0 = .ok (.ok fresh) := by
  decide +kernel

/-- Its settings stay in use while batches are counted. -/
theorem inUse (batches : List (UInt64 × UInt64)) : (retry batches).InUse loadSection :=
  ⟨fresh, 0, fresh.loadedAt, batches, validate_fresh, rfl⟩

/-- The table the reload parses, if it does. -/
def loaded : Option ConfigTable :=
  match ConfigTable.fromStr reload.file.configs reload.file.retry reload.loadedAt with
  | .ok (.ok table) => some table
  | _ => none

/-- The reloaded file is accepted. -/
theorem accepted : ∃ table, ConfigTable.fromStr reload.file.configs reload.file.retry
    reload.loadedAt = .ok (.ok table) := by
  obtain ⟨table, found⟩ : ∃ table, loaded = some table :=
    Option.isSome_iff_exists.mp (by decide +kernel)
  unfold loaded at found
  split at found
  · next parsed result => exact ⟨parsed, result⟩
  · cases found

/-- What a table does with the first Initial of the sample client. -/
def outcomeUnder (table : ConfigTable) : Checked Outcome :=
  (tryHandle SampleRetry.crypto SampleRetry.first SampleRetry.parsed table SampleRetry.localMac
    2000 0).map fun handled => handled.1.1

end SampleFlood

/-- Before the first window is complete, a reload changes nothing. -/
theorem reload_keeps_idle_decisions :
    ∃ next, (SampleFlood.state []).reloadConfig SampleFlood.reload = .ok next ∧
      ∀ view parsed localMac nowMs pending, parseFrame view.contents = .ok (some parsed) →
        decisionOf (tryHandle SampleRetry.crypto view parsed next.routeConfig localMac nowMs
            pending) =
          decisionOf (tryHandle SampleRetry.crypto view parsed
            (SampleFlood.state []).routeConfig localMac nowMs pending) := by
  obtain ⟨loaded, accepted⟩ := SampleFlood.accepted
  obtain ⟨next, reloaded, agree⟩ := reload_keeps_retry_decisions_iff
    (show (SampleFlood.state []).routeConfig.retry = some (SampleFlood.retry []) from rfl)
    (SampleFlood.inUse []) (show SampleFlood.reload.file.retry = _ from rfl) accepted
  refine ⟨next, reloaded, agree.mpr ?_⟩
  rintro ⟨-, mode, answering⟩
  have tracked : (SampleFlood.retry []).loadTracker = some LoadRateTracker.new := rfl
  have triggerSet : (SampleFlood.retry []).loadTriggerRate = some 1 := rfl
  exact absurd (answering.reached mode tracked triggerSet) (by decide)

/-- During a flood, a reload of the same file turns the answer to an Initial into a skip. -/
theorem reload_disengages_retry :
    (SampleFlood.state SampleFlood.flood).routeConfig.retry =
        some (SampleFlood.retry SampleFlood.flood) ∧
      (SampleFlood.retry SampleFlood.flood).InUse SampleFlood.loadSection ∧
      SampleFlood.reload.file.retry = some SampleFlood.loadSection ∧
      SampleFlood.outcomeUnder (SampleFlood.state SampleFlood.flood).routeConfig =
        .ok .emitted ∧
      ((SampleFlood.state SampleFlood.flood).reloadConfig SampleFlood.reload >>= fun next =>
        SampleFlood.outcomeUnder next.routeConfig) = .ok .skip :=
  ⟨rfl, SampleFlood.inUse _, rfl, by decide +kernel, by decide +kernel⟩

end Pesigitg
