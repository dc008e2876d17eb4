import Mathlib.Data.List.Destutter
import Mathlib.Data.List.Sort
import Pesigitg.Routing.Route

/-!
# The `[retry]` section

Settings of the QUIC Retry service and their validation. The load tracker is
shared between workers; a table snapshot carries the tracker value that the
snapshot's reader sees.
-/

namespace Pesigitg

open Base

/-- QUIC Retry service enablement mode. -/
inductive RetryMode where
  | observe
  | always
  | load
deriving DecidableEq, Repr

/-- The configuration spelling of a mode. -/
def RetryMode.display : RetryMode → String
  | .observe => "observe"
  | .always => "always"
  | .load => "load"

/-- Cross-worker Initial-rate counter. -/
structure LoadRateTracker where
  windowSec : UInt64
  windowCount : UInt64
  lastRate : UInt64
deriving DecidableEq, Repr

namespace LoadRateTracker

def new : LoadRateTracker := ⟨0, 0, 0⟩

/-- The most recently completed window's rate. -/
def rate (tracker : LoadRateTracker) : UInt64 := tracker.lastRate

/-- Flush a batch's tally, rotating the window when the second has advanced. -/
def recordBatch (tracker : LoadRateTracker) (count nowMs : UInt64) : LoadRateTracker :=
  let nowSec := nowMs / 1000
  let rotated :=
    if nowSec ≠ tracker.windowSec then ⟨nowSec, 0, tracker.windowCount⟩ else tracker
  if 0 < count then { rotated with windowCount := rotated.windowCount + count } else rotated

end LoadRateTracker

/-- HMAC-SHA256 signing key. -/
abbrev TokenKey := Octets 32

/-- Validated `[retry]` settings. -/
structure RetryConfig where
  enabled : Bool
  tokenKey : TokenKey
  tokenLifetimeMs : UInt64
  mode : RetryMode
  ports : List UInt16
  loadTriggerRate : Option UInt64
  loadTracker : Option LoadRateTracker
  loadedAt : Instant
  maxKeyAgeSecs : Option UInt64
deriving DecidableEq, Repr

/-- The section as the TOML reader hands it over, its `[retry.load]` table reduced
to the trigger rate. -/
structure RawRetry where
  enabled : Bool
  tokenKey : Option String
  tokenLifetimeSecs : UInt64
  mode : String
  ports : List UInt16
  load : Option UInt64
  maxKeyAgeSecs : Option UInt64
deriving DecidableEq, Repr

/-- Parse a hex-encoded 32-byte Retry signing key. -/
def parseHexRetryKey (text : String) : Checked (Except RouteConfigError TokenKey) := do
  match ← Hex.decode text with
  | .error message => pure (.error (.validation s!"invalid hex retry token key: {message}"))
  | .ok bytes =>
    if sized : bytes.length = 32 then pure (.ok ⟨bytes, sized⟩)
    else
      pure (.error (.validation
        s!"retry.token_key must be exactly 32 bytes (256 bits), got {bytes.length} bytes"))

namespace RetryConfig

/-- Carry the load time over when the signing key did not change. -/
def inheritAgeFrom (config previous : RetryConfig) : RetryConfig :=
  if config.tokenKey = previous.tokenKey then { config with loadedAt := previous.loadedAt }
  else config

def validateMode (text : String) : Except RouteConfigError RetryMode :=
  if text = "observe" then .ok .observe
  else if text = "always" then .ok .always
  else if text = "load" then .ok .load
  else .error (.validation s!"retry.mode must be one of observe|always|load, got '{text}'")

/-- Mandatory when the service is enabled; all zeros when it is staged without one. -/
def validateTokenKey (raw : RawRetry) : Checked (Except RouteConfigError TokenKey) :=
  match raw.tokenKey with
  | some text => parseHexRetryKey text
  | none =>
    if raw.enabled then
      pure (.error (.validation "retry.token_key is required when retry.enabled = true"))
    else pure (.ok ⟨List.replicate 32 0, by simp⟩)

def validateLoad (mode : RetryMode) (load : Option UInt64) :
    Except RouteConfigError (Option UInt64) :=
  match mode, load with
  | .load, none => .error (.validation "retry.mode = 'load' requires a [retry.load] section")
  | .load, some rate =>
    if rate = 0 then .error (.validation "retry.load.trigger_rate must be > 0")
    else .ok (some rate)
  | _, some _ =>
    .error (.validation
      s!"[retry.load] is only valid when retry.mode = 'load' (got '{mode.display}')")
  | _, none => .ok none

/-- `RetryConfig::validate`. -/
def validate (raw : RawRetry) (now : Instant) : Checked (Except RouteConfigError RetryConfig) :=
  match validateMode raw.mode with
  | .error failure => pure (.error failure)
  | .ok mode =>
    if raw.tokenLifetimeSecs = 0 ∨ 86400 < raw.tokenLifetimeSecs then
      pure (.error (.validation
        s!"retry.token_lifetime_secs must be 1..=86400, got {raw.tokenLifetimeSecs}"))
    else do
      match ← validateTokenKey raw with
      | .error failure => pure (.error failure)
      | .ok tokenKey =>
        match validateLoad mode raw.load with
        | .error failure => pure (.error failure)
        | .ok loadTriggerRate =>
          if raw.maxKeyAgeSecs = some 0 then
            pure (.error (.validation "retry.max_key_age_secs must be > 0 when set"))
          else
            pure (.ok {
              enabled := raw.enabled
              tokenKey := tokenKey
              tokenLifetimeMs := raw.tokenLifetimeSecs * 1000
              mode := mode
              ports := (raw.ports.insertionSort (· ≤ ·)).destutter (· ≠ ·)
              loadTriggerRate := loadTriggerRate
              loadTracker := if mode = .load then some LoadRateTracker.new else none
              loadedAt := now
              maxKeyAgeSecs := raw.maxKeyAgeSecs })

/-- What the datapath relies on: load mode comes with its tracker and trigger. -/
def Armed (config : RetryConfig) : Prop :=
  config.mode = .load → config.loadTracker.isSome ∧ config.loadTriggerRate.isSome

/-- The stages of an accepting `validate`. -/
theorem validate_ok {raw : RawRetry} {now : Instant} {config : RetryConfig}
    (accepted : validate raw now = .ok (.ok config)) :
    ∃ mode tokenKey loadTriggerRate, validateMode raw.mode = .ok mode ∧
      validateTokenKey raw = .ok (.ok tokenKey) ∧
      validateLoad mode raw.load = .ok loadTriggerRate ∧
      config = {
        enabled := raw.enabled
        tokenKey := tokenKey
        tokenLifetimeMs := raw.tokenLifetimeSecs * 1000
        mode := mode
        ports := (raw.ports.insertionSort (· ≤ ·)).destutter (· ≠ ·)
        loadTriggerRate := loadTriggerRate
        loadTracker := if mode = .load then some LoadRateTracker.new else none
        loadedAt := now
        maxKeyAgeSecs := raw.maxKeyAgeSecs } := by
  unfold validate at accepted
  simp only [Checked.pure_eq_ok] at accepted
  split at accepted
  · simp at accepted
  · next mode modeOk =>
    split at accepted
    · simp at accepted
    · rw [Checked.bind_eq_ok_iff] at accepted
      obtain ⟨keyResult, keyOk, accepted⟩ := accepted
      cases keyResult with
      | error failure => simp at accepted
      | ok tokenKey =>
        simp only at accepted
        split at accepted
        · simp at accepted
        · next rate rateOk =>
          split at accepted
          · simp at accepted
          · simp only [Except.ok.injEq] at accepted
            exact ⟨mode, tokenKey, rate, modeOk, keyOk, rateOk, accepted.symm⟩

/-- Load mode is accepted with a positive trigger only. -/
theorem validateLoad_load {load rate : Option UInt64}
    (accepted : validateLoad .load load = .ok rate) : ∃ trigger, rate = some trigger ∧ trigger ≠ 0 := by
  cases load with
  | none => simp [validateLoad] at accepted
  | some trigger =>
    by_cases zero : trigger = 0
    · simp [validateLoad, zero] at accepted
    · simp only [validateLoad, zero, if_false, Except.ok.injEq] at accepted
      exact ⟨trigger, accepted.symm, zero⟩

/-- Every accepted section is armed. -/
theorem validate_armed {raw : RawRetry} {now : Instant} {config : RetryConfig}
    (accepted : validate raw now = .ok (.ok config)) : config.Armed := by
  obtain ⟨mode, tokenKey, rate, -, -, rateOk, rfl⟩ := validate_ok accepted
  intro isLoad
  simp only at isLoad
  subst isLoad
  obtain ⟨trigger, rfl, -⟩ := validateLoad_load rateOk
  simp

end RetryConfig

end Pesigitg
