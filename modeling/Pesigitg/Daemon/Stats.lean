import Pesigitg.Daemon.Packet
import Pesigitg.Retry.Datapath

/-!
# Worker counters

A worker counts the frames of one batch in a `BatchStats` of its own and adds it to its slot of
the shared table once the batch is done.
-/

namespace Pesigitg

open Base

/-- The counters of one batch. -/
@[ext] structure BatchStats where
  forwarded : UInt64
  cidRouted : UInt64
  cidByConfig : Fin 7 → UInt64
  fallbackRouted : UInt64
  cidUnroutableNoServer : UInt64
  cidUnroutableBadServerId : UInt64
  drainingForwarded : UInt64
  icmpForwarded : UInt64
  passed : UInt64
  retryInitialsSeen : UInt64
  retryIssued : UInt64
  retryTokenValidated : UInt64
  retryTokenInvalid : UInt64
  retryTokenExpired : UInt64
  retryParseError : UInt64

namespace BatchStats

def new : BatchStats := ⟨0, 0, fun _ => 0, 0, 0, 0, 0, 0, 0, 0, 0, 0, 0, 0, 0⟩

/-- `cid_by_config[config_id]` is out of bounds for the reserved id. -/
def recordCidForward (stats : BatchStats) (configId : UInt8) : Checked BatchStats :=
  if inside : configId.toNat < 7 then
    .ok { stats with
      cidRouted := stats.cidRouted + 1
      cidByConfig := Function.update stats.cidByConfig ⟨configId.toNat, inside⟩
        (stats.cidByConfig ⟨configId.toNat, inside⟩ + 1)
      forwarded := stats.forwarded + 1 }
  else .error .index

def recordFallbackForward (stats : BatchStats) : BatchStats :=
  { stats with fallbackRouted := stats.fallbackRouted + 1, forwarded := stats.forwarded + 1 }

def recordIcmpForward (stats : BatchStats) : BatchStats :=
  { stats with icmpForwarded := stats.icmpForwarded + 1, forwarded := stats.forwarded + 1 }

def recordDrainingForward (stats : BatchStats) : BatchStats :=
  { stats with drainingForwarded := stats.drainingForwarded + 1 }

def recordCidUnroutableNoServer (stats : BatchStats) : BatchStats :=
  { stats with cidUnroutableNoServer := stats.cidUnroutableNoServer + 1 }

def recordCidUnroutableBadServerId (stats : BatchStats) : BatchStats :=
  { stats with cidUnroutableBadServerId := stats.cidUnroutableBadServerId + 1 }

def recordPass (stats : BatchStats) : BatchStats := { stats with passed := stats.passed + 1 }

/-- Every detail but `none` is an Initial that the classifier saw. -/
def recordRetry (stats : BatchStats) (outcome : Outcome) (detail : Detail) : BatchStats :=
  let seen (stats : BatchStats) : BatchStats :=
    { stats with
      retryInitialsSeen := stats.retryInitialsSeen + 1
      retryIssued := if outcome = .emitted then stats.retryIssued + 1 else stats.retryIssued }
  match detail with
  | .none => stats
  | .parseError => seen { stats with retryParseError := stats.retryParseError + 1 }
  | .tokenValid => seen { stats with retryTokenValidated := stats.retryTokenValidated + 1 }
  | .tokenInvalid => seen { stats with retryTokenInvalid := stats.retryTokenInvalid + 1 }
  | .tokenExpired => seen { stats with retryTokenExpired := stats.retryTokenExpired + 1 }
  | .issued | .observed => seen stats

end BatchStats

/-- One worker's slot of the shared counters. -/
structure WorkerStats where
  rxPackets : UInt64
  totals : BatchStats
  pendingFillPeak : UInt64

namespace WorkerStats

def new : WorkerStats := ⟨0, .new, 0⟩

def recordRx (stats : WorkerStats) (count : UInt64) : WorkerStats :=
  { stats with rxPackets := stats.rxPackets + count }

def recordPendingFill (stats : WorkerStats) (depth : UInt64) : WorkerStats :=
  if stats.pendingFillPeak < depth then { stats with pendingFillPeak := depth } else stats

end WorkerStats

/-- The guarded `add` of a flush. -/
def addCounter (total count : UInt64) : UInt64 := if 0 < count then total + count else total

/-- Add the counters of a batch to the worker's slot. -/
def BatchStats.flush (batch : BatchStats) (stats : WorkerStats) : WorkerStats :=
  let totals := stats.totals
  { stats with
    totals := {
      forwarded := addCounter totals.forwarded batch.forwarded
      cidRouted := addCounter totals.cidRouted batch.cidRouted
      -- The per-config counters are only visited when some frame was routed by its CID.
      cidByConfig := fun id =>
        if 0 < batch.cidRouted then addCounter (totals.cidByConfig id) (batch.cidByConfig id)
        else totals.cidByConfig id
      fallbackRouted := addCounter totals.fallbackRouted batch.fallbackRouted
      cidUnroutableNoServer :=
        addCounter totals.cidUnroutableNoServer batch.cidUnroutableNoServer
      cidUnroutableBadServerId :=
        addCounter totals.cidUnroutableBadServerId batch.cidUnroutableBadServerId
      drainingForwarded := addCounter totals.drainingForwarded batch.drainingForwarded
      icmpForwarded := addCounter totals.icmpForwarded batch.icmpForwarded
      passed := addCounter totals.passed batch.passed
      retryInitialsSeen := addCounter totals.retryInitialsSeen batch.retryInitialsSeen
      retryIssued := addCounter totals.retryIssued batch.retryIssued
      retryTokenValidated := addCounter totals.retryTokenValidated batch.retryTokenValidated
      retryTokenInvalid := addCounter totals.retryTokenInvalid batch.retryTokenInvalid
      retryTokenExpired := addCounter totals.retryTokenExpired batch.retryTokenExpired
      retryParseError := addCounter totals.retryParseError batch.retryParseError } }

/-- The aggregate counters at a point in time. -/
structure Snapshot where
  rxPackets : UInt64
  totals : BatchStats
  pendingFillPeak : UInt64

namespace Snapshot

/-- `Snapshot::default`. -/
def zero : Snapshot := ⟨0, .new, 0⟩

/-- Add one worker's slot; the peak is the largest of the slots' peaks. -/
def addSlot (total : Snapshot) (slot : WorkerStats) : Snapshot where
  rxPackets := total.rxPackets + slot.rxPackets
  totals := {
    forwarded := total.totals.forwarded + slot.totals.forwarded
    cidRouted := total.totals.cidRouted + slot.totals.cidRouted
    cidByConfig := fun id => total.totals.cidByConfig id + slot.totals.cidByConfig id
    fallbackRouted := total.totals.fallbackRouted + slot.totals.fallbackRouted
    cidUnroutableNoServer :=
      total.totals.cidUnroutableNoServer + slot.totals.cidUnroutableNoServer
    cidUnroutableBadServerId :=
      total.totals.cidUnroutableBadServerId + slot.totals.cidUnroutableBadServerId
    drainingForwarded := total.totals.drainingForwarded + slot.totals.drainingForwarded
    icmpForwarded := total.totals.icmpForwarded + slot.totals.icmpForwarded
    passed := total.totals.passed + slot.totals.passed
    retryInitialsSeen := total.totals.retryInitialsSeen + slot.totals.retryInitialsSeen
    retryIssued := total.totals.retryIssued + slot.totals.retryIssued
    retryTokenValidated := total.totals.retryTokenValidated + slot.totals.retryTokenValidated
    retryTokenInvalid := total.totals.retryTokenInvalid + slot.totals.retryTokenInvalid
    retryTokenExpired := total.totals.retryTokenExpired + slot.totals.retryTokenExpired
    retryParseError := total.totals.retryParseError + slot.totals.retryParseError }
  pendingFillPeak :=
    if total.pendingFillPeak < slot.pendingFillPeak then slot.pendingFillPeak
    else total.pendingFillPeak

end Snapshot

/-- Shared statistics, one slot per worker. -/
structure StatsTable where
  slots : List WorkerStats

namespace StatsTable

def new (numWorkers : Nat) : StatsTable := ⟨List.replicate numWorkers .new⟩

def aggregate (table : StatsTable) : Snapshot := table.slots.foldl Snapshot.addSlot .zero

end StatsTable

end Pesigitg
