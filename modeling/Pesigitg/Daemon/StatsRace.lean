import Mathlib.Algebra.Order.BigOperators.Group.List
import Mathlib.Algebra.Order.Monoid.NatCast
import Mathlib.Data.Fin.Basic
import Mathlib.Data.UInt
import Pesigitg.Base.SingleWriter
import Pesigitg.Daemon.Stats

/-!
# Counters read while workers write them

A worker's `add` is a load and a store, not a `fetch_add`, and `aggregate` loads the counters of
all slots one after the other while the workers go on; all accesses are relaxed. `StatsRun` is any
order of these accesses, by any number of workers and of readers (the main loop, the signal
handler's dump, the status API).

`counters_sequential` is what the comment on `WorkerStats` relies on: between its calls a worker's
slot holds exactly what its calls leave when they run alone. `reports_account` is about the
readers: a reader's snapshots never go back, so the deltas that the main loop computes add up to
its last snapshot. It logs only those with received packets, and a worker counts what it received
before it counts what became of it, so a log may miss forwarded packets but never received ones.
-/

namespace Pesigitg

open Base

/-- The counters of a slot. -/
inductive Counter where
  | rxPackets
  | forwarded
  | cidRouted
  | cidByConfig (configId : Fin 7)
  | fallbackRouted
  | cidUnroutableNoServer
  | cidUnroutableBadServerId
  | drainingForwarded
  | icmpForwarded
  | passed
  | pendingFillPeak
  | retryInitialsSeen
  | retryIssued
  | retryTokenValidated
  | retryTokenInvalid
  | retryTokenExpired
  | retryParseError
deriving DecidableEq, Repr

/-- The counter with this name; `rx` and `peak` are the two that a batch does not have. -/
def BatchStats.counter (rx peak : UInt64) (totals : BatchStats) : Counter → UInt64
  | .rxPackets => rx
  | .forwarded => totals.forwarded
  | .cidRouted => totals.cidRouted
  | .cidByConfig configId => totals.cidByConfig configId
  | .fallbackRouted => totals.fallbackRouted
  | .cidUnroutableNoServer => totals.cidUnroutableNoServer
  | .cidUnroutableBadServerId => totals.cidUnroutableBadServerId
  | .drainingForwarded => totals.drainingForwarded
  | .icmpForwarded => totals.icmpForwarded
  | .passed => totals.passed
  | .pendingFillPeak => peak
  | .retryInitialsSeen => totals.retryInitialsSeen
  | .retryIssued => totals.retryIssued
  | .retryTokenValidated => totals.retryTokenValidated
  | .retryTokenInvalid => totals.retryTokenInvalid
  | .retryTokenExpired => totals.retryTokenExpired
  | .retryParseError => totals.retryParseError

def WorkerStats.counter (stats : WorkerStats) : Counter → UInt64 :=
  stats.totals.counter stats.rxPackets stats.pendingFillPeak

def Snapshot.counter (total : Snapshot) : Counter → UInt64 :=
  total.totals.counter total.rxPackets total.pendingFillPeak

/-- What a store writes over the value that was loaded. -/
inductive CounterUpdate where
  | add (count : UInt64)
  | raise (depth : UInt64)
deriving DecidableEq, Repr

/-- The value stored, if the update stores one. -/
def CounterUpdate.stored : CounterUpdate → UInt64 → Option UInt64
  | .add count, total => some (total + count)
  | .raise depth, peak => if peak < depth then some depth else none

/-- The guarded `add` of a flush. -/
def guardedAdd (counter : Counter) (count : UInt64) : List (Counter × CounterUpdate) :=
  if 0 < count then [(counter, .add count)] else []

/-- The part of a flush that visits the per-config counters. -/
def BatchStats.cidUpdates (batch : BatchStats) : List (Counter × CounterUpdate) :=
  if 0 < batch.cidRouted then
    (.cidRouted, .add batch.cidRouted) :: (List.finRange 7).flatMap fun configId =>
      guardedAdd (.cidByConfig configId) (batch.cidByConfig configId)
  else []

/-- The accesses of `BatchStats::flush`, in the order of the source. -/
def BatchStats.updates (batch : BatchStats) : List (Counter × CounterUpdate) :=
  guardedAdd .forwarded batch.forwarded ++
  batch.cidUpdates ++
  guardedAdd .fallbackRouted batch.fallbackRouted ++
  guardedAdd .cidUnroutableNoServer batch.cidUnroutableNoServer ++
  guardedAdd .cidUnroutableBadServerId batch.cidUnroutableBadServerId ++
  guardedAdd .drainingForwarded batch.drainingForwarded ++
  guardedAdd .icmpForwarded batch.icmpForwarded ++
  guardedAdd .passed batch.passed ++
  guardedAdd .retryInitialsSeen batch.retryInitialsSeen ++
  guardedAdd .retryIssued batch.retryIssued ++
  guardedAdd .retryTokenValidated batch.retryTokenValidated ++
  guardedAdd .retryTokenInvalid batch.retryTokenInvalid ++
  guardedAdd .retryTokenExpired batch.retryTokenExpired ++
  guardedAdd .retryParseError batch.retryParseError

/-- What a worker calls on its slot. -/
inductive StatsCall where
  | recordRx (count : UInt64)
  | flush (batch : BatchStats)
  | recordPendingFill (depth : UInt64)

namespace StatsCall

/-- The accesses of a call. -/
def updates : StatsCall → List (Counter × CounterUpdate)
  | .recordRx count => [(.rxPackets, .add count)]
  | .flush batch => batch.updates
  | .recordPendingFill depth => [(.pendingFillPeak, .raise depth)]

/-- The call without interruption. -/
def run (stats : WorkerStats) : StatsCall → WorkerStats
  | .recordRx count => stats.recordRx count
  | .flush batch => batch.flush stats
  | .recordPendingFill depth => stats.recordPendingFill depth

end StatsCall

section Uninterrupted

/-- The updates of a counter, over two lists. -/
theorem onCell_append (counter : Counter) (first second : List (Counter × CounterUpdate)) :
    onCell counter (first ++ second) = onCell counter first ++ onCell counter second := by
  simp [onCell]

/-- A counter is only added to if there is something to add. -/
theorem onCell_guardedAdd_self (counter : Counter) (count : UInt64) :
    onCell counter (guardedAdd counter count) = if 0 < count then [.add count] else [] := by
  unfold guardedAdd
  split <;> simp [onCell]

/-- Adding to a counter touches no other. -/
theorem onCell_guardedAdd_of_ne {counter other : Counter} (distinct : counter ≠ other)
    (count : UInt64) : onCell other (guardedAdd counter count) = [] := by
  unfold guardedAdd
  split <;> simp [onCell, distinct]

/-- The adds of the per-config counters. -/
theorem onCell_cidByConfig (configId : Fin 7) (counts : Fin 7 → UInt64) (ids : List (Fin 7))
    (once : ids.Nodup) :
    onCell (.cidByConfig configId)
        (ids.flatMap fun id => guardedAdd (.cidByConfig id) (counts id)) =
      if configId ∈ ids ∧ 0 < counts configId then [.add (counts configId)] else [] := by
  induction ids with
  | nil => simp [onCell]
  | cons id ids ih =>
    obtain ⟨fresh, once⟩ := List.nodup_cons.mp once
    rw [List.flatMap_cons, onCell_append, ih once]
    by_cases same : id = configId
    · subst same
      rw [onCell_guardedAdd_self]
      simp [fresh]
    · rw [onCell_guardedAdd_of_ne (by simpa using same)]
      simp [Ne.symm same]

/-- The counters per config touch no other. -/
theorem onCell_cidByConfig_of_ne {counter : Counter} (distinct : ∀ id, counter ≠ .cidByConfig id)
    (counts : Fin 7 → UInt64) (ids : List (Fin 7)) :
    onCell counter (ids.flatMap fun id => guardedAdd (.cidByConfig id) (counts id)) = [] := by
  induction ids with
  | nil => rfl
  | cons id ids ih =>
    rw [List.flatMap_cons, onCell_append, ih, onCell_guardedAdd_of_ne (Ne.symm (distinct id))]
    rfl

/-- The total of routed packets is added to once, if there are any. -/
theorem onCell_cidUpdates_routed (batch : BatchStats) :
    onCell .cidRouted batch.cidUpdates =
      if 0 < batch.cidRouted then [.add batch.cidRouted] else [] := by
  unfold BatchStats.cidUpdates
  split
  · rw [onCell_cons_self, onCell_cidByConfig_of_ne (by simp)]
  · rfl

/-- The counter of a config is added to if it and the total have something. -/
theorem onCell_cidUpdates_config (batch : BatchStats) (configId : Fin 7) :
    onCell (.cidByConfig configId) batch.cidUpdates =
      if 0 < batch.cidRouted then
        if 0 < batch.cidByConfig configId then [.add (batch.cidByConfig configId)] else []
      else [] := by
  unfold BatchStats.cidUpdates
  split
  · rw [onCell_cons_of_ne (by simp), onCell_cidByConfig _ _ _ (List.nodup_finRange 7)]
    simp
  · rfl

/-- Other counters are not touched. -/
theorem onCell_cidUpdates_of_ne {counter : Counter} (notTotal : counter ≠ .cidRouted)
    (distinct : ∀ id, counter ≠ .cidByConfig id) (batch : BatchStats) :
    onCell counter batch.cidUpdates = [] := by
  unfold BatchStats.cidUpdates
  split
  · rw [onCell_cons_of_ne notTotal.symm, onCell_cidByConfig_of_ne distinct]
  · rfl

/-- Leaving out an addition of zero changes nothing. -/
theorem settled_guarded (start count : UInt64) :
    settled CounterUpdate.stored start (if 0 < count then [.add count] else []) =
      addCounter start count := by
  unfold addCounter
  split <;> rfl

/-- The adds of a flush, one after the other, are the flush. -/
theorem BatchStats.flush_counter (batch : BatchStats) (stats : WorkerStats) (counter : Counter) :
    (batch.flush stats).counter counter =
      settled CounterUpdate.stored (stats.counter counter) (onCell counter batch.updates) := by
  simp only [BatchStats.updates, onCell_append]
  cases counter with
  | rxPackets | pendingFillPeak =>
    simp [onCell_guardedAdd_of_ne, onCell_cidUpdates_of_ne, settled, WorkerStats.counter,
      BatchStats.counter, BatchStats.flush]
  | cidRouted =>
    simp [onCell_guardedAdd_of_ne, onCell_cidUpdates_routed, settled_guarded, WorkerStats.counter,
      BatchStats.counter, BatchStats.flush]
  | cidByConfig configId =>
    by_cases visited : 0 < batch.cidRouted
    · simp [onCell_guardedAdd_of_ne, onCell_cidUpdates_config, settled_guarded, visited,
        WorkerStats.counter, BatchStats.counter, BatchStats.flush]
    · simp [onCell_guardedAdd_of_ne, onCell_cidUpdates_config, settled, visited,
        WorkerStats.counter, BatchStats.counter, BatchStats.flush]
  | _ =>
    simp [onCell_guardedAdd_of_ne, onCell_guardedAdd_self, onCell_cidUpdates_of_ne, settled_guarded,
      WorkerStats.counter, BatchStats.counter, BatchStats.flush]

/-- The accesses of a call, one after the other, do what the call does. -/
theorem StatsCall.run_counter (call : StatsCall) (stats : WorkerStats) (counter : Counter) :
    (call.run stats).counter counter =
      settled CounterUpdate.stored (stats.counter counter) (onCell counter call.updates) := by
  cases call with
  | recordRx count => cases counter <;> rfl
  | flush batch => exact batch.flush_counter stats counter
  | recordPendingFill depth =>
    simp only [run, WorkerStats.recordPendingFill]
    cases counter with
    | pendingFillPeak =>
      simp only [updates, onCell_cons_self, onCell_nil, settled, List.foldl_cons, List.foldl_nil,
        CounterUpdate.stored, WorkerStats.counter, BatchStats.counter]
      split <;> rfl
    | _ => split <;> rfl

end Uninterrupted

/-- One counter of one slot. -/
abbrev StatsCell (workers : Nat) := Fin workers × Counter

/-- The threads that touch the counters. -/
inductive StatsThread (workers : Nat) where
  | worker (slot : Fin workers)
  | reader (id : Nat)
deriving DecidableEq

/-- The order in which `aggregate` loads the counters of a slot. -/
def Counter.loadOrder : List Counter :=
  [.rxPackets, .forwarded, .cidRouted] ++ (List.finRange 7).map .cidByConfig ++
  [.cidUnroutableNoServer, .cidUnroutableBadServerId, .fallbackRouted, .drainingForwarded,
    .icmpForwarded, .passed, .pendingFillPeak, .retryInitialsSeen, .retryIssued,
    .retryTokenValidated, .retryTokenInvalid, .retryTokenExpired, .retryParseError]

/-- The order in which `aggregate` loads all counters. -/
def aggregateOrder (workers : Nat) : List (StatsCell workers) :=
  (List.finRange workers).flatMap fun slot => Counter.loadOrder.map fun counter => (slot, counter)

/-- A call on a slot. -/
abbrev SlotCall (workers : Nat) := Fin workers × StatsCall

def SlotCall.updates {workers : Nat} (call : SlotCall workers) :
    List (StatsCell workers × CounterUpdate) :=
  call.2.updates.map fun update => ((call.1, update.1), update.2)

abbrev StatsEvent (workers : Nat) :=
  CellEvent (StatsCell workers) UInt64 CounterUpdate (SlotCall workers)

abbrev StatsLog (workers : Nat) := List (StatsThread workers × StatsEvent workers)

abbrev StatsMachine (workers : Nat) := Machine (StatsThread workers)
  (CellUser (StatsCell workers) UInt64 CounterUpdate) (StatsCell workers → List UInt64)

/-- A worker only calls on its own slot, and only readers aggregate. -/
def statsAllowed (workers : Nat) : Allowed (StatsThread workers)
    (CellUser (StatsCell workers) UInt64 CounterUpdate) (StatsCell workers → List UInt64)
    (StatsEvent workers) :=
  fun _ _ thread event =>
    match event with
    | .call request => thread = .worker request.1
    | .scan => ∃ id, thread = .reader id
    | _ => True

/-- Any order of the accesses, from a table of zeros. -/
abbrev StatsRun (workers : Nat) (log : StatsLog workers) (machine : StatsMachine workers) : Prop :=
  Interleaving (CellStep CounterUpdate.stored SlotCall.updates (aggregateOrder workers))
    (statsAllowed workers) (freshCells fun _ => 0) log machine

/-- The calls on a slot, oldest first. -/
def callsOn {workers : Nat} (slot : Fin workers) (log : StatsLog workers) : List StatsCall :=
  log.flatMap fun step =>
    match step.2 with
    | .call request => if request.1 = slot then [request.2] else []
    | _ => []

namespace Snapshot

/-- What `aggregate` does with one loaded counter. -/
def load (total : Snapshot) : Counter → UInt64 → Snapshot
  | .rxPackets, value => { total with rxPackets := total.rxPackets + value }
  | .forwarded, value =>
    { total with totals.forwarded := total.totals.forwarded + value }
  | .cidRouted, value =>
    { total with totals.cidRouted := total.totals.cidRouted + value }
  | .cidByConfig configId, value =>
    { total with
      totals.cidByConfig := Function.update total.totals.cidByConfig configId
        (total.totals.cidByConfig configId + value) }
  | .fallbackRouted, value =>
    { total with totals.fallbackRouted := total.totals.fallbackRouted + value }
  | .cidUnroutableNoServer, value =>
    { total with totals.cidUnroutableNoServer := total.totals.cidUnroutableNoServer + value }
  | .cidUnroutableBadServerId, value =>
    { total with
      totals.cidUnroutableBadServerId := total.totals.cidUnroutableBadServerId + value }
  | .drainingForwarded, value =>
    { total with totals.drainingForwarded := total.totals.drainingForwarded + value }
  | .icmpForwarded, value =>
    { total with totals.icmpForwarded := total.totals.icmpForwarded + value }
  | .passed, value => { total with totals.passed := total.totals.passed + value }
  | .pendingFillPeak, value =>
    if total.pendingFillPeak < value then { total with pendingFillPeak := value } else total
  | .retryInitialsSeen, value =>
    { total with totals.retryInitialsSeen := total.totals.retryInitialsSeen + value }
  | .retryIssued, value =>
    { total with totals.retryIssued := total.totals.retryIssued + value }
  | .retryTokenValidated, value =>
    { total with totals.retryTokenValidated := total.totals.retryTokenValidated + value }
  | .retryTokenInvalid, value =>
    { total with totals.retryTokenInvalid := total.totals.retryTokenInvalid + value }
  | .retryTokenExpired, value =>
    { total with totals.retryTokenExpired := total.totals.retryTokenExpired + value }
  | .retryParseError, value =>
    { total with totals.retryParseError := total.totals.retryParseError + value }

/-- The snapshot that the loads of one `aggregate` give. -/
def ofSights {workers : Nat} (seen : List (Sight (StatsCell workers) UInt64)) : Snapshot :=
  seen.foldl (fun total sight => total.load sight.cell.2 sight.value) .zero

/-- The change since an earlier snapshot; the peak is kept as it is. -/
def delta (total previous : Snapshot) : Snapshot where
  rxPackets := total.rxPackets - previous.rxPackets
  totals := {
    forwarded := total.totals.forwarded - previous.totals.forwarded
    cidRouted := total.totals.cidRouted - previous.totals.cidRouted
    cidByConfig := fun id => total.totals.cidByConfig id - previous.totals.cidByConfig id
    fallbackRouted := total.totals.fallbackRouted - previous.totals.fallbackRouted
    cidUnroutableNoServer :=
      total.totals.cidUnroutableNoServer - previous.totals.cidUnroutableNoServer
    cidUnroutableBadServerId :=
      total.totals.cidUnroutableBadServerId - previous.totals.cidUnroutableBadServerId
    drainingForwarded := total.totals.drainingForwarded - previous.totals.drainingForwarded
    icmpForwarded := total.totals.icmpForwarded - previous.totals.icmpForwarded
    passed := total.totals.passed - previous.totals.passed
    retryInitialsSeen := total.totals.retryInitialsSeen - previous.totals.retryInitialsSeen
    retryIssued := total.totals.retryIssued - previous.totals.retryIssued
    retryTokenValidated := total.totals.retryTokenValidated - previous.totals.retryTokenValidated
    retryTokenInvalid := total.totals.retryTokenInvalid - previous.totals.retryTokenInvalid
    retryTokenExpired := total.totals.retryTokenExpired - previous.totals.retryTokenExpired
    retryParseError := total.totals.retryParseError - previous.totals.retryParseError }
  pendingFillPeak := total.pendingFillPeak

/-- The deltas that the main loop computes, each against the snapshot before. -/
def deltas (previous : Snapshot) : List Snapshot → List Snapshot
  | [] => []
  | current :: later => current.delta previous :: deltas current later

/-- The deltas that it logs. One without received packets is only noted as an idle loop, and the
snapshot it was computed from is the next one's predecessor all the same. -/
def reports (previous : Snapshot) (taken : List Snapshot) : List Snapshot :=
  (deltas previous taken).filter fun delta => 0 < delta.rxPackets

end Snapshot

/-- The snapshots a reader has taken, oldest first. -/
def snapshots {workers : Nat} (id : Nat) (log : StatsLog workers) : List Snapshot :=
  (scans (StatsThread.reader id) log).map Snapshot.ofSights

/-- How much an update adds. -/
def CounterUpdate.amount : CounterUpdate → Nat
  | .add count => count.toNat
  | .raise _ => 0

/-- How much the calls on a slot add to a counter. -/
def recordedOn {workers : Nat} (counter : Counter) (log : StatsLog workers) (slot : Fin workers) :
    Nat :=
  (((callsOn slot log).flatMap fun call => onCell counter call.updates).map
    CounterUpdate.amount).sum

/-- How much the calls on all slots add to a counter. -/
def recorded {workers : Nat} (counter : Counter) (log : StatsLog workers) : Nat :=
  ((List.finRange workers).map (recordedOn counter log)).sum

section Threads

variable {workers : Nat} {log : StatsLog workers} {machine : StatsMachine workers}

/-- A call touches the counters of its own slot only. -/
theorem onCell_slotUpdates (slot : Fin workers) (counter : Counter) (call : SlotCall workers) :
    onCell (slot, counter) call.updates =
      if call.1 = slot then onCell counter call.2.updates else [] := by
  unfold SlotCall.updates
  induction call.2.updates with
  | nil => simp [onCell]
  | cons update updates ih =>
    rw [List.map_cons, onCell_cons, ih, onCell_cons update.1 update.2 updates]
    by_cases same : call.1 = slot
    · simp [onCell, same, List.filter_cons, apply_ite]
    · simp [onCell, same]

/-- What has been asked of a counter is what the calls on its slot ask. -/
theorem requestedOn_eq (slot : Fin workers) (counter : Counter) :
    requestedOn SlotCall.updates (slot, counter) log =
      (callsOn slot log).flatMap fun call => onCell counter call.updates := by
  induction log with
  | nil => rfl
  | cons step log ih =>
    obtain ⟨thread, event⟩ := step
    simp only [requestedOn, callsOn, List.flatMap_cons, List.flatMap_append] at ih ⊢
    rw [ih]
    congr 1
    cases event with
    | call request =>
      rw [CellEvent.askedOn, onCell_slotUpdates]
      split <;> simp_all
    | _ => rfl

/-- The slot after these calls, one after the other. -/
theorem foldl_run_counter (calls : List StatsCall) (stats : WorkerStats) (counter : Counter) :
    (calls.foldl StatsCall.run stats).counter counter =
      settled CounterUpdate.stored (stats.counter counter)
        (calls.flatMap fun call => onCell counter call.updates) := by
  induction calls generalizing stats with
  | nil => rfl
  | cons call calls ih =>
    rw [List.foldl_cons, ih, StatsCall.run_counter, List.flatMap_cons, settled, settled, settled,
      List.foldl_append]

/-- Only a slot's own worker asks for updates of it. -/
theorem statsAllowed_exclusive (log : StatsLog workers) (machine : StatsMachine workers)
    (thread : StatsThread workers) (request : SlotCall workers)
    (permitted : statsAllowed workers log machine thread (.call request)) :
    ∀ update ∈ request.updates, StatsThread.worker update.1.1 = thread := by
  intro update member
  obtain ⟨-, -, rfl⟩ := List.mem_map.mp member
  exact Eq.symm permitted

end Threads

/-- Whenever a worker is between two calls, every counter of its slot has the value that its
calls so far leave when they run one after the other and alone. -/
theorem StatsRun.slot_latest {workers : Nat} {log : StatsLog workers}
    {machine : StatsMachine workers} (run : StatsRun workers log machine) {slot : Fin workers}
    (between : (machine.threads (.worker slot)).task = .updating []) (counter : Counter) :
    (machine.shared (slot, counter)).getLast? =
      some (((callsOn slot log).foldl StatsCall.run .new).counter counter) := by
  obtain ⟨memory, threads⟩ := run.cells (fun cell => .worker cell.1) statsAllowed_exclusive
  have complete := (threads (.worker slot)).1.pending (slot, counter) rfl
  rw [between, CellTask.todo, onCell_nil, List.append_nil, requestedOn_eq] at complete
  have start : WorkerStats.new.counter counter = 0 := by cases counter <;> rfl
  rw [memory, historyOn, history_getLast, complete, foldl_run_counter, start]

section Snapshots

/-- How `aggregate` joins a loaded counter to its total. -/
def Counter.combine (counter : Counter) (total value : UInt64) : UInt64 :=
  if counter = .pendingFillPeak then if total < value then value else total else total + value

namespace Snapshot

/-- A load changes the counter it is about. -/
theorem load_counter (total : Snapshot) (counter other : Counter) (value : UInt64) :
    (total.load counter value).counter other =
      if other = counter then counter.combine (total.counter counter) value
      else total.counter other := by
  cases counter with
  | pendingFillPeak =>
    simp only [load]
    split
    · next above =>
      cases other <;> simp [counter, BatchStats.counter, Counter.combine, above]
    · next notAbove =>
      cases other <;> simp [counter, BatchStats.counter, Counter.combine, notAbove]
  | cidByConfig id =>
    cases other with
    | cidByConfig other =>
      by_cases same : other = id
      · simp [load, counter, BatchStats.counter, Counter.combine, same]
      · simp [load, counter, BatchStats.counter, same]
    | _ => simp [load, counter, BatchStats.counter]
  | _ => cases other <;> simp [load, counter, BatchStats.counter, Counter.combine]

/-- The delta of a summed counter is a difference. -/
theorem delta_counter {counter : Counter} (summed : counter ≠ .pendingFillPeak)
    (total previous : Snapshot) :
    (total.delta previous).counter counter = total.counter counter - previous.counter counter := by
  cases counter with
  | pendingFillPeak => exact absurd rfl summed
  | _ => rfl

/-- A slot is combined with the total counter by counter. -/
theorem addSlot_counter (total : Snapshot) (slot : WorkerStats) (counter : Counter) :
    (total.addSlot slot).counter counter =
      counter.combine (total.counter counter) (slot.counter counter) := by
  cases counter <;> rfl

/-- A snapshot is determined by its counters. -/
theorem ext_counter {first second : Snapshot}
    (same : ∀ counter, first.counter counter = second.counter counter) : first = second := by
  obtain ⟨rx, totals, peak⟩ := first
  obtain ⟨rx', totals', peak'⟩ := second
  obtain rfl : rx = rx' := same .rxPackets
  obtain rfl : peak = peak' := same .pendingFillPeak
  have totalsSame : totals = totals' :=
    BatchStats.ext (same .forwarded) (same .cidRouted) (funext fun id => same (.cidByConfig id))
      (same .fallbackRouted) (same .cidUnroutableNoServer) (same .cidUnroutableBadServerId)
      (same .drainingForwarded) (same .icmpForwarded) (same .passed) (same .retryInitialsSeen)
      (same .retryIssued) (same .retryTokenValidated) (same .retryTokenInvalid)
      (same .retryTokenExpired) (same .retryParseError)
  rw [totalsSame]

variable {workers : Nat}

/-- A counter of a snapshot is joined from the loads of that counter. -/
theorem foldl_load_counter (seen : List (Sight (StatsCell workers) UInt64)) (total : Snapshot)
    (counter : Counter) :
    (seen.foldl (fun total sight => total.load sight.cell.2 sight.value) total).counter counter =
      ((seen.filter fun sight => sight.cell.2 = counter).map Sight.value).foldl counter.combine
        (total.counter counter) := by
  induction seen generalizing total with
  | nil => rfl
  | cons sight seen ih =>
    rw [List.foldl_cons, ih, load_counter]
    by_cases same : sight.cell.2 = counter
    · simp [same]
    · simp [same, Ne.symm same]

end Snapshot

/-- Every counter is loaded once. -/
theorem Counter.loadOrder_filter (counter : Counter) :
    (Counter.loadOrder.filter fun other => other = counter) = [counter] := by
  cases counter with
  | cidByConfig id =>
    revert id
    decide
  | _ => decide

/-- `aggregate` loads each counter once from every slot. -/
theorem aggregateOrder_filter (workers : Nat) (counter : Counter) :
    ((aggregateOrder workers).filter fun cell => cell.2 = counter) =
      (List.finRange workers).map fun slot => (slot, counter) := by
  unfold aggregateOrder
  induction List.finRange workers with
  | nil => rfl
  | cons slot slots ih =>
    have here : ((Counter.loadOrder.map fun loaded => (slot, loaded)).filter fun cell =>
        cell.2 = counter) = [(slot, counter)] := by
      rw [List.filter_map]
      exact congrArg (List.map fun loaded => (slot, loaded)) counter.loadOrder_filter
    rw [List.flatMap_cons, List.filter_append, ih, here]
    rfl

variable {workers : Nat}

/-- What a whole scan has of one counter, slot by slot. -/
theorem filter_cells {seen : List (Sight (StatsCell workers) UInt64)}
    (whole : seen.map Sight.cell = aggregateOrder workers) (counter : Counter) :
    (seen.filter fun sight => sight.cell.2 = counter).map Sight.cell =
      (List.finRange workers).map fun slot => (slot, counter) := by
  rw [← aggregateOrder_filter, ← whole, List.filter_map]
  rfl

end Snapshots

section Sums

/-- A sum that fits does not wrap. -/
theorem foldl_add_toNat (values : List UInt64) (start : UInt64)
    (room : start.toNat + (values.map UInt64.toNat).sum < 2 ^ 64) :
    (values.foldl (· + ·) start).toNat = start.toNat + (values.map UInt64.toNat).sum := by
  induction values generalizing start with
  | nil => rfl
  | cons value values ih =>
    simp only [List.map_cons, List.sum_cons] at room ⊢
    have here : (start + value).toNat = start.toNat + value.toNat := by
      rw [UInt64.toNat_add]
      exact Nat.mod_eq_of_lt (by omega)
    rw [List.foldl_cons, ih, here]
    · omega
    · rw [here]
      omega

/-- The stored values of a counter that is only added to. -/
theorem settled_toNat {updates : List CounterUpdate}
    (adds : ∀ update ∈ updates, ∃ count, update = .add count)
    (room : (updates.map CounterUpdate.amount).sum < 2 ^ 64) :
    (settled CounterUpdate.stored 0 updates).toNat = (updates.map CounterUpdate.amount).sum := by
  induction updates using List.reverseRecOn with
  | nil => rfl
  | append_singleton updates update ih =>
    obtain ⟨count, rfl⟩ := adds update (by simp)
    simp only [List.map_append, List.sum_append, List.map_singleton, List.sum_singleton] at room ⊢
    have before := ih (fun other member => adds other (List.mem_append_left _ member)) (by omega)
    rw [settled_concat, CounterUpdate.stored, Option.getD_some, UInt64.toNat_add, before]
    exact Nat.mod_eq_of_lt room

end Sums

section Histories

/-- Every update of the list is an `add`. -/
def OnlyAdds (updates : List (Counter × CounterUpdate)) : Prop :=
  ∀ update ∈ updates, ∃ count, update.2 = .add count

/-- Two lists only add if each does. -/
theorem onlyAdds_append {first second : List (Counter × CounterUpdate)} :
    OnlyAdds (first ++ second) ↔ OnlyAdds first ∧ OnlyAdds second := by
  simp only [OnlyAdds, List.forall_mem_append]

/-- A guarded addition only adds. -/
theorem onlyAdds_guardedAdd (counter : Counter) (count : UInt64) :
    OnlyAdds (guardedAdd counter count) := by
  unfold guardedAdd
  split <;> simp [OnlyAdds]

/-- A flush only adds. -/
theorem BatchStats.onlyAdds (batch : BatchStats) : OnlyAdds batch.updates := by
  have routed : OnlyAdds batch.cidUpdates := by
    unfold BatchStats.cidUpdates
    split
    · intro update member
      rcases List.mem_cons.mp member with rfl | inside
      · exact ⟨_, rfl⟩
      · obtain ⟨id, -, inside⟩ := List.mem_flatMap.mp inside
        exact onlyAdds_guardedAdd _ _ update inside
    · simp [OnlyAdds]
  simp [BatchStats.updates, onlyAdds_append, onlyAdds_guardedAdd, routed]

/-- Calls only add to the counters that are summed. -/
theorem StatsCall.updates_add {counter : Counter} (summed : counter ≠ .pendingFillPeak)
    (call : StatsCall) : ∀ update ∈ onCell counter call.updates, ∃ count, update = .add count := by
  intro update member
  obtain ⟨made, listed, rfl⟩ := List.mem_map.mp member
  obtain ⟨listed, same⟩ := List.mem_filter.mp listed
  cases call with
  | recordRx count =>
    cases List.mem_singleton.mp listed
    exact ⟨count, rfl⟩
  | recordPendingFill depth =>
    cases List.mem_singleton.mp listed
    exact absurd (of_decide_eq_true same).symm summed
  | flush batch => exact batch.onlyAdds made listed

/-- Calls only raise the peak. -/
theorem StatsCall.updates_raise (call : StatsCall) :
    ∀ update ∈ onCell .pendingFillPeak call.updates, ∃ depth, update = .raise depth := by
  cases call with
  | recordRx count => simp [updates, onCell]
  | recordPendingFill depth => simp [updates, onCell]
  | flush batch =>
    simp [updates, BatchStats.updates, onCell_append, onCell_guardedAdd_of_ne,
      onCell_cidUpdates_of_ne]

variable {workers : Nat} {log : StatsLog workers} {machine : StatsMachine workers}

/-- What has been stored in a counter was asked for by calls on its slot. -/
theorem StatsRun.updates_asked (run : StatsRun workers log machine) (slot : Fin workers)
    (counter : Counter) :
    updatesOn (slot, counter) log <+:
      (callsOn slot log).flatMap fun call => onCell counter call.updates := by
  obtain ⟨-, threads⟩ := run.cells (fun cell => .worker cell.1) statsAllowed_exclusive
  have complete := (threads (.worker slot)).1.pending (slot, counter) rfl
  rw [requestedOn_eq] at complete
  exact ⟨_, complete⟩

/-- A slot has recorded no more than all slots. -/
theorem recordedOn_le (counter : Counter) (slot : Fin workers) :
    recordedOn counter log slot ≤ recorded counter log :=
  List.single_le_sum (fun _ _ => Nat.zero_le _) _
    (List.mem_map_of_mem (List.mem_finRange slot))

/-- The adds that are in a prefix of what a slot's calls ask for. -/
theorem adds_of_asked {counter : Counter} (summed : counter ≠ .pendingFillPeak) {slot : Fin workers}
    {updates : List CounterUpdate}
    (part : updates <+: (callsOn slot log).flatMap fun call => onCell counter call.updates) :
    (∀ update ∈ updates, ∃ count, update = .add count) ∧
      (updates.map CounterUpdate.amount).sum ≤ recordedOn counter log slot := by
  constructor
  · intro update member
    obtain ⟨call, -, inside⟩ := List.mem_flatMap.mp (part.subset member)
    exact call.updates_add summed update inside
  · obtain ⟨rest, whole⟩ := part
    rw [recordedOn, ← whole, List.map_append, List.sum_append]
    exact Nat.le_add_right _ _

/-- A counter that does not overflow only grows, and holds at most what was recorded. -/
theorem StatsRun.history_summed (run : StatsRun workers log machine) {counter : Counter}
    (summed : counter ≠ .pendingFillPeak) (room : recorded counter log < 2 ^ 64)
    (slot : Fin workers) :
    (historyOn CounterUpdate.stored (fun _ => 0) (slot, counter) log).Pairwise (· ≤ ·) ∧
      ∀ value ∈ historyOn CounterUpdate.stored (fun _ => 0) (slot, counter) log,
        value.toNat ≤ recordedOn counter log slot := by
  have part := run.updates_asked slot counter
  have small : recordedOn counter log slot < 2 ^ 64 :=
    Nat.lt_of_le_of_lt (recordedOn_le counter slot) room
  obtain ⟨adds, total⟩ := adds_of_asked summed part
  have rises : ∀ earlier update, earlier ++ [update] <+: updatesOn (slot, counter) log → ∀ next,
      CounterUpdate.stored update (settled CounterUpdate.stored 0 earlier) = some next →
        settled CounterUpdate.stored 0 earlier ≤ next := by
    intro earlier update before next written
    have whole := adds_of_asked summed (before.trans part)
    obtain ⟨count, rfl⟩ := whole.1 update (List.mem_append_right _ List.mem_cons_self)
    obtain rfl : _ + count = next := Option.some.inj written
    have fits := whole.2
    simp only [List.map_append, List.sum_append, List.map_singleton, List.sum_singleton,
      CounterUpdate.amount] at fits
    have value := settled_toNat (fun other member => whole.1 other (List.mem_append_left _ member))
      (by omega)
    rw [UInt64.le_iff_toNat_le, UInt64.toNat_add, value, Nat.mod_eq_of_lt (by omega)]
    exact Nat.le_add_right _ _
  obtain ⟨rising, bounded⟩ := history_pairwise UInt64.le_refl UInt64.le_trans rises
  refine ⟨rising, ?_⟩
  intro value member
  have below := UInt64.le_iff_toNat_le.mp (bounded value member)
  rw [settled_toNat adds (by omega)] at below
  exact Nat.le_trans below total

/-- The peak only grows. -/
theorem StatsRun.history_peak (run : StatsRun workers log machine) (slot : Fin workers) :
    (historyOn CounterUpdate.stored (fun _ => 0) (slot, .pendingFillPeak) log).Pairwise
      (· ≤ ·) := by
  have part := run.updates_asked slot .pendingFillPeak
  refine (history_pairwise UInt64.le_refl UInt64.le_trans ?_).1
  intro earlier update before next written
  have asked := part.subset (before.subset (List.mem_append_right _ List.mem_cons_self))
  obtain ⟨call, -, inside⟩ := List.mem_flatMap.mp asked
  obtain ⟨depth, rfl⟩ := call.updates_raise update inside
  simp only [CounterUpdate.stored, Option.ite_none_right_eq_some, Option.some.injEq] at written
  rw [← written.2]
  exact UInt64.le_of_lt written.1

end Histories

section Readers

/-- Summed counters are combined by addition. -/
theorem Counter.combine_summed {counter : Counter} (summed : counter ≠ .pendingFillPeak) :
    counter.combine = (· + ·) := by
  funext total value
  rw [Counter.combine, if_neg summed]

/-- The largest peak of larger peaks is larger. -/
theorem foldl_peak_le {first second : List UInt64} (each : List.Forall₂ (· ≤ ·) first second)
    {low high : UInt64} (below : low ≤ high) :
    first.foldl Counter.pendingFillPeak.combine low ≤
      second.foldl Counter.pendingFillPeak.combine high := by
  induction each generalizing low high with
  | nil => exact below
  | @cons value value' _ _ here _ ih =>
    apply ih
    simp only [Counter.combine, if_true, UInt64.le_iff_toNat_le, UInt64.lt_iff_toNat_lt] at *
    split <;> split <;> omega

/-- In a rising list a later position does not hold less. -/
theorem getElem?_le {values : List UInt64} (rising : values.Pairwise (· ≤ ·)) {low high : Nat}
    {first second : UInt64} (before : low ≤ high) (atLow : values[low]? = some first)
    (atHigh : values[high]? = some second) : first ≤ second := by
  obtain ⟨insideLow, rfl⟩ := List.getElem?_eq_some_iff.mp atLow
  obtain ⟨insideHigh, rfl⟩ := List.getElem?_eq_some_iff.mp atHigh
  rcases Nat.lt_or_eq_of_le before with less | rfl
  · exact List.pairwise_iff_getElem.mp rising low high insideLow insideHigh less
  · exact UInt64.le_refl _

variable {workers : Nat} {log : StatsLog workers} {machine : StatsMachine workers} {id : Nat}

/-- Everything that is known of a reader's finished scans. -/
theorem StatsRun.scans_spec (run : StatsRun workers log machine) (id : Nat) :
    (scans (StatsThread.reader id) log).Pairwise NotBefore ∧
      ∀ seen ∈ scans (StatsThread.reader id) log, seen.map Sight.cell = aggregateOrder workers ∧
        ∀ sight ∈ seen, (historyOn CounterUpdate.stored (fun _ => 0) sight.cell log)[sight.index]? =
          some sight.value := by
  obtain ⟨-, threads⟩ := run.cells (fun cell => .worker cell.1) statsAllowed_exclusive
  have reads := (threads (.reader id)).2
  refine ⟨(List.pairwise_append.mp reads.ordered).1, ?_⟩
  intro seen member
  exact ⟨reads.whole seen member, reads.placed seen (List.mem_append_left _ member)⟩

/-- A counter of a snapshot is the exact sum of what was read, and no more than was recorded. -/
theorem StatsRun.snapshot_summed (run : StatsRun workers log machine) {counter : Counter}
    (summed : counter ≠ .pendingFillPeak) (room : recorded counter log < 2 ^ 64)
    {seen : List (Sight (StatsCell workers) UInt64)}
    (member : seen ∈ scans (StatsThread.reader id) log) :
    ((Snapshot.ofSights seen).counter counter).toNat =
        ((seen.filter fun sight => sight.cell.2 = counter).map fun sight =>
          sight.value.toNat).sum ∧
      ((Snapshot.ofSights seen).counter counter).toNat ≤ recorded counter log := by
  obtain ⟨whole, placed⟩ := (run.scans_spec id).2 seen member
  have each : ∀ sight ∈ seen.filter fun sight => sight.cell.2 = counter,
      sight.value.toNat ≤ recordedOn counter log sight.cell.1 := by
    intro sight inside
    obtain ⟨inside, same⟩ := List.mem_filter.mp inside
    have here := List.mem_of_getElem? (placed sight inside)
    obtain ⟨⟨slot, named⟩, index, value⟩ := sight
    obtain rfl : named = counter := of_decide_eq_true same
    exact (run.history_summed summed room slot).2 value here
  have total : ((seen.filter fun sight => sight.cell.2 = counter).map fun sight =>
      recordedOn counter log sight.cell.1).sum = recorded counter log := by
    have cells := congrArg (List.map fun cell => recordedOn counter log cell.1)
      (filter_cells whole counter)
    rw [List.map_map, List.map_map] at cells
    exact congrArg List.sum cells
  have bound := List.sum_le_sum each
  rw [total] at bound
  have value : ((Snapshot.ofSights seen).counter counter).toNat =
      ((seen.filter fun sight => sight.cell.2 = counter).map fun sight =>
        sight.value.toNat).sum := by
    have start : Snapshot.zero.counter counter = 0 := by cases counter <;> rfl
    rw [Snapshot.ofSights, Snapshot.foldl_load_counter, Counter.combine_summed summed, start,
      foldl_add_toNat]
    · simp [Function.comp_def]
    · simp only [List.map_map, Function.comp_def, UInt64.toNat_zero]
      omega
  exact ⟨value, value ▸ bound⟩

/-- What a reader has of one cell in a later scan is not less. -/
theorem StatsRun.sights_le (run : StatsRun workers log machine) {counter : Counter}
    (room : counter ≠ .pendingFillPeak → recorded counter log < 2 ^ 64)
    {earlier later : List (Sight (StatsCell workers) UInt64)}
    (first : earlier ∈ scans (StatsThread.reader id) log)
    (second : later ∈ scans (StatsThread.reader id) log) (ordered : NotBefore earlier later) :
    List.Forall₂ (fun left right => left.value ≤ right.value)
      (earlier.filter fun sight => sight.cell.2 = counter)
      (later.filter fun sight => sight.cell.2 = counter) := by
  obtain ⟨wholeFirst, placedFirst⟩ := (run.scans_spec id).2 earlier first
  obtain ⟨wholeSecond, placedSecond⟩ := (run.scans_spec id).2 later second
  have rising : ∀ slot, (historyOn CounterUpdate.stored (fun _ => 0) (slot, counter) log).Pairwise
      (· ≤ ·) := by
    intro slot
    by_cases peak : counter = .pendingFillPeak
    · subst peak
      exact run.history_peak slot
    · exact (run.history_summed peak (room peak) slot).1
  apply forall₂_of_cells
  · rw [filter_cells wholeFirst, filter_cells wholeSecond]
  · intro left inLeft right inRight same
    obtain ⟨inLeft, named⟩ := List.mem_filter.mp inLeft
    obtain ⟨inRight, -⟩ := List.mem_filter.mp inRight
    have low := placedFirst left inLeft
    have high := placedSecond right inRight
    have before := ordered left inLeft right inRight same
    rw [← same] at high
    obtain ⟨⟨slot, leftCounter⟩, index, value⟩ := left
    obtain rfl : leftCounter = counter := of_decide_eq_true named
    exact getElem?_le (rising slot) before low high

/-- The counters of a reader's snapshots never go back. -/
theorem StatsRun.snapshots_rising (run : StatsRun workers log machine) (id : Nat)
    (counter : Counter) (room : counter ≠ .pendingFillPeak → recorded counter log < 2 ^ 64) :
    (snapshots id log).Pairwise fun earlier later =>
      earlier.counter counter ≤ later.counter counter := by
  rw [snapshots, List.pairwise_map]
  refine (run.scans_spec id).1.imp_of_mem ?_
  intro earlier later first second ordered
  have each := run.sights_le room first second ordered
  by_cases peak : counter = .pendingFillPeak
  · subst peak
    rw [Snapshot.ofSights, Snapshot.foldl_load_counter, Snapshot.ofSights,
      Snapshot.foldl_load_counter]
    apply foldl_peak_le _ (UInt64.le_refl _)
    rw [List.forall₂_map_left_iff, List.forall₂_map_right_iff]
    exact each
  · rw [UInt64.le_iff_toNat_le, (run.snapshot_summed peak (room peak) first).1,
      (run.snapshot_summed peak (room peak) second).1]
    apply List.Forall₂.sum_le_sum
    rw [List.forall₂_map_left_iff, List.forall₂_map_right_iff]
    exact each.imp fun _ _ below => UInt64.le_iff_toNat_le.mp below

/-- Deltas of snapshots that do not go back add up to the whole change. -/
theorem Snapshot.deltas_sum {counter : Counter} (summed : counter ≠ .pendingFillPeak)
    (taken : List Snapshot) (previous : Snapshot)
    (rising : (previous :: taken).Pairwise fun earlier later =>
      earlier.counter counter ≤ later.counter counter) :
    (previous.counter counter).toNat +
        ((deltas previous taken).map fun delta => (delta.counter counter).toNat).sum =
      (((taken.getLast?).getD previous).counter counter).toNat := by
  induction taken generalizing previous with
  | nil => rfl
  | cons current taken ih =>
    obtain ⟨above, rising⟩ := List.pairwise_cons.mp rising
    have grown := above current List.mem_cons_self
    have rest := ih current rising
    have here : (previous.counter counter).toNat ≤ (current.counter counter).toNat :=
      UInt64.le_iff_toNat_le.mp grown
    rw [deltas, List.map_cons, List.sum_cons, delta_counter summed,
      UInt64.toNat_sub_of_le _ _ grown]
    rw [List.getLast?_cons, Option.getD_some, ← rest]
    omega

/-- What is logged of a counter is part of what was computed. -/
theorem Snapshot.reports_sum_le (counter : Counter) (previous : Snapshot) (taken : List Snapshot) :
    ((reports previous taken).map fun delta => (delta.counter counter).toNat).sum ≤
      ((deltas previous taken).map fun delta => (delta.counter counter).toNat).sum :=
  (List.filter_sublist.map _).sum_le_sum fun _ _ => Nat.zero_le _

/-- The deltas that are not logged have no received packets. -/
theorem Snapshot.reports_sum_rx (previous : Snapshot) (taken : List Snapshot) :
    ((reports previous taken).map fun delta => (delta.counter .rxPackets).toNat).sum =
      ((deltas previous taken).map fun delta => (delta.counter .rxPackets).toNat).sum := by
  unfold reports
  induction deltas previous taken with
  | nil => rfl
  | cons delta rest ih =>
    by_cases busy : 0 < delta.rxPackets
    · rw [List.filter_cons_of_pos (by simpa using busy), List.map_cons, List.map_cons,
        List.sum_cons, List.sum_cons, ih]
    · have idle : (delta.counter .rxPackets).toNat = 0 := by
        rw [UInt64.lt_iff_toNat_lt] at busy
        exact Nat.eq_zero_of_not_pos busy
      rw [List.filter_cons_of_neg (by simpa using busy), List.map_cons, List.sum_cons, ih, idle,
        Nat.zero_add]

end Readers

section Alone

/-- Loading all counters of a slot adds the slot to the total. -/
theorem Snapshot.foldl_loadOrder (total : Snapshot) (slot : WorkerStats) :
    Counter.loadOrder.foldl (fun total counter => total.load counter (slot.counter counter)) total =
      total.addSlot slot := by
  apply Snapshot.ext_counter
  intro counter
  have each : ∀ (counters : List Counter) (total : Snapshot),
      (counters.foldl (fun total loaded => total.load loaded (slot.counter loaded)) total).counter
          counter =
        (counters.filter fun loaded => loaded = counter).foldl
          (fun value loaded => loaded.combine value (slot.counter loaded))
          (total.counter counter) := by
    intro counters
    induction counters with
    | nil => exact fun _ => rfl
    | cons loaded counters ih =>
      intro total
      rw [List.foldl_cons, ih, Snapshot.load_counter]
      by_cases same : loaded = counter
      · simp [same]
      · simp [same, Ne.symm same]
  rw [each, Counter.loadOrder_filter, Snapshot.addSlot_counter]
  rfl

variable {workers : Nat} {log : StatsLog workers} {machine : StatsMachine workers}

/-- The table that the calls on the slots leave when they run alone. -/
def tableAfter (log : StatsLog workers) : StatsTable :=
  ⟨(List.finRange workers).map fun slot => (callsOn slot log).foldl StatsCall.run .new⟩

/-- Loading the latest counters of a table in order is its aggregate. -/
theorem ofSights_aggregate (log : StatsLog workers) (memory : StatsCell workers → List UInt64) :
    Snapshot.ofSights ((aggregateOrder workers).map (latestSight memory fun cell =>
      ((callsOn cell.1 log).foldl StatsCall.run .new).counter cell.2)) =
      (tableAfter log).aggregate := by
  rw [Snapshot.ofSights, StatsTable.aggregate, tableAfter, aggregateOrder]
  generalize Snapshot.zero = total
  induction List.finRange workers generalizing total with
  | nil => rfl
  | cons slot slots ih =>
    rw [List.flatMap_cons, List.map_append, List.foldl_append, ih, List.map_cons, List.foldl_cons]
    congr 1
    rw [← Snapshot.foldl_loadOrder, List.map_map, List.foldl_map]
    rfl

/-- The accesses of an `aggregate` that finds the counters the calls of the log leave. -/
def aggregateLog (id : Nat) (memory : StatsCell workers → List UInt64) (log : StatsLog workers) :
    StatsLog workers :=
  let values : StatsCell workers → UInt64 := fun cell =>
    ((callsOn cell.1 log).foldl StatsCall.run .new).counter cell.2
  (.reader id, .scan) :: readsOf (.reader id) memory values (aggregateOrder workers) ++
    [(.reader id, .finish ((aggregateOrder workers).map (latestSight memory values)))]

/-- Aggregating is no call on a slot. -/
theorem callsOn_aggregateLog (slot : Fin workers) (id : Nat)
    (memory : StatsCell workers → List UInt64) :
    callsOn slot (aggregateLog id memory log) = [] := by
  rw [callsOn, aggregateLog, List.cons_append, List.flatMap_cons, List.flatMap_append, readsOf,
    List.flatMap_map]
  simp

/-- The calls on a slot, over two logs. -/
theorem callsOn_append (slot : Fin workers) (more : StatsLog workers) :
    callsOn slot (log ++ more) = callsOn slot log ++ callsOn slot more := by
  simp [callsOn]

/-- While all workers are between calls, a reader can take the aggregate of the table. -/
theorem StatsRun.aggregate_alone (run : StatsRun workers log machine) (id : Nat)
    (free : (machine.threads (.reader id)).task = .updating [])
    (between : ∀ slot, (machine.threads (.worker slot)).task = .updating []) :
    ∃ machine', StatsRun workers (log ++ aggregateLog id machine.shared log) machine' ∧
      (∀ slot, machine'.threads (.worker slot) = machine.threads (.worker slot)) ∧
      (machine'.threads (.reader id)).task = .updating [] ∧
      snapshots id (log ++ aggregateLog id machine.shared log) =
        snapshots id log ++ [(tableAfter log).aggregate] := by
  obtain ⟨memory, threads⟩ := run.cells (fun cell => .worker cell.1) statsAllowed_exclusive
  have inside := (threads (.reader id)).2.inside
  obtain ⟨view, standing⟩ : ∃ view, machine.threads (.reader id) = ⟨.updating [], view⟩ :=
    ⟨_, congrArg (CellUser.mk · (machine.threads (.reader id)).view) free⟩
  rw [standing] at inside
  have begun : StatsRun workers (log ++ [(.reader id, .scan)]) _ :=
    run.advance (.reader id) standing ⟨id, rfl⟩ .scan
  obtain ⟨machine', view', read, same, others, ended⟩ := begun.scan_alone (fun _ _ _ => trivial)
    (Machine.move_threads_self _ _ _ _) (fun cell => run.slot_latest (between cell.1) cell.2)
    (fun cell => by rw [Machine.move_shared, memory]; exact inside cell)
  rw [List.nil_append, Machine.move_shared] at ended
  rw [Machine.move_shared] at read
  have finished : StatsRun workers (_ ++ [(.reader id, .finish _)]) _ :=
    read.advance (.reader id) ended trivial .finish
  have joined : log ++ aggregateLog id machine.shared log = _ :=
    (List.append_assoc _ [_] _).symm.trans (List.append_assoc _ _ _).symm
  refine ⟨_, joined ▸ finished, ?_, by rw [Machine.move_threads_self], ?_⟩
  · intro slot
    rw [Machine.move_threads_of_ne _ _ _ _ (by simp), others _ (by simp),
      Machine.move_threads_of_ne _ _ _ _ (by simp)]
  · rw [joined, snapshots, scans_concat, scans_append_readsOf, scans_concat,
      ← ofSights_aggregate log machine.shared]
    simp [CellEvent.finished, snapshots]

end Alone

/-- The load and store of a worker's `add` lose nothing: between two calls, every counter of its
slot has the value that its calls so far leave when they run alone. When all workers are between
calls, an `aggregate` that reads the latest values is that of the table these calls leave. -/
theorem counters_sequential {workers : Nat} {log : StatsLog workers}
    {machine : StatsMachine workers} (run : StatsRun workers log machine) :
    (∀ slot, (machine.threads (.worker slot)).task = .updating [] → ∀ counter,
        (machine.shared (slot, counter)).getLast? =
          some (((callsOn slot log).foldl StatsCall.run .new).counter counter)) ∧
      ∀ id, (machine.threads (.reader id)).task = .updating [] →
        (∀ slot, (machine.threads (.worker slot)).task = .updating []) →
          ∃ more machine', StatsRun workers (log ++ more) machine' ∧
            snapshots id (log ++ more) = snapshots id log ++ [(tableAfter log).aggregate] := by
  refine ⟨fun _ between => run.slot_latest between, ?_⟩
  intro id free between
  obtain ⟨machine', continued, -, -, taken⟩ := run.aggregate_alone id free between
  exact ⟨_, machine', continued, taken⟩

namespace SampleRace

/-- A worker that records the given number of received packets. -/
def received (count : UInt64) : StatsLog 1 :=
  [(.worker 0, .call (0, .recordRx count)), (.worker 0, .load (0, .rxPackets)),
    (.worker 0, .store (0, .rxPackets) (.add count))]

/-- From any point at which the worker is between calls it can record what it received. -/
theorem receives {log : StatsLog 1} {machine : StatsMachine 1} (run : StatsRun 1 log machine)
    (between : (machine.threads (.worker 0)).task = .updating []) (count : UInt64) :
    ∃ machine', StatsRun 1 (log ++ received count) machine' ∧
      (machine'.threads (.worker 0)).task = .updating [] ∧
      ∀ id, machine'.threads (.reader id) = machine.threads (.reader id) := by
  obtain ⟨view, standing⟩ : ∃ view, machine.threads (.worker 0) = ⟨.updating [], view⟩ :=
    ⟨_, congrArg (CellUser.mk · (machine.threads (.worker 0)).view) between⟩
  have called : StatsRun 1 (log ++ [(.worker 0, .call (0, .recordRx count))]) _ :=
    run.advance (.worker 0) standing rfl (.call (0, StatsCall.recordRx count))
  have loaded : StatsRun 1 (_ ++ [(.worker 0, .load (0, .rxPackets))]) _ :=
    called.advance (.worker 0) (Machine.move_threads_self _ _ _ _) trivial
      (.load (run.slot_latest between .rxPackets))
  have stored : StatsRun 1 (_ ++ [(.worker 0, .store (0, .rxPackets) (.add count))]) _ :=
    loaded.advance (.worker 0) (Machine.move_threads_self _ _ _ _) trivial (.store rfl)
  refine ⟨_, by simpa [received] using stored, by simp, ?_⟩
  intro id
  rw [Machine.move_threads_of_ne _ _ _ _ (by simp), Machine.move_threads_of_ne _ _ _ _ (by simp),
    Machine.move_threads_of_ne _ _ _ _ (by simp)]

/-- From any point at which both are free, the worker records what it received and the reader
takes a snapshot. -/
theorem receives_and_reads {log : StatsLog 1} {machine : StatsMachine 1}
    (run : StatsRun 1 log machine) (between : (machine.threads (.worker 0)).task = .updating [])
    (free : (machine.threads (.reader 0)).task = .updating []) (count : UInt64) :
    ∃ log' machine', StatsRun 1 log' machine' ∧
      (machine'.threads (.worker 0)).task = .updating [] ∧
      (machine'.threads (.reader 0)).task = .updating [] ∧
      callsOn 0 log' = callsOn 0 log ++ [.recordRx count] ∧
      snapshots 0 log' = snapshots 0 log ++ [(tableAfter (log ++ received count)).aggregate] := by
  obtain ⟨middle, received, stillBetween, readers⟩ := receives run between count
  obtain ⟨machine', continued, same, nowFree, taken⟩ := received.aggregate_alone 0
    (by rw [readers]; exact free)
    (fun slot => by rw [Subsingleton.elim slot 0]; exact stillBetween)
  refine ⟨_, machine', continued, by rw [same]; exact stillBetween, nowFree, ?_, ?_⟩
  · rw [callsOn_append, callsOn_append, callsOn_aggregateLog, List.append_nil]
    rfl
  · rw [taken, snapshots, snapshots, scans, List.flatMap_append]
    simp [SampleRace.received, scans, CellEvent.finished]

/-- Three packets, a snapshot, two more packets and another snapshot. -/
theorem two_snapshots : ∃ log machine, StatsRun 1 log machine ∧
    (machine.threads (.worker 0)).task = .updating [] ∧
    callsOn 0 log = [.recordRx 3, .recordRx 2] ∧
    (snapshots 0 log).map (fun total => total.counter .rxPackets) = [3, 5] := by
  obtain ⟨log, machine, run, between, free, calls, taken⟩ := receives_and_reads .nil rfl rfl 3
  obtain ⟨log', machine', run', between', -, calls', taken'⟩ :=
    receives_and_reads run between free 2
  refine ⟨log', machine', run', between', by rw [calls', calls]; rfl, ?_⟩
  have second : (tableAfter (log ++ received 2)).aggregate.counter .rxPackets = 5 := by
    rw [tableAfter, show List.finRange 1 = [0] from rfl, List.map_singleton, callsOn_append, calls]
    decide
  rw [taken', taken, List.map_append, List.map_append, List.map_singleton, List.map_singleton,
    second]
  decide

end SampleRace

open SampleRace in
/-- The slot holds the five packets of its two calls. -/
theorem counters_sequential_sample : ∃ log machine, StatsRun 1 log machine ∧
    callsOn 0 log = [.recordRx 3, .recordRx 2] ∧
    (machine.shared (0, .rxPackets)).getLast? = some 5 := by
  obtain ⟨log, machine, run, between, calls, -⟩ := two_snapshots
  refine ⟨log, machine, run, calls, ?_⟩
  rw [(counters_sequential run).1 0 between, calls]
  decide

/-- A reader that logs deltas of its snapshots as the main loop does. The snapshots of a counter
never go back, and the deltas that are computed add up to the last snapshot, which is no more than
the workers have recorded. What is logged is no more than that, and for the received packets it is
all of it: the deltas that are not logged have none. -/
theorem reports_account {workers : Nat} {log : StatsLog workers} {machine : StatsMachine workers}
    (run : StatsRun workers log machine) (id : Nat) {counter : Counter}
    (summed : counter ≠ .pendingFillPeak) (room : recorded counter log < 2 ^ 64) :
    ((snapshots id log).Pairwise fun earlier later =>
        earlier.counter counter ≤ later.counter counter) ∧
      ((Snapshot.deltas .zero (snapshots id log)).map fun delta =>
          (delta.counter counter).toNat).sum =
        (((snapshots id log).getLast?.getD .zero).counter counter).toNat ∧
      (((snapshots id log).getLast?.getD .zero).counter counter).toNat ≤ recorded counter log ∧
      ((Snapshot.reports .zero (snapshots id log)).map fun delta =>
          (delta.counter counter).toNat).sum ≤
        (((snapshots id log).getLast?.getD .zero).counter counter).toNat ∧
      (counter = .rxPackets →
        ((Snapshot.reports .zero (snapshots id log)).map fun delta =>
            (delta.counter counter).toNat).sum =
          (((snapshots id log).getLast?.getD .zero).counter counter).toNat) := by
  have rising := run.snapshots_rising id counter fun _ => room
  have zero : Snapshot.zero.counter counter = 0 := by cases counter <;> rfl
  have computed : ((Snapshot.deltas .zero (snapshots id log)).map fun delta =>
        (delta.counter counter).toNat).sum =
      (((snapshots id log).getLast?.getD .zero).counter counter).toNat := by
    have sum := Snapshot.deltas_sum summed (snapshots id log) .zero
      (List.pairwise_cons.mpr ⟨fun later _ => zero ▸ UInt64.zero_le, rising⟩)
    rwa [zero, UInt64.toNat_zero, Nat.zero_add] at sum
  refine ⟨rising, computed, ?_, ?_, ?_⟩
  · cases last : (snapshots id log).getLast? with
    | none => simp [zero]
    | some total =>
      obtain ⟨seen, member, rfl⟩ := List.mem_map.mp (List.mem_of_getLast? last)
      exact (run.snapshot_summed summed room member).2
  · exact computed ▸ Snapshot.reports_sum_le counter .zero (snapshots id log)
  · rintro rfl
    exact computed ▸ Snapshot.reports_sum_rx .zero (snapshots id log)

open SampleRace in
/-- Five packets are logged as three and then two. -/
theorem reports_account_sample : ∃ log machine, StatsRun 1 log machine ∧
    (snapshots 0 log).map (fun total => total.counter .rxPackets) = [3, 5] ∧
    ((Snapshot.reports .zero (snapshots 0 log)).map fun delta =>
      (delta.counter .rxPackets).toNat).sum = 5 := by
  obtain ⟨log, machine, run, -, calls, taken⟩ := two_snapshots
  have total : recorded .rxPackets log = 5 := by
    rw [recorded, show List.finRange 1 = [0] from rfl, List.map_singleton, recordedOn, calls]
    decide
  have summed : Counter.rxPackets ≠ .pendingFillPeak := by decide
  obtain ⟨-, -, -, -, logged⟩ := reports_account run 0 summed (by rw [total]; decide)
  have last := congrArg List.getLast? taken
  rw [List.getLast?_map] at last
  obtain ⟨final, isLast, value⟩ := Option.map_eq_some_iff.mp last
  refine ⟨log, machine, run, taken, ?_⟩
  rw [logged rfl, isLast, Option.getD_some, value]
  rfl

end Pesigitg
