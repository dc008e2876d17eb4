import Mathlib.Data.List.Count
import Mathlib.Data.List.Perm.Subperm
import Mathlib.Data.UInt
import Pesigitg.Base.Interleave
import Pesigitg.Retry.Config

/-!
# The load tracker under concurrent flushes

`record_batch` is a load, a compare-exchange, a swap, a store and a `fetch_add`
on three atomics, and workers flush whenever their batches end. `FlushStep` is one
such access, with the locals a worker carries to the next one in its phase;
`recordBatch` is the same call run without interruption. Every access is relaxed,
but each atomic has one modification order and a compare-exchange, a swap and a
`fetch_add` read its latest value, so an order of steps is what the workers see.
-/

namespace Pesigitg

open Base

/-- Where a worker stands inside `record_batch`, with the locals still in use. -/
inductive FlushPhase where
  | idle
  | loading (count nowSec : UInt64)
  | exchanging (count nowSec cur : UInt64)
  | swapping (count nowSec cur : UInt64)
  | storing (count nowSec cur prev : UInt64)
  | adding (count : UInt64)
deriving DecidableEq, Repr

/-- What a step did: the arguments of a call, or the values an access saw and wrote. -/
inductive FlushEvent where
  | call (count nowMs : UInt64)
  | load (cur : UInt64)
  | exchange (cur nowSec : UInt64) (won : Bool)
  | swap (prev : UInt64)
  | store (prev : UInt64)
  | fetchAdd (count : UInt64)
deriving DecidableEq, Repr

/-- The end of every path: add the count, unless there is nothing to add. -/
def FlushPhase.tally (count : UInt64) : FlushPhase :=
  if 0 < count then .adding count else .idle

/-- One access of `record_batch`. -/
inductive FlushStep : AtomicStep FlushPhase LoadRateTracker FlushEvent
  | call (tracker : LoadRateTracker) (count nowMs : UInt64) :
      FlushStep .idle tracker (.call count nowMs) (.loading count (nowMs / 1000)) tracker
  | loadSame {tracker : LoadRateTracker} {count nowSec : UInt64}
      (same : nowSec = tracker.windowSec) :
      FlushStep (.loading count nowSec) tracker (.load tracker.windowSec) (.tally count) tracker
  | loadOther {tracker : LoadRateTracker} {count nowSec : UInt64}
      (other : nowSec ≠ tracker.windowSec) :
      FlushStep (.loading count nowSec) tracker (.load tracker.windowSec)
        (.exchanging count nowSec tracker.windowSec) tracker
  | exchangeWon {tracker : LoadRateTracker} {count nowSec cur : UInt64}
      (matched : tracker.windowSec = cur) :
      FlushStep (.exchanging count nowSec cur) tracker (.exchange cur nowSec true)
        (.swapping count nowSec cur) { tracker with windowSec := nowSec }
  | exchangeLost {tracker : LoadRateTracker} {count nowSec cur : UInt64}
      (moved : tracker.windowSec ≠ cur) :
      FlushStep (.exchanging count nowSec cur) tracker (.exchange cur nowSec false)
        (.tally count) tracker
  | swap {tracker : LoadRateTracker} {count nowSec cur : UInt64} :
      FlushStep (.swapping count nowSec cur) tracker (.swap tracker.windowCount)
        (.storing count nowSec cur tracker.windowCount) { tracker with windowCount := 0 }
  | store {tracker : LoadRateTracker} {count nowSec cur prev : UInt64} :
      FlushStep (.storing count nowSec cur prev) tracker (.store prev) (.tally count)
        { tracker with lastRate := prev }
  | fetchAdd {tracker : LoadRateTracker} {count : UInt64} :
      FlushStep (.adding count) tracker (.fetchAdd count) .idle
        { tracker with windowCount := tracker.windowCount + count }

/-- A log entry: who made the access, and what it did. -/
abbrev Flushed (Worker : Type) := Worker × FlushEvent

/-- The workers and the tracker they share. -/
abbrev FlushMachine (Worker : Type) := Machine Worker FlushPhase LoadRateTracker

/-- Nobody is flushing and the tracker is as `LoadRateTracker::new` leaves it. -/
def FlushMachine.new (Worker : Type) : FlushMachine Worker := ⟨fun _ => .idle, .new⟩

/-- Any order of the accesses of any number of workers. -/
abbrev FlushRun {Worker : Type} [DecidableEq Worker]
    (allowed : Allowed Worker FlushPhase LoadRateTracker FlushEvent)
    (log : List (Flushed Worker)) (machine : FlushMachine Worker) : Prop :=
  Interleaving FlushStep allowed (FlushMachine.new Worker) log machine

section Uninterrupted

variable {Worker : Type} [DecidableEq Worker]

/-- Only this worker steps. -/
def Alone (worker : Worker) : Allowed Worker FlushPhase LoadRateTracker FlushEvent :=
  fun _ _ mover _ => mover = worker

/-- A worker at the end of a call adds its count and is done. -/
theorem tally_alone {worker : Worker} {start machine : FlushMachine Worker}
    {log : List (Flushed Worker)} {count : UInt64}
    (run : Interleaving FlushStep (Alone worker) start log machine)
    (ending : machine.threads worker = .tally count) :
    ∃ log' machine', Interleaving FlushStep (Alone worker) start log' machine' ∧
      machine'.threads worker = .idle ∧
      machine'.shared =
        if 0 < count then
          { machine.shared with windowCount := machine.shared.windowCount + count }
        else machine.shared := by
  unfold FlushPhase.tally at ending
  by_cases positive : 0 < count
  · rw [if_pos positive] at ending ⊢
    exact ⟨_, _, run.advance worker ending rfl .fetchAdd, by simp, rfl⟩
  · rw [if_neg positive] at ending ⊢
    exact ⟨log, machine, run, ending, rfl⟩

/-- Run without interruption, the accesses of one call are `recordBatch`. -/
theorem recordBatch_alone (worker : Worker) (start : FlushMachine Worker)
    (free : start.threads worker = .idle) (count nowMs : UInt64) :
    ∃ log machine, Interleaving FlushStep (Alone worker) start log machine ∧
      machine.threads worker = .idle ∧ machine.shared = start.shared.recordBatch count nowMs := by
  have called : Interleaving FlushStep (Alone worker) start _ _ :=
    Interleaving.nil.advance worker free rfl (.call start.shared count nowMs)
  by_cases same : nowMs / 1000 = start.shared.windowSec
  · have loaded := called.advance worker (Machine.move_threads_self ..) rfl (.loadSame same)
    obtain ⟨log, machine, run, done, shared⟩ := tally_alone loaded (Machine.move_threads_self ..)
    refine ⟨log, machine, run, done, ?_⟩
    simpa [LoadRateTracker.recordBatch, same] using shared
  · have loaded := called.advance worker (Machine.move_threads_self ..) rfl (.loadOther same)
    have won := loaded.advance worker (Machine.move_threads_self ..) rfl (.exchangeWon rfl)
    have swapped := won.advance worker (Machine.move_threads_self ..) rfl .swap
    have stored := swapped.advance worker (Machine.move_threads_self ..) rfl .store
    obtain ⟨log, machine, run, done, shared⟩ := tally_alone stored (Machine.move_threads_self ..)
    refine ⟨log, machine, run, done, ?_⟩
    simpa [LoadRateTracker.recordBatch, same] using shared

end Uninterrupted

/-! ## Where a published value comes from -/

/-- What the log says about the windows: the second of the current one, the window
and amount of each count now in `window_count`, and for each worker what its last
swap took out and which second its last won exchange closed. -/
structure FlushLedger (Worker : Type) where
  window : UInt64
  filled : List (UInt64 × UInt64)
  taken : Worker → List (UInt64 × UInt64)
  closed : Worker → UInt64

namespace FlushLedger

variable {Worker : Type} [DecidableEq Worker]

def empty : FlushLedger Worker := ⟨0, [], fun _ => [], fun _ => 0⟩

def record (ledger : FlushLedger Worker) : Flushed Worker → FlushLedger Worker
  | (worker, .exchange cur nowSec true) =>
    { ledger with window := nowSec, closed := Function.update ledger.closed worker cur }
  | (worker, .swap _) =>
    { ledger with filled := [], taken := Function.update ledger.taken worker ledger.filled }
  | (_, .fetchAdd count) => { ledger with filled := (ledger.window, count) :: ledger.filled }
  | _ => ledger

/-- The ledger of a log. -/
def read (log : List (Flushed Worker)) : FlushLedger Worker := log.foldl record empty

/-- An empty log is an empty ledger. -/
@[simp] theorem read_nil : read ([] : List (Flushed Worker)) = empty := rfl

/-- One more entry is recorded behind the others. -/
@[simp] theorem read_snoc (log : List (Flushed Worker)) (entry : Flushed Worker) :
    read (log ++ [entry]) = (read log).record entry := by
  simp [read]

section Others

variable {worker other : Worker} (ledger : FlushLedger Worker) (event : FlushEvent)

/-- A worker's event leaves what others have taken alone. -/
theorem record_taken_of_ne (distinct : other ≠ worker) :
    (ledger.record (worker, event)).taken other = ledger.taken other := by
  cases event with
  | swap prev => simp [record, distinct]
  | exchange cur nowSec won => cases won <;> rfl
  | _ => rfl

/-- It leaves what others have closed alone. -/
theorem record_closed_of_ne (distinct : other ≠ worker) :
    (ledger.record (worker, event)).closed other = ledger.closed other := by
  cases event with
  | exchange cur nowSec won =>
    cases won with
    | true => simp [record, distinct]
    | false => rfl
  | _ => rfl

end Others

/-- The value a worker is about to publish stems from a window: the one its
rotation closed, or one in which part of the value was counted. -/
def Stems (ledger : FlushLedger Worker) (worker : Worker) (second : UInt64) : Prop :=
  second = ledger.closed worker ∨ ∃ count, (second, count) ∈ ledger.taken worker

end FlushLedger

/-- The seconds workers have flushed with so far. -/
def flushedSecs {Worker : Type} (log : List (Flushed Worker)) : List UInt64 :=
  log.filterMap fun entry =>
    match entry.2 with
    | .call _ nowMs => some (nowMs / 1000)
    | _ => none

/-- No flushes, no seconds. -/
@[simp] theorem flushedSecs_nil {Worker : Type} :
    flushedSecs ([] : List (Flushed Worker)) = [] := rfl

/-- The seconds of two logs. -/
@[simp] theorem flushedSecs_append {Worker : Type} (log more : List (Flushed Worker)) :
    flushedSecs (log ++ more) = flushedSecs log ++ flushedSecs more := by
  simp [flushedSecs]

section Provenance

variable {Worker : Type}

/-- The amounts of ledger entries, added as the tracker adds them. -/
def amounts (entries : List (UInt64 × UInt64)) : UInt64 := (entries.map Prod.snd).sum

/-- What a worker holds between its swap and its store is what the ledger says it took. -/
def HoldsTaken (ledger : FlushLedger Worker) (worker : Worker) : FlushPhase → Prop
  | .storing _ _ _ prev => prev = amounts (ledger.taken worker)
  | _ => True

/-- A worker that only tallies has taken nothing. -/
theorem HoldsTaken.tally (ledger : FlushLedger Worker) (worker : Worker) (count : UInt64) :
    HoldsTaken ledger worker (.tally count) := by
  unfold FlushPhase.tally
  split <;> trivial

/-- What a worker holds depends on its own part of the ledger only. -/
theorem HoldsTaken.congr {ledger later : FlushLedger Worker} {worker : Worker} {phase : FlushPhase}
    (same : later.taken worker = ledger.taken worker) (holds : HoldsTaken ledger worker phase) :
    HoldsTaken later worker phase := by
  cases phase with
  | storing count nowSec cur prev => exact holds.trans (congrArg amounts same.symm)
  | _ => trivial

variable [DecidableEq Worker] {allowed : Allowed Worker FlushPhase LoadRateTracker FlushEvent}
  {log : List (Flushed Worker)} {machine : FlushMachine Worker}

/-- The ledger accounts for the tracker: the window is the tracker's, the filled
entries add up to `window_count`, and the entries a worker took add up to the value
it is about to store. -/
theorem ledger_accounts (run : FlushRun allowed log machine) :
    (machine.shared.windowSec = (FlushLedger.read log).window ∧
      machine.shared.windowCount = amounts (FlushLedger.read log).filled) ∧
    ∀ worker, HoldsTaken (FlushLedger.read log) worker (machine.threads worker) := by
  refine Interleaving.outline
    (fun log tracker => tracker.windowSec = (FlushLedger.read log).window ∧
      tracker.windowCount = amounts (FlushLedger.read log).filled)
    (fun log worker phase => HoldsTaken (FlushLedger.read log) worker phase) ?_ ?_ run
  · exact ⟨⟨rfl, rfl⟩, fun _ => trivial⟩
  intro log machine worker event next memory _ accounted others moved
  have undisturbed : ∀ other, other ≠ worker →
      HoldsTaken (FlushLedger.read (log ++ [(worker, event)])) other (machine.threads other) := by
    intro other distinct
    refine (others other).congr ?_
    rw [FlushLedger.read_snoc, FlushLedger.record_taken_of_ne _ _ distinct]
  refine and_assoc.mp ⟨?_, undisturbed⟩
  generalize machine.threads worker = phase at moved
  obtain ⟨window, filled⟩ := accounted
  rw [FlushLedger.read_snoc]
  cases moved with
  | call | loadOther => exact ⟨⟨window, filled⟩, trivial⟩
  | loadSame | exchangeLost => exact ⟨⟨window, filled⟩, .tally ..⟩
  | exchangeWon => exact ⟨⟨rfl, filled⟩, trivial⟩
  | swap => exact ⟨⟨window, rfl⟩, by simp [HoldsTaken, FlushLedger.record, filled]⟩
  | store => exact ⟨⟨window, filled⟩, .tally ..⟩
  | fetchAdd =>
    refine ⟨⟨window, ?_⟩, trivial⟩
    simp only [FlushLedger.record, amounts, List.map_cons, List.sum_cons, filled]
    exact UInt64.add_comm _ _

end Provenance

/-! ## Rotation forwards -/

/-- A worker samples the clock once per batch and its samples never go back. -/
def OwnClock {Worker : Type} (log : List (Flushed Worker)) (worker : Worker)
    (event : FlushEvent) : Prop :=
  ∀ count nowMs, event = .call count nowMs →
    ∀ earlier before, (worker, FlushEvent.call earlier before) ∈ log → before ≤ nowMs

/-- What the worker loop promises about a run. -/
def OwnClocks {Worker : Type} : Allowed Worker FlushPhase LoadRateTracker FlushEvent :=
  fun log _ worker event => OwnClock log worker event

/-- `window_sec` never decreases from here on. -/
def WindowForward {Worker : Type} [DecidableEq Worker]
    (allowed : Allowed Worker FlushPhase LoadRateTracker FlushEvent)
    (log : List (Flushed Worker)) (machine : FlushMachine Worker) : Prop :=
  ∀ more later, Interleaving FlushStep (fun rest => allowed (log ++ rest)) machine more later →
    machine.shared.windowSec ≤ later.shared.windowSec

/-- No value was published that stems from a window whose second was still the
largest flushed. -/
def OnlyCompleted {Worker : Type} [DecidableEq Worker] (log : List (Flushed Worker)) : Prop :=
  ∀ before worker prev after, log = before ++ (worker, FlushEvent.store prev) :: after →
    ∀ second, (FlushLedger.read before).Stems worker second →
      ∃ newer ∈ flushedSecs before, second < newer

/-- A worker reads `window_sec` while the window is not ahead of its own clock, and
adds its count while no rotation is between its exchange and its swap. -/
structure InStep {Worker : Type} (log : List (Flushed Worker)) (machine : FlushMachine Worker)
    (worker : Worker) (event : FlushEvent) : Prop where
  ownClock : OwnClock log worker event
  onTime : ∀ count nowSec, machine.threads worker = .loading count nowSec →
    machine.shared.windowSec ≤ nowSec
  settled : ∀ count, event = .fetchAdd count →
    ∀ other tally nowSec cur, machine.threads other ≠ .swapping tally nowSec cur

section Forwards

variable {Worker : Type}

/-- A rotation in progress goes forwards, and what it has not taken yet was counted
before the window it opened. -/
def Rotating (ledger : FlushLedger Worker) (secs : List UInt64) (worker : Worker) :
    FlushPhase → Prop
  | .idle | .adding _ => True
  | .loading _ nowSec => nowSec ∈ secs
  | .exchanging _ nowSec cur => nowSec ∈ secs ∧ cur < nowSec
  | .swapping _ nowSec cur => (nowSec ∈ secs ∧ cur < nowSec ∧ ledger.closed worker = cur) ∧
      ∀ entry ∈ ledger.filled, entry.1 < ledger.window
  | .storing _ nowSec cur _ => (nowSec ∈ secs ∧ cur < nowSec ∧ ledger.closed worker = cur) ∧
      ∀ entry ∈ ledger.taken worker, ∃ newer ∈ secs, entry.1 < newer

/-- The window is a flushed second once it has left zero, and nothing in it was
counted in a later one. -/
def Current (ledger : FlushLedger Worker) (secs : List UInt64) : Prop :=
  (ledger.window = 0 ∨ ledger.window ∈ secs) ∧ ∀ entry ∈ ledger.filled, entry.1 ≤ ledger.window

/-- A worker that only tallies does not rotate the window. -/
theorem Rotating.tally (ledger : FlushLedger Worker) (secs : List UInt64) (worker : Worker)
    (count : UInt64) : Rotating ledger secs worker (.tally count) := by
  unfold FlushPhase.tally
  split <;> trivial

/-- What is in the window was counted before any second flushed later than it. -/
theorem Current.lt_newer {ledger : FlushLedger Worker} {secs : List UInt64}
    (current : Current ledger secs) {second : UInt64} (older : second < ledger.window) :
    ∃ newer ∈ secs, second < newer := by
  rcases current.1 with zero | flushed
  · rw [zero] at older
    exact absurd older UInt64.not_lt_zero
  · exact ⟨ledger.window, flushed, older⟩

/-- A window stays current when more seconds are flushed. -/
theorem Current.mono {ledger : FlushLedger Worker} {secs later : List UInt64}
    (current : Current ledger secs) (grown : secs ⊆ later) : Current ledger later :=
  ⟨current.1.imp_right (@grown _), current.2⟩

variable [DecidableEq Worker] {log : List (Flushed Worker)} {machine : FlushMachine Worker}

/-- A step of another worker disturbs a rotation only through what is left in the window. -/
theorem Rotating.other {ledger : FlushLedger Worker} {secs later : List UInt64}
    {worker other : Worker} {event : FlushEvent} {phase : FlushPhase} (distinct : other ≠ worker)
    (rotating : Rotating ledger secs other phase) (grown : secs ⊆ later)
    (left : ∀ count nowSec cur, phase = .swapping count nowSec cur →
      ∀ entry ∈ (ledger.record (worker, event)).filled,
        entry.1 < (ledger.record (worker, event)).window) :
    Rotating (ledger.record (worker, event)) later other phase := by
  cases phase with
  | idle | adding => trivial
  | loading => exact grown rotating
  | exchanging => exact ⟨grown rotating.1, rotating.2⟩
  | swapping count nowSec cur =>
    obtain ⟨⟨flushed, forwards, closed⟩, -⟩ := rotating
    refine ⟨⟨grown flushed, forwards, ?_⟩, left count nowSec cur rfl⟩
    rw [FlushLedger.record_closed_of_ne _ _ distinct, closed]
  | storing count nowSec cur prev =>
    obtain ⟨⟨flushed, forwards, closed⟩, taken⟩ := rotating
    refine ⟨⟨grown flushed, forwards, ?_⟩, ?_⟩
    · rw [FlushLedger.record_closed_of_ne _ _ distinct, closed]
    · rw [FlushLedger.record_taken_of_ne _ _ distinct]
      intro entry inside
      obtain ⟨newer, newerFlushed, older⟩ := taken entry inside
      exact ⟨newer, grown newerFlushed, older⟩

/-- Rotations stay in step: the invariant of runs whose steps are in step. -/
theorem rotating_of_inStep (run : FlushRun InStep log machine) :
    (machine.shared.windowSec = (FlushLedger.read log).window ∧
      Current (FlushLedger.read log) (flushedSecs log)) ∧
    ∀ worker, Rotating (FlushLedger.read log) (flushedSecs log) worker
      (machine.threads worker) := by
  refine Interleaving.outline
    (fun log tracker => tracker.windowSec = (FlushLedger.read log).window ∧
      Current (FlushLedger.read log) (flushedSecs log))
    (fun log worker phase => Rotating (FlushLedger.read log) (flushedSecs log) worker phase)
    ?_ ?_ run
  · exact ⟨⟨rfl, .inl rfl, by simp [FlushLedger.empty]⟩, fun _ => trivial⟩
  intro log machine worker event next memory inStep remembered threads moved
  rw [FlushLedger.read_snoc]
  have own := threads worker
  have onTime := inStep.onTime
  have grown : flushedSecs log ⊆ flushedSecs (log ++ [(worker, event)]) := by simp
  obtain ⟨window, current⟩ := remembered
  generalize FlushLedger.read log = ledger at *
  generalize machine.threads worker = phase at moved own onTime
  have undisturbed (left : (∃ other count nowSec cur,
        machine.threads other = .swapping count nowSec cur) →
      ∀ entry ∈ (ledger.record (worker, event)).filled,
        entry.1 < (ledger.record (worker, event)).window) :
      ∀ other, other ≠ worker → Rotating (ledger.record (worker, event))
        (flushedSecs (log ++ [(worker, event)])) other (machine.threads other) := by
    intro other distinct
    refine (threads other).other distinct grown ?_
    intro count nowSec cur swapping
    exact left ⟨other, count, nowSec, cur, swapping⟩
  have filledBefore : (∃ other count nowSec cur,
      machine.threads other = .swapping count nowSec cur) →
      ∀ entry ∈ ledger.filled, entry.1 < ledger.window := by
    rintro ⟨other, count, nowSec, cur, swapping⟩
    have rotating := threads other
    rw [swapping] at rotating
    exact rotating.2
  cases moved with
  | call count nowMs =>
    refine ⟨⟨window, current.mono grown⟩, ?_, undisturbed filledBefore⟩
    simp [Rotating, flushedSecs]
  | loadSame =>
    exact ⟨⟨window, current.mono grown⟩, .tally .., undisturbed filledBefore⟩
  | @loadOther _ count nowSec other =>
    refine ⟨⟨window, current.mono grown⟩, ⟨grown own, ?_⟩, undisturbed filledBefore⟩
    exact UInt64.lt_of_le_of_ne (onTime count nowSec rfl) (Ne.symm other)
  | @exchangeWon _ count nowSec cur matched =>
    -- the exchange found the window the worker had loaded, so it moves forwards
    have opens : ledger.window < nowSec := by
      rw [← window, matched]
      exact own.2
    have before : ∀ entry ∈ ledger.filled, entry.1 < nowSec := fun entry inside =>
      UInt64.lt_of_le_of_lt (current.2 entry inside) opens
    refine ⟨⟨rfl, .inr (grown own.1), fun entry inside => ?_⟩, ⟨⟨grown own.1, own.2, ?_⟩, before⟩,
      undisturbed fun _ => before⟩
    · exact UInt64.le_of_lt (before entry inside)
    · simp [FlushLedger.record]
  | exchangeLost =>
    exact ⟨⟨window, current.mono grown⟩, .tally .., undisturbed filledBefore⟩
  | @swap _ count nowSec cur =>
    obtain ⟨⟨flushed, forwards, closed⟩, left⟩ := own
    refine ⟨⟨window, (current.mono grown).1, by simp [FlushLedger.record]⟩,
      ⟨⟨grown flushed, forwards, closed⟩, ?_⟩, undisturbed fun _ => by simp [FlushLedger.record]⟩
    intro entry inside
    have inWindow : entry ∈ ledger.filled := by simpa [FlushLedger.record] using inside
    exact (current.mono grown).lt_newer (left entry inWindow)
  | store =>
    exact ⟨⟨window, current.mono grown⟩, .tally .., undisturbed filledBefore⟩
  | @fetchAdd _ count =>
    refine ⟨⟨window, (current.mono grown).1, ?_⟩, trivial, undisturbed ?_⟩
    · intro entry inside
      rcases List.mem_cons.mp inside with rfl | older
      · exact UInt64.le_refl _
      · exact current.2 entry older
    · rintro ⟨other, tally, nowSec, cur, swapping⟩
      exact absurd swapping (inStep.settled count rfl other tally nowSec cur)

/-- A step that is in step does not move the window back. -/
theorem windowSec_le_of_inStep {worker : Worker} {event : FlushEvent} {next : FlushPhase}
    {memory : LoadRateTracker} (run : FlushRun InStep log machine)
    (moved : FlushStep (machine.threads worker) machine.shared event next memory) :
    machine.shared.windowSec ≤ memory.windowSec := by
  have own := (rotating_of_inStep run).2 worker
  generalize machine.threads worker = phase at moved own
  cases moved with
  | exchangeWon matched =>
    rw [matched]
    exact UInt64.le_of_lt own.2
  | _ => exact UInt64.le_refl _

/-- As long as the workers are in step, the window only moves forwards and only
completed windows are published. -/
theorem window_forward_in_step (run : FlushRun InStep log machine) :
    WindowForward InStep log machine ∧ OnlyCompleted log := by
  constructor
  · intro more later rest
    induction rest with
    | nil => exact UInt64.le_refl _
    | snoc prior _ moved kept =>
      exact UInt64.le_trans kept (windowSec_le_of_inStep (run.trans prior) moved)
  · intro before worker prev after split second stems
    obtain ⟨middle, next, memory, prior, -, stored⟩ := run.logged split
    have own := (rotating_of_inStep prior).2 worker
    generalize middle.threads worker = phase at stored own
    cases stored with
    | @store _ count nowSec cur =>
      obtain ⟨⟨flushed, forwards, closed⟩, taken⟩ := own
      rcases stems with rfl | ⟨amount, inside⟩
      · exact ⟨nowSec, flushed, closed ▸ forwards⟩
      · exact taken _ inside

end Forwards

namespace SampleFlush

/-- Two workers at the given places. -/
def machine (first second : FlushPhase) (tracker : LoadRateTracker) : FlushMachine Bool :=
  ⟨fun worker => bif worker then second else first, tracker⟩

variable {allowed : Allowed Bool FlushPhase LoadRateTracker FlushEvent} {start : FlushMachine Bool}
  {log : List (Flushed Bool)} {first second next : FlushPhase} {tracker memory : LoadRateTracker}
  {event : FlushEvent}

/-- A step of the first worker extends the sample's run. -/
theorem first_moves
    (run : Interleaving FlushStep allowed start log (machine first second tracker))
    (permitted : allowed log (machine first second tracker) false event)
    (moved : FlushStep first tracker event next memory) :
    Interleaving FlushStep allowed start (log ++ [(false, event)])
      (machine next second memory) := by
  have same : (machine first second tracker).move false next memory =
      machine next second memory := by
    simp only [Machine.move, machine, Machine.mk.injEq, and_true]
    ext worker
    cases worker <;> rfl
  exact same ▸ run.advance false rfl permitted moved

/-- So does a step of the second. -/
theorem second_moves
    (run : Interleaving FlushStep allowed start log (machine first second tracker))
    (permitted : allowed log (machine first second tracker) true event)
    (moved : FlushStep second tracker event next memory) :
    Interleaving FlushStep allowed start (log ++ [(true, event)])
      (machine first next memory) := by
  have same : (machine first second tracker).move true next memory =
      machine first next memory := by
    simp only [Machine.move, machine, Machine.mk.injEq, and_true]
    ext worker
    cases worker <;> rfl
  exact same ▸ run.advance true rfl permitted moved

/-- The sample starts idle. -/
theorem start_eq : FlushMachine.new Bool = machine .idle .idle .new := by
  simp only [FlushMachine.new, machine, Machine.mk.injEq, and_true]
  ext worker
  cases worker <;> rfl

/-- The second worker flushes three Initials in the later second. -/
def ahead : List (Flushed Bool) :=
  [(true, .call 3 1700000001000), (true, .load 0), (true, .exchange 0 1700000001 true),
    (true, .swap 0), (true, .store 0), (true, .fetchAdd 3)]

/-- The first worker, whose batch began a millisecond earlier, flushes after it. -/
def behind : List (Flushed Bool) :=
  [(false, .call 1 1700000000999), (false, .load 1700000001),
    (false, .exchange 1700000001 1700000000 true), (false, .swap 3), (false, .store 3)]

/-- One worker is a second ahead. -/
theorem ahead_run : FlushRun OwnClocks ahead (machine .idle .idle ⟨1700000001, 3, 0⟩) := by
  have begun : FlushRun OwnClocks [] (machine .idle .idle .new) := start_eq ▸ .nil
  have called := second_moves begun (by simp [OwnClocks, OwnClock]) (.call _ 3 1700000001000)
  have loaded := second_moves called (by simp [OwnClocks, OwnClock]) (.loadOther (by decide))
  have won := second_moves loaded (by simp [OwnClocks, OwnClock]) (.exchangeWon rfl)
  have swapped := second_moves won (by simp [OwnClocks, OwnClock]) .swap
  have stored := second_moves swapped (by simp [OwnClocks, OwnClock]) .store
  exact second_moves stored (by simp [OwnClocks, OwnClock]) .fetchAdd

/-- The other one, behind it, takes the window back. -/
theorem behind_run :
    Interleaving FlushStep (fun rest => OwnClocks (ahead ++ rest))
      (machine .idle .idle ⟨1700000001, 3, 0⟩) behind
      (machine (.adding 1) .idle ⟨1700000000, 0, 3⟩) := by
  have begun : Interleaving FlushStep (fun rest => OwnClocks (ahead ++ rest))
      (machine .idle .idle ⟨1700000001, 3, 0⟩) [] (machine .idle .idle ⟨1700000001, 3, 0⟩) := .nil
  have called := first_moves begun (by simp [OwnClocks, OwnClock, ahead])
    (.call _ 1 1700000000999)
  have loaded := first_moves called (by simp [OwnClocks, OwnClock]) (.loadOther (by decide))
  have won := first_moves loaded (by simp [OwnClocks, OwnClock]) (.exchangeWon rfl)
  have swapped := first_moves won (by simp [OwnClocks, OwnClock]) .swap
  exact first_moves swapped (by simp [OwnClocks, OwnClock]) .store

/-- A batch that ends late moves the window back a second, and publishes the three
Initials of the second still being filled. -/
theorem late_flush_reopens_window :
    (FlushRun OwnClocks ahead (machine .idle .idle ⟨1700000001, 3, 0⟩) ∧
      ¬ WindowForward OwnClocks ahead (machine .idle .idle ⟨1700000001, 3, 0⟩)) ∧
    FlushRun OwnClocks (ahead ++ behind) (machine (.adding 1) .idle ⟨1700000000, 0, 3⟩) ∧
      ¬ OnlyCompleted (ahead ++ behind) := by
  refine ⟨⟨ahead_run, fun forward => ?_⟩, ahead_run.trans behind_run, fun completed => ?_⟩
  · exact absurd (forward behind _ behind_run) (by decide)
  · obtain ⟨newer, flushed, later⟩ := completed (ahead ++ behind.take 4) false 3 [] rfl 1700000001
      (.inl rfl)
    have cases : newer = 1700000001 ∨ newer = 1700000000 := by
      simpa [flushedSecs, ahead, behind] using flushed
    rcases cases with rfl | rfl
    · exact absurd later (by decide)
    · exact absurd later (by decide)

/-- The next second's rotation. -/
def following : List (Flushed Bool) :=
  [(false, .call 1 1700000002000), (false, .load 1700000001),
    (false, .exchange 1700000001 1700000002 true), (false, .swap 3), (false, .store 3)]

/-- A step that neither calls nor loads nor adds is in step whatever the others do. -/
theorem inner_inStep {worker : Bool}
    (standing : ∀ count nowSec,
      (machine first second tracker).threads worker ≠ .loading count nowSec)
    (called : ∀ count nowMs, event ≠ .call count nowMs)
    (adds : ∀ count, event ≠ .fetchAdd count) :
    InStep log (machine first second tracker) worker event where
  ownClock count nowMs same := absurd same (called count nowMs)
  onTime count nowSec loading := absurd loading (standing count nowSec)
  settled count same := absurd same (adds count)

/-- A worker that follows moves the window on. -/
theorem following_run :
    FlushRun InStep (ahead ++ following) (machine (.adding 1) .idle ⟨1700000002, 0, 3⟩) := by
  have begun : FlushRun InStep [] (machine .idle .idle .new) := start_eq ▸ .nil
  have called := second_moves begun (by constructor <;> simp [OwnClock, machine])
    (.call _ 3 1700000001000)
  have loaded := second_moves called
    (by constructor <;> simp [OwnClock, machine, LoadRateTracker.new]) (.loadOther (by decide))
  have won := second_moves loaded (by apply inner_inStep <;> simp [machine]) (.exchangeWon rfl)
  have swapped := second_moves won (by apply inner_inStep <;> simp [machine]) .swap
  have stored := second_moves swapped (by apply inner_inStep <;> simp [machine]) .store
  have added := second_moves stored
    (by constructor <;> simp [OwnClock, machine, FlushPhase.tally]) .fetchAdd
  have calledNext := first_moves added (by constructor <;> simp [OwnClock, machine])
    (.call _ 1 1700000002000)
  have loadedNext := first_moves calledNext (by constructor <;> simp [OwnClock, machine])
    (.loadOther (by decide))
  have wonNext := first_moves loadedNext (by apply inner_inStep <;> simp [machine])
    (.exchangeWon rfl)
  have swappedNext := first_moves wonNext (by apply inner_inStep <;> simp [machine]) .swap
  exact first_moves swappedNext (by apply inner_inStep <;> simp [machine]) .store

/-- With clocks in step the window only moves forward, and the rate is that of a completed
second. -/
theorem following_rotates_forward :
    WindowForward InStep (ahead ++ following) (machine (.adding 1) .idle ⟨1700000002, 0, 3⟩) ∧
      OnlyCompleted (ahead ++ following) :=
  window_forward_in_step following_run

end SampleFlush

/-! ## Conservation -/

section Conservation

variable {Worker : Type}

/-- The counts whose `fetch_add` has executed. -/
def addedCounts (log : List (Flushed Worker)) : List UInt64 :=
  log.filterMap fun entry =>
    match entry.2 with
    | .fetchAdd count => some count
    | _ => none

/-- The values taken out by swaps, with the worker that took each. -/
def takenOut (log : List (Flushed Worker)) : List (Worker × UInt64) :=
  log.filterMap fun entry =>
    match entry.2 with
    | .swap prev => some (entry.1, prev)
    | _ => none

/-- The values stored into `last_rate`, with the worker that stored each. -/
def published (log : List (Flushed Worker)) : List (Worker × UInt64) :=
  log.filterMap fun entry =>
    match entry.2 with
    | .store prev => some (entry.1, prev)
    | _ => none

/-- The sum without wrap-around. -/
def total (values : List UInt64) : Nat := (values.map UInt64.toNat).sum

/-- Totals add up over lists. -/
@[simp] theorem total_append (values more : List UInt64) :
    total (values ++ more) = total values + total more := by
  simp [total]

variable [DecidableEq Worker] {allowed : Allowed Worker FlushPhase LoadRateTracker FlushEvent}
  {log : List (Flushed Worker)} {machine : FlushMachine Worker}

/-- What was added is in the window or was taken out of it. -/
theorem total_addedCounts (run : FlushRun allowed log machine)
    (bounded : total (addedCounts log) < 2 ^ 64) :
    total (addedCounts log) =
      machine.shared.windowCount.toNat + total ((takenOut log).map Prod.snd) := by
  induction run with
  | nil => rfl
  | @snoc log machine worker event next memory _ _ moved kept =>
    generalize machine.threads worker = phase at moved
    cases moved with
    | swap =>
      have same : addedCounts (log ++ [(worker, .swap machine.shared.windowCount)]) =
          addedCounts log := by
        simp [addedCounts]
      have taken : takenOut (log ++ [(worker, .swap machine.shared.windowCount)]) =
          takenOut log ++ [(worker, machine.shared.windowCount)] := by
        simp [takenOut]
      rw [same] at bounded
      rw [same, taken, kept bounded]
      simp only [Machine.move_shared, List.map_append, total_append]
      simp only [total, List.map_cons, List.map_nil, List.sum_cons, List.sum_nil, UInt64.toNat_zero]
      omega
    | @fetchAdd _ count =>
      have added : addedCounts (log ++ [(worker, .fetchAdd count)]) =
          addedCounts log ++ [count] := by
        simp [addedCounts]
      have same : takenOut (log ++ [(worker, .fetchAdd count)]) = takenOut log := by
        simp [takenOut]
      have single : total [count] = count.toNat := by simp [total]
      rw [added, total_append, single] at bounded
      have before := kept (by omega)
      -- the window holds no more than was added, so this addition does not wrap
      have fits : machine.shared.windowCount.toNat + count.toNat < 2 ^ 64 := by omega
      rw [added, same, total_append, single, before, Machine.move_shared, UInt64.toNat_add,
        Nat.mod_eq_of_lt fits]
      omega
    | _ => simpa [addedCounts, takenOut] using kept (by simpa [addedCounts] using bounded)

/-- What a worker has taken out and not published yet. -/
def FlushPhase.unpublished (worker : Worker) : FlushPhase → List (Worker × UInt64)
  | .storing _ _ _ prev => [(worker, prev)]
  | _ => []

omit [DecidableEq Worker] in
/-- A worker that only tallies has nothing left to publish. -/
@[simp] theorem FlushPhase.unpublished_tally (worker : Worker) (count : UInt64) :
    (FlushPhase.tally count).unpublished worker = [] := by
  unfold FlushPhase.tally
  split <;> rfl

/-- A worker publishes what it takes out, once and in order. -/
theorem published_by (run : FlushRun allowed log machine) (worker : Worker) :
    (published log).filter (·.1 = worker) ++ (machine.threads worker).unpublished worker =
      (takenOut log).filter (·.1 = worker) := by
  refine (Interleaving.outline (fun _ _ => True)
    (fun log worker phase =>
      (published log).filter (·.1 = worker) ++ phase.unpublished worker =
        (takenOut log).filter (·.1 = worker)) ?_ ?_ run).2 worker
  · exact ⟨trivial, fun _ => rfl⟩
  intro log machine mover event next memory _ _ threads moved
  refine ⟨trivial, ?_, ?_⟩
  · have own := threads mover
    generalize machine.threads mover = phase at moved own
    cases moved with
    | call | loadOther | exchangeWon | swap | fetchAdd =>
      simpa [published, takenOut, FlushPhase.unpublished] using own
    | loadSame | exchangeLost | store =>
      simp only [FlushPhase.unpublished] at own
      simpa [published, takenOut] using own
  · intro other distinct
    have kept := threads other
    cases event with
    | _ => simpa [published, takenOut, Ne.symm distinct] using kept

/-- The published values are among those taken out, none published more often than
it was taken. -/
theorem published_subperm (run : FlushRun allowed log machine) :
    (published log).Subperm (takenOut log) := by
  rw [List.subperm_ext_iff]
  intro entry _
  have own := congrArg (List.count entry) (published_by run entry.1)
  rw [List.count_append, List.count_filter (by simp), List.count_filter (by simp)] at own
  omega

/-- No Initial is lost or counted twice: the counts added are in the window or were
taken out by swaps, and each value taken out is published at most once. -/
theorem initials_conserved (run : FlushRun allowed log machine) :
    (total (addedCounts log) < 2 ^ 64 →
      total (addedCounts log) =
        machine.shared.windowCount.toNat + total ((takenOut log).map Prod.snd)) ∧
    (published log).Subperm (takenOut log) :=
  ⟨total_addedCounts run, published_subperm run⟩

end Conservation

/-- Two flushes, the second of them late and not yet added: its swap took the first's three. -/
theorem SampleFlush.late_flush_conserved :
    total (addedCounts (ahead ++ behind)) < 2 ^ 64 ∧
      total (addedCounts (ahead ++ behind)) =
        0 + total ((takenOut (ahead ++ behind)).map Prod.snd) ∧
      (published (ahead ++ behind)).Subperm (takenOut (ahead ++ behind)) := by
  have bounded : total (addedCounts (ahead ++ behind)) < 2 ^ 64 := by decide
  obtain ⟨conserved, among⟩ := initials_conserved (ahead_run.trans behind_run)
  exact ⟨bounded, conserved bounded, among⟩

end Pesigitg
