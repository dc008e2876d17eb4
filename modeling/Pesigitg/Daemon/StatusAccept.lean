import Mathlib.Data.UInt
import Pesigitg.Base.Trace

/-!
# The accept loop of the status API

One thread accepts connections and starts a detached handler thread for each. The number of
handlers is kept in an atomic that the accept loop increments and that the handler decrements at
its end; a handler that panics unwinds past its decrement. `AcceptStep` is one access to what the
threads share or one system call, in any order.

`accept_bounded` says that the atomic is exact, whatever the order: it counts the handlers that
have not decremented it and the connection that is being admitted, so no more than `maxConcurrent`
handlers ever run, and a connection is turned away exactly if that many are counted.
`AcceptRun.length_le` bounds what is still started once shutdown has been requested.
-/

namespace Pesigitg

open Base

def maxConcurrent : UInt64 := 4

/-- Where the accept thread stands. -/
inductive Acceptor where
  /-- In `accept`. -/
  | accepting
  /-- With what `accept` returned, about to look at the shutdown flag. -/
  | accepted (ok : Bool)
  /-- With an error, about to look at the flag again. -/
  | failing
  /-- With a connection, about to increment the count. -/
  | counting
  /-- Over the limit, about to decrement the count again. -/
  | rejecting
  /-- Under the limit, about to start a handler. -/
  | spawning
  /-- Without a handler, about to decrement the count again. -/
  | undoing
  | exited
deriving DecidableEq, Repr

/-- Where a handler thread stands. -/
inductive Handler where
  /-- In `handle_connection`. -/
  | serving
  /-- Returned from it, about to decrement the count. -/
  | leaving
  | done
  | panicked
deriving DecidableEq, Repr

namespace Handler

/-- Still executing. -/
def running : Handler → Bool
  | .serving | .leaving => true
  | .done | .panicked => false

/-- Has not decremented the count. -/
def counted : Handler → Bool
  | .done => false
  | .serving | .leaving | .panicked => true

end Handler

/-- The shared flag and count, and all threads: the handlers in the order they were started. -/
structure AcceptState where
  active : UInt64
  shutdown : Bool
  acceptor : Acceptor
  handlers : List Handler
deriving Repr

namespace AcceptState

def new : AcceptState := ⟨0, false, .accepting, []⟩

/-- The handlers that are executing. -/
def running (state : AcceptState) : Nat := state.handlers.countP Handler.running

/-- The handlers that the count still includes. -/
def counted (state : AcceptState) : Nat := state.handlers.countP Handler.counted

end AcceptState

/-- What a step did. -/
inductive AcceptEvent where
  | accept (ok : Bool)
  | look
  | lookAgain
  | fetchAdd
  /-- `fetch_sub` and the answer `{"error":"busy"}`. -/
  | busy
  | spawn
  | spawnFailed
  | undo
  | served (handler : Nat)
  | decrement (handler : Nat)
  | panic (handler : Nat)
  | requestShutdown
deriving DecidableEq, Repr

/-- One step of one of the threads. -/
inductive AcceptStep : AcceptState → AcceptEvent → AcceptState → Prop where
  | accept {active : UInt64} {shutdown : Bool} {handlers : List Handler} (ok : Bool) :
      AcceptStep ⟨active, shutdown, .accepting, handlers⟩ (.accept ok)
        ⟨active, shutdown, .accepted ok, handlers⟩
  | look {active : UInt64} {shutdown ok : Bool} {handlers : List Handler} :
      AcceptStep ⟨active, shutdown, .accepted ok, handlers⟩ .look
        ⟨active, shutdown, if shutdown then .exited else if ok then .counting else .failing,
          handlers⟩
  | lookAgain {active : UInt64} {shutdown : Bool} {handlers : List Handler} :
      AcceptStep ⟨active, shutdown, .failing, handlers⟩ .lookAgain
        ⟨active, shutdown, if shutdown then .exited else .accepting, handlers⟩
  | fetchAdd {active : UInt64} {shutdown : Bool} {handlers : List Handler} :
      AcceptStep ⟨active, shutdown, .counting, handlers⟩ .fetchAdd
        ⟨active + 1, shutdown, if maxConcurrent ≤ active then .rejecting else .spawning, handlers⟩
  | busy {active : UInt64} {shutdown : Bool} {handlers : List Handler} :
      AcceptStep ⟨active, shutdown, .rejecting, handlers⟩ .busy
        ⟨active - 1, shutdown, .accepting, handlers⟩
  | spawn {active : UInt64} {shutdown : Bool} {handlers : List Handler} :
      AcceptStep ⟨active, shutdown, .spawning, handlers⟩ .spawn
        ⟨active, shutdown, .accepting, handlers ++ [.serving]⟩
  | spawnFailed {active : UInt64} {shutdown : Bool} {handlers : List Handler} :
      AcceptStep ⟨active, shutdown, .spawning, handlers⟩ .spawnFailed
        ⟨active, shutdown, .undoing, handlers⟩
  | undo {active : UInt64} {shutdown : Bool} {handlers : List Handler} :
      AcceptStep ⟨active, shutdown, .undoing, handlers⟩ .undo
        ⟨active - 1, shutdown, .accepting, handlers⟩
  | served {active : UInt64} {shutdown : Bool} {acceptor : Acceptor}
      {before after : List Handler} :
      AcceptStep ⟨active, shutdown, acceptor, before ++ .serving :: after⟩ (.served before.length)
        ⟨active, shutdown, acceptor, before ++ .leaving :: after⟩
  | decrement {active : UInt64} {shutdown : Bool} {acceptor : Acceptor}
      {before after : List Handler} :
      AcceptStep ⟨active, shutdown, acceptor, before ++ .leaving :: after⟩
        (.decrement before.length)
        ⟨active - 1, shutdown, acceptor, before ++ .done :: after⟩
  | panic {active : UInt64} {shutdown : Bool} {acceptor : Acceptor}
      {before after : List Handler} :
      AcceptStep ⟨active, shutdown, acceptor, before ++ .serving :: after⟩ (.panic before.length)
        ⟨active, shutdown, acceptor, before ++ .panicked :: after⟩
  | requestShutdown {active : UInt64} {shutdown : Bool} {acceptor : Acceptor}
      {handlers : List Handler} :
      AcceptStep ⟨active, shutdown, acceptor, handlers⟩ .requestShutdown
        ⟨active, true, acceptor, handlers⟩

/-- Any order of steps. -/
abbrev AcceptRun (start : AcceptState) (log : List AcceptEvent) (state : AcceptState) : Prop :=
  Trace AcceptStep start log state

namespace Acceptor

/-- The connection being admitted or turned away is in the count. -/
def claim : Acceptor → Nat
  | .rejecting | .spawning | .undoing => 1
  | .accepting | .accepted _ | .failing | .counting | .exited => 0

/-- The count once the step under way is taken back or handed to a handler. -/
def limit : Acceptor → Nat
  | .spawning | .undoing => 3
  | .accepting | .accepted _ | .failing | .counting | .rejecting | .exited => 4

/-- The handlers that can still be started once the shutdown flag is set. -/
def underWay : Acceptor → Nat
  | .counting | .spawning => 1
  | .accepting | .accepted _ | .failing | .rejecting | .undoing | .exited => 0

end Acceptor

namespace AcceptState

variable {state next : AcceptState} {event : AcceptEvent}

/-- The count is exact and within the limit. -/
structure Exact (state : AcceptState) : Prop where
  active : state.active.toNat = state.counted + state.acceptor.claim
  bounded : state.counted ≤ state.acceptor.limit

/-- A handler that runs is counted. -/
theorem running_le_counted (state : AcceptState) : state.running ≤ state.counted := by
  apply List.countP_mono_left
  intro handler _ isRunning
  cases handler <;> first | rfl | cases isRunning

/-- The count is too small to wrap upwards. -/
theorem add_one_toNat {active : UInt64} (small : active.toNat ≤ 4) :
    (active + 1).toNat = active.toNat + 1 := by
  rw [UInt64.toNat_add]
  exact Nat.mod_eq_of_lt (by simp only [UInt64.toNat_one]; omega)

/-- A positive count does not wrap downwards. -/
theorem sub_one_toNat {active : UInt64} (some : 0 < active.toNat) :
    (active - 1).toNat = active.toNat - 1 :=
  UInt64.toNat_sub_of_le active 1 (UInt64.le_iff_toNat_le.mpr some)

/-- The count depends on the handlers only. -/
theorem counted_mk (active : UInt64) (shutdown : Bool) (acceptor : Acceptor)
    (handlers : List Handler) :
    counted ⟨active, shutdown, acceptor, handlers⟩ = handlers.countP Handler.counted := rfl

/-- Each step keeps the count exact. -/
theorem Exact.step (exact : state.Exact) (step : AcceptStep state event next) : next.Exact := by
  obtain ⟨active, bounded⟩ := exact
  cases step with
  | accept ok => exact ⟨active, bounded⟩
  | @look _ shutdown ok _ => cases shutdown <;> cases ok <;> exact ⟨active, bounded⟩
  | @lookAgain _ shutdown _ => cases shutdown <;> exact ⟨active, bounded⟩
  | @fetchAdd count _ handlers =>
    simp only [counted_mk, Acceptor.claim, Acceptor.limit] at active bounded
    have grown : (count + 1).toNat = count.toNat + 1 := add_one_toNat (by omega)
    by_cases reached : maxConcurrent ≤ count
    · constructor <;> simp only [if_pos reached, counted_mk, grown, Acceptor.claim, Acceptor.limit]
      · omega
      · omega
    · have under : ¬ 4 ≤ count.toNat := fun above => reached (UInt64.le_iff_toNat_le.mpr above)
      constructor <;> simp only [if_neg reached, counted_mk, grown, Acceptor.claim, Acceptor.limit]
      · omega
      · omega
  | busy =>
    simp only [counted_mk, Acceptor.claim, Acceptor.limit] at active bounded
    constructor <;> simp only [counted_mk, Acceptor.claim, Acceptor.limit]
    · rw [sub_one_toNat (by omega)]
      omega
    · exact bounded
  | spawn =>
    simp only [counted_mk, Acceptor.claim, Acceptor.limit] at active bounded
    constructor <;> simp only [counted_mk, Acceptor.claim, Acceptor.limit, List.countP_append,
      List.countP_singleton, Handler.counted, if_true]
    · omega
    · omega
  | spawnFailed => exact ⟨active, bounded⟩
  | undo =>
    simp only [counted_mk, Acceptor.claim, Acceptor.limit] at active bounded
    constructor <;> simp only [counted_mk, Acceptor.claim, Acceptor.limit]
    · rw [sub_one_toNat (by omega)]
      omega
    · omega
  | served =>
    simp only [counted_mk, List.countP_append, List.countP_cons, Handler.counted] at active bounded
    constructor <;> simp only [counted_mk, List.countP_append, List.countP_cons, Handler.counted]
    · exact active
    · exact bounded
  | decrement =>
    simp only [counted_mk, List.countP_append, List.countP_cons, Handler.counted, if_true]
      at active bounded
    constructor <;> simp only [counted_mk, List.countP_append, List.countP_cons, Handler.counted,
      Bool.false_eq_true, if_false]
    · rw [sub_one_toNat (by omega)]
      omega
    · omega
  | panic =>
    simp only [counted_mk, List.countP_append, List.countP_cons, Handler.counted] at active bounded
    constructor <;> simp only [counted_mk, List.countP_append, List.countP_cons, Handler.counted]
    · exact active
    · exact bounded
  | requestShutdown => exact ⟨active, bounded⟩

/-- What can still be started never grows once shutdown has been requested. -/
theorem length_step (step : AcceptStep state event next) (requested : state.shutdown = true) :
    next.shutdown = true ∧ next.handlers.length + next.acceptor.underWay ≤
      state.handlers.length + state.acceptor.underWay := by
  cases step with
  | look =>
    cases requested
    exact ⟨rfl, Nat.le_refl _⟩
  | lookAgain =>
    cases requested
    exact ⟨rfl, Nat.le_refl _⟩
  | fetchAdd =>
    refine ⟨requested, ?_⟩
    simp only
    split <;> simp [Acceptor.underWay]
  | spawn => exact ⟨requested, by simp [Acceptor.underWay]⟩
  | requestShutdown => exact ⟨rfl, Nat.le_refl _⟩
  | _ => exact ⟨requested, by simp [Acceptor.underWay]⟩

end AcceptState

section Runs

variable {start state : AcceptState} {log : List AcceptEvent}

/-- The count is exact at every moment of a run. -/
theorem AcceptRun.exact (run : AcceptRun .new log state) : state.Exact :=
  run.invariant AcceptState.Exact ⟨rfl, Nat.zero_le _⟩ fun _ exact step => exact.step step

/-- Once shutdown has been requested, at most the connection being admitted at that moment still
gets a handler. -/
theorem AcceptRun.length_le (run : AcceptRun start log state) (requested : start.shutdown = true) :
    state.handlers.length ≤ start.handlers.length + start.acceptor.underWay := by
  have kept : state.shutdown = true ∧ state.handlers.length + state.acceptor.underWay ≤
      start.handlers.length + start.acceptor.underWay := by
    refine run.invariant (fun state => state.shutdown = true ∧
      state.handlers.length + state.acceptor.underWay ≤
        start.handlers.length + start.acceptor.underWay) ⟨requested, Nat.le_refl _⟩ ?_
    rintro state event next - ⟨still, fewer⟩ step
    obtain ⟨stillNext, fewerNext⟩ := AcceptState.length_step step still
    exact ⟨stillNext, Nat.le_trans fewerNext fewer⟩
  exact Nat.le_trans (Nat.le_add_right _ _) kept.2

/-- Whatever the threads do and in whatever order, the count is that of the handlers that have
not given theirs back and of the connection being decided on; at most `maxConcurrent` handlers
run; of the connections, exactly those are turned away that find as many handlers counted; and
from a state in which shutdown is requested, no handler is started but for a connection that is
past its look at the flag. -/
theorem accept_bounded (run : AcceptRun .new log state) :
    state.running ≤ 4 ∧ state.counted ≤ 4 ∧
      state.active.toNat = state.counted + state.acceptor.claim ∧
      (∀ next, AcceptStep state .fetchAdd next →
        (next.acceptor = .rejecting ↔ state.counted = 4) ∧
          (next.acceptor = .spawning ↔ state.counted < 4)) ∧
      ∀ more final, AcceptRun state more final → state.shutdown = true →
        final.handlers.length ≤ state.handlers.length + state.acceptor.underWay := by
  obtain ⟨active, bounded⟩ := run.exact
  have within : state.counted ≤ 4 := by
    refine Nat.le_trans bounded ?_
    cases state.acceptor <;> simp [Acceptor.limit]
  refine ⟨Nat.le_trans state.running_le_counted within, within, active, ?_, ?_⟩
  · intro next step
    cases step with
    | @fetchAdd count _ handlers =>
      simp only [AcceptState.counted_mk, Acceptor.claim, Nat.add_zero] at active within ⊢
      have reaches : maxConcurrent ≤ count ↔ 4 ≤ handlers.countP Handler.counted := by
        rw [UInt64.le_iff_toNat_le, active]
        rfl
      by_cases reached : maxConcurrent ≤ count
      · have full : handlers.countP Handler.counted = 4 :=
          Nat.le_antisymm within (reaches.mp reached)
        simp [if_pos reached, full]
      · have notFull : handlers.countP Handler.counted < 4 :=
          Nat.not_le.mp fun full => reached (reaches.mpr full)
        simp [if_neg reached, notFull, Nat.ne_of_lt notFull]
  · exact fun more final continued requested => continued.length_le requested

end Runs

namespace SampleAccept

variable {log : List AcceptEvent} {active : UInt64} {handlers : List Handler}

/-- A connection is accepted and the flag is clear. -/
theorem accepts (run : AcceptRun .new log ⟨active, false, .accepting, handlers⟩) :
    AcceptRun .new (log ++ [.accept true] ++ [.look]) ⟨active, false, .counting, handlers⟩ :=
  (run.snoc (.accept true)).snoc .look

/-- One more connection is served. -/
theorem serves (run : AcceptRun .new log ⟨active, false, .accepting, handlers⟩)
    (under : ¬ maxConcurrent ≤ active) :
    ∃ log', AcceptRun .new log' ⟨active + 1, false, .accepting, handlers ++ [.serving]⟩ := by
  have counted := (accepts run).snoc .fetchAdd
  rw [if_neg under] at counted
  exact ⟨_, counted.snoc .spawn⟩

/-- Four connections are served while a fifth is about to be counted. -/
theorem four_served : ∃ log, AcceptRun .new log
    ⟨4, false, .counting, [.serving, .serving, .serving, .serving]⟩ := by
  obtain ⟨_, first⟩ := serves .nil (by decide)
  obtain ⟨_, second⟩ := serves first (by decide)
  obtain ⟨_, third⟩ := serves second (by decide)
  obtain ⟨_, fourth⟩ := serves third (by decide)
  exact ⟨_, accepts fourth⟩

end SampleAccept

open SampleAccept in
/-- The fifth connection is turned away. -/
theorem accept_bounded_fifth : ∃ log state, AcceptRun .new log state ∧ state.running = 4 ∧
    ∃ next, AcceptStep state .fetchAdd next ∧ next.acceptor = .rejecting := by
  obtain ⟨log, run⟩ := four_served
  have step :
      AcceptStep ⟨4, false, .counting, [.serving, .serving, .serving, .serving]⟩ .fetchAdd _ :=
    .fetchAdd
  exact ⟨log, _, run, rfl, _, step, ((accept_bounded run).2.2.2.1 _ step).1.mpr rfl⟩

end Pesigitg
