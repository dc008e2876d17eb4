import Pesigitg.Base.Trace
import Pesigitg.Daemon.Args
import Pesigitg.Daemon.Fdstore
import Pesigitg.Daemon.MainLoop

/-!
# The life of a daemon process

From the spawned worker pool to the return of `main`: the main thread with its loop over signals
and periodic work, the worker threads, and the thread that delivers signals. Each step is one
access to something that another thread sees: a message taken from a channel, a look at one
thread's handle, the flag, a message to systemd.

A worker leaves its loop when it reads the flag, and then offers its descriptors if its socket was
an adopted one; it can also fail at any time before. `main` returns after a signal that ends the
daemon, or when it finds a worker that has exited. Between its message that the daemon is ready and
its loop it sets up the health checker and the status API, and returns if one of them fails.
-/

namespace Pesigitg

open Base Fdstore

/-- The signals that are hooked. -/
inductive Signal where
  | hup
  | usr1
  | usr2
  | int
  | term
deriving DecidableEq, Repr

/-- The parts of a message to systemd. -/
inductive NotifyState where
  | ready
  | reloading
  | stopping
  | watchdog
  | status (text : String)
deriving DecidableEq, Repr

/-- The debug form of the ports. -/
def debugPorts (ports : List UInt16) : String :=
  "[" ++ ", ".intercalate (ports.map toString) ++ "]"

/-- `build_status`. -/
def buildStatus (args : Args) (table : ConfigTable) : String :=
  let total := table.servers.length
  let healthy := table.servers.countP Server.healthy
  let draining := table.servers.countP Server.draining
  let line := args.interface ++ " " ++ debugPorts args.ports ++ " q=" ++ toString args.queues ++
    s!"; backends {healthy}/{total} healthy"
  if 0 < draining then line ++ s!", {draining} draining" else line

/-- `notify_ready`. -/
def notifyReady (status : String) : List NotifyState := [.ready, .status status]

/-- Where a worker thread stands, with the descriptors of an adopted socket. A socket that the
worker created itself has none to give away. -/
inductive WorkerThread (Fd : Type) where
  /-- Pins itself, opens or adopts its socket and registers it. -/
  | starting (pair : Option (Fd × Fd))
  /-- In `worker_loop_generic`. -/
  | looping (pair : Option (Fd × Fd))
  /-- In `detach_for_fdstore`. -/
  | leaving (pair : Option (Fd × Fd))
  | exited

/-- `JoinHandle::is_finished`. -/
def WorkerThread.isFinished {Fd : Type} : WorkerThread Fd → Bool
  | .exited => true
  | .starting _ | .looping _ | .leaving _ => false

/-- The descriptors that a thread has. -/
def WorkerThread.pair? {Fd : Type} : WorkerThread Fd → Option (Fd × Fd)
  | .starting pair | .looping pair | .leaving pair => pair
  | .exited => none

/-- Why the main loop ends. -/
inductive StopCause where
  | handoff
  | signal (signal : Signal)
  | died (queues : List UInt32)
deriving DecidableEq, Repr

/-- What `main` returns. -/
def StopCause.outcome : StopCause → Except String Unit
  | .handoff | .signal _ => .ok ()
  | .died queues =>
    .error ("worker thread(s) exited unexpectedly: [" ++
      ", ".intercalate (queues.map toString) ++ "]")

/-- Where the main thread stands. -/
inductive MainPhase (Fd : Type) where
  /-- About to announce that the daemon is ready. -/
  | greeting
  /-- `HealthChecker::new`. -/
  | arming
  /-- `StatusApi::spawn`, if a socket is configured. -/
  | binding
  /-- `recv_timeout`. -/
  | waiting
  | handling (signal : Signal)
  | reloading
  /-- At the end of `reload_config`. -/
  | reporting
  /-- `try_recv`. -/
  | polling
  /-- The periodic work. -/
  | periodic
  /-- The table was stored, about to announce it. -/
  | updating
  /-- `refresh_health`, with the workers left to look at and those alive so far. -/
  | refreshing (left : List UInt32) (alive : Nat)
  /-- `dead_queues`, with the workers left to look at and those found dead. -/
  | checking (left dead : List UInt32)
  /-- systemd has been told that the daemon stops. -/
  | closing (cause : StopCause)
  | halting (cause : StopCause)
  | joining (cause : StopCause) (left : List UInt32)
  | exporting (detached : List (Triple Fd))
  | returned (outcome : Except String Unit)

/-- The process. -/
structure Lifecycle (Fd : Type) where
  phase : MainPhase Fd
  /-- The queues of the pool's workers, in the order in which they were spawned. -/
  plan : List UInt32
  threads : UInt32 → WorkerThread Fd
  /-- The flag that the workers read. -/
  shutdown : Bool
  /-- The channel of detached descriptors. -/
  offered : List (Triple Fd)
  /-- The channel of signals. -/
  pending : List Signal
  /-- The signal thread has not been closed. -/
  listening : Bool
  /-- The mark on the eBPF handle by which its drop leaves the pins. -/
  handoff : Bool
  /-- The published number of workers that are alive. -/
  alive : Nat
  args : Args
  main : MainState

/-- What a worker does that others can see. -/
inductive WorkerAct where
  | entered
  | failed
  | left
  | detached
deriving DecidableEq, Repr

/-- What a step did. -/
inductive LifeEvent (Fd : Type) where
  | raised (signal : Signal)
  | received (signal : Signal)
  | notified (message : List NotifyState)
  | reloaded (reload : Reload)
  | dumped
  | ticked (tick : Tick) (rebuilt : Bool)
  | joined (queue : UInt32)
  | exported (sent : List (Named Fd))
  /-- A step of the main thread that nobody sees. -/
  | advanced
  | worker (queue : UInt32) (act : WorkerAct)

variable {Fd : Type}

namespace Lifecycle

/-- The loop of `WorkerPool::spawn`: each worker takes the descriptors of its queue. -/
def spawnLoop (byQueue : UInt32 → Option (Fd × Fd)) (threads : UInt32 → WorkerThread Fd) :
    List UInt32 → UInt32 → WorkerThread Fd
  | [] => threads
  | queue :: rest =>
    spawnLoop (Function.update byQueue queue none)
      (Function.update threads queue (.starting (byQueue queue))) rest

/-- The process with its pool just spawned. Descriptors of other queues are closed. -/
def spawn (plan : List UInt32) (inherited : InheritedFds Fd) (args : Args) (main : MainState) :
    Lifecycle Fd where
  phase := .greeting
  plan := plan
  threads := spawnLoop inherited.byQueue (fun _ => .exited) plan
  shutdown := false
  offered := []
  pending := []
  listening := true
  handoff := false
  alive := plan.length
  args := args
  main := main

def setThread (state : Lifecycle Fd) (queue : UInt32) (thread : WorkerThread Fd) : Lifecycle Fd :=
  { state with threads := Function.update state.threads queue thread }

end Lifecycle

/-- How `main` reacts to a signal that ends the loop. -/
def Signal.stops : Signal → Option StopCause
  | .hup | .usr1 => none
  | .usr2 => some .handoff
  | .int => some (.signal .int)
  | .term => some (.signal .term)

/-- The channel of signals holds so many. -/
def signalCapacity : Nat := 10

/-- One step of the main thread, of a worker, or of the signal thread. -/
inductive LifeStep (paths : PathOps) (state : Lifecycle Fd) :
    LifeEvent Fd → Lifecycle Fd → Prop where
  | raise {signal : Signal} (open_ : state.listening = true)
      (room : state.pending.length < signalCapacity) :
      LifeStep paths state (.raised signal) { state with pending := state.pending ++ [signal] }
  | greet (here : state.phase = .greeting) :
      LifeStep paths state
        (.notified (notifyReady (buildStatus state.args state.main.routeConfig)))
        { state with phase := .arming }
  | arm (here : state.phase = .arming) :
      LifeStep paths state .advanced { state with phase := .binding }
  -- The runtime, the TLS settings or a socket of the health checker cannot be had.
  | armFailed {reason : String} (here : state.phase = .arming) :
      LifeStep paths state .advanced { state with phase := .returned (.error reason) }
  | bind (here : state.phase = .binding) :
      LifeStep paths state .advanced { state with phase := .waiting }
  -- The socket of the status API cannot be created, or its thread not be started.
  | bindFailed {reason : String} (here : state.phase = .binding)
      (configured : state.args.statusSocket.isSome = true) :
      LifeStep paths state .advanced { state with phase := .returned (.error reason) }
  | receive {signal : Signal} {rest : List Signal}
      (here : state.phase = .waiting ∨ state.phase = .polling)
      (queued : state.pending = signal :: rest) :
      LifeStep paths state (.received signal)
        { state with phase := .handling signal, pending := rest }
  | timeout (here : state.phase = .waiting) (empty : state.pending = []) :
      LifeStep paths state .advanced { state with phase := .polling }
  -- The channel is closed only when the signal thread has ended.
  | disconnect (here : state.phase = .waiting) (empty : state.pending = [])
      (gone : state.listening = false) :
      LifeStep paths state .advanced { state with phase := .returned (.ok ()) }
  | drain (here : state.phase = .polling) (empty : state.pending = []) :
      LifeStep paths state .advanced { state with phase := .periodic }
  | hangup (here : state.phase = .handling .hup) :
      LifeStep paths state (.notified [.reloading]) { state with phase := .reloading }
  | reload {reload : Reload} {disk : Disk} {after : MainState} (here : state.phase = .reloading)
      (later : state.main.clock ≤ reload.now) (done : state.main.reloadConfig reload = .ok after) :
      LifeStep paths state (.reloaded reload)
        { state with
          phase := .reporting, args := state.args.reloadConfig paths disk, main := after }
  | report (here : state.phase = .reporting) :
      LifeStep paths state
        (.notified (notifyReady (buildStatus state.args state.main.routeConfig)))
        { state with phase := .polling }
  | dump (here : state.phase = .handling .usr1) :
      LifeStep paths state .dumped { state with phase := .polling }
  | stop {signal : Signal} {cause : StopCause} (here : state.phase = .handling signal)
      (stops : signal.stops = some cause) :
      LifeStep paths state (.notified [.stopping]) { state with phase := .closing cause }
  | tick {tick : Tick} {rebuilt : Bool} {after : MainState} (here : state.phase = .periodic)
      (later : state.main.clock ≤ tick.now)
      (done : state.main.checkAndRebuild tick = .ok (after, rebuilt)) :
      LifeStep paths state (.ticked tick rebuilt)
        { state with
          phase := if rebuilt then .updating else .refreshing state.plan 0, main := after }
  | update (here : state.phase = .updating) :
      LifeStep paths state
        (.notified [.status (buildStatus state.args state.main.routeConfig)])
        { state with phase := .refreshing state.plan 0 }
  | refresh {queue : UInt32} {left : List UInt32} {alive : Nat}
      (here : state.phase = .refreshing (queue :: left) alive) :
      LifeStep paths state .advanced
        { state with
          phase := .refreshing left
            (if (state.threads queue).isFinished then alive else alive + 1) }
  | publish {alive : Nat} (here : state.phase = .refreshing [] alive) :
      LifeStep paths state .advanced { state with phase := .checking state.plan [], alive := alive }
  | look {queue : UInt32} {left dead : List UInt32}
      (here : state.phase = .checking (queue :: left) dead) :
      LifeStep paths state .advanced
        { state with
          phase := .checking left
            (if (state.threads queue).isFinished then dead ++ [queue] else dead) }
  | beat (here : state.phase = .checking [] []) :
      LifeStep paths state (.notified [.watchdog]) { state with phase := .waiting }
  | escalate {dead : List UInt32} (here : state.phase = .checking [] dead) (some : dead ≠ []) :
      LifeStep paths state (.notified [.stopping, .status "worker thread exited unexpectedly"])
        { state with phase := .closing (.died dead) }
  | close {cause : StopCause} (here : state.phase = .closing cause) :
      LifeStep paths state .advanced
        { state with
          phase := .halting cause, listening := false,
          handoff := state.handoff || decide (cause = .handoff) }
  | halt {cause : StopCause} (here : state.phase = .halting cause) :
      LifeStep paths state .advanced
        { state with phase := .joining cause state.plan, shutdown := true }
  | join {cause : StopCause} {queue : UInt32} {left : List UInt32}
      (here : state.phase = .joining cause (queue :: left))
      (finished : (state.threads queue).isFinished = true) :
      LifeStep paths state (.joined queue) { state with phase := .joining cause left }
  | discard {cause : StopCause} (here : state.phase = .joining cause [])
      (cold : cause ≠ .handoff) :
      LifeStep paths state .advanced
        { state with phase := .returned cause.outcome, offered := [] }
  | collect (here : state.phase = .joining .handoff []) :
      LifeStep paths state .advanced
        { state with phase := .exporting state.offered, offered := [] }
  | handOver (systemd : Systemd Fd) {detached : List (Triple Fd)}
      (here : state.phase = .exporting detached) :
      LifeStep paths state (.exported (exportToSystemd systemd detached).sent)
        { state with phase := .returned (.ok ()) }
  | enter {queue : UInt32} {pair : Option (Fd × Fd)}
      (there : state.threads queue = .starting pair) :
      LifeStep paths state (.worker queue .entered) (state.setThread queue (.looping pair))
  -- Pinning, opening, adopting or registering fails, or the loop panics.
  | fail {queue : UInt32} {pair : Option (Fd × Fd)}
      (there : state.threads queue = .starting pair ∨ state.threads queue = .looping pair) :
      LifeStep paths state (.worker queue .failed) (state.setThread queue .exited)
  | leave {queue : UInt32} {pair : Option (Fd × Fd)} (there : state.threads queue = .looping pair)
      (told : state.shutdown = true) :
      LifeStep paths state (.worker queue .left) (state.setThread queue (.leaving pair))
  | detach {queue : UInt32} {pair : Option (Fd × Fd)}
      (there : state.threads queue = .leaving pair) :
      LifeStep paths state (.worker queue .detached)
        { state.setThread queue .exited with
          offered := state.offered ++ (pair.map fun fds => (queue, fds)).toList }

/-- A run of the process. -/
abbrev LifeRun (paths : PathOps) (start : Lifecycle Fd) (log : List (LifeEvent Fd))
    (state : Lifecycle Fd) : Prop :=
  Trace (LifeStep paths) start log state

namespace LifeEvent

def isTick : LifeEvent Fd → Bool
  | .ticked _ _ => true
  | _ => false

/-- A message that keeps systemd's watchdog quiet. -/
def isWatchdog : LifeEvent Fd → Bool
  | .notified message => message.contains .watchdog
  | _ => false

/-- A message that announces the end. -/
def isStopping : LifeEvent Fd → Bool
  | .notified message => message.contains .stopping
  | _ => false

/-- What may still happen after that. -/
def winds : LifeEvent Fd → Bool
  | .raised _ | .joined _ | .exported _ | .advanced | .worker _ _ => true
  | .received _ | .notified _ | .reloaded _ | .dumped | .ticked _ _ => false

/-- What may happen before the main thread is in its loop. -/
def precedes : LifeEvent Fd → Bool
  | .raised _ | .notified _ | .advanced | .worker _ _ => true
  | .received _ | .reloaded _ | .dumped | .ticked _ _ | .joined _ | .exported _ => false

def received? : LifeEvent Fd → Option Signal
  | .received signal => some signal
  | _ => none

end LifeEvent

section Threads

variable {paths : PathOps} {start state next : Lifecycle Fd} {event : LifeEvent Fd}
  {log : List (LifeEvent Fd)} {queue : UInt32}

/-- A thread is finished exactly if it has exited. -/
theorem WorkerThread.isFinished_iff {thread : WorkerThread Fd} :
    thread.isFinished = true ↔ thread = .exited := by
  cases thread <;> simp [isFinished]

/-- The pool has the same queues at all times. -/
theorem LifeStep.plan_eq (moved : LifeStep paths state event next) : next.plan = state.plan := by
  cases moved <;> rfl

/-- A step of one thread leaves the others alone. -/
theorem Lifecycle.setThread_of_ne {other : UInt32} {thread : WorkerThread Fd}
    (distinct : other ≠ queue) :
    (state.setThread queue thread).threads other = state.threads other := by
  simp [setThread, distinct]

/-- A step of a worker that is not the one in question leaves it where it is. -/
theorem Lifecycle.exited_of_setThread {other : UInt32} {thread : WorkerThread Fd}
    (exited : state.threads queue = .exited) (alive : state.threads other ≠ .exited) :
    (state.setThread other thread).threads queue = .exited := by
  rw [setThread_of_ne]
  · exact exited
  · rintro rfl
    exact alive exited

/-- A thread that has exited stays so. -/
theorem LifeStep.exited_stays (moved : LifeStep paths state event next)
    (exited : state.threads queue = .exited) : next.threads queue = .exited := by
  cases moved with
  | enter there => exact Lifecycle.exited_of_setThread exited (by simp [there])
  | fail there =>
    refine Lifecycle.exited_of_setThread exited ?_
    rcases there with there | there <;> simp [there]
  | leave there told => exact Lifecycle.exited_of_setThread exited (by simp [there])
  | detach there => exact Lifecycle.exited_of_setThread exited (by simp [there])
  | _ => exact exited

end Threads

section Noticing

variable {paths : PathOps} {start state next : Lifecycle Fd} {event : LifeEvent Fd}
  {log : List (LifeEvent Fd)} {queue : UInt32}

namespace MainPhase

/-- The check in progress has passed this worker by and found it alive. -/
def missed (queue : UInt32) : MainPhase Fd → Bool
  | .checking left dead => decide (queue ∉ left ∧ queue ∉ dead)
  | _ => false

/-- The periodic work of this pass is still to come. -/
def early : MainPhase Fd → Bool
  | .greeting | .arming | .binding | .waiting | .handling _ | .reloading | .reporting | .polling
  | .periodic => true
  | .updating | .refreshing _ _ | .checking _ _ | .closing _ | .halting _ | .joining _ _
  | .exporting _ | .returned _ => false

end MainPhase

/-- While a worker of the pool is dead, a watchdog message can only come from a check that has
already missed it. -/
theorem LifeStep.watchdog_spent (moved : LifeStep paths state event next)
    (planned : queue ∈ state.plan) (exited : state.threads queue = .exited) :
    event.isWatchdog.toNat + (next.phase.missed queue).toNat ≤
      (state.phase.missed queue).toNat := by
  cases moved with
  | publish here => simp [here, LifeEvent.isWatchdog, MainPhase.missed, planned]
  | @look looked left dead here =>
    by_cases same : looked = queue
    · subst same
      simp [here, LifeEvent.isWatchdog, MainPhase.missed, exited, WorkerThread.isFinished]
    · by_cases finished : (state.threads looked).isFinished = true
      · simp [here, LifeEvent.isWatchdog, MainPhase.missed, finished, Ne.symm same]
      · simp [here, LifeEvent.isWatchdog, MainPhase.missed, finished, Ne.symm same]
  | beat here => simp [here, LifeEvent.isWatchdog, MainPhase.missed]
  | tick here later done => split <;> simp [here, LifeEvent.isWatchdog, MainPhase.missed]
  | receive here queued =>
    rcases here with here | here <;> simp [here, LifeEvent.isWatchdog, MainPhase.missed]
  | raise open_ room => simp [LifeEvent.isWatchdog]
  | enter there => simp [LifeEvent.isWatchdog, Lifecycle.setThread]
  | fail there => simp [LifeEvent.isWatchdog, Lifecycle.setThread]
  | leave there told => simp [LifeEvent.isWatchdog, Lifecycle.setThread]
  | detach there => simp [LifeEvent.isWatchdog, Lifecycle.setThread]
  | _ => simp_all [LifeEvent.isWatchdog, MainPhase.missed, notifyReady]

/-- A pass may still be begun, or be begun after a check that has missed the worker. -/
def MainPhase.passes (queue : UInt32) (phase : MainPhase Fd) : Nat :=
  phase.early.toNat + (phase.missed queue).toNat

/-- Once a worker has exited, a pass uses up what the main thread had left. -/
theorem LifeStep.tick_spent (moved : LifeStep paths state event next)
    (planned : queue ∈ state.plan) (exited : state.threads queue = .exited) :
    event.isTick.toNat + next.phase.passes queue ≤ state.phase.passes queue := by
  have missed := moved.watchdog_spent planned exited
  cases moved with
  | beat here => simp [here, LifeEvent.isTick, MainPhase.passes, MainPhase.early, MainPhase.missed]
  | publish here =>
    simp [here, LifeEvent.isTick, MainPhase.passes, MainPhase.early, MainPhase.missed, planned]
  | look here =>
    simpa [here, LifeEvent.isTick, LifeEvent.isWatchdog, MainPhase.passes, MainPhase.early]
      using missed
  | tick here later done =>
    split <;> simp [here, LifeEvent.isTick, MainPhase.passes, MainPhase.early, MainPhase.missed]
  | receive here queued =>
    rcases here with here | here <;>
      simp [here, LifeEvent.isTick, MainPhase.passes, MainPhase.early, MainPhase.missed]
  | raise open_ room => simp [LifeEvent.isTick]
  | enter there => simp [LifeEvent.isTick, Lifecycle.setThread]
  | fail there => simp [LifeEvent.isTick, Lifecycle.setThread]
  | leave there told => simp [LifeEvent.isTick, Lifecycle.setThread]
  | detach there => simp [LifeEvent.isTick, Lifecycle.setThread]
  | _ => simp_all [LifeEvent.isTick, MainPhase.passes, MainPhase.early, MainPhase.missed]

/-- It never has more than one left. -/
theorem MainPhase.passes_le (queue : UInt32) (phase : MainPhase Fd) : phase.passes queue ≤ 1 := by
  cases phase <;> simp [passes, early, missed, Bool.toNat_le]

/-- However the threads are scheduled: once a worker of the pool has failed, the main thread sends
at most one more watchdog message and makes at most one more pass before it stops. -/
theorem dead_worker_noticed {before after : List (LifeEvent Fd)}
    (run : LifeRun paths start log state) (planned : queue ∈ start.plan)
    (split : log = before ++ .worker queue .failed :: after) :
    after.countP LifeEvent.isWatchdog ≤ 1 ∧ after.countP LifeEvent.isTick ≤ 1 := by
  obtain ⟨middle, failed, reached, moved, rest⟩ := run.split split
  have plan : failed.plan = start.plan := by
    rw [moved.plan_eq]
    exact reached.invariant (fun state => state.plan = start.plan) rfl
      fun _ same moved => moved.plan_eq.trans same
  have dead : failed.threads queue = .exited := by
    cases moved with
    | fail there => simp [Lifecycle.setThread]
  have initially : queue ∈ failed.plan ∧ failed.threads queue = .exited := ⟨plan ▸ planned, dead⟩
  have watchdogs := rest.spend LifeEvent.isWatchdog
    (fun state => (state.phase.missed queue).toNat)
    (fun state => queue ∈ state.plan ∧ state.threads queue = .exited) initially
    fun held moved => ⟨⟨moved.plan_eq ▸ held.1, moved.exited_stays held.2⟩,
      moved.watchdog_spent held.1 held.2⟩
  have passes := rest.spend LifeEvent.isTick
    (fun state => state.phase.passes queue)
    (fun state => queue ∈ state.plan ∧ state.threads queue = .exited) initially
    fun held moved => ⟨⟨moved.plan_eq ▸ held.1, moved.exited_stays held.2⟩,
      moved.tick_spent held.1 held.2⟩
  have one := failed.phase.passes_le queue
  have bit := Bool.toNat_le (failed.phase.missed queue)
  constructor <;> omega

end Noticing

section Status

variable {paths : PathOps} {state next : Lifecycle Fd} {event : LifeEvent Fd}
  {log : List (LifeEvent Fd)}

/-- The text of a message's last status. -/
def statusOf (message : List NotifyState) : Option String :=
  (message.filterMap fun
    | .status text => some text
    | _ => none).getLast?

/-- The status line that systemd shows after an event. -/
def LifeEvent.shows (shown : Option String) : LifeEvent Fd → Option String
  | .notified message => (statusOf message).or shown
  | _ => shown

/-- The status line that systemd shows after a log. -/
def shownStatus (log : List (LifeEvent Fd)) : Option String := log.foldl LifeEvent.shows none

/-- The main thread is neither between a change and its announcement, nor after the announcement
of a failure. -/
def MainPhase.settled : MainPhase Fd → Bool
  | .greeting | .reporting | .updating | .returned _ => false
  | .arming | .binding | .waiting | .handling _ | .reloading | .polling | .periodic
  | .refreshing _ _ | .checking _ _ | .exporting _ => true
  | .closing cause | .halting cause | .joining cause _ =>
    match cause with
    | .handoff | .signal _ => true
    | .died _ => false

/-- A settled main thread has announced the current line. -/
def Lifecycle.Announced (log : List (LifeEvent Fd)) (state : Lifecycle Fd) : Prop :=
  state.phase.settled = true →
    shownStatus log = some (buildStatus state.args state.main.routeConfig)

/-- The status line after one more event. -/
theorem shownStatus_concat : shownStatus (log ++ [event]) = event.shows (shownStatus log) := by
  simp [shownStatus]

/-- A step keeps the line current, or is about to announce what it changed. -/
theorem Lifecycle.Announced.step (announced : state.Announced log)
    (moved : LifeStep paths state event next) : next.Announced (log ++ [event]) := by
  intro settled
  rw [shownStatus_concat]
  cases moved with
  | greet here | report here | update here => rfl
  | @tick tick rebuilt after here later done =>
    cases rebuilt with
    | true => cases settled
    | false =>
      obtain ⟨after', rebuilt', done', -, -, -, kept, -⟩ := checkAndRebuild_spec state.main tick
      rw [done] at done'
      cases done'
      rw [(kept rfl).1]
      exact announced (by rw [here]; rfl)
  | reload here later done => cases settled
  | armFailed here => cases settled
  | bindFailed here configured => cases settled
  | disconnect here empty gone => cases settled
  | discard here cold => cases settled
  | handOver systemd here => cases settled
  | escalate here some => cases settled
  | @stop signal cause here stops =>
    exact announced (by rw [here]; rfl)
  | receive here queued =>
    exact announced (by rcases here with here | here <;> rw [here] <;> rfl)
  | raise open_ room => exact announced settled
  | enter there | fail there | leave there | detach there => exact announced settled
  | close here | halt here | join here | collect here =>
    exact announced (by rw [here]; exact settled)
  | _ => exact announced (by simp [*, MainPhase.settled])

variable {plan : List UInt32} {inherited : InheritedFds Fd} {args : Args} {main : MainState}

/-- At every moment of every run but between a change and its announcement, and until a failure is
announced, the status line that systemd shows is that of the current settings and table. -/
theorem status_line_current (run : LifeRun paths (.spawn plan inherited args main) log state)
    (settled : state.phase.settled = true) :
    shownStatus log = some (buildStatus state.args state.main.routeConfig) := by
  have announced : state.Announced log := by
    induction run with
    | nil => exact nofun
    | snoc prior moved ih =>
      intro settled
      exact Lifecycle.Announced.step (fun before => ih before before) moved settled
  exact announced settled

end Status

namespace SampleLife

open SampleSettings

/-- A table without servers, so that a pass changes nothing. -/
def idle : MainState := ⟨⟨fun _ => none, fun _ => none, [], none⟩, .new, 0⟩

def start : Lifecycle Nat := .spawn [0] ⟨fun _ => none⟩ (running [443]) idle

def tick : Tick := ⟨fun _ => none, .answering true, 1⟩

/-- The process with its main thread at the given phase. -/
def standing (phase : MainPhase Nat) (main : MainState) : Lifecycle Nat :=
  { start with phase := phase, main := main }

/-- After the pass. -/
def passed : MainState := ⟨idle.routeConfig, idle.health.tracked idle.routeConfig 1, 1⟩

/-- From the first message to the loop, whatever table is in force. -/
theorem enters (main : MainState) : LifeRun paths (standing .greeting main)
    [.notified (notifyReady (buildStatus start.args main.routeConfig)), .advanced, .advanced,
      .advanced, .advanced] (standing .periodic main) := by
  have greets : LifeRun paths (standing .greeting main) _ (standing .arming main) :=
    Trace.nil.snoc (.greet rfl)
  have arms : LifeRun paths _ _ (standing .binding main) := greets.snoc (.arm rfl)
  have waits : LifeRun paths _ _ (standing .waiting main) := arms.snoc (.bind rfl)
  have polls : LifeRun paths _ _ (standing .polling main) := waits.snoc (.timeout rfl rfl)
  have works : LifeRun paths _ _ (standing .periodic main) := polls.snoc (.drain rfl rfl)
  exact works

/-- A pass counts and checks the worker, which is alive. -/
theorem looks {first main : MainState} {log : List (LifeEvent Nat)} (ticks : LifeRun paths
    (standing .greeting first) log (standing (.refreshing [0] 0) main)) :
    LifeRun paths (standing .greeting first) (log ++ [.advanced] ++ [.advanced] ++ [.advanced])
      (standing (.checking [] []) main) := by
  have counts := ticks.snoc (.refresh rfl)
  have publishes : LifeRun paths _ _ (standing (.checking [0] []) main) :=
    counts.snoc (.publish rfl)
  have looked := publishes.snoc (.look rfl)
  exact looked

/-- The first pass of a daemon without servers. -/
theorem pass : LifeRun paths start
    [.notified (notifyReady (buildStatus start.args idle.routeConfig)), .advanced, .advanced,
      .advanced, .advanced, .ticked tick false, .advanced, .advanced, .advanced]
    (standing (.checking [] []) passed) := by
  have step : LifeStep paths (standing .periodic idle) (.ticked tick false)
      (standing (.refreshing [0] 0) passed) :=
    .tick rfl (Nat.zero_le 1) (show idle.checkAndRebuild tick = .ok (passed, false) from rfl)
  exact looks ((enters idle).snoc step)

/-- The table with one server, once a probe has found it up. -/
def probed : MainState := SampleReload.ticked SampleReload.start true 1

/-- That table, reloaded. -/
def reread : MainState := SampleReload.reread probed 2

/-- The pass finds the server up and rebuilds the table. -/
theorem finds_up : SampleReload.start.checkAndRebuild (SampleReload.tick true 1) =
    .ok (probed, true) := by
  obtain ⟨after, rebuilt, done, -⟩ :=
    checkAndRebuild_spec SampleReload.start (SampleReload.tick true 1)
  have flag : (SampleReload.start.checkAndRebuild (SampleReload.tick true 1)).map Prod.snd =
      .ok true := by decide +kernel
  rw [done] at flag
  cases flag
  rw [probed, SampleReload.ticked, done]

/-- A pass finds the server up, and the table that it stores is announced. -/
theorem announces : ∃ log, LifeRun paths (standing .greeting SampleReload.start) log
    (standing (.refreshing [0] 0) probed) := by
  have step : LifeStep paths (standing .periodic SampleReload.start)
      (.ticked (SampleReload.tick true 1) true)
      { standing .periodic SampleReload.start with
        phase := if true then .updating else .refreshing [0] 0, main := probed } :=
    .tick rfl (Nat.zero_le 1) finds_up
  have ticks : LifeRun paths (standing .greeting SampleReload.start) _
      (standing .updating probed) := (enters SampleReload.start).snoc step
  exact ⟨_, ticks.snoc (.update rfl)⟩

/-- The process after a reload of both files. -/
def reloaded : Lifecycle Nat :=
  { standing .polling reread with args := start.args.reloadConfig paths portFile }

/-- The same process beats, receives SIGHUP, reloads and reports. -/
theorem reloads {log : List (LifeEvent Nat)} (announced : LifeRun paths
    (standing .greeting SampleReload.start) log (standing (.refreshing [0] 0) probed)) :
    ∃ log, LifeRun paths (standing .greeting SampleReload.start) log reloaded := by
  have waits : LifeRun paths _ _ (standing .waiting probed) := (looks announced).snoc (.beat rfl)
  have raised : LifeRun paths _ (_ ++ [.raised .hup])
      { standing .waiting probed with pending := [.hup] } := waits.snoc (.raise rfl (by decide))
  have handles : LifeRun paths _ _ (standing (.handling .hup) probed) :=
    raised.snoc (.receive (.inl rfl) rfl)
  have later : probed.clock ≤ 2 := by decide +kernel
  have done : probed.reloadConfig (SampleReload.reload 2) = .ok reread := by
    simp only [MainState.reloadConfig, SampleReload.reload, SampleReload.loaded, Checked.ok_bind]
    rfl
  have step : LifeStep paths (standing .reloading probed) (.reloaded (SampleReload.reload 2))
      { standing .reloading probed with
        phase := .reporting, args := start.args.reloadConfig paths portFile, main := reread } :=
    .reload rfl later done
  have rereads : LifeRun paths _ _ { reloaded with phase := .reporting } :=
    (handles.snoc (.hangup rfl)).snoc step
  exact ⟨_, rereads.snoc (.report rfl)⟩

end SampleLife

open SampleLife SampleSettings in
/-- The first pass finds the worker alive, and the worker fails before the watchdog message. -/
theorem dead_worker_noticed_sample : ∃ before after state,
    LifeRun paths start (before ++ .worker 0 .failed :: after) state ∧
      after.countP LifeEvent.isWatchdog = 1 ∧ after.countP LifeEvent.isTick ≤ 1 := by
  have alive : (standing (.checking [] []) passed).threads 0 = .starting none := rfl
  have beats := (pass.snoc (.fail (.inl alive))).snoc (.beat rfl)
  rw [List.append_assoc] at beats
  exact ⟨_, [.notified [.watchdog]], _, beats, rfl,
    (dead_worker_noticed beats List.mem_cons_self rfl).2⟩

open SampleLife SampleSettings in
/-- The line follows a probe that finds the server up, and then a reload that forgets it. -/
theorem status_line_current_sample : ∃ log log',
    LifeRun paths (.spawn [0] ⟨fun _ => none⟩ (running [443]) SampleReload.start) log
      (standing (.refreshing [0] 0) probed) ∧
    shownStatus log = some "eth1 [443] q=1; backends 1/1 healthy" ∧
    LifeRun paths (.spawn [0] ⟨fun _ => none⟩ (running [443]) SampleReload.start) log' reloaded ∧
    shownStatus log' = some "eth1 [443] q=1; backends 0/1 healthy" := by
  have up : buildStatus (running [443]) probed.routeConfig =
      "eth1 [443] q=1; backends 1/1 healthy" := by decide +kernel
  have down : buildStatus reloaded.args reread.routeConfig =
      "eth1 [443] q=1; backends 0/1 healthy" := by decide +kernel
  obtain ⟨log, announced⟩ := announces
  obtain ⟨log', reported⟩ := reloads announced
  exact ⟨log, log', announced, up ▸ status_line_current announced rfl, reported,
    down ▸ status_line_current reported rfl⟩

end Pesigitg
