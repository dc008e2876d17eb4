import Pesigitg.Daemon.Lifecycle

/-!
# How a daemon process ends

Three things end the main loop: SIGUSR2, SIGINT or SIGTERM, and a worker that has exited. Each
announces the end to systemd and then closes the signal thread, sets the flag, joins every worker
and deals with the descriptors they offered. Only a daemon that cannot set up its health checker or
its status socket returns without any of this, before it has entered the loop.
`Lifecycle.Orderly` says where a process stands in this, as long as it serves and while it stops,
and `orderly_exit` what is true once `main` returns.
-/

namespace Pesigitg

open Base Fdstore

variable {Fd : Type}

section Stopping

variable {paths : PathOps} {state next : Lifecycle Fd} {event : LifeEvent Fd}
  {log : List (LifeEvent Fd)} {queue : UInt32} {cause : StopCause}

/-- The signal that was received last. -/
def lastReceived (log : List (LifeEvent Fd)) : Option Signal :=
  (log.filterMap LifeEvent.received?).getLast?

/-- What a stop goes back to: the last signal received, or workers that failed. -/
def StopCause.Justified (plan : List UInt32) (log : List (LifeEvent Fd)) : StopCause → Prop
  | .handoff => lastReceived log = some .usr2
  | .signal given => lastReceived log = some given ∧ (given = .int ∨ given = .term)
  | .died queues =>
    queues ≠ [] ∧ ∀ queue ∈ queues, queue ∈ plan ∧ .worker queue .failed ∈ log

/-- The daemon before it stops. -/
structure Lifecycle.Serving (log : List (LifeEvent Fd)) (state : Lifecycle Fd) : Prop where
  quiet : ∀ event ∈ log, event.isStopping = false
  kept : ∀ sent, .exported sent ∉ log
  flag : state.shutdown = false
  listening : state.listening = true
  handoff : state.handoff = false
  offered : state.offered = []
  inLoop : ∀ queue pair, state.threads queue ≠ .leaving pair
  dead : ∀ queue ∈ state.plan, state.threads queue = .exited → .worker queue .failed ∈ log

/-- Where the main thread stands before a stop. -/
def Lifecycle.Before (log : List (LifeEvent Fd)) (state : Lifecycle Fd) : MainPhase Fd → Prop
  | .handling signal => lastReceived log = some signal
  | .checking left dead => (∀ queue ∈ left, queue ∈ state.plan) ∧
      ∀ queue ∈ dead, queue ∈ state.plan ∧ .worker queue .failed ∈ log
  | .greeting | .arming | .binding => ∀ event ∈ log, event.precedes = true
  | .refreshing _ _ | .waiting | .reloading | .reporting | .polling | .periodic
  | .updating => True
  | .closing _ | .halting _ | .joining _ _ | .exporting _ | .returned _ => False

/-- Every worker of the pool has exited, and what they offered has been dealt with. -/
structure Lifecycle.Stopped (cause : StopCause) (state : Lifecycle Fd) : Prop where
  flag : state.shutdown = true
  handoff : state.handoff = decide (cause = .handoff)
  offered : state.offered = []
  exited : ∀ queue ∈ state.plan, state.threads queue = .exited

/-- How far a stop has come. -/
def Lifecycle.During (cause : StopCause) (log : List (LifeEvent Fd)) (state : Lifecycle Fd) :
    MainPhase Fd → Prop
  | .closing given =>
    given = cause ∧ state.handoff = false ∧ ∀ sent, .exported sent ∉ log
  | .halting given =>
    given = cause ∧ state.handoff = decide (cause = .handoff) ∧ ∀ sent, .exported sent ∉ log
  | .joining given left =>
    given = cause ∧ state.shutdown = true ∧ state.handoff = decide (cause = .handoff) ∧
      (∀ sent, .exported sent ∉ log) ∧
      ∀ queue ∈ state.plan, queue ∈ left ∨ state.threads queue = .exited
  | .exporting _ => cause = .handoff ∧ state.Stopped cause ∧ ∀ sent, .exported sent ∉ log
  | .returned outcome => outcome = cause.outcome ∧ state.Stopped cause ∧
      ((∃ sent, .exported sent ∈ log) ↔ cause = .handoff)
  | .greeting | .arming | .binding | .waiting | .handling _ | .reloading | .reporting | .polling
  | .periodic | .updating | .refreshing _ _ | .checking _ _ => False

/-- `main` has returned with an error before it entered its loop: it has taken no signal, announced
no end and told no worker to stop. -/
structure Lifecycle.GaveUp (log : List (LifeEvent Fd)) (outcome : Except String Unit)
    (state : Lifecycle Fd) : Prop where
  serving : state.Serving log
  early : ∀ event ∈ log, event.precedes = true
  failed : ∃ reason, outcome = .error reason

/-- The daemon serves, or it has given up before its loop, or it has announced its end and does
nothing but wind up. -/
inductive Lifecycle.Orderly (log : List (LifeEvent Fd)) (state : Lifecycle Fd) : Prop where
  | serving (serving : state.Serving log) (phase : state.Before log state.phase)
  | gaveUp {outcome : Except String Unit} (gaveUp : state.GaveUp log outcome)
      (phase : state.phase = .returned outcome)
  | stopping {before after : List (LifeEvent Fd)} {message : List NotifyState} {cause : StopCause}
      (split : log = before ++ .notified message :: after)
      (announced : .stopping ∈ message)
      (quiet : ∀ event ∈ before, event.isStopping = false)
      (winds : ∀ event ∈ after, event.winds = true)
      (justified : cause.Justified state.plan before)
      (phase : state.During cause log state.phase)

/-- The last signal after one more event. -/
theorem lastReceived_concat :
    lastReceived (log ++ [event]) = event.received?.or (lastReceived log) := by
  rw [lastReceived, List.filterMap_append]
  cases got : event.received? with
  | none => simp [got, lastReceived]
  | some signal => simp [got]

/-- What holds of every event so far and of one more. -/
theorem forall_mem_concat {kind : LifeEvent Fd → Prop} (earlier : ∀ made ∈ log, kind made)
    (last : kind event) : ∀ made ∈ log ++ [event], kind made :=
  List.forall_mem_append.mpr ⟨earlier, List.forall_mem_singleton.mpr last⟩

/-- Another event hands nothing over. -/
theorem exported_mem_concat {sent : List (Named Fd)} (keeps : event ≠ .exported sent) :
    .exported sent ∈ log ++ [event] ↔ .exported sent ∈ log := by
  simp [keeps.symm]

/-- What a step of the main thread inside its loop leaves alone. -/
structure Lifecycle.SameShared (next state : Lifecycle Fd) : Prop where
  plan : next.plan = state.plan
  threads : next.threads = state.threads
  shutdown : next.shutdown = state.shutdown
  listening : next.listening = state.listening
  handoff : next.handoff = state.handoff
  offered : next.offered = state.offered

/-- A step that changes nothing shared keeps the daemon serving. -/
theorem Lifecycle.Serving.advance (serving : state.Serving log) (same : next.SameShared state)
    (quiet : event.isStopping = false) (keeps : ∀ sent, event ≠ .exported sent) :
    next.Serving (log ++ [event]) where
  quiet := forall_mem_concat serving.quiet quiet
  kept := fun sent member => serving.kept sent ((exported_mem_concat (keeps sent)).mp member)
  flag := same.shutdown.trans serving.flag
  listening := same.listening.trans serving.listening
  handoff := same.handoff.trans serving.handoff
  offered := same.offered.trans serving.offered
  inLoop := by
    rw [same.threads]
    exact serving.inLoop
  dead := by
    rw [same.plan, same.threads]
    exact fun queue planned exited => List.mem_append_left _ (serving.dead queue planned exited)

/-- A worker starts its loop or fails. -/
theorem Lifecycle.Serving.worker (serving : state.Serving log) {act : WorkerAct}
    {thread : WorkerThread Fd} (stays : ∀ pair, thread ≠ .leaving pair)
    (failed : thread = .exited → act = .failed) :
    (state.setThread queue thread).Serving (log ++ [.worker queue act]) where
  quiet := forall_mem_concat serving.quiet rfl
  kept := fun sent member => serving.kept sent ((exported_mem_concat (by simp)).mp member)
  flag := serving.flag
  listening := serving.listening
  handoff := serving.handoff
  offered := serving.offered
  inLoop := by
    intro other pair
    by_cases this : other = queue
    · subst this
      simpa [setThread] using stays pair
    · rw [setThread_of_ne this]
      exact serving.inLoop other pair
  dead := by
    intro other planned exited
    by_cases this : other = queue
    · subst this
      rw [← failed (by simpa [setThread] using exited)]
      exact List.mem_append_right _ List.mem_cons_self
    · rw [setThread_of_ne this] at exited
      exact List.mem_append_left _ (serving.dead other planned exited)

/-- What happens before the loop takes no signal. -/
theorem LifeEvent.received?_of_precedes (precedes : event.precedes = true) :
    event.received? = none := by
  cases event with
  | received signal => cases precedes
  | _ => rfl

/-- What other threads do does not disturb where the main thread stands. -/
theorem Lifecycle.Before.concat {phase : MainPhase Fd} (stands : state.Before log phase)
    (plan : next.plan = state.plan) (precedes : event.precedes = true) :
    next.Before (log ++ [event]) phase := by
  have silent := LifeEvent.received?_of_precedes precedes
  cases phase with
  | greeting => exact forall_mem_concat stands precedes
  | arming => exact forall_mem_concat stands precedes
  | binding => exact forall_mem_concat stands precedes
  | handling signal =>
    simp only [Before, lastReceived_concat, silent, Option.none_or] at stands ⊢
    exact stands
  | checking left dead =>
    refine ⟨fun queue listed => plan ▸ stands.1 queue listed, fun queue found => ?_⟩
    obtain ⟨planned, failed⟩ := stands.2 queue found
    exact ⟨plan ▸ planned, List.mem_append_left _ failed⟩
  | closing cause => exact stands
  | halting cause => exact stands
  | joining cause left => exact stands
  | exporting detached => exact stands
  | returned outcome => exact stands
  | _ => trivial

/-- A signal that stops the daemon justifies the stop. -/
theorem StopCause.Justified.of_signal {signal : Signal} {plan : List UInt32}
    (received : lastReceived log = some signal) (stops : signal.stops = some cause) :
    cause.Justified plan log := by
  cases signal with
  | hup | usr1 => cases stops
  | usr2 =>
    cases stops
    exact received
  | int =>
    cases stops
    exact ⟨received, .inl rfl⟩
  | term =>
    cases stops
    exact ⟨received, .inr rfl⟩

/-- The check of a worker finds it dead only if it has failed. -/
theorem Lifecycle.Serving.look (serving : state.Serving log) {left dead : List UInt32}
    (stands : state.Before log (.checking (queue :: left) dead)) :
    state.Before log (.checking left
      (if (state.threads queue).isFinished then dead ++ [queue] else dead)) := by
  obtain ⟨planned, failed⟩ := stands
  refine ⟨fun other listed => planned other (List.mem_cons_of_mem _ listed), ?_⟩
  intro other found
  split at found
  · next finished =>
    rcases List.mem_append.mp found with known | last
    · exact failed other known
    · rw [List.mem_singleton.mp last]
      have here := planned queue List.mem_cons_self
      exact ⟨here, serving.dead queue here (WorkerThread.isFinished_iff.mp finished)⟩
  · exact failed other found

/-- A step of a daemon that serves. -/
theorem Lifecycle.Serving.step (serving : state.Serving log)
    (stands : state.Before log state.phase) (moved : LifeStep paths state event next) :
    next.Orderly (log ++ [event]) := by
  cases moved with
  | raise open_ room =>
    exact .serving (serving.advance ⟨rfl, rfl, rfl, rfl, rfl, rfl⟩ rfl (by simp))
      (stands.concat rfl rfl)
  | greet here | arm here =>
    rw [here] at stands
    exact .serving (serving.advance ⟨rfl, rfl, rfl, rfl, rfl, rfl⟩ rfl (by simp))
      (forall_mem_concat stands rfl)
  | armFailed here | bindFailed here configured =>
    rw [here] at stands
    exact .gaveUp ⟨serving.advance ⟨rfl, rfl, rfl, rfl, rfl, rfl⟩ rfl (by simp),
      forall_mem_concat stands rfl, _, rfl⟩ rfl
  | bind here | report here =>
    exact .serving (serving.advance ⟨rfl, rfl, rfl, rfl, rfl, rfl⟩ rfl (by simp)) trivial
  | receive here queued =>
    refine .serving (serving.advance ⟨rfl, rfl, rfl, rfl, rfl, rfl⟩ rfl (by simp)) ?_
    simp [Before, lastReceived_concat, LifeEvent.received?]
  | timeout here empty | drain here empty | hangup here | dump here | update here =>
    exact .serving (serving.advance ⟨rfl, rfl, rfl, rfl, rfl, rfl⟩ rfl (by simp)) trivial
  | reload here later done =>
    exact .serving (serving.advance ⟨rfl, rfl, rfl, rfl, rfl, rfl⟩ rfl (by simp)) trivial
  | disconnect here empty gone =>
    rw [serving.listening] at gone
    cases gone
  | @stop signal cause here stops =>
    rw [here] at stands
    exact .stopping rfl List.mem_cons_self serving.quiet (by simp) (.of_signal stands stops)
      ⟨rfl, serving.handoff, by simpa using serving.kept⟩
  | tick here later done =>
    refine .serving (serving.advance ⟨rfl, rfl, rfl, rfl, rfl, rfl⟩ rfl (by simp)) ?_
    split <;> trivial
  | refresh here =>
    exact .serving (serving.advance ⟨rfl, rfl, rfl, rfl, rfl, rfl⟩ rfl (by simp)) trivial
  | publish here =>
    refine .serving (serving.advance ⟨rfl, rfl, rfl, rfl, rfl, rfl⟩ rfl (by simp)) ?_
    exact ⟨fun queue listed => listed, by simp⟩
  | @look queue left dead here =>
    rw [here] at stands
    exact .serving (serving.advance ⟨rfl, rfl, rfl, rfl, rfl, rfl⟩ rfl (by simp))
      ((serving.look stands).concat rfl rfl)
  | beat here =>
    exact .serving (serving.advance ⟨rfl, rfl, rfl, rfl, rfl, rfl⟩ rfl (by simp)) trivial
  | @escalate dead here some =>
    rw [here] at stands
    have justified : (StopCause.died dead).Justified state.plan log := ⟨some, stands.2⟩
    exact .stopping rfl List.mem_cons_self serving.quiet (by simp) justified
      ⟨rfl, serving.handoff, by simpa using serving.kept⟩
  | close here | halt here | join here | discard here | collect here | handOver _ here =>
    rw [here] at stands
    exact stands.elim
  | enter there =>
    exact .serving (serving.worker (by simp) (by simp)) (stands.concat rfl rfl)
  | fail there =>
    exact .serving (serving.worker (by simp) (by simp)) (stands.concat rfl rfl)
  | leave there told =>
    rw [serving.flag] at told
    cases told
  | detach there => exact absurd there (serving.inLoop _ _)

/-- A step after the daemon has given up: only other threads still move. -/
theorem Lifecycle.GaveUp.step {outcome : Except String Unit} (gaveUp : state.GaveUp log outcome)
    (returned : state.phase = .returned outcome) (moved : LifeStep paths state event next) :
    next.GaveUp (log ++ [event]) outcome ∧ next.phase = .returned outcome := by
  obtain ⟨serving, early, failed⟩ := gaveUp
  cases moved with
  | raise open_ room =>
    exact ⟨⟨serving.advance ⟨rfl, rfl, rfl, rfl, rfl, rfl⟩ rfl (by simp),
      forall_mem_concat early rfl, failed⟩, returned⟩
  | enter there | fail there =>
    exact ⟨⟨serving.worker (by simp) (by simp), forall_mem_concat early rfl, failed⟩, returned⟩
  | leave there told =>
    rw [serving.flag] at told
    cases told
  | detach there => exact absurd there (serving.inLoop _ _)
  | receive here queued =>
    rw [returned] at here
    simp at here
  | _ => simp_all

/-- Only workers of the pool have threads. -/
def Lifecycle.Pooled (state : Lifecycle Fd) : Prop :=
  ∀ queue, state.threads queue ≠ .exited → queue ∈ state.plan

/-- No step starts a thread outside the pool. -/
theorem LifeStep.pooled (moved : LifeStep paths state event next) (pooled : state.Pooled) :
    next.Pooled := by
  intro queue alive
  have plan := moved.plan_eq
  rw [plan]
  exact pooled queue fun exited => alive (moved.exited_stays exited)

/-- What a stop keeps when the main thread does not move. -/
theorem Lifecycle.During.frame (stands : state.During cause log state.phase)
    (phase : next.phase = state.phase) (plan : next.plan = state.plan)
    (flag : next.shutdown = state.shutdown) (handoff : next.handoff = state.handoff)
    (offered : state.Stopped cause → next.offered = state.offered)
    (exits : ∀ queue, state.threads queue = .exited → next.threads queue = .exited)
    (keeps : ∀ sent, event ≠ .exported sent) :
    next.During cause (log ++ [event]) next.phase := by
  have silent (sent : List (Named Fd)) :
      .exported sent ∈ log ++ [event] ↔ .exported sent ∈ log := exported_mem_concat (keeps sent)
  have stopped (done : state.Stopped cause) : next.Stopped cause :=
    ⟨flag.trans done.flag, handoff.trans done.handoff, (offered done).trans done.offered,
      fun queue planned => exits queue (done.exited queue (plan ▸ planned))⟩
  rw [phase]
  cases here : state.phase with
  | closing given =>
    rw [here] at stands
    simpa only [During, handoff, silent] using stands
  | halting given =>
    rw [here] at stands
    simpa only [During, handoff, silent] using stands
  | joining given left =>
    rw [here] at stands
    simp only [During, handoff, flag, plan, silent] at stands ⊢
    obtain ⟨same, told, mark, none, exited⟩ := stands
    refine ⟨same, told, mark, none, fun queue planned => ?_⟩
    exact (exited queue planned).imp_right (exits queue)
  | exporting detached =>
    rw [here] at stands
    simp only [During, silent] at stands ⊢
    exact ⟨stands.1, stopped stands.2.1, stands.2.2⟩
  | returned outcome =>
    rw [here] at stands
    simp only [During, silent] at stands ⊢
    exact ⟨stands.1, stopped stands.2.1, stands.2.2⟩
  | _ =>
    rw [here] at stands
    exact stands.elim

/-- A step of a daemon that stops: it winds up. -/
theorem Lifecycle.During.step (stands : state.During cause log state.phase)
    (pooled : state.Pooled) (moved : LifeStep paths state event next) :
    event.winds = true ∧ next.During cause (log ++ [event]) next.phase := by
  have exits (queue : UInt32) (gone : state.threads queue = .exited) :
      next.threads queue = .exited := moved.exited_stays gone
  cases moved with
  | raise open_ room =>
    exact ⟨rfl, stands.frame rfl rfl rfl rfl (fun _ => rfl) exits (by simp)⟩
  | enter there | fail there | leave there =>
    exact ⟨rfl, stands.frame rfl rfl rfl rfl (fun _ => rfl) exits (by simp)⟩
  | @detach queue pair there =>
    refine ⟨rfl, stands.frame rfl rfl rfl rfl (fun done => ?_) exits (by simp)⟩
    have exited := done.exited queue (pooled queue (by simp [there]))
    rw [there] at exited
    cases exited
  | close here =>
    rw [here] at stands
    obtain ⟨rfl, mark, none⟩ := stands
    exact ⟨rfl, rfl, by simp [mark], by simpa using none⟩
  | halt here =>
    rw [here] at stands
    obtain ⟨rfl, mark, none⟩ := stands
    exact ⟨rfl, rfl, rfl, mark, by simpa using none, fun queue planned => .inl planned⟩
  | @join _ queue left here finished =>
    rw [here] at stands
    obtain ⟨rfl, told, mark, none, exited⟩ := stands
    refine ⟨rfl, rfl, told, mark, by simpa using none, fun other planned => ?_⟩
    rcases exited other planned with listed | gone
    · rcases List.mem_cons.mp listed with rfl | later
      · exact .inr (WorkerThread.isFinished_iff.mp finished)
      · exact .inl later
    · exact .inr gone
  | discard here cold =>
    rw [here] at stands
    obtain ⟨rfl, told, mark, none, exited⟩ := stands
    refine ⟨rfl, rfl, ⟨told, mark, rfl, ?_⟩, ?_⟩
    · exact fun queue planned => (exited queue planned).resolve_left (by simp)
    · simpa [cold] using none
  | collect here =>
    rw [here] at stands
    obtain ⟨rfl, told, mark, none, exited⟩ := stands
    refine ⟨rfl, rfl, ⟨told, mark, rfl, ?_⟩, by simpa using none⟩
    exact fun queue planned => (exited queue planned).resolve_left (by simp)
  | handOver systemd here =>
    rw [here] at stands
    obtain ⟨rfl, stopped, none⟩ := stands
    refine ⟨rfl, rfl, ⟨stopped.flag, stopped.handoff, stopped.offered, stopped.exited⟩, ?_⟩
    simp
  | receive here queued =>
    rcases here with here | here
    · rw [here] at stands
      exact stands.elim
    · rw [here] at stands
      exact stands.elim
  | _ => simp_all [During]

/-- Every step keeps the daemon orderly. -/
theorem Lifecycle.Orderly.step (orderly : state.Orderly log) (pooled : state.Pooled)
    (moved : LifeStep paths state event next) : next.Orderly (log ++ [event]) := by
  cases orderly with
  | serving serving phase => exact serving.step phase moved
  | gaveUp gaveUp phase =>
    obtain ⟨still, returned⟩ := gaveUp.step phase moved
    exact .gaveUp still returned
  | stopping split announced quiet winds justified phase =>
    obtain ⟨wound, during⟩ := phase.step pooled moved
    subst split
    refine .stopping (List.append_assoc ..) announced quiet ?_
      (moved.plan_eq.symm ▸ justified) during
    intro made member
    rcases List.mem_append.mp member with earlier | last
    · exact winds made earlier
    · rw [List.mem_singleton.mp last]
      exact wound

variable {plan : List UInt32} {inherited : InheritedFds Fd} {args : Args} {main : MainState}

/-- What a worker is spawned with was inherited for its queue. -/
theorem Lifecycle.spawnLoop_cases (byQueue : UInt32 → Option (Fd × Fd))
    (threads : UInt32 → WorkerThread Fd) (plan : List UInt32) (queue : UInt32) :
    spawnLoop byQueue threads plan queue = threads queue ∧ queue ∉ plan ∨
      queue ∈ plan ∧ ∃ pair, spawnLoop byQueue threads plan queue = .starting pair ∧
        ∀ fds, pair = some fds → byQueue queue = some fds := by
  induction plan generalizing byQueue threads with
  | nil => exact .inl ⟨rfl, by simp⟩
  | cons first rest ih =>
    rcases ih (Function.update byQueue first none)
      (Function.update threads first (.starting (byQueue first))) with
      ⟨same, absent⟩ | ⟨listed, pair, started, held⟩
    · by_cases this : queue = first
      · subst this
        refine .inr ⟨List.mem_cons_self, byQueue queue, ?_, fun fds found => found⟩
        simpa [spawnLoop] using same
      · refine .inl ⟨?_, by simp [this, absent]⟩
        simpa [spawnLoop, this] using same
    · refine .inr ⟨List.mem_cons_of_mem _ listed, pair, started, fun fds found => ?_⟩
      have kept := held fds found
      by_cases this : queue = first
      · subst this
        simp at kept
      · rwa [Function.update_of_ne this] at kept

/-- A spawned daemon has threads for its plan only. -/
theorem Lifecycle.pooled_spawn : (spawn plan inherited args main).Pooled := by
  intro queue alive
  rcases spawnLoop_cases inherited.byQueue (fun _ => .exited) plan queue with
    ⟨same, -⟩ | ⟨listed, -⟩
  · exact absurd same alive
  · exact listed

/-- A spawned daemon serves. -/
theorem Lifecycle.orderly_spawn : (spawn plan inherited args main).Orderly [] := by
  have started (queue : UInt32) (planned : queue ∈ plan) :
      ∃ pair, (spawn plan inherited args main).threads queue = .starting pair := by
    rcases spawnLoop_cases inherited.byQueue (fun _ => .exited) plan queue with
      ⟨-, absent⟩ | ⟨-, pair, started, -⟩
    · exact absurd planned absent
    · exact ⟨pair, started⟩
  refine .serving ⟨by simp, by simp, rfl, rfl, rfl, rfl, ?_, ?_⟩ nofun
  · intro queue pair leaving
    have pooled : (spawn plan inherited args main).Pooled := pooled_spawn
    obtain ⟨pair', starting⟩ := started queue (pooled queue (by simp [leaving]))
    rw [leaving] at starting
    cases starting
  · intro queue planned exited
    obtain ⟨pair, starting⟩ := started queue planned
    rw [exited] at starting
    cases starting

/-- So the daemon is orderly at every moment of a run. -/
theorem LifeRun.orderly (run : LifeRun paths (.spawn plan inherited args main) log state) :
    state.Pooled ∧ state.Orderly log := by
  induction run with
  | nil => exact ⟨Lifecycle.pooled_spawn, Lifecycle.orderly_spawn⟩
  | snoc prior moved ih => exact ⟨moved.pooled ih.1, ih.2.step ih.1 moved⟩

/-- Whatever the order of signals, worker exits and steps of the main thread: `main` returns in one
of two ways. Either it could not set up what it needs for its loop; then it returns an error, having
taken no signal and announced no end, and no worker has been told to stop or been waited for. Or it
has announced its end exactly once, and from then on it has taken no signal, reloaded nothing, made
no pass and sent no message. All workers of the pool have exited. What it returns, whether the pins
stay and whether descriptors were handed over is then decided by what the stop goes back to: the
last signal it took, or workers that it found dead and that did fail before. -/
theorem orderly_exit {outcome : Except String Unit}
    (run : LifeRun paths (.spawn plan inherited args main) log state)
    (done : state.phase = .returned outcome) :
    state.GaveUp log outcome ∨
      ∃ before message after cause, log = before ++ .notified message :: after ∧
        .stopping ∈ message ∧ (∀ event ∈ before, event.isStopping = false) ∧
        (∀ event ∈ after, event.winds = true) ∧ cause.Justified state.plan before ∧
        outcome = cause.outcome ∧ state.Stopped cause ∧
        ((∃ sent, .exported sent ∈ log) ↔ cause = .handoff) := by
  cases (LifeRun.orderly run).2 with
  | serving serving phase =>
    rw [done] at phase
    exact phase.elim
  | gaveUp gaveUp phase =>
    cases phase.symm.trans done
    exact .inl gaveUp
  | @stopping before after message cause split announced quiet winds justified phase =>
    rw [done] at phase
    obtain ⟨same, stopped, handed⟩ := phase
    exact .inr ⟨before, message, after, cause, split, announced, quiet, winds, justified, same,
      stopped, handed⟩

end Stopping

namespace SampleExit

open SampleLife SampleSettings

/-- A daemon that was given the socket and the memory of its queue. -/
def start : Lifecycle Nat :=
  .spawn [0] ⟨Function.update (fun _ => none) 0 (some (10, 11))⟩ (running [443]) idle

def greeted : Lifecycle Nat := { start with phase := .waiting }

/-- The worker is in its loop and SIGUSR2 has been received. -/
def told : Lifecycle Nat :=
  { start.setThread 0 (.looping (some (10, 11))) with phase := .handling .usr2 }

/-- The signal thread is closed, the pins are marked and the flag is set. -/
def halted : Lifecycle Nat :=
  { told with
    phase := .joining .handoff [0], listening := false, handoff := true, shutdown := true }

/-- The worker has exited and its descriptors are handed over. -/
def ended : Lifecycle Nat :=
  { halted.setThread 0 .exited with phase := .returned (.ok ()) }

def sent : List (Named Nat) := named [(0, 10, 11)]

def log : List (LifeEvent Nat) :=
  [.notified (notifyReady (buildStatus start.args idle.routeConfig)), .advanced, .advanced,
    .worker 0 .entered, .raised .usr2, .received .usr2, .notified [.stopping], .advanced, .advanced,
    .worker 0 .left, .worker 0 .detached, .joined 0, .advanced, .exported sent]

/-- The sample's log is one of a run. -/
theorem run : LifeRun paths start log ended := by
  have spawned : greeted.threads 0 = .starting (some (10, 11)) := rfl
  have looping : halted.threads 0 = .looping (some (10, 11)) := rfl
  have arms : LifeRun paths start _ { start with phase := .arming } := Trace.nil.snoc (.greet rfl)
  have binds : LifeRun paths start _ { start with phase := .binding } := arms.snoc (.arm rfl)
  have greets : LifeRun paths start _ greeted := binds.snoc (.bind rfl)
  have enters := greets.snoc (.enter spawned)
  have raises : LifeRun paths start (_ ++ [.raised .usr2])
      { told with phase := .waiting, pending := [.usr2] } := enters.snoc (.raise rfl (by decide))
  have tells : LifeRun paths start _ told := raises.snoc (.receive (.inl rfl) rfl)
  have halts : LifeRun paths start _ halted :=
    ((tells.snoc (.stop rfl rfl)).snoc (.close rfl)).snoc (.halt rfl)
  have leaves : LifeRun paths start _ (halted.setThread 0 (.leaving (some (10, 11)))) :=
    halts.snoc (.leave looping rfl)
  have leaving : (halted.setThread 0 (.leaving (some (10, 11)))).threads 0 =
      .leaving (some (10, 11)) := rfl
  have same : (halted.setThread 0 (.leaving (some (10, 11)))).setThread 0 .exited =
      halted.setThread 0 .exited := by
    simp [Lifecycle.setThread]
  have detaches := leaves.snoc (.detach leaving)
  rw [same] at detaches
  have joins : LifeRun paths start _ { halted.setThread 0 .exited with
      phase := .exporting [(0, 10, 11)] } := (detaches.snoc (.join rfl rfl)).snoc (.collect rfl)
  have hands := joins.snoc (.handOver sampleSystemd rfl)
  exact hands

end SampleExit

open SampleExit SampleSettings in
/-- A handoff is announced, and the descriptors of the worker are exported. -/
theorem orderly_exit_sample :
    ∃ before message after cause, log = before ++ .notified message :: after ∧
      .stopping ∈ message ∧ (∀ event ∈ before, event.isStopping = false) ∧
      (∀ event ∈ after, event.winds = true) ∧ cause.Justified [0] before ∧
      .ok () = cause.outcome ∧ ended.Stopped cause ∧
      ((∃ sent, .exported sent ∈ log) ↔ cause = .handoff) := by
  refine (orderly_exit run rfl).resolve_left ?_
  rintro ⟨-, -, reason, failed⟩
  cases failed

end Pesigitg
