import Pesigitg.Daemon.Shutdown

/-!
# Descriptors across restarts

systemd keeps the descriptors that a daemon hands over and passes them to the next one. A worker
adopts the pair of its queue, and a daemon that is handed off gives back what its workers adopted.
A worker without a pair opens a socket of its own, and such a socket has no descriptors to give
away (`WorkerThread.pair?` stays `none`).

So the store never gets anything new (`descriptors_stay_with_queue`), and a service that starts
with an empty store never adopts a socket.
-/

namespace Pesigitg

open Base Fdstore

variable {Fd : Type}

/-- The store that systemd keeps for the service, and the daemon if one runs. -/
structure Service (Fd : Type) where
  store : List (Named Fd)
  daemon : Option (Lifecycle Fd)

inductive ServiceEvent (Fd : Type) where
  | started
  | stepped (event : LifeEvent Fd)
  | ended

/-- What an event sends to the store. -/
def LifeEvent.sent : LifeEvent Fd → List (Named Fd)
  | .exported sent => sent
  | _ => []

/-- A daemon is started with descriptors of the store, moves, or ends: because `main` returned, or
at any other moment. -/
inductive ServiceStep (paths : PathOps) : Service Fd → ServiceEvent Fd → Service Fd → Prop where
  | start {store entries : List (Named Fd)} {order : List (UInt32 × Fd)}
      {inherited : InheritedFds Fd} (plan : List UInt32) (args : Args) (main : MainState)
      (given : ∀ entry ∈ entries, entry ∈ store)
      (walked : Enumerates order (collect entries).socks)
      (inherits : inheritFromSystemd order (.ok entries) = .ok inherited) :
      ServiceStep paths ⟨store, none⟩ .started ⟨store, some (.spawn plan inherited args main)⟩
  | step {store : List (Named Fd)} {state next : Lifecycle Fd} {event : LifeEvent Fd}
      (moved : LifeStep paths state event next) :
      ServiceStep paths ⟨store, some state⟩ (.stepped event) ⟨store ++ event.sent, some next⟩
  | stop {store : List (Named Fd)} {state : Lifecycle Fd} :
      ServiceStep paths ⟨store, some state⟩ .ended ⟨store, none⟩

abbrev ServiceRun (paths : PathOps) (store : List (Named Fd)) (log : List (ServiceEvent Fd))
    (service : Service Fd) : Prop :=
  Trace (ServiceStep paths) ⟨store, none⟩ log service

/-- Both descriptors of a triple are in the store under the names of its queue. -/
def Stocked (store : List (Named Fd)) (triple : Triple Fd) : Prop :=
  (triple.1, triple.2.1) ∈ ofKind .sock store ∧ (triple.1, triple.2.2) ∈ ofKind .umem store

/-- What a process has was in the store. -/
structure Lifecycle.Stocked (store : List (Named Fd)) (state : Lifecycle Fd) : Prop where
  threads : ∀ queue fds, (state.threads queue).pair? = some fds →
    Pesigitg.Stocked store (queue, fds)
  offered : ∀ triple ∈ state.offered, Pesigitg.Stocked store triple
  exporting : ∀ detached, state.phase = .exporting detached →
    ∀ triple ∈ detached, Pesigitg.Stocked store triple

/-- What the service has was in the store at first. -/
structure Service.Closed (store : List (Named Fd)) (service : Service Fd) : Prop where
  stored : ∀ kind queue fd, (queue, fd) ∈ ofKind kind service.store →
    (queue, fd) ∈ ofKind kind store
  named : ∀ entry ∈ service.store, entry ∈ store ∨ (parseName entry.2).isSome = true
  daemon : ∀ state, service.daemon = some state → state.Stocked store

section Moves

variable {paths : PathOps} {store entries : List (Named Fd)} {state next : Lifecycle Fd}
  {event : LifeEvent Fd} {queue : UInt32}

/-- A part of the store holds no descriptor that the store does not. -/
theorem ofKind_mono {kind : FdKind} (given : ∀ entry ∈ entries, entry ∈ store) {fd : Fd}
    (held : (queue, fd) ∈ ofKind kind entries) : (queue, fd) ∈ ofKind kind store := by
  obtain ⟨name, member, parsed⟩ := mem_ofKind.mp held
  exact mem_ofKind.mpr ⟨name, given _ member, parsed⟩

/-- An inherited pair was among the entries. -/
theorem inheritFromSystemd_stocked {order : List (UInt32 × Fd)} {inherited : InheritedFds Fd}
    {fds : Fd × Fd} (walked : Enumerates order (collect entries).socks)
    (inherits : inheritFromSystemd order (.ok entries) = .ok inherited)
    (held : inherited.byQueue queue = some fds) : Stocked entries (queue, fds) := by
  cases inherits
  simp only [pairQueues_eq walked, collect_eq, Option.bind_eq_some_iff,
    Option.map_eq_some_iff] at held
  obtain ⟨sock, foundSock, umem, foundUmem, rfl⟩ := held
  exact ⟨insertAll_eq_some foundSock, insertAll_eq_some foundUmem⟩

/-- An export sends descriptors of the triples it is given, under their names. -/
theorem mem_named_of_sent {systemd : Systemd Fd} {fds : List (Triple Fd)} {entry : Named Fd}
    (member : entry ∈ (exportToSystemd systemd fds).sent) : entry ∈ named fds := by
  unfold exportToSystemd at member
  split at member
  · obtain ⟨rest, sent, unfinished⟩ := exportLoop_sent systemd fds
    rw [sent, List.mem_append] at member
    rcases member with whole | part
    · simp only [named, List.mem_flatMap] at whole ⊢
      obtain ⟨triple, front, hit⟩ := whole
      exact ⟨triple, List.mem_of_mem_take front, hit⟩
    · rcases unfinished with rfl | ⟨qid, sock, umem, behind, rfl⟩
      · cases part
      · rw [List.mem_singleton.mp part]
        exact List.mem_flatMap.mpr ⟨_, List.mem_of_mem_drop behind, List.mem_cons_self⟩
  · cases member

/-- The names that the daemon gives are recognised. -/
theorem parseName_of_named {fds : List (Triple Fd)} {entry : Named Fd}
    (member : entry ∈ named fds) : (parseName entry.2).isSome = true := by
  obtain ⟨⟨qid, sock, umem⟩, -, hit⟩ := List.mem_flatMap.mp member
  simp only [List.mem_cons, List.not_mem_nil, or_false] at hit
  rcases hit with rfl | rfl
  · simp
  · simp

namespace Lifecycle.Stocked

/-- A thread moves on with what it had, or with nothing. -/
theorem setThread (stocked : state.Stocked store) {thread : WorkerThread Fd}
    (kept : ∀ fds, thread.pair? = some fds → (state.threads queue).pair? = some fds) :
    (state.setThread queue thread).Stocked store where
  threads := by
    intro other fds held
    by_cases this : other = queue
    · subst this
      simp only [Lifecycle.setThread, Function.update_self] at held
      exact stocked.threads other fds (kept fds held)
    · rw [Lifecycle.setThread_of_ne this] at held
      exact stocked.threads other fds held
  offered := stocked.offered
  exporting := stocked.exporting

/-- The main thread moves on, and hands nothing over in its new phase. -/
theorem moveOn (stocked : state.Stocked store) (threads : next.threads = state.threads)
    (offered : next.offered = state.offered ∨ next.offered = [])
    (idle : ∀ detached, next.phase ≠ .exporting detached) : next.Stocked store where
  threads := threads ▸ stocked.threads
  offered := by
    rcases offered with same | none
    · exact same ▸ stocked.offered
    · simp [none]
  exporting := fun detached here => absurd here (idle detached)

/-- What is in one store is in a larger one. -/
theorem mono {wider : List (Named Fd)} (stocked : state.Stocked store)
    (grows : ∀ triple, Pesigitg.Stocked store triple → Pesigitg.Stocked wider triple) :
    state.Stocked wider where
  threads := fun queue fds held => grows _ (stocked.threads queue fds held)
  offered := fun triple member => grows _ (stocked.offered triple member)
  exporting := fun detached here triple member =>
    grows _ (stocked.exporting detached here triple member)

/-- A step of the daemon hands it no descriptor that was not in the store. -/
theorem step (stocked : state.Stocked store) (moved : LifeStep paths state event next) :
    next.Stocked store := by
  cases moved with
  | raise open_ room => exact ⟨stocked.threads, stocked.offered, stocked.exporting⟩
  | enter there => exact stocked.setThread fun fds held => there ▸ held
  | fail there => exact stocked.setThread (by simp [WorkerThread.pair?])
  | leave there told => exact stocked.setThread fun fds held => there ▸ held
  | @detach queue pair there =>
    have quiet : (state.setThread queue .exited).Stocked store :=
      stocked.setThread (by simp [WorkerThread.pair?])
    refine ⟨quiet.threads, ?_, quiet.exporting⟩
    intro triple member
    rcases List.mem_append.mp member with earlier | last
    · exact stocked.offered triple earlier
    · obtain ⟨fds, held, rfl⟩ : ∃ fds, pair = some fds ∧ (queue, fds) = triple := by
        simpa using last
      exact stocked.threads queue fds (by rw [there]; exact held)
  | collect here =>
    refine ⟨stocked.threads, by simp, ?_⟩
    intro detached here triple member
    cases here
    exact stocked.offered triple member
  | tick here later done =>
    refine stocked.moveOn rfl (.inl rfl) ?_
    intro detached
    split <;> simp
  | discard here cold => exact stocked.moveOn rfl (.inr rfl) (by simp)
  | _ => exact stocked.moveOn rfl (.inl rfl) (by simp)

end Lifecycle.Stocked

/-- A daemon starts with descriptors from the store. -/
theorem Lifecycle.stocked_spawn {order : List (UInt32 × Fd)} {inherited : InheritedFds Fd}
    (plan : List UInt32) (args : Args) (main : MainState)
    (walked : Enumerates order (collect entries).socks)
    (inherits : inheritFromSystemd order (.ok entries) = .ok inherited) :
    (Lifecycle.spawn plan inherited args main).Stocked entries where
  threads := by
    intro queue fds held
    rcases spawnLoop_cases inherited.byQueue (fun _ => .exited) plan queue with
      ⟨same, -⟩ | ⟨-, pair, started, own⟩
    · simp only [spawn, same] at held
      cases held
    · simp only [spawn, started] at held
      exact inheritFromSystemd_stocked walked inherits (own fds held)
  offered := by simp [spawn]
  exporting := by simp [spawn]

/-- What a step of a process sends was in the store, under a name of the scheme. -/
theorem LifeStep.sent_stocked (stocked : state.Stocked store)
    (moved : LifeStep paths state event next) {entry : Named Fd} (member : entry ∈ event.sent) :
    (parseName entry.2).isSome = true ∧
      ∀ kind queue fd, (queue, fd) ∈ ofKind kind [entry] → (queue, fd) ∈ ofKind kind store := by
  cases moved with
  | @handOver systemd detached here =>
    have own : entry ∈ named detached := mem_named_of_sent member
    refine ⟨parseName_of_named own, ?_⟩
    intro kind queue fd held
    have among : (queue, fd) ∈ ofKind kind (named detached) :=
      ofKind_mono (by simpa using own) held
    obtain ⟨sock, umem, triple, rfl⟩ := mem_ofKind_named.mp among
    have both := stocked.exporting detached here _ triple
    cases kind with
    | sock => exact both.1
    | umem => exact both.2
  | _ => simp [LifeEvent.sent] at member

end Moves

section Runs

variable {paths : PathOps} {store : List (Named Fd)} {service next : Service Fd}
  {event : ServiceEvent Fd} {log : List (ServiceEvent Fd)}

namespace Service.Closed

/-- A step of the service puts nothing into the store that was not there at first, by queue and
kind. -/
theorem step (closed : service.Closed store) (moved : ServiceStep paths service event next) :
    next.Closed store := by
  cases moved with
  | @start kept entries order inherited plan args main given walked inherits =>
    refine ⟨closed.stored, closed.named, ?_⟩
    rintro _ ⟨⟩
    have own := Lifecycle.stocked_spawn plan args main walked inherits
    have known : ∀ kind queue fd, (queue, fd) ∈ ofKind kind entries →
        (queue, fd) ∈ ofKind kind store :=
      fun kind queue fd held => closed.stored kind queue fd (ofKind_mono given held)
    exact own.mono fun triple both => ⟨known _ _ _ both.1, known _ _ _ both.2⟩
  | @step kept state next event moved =>
    have stocked := closed.daemon state rfl
    refine ⟨?_, ?_, ?_⟩
    · intro kind queue fd held
      obtain ⟨name, member, parsed⟩ := mem_ofKind.mp held
      rcases List.mem_append.mp member with earlier | sent
      · exact closed.stored kind queue fd (mem_ofKind.mpr ⟨name, earlier, parsed⟩)
      · exact (moved.sent_stocked stocked sent).2 kind queue fd
          (mem_ofKind.mpr ⟨name, List.mem_singleton_self _, parsed⟩)
    · intro entry member
      rcases List.mem_append.mp member with earlier | sent
      · exact closed.named entry earlier
      · exact .inr (moved.sent_stocked stocked sent).1
    · rintro _ ⟨⟩
      exact stocked.step moved
  | stop => exact ⟨closed.stored, closed.named, by simp⟩

/-- Every entry of the store was there at first, or has the name of a queue that was. -/
theorem eq_nil (closed : service.Closed []) : service.store = [] := by
  rw [List.eq_nil_iff_forall_not_mem]
  intro entry member
  rcases closed.named entry member with first | known
  · cases first
  · obtain ⟨⟨queue, kind⟩, parsed⟩ := Option.isSome_iff_exists.mp known
    have held := closed.stored kind queue entry.1 (mem_ofKind.mpr ⟨_, member, parsed⟩)
    cases held

end Service.Closed

/-- So nothing is ever added, over any number of daemons. -/
theorem ServiceRun.closed (run : ServiceRun paths store log service) : service.Closed store :=
  run.invariant (·.Closed store) ⟨fun _ _ _ held => held, fun _ member => .inl member, by simp⟩
    fun _ closed moved => closed.step moved

/-- Across any number of restarts, handoffs and crashes, a descriptor stays with the queue and the
kind it had in the first store: in the store, and with every worker that adopted it. A store that
is empty at first stays so, since no worker gives away a socket that it opened itself. -/
theorem descriptors_stay_with_queue (run : ServiceRun paths store log service) :
    (∀ kind queue fd, (queue, fd) ∈ ofKind kind service.store →
      (queue, fd) ∈ ofKind kind store) ∧
    (∀ state, service.daemon = some state → ∀ queue sock umem,
      (state.threads queue).pair? = some (sock, umem) →
        (queue, sock) ∈ ofKind .sock store ∧ (queue, umem) ∈ ofKind .umem store) ∧
    (store = [] → service.store = []) := by
  have closed := run.closed
  refine ⟨closed.stored, ?_, ?_⟩
  · intro state alive queue sock umem held
    exact (closed.daemon state alive).threads queue (sock, umem) held
  · rintro rfl
    exact closed.eq_nil

/-- What a process does, the service does. -/
theorem ServiceRun.live {kept : List (Named Fd)} {state final : Lifecycle Fd}
    {events : List (LifeEvent Fd)} (begun : ServiceRun paths store log ⟨kept, some state⟩)
    (run : LifeRun paths state events final) :
    ServiceRun paths store (log ++ events.map .stepped)
      ⟨kept ++ events.flatMap LifeEvent.sent, some final⟩ := by
  induction run with
  | nil => simpa using begun
  | snoc prior moved ih =>
    have goes := ih.snoc (.step moved)
    simpa [List.append_assoc] using goes

end Runs

namespace SampleExit

open SampleSettings SampleLife

/-- The descriptors of one queue, and an entry with an unknown name. -/
def store : List (Named Nat) := (12, "other") :: sent

/-- The sample's store gives queue 0 its pair. -/
theorem inherits : inheritFromSystemd [(0, 10)] (.ok store) =
    .ok ⟨Function.update (fun _ => none) 0 (some (10, 11))⟩ := by
  have memory : (collect store).umems 0 = some 11 := by decide +kernel
  simp [inheritFromSystemd, pairQueues, memory]

/-- Its sockets are listed. -/
theorem walked : Enumerates [(0, 10)] (collect store).socks := by
  have order : ofKind .sock store = [(0, 10)] := by decide +kernel
  rw [← order]
  exact enumerates_of_nodup (by decide +kernel)

/-- A handoff, after which the next daemon has adopted the socket again. -/
theorem restarted : ServiceRun paths store
    ([.started] ++ log.map .stepped ++ [.ended] ++ [.started]) ⟨store ++ sent, some start⟩ := by
  have starts : ServiceRun paths store [.started] ⟨store, some start⟩ :=
    Trace.nil.snoc (.start [0] (running [443]) idle (fun _ member => member) walked inherits)
  have hands : ServiceRun paths store ([.started] ++ log.map .stepped)
      ⟨store ++ sent, some ended⟩ := starts.live run
  have stops : ServiceRun paths store ([.started] ++ log.map .stepped ++ [.ended])
      ⟨store ++ sent, none⟩ := hands.snoc .stop
  exact stops.snoc (.start [0] (running [443]) idle
    (fun _ member => List.mem_append_left _ member) walked inherits)

end SampleExit

open SampleExit in
/-- After a handoff the sample's descriptors are still those of queue 0. -/
theorem descriptors_stay_with_queue_sample :
    (∀ kind queue fd, (queue, fd) ∈ ofKind kind (store ++ sent) →
      (queue, fd) ∈ ofKind kind store) ∧
    (∀ state, some start = some state → ∀ queue sock umem,
      (state.threads queue).pair? = some (sock, umem) →
        (queue, sock) ∈ ofKind .sock store ∧ (queue, umem) ∈ ofKind .umem store) ∧
    (store = [] → store ++ sent = []) :=
  descriptors_stay_with_queue restarted

end Pesigitg
