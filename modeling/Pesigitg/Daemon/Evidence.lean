import Pesigitg.Base.Trace
import Pesigitg.Daemon.Provenance
import Pesigitg.Daemon.Rewrite

/-!
# Where a forwarded packet's destination comes from

The main thread replaces the config table while the workers forward packets. A worker loads a
snapshot of the table for each batch, so a packet may be routed by a table that is no longer the
stored one, and the connection table repeats earlier choices for some seconds.

`WorkerView.Sound` follows one worker: its calls are a run over its own connection table, and its
snapshot is the table stored when it last loaded one. Together with `MainState.Traced` it gives
`forwarded_on_evidence`, which leads every packet back to a server of the file and to the probes
that had been answered by then.
-/

namespace Pesigitg

open Base ProbeHistory

/-- What a worker works on: the snapshot of its batch, its connection table and the latest clock
reading it has used. -/
structure WorkerView where
  snapshot : Option ConfigTable
  conn : ConnectionTable
  clock : Instant

/-- The main thread and the workers. -/
structure ServingState (Worker : Type) where
  main : MainState
  workers : Worker → WorkerView

/-- What happens while the daemon serves. -/
inductive ServingEvent (Worker : Type) where
  /-- The main thread reloads or ticks; with the outcomes of the probes it sent. -/
  | main (event : MainEvent) (probes : List (IpAddr × Bool))
  /-- A reload whose file is refused. -/
  | refused (reload : Reload)
  /-- A worker starts a batch and loads the stored table. -/
  | loaded (worker : Worker)
  /-- A worker handles a packet or sweeps. -/
  | called (worker : Worker) (call : ConnCall)

/-- What the daemon reads at startup, and when each worker creates its connection table. -/
structure Startup (Worker : Type) where
  file : RouteFile
  neighbours : Fin 7 → Neighbours
  now : Instant
  created : Worker → Instant

/-- The config table a call works on. -/
def ConnCall.table? : ConnCall → Option ConfigTable
  | .udp _ table _ _ _ _ _ | .icmp _ table _ _ _ _ _ => some table
  | .sweep _ => none

section Serving

variable {Worker : Type}

/-- The source of the stored table after an event. -/
def ServingEvent.sourceAfter (source : TableSource) : ServingEvent Worker → TableSource
  | .main event _ => source.after event
  | .refused _ | .loaded _ | .called _ _ => source

/-- The outcomes that an event brings for an address. -/
def ServingEvent.outcomes (addr : IpAddr) : ServingEvent Worker → List ProbeOutcome
  | .main (.tick tick) probes => HealthState.probed tick.now probes addr
  | .main (.reload _) _ | .refused _ | .loaded _ | .called _ _ => []

/-- The source of the stored table after a log. -/
def Startup.source (startup : Startup Worker) (log : List (ServingEvent Worker)) : TableSource :=
  log.foldl ServingEvent.sourceAfter ⟨startup.file, startup.now, [startup.neighbours]⟩

/-- All outcomes that an address has had. -/
def probeHistory (log : List (ServingEvent Worker)) (addr : IpAddr) : List ProbeOutcome :=
  log.flatMap (ServingEvent.outcomes addr)

/-- The file in force after one more event. -/
theorem Startup.source_concat {startup : Startup Worker} {log : List (ServingEvent Worker)}
    {event : ServingEvent Worker} :
    startup.source (log ++ [event]) = event.sourceAfter (startup.source log) := by
  simp [source]

/-- The probes of an address after one more event. -/
theorem probeHistory_concat {log : List (ServingEvent Worker)} {event : ServingEvent Worker}
    (addr : IpAddr) :
    probeHistory (log ++ [event]) addr = probeHistory log addr ++ event.outcomes addr := by
  simp [probeHistory]

/-- The log up to the load of the snapshot that the worker is still on. -/
def LastLoad (worker : Worker) (log prior : List (ServingEvent Worker)) : Prop :=
  ∃ rest, log = prior ++ .loaded worker :: rest ∧ .loaded worker ∉ rest

/-- An event that is not a load of the worker leaves its last load where it was. -/
theorem LastLoad.concat {worker : Worker} {log prior : List (ServingEvent Worker)}
    {event : ServingEvent Worker} (last : LastLoad worker log prior)
    (other : event ≠ .loaded worker) : LastLoad worker (log ++ [event]) prior := by
  obtain ⟨rest, rfl, none⟩ := last
  refine ⟨rest ++ [event], by simp, ?_⟩
  rw [List.mem_append, List.mem_singleton]
  rintro (member | rfl)
  · exact none member
  · exact other rfl

/-- An entry of the file in force after a log, with the MAC it has by then. -/
def Startup.Names (startup : Startup Worker) (log : List (ServingEvent Worker)) (server : Server)
    (mac : Mac) : Prop :=
  ∃ parsed id config, ConfigTable.fromStr (startup.source log).file.configs
      (startup.source log).file.retry (startup.source log).loadedAt = .ok (.ok parsed) ∧
    parsed.slots id = some config ∧ server ∈ config.servers ∧
    server.mac.or ((startup.source log).firstMac id server.address) = some mac

variable [DecidableEq Worker]

namespace ServingState

def setWorker (state : ServingState Worker) (worker : Worker) (view : WorkerView) :
    ServingState Worker :=
  { state with workers := Function.update state.workers worker view }

variable (state : ServingState Worker) (worker : Worker) (view : WorkerView)

/-- A worker's step leaves the main thread alone. -/
@[simp] theorem setWorker_main : (state.setWorker worker view).main = state.main := rfl

/-- A worker's step sets its own view. -/
@[simp] theorem setWorker_self : (state.setWorker worker view).workers worker = view := by
  simp [setWorker]

/-- A worker's step leaves the other workers alone. -/
theorem setWorker_of_ne {other : Worker} (distinct : other ≠ worker) :
    (state.setWorker worker view).workers other = state.workers other := by
  simp [setWorker, distinct]

end ServingState

/-- One step of the main thread or of a worker. -/
inductive ServingStep (aes : Aes128) (hash : FlowKey → UInt64) (state : ServingState Worker) :
    ServingEvent Worker → ServingState Worker → Prop where
  | main {event : MainEvent} {after : MainState} (moved : MainStep state.main event after) :
      ServingStep aes hash state (.main event (state.main.probes event))
        { state with main := after }
  | refused {reload : Reload} {failure : RouteConfigError} {after : MainState}
      (later : state.main.clock ≤ reload.now)
      (refused : loadRouteConfig reload.file reload.neighbours reload.loadedAt =
        .ok (.error failure))
      (done : state.main.reloadConfig reload = .ok after) :
      ServingStep aes hash state (.refused reload) { state with main := after }
  | loaded (worker : Worker) :
      ServingStep aes hash state (.loaded worker)
        (state.setWorker worker
          { state.workers worker with snapshot := some state.main.routeConfig })
  | called {worker : Worker} {call : ConnCall} {conn : ConnectionTable}
      (snapshot : ∀ table, call.table? = some table →
        (state.workers worker).snapshot = some table)
      (clock : (state.workers worker).clock ≤ call.time)
      (moved : ConnStep aes hash (state.workers worker).conn call conn) :
      ServingStep aes hash state (.called worker call)
        (state.setWorker worker ⟨(state.workers worker).snapshot, conn, call.time⟩)

namespace Startup

/-- The daemon right after it has loaded its table. -/
def state (startup : Startup Worker) (table : ConfigTable) : ServingState Worker where
  main := ⟨table, .new, startup.now⟩
  workers := fun worker => ⟨none, .new (startup.created worker), startup.created worker⟩

end Startup

/-- A run of the daemon. -/
def ServingRun (aes : Aes128) (hash : FlowKey → UInt64) (startup : Startup Worker)
    (log : List (ServingEvent Worker)) (state : ServingState Worker) : Prop :=
  ∃ table, loadRouteConfig startup.file startup.neighbours startup.now = .ok (.ok table) ∧
    Trace (ServingStep aes hash) (startup.state table) log state

/-- The calls that one worker made. -/
def callsOf (worker : Worker) (log : List (ServingEvent Worker)) : List ConnCall :=
  log.filterMap fun
    | .called mover call => if mover = worker then some call else none
    | .main _ _ | .refused _ | .loaded _ => none

variable {aes : Aes128} {hash : FlowKey → UInt64} {startup : Startup Worker}
  {log : List (ServingEvent Worker)} {state next : ServingState Worker}
  {event : ServingEvent Worker} {worker : Worker}

section Main

/-- A step by somebody else leaves the main thread's state as it is. -/
theorem ServingStep.traced (moved : ServingStep aes hash state event next)
    (traced : state.main.Traced (startup.source log) (probeHistory log)) :
    next.main.Traced (startup.source (log ++ [event])) (probeHistory (log ++ [event])) := by
  have histories : probeHistory (log ++ [event]) =
      fun addr => probeHistory log addr ++ event.outcomes addr :=
    funext probeHistory_concat
  rw [Startup.source_concat, histories]
  cases moved with
  | @main made after moved =>
    have kept := traced.step moved
    cases made with
    | reload reload =>
      simpa [MainState.probes, HealthState.probed, ServingEvent.outcomes,
        ServingEvent.sourceAfter] using kept
    | tick tick => rwa [moved.clock_tick] at kept
  | refused later refused done =>
    simpa [ServingEvent.outcomes, ServingEvent.sourceAfter] using traced.refuse refused done
  | loaded worker => simpa [ServingEvent.outcomes, ServingEvent.sourceAfter] using traced
  | called snapshot clock moved =>
    simpa [ServingEvent.outcomes, ServingEvent.sourceAfter] using traced

/-- In every run the main thread's table goes back to the file in force and the probes made so
far. -/
theorem ServingRun.traced (run : ServingRun aes hash startup log state) :
    state.main.Traced (startup.source log) (probeHistory log) := by
  obtain ⟨table, loaded, steps⟩ := run
  induction steps with
  | nil =>
    have fresh : (HealthState.new).Vouches fun _ => [] := by
      intro addr health stored
      cases stored
    exact .load table loaded rfl rfl (loadRouteConfig_pooled loaded) fresh startup.now
  | snoc prior moved ih => exact moved.traced ih

/-- At every moment of every run, the stored table is that of the file that was loaded last: its
entries, its Retry settings, and the pool that these entries give. An entry's MAC is the one in the
file or else the first one that a neighbour table gave since, and an entry is marked healthy only
if its address has answered a probe and has failed fewer than three times in a row since then. -/
theorem stored_entries_traced (run : ServingRun aes hash startup log state) :
    state.main.routeConfig.Pooled ∧
      ∃ parsed grown, state.main.routeConfig.Grown (startup.source log) parsed grown ∧
        ∀ id config origin, parsed.slots id = some config → origin ∈ config.servers →
          (grown id origin).healthy = true → up (probeHistory log origin.address) = true := by
  obtain ⟨parsed, grown, made⟩ := run.traced.entries
  exact ⟨run.traced.pooled, parsed, grown, made, fun id config origin => run.traced.up made⟩

end Main

section Workers

/-- The call sent its packet to this MAC. -/
def ConnCall.mac? : ConnCall → Option Mac
  | .udp _ _ _ _ _ _ route | .icmp _ _ _ _ _ _ route => route.mac?
  | .sweep _ => none

/-- An ICMP error that was routed by the source CID of the packet it quotes. -/
def ConnCall.Quoted : ConnCall → Prop
  | .icmp _ _ _ _ _ _ (.quoted _) => True
  | _ => False

/-- A worker's calls are a run over its own connection table, and its snapshot is the table that
was stored when it last loaded one. -/
structure WorkerView.Sound (aes : Aes128) (hash : FlowKey → UInt64) (startup : Startup Worker)
    (log : List (ServingEvent Worker)) (worker : Worker) (view : WorkerView) : Prop where
  calls : ConnRun aes hash (.new (startup.created worker)) (callsOf worker log) view.conn
  clock : ∀ call ∈ callsOf worker log, call.time ≤ view.clock
  snapshot : ∀ table, view.snapshot = some table → ∃ prior, LastLoad worker log prior ∧
    ∃ middle, ServingRun aes hash startup prior middle ∧ middle.main.routeConfig = table

/-- The calls of a worker after one more event. -/
theorem callsOf_concat :
    callsOf worker (log ++ [event]) = callsOf worker log ++ callsOf worker [event] :=
  List.filterMap_append

/-- The calls of a worker are those in the log. -/
theorem mem_callsOf {call : ConnCall} :
    call ∈ callsOf worker log ↔ .called worker call ∈ log := by
  rw [callsOf, List.mem_filterMap]
  constructor
  · rintro ⟨event, member, hit⟩
    cases event with
    | called mover made =>
      simp only at hit
      split at hit
      · next same =>
        subst same
        cases hit
        exact member
      · cases hit
    | main made probes => cases hit
    | refused reload => cases hit
    | loaded mover => cases hit
  · intro member
    exact ⟨_, member, by simp⟩

/-- Nothing that a worker does not do itself changes what it works on. -/
theorem WorkerView.Sound.frame {view : WorkerView}
    (sound : WorkerView.Sound aes hash startup log worker view)
    (silent : callsOf worker [event] = []) (other : event ≠ .loaded worker) :
    WorkerView.Sound aes hash startup (log ++ [event]) worker view := by
  have same : callsOf worker (log ++ [event]) = callsOf worker log := by
    rw [callsOf_concat, silent, List.append_nil]
  refine ⟨same ▸ sound.calls, same ▸ sound.clock, ?_⟩
  intro table held
  obtain ⟨prior, last, stored⟩ := sound.snapshot table held
  exact ⟨prior, last.concat other, stored⟩

/-- A step keeps every worker's view sound. -/
theorem ServingStep.sound (run : ServingRun aes hash startup log state)
    (moved : ServingStep aes hash state event next)
    (sound : ∀ worker, WorkerView.Sound aes hash startup log worker (state.workers worker))
    (worker : Worker) :
    WorkerView.Sound aes hash startup (log ++ [event]) worker (next.workers worker) := by
  cases moved with
  | main moved => exact (sound worker).frame rfl (by simp)
  | refused later refused done => exact (sound worker).frame rfl (by simp)
  | loaded mover =>
    by_cases this : worker = mover
    · subst this
      rw [ServingState.setWorker_self]
      have same : callsOf worker (log ++ [ServingEvent.loaded worker]) = callsOf worker log := by
        rw [callsOf_concat]
        exact List.append_nil _
      refine ⟨same ▸ (sound worker).calls, same ▸ (sound worker).clock, ?_⟩
      intro table held
      cases held
      exact ⟨log, ⟨[], rfl, by simp⟩, state, run, rfl⟩
    · rw [ServingState.setWorker_of_ne _ _ _ this]
      exact (sound worker).frame rfl (by simpa using Ne.symm this)
  | @called mover call conn snapshot clock moved =>
    by_cases this : worker = mover
    · subst this
      rw [ServingState.setWorker_self]
      have grown : callsOf worker (log ++ [ServingEvent.called worker call]) =
          callsOf worker log ++ [call] := by
        rw [callsOf_concat]
        simp [callsOf]
      have earlier : ∀ made ∈ callsOf worker log, made.time ≤ call.time :=
        fun made member => Nat.le_trans ((sound worker).clock made member) clock
      refine ⟨?_, ?_, ?_⟩
      · rw [grown]
        exact (sound worker).calls.snoc earlier moved
      · rw [grown]
        intro made member
        rcases List.mem_append.mp member with before | last
        · exact earlier made before
        · rw [List.mem_singleton.mp last]
      · intro table held
        obtain ⟨prior, last, stored⟩ := (sound worker).snapshot table held
        exact ⟨prior, last.concat (by simp), stored⟩
    · rw [ServingState.setWorker_of_ne _ _ _ this]
      refine (sound worker).frame ?_ (by simp)
      simp [callsOf, Ne.symm this]

/-- Every worker's view is sound at every moment of a run. -/
theorem ServingRun.sound (run : ServingRun aes hash startup log state) (worker : Worker) :
    WorkerView.Sound aes hash startup log worker (state.workers worker) := by
  obtain ⟨table, loaded, steps⟩ := run
  induction steps generalizing worker with
  | nil =>
    refine ⟨.nil, ?_, ?_⟩
    · intro call member
      cases member
    · intro table held
      cases held
  | snoc prior moved ih => exact moved.sound ⟨table, loaded, prior⟩ ih worker

/-- A server that a stored table can be asked for is named by the file in force. -/
theorem ServingRun.names (run : ServingRun aes hash startup log state) {config : RouteConfig}
    {server : Server} {mac : Mac} (active : config ∈ state.main.routeConfig.configs)
    (listed : server ∈ config.servers) (resolved : server.mac = some mac) :
    ∃ origin, startup.Names log origin mac ∧
      (server.healthy = true → up (probeHistory log origin.address) = true) := by
  obtain ⟨parsed, grown, made⟩ := run.traced.entries
  obtain ⟨id, config', origin, filed, inFile, rfl⟩ := made.origin active listed
  refine ⟨origin, ⟨parsed, id, config', made.read, filed, inFile, ?_⟩, run.traced.up made filed inFile⟩
  rw [← (made.entries id origin).2, resolved]

/-- A chosen MAC is that of a healthy server of the table the call worked on, or of one of its
pool. -/
theorem ConnCall.Chose.server {call : ConnCall} {mac : Mac} (chose : call.Chose hash mac) :
    ∃ table server, call.table? = some table ∧ server.mac = some mac ∧
      ((server.healthy = true ∧ ∃ config ∈ table.configs, server ∈ config.servers) ∨
        server ∈ table.fallbackServers) := by
  cases call with
  | udp now table frame quicOffset flow localMac route =>
    cases route with
    | hashed dcid chosen =>
      obtain ⟨rfl, hashed⟩ := chose
      obtain ⟨server, pool, resolved⟩ := fallbackMac_some hashed
      exact ⟨table, server, rfl, resolved, .inr pool⟩
    | cid dcid server chosen configId =>
      obtain ⟨rfl, healthy, resolved, active⟩ := chose
      exact ⟨table, server, rfl, resolved, .inl ⟨healthy, active⟩⟩
    | unroutable verdict => exact chose.elim
    | sticky found => exact chose.elim
    | quoted found => exact chose.elim
    | quotedSticky found => exact chose.elim
    | pass => exact chose.elim
  | icmp now table frame offset flow localMac route => exact chose.elim
  | sweep now => exact chose.elim

/-- A call that chose its MAC took a server that was up when the worker loaded its snapshot. -/
theorem WorkerView.Sound.chosen {view : WorkerView} {call : ConnCall} {mac : Mac}
    (sound : WorkerView.Sound aes hash startup log worker view)
    (snapshot : ∀ table, call.table? = some table → view.snapshot = some table)
    (chose : call.Chose hash mac) :
    ∃ prior server, LastLoad worker log prior ∧ startup.Names prior server mac ∧
      up (probeHistory prior server.address) = true := by
  obtain ⟨table, server, uses, resolved, routable⟩ := chose.server
  obtain ⟨prior, last, middle, run, rfl⟩ := sound.snapshot table (snapshot table uses)
  obtain ⟨healthy, config, active, listed⟩ : server.healthy = true ∧
      ∃ config ∈ middle.main.routeConfig.configs, server ∈ config.servers := by
    rcases routable with entry | pool
    · exact entry
    · obtain ⟨config, active, listed, eligible⟩ :=
        ConfigTable.mem_eligibleServers.mp (run.traced.pooled.firsts.part server pool)
      exact ⟨(Server.eligible_iff.mp eligible).1, config, active, listed⟩
  obtain ⟨origin, named, isUp⟩ := run.names active listed resolved
  exact ⟨prior, origin, last, named, isUp healthy⟩

/-- How a call came by the MAC it sent its packet to. -/
theorem ConnStep.sent_cases {conn conn' : ConnectionTable} {call : ConnCall} {mac : Mac}
    (step : ConnStep aes hash conn call conn') (sent : call.mac? = some mac) :
    call.Chose hash mac ∨ call.Looked mac ∨ call.Quoted ∧ ∃ table config server,
      call.table? = some table ∧ config ∈ table.configs ∧ server ∈ config.servers ∧
        server.mac = some mac := by
  cases step with
  | udp routed processed =>
    cases routeUdp_exit routed with
    | cid healthy resolved active =>
      cases sent
      exact .inl ⟨rfl, healthy, resolved, active⟩
    | unroutable verdict => cases sent
    | sticky found =>
      cases sent
      exact .inr (.inl rfl)
    | hashed extracted missed chosen =>
      cases sent
      exact .inl ⟨rfl, chosen⟩
    | pass => cases sent
  | icmp routed processed =>
    rcases routeIcmp_cases routed with ⟨found, rfl, quoted⟩ | ⟨found, rfl, -⟩ | rfl
    · cases sent
      obtain ⟨config, active, server, listed, resolved⟩ := routeScid_some quoted
      exact .inr (.inr ⟨trivial, _, config, server, rfl, active, listed, resolved⟩)
    · cases sent
      exact .inr (.inl rfl)
    · cases sent
  | sweep now => cases sent

/-- Whatever the main thread and the workers do, and in whatever order: a packet that is sent on
goes to the MAC of a server in the file in force when the snapshot was loaded by which the MAC was
chosen, and that choice is less than five seconds old. Unless the packet is an ICMP error routed by
the CID it quotes, the server had by then answered a probe and had failed fewer than three in a row
since. -/
theorem forwarded_on_evidence {before after : List (ServingEvent Worker)} {call : ConnCall}
    {mac : Mac} (run : ServingRun aes hash startup log state)
    (split : log = before ++ .called worker call :: after) (sent : call.mac? = some mac) :
    ∃ earlier origin rest prior server,
      before ++ [.called worker call] = earlier ++ .called worker origin :: rest ∧
      origin.time ≤ call.time ∧ call.time < origin.time + seconds 5 ∧
      LastLoad worker earlier prior ∧ startup.Names prior server mac ∧
      (call.Quoted ∨ up (probeHistory prior server.address) = true) := by
  obtain ⟨table, loaded, steps⟩ := run
  obtain ⟨middle, next, reached, moved, -⟩ := steps.split split
  have sound := ServingRun.sound ⟨table, loaded, reached⟩ worker
  have recent : call.time < call.time + seconds 5 := Nat.lt_add_of_pos_right (by decide)
  cases moved with
  | called snapshot clock moved =>
    rcases moved.sent_cases sent with
      chose | looked | ⟨quoted, held, config, server, uses, active, listed, resolved⟩
    · obtain ⟨prior, server, last, named, isUp⟩ := sound.chosen snapshot chose
      exact ⟨before, call, [], prior, server, rfl, Nat.le_refl _, recent, last, named, .inr isUp⟩
    · obtain ⟨⟨flow, dcid, hit⟩, -⟩ := moved.looked looked
      obtain ⟨origin, member, younger, chose⟩ := (Accounted.run sound.calls).lookup hit
      obtain ⟨earlier, rest, rfl⟩ := List.append_of_mem (mem_callsOf.mp member)
      obtain ⟨start, after, begun, made, -⟩ := reached.split rfl
      have soundThen := ServingRun.sound ⟨table, loaded, begun⟩ worker
      cases made with
      | called snapshotThen clockThen movedThen =>
        obtain ⟨prior, server, last, named, isUp⟩ := soundThen.chosen snapshotThen chose
        refine ⟨earlier, origin, rest ++ [.called worker call], prior, server, by simp,
          Nat.le_trans (sound.clock origin member) clock, ?_, last, named, .inr isUp⟩
        exact younger
    · obtain ⟨prior, last, loader, stored, rfl⟩ := sound.snapshot held (snapshot held uses)
      obtain ⟨origin, named, -⟩ := ServingRun.names stored active listed resolved
      exact ⟨before, call, [], prior, origin, rfl, Nat.le_refl _, recent, last, named, .inl quoted⟩

end Workers

end Serving

namespace SampleServing

open SampleReload SampleFallback

/-- One worker, on the file with one server. -/
def startup : Startup Unit := ⟨file, fun _ => none, 0, fun _ => 0⟩

/-- The first probe finds the server up. -/
def main : MainState := ticked SampleReload.start true 1

/-- The first packet is hashed, and a second one of its flow finds it in the table. -/
def calls : List ConnCall :=
  [.udp 2 main.routeConfig frame 42 flow localMac (.hashed (some (DcidKey.fromSlice dcid)) mac),
    .udp 3 main.routeConfig frame 42 flow localMac (.sticky mac)]

def conn : ConnectionTable :=
  (ConnectionTable.new 0).insert flow (some (DcidKey.fromSlice dcid)) mac 2

def log : List (ServingEvent Unit) :=
  [.main (.tick (tick true 1)) (SampleReload.start.probes (.tick (tick true 1))), .loaded ()] ++
    calls.map (.called ())

/-- The first packet is hashed to the server. -/
theorem hashes : ConnStep cipher (fun _ => 0) (ConnectionTable.new 0)
    (.udp 2 main.routeConfig frame 42 flow localMac (.hashed (some (DcidKey.fromSlice dcid)) mac))
    conn := by
  have routed : routeUdp cipher (fun _ => 0) (frame.drop 42) main.routeConfig
      (ConnectionTable.new 0) flow 2 =
      .ok (.hashed (some (DcidKey.fromSlice dcid)) mac) := by decide +kernel
  exact .udp routed (processUdp_of_route (by decide) (by decide) routed rfl)

/-- The second one is found in the table. -/
theorem repeats : ConnStep cipher (fun _ => 0) conn
    (.udp 3 main.routeConfig frame 42 flow localMac (.sticky mac)) conn := by
  have routed : routeUdp cipher (fun _ => 0) (frame.drop 42) main.routeConfig conn flow 3 =
      .ok (.sticky mac) := by decide +kernel
  exact .udp routed (processUdp_of_route (by decide) (by decide) routed rfl)

/-- The worker after each call. -/
def serving (conn : ConnectionTable) (clock : Instant) : ServingState Unit :=
  ⟨main, fun _ => ⟨some main.routeConfig, conn, clock⟩⟩

/-- Setting the one worker of the sample. -/
theorem setWorker_serving (before after : ConnectionTable) (clock now : Instant) :
    (serving before clock).setWorker () ⟨some main.routeConfig, after, now⟩ =
      serving after now := by
  simp [ServingState.setWorker, serving, funext_iff]

/-- A call of that worker. -/
theorem called_step {call : ConnCall} {before after : ConnectionTable} {clock : Instant}
    (uses : call.table? = some main.routeConfig) (later : clock ≤ call.time)
    (moved : ConnStep cipher (fun _ => 0) before call after) :
    ServingStep cipher (fun _ => 0) (serving before clock) (.called () call)
      (serving after call.time) := by
  have step : ServingStep cipher (fun _ => 0) (serving before clock) (.called () call)
      ((serving before clock).setWorker () ⟨some main.routeConfig, after, call.time⟩) :=
    .called (fun table same => uses.symm.trans same) later moved
  rwa [setWorker_serving] at step

/-- The sample's log is one of a run. -/
theorem run : ServingRun cipher (fun _ => 0) startup log (serving conn 3) := by
  refine ⟨SampleReload.table, loaded, ?_⟩
  have begun : Trace (ServingStep cipher (fun _ => 0)) (startup.state SampleReload.table) []
      (startup.state SampleReload.table) := .nil
  have loads := (begun.snoc (.main (tick_step true (Nat.zero_le 1)))).snoc (.loaded ())
  have same : ServingState.setWorker
      { startup.state SampleReload.table with main := ticked SampleReload.start true 1 } ()
      ⟨some main.routeConfig, .new 0, 0⟩ = serving (.new 0) 0 := by
    simp [ServingState.setWorker, serving, main, funext_iff]
  exact ((same ▸ loads).snoc (called_step rfl (Nat.zero_le _) hashes)).snoc
    (called_step rfl (by decide) repeats)

end SampleServing

open SampleServing in
/-- The table after the sample's first tick is that of its file. -/
theorem stored_entries_traced_sample :
    main.routeConfig.Pooled ∧
      ∃ parsed grown, main.routeConfig.Grown (startup.source log) parsed grown ∧
        ∀ id config origin, parsed.slots id = some config → origin ∈ config.servers →
          (grown id origin).healthy = true → up (probeHistory log origin.address) = true :=
  stored_entries_traced run

open SampleServing SampleFallback in
/-- The second packet of the sample goes where the first one went. -/
theorem forwarded_on_evidence_sample :
    ∃ earlier origin rest prior server,
      log.take 3 ++ [.called () (.udp 3 main.routeConfig frame 42 flow localMac (.sticky mac))] =
        earlier ++ .called () origin :: rest ∧
      origin.time ≤ 3 ∧ 3 < origin.time + seconds 5 ∧ LastLoad () earlier prior ∧
      startup.Names prior server mac ∧
      (False ∨ up (probeHistory prior server.address) = true) :=
  forwarded_on_evidence run rfl rfl

end Pesigitg
