import Pesigitg.Daemon.Evidence

/-!
# Why a fallback packet goes where it goes

Each worker has a connection table of its own, and the network card may move a flow from one
worker to another. What the workers share is the hash and the pool of the stored table.

`KeyedBy` accounts for every entry of a worker's table together with its key: an entry under a flow
was hashed for that flow, and one under a DCID goes back to a packet with that DCID. So a packet
that is found in the table has a reason less than five seconds old (`fallback_explained`), and
while the pool stays the same and a DCID is used by one flow only, all workers send a flow to the
same backend at all times (`workers_agree`).
-/

namespace Pesigitg

open Base

namespace ConnCall

/-- The call hashed a packet of `flow` with this DCID to `mac`, over the pool of its table. -/
def Hashes (hash : FlowKey → UInt64) (flow : FlowKey) (key : Option DcidKey) (mac : Mac) :
    ConnCall → Prop
  | .udp _ table _ _ own _ (.hashed dcid chosen) =>
    own = flow ∧ dcid = key ∧ chosen = mac ∧
      fallbackMac hash flow table.fallbackServers = .ok (some mac)
  | _ => False

/-- The call routed a packet by its CID to `mac` and recorded the CID under `key`. -/
def Learns (key : DcidKey) (mac : Mac) : ConnCall → Prop
  | .udp _ _ _ _ _ _ (.cid dcid _ chosen _) => DcidKey.fromSlice dcid = key ∧ chosen = mac
  | _ => False

/-- The key under which the fallback path looks a packet's DCID up. -/
def dcidKey? : ConnCall → Option DcidKey
  | .udp _ table frame quicOffset _ _ _ =>
    match fallbackRawDcid (frame.drop quicOffset) table with
    | .ok rawDcid => rawDcid.map DcidKey.fromSlice
    | .error _ => none
  | _ => none

/-- The call sent a packet of `flow` to `mac` by the fallback path. -/
def FallsBack (flow : FlowKey) (mac : Mac) : ConnCall → Prop
  | .udp _ _ _ _ own _ (.sticky found) => own = flow ∧ found = mac
  | .udp _ _ _ _ own _ (.hashed _ chosen) => own = flow ∧ chosen = mac
  | _ => False

/-- What makes the table send packets of a flow, or with a DCID, to a MAC. -/
def Reason (hash : FlowKey → UInt64) (flow : FlowKey) (key : Option DcidKey) (mac : Mac)
    (origin : ConnCall) : Prop :=
  (∃ dcid, origin.Hashes hash flow dcid mac) ∨
    ∃ own, key = some own ∧ ((∃ other, origin.Hashes hash other (some own) mac) ∨
      origin.Learns own mac)

end ConnCall

/-- Every entry goes back to a call of the log with its key. -/
structure KeyedBy (hash : FlowKey → UInt64) (log : List ConnCall) (conn : ConnectionTable) :
    Prop where
  byFlow : conn.byFlow.Sourced entryTtl fun flow mac written =>
    ∃ call ∈ log, call.time = written ∧ ∃ dcid, call.Hashes hash flow dcid mac
  byDcid : conn.byDcid.Sourced entryTtl fun key mac written =>
    ∃ call ∈ log, call.time = written ∧
      ((∃ flow, call.Hashes hash flow (some key) mac) ∨ call.Learns key mac)

namespace KeyedBy

variable {aes : Aes128} {hash : FlowKey → UInt64} {log : List ConnCall}
  {conn conn' : ConnectionTable} {call : ConnCall}

/-- A longer log accounts for the same table. -/
theorem append (keyed : KeyedBy hash log conn) (call : ConnCall) :
    KeyedBy hash (log ++ [call]) conn where
  byFlow := keyed.byFlow.mono fun _ _ _ ⟨origin, member, reason⟩ =>
    ⟨origin, List.mem_append_left _ member, reason⟩
  byDcid := keyed.byDcid.mono fun _ _ _ ⟨origin, member, reason⟩ =>
    ⟨origin, List.mem_append_left _ member, reason⟩

/-- A call accounts for what it adds to the table. -/
theorem step (keyed : KeyedBy hash log conn) (step : ConnStep aes hash conn call conn') :
    KeyedBy hash (log ++ [call]) conn' := by
  have kept := keyed.append call
  have last : call ∈ log ++ [call] := List.mem_append_right _ List.mem_cons_self
  rw [step.table_eq]
  cases step with
  | @udp _ now table frame frame' quicOffset flow localMac route verdict routed processed =>
    cases routeUdp_exit routed with
    | cid healthy resolved active =>
      exact ⟨kept.byFlow, kept.byDcid.insert ⟨_, last, rfl, .inr ⟨rfl, rfl⟩⟩⟩
    | unroutable verdict => exact kept
    | sticky found => exact kept
    | @hashed rawDcid mac extracted missed hashed =>
      refine ⟨kept.byFlow.insert ⟨_, last, rfl, _, rfl, rfl, rfl, hashed⟩, ?_⟩
      cases rawDcid with
      | none => exact kept.byDcid
      | some dcid => exact kept.byDcid.insert ⟨_, last, rfl, .inl ⟨_, rfl, rfl, rfl, hashed⟩⟩
    | pass => exact kept
  | icmp routed processed => exact kept
  | sweep now =>
    simp only [ConnCall.after, ConnectionTable.maybeSweep]
    split
    · exact kept
    · exact ⟨kept.byFlow.sweep now, kept.byDcid.sweep now⟩

/-- So does a whole run from an empty table. -/
theorem run {created : Instant} (run : ConnRun aes hash (ConnectionTable.new created) log conn) :
    KeyedBy hash log conn := by
  induction run with
  | nil => exact ⟨.empty, .empty⟩
  | snoc prior clock step ih => exact ih.step step

/-- A hit has a reason that has not expired. -/
theorem lookup (keyed : KeyedBy hash log conn) {flow : FlowKey} {key : Option DcidKey}
    {now : Instant} {mac : Mac} (found : conn.lookup flow key now = some mac) :
    ∃ origin ∈ log, now < origin.time + entryTtl ∧ origin.Reason hash flow key mac := by
  rcases ConnectionTable.lookup_eq_some_iff.mp found with hit | ⟨-, own, rfl, hit⟩
  · obtain ⟨written, recent, origin, member, rfl, reason⟩ := keyed.byFlow.find hit
    exact ⟨origin, member, recent, .inl reason⟩
  · obtain ⟨written, recent, origin, member, rfl, reason⟩ := keyed.byDcid.find hit
    exact ⟨origin, member, recent, .inr ⟨own, rfl, reason⟩⟩

end KeyedBy

section Fallback

variable {aes : Aes128} {hash : FlowKey → UInt64} {conn conn' : ConnectionTable}
  {call : ConnCall} {flow : FlowKey} {mac : Mac}

/-- A fallback packet was found in the table under its flow and its DCID, or was hashed. -/
theorem ConnStep.fallsBack (step : ConnStep aes hash conn call conn')
    (falls : call.FallsBack flow mac) :
    conn.lookup flow call.dcidKey? call.time = some mac ∨
      call.Hashes hash flow call.dcidKey? mac := by
  cases step with
  | @udp _ now table frame frame' quicOffset own localMac route verdict routed processed =>
    rcases routeUdp_eq_ok_iff.mp routed with cidRouted | ⟨-, fellBack⟩
    · rcases routeCid_cases cidRouted with ⟨_, _, _, _, rfl, -⟩ | ⟨_, rfl, -⟩
      · exact falls.elim
      · exact falls.elim
    · obtain ⟨rawDcid, extracted, exits⟩ := routeFallback_cases fellBack
      have key : ∀ route, (ConnCall.udp now table frame quicOffset own localMac route).dcidKey? =
          rawDcid.map DcidKey.fromSlice := by
        intro route
        simp only [ConnCall.dcidKey?, extracted]
      rw [key]
      rcases exits with ⟨found, rfl, hit⟩ | ⟨-, ⟨chosen, rfl, hashed⟩ | rfl⟩
      · obtain ⟨rfl, rfl⟩ := falls
        exact .inl hit
      · obtain ⟨rfl, rfl⟩ := falls
        exact .inr ⟨rfl, rfl, rfl, hashed⟩
      · exact falls.elim
  | icmp routed processed => exact falls.elim
  | sweep now => exact falls.elim

end Fallback

section System

variable {Worker : Type} {aes : Aes128} {hash : FlowKey → UInt64}
  {startup : Startup Worker} {log : List (ServingEvent Worker)} {state : ServingState Worker}

/-- The pool of every table that a packet was routed by. -/
def SteadyPool (pool : List Server) (log : List (ServingEvent Worker)) : Prop :=
  ∀ worker call table, .called worker call ∈ log → call.table? = some table →
    table.fallbackServers = pool

/-- Nobody but packets of `flow` were hashed with this DCID, and no CID was recorded under it. -/
def OwnDcid (hash : FlowKey → UInt64) (flow : FlowKey) (key : Option DcidKey)
    (log : List (ServingEvent Worker)) : Prop :=
  ∀ own worker call, key = some own → .called worker call ∈ log →
    (∀ other mac, call.Hashes hash other (some own) mac → other = flow) ∧
      ∀ mac, ¬ call.Learns own mac

/-- With a steady pool, what a call hashed is what the pool gives. -/
theorem ConnCall.Hashes.of_steady {pool : List Server} {worker : Worker} {call : ConnCall}
    {flow : FlowKey} {key : Option DcidKey} {mac : Mac} (hashes : call.Hashes hash flow key mac)
    (steady : SteadyPool pool log) (made : .called worker call ∈ log) :
    fallbackMac hash flow pool = .ok (some mac) := by
  cases call with
  | udp now table frame quicOffset own localMac route =>
    have same : table.fallbackServers = pool := steady worker _ table made rfl
    cases route with
    | hashed dcid chosen =>
      rw [← same]
      exact hashes.2.2.2
    | _ => exact hashes.elim
  | _ => exact hashes.elim

variable [DecidableEq Worker]

/-- A worker about to make a call: its table accounts for its earlier calls. -/
theorem ServingRun.at_call {worker : Worker} {call : ConnCall}
    {before after : List (ServingEvent Worker)} (run : ServingRun aes hash startup log state)
    (split : log = before ++ .called worker call :: after) :
    ∃ conn conn', ConnStep aes hash conn call conn' ∧ KeyedBy hash (callsOf worker before) conn ∧
      ∀ origin ∈ callsOf worker before, origin.time ≤ call.time := by
  obtain ⟨table, loaded, steps⟩ := run
  obtain ⟨middle, next, reached, moved, -⟩ := steps.split split
  have sound := ServingRun.sound ⟨table, loaded, reached⟩ worker
  cases moved with
  | called snapshot clock moved =>
    exact ⟨_, _, moved, KeyedBy.run sound.calls, fun origin member =>
      Nat.le_trans (sound.clock origin member) clock⟩

/-- Whatever the main thread and the workers do: a packet that the fallback path sends on is hashed
right then over the pool of the snapshot, or the same worker less than five seconds ago hashed a
packet of its flow, hashed one with its DCID, or routed one with its DCID by the CID, to the same
MAC. -/
theorem fallback_explained {worker : Worker} {call : ConnCall} {flow : FlowKey} {mac : Mac}
    {before after : List (ServingEvent Worker)} (run : ServingRun aes hash startup log state)
    (split : log = before ++ .called worker call :: after) (falls : call.FallsBack flow mac) :
    call.Hashes hash flow call.dcidKey? mac ∨
      ∃ origin ∈ callsOf worker before, origin.time ≤ call.time ∧
        call.time < origin.time + seconds 5 ∧ origin.Reason hash flow call.dcidKey? mac := by
  obtain ⟨conn, conn', moved, keyed, clock⟩ := run.at_call split
  rcases moved.fallsBack falls with found | hashes
  · obtain ⟨origin, member, recent, reason⟩ := keyed.lookup found
    exact .inr ⟨origin, member, clock origin member, recent, reason⟩
  · exact .inl hashes

/-- With a steady pool and a DCID of its own, a flow goes where the hash says. -/
theorem ServingRun.follows_hash {pool : List Server} {worker : Worker} {call : ConnCall}
    {flow : FlowKey} {mac : Mac} (run : ServingRun aes hash startup log state)
    (steady : SteadyPool pool log) (made : .called worker call ∈ log)
    (falls : call.FallsBack flow mac) (own : OwnDcid hash flow call.dcidKey? log) :
    fallbackMac hash flow pool = .ok (some mac) := by
  obtain ⟨before, after, split⟩ := List.append_of_mem made
  obtain ⟨conn, conn', moved, keyed, -⟩ := run.at_call split
  rcases moved.fallsBack falls with found | hashes
  · obtain ⟨origin, member, -, reason⟩ := keyed.lookup found
    have earlier : .called worker origin ∈ log := by
      rw [split]
      exact List.mem_append_left _ (mem_callsOf.mp member)
    rcases reason with ⟨dcid, hashes⟩ | ⟨key, same, ⟨other, hashes⟩ | learns⟩
    · exact hashes.of_steady steady earlier
    · obtain rfl := (own key worker origin same earlier).1 other mac hashes
      exact hashes.of_steady steady earlier
    · exact absurd learns ((own key worker origin same earlier).2 mac)
  · exact hashes.of_steady steady made

/-- While the pool stays the same, any two fallback packets of a flow go to the same backend: at
any time, with any workers, whatever else they and the main thread do in between. Only a DCID that
is shared with another flow, or that was learned as a CID, can lead elsewhere. -/
theorem workers_agree {pool : List Server} {first second : Worker} {call other : ConnCall}
    {flow : FlowKey} {mac mac' : Mac} (run : ServingRun aes hash startup log state)
    (steady : SteadyPool pool log) (made : .called first call ∈ log)
    (madeToo : .called second other ∈ log) (falls : call.FallsBack flow mac)
    (fallsToo : other.FallsBack flow mac') (own : OwnDcid hash flow call.dcidKey? log)
    (ownToo : OwnDcid hash flow other.dcidKey? log) : mac = mac' := by
  have chosen := run.follows_hash steady made falls own
  rw [run.follows_hash steady madeToo fallsToo ownToo] at chosen
  exact (Option.some.inj (Except.ok.inj chosen)).symm

end System

namespace SampleAgreement

open SampleFallback
open SampleReload (entry tick ticked tick_step)

/-- Two servers with configured MACs. -/
def file : RouteFile :=
  ⟨[{ entry with
      servers := [⟨"01", "10.0.0.1", some "02:00:00:00:00:0a", false⟩,
        ⟨"02", "10.0.0.2", some "02:00:00:00:00:0b", false⟩] }], none⟩

def parsed : Option ConfigTable :=
  (loadRouteConfig file (fun _ => none) 0).toOption.bind Except.toOption

def pair : ConfigTable := parsed.get (by decide +kernel)

/-- The file is accepted. -/
theorem loaded : loadRouteConfig file (fun _ => none) 0 = .ok (.ok pair) := by
  have found : parsed = some pair := (Option.some_get _).symm
  unfold parsed at found
  cases read : loadRouteConfig file (fun _ => none) 0 with
  | error panic => simp [read, Except.toOption] at found
  | ok result =>
    cases result with
    | error failed => simp [read, Except.toOption] at found
    | ok table =>
      simp only [read, Except.toOption, Option.bind_some, Option.some.injEq] at found
      rw [found]

/-- Two workers on that file. -/
def startup : Startup Bool := ⟨file, fun _ => none, 0, fun _ => 0⟩

def begin : MainState := ⟨pair, .new, 0⟩

/-- The first probes find both servers up. -/
def main : MainState := ticked begin true 1

/-- The hash picks the second one. -/
def second : Mac := macOctets 0x02 0 0 0 0 0x0b

/-- The client tries again with another DCID. -/
def retried : Bytes :=
  List.replicate 42 0 ++ [0xc0, 0, 0, 0, 1, 8, 0xe0, 7, 6, 5, 4, 3, 2, 1, 0, 9, 9]

def retriedDcid : Bytes := [0xe0, 7, 6, 5, 4, 3, 2, 1]

/-- One worker hashes the first packet, the other the second. -/
def first : ConnCall :=
  .udp 2 main.routeConfig frame 42 flow localMac (.hashed (some (DcidKey.fromSlice dcid)) second)

def again : ConnCall :=
  .udp 3 main.routeConfig retried 42 flow localMac
    (.hashed (some (DcidKey.fromSlice retriedDcid)) second)

/-- The first worker gets the second packet once more and finds its flow in the table. -/
def repeated : ConnCall := .udp 4 main.routeConfig retried 42 flow localMac (.sticky second)

def conn : ConnectionTable :=
  (ConnectionTable.new 0).insert flow (some (DcidKey.fromSlice dcid)) second 2

def log : List (ServingEvent Bool) :=
  [.main (.tick (tick true 1)) (begin.probes (.tick (tick true 1))), .loaded false,
    .called false first, .loaded true, .called true again, .called false repeated]

/-- A call of a worker that has loaded the snapshot. -/
theorem called_step {state : ServingState Bool} {call : ConnCall} {before after : ConnectionTable}
    {clock : Instant} (worker : Bool) (moved : ConnStep cipher (fun _ => 1) before call after)
    (later : clock ≤ call.time) (uses : call.table? = some main.routeConfig)
    (view : state.workers worker = ⟨some main.routeConfig, before, clock⟩) :
    ServingStep cipher (fun _ => 1) state (.called worker call)
      (state.setWorker worker ⟨(state.workers worker).snapshot, after, call.time⟩) := by
  refine .called ?_ ?_ ?_
  · intro table same
    rw [view]
    exact uses.symm.trans same
  · rw [view]
    exact later
  · rw [view]
    exact moved

/-- The first packet is hashed to the second server. -/
theorem first_moves : ConnStep cipher (fun _ => 1) (ConnectionTable.new 0) first conn := by
  have routed : routeUdp cipher (fun _ => 1) (frame.drop 42) main.routeConfig
      (ConnectionTable.new 0) flow 2 =
      .ok (.hashed (some (DcidKey.fromSlice dcid)) second) := by decide +kernel
  exact .udp routed (processUdp_of_route (by decide) (by decide) routed rfl)

/-- So is the second one, by a worker with an empty table. -/
theorem again_moves : ∃ after,
    ConnStep cipher (fun _ => 1) (ConnectionTable.new 0) again after := by
  have routed : routeUdp cipher (fun _ => 1) (retried.drop 42) main.routeConfig
      (ConnectionTable.new 0) flow 3 =
      .ok (.hashed (some (DcidKey.fromSlice retriedDcid)) second) := by decide +kernel
  exact ⟨_, .udp routed (processUdp_of_route (by decide) (by decide) routed rfl)⟩

/-- The repeated packet is found in the table. -/
theorem repeated_moves : ∃ after, ConnStep cipher (fun _ => 1) conn repeated after := by
  have routed : routeUdp cipher (fun _ => 1) (retried.drop 42) main.routeConfig conn flow 4 =
      .ok (.sticky second) := by decide +kernel
  exact ⟨_, .udp routed (processUdp_of_route (by decide) (by decide) routed rfl)⟩

/-- The log is one of a run. -/
theorem run : ∃ state, ServingRun cipher (fun _ => 1) startup log state := by
  obtain ⟨afterAgain, again⟩ := again_moves
  obtain ⟨afterRepeated, repeated⟩ := repeated_moves
  have begun : Trace (ServingStep cipher (fun _ => 1)) (startup.state pair) []
      (startup.state pair) := .nil
  have one := ((begun.snoc (.main (tick_step true (Nat.zero_le 1)))).snoc (.loaded false)).snoc
    (called_step false first_moves (Nat.zero_le 2) rfl rfl)
  have two := (one.snoc (.loaded true)).snoc
    (called_step true again (Nat.zero_le 3) rfl rfl)
  exact ⟨_, pair, loaded, two.snoc (called_step false repeated (by decide : 2 ≤ 4) rfl rfl)⟩

/-- The three calls of the log. -/
theorem mem_log {worker : Bool} {call : ConnCall} (made : .called worker call ∈ log) :
    call = first ∨ call = again ∨ call = repeated := by
  simp only [log, List.mem_cons, List.not_mem_nil, or_false, reduceCtorEq, false_or,
    ServingEvent.called.injEq] at made
  rcases made with made | made | made
  · exact .inl made.2
  · exact .inr (.inl made.2)
  · exact .inr (.inr made.2)

/-- All three use the same pool. -/
theorem steady : SteadyPool main.routeConfig.fallbackServers log := by
  intro worker call table made uses
  rcases mem_log made with rfl | rfl | rfl <;> cases uses <;> rfl

/-- No two flows share a DCID, and none was learned. -/
theorem own (key : Option DcidKey) : OwnDcid (fun _ => 1) flow key log := by
  intro own worker call same made
  rcases mem_log made with rfl | rfl | rfl
  · exact ⟨fun other mac hashes => hashes.1.symm, fun mac learns => learns⟩
  · exact ⟨fun other mac hashes => hashes.1.symm, fun mac learns => learns⟩
  · exact ⟨fun other mac hashes => hashes.elim, fun mac learns => learns⟩

end SampleAgreement

open SampleAgreement SampleFallback in
/-- The repeated packet was not hashed: an earlier call of its worker explains it. -/
theorem fallback_explained_sample :
    ∃ origin ∈ callsOf false (log.take 5), origin.time ≤ repeated.time ∧
      repeated.time < origin.time + seconds 5 ∧
      origin.Reason (fun _ => 1) flow repeated.dcidKey? second := by
  obtain ⟨state, run⟩ := run
  have split : log = log.take 5 ++ .called false repeated :: [] := rfl
  have explained := fallback_explained run split ⟨rfl, rfl⟩
  exact explained.resolve_left fun hashed => hashed

open SampleAgreement SampleFallback in
/-- Two servers, two packets with a DCID each, two workers: one backend. -/
theorem workers_agree_sample :
    main.routeConfig.fallbackServers.length = 2 ∧ first.dcidKey? ≠ again.dcidKey? ∧
      .called false first ∈ log ∧ .called true again ∈ log ∧
      ∀ mac mac', first.FallsBack flow mac → again.FallsBack flow mac' → mac = mac' := by
  obtain ⟨state, run⟩ := run
  have made : .called false first ∈ log := by simp [log]
  have madeToo : .called true again ∈ log := by simp [log]
  exact ⟨by decide +kernel, by decide +kernel, made, madeToo, fun mac mac' falls fallsToo =>
    workers_agree run steady made madeToo falls fallsToo (own _) (own _)⟩

end Pesigitg
