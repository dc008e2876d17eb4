import Pesigitg.Base.Trace
import Pesigitg.Daemon.Handoff
import Pesigitg.Daemon.PacketFunction

/-!
# The worker as a router of packets

A worker moves descriptors between rings and rewrites packets in a memory that it shares with the
kernel, a batch at a time. `Router` is what all of this is for: packets come in, each is answered
by the pipeline, and the answers go out in order. `worker_refines_router` says that every run of
the worker loop on the raw socket is a run of that router, with the packets of the receive ring
before it and those of the transmit ring behind it.
-/

namespace Pesigitg

open Base

/-- The packets that have come in, the connections, and the packets that wait to be sent. -/
structure Router where
  inbox : List Bytes
  conn : ConnectionTable
  outbox : List Bytes

inductive RouterEvent where
  /-- A packet comes in. -/
  | arrived (packet : Bytes)
  /-- The oldest waiting packet is sent. -/
  | sent (packet : Bytes)
  /-- A batch is answered, and this many of the answers are accepted for sending. -/
  | served (round : Round) (packets : List Bytes) (answers : List Answer) (accepted : Nat)

/-- The actions whose packet is to be sent. -/
def Action.sends : Action → Bool
  | .emitted => true
  | .verdict given => given.forwards

/-- The packets to send for a list of answers. -/
def outgoing (answers : List Answer) : List Bytes :=
  (answers.filter fun answer => answer.action.sends).map Answer.packet

/-- Each answer adds its packet if its action sends it. -/
theorem outgoing_cons (answer : Answer) (rest : List Answer) :
    outgoing (answer :: rest) =
      (if answer.action.sends then [answer.packet] else []) ++ outgoing rest := by
  rw [outgoing, outgoing, List.filter_cons]
  split <;> rfl

/-- Answer packets one after the other. -/
def serve (pipeline : Pipeline) (reach : Nat) (round : Round) : List Bytes → ConnectionTable →
    UInt64 → Checked (List Answer × ConnectionTable × UInt64)
  | [], conn, pending => pure ([], conn, pending)
  | packet :: rest, conn, pending => do
    let answer ← pipeline.onPacket reach round packet conn pending
    let (answers, conn, pending) ← serve pipeline reach round rest answer.conn
      answer.pendingLoadInitials
    pure (answer :: answers, conn, pending)

inductive RouterStep (pipeline : Pipeline) (reach : Nat) :
    Router → RouterEvent → Router → Prop where
  | arrived {inbox outbox : List Bytes} {conn : ConnectionTable} (packet : Bytes) :
      RouterStep pipeline reach ⟨inbox, conn, outbox⟩ (.arrived packet)
        ⟨inbox ++ [packet], conn, outbox⟩
  | sent {inbox outbox : List Bytes} {conn : ConnectionTable} (packet : Bytes) :
      RouterStep pipeline reach ⟨inbox, conn, packet :: outbox⟩ (.sent packet)
        ⟨inbox, conn, outbox⟩
  | served {inbox outbox packets : List Bytes} {conn conn' : ConnectionTable} {round : Round}
      {answers : List Answer} {pending : UInt64} {accepted : Nat}
      (done : serve pipeline reach round packets (conn.maybeSweep round.now) 0 =
        .ok (answers, conn', pending)) (few : accepted ≤ (outgoing answers).length) :
      RouterStep pipeline reach ⟨packets ++ inbox, conn, outbox⟩
        (.served round packets answers accepted)
        ⟨inbox, conn', outbox ++ (outgoing answers).take accepted⟩

namespace RouterEvent

/-- The packets that come in with an event. -/
def arrives : RouterEvent → List Bytes
  | .arrived packet => [packet]
  | _ => []

/-- The packets that an event takes from the inbox. -/
def takes : RouterEvent → List Bytes
  | .served _ packets _ _ => packets
  | _ => []

/-- The packets that an event puts into the outbox. -/
def accepts : RouterEvent → List Bytes
  | .served _ _ answers accepted => (outgoing answers).take accepted
  | _ => []

/-- The packets that are sent with an event. -/
def sends : RouterEvent → List Bytes
  | .sent packet => [packet]
  | _ => []

/-- The round of a batch, its packets, how many of them are to be sent and how many of those are
accepted. -/
def batch? : RouterEvent → Option (Round × List Bytes × Nat × Nat)
  | .served round packets answers accepted =>
    some (round, packets, (outgoing answers).length, accepted)
  | _ => none

end RouterEvent

section Abstract

variable {pipeline : Pipeline} {reach : Nat} {start router : Router} {log : List RouterEvent}

/-- Packets are served in the order they came in, and sent in the order they were accepted: none
is lost, doubled or overtaken on either side. -/
theorem router_in_order (run : Trace (RouterStep pipeline reach) start log router) :
    start.inbox ++ log.flatMap RouterEvent.arrives =
        log.flatMap RouterEvent.takes ++ router.inbox ∧
      start.outbox ++ log.flatMap RouterEvent.accepts =
        log.flatMap RouterEvent.sends ++ router.outbox := by
  induction run with
  | nil => simp
  | snoc prior moved ih =>
    obtain ⟨before, behind⟩ := ih
    cases moved with
    | arrived packet =>
      simp only [List.flatMap_append, List.flatMap_cons, List.flatMap_nil, RouterEvent.arrives,
        RouterEvent.takes, RouterEvent.accepts, RouterEvent.sends, List.append_nil]
      exact ⟨by rw [← List.append_assoc, before, List.append_assoc], behind⟩
    | sent packet =>
      simp only [List.flatMap_append, List.flatMap_cons, List.flatMap_nil, RouterEvent.arrives,
        RouterEvent.takes, RouterEvent.accepts, RouterEvent.sends, List.append_nil]
      exact ⟨before, by simp [behind]⟩
    | served done few =>
      simp only [List.flatMap_append, List.flatMap_cons, List.flatMap_nil, RouterEvent.arrives,
        RouterEvent.takes, RouterEvent.accepts, RouterEvent.sends, List.append_nil]
      exact ⟨by rw [before, List.append_assoc],
        by rw [← List.append_assoc, behind, List.append_assoc]⟩

/-- Packets may come in without a batch being served. -/
theorem router_arrivals (conn : ConnectionTable) (inbox arrivals outbox : List Bytes) :
    ∃ log, Trace (RouterStep pipeline reach) ⟨inbox, conn, outbox⟩ log
        ⟨inbox ++ arrivals, conn, outbox⟩ ∧ log.filterMap RouterEvent.batch? = [] := by
  induction arrivals generalizing inbox with
  | nil => exact ⟨[], by rw [List.append_nil]; exact .nil, rfl⟩
  | cons packet rest ih =>
    obtain ⟨log, run, quiet⟩ := ih (inbox ++ [packet])
    have first : Trace (RouterStep pipeline reach) ⟨inbox, conn, outbox⟩ [.arrived packet]
        ⟨inbox ++ [packet], conn, outbox⟩ := Trace.nil.snoc (.arrived packet)
    rw [List.append_assoc] at run
    exact ⟨_, first.trans run, quiet⟩

/-- Waiting packets may be sent without a batch being served. -/
theorem router_sends (conn : ConnectionTable) (inbox outbox : List Bytes) (count : Nat) :
    ∃ log, Trace (RouterStep pipeline reach) ⟨inbox, conn, outbox⟩ log
        ⟨inbox, conn, outbox.drop count⟩ ∧ log.filterMap RouterEvent.batch? = [] := by
  induction count generalizing outbox with
  | zero => exact ⟨[], .nil, rfl⟩
  | succ count ih =>
    cases outbox with
    | nil => exact ⟨[], .nil, rfl⟩
    | cons packet rest =>
      obtain ⟨log, run, quiet⟩ := ih rest
      have first : Trace (RouterStep pipeline reach) ⟨inbox, conn, packet :: rest⟩ [.sent packet]
          ⟨inbox, conn, rest⟩ := Trace.nil.snoc (.sent packet)
      exact ⟨_, first.trans run, quiet⟩

/-- A run to another state of the router that serves these batches. -/
def RoutesTo (pipeline : Pipeline) (reach : Nat) (batches : List (Round × List Bytes × Nat × Nat))
    (start router : Router) : Prop :=
  ∃ log, Trace (RouterStep pipeline reach) start log router ∧
    log.filterMap RouterEvent.batch? = batches

/-- Two runs in a row serve the batches of both. -/
theorem RoutesTo.trans {batches more : List (Round × List Bytes × Nat × Nat)} {last : Router}
    (first : RoutesTo pipeline reach batches start router)
    (second : RoutesTo pipeline reach more router last) :
    RoutesTo pipeline reach (batches ++ more) start last := by
  obtain ⟨log, run, rfl⟩ := first
  obtain ⟨log', run', rfl⟩ := second
  exact ⟨log ++ log', run.trans run', List.filterMap_append⟩

/-- What the other side does on its own: packets come in, and waiting ones are sent. -/
def Moved (inbox outbox inbox' outbox' : List Bytes) : Prop :=
  ∃ arrivals sent, inbox' = inbox ++ arrivals ∧ outbox' = outbox.drop sent

/-- The other side may do nothing. -/
theorem Moved.refl (inbox outbox : List Bytes) : Moved inbox outbox inbox outbox :=
  ⟨[], 0, (List.append_nil _).symm, rfl⟩

/-- Its moves add up. -/
theorem Moved.trans {inbox outbox inbox' outbox' inbox'' outbox'' : List Bytes}
    (first : Moved inbox outbox inbox' outbox') (second : Moved inbox' outbox' inbox'' outbox'') :
    Moved inbox outbox inbox'' outbox'' := by
  obtain ⟨arrivals, sent, rfl, rfl⟩ := first
  obtain ⟨arrivals', sent', rfl, rfl⟩ := second
  exact ⟨arrivals ++ arrivals', sent + sent', List.append_assoc _ _ _, List.drop_drop⟩

/-- It does not see the packets that have been handed out already. -/
theorem Moved.behind {inbox outbox inbox' outbox' : List Bytes} (front : List Bytes)
    (moved : Moved inbox outbox inbox' outbox') :
    Moved (front ++ inbox) outbox (front ++ inbox') outbox' := by
  obtain ⟨arrivals, sent, rfl, rfl⟩ := moved
  exact ⟨arrivals, sent, (List.append_assoc _ _ _).symm, rfl⟩

/-- Its moves are a run of the router that serves no batch. -/
theorem Moved.routesTo (conn : ConnectionTable) {inbox outbox inbox' outbox' : List Bytes}
    (moved : Moved inbox outbox inbox' outbox') :
    RoutesTo pipeline reach [] ⟨inbox, conn, outbox⟩ ⟨inbox', conn, outbox'⟩ := by
  obtain ⟨arrivals, sent, rfl, rfl⟩ := moved
  have first : RoutesTo pipeline reach [] _ _ := router_arrivals conn inbox arrivals outbox
  have second : RoutesTo pipeline reach [] _ _ := router_sends conn (inbox ++ arrivals) outbox sent
  exact first.trans second

/-- A batch after such moves, and more of them behind it. -/
theorem RoutesTo.batch {round : Round}
    {packets inbox outbox rest waiting last lastWaiting : List Bytes}
    {conn conn' : ConnectionTable} {answers : List Answer} {pending : UInt64} {accepted : Nat}
    (before : Moved inbox outbox (packets ++ rest) waiting)
    (done : serve pipeline reach round packets (conn.maybeSweep round.now) 0 =
      .ok (answers, conn', pending)) (few : accepted ≤ (outgoing answers).length)
    (behind : Moved rest (waiting ++ (outgoing answers).take accepted) last lastWaiting) :
    RoutesTo pipeline reach [(round, packets, (outgoing answers).length, accepted)]
      ⟨inbox, conn, outbox⟩ ⟨last, conn', lastWaiting⟩ := by
  have served : RoutesTo pipeline reach [(round, packets, (outgoing answers).length, accepted)]
      ⟨packets ++ rest, conn, waiting⟩
      ⟨rest, conn', waiting ++ (outgoing answers).take accepted⟩ :=
    ⟨[.served round packets answers accepted], Trace.nil.snoc (.served done few), rfl⟩
  exact ((before.routesTo conn).trans served).trans (behind.routesTo conn')

end Abstract

/-- What a socket promises about the packets in its frames, as long as no chunk is handed over
twice. -/
structure AfXdpSocket.Contract.Packets {Socket Frame Chunk : Type}
    {socket : AfXdpSocket Socket Frame} (contract : socket.Contract Chunk) (reach : Nat) where
  Sound : Socket → Prop
  /-- The frame is a packet with room for a reply in its chunk. -/
  Placed : Socket → Frame → Prop
  /-- The packets that have been received, oldest first. -/
  inbox : Socket → List Bytes
  /-- The packets that wait to be sent, oldest first. -/
  outbox : Socket → List Bytes
  room : ∀ {xsk desc}, Placed xsk desc → reach ≤ (socket.frameView xsk desc).capacity
  refilled : ∀ {xsk after descs count}, Sound xsk →
    (contract.held xsk + contract.chunks descs).Nodup → socket.refill xsk descs = (after, count) →
      Sound after ∧ Moved (inbox xsk) (outbox xsk) (inbox after) (outbox after)
  completed : ∀ {xsk after scratch filled consumed back}, Sound xsk →
    socket.complete xsk scratch = (after, filled, consumed, back) →
      Sound after ∧ Moved (inbox xsk) (outbox xsk) (inbox after) (outbox after)
  polled : ∀ {xsk after descs filled timeout count}, Sound xsk →
    socket.pollRecv xsk descs timeout = (after, filled, count) →
      Sound after ∧ (∀ desc ∈ filled.take count, Placed after desc) ∧
        Moved (inbox xsk) (outbox xsk) ((filled.take count).map (fun desc =>
          (socket.frameView after desc).contents) ++ inbox after) (outbox after)
  stored : ∀ {xsk after desc written view}, Sound xsk → Placed xsk desc →
    contract.chunk desc ∉ contract.held xsk → (socket.frameView xsk desc).Within reach view →
    socket.storeView xsk desc view = (after, written) →
      Sound after ∧ inbox after = inbox xsk ∧ outbox after = outbox xsk ∧
        Placed after written ∧ (socket.frameView after written).contents = view.contents ∧
        ∀ other, Placed xsk other → contract.chunk other ≠ contract.chunk desc →
          Placed after other ∧
            (socket.frameView after other).contents = (socket.frameView xsk other).contents
  transmitted : ∀ {xsk after descs count}, Sound xsk → (∀ desc ∈ descs, Placed xsk desc) →
    (contract.held xsk + contract.chunks descs).Nodup → socket.transmit xsk descs = (after, count) →
      Sound after ∧ ∃ waiting, Moved (inbox xsk) (outbox xsk) (inbox after) waiting ∧
        outbox after = waiting ++
          (descs.take count).map fun desc => (socket.frameView xsk desc).contents

section Refinement

variable {Socket Frame Chunk : Type} {socket : AfXdpSocket Socket Frame}
  {contract : socket.Contract Chunk} {reach : Nat} (packets : contract.Packets reach)
  {pipeline : Pipeline} {round : Round} {xsk after : Socket}

/-- A frame goes to the transmit batch exactly if its action sends it. -/
theorem Batch.dispatch_sends {batch result : Batch Frame} {desc : Frame} {action : Action}
    (done : batch.dispatch desc action = .ok result) :
    result.txBatch = batch.txBatch ++ (if action.sends then [desc] else []) ∧
      result.pendingLoadInitials = batch.pendingLoadInitials := by
  cases action with
  | emitted =>
    cases done
    exact ⟨rfl, rfl⟩
  | verdict given =>
    cases given with
    | cidForward configId =>
      simp only [dispatch, Checked.bind_eq_ok_iff] at done
      obtain ⟨stats, -, done⟩ := done
      cases done
      exact ⟨rfl, rfl⟩
    | cidForwardDraining configId =>
      simp only [dispatch, Checked.bind_eq_ok_iff] at done
      obtain ⟨stats, -, done⟩ := done
      cases done
      exact ⟨rfl, rfl⟩
    | fallbackForward | icmpForward =>
      cases done
      exact ⟨rfl, rfl⟩
    | cidUnroutableNoServer | cidUnroutableBadServerId | pass =>
      cases done
      exact ⟨(List.append_nil _).symm, rfl⟩

/-- The frame loop answers the packets in its frames one after the other, and leaves each answer
in the frame of its packet. -/
theorem frameLoop_serves (isolated : pipeline.Isolated reach) {descs handled : List Frame}
    {conn conn' : ConnectionTable} {batch batch' : Batch Frame} (sound : packets.Sound xsk)
    (placed : ∀ desc ∈ descs, packets.Placed xsk desc)
    (apart : (contract.held xsk + contract.chunks descs).Nodup)
    (done : frameLoop socket pipeline round descs xsk conn batch =
      .ok (handled, after, conn', batch')) :
    packets.Sound after ∧ packets.inbox after = packets.inbox xsk ∧
      packets.outbox after = packets.outbox xsk ∧
      (∃ answers pending sent, serve pipeline reach round
          (descs.map fun desc => (socket.frameView xsk desc).contents) conn
          batch.pendingLoadInitials = .ok (answers, conn', pending) ∧
        batch'.txBatch = batch.txBatch ++ sent ∧ (∀ desc ∈ sent, packets.Placed after desc) ∧
        sent.map (fun desc => (socket.frameView after desc).contents) = outgoing answers) ∧
      ∀ other, packets.Placed xsk other → contract.chunk other ∉ contract.chunks descs →
        packets.Placed after other ∧
          (socket.frameView after other).contents = (socket.frameView xsk other).contents := by
  induction descs generalizing xsk conn batch handled with
  | nil =>
    cases done
    refine ⟨sound, rfl, rfl, ⟨[], _, [], rfl, by simp, by simp, rfl⟩, ?_⟩
    exact fun other there _ => ⟨there, rfl⟩
  | cons desc rest ih =>
    obtain ⟨outcome, next, written, dealt, tail, step, looped, rfl⟩ := frameLoop_cons_iff.mp done
    rw [AfXdpSocket.Contract.chunks_cons, Multiset.add_cons, Multiset.nodup_cons,
      Multiset.mem_add, not_or] at apart
    obtain ⟨⟨notHeld, notLater⟩, apart⟩ := apart
    have own := placed desc List.mem_cons_self
    have answered := isolated.answers (packets.room own) step.piped
    have within := isolated.within (packets.room own) step.piped
    obtain ⟨sameChunk, sameHeld⟩ := contract.storeView_spec step.stored
    obtain ⟨nextSound, nextInbox, nextOutbox, writtenPlaced, writtenPacket, others⟩ :=
      packets.stored sound own notHeld within step.stored
    -- The frames still to come lie in other chunks.
    have later : ∀ other ∈ rest, packets.Placed next other ∧
        (socket.frameView next other).contents = (socket.frameView xsk other).contents := by
      intro other member
      refine others other (placed other (List.mem_cons_of_mem _ member)) fun same => ?_
      exact notLater (same ▸ contract.mem_chunks_of_mem member)
    have samePackets : (rest.map fun desc => (socket.frameView next desc).contents) =
        rest.map fun desc => (socket.frameView xsk desc).contents :=
      List.map_congr_left fun other member => (later other member).2
    obtain ⟨tx, tally⟩ := Batch.dispatch_sends step.dispatched
    obtain ⟨lastSound, lastInbox, lastOutbox, ⟨answers, pending, sent, served, txRest, sentPlaced,
      sentPackets⟩, kept⟩ := ih nextSound (fun other member => (later other member).1)
        (by rwa [sameHeld]) looped
    rw [samePackets, tally] at served
    obtain ⟨stillPlaced, stillPacket⟩ := kept written writtenPlaced (by rwa [sameChunk])
    refine ⟨lastSound, lastInbox.trans nextInbox, lastOutbox.trans nextOutbox,
      ⟨outcome.answer :: answers, pending, (if outcome.action.sends then [written] else []) ++ sent,
        ?_, ?_, ?_, ?_⟩, ?_⟩
    · rw [List.map_cons, serve, answered, Checked.ok_bind]
      simp only [Handled.answer, served, Checked.ok_bind, Checked.pure_eq_ok]
    · rw [txRest, tx, List.append_assoc]
    · intro other member
      rcases List.mem_append.mp member with here | there
      · split at here
        · obtain rfl := List.mem_singleton.mp here
          exact stillPlaced
        · cases here
      · exact sentPlaced other there
    · have packet : (socket.frameView after written).contents = outcome.answer.packet :=
        stillPacket.trans writtenPacket
      rw [List.map_append, sentPackets, outgoing_cons]
      congr 1
      change _ = if outcome.action.sends then [outcome.answer.packet] else []
      split
      · rw [List.map_singleton, packet]
      · rfl
    · intro other there elsewhere
      rw [AfXdpSocket.Contract.chunks_cons, Multiset.mem_cons, not_or] at elsewhere
      obtain ⟨nextPlaced, nextPacket⟩ := others other there elsewhere.1
      obtain ⟨lastPlaced, lastPacket⟩ := kept other nextPlaced elsewhere.2
      exact ⟨lastPlaced, lastPacket.trans nextPacket⟩

/-- The refill of pending frames moves no packet of its own. -/
theorem refillPending_moves {pendingFill kept : List Frame} (sound : packets.Sound xsk)
    (apart : (contract.held xsk + contract.chunks pendingFill).Nodup)
    (done : refillPending socket xsk pendingFill = .ok (after, kept)) :
    packets.Sound after ∧ Moved (packets.inbox xsk) (packets.outbox xsk) (packets.inbox after)
      (packets.outbox after) := by
  unfold refillPending at done
  split at done
  · cases done
    exact ⟨sound, .refl _ _⟩
  · rcases given : socket.refill xsk pendingFill with ⟨next, count⟩
    simp only [given, Checked.bind_eq_ok_iff] at done
    obtain ⟨left, -, done⟩ := done
    cases done
    exact packets.refilled sound apart given

/-- Nor does taking the completions. -/
theorem drainCompletions_moves {compDescs filled pendingFill kept : List Frame}
    (sound : packets.Sound xsk)
    (done : drainCompletions socket xsk compDescs pendingFill = .ok (after, filled, kept)) :
    packets.Sound after ∧ Moved (packets.inbox xsk) (packets.outbox xsk) (packets.inbox after)
      (packets.outbox after) := by
  rcases given : socket.complete xsk compDescs with ⟨next, descs, consumed, back⟩
  simp only [drainCompletions, given] at done
  split at done
  · rw [Checked.bind_eq_ok_iff] at done
    obtain ⟨orphans, -, done⟩ := done
    cases done
    exact packets.completed sound given
  · cases done
    exact packets.completed sound given

/-- Up to the frame loop, an iteration moves packets only as the other side does. -/
theorem received_moves {pendingFill waiting compDescs filled kept rxDescs received : List Frame}
    {first second : Socket} {timeout : Int} {count : Nat} (sound : packets.Sound xsk)
    (apart : (contract.held xsk + contract.chunks pendingFill).Nodup)
    (refilled : refillPending socket xsk pendingFill = .ok (first, waiting))
    (drained : drainCompletions socket first compDescs waiting = .ok (second, filled, kept))
    (polled : socket.pollRecv second rxDescs timeout = (after, received, count)) :
    packets.Sound after ∧ (∀ desc ∈ received.take count, packets.Placed after desc) ∧
      Moved (packets.inbox xsk) (packets.outbox xsk)
        ((received.take count).map (fun desc => (socket.frameView after desc).contents) ++
          packets.inbox after) (packets.outbox after) := by
  obtain ⟨firstSound, firstMoved⟩ := refillPending_moves packets sound apart refilled
  obtain ⟨secondSound, secondMoved⟩ := drainCompletions_moves packets firstSound drained
  obtain ⟨lastSound, placed, lastMoved⟩ := packets.polled secondSound polled
  exact ⟨lastSound, placed, (firstMoved.trans secondMoved).trans lastMoved⟩

/-- Returning the frames of a batch puts the packets that are accepted behind those that wait,
with moves of the other side before and after. -/
theorem returnFrames_moves {batch : Batch Frame} {pendingFill kept : List Frame}
    (sound : packets.Sound xsk) (placed : ∀ desc ∈ batch.txBatch, packets.Placed xsk desc)
    (apart : (contract.held xsk +
      (contract.chunks batch.txBatch + contract.chunks batch.recycleBatch)).Nodup)
    (done : returnFrames socket xsk batch pendingFill = (after, kept)) :
    packets.Sound after ∧ (socket.transmit xsk batch.txBatch).2 ≤ batch.txBatch.length ∧
      ∃ rest waiting, Moved (packets.inbox xsk) (packets.outbox xsk) rest waiting ∧
        Moved rest (waiting ++ (batch.txBatch.map fun desc =>
            (socket.frameView xsk desc).contents).take (socket.transmit xsk batch.txBatch).2)
          (packets.inbox after) (packets.outbox after) := by
  rcases given : socket.transmit xsk batch.txBatch with ⟨between, accepted⟩
  rcases back : socket.refill between batch.recycleBatch with ⟨last, number⟩
  simp only [returnFrames, given, back] at done
  cases done
  obtain ⟨few, held⟩ := contract.transmit_spec given
  have sendable : (contract.held xsk + contract.chunks batch.txBatch).Nodup := by
    rw [← add_assoc] at apart
    exact Multiset.nodup_of_le (Multiset.le_add_right _ _) apart
  -- What the socket takes of the batch is part of it, so the rest of the frames stay apart.
  have refillable : (contract.held between + contract.chunks batch.recycleBatch).Nodup := by
    have part : contract.chunks (batch.txBatch.take accepted) ≤ contract.chunks batch.txBatch := by
      rw [← contract.chunks_take_add_drop batch.txBatch accepted]
      exact Multiset.le_add_right _ _
    refine Multiset.nodup_of_le ?_ apart
    rw [held, add_assoc]
    exact add_le_add le_rfl (add_le_add part le_rfl)
  obtain ⟨betweenSound, waiting, before, outbox⟩ :=
    packets.transmitted sound placed sendable given
  obtain ⟨lastSound, behind⟩ := packets.refilled betweenSound refillable back
  rw [outbox, List.map_take] at behind
  exact ⟨lastSound, few, _, waiting, before, behind⟩

/-- The worker at the head of its loop, as a router. -/
def AfXdpSocket.Contract.Packets.router (state : WorkerState Socket Frame) : Router :=
  ⟨packets.inbox state.xsk, state.conn, packets.outbox state.xsk⟩

variable {state next : WorkerState Socket Frame} {frames : Multiset Chunk}

/-- One iteration of the worker loop is one batch of the router, with the moves of the other side
around it. -/
theorem workerIteration_routes (isolated : pipeline.Isolated reach) (once : frames.Nodup)
    (balanced : Balanced contract frames state) (sound : packets.Sound state.xsk)
    {log : RoundLog Frame}
    (done : workerIteration socket pipeline state round = .ok (next, log)) :
    packets.Sound next.xsk ∧
      RoutesTo pipeline reach [(round, log.packets, log.txBatch.length, log.accepted)]
        (packets.router state) (packets.router next) := by
  have start := balanced.balance
  have apart : (contract.held state.xsk + contract.chunks state.pendingFill).Nodup := by
    rwa [start]
  cases workerIteration_iff.mp done with
  | @idle _ _ third _ _ _ _ refilled drained polled =>
    obtain ⟨thirdSound, -, before⟩ := received_moves packets sound apart refilled drained polled
    have nothing : serve pipeline reach round [] (state.conn.maybeSweep round.now) 0 =
        .ok ([], state.conn.maybeSweep round.now, 0) := rfl
    have quiet : Moved (packets.inbox third) (packets.outbox third ++ (outgoing []).take 0)
        (packets.inbox third) (packets.outbox third) := by
      rw [List.take_zero, List.append_nil]
      exact .refl _ _
    exact ⟨thirdSound, .batch before nothing (Nat.zero_le _) quiet⟩
  | @served first second third fourth last waiting compDescs pendingFill rxDescs handled kept count
      conn batch refilled drained polled some inside looped returned =>
    obtain ⟨thirdSound, placed, before⟩ :=
      received_moves packets sound apart refilled drained polled
    -- The frames that were received are distinct, and the socket holds none of them.
    have free : (contract.held third + contract.chunks (rxDescs.take count)).Nodup := by
      have received : contract.held third + contract.chunks (rxDescs.take count) =
          contract.held second := (contract.pollRecv_spec polled).2.2
      have balance : contract.held second + contract.chunks pendingFill = frames := by
        rw [(drainCompletions_spec contract drained).2, refillPending_spec contract refilled, start]
      rw [received]
      exact Multiset.nodup_of_le (balance ▸ Multiset.le_add_right _ _) once
    obtain ⟨fourthSound, fourthInbox, fourthOutbox, ⟨answers, pending, sent, answered, tx,
      sentPlaced, sentPackets⟩, -⟩ :=
        frameLoop_serves packets isolated thirdSound placed free looped
    obtain rfl : batch.txBatch = sent := tx
    obtain ⟨-, fourthHeld, dealt⟩ := frameLoop_spec contract looped
    have split : (contract.held fourth +
        (contract.chunks batch.txBatch + contract.chunks batch.recycleBatch)).Nodup := by
      rw [dealt, fourthHeld]
      simpa [Batch.empty] using free
    obtain ⟨lastSound, few, rest, queued, between, behind⟩ :=
      returnFrames_moves packets fourthSound sentPlaced split returned
    rw [fourthInbox, fourthOutbox] at between
    rw [sentPackets] at behind
    have counted : (outgoing answers).length = batch.txBatch.length := by
      rw [← sentPackets, List.length_map]
    have routed := RoutesTo.batch (before.trans (between.behind _)) answered
      (few.trans_eq counted.symm) behind
    rw [counted] at routed
    exact ⟨lastSound, routed⟩

/-- A run of the worker loop is a run of the router over the same batches. -/
theorem workerLoop_routes (isolated : pipeline.Isolated reach) (once : frames.Nodup)
    {rounds : List Round} {logs : List (RoundLog Frame)}
    (balanced : Balanced contract frames state) (sound : packets.Sound state.xsk)
    (done : workerLoop socket pipeline state rounds = .ok (next, logs)) :
    RoutesTo pipeline reach
      (rounds.zip (logs.map fun log => (log.packets, log.txBatch.length, log.accepted)))
      (packets.router state) (packets.router next) := by
  induction rounds generalizing state logs with
  | nil =>
    cases done
    exact ⟨[], .nil, rfl⟩
  | cons round rest ih =>
    obtain ⟨middle, log, tail, stepped, looped, rfl⟩ := workerLoop_cons_iff.mp done
    obtain ⟨middleSound, routed⟩ :=
      workerIteration_routes packets isolated once balanced sound stepped
    have middleBalanced := (workerIteration_spec contract once balanced stepped).1
    exact routed.trans (ih middleBalanced middleSound looped)

end Refinement

end Pesigitg
