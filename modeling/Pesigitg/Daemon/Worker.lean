import Pesigitg.Daemon.Stats
import Pesigitg.Daemon.XdpAdopt
import Pesigitg.Retry.Exchange

/-!
# The worker loop

One worker serves one queue: it takes a batch of frames from its socket, runs each through the
Retry classifier and the routing pipeline, and gives every frame back, to the transmit ring or to
the fill ring. What a ring has no room for waits in `pendingFill`.

The loop is stated for an arbitrary pipeline, so that it is about every sequence of verdicts;
`handleFrame` is the pipeline the workers run. `frames_conserved` says that no iteration loses or
duplicates a frame.
-/

namespace Pesigitg

open Base

section Buffers

variable {Entry : Type}

/-- `&items[start..stop]` on descriptors. -/
def sliceFrames (items : List Entry) (start stop : Nat) : Checked (List Entry) :=
  if start ≤ stop ∧ stop ≤ items.length then .ok ((items.take stop).drop start)
  else .error .slice

/-- `items.drain(..count)`: what stays. -/
def drainFront (items : List Entry) (count : Nat) : Checked (List Entry) :=
  if count ≤ items.length then .ok (items.drop count) else .error .slice

/-- What of a batch was not accepted. -/
def leftover (items : List Entry) (accepted : Nat) : List Entry :=
  if accepted < items.length then items.drop accepted else []

/-- What was not accepted is left over. -/
theorem leftover_eq_drop (items : List Entry) (accepted : Nat) :
    leftover items accepted = items.drop accepted := by
  unfold leftover
  split
  · rfl
  · next full => rw [List.drop_eq_nil_of_le (Nat.not_lt.mp full)]

end Buffers

/-- Frames handled per iteration. -/
@[simp, reducible] def batchSize : Nat := 64

@[simp, reducible] def pollTimeoutMs : Int := 100

/-- Per-frame dispatch decision. -/
inductive Action where
  | emitted
  | verdict (verdict : Verdict)
deriving DecidableEq, Repr

/-- What an iteration reads from outside: the two clocks and the live table. -/
structure Round where
  now : Instant
  nowMs : UInt64
  config : ConfigTable

/-- What the pipeline made of one frame. -/
structure Handled where
  action : Action
  outcome : Outcome
  detail : Detail
  view : FrameView
  conn : ConnectionTable
  pendingLoadInitials : UInt64

/-- How a frame is handled, given the connection table and the batch's tally of Initials. -/
abbrev Pipeline := Round → FrameView → ConnectionTable → UInt64 → Checked Handled

/-- The pipeline of the workers: parse once, let the Retry classifier answer, and route what it
leaves. -/
def handleFrame (crypto : RetryCrypto) (aes : Aes128) (hash : FlowKey → UInt64) (localMac : Mac) :
    Pipeline := fun round view conn pending => do
  match ← parseFrame view.contents with
  | none => pure ⟨.verdict .pass, .skip, .none, view, conn, pending⟩
  | some parsed => do
    let ((outcome, detail), view, pending) ←
      tryHandle crypto view parsed round.config localMac round.nowMs pending
    match outcome with
    | .emitted => pure ⟨.emitted, outcome, detail, view, conn, pending⟩
    | .forward | .skip => do
      let (verdict, contents, conn) ←
        processPacketParsed aes hash view.contents parsed round.config conn localMac round.now
      pure ⟨.verdict verdict, outcome, detail, view.writeBack contents, conn, pending⟩

/-- The ways a frame is handled: it does not parse and passes, it becomes a Retry, or it is routed
as the classifier left it. -/
theorem handleFrame_cases {crypto : RetryCrypto} {aes : Aes128} {hash : FlowKey → UInt64}
    {localMac : Mac} {round : Round} {view : FrameView} {conn : ConnectionTable} {pending : UInt64}
    {handled : Handled}
    (done : handleFrame crypto aes hash localMac round view conn pending = .ok handled) :
    (parseFrame view.contents = .ok none ∧
      handled = ⟨.verdict .pass, .skip, .none, view, conn, pending⟩) ∨
    ∃ parsed outcome detail after counted, parseFrame view.contents = .ok (some parsed) ∧
      tryHandle crypto view parsed round.config localMac round.nowMs pending =
        .ok ((outcome, detail), after, counted) ∧
      (outcome = .emitted ∧ handled = ⟨.emitted, .emitted, detail, after, conn, counted⟩ ∨
        outcome ≠ .emitted ∧ ∃ verdict contents routed,
          processPacketParsed aes hash after.contents parsed round.config conn localMac round.now =
            .ok (verdict, contents, routed) ∧
          handled = ⟨.verdict verdict, outcome, detail, after.writeBack contents, routed, counted⟩) := by
  simp only [handleFrame, Checked.bind_eq_ok_iff] at done
  obtain ⟨parse, parsed?, done⟩ := done
  cases parse with
  | none =>
    cases done
    exact .inl ⟨parsed?, rfl⟩
  | some parsed =>
    simp only [Checked.bind_eq_ok_iff] at done
    obtain ⟨⟨⟨outcome, detail⟩, after, counted⟩, tried, done⟩ := done
    refine .inr ⟨parsed, outcome, detail, after, counted, parsed?, tried, ?_⟩
    cases outcome with
    | emitted =>
      cases done
      exact .inl ⟨rfl, rfl⟩
    | forward | skip =>
      simp only [Checked.bind_eq_ok_iff] at done
      obtain ⟨⟨verdict, contents, routed⟩, processed, done⟩ := done
      cases done
      exact .inr ⟨by simp, verdict, contents, routed, processed, rfl⟩

/-- The batch in progress. -/
structure Batch (Frame : Type) where
  txBatch : List Frame
  recycleBatch : List Frame
  stats : BatchStats
  pendingLoadInitials : UInt64

namespace Batch

variable {Frame : Type}

def empty : Batch Frame := ⟨[], [], .new, 0⟩

def send (batch : Batch Frame) (stats : BatchStats) (desc : Frame) : Batch Frame :=
  { batch with stats := stats, txBatch := batch.txBatch ++ [desc] }

def recycle (batch : Batch Frame) (stats : BatchStats) (desc : Frame) : Batch Frame :=
  { batch with stats := stats, recycleBatch := batch.recycleBatch ++ [desc] }

/-- Count the decision and put the descriptor into its batch. -/
def dispatch (batch : Batch Frame) (desc : Frame) : Action → Checked (Batch Frame)
  | .emitted => pure (batch.send batch.stats desc)
  | .verdict (.cidForward configId) => do
    let stats ← batch.stats.recordCidForward configId
    pure (batch.send stats desc)
  | .verdict (.cidForwardDraining configId) => do
    let stats ← batch.stats.recordCidForward configId
    pure (batch.send stats.recordDrainingForward desc)
  | .verdict .fallbackForward => pure (batch.send batch.stats.recordFallbackForward desc)
  | .verdict .icmpForward => pure (batch.send batch.stats.recordIcmpForward desc)
  | .verdict .cidUnroutableNoServer =>
    pure (batch.recycle batch.stats.recordCidUnroutableNoServer desc)
  | .verdict .cidUnroutableBadServerId =>
    pure (batch.recycle batch.stats.recordCidUnroutableBadServerId desc)
  | .verdict .pass => pure (batch.recycle batch.stats.recordPass desc)

end Batch

/-- The worker's state at the head of its loop. -/
structure WorkerState (Socket Frame : Type) where
  xsk : Socket
  rxDescs : List Frame
  compDescs : List Frame
  conn : ConnectionTable
  pendingFill : List Frame
  stats : WorkerStats

/-- What one iteration did with the frames it received. -/
structure RoundLog (Frame : Type) where
  received : List Frame
  /-- What stood in each of them when it was received. -/
  packets : List Bytes
  txBatch : List Frame
  /-- How many frames of `txBatch` the transmit ring took. -/
  accepted : Nat
  recycleBatch : List Frame
  /-- The load tracker of the live table after the batch's tally was added to it. -/
  loadTracker : Option LoadRateTracker

section Loop

variable {Socket Frame : Type} (socket : AfXdpSocket Socket Frame)

def WorkerState.start (xsk : Socket) (startedAt : Instant) : WorkerState Socket Frame :=
  ⟨xsk, List.replicate batchSize socket.zeroFrame, List.replicate batchSize socket.zeroFrame,
    .new startedAt, [], .new⟩

/-- Hand over what earlier iterations could not. -/
def refillPending (xsk : Socket) (pendingFill : List Frame) : Checked (Socket × List Frame) :=
  if pendingFill = [] then pure (xsk, pendingFill)
  else do
    let (xsk, refilled) := socket.refill xsk pendingFill
    let pendingFill ← drainFront pendingFill refilled
    pure (xsk, pendingFill)

/-- Drain the completions; those that cannot be refilled join the pending frames. -/
def drainCompletions (xsk : Socket) (compDescs pendingFill : List Frame) :
    Checked (Socket × List Frame × List Frame) := do
  let (xsk, compDescs, consumed, refilled) := socket.complete xsk compDescs
  if refilled < consumed then do
    let orphans ← sliceFrames compDescs refilled consumed
    pure (xsk, compDescs, pendingFill ++ orphans)
  else pure (xsk, compDescs, pendingFill)

/-- The loop over the received descriptors. -/
def frameLoop (pipeline : Pipeline) (round : Round) : List Frame → Socket → ConnectionTable →
    Batch Frame → Checked (List Frame × Socket × ConnectionTable × Batch Frame)
  | [], xsk, conn, batch => pure ([], xsk, conn, batch)
  | desc :: rest, xsk, conn, batch => do
    let handled ← pipeline round (socket.frameView xsk desc) conn batch.pendingLoadInitials
    let (xsk, desc) := socket.storeView xsk desc handled.view
    let batch ← Batch.dispatch
      { batch with
        stats := batch.stats.recordRetry handled.outcome handled.detail
        pendingLoadInitials := handled.pendingLoadInitials } desc handled.action
    let (descs, xsk, conn, batch) ← frameLoop pipeline round rest xsk handled.conn batch
    pure (desc :: descs, xsk, conn, batch)

/-- Give the frames of a batch back; what is not accepted joins the pending frames. -/
def returnFrames (xsk : Socket) (batch : Batch Frame) (pendingFill : List Frame) :
    Socket × List Frame :=
  let (xsk, sent) := socket.transmit xsk batch.txBatch
  let pendingFill := pendingFill ++ leftover batch.txBatch sent
  let (xsk, refilled) := socket.refill xsk batch.recycleBatch
  (xsk, pendingFill ++ leftover batch.recycleBatch refilled)

/-- One iteration of the loop. -/
def workerIteration (pipeline : Pipeline) (state : WorkerState Socket Frame) (round : Round) :
    Checked (WorkerState Socket Frame × RoundLog Frame) := do
  let (xsk, pendingFill) ← refillPending socket state.xsk state.pendingFill
  let (xsk, compDescs, pendingFill) ← drainCompletions socket xsk state.compDescs pendingFill
  let conn := state.conn.maybeSweep round.now
  let (xsk, rxDescs, count) := socket.pollRecv xsk state.rxDescs pollTimeoutMs
  if count = 0 then
    pure (⟨xsk, rxDescs, compDescs, conn, pendingFill, state.stats⟩, ⟨[], [], [], 0, [], none⟩)
  else do
    let received ← sliceFrames rxDescs 0 count
    let packets := received.map fun desc => (socket.frameView xsk desc).contents
    let (handled, xsk, conn, batch) ← frameLoop socket pipeline round received xsk conn .empty
    let stats := batch.stats.flush (state.stats.recordRx (UInt64.ofNat count))
    let tracker := round.config.retry.bind (·.loadTracker)
    let loadTracker := tracker.map (·.recordBatch batch.pendingLoadInitials round.nowMs)
    let accepted := (socket.transmit xsk batch.txBatch).2
    let (xsk, pendingFill) := returnFrames socket xsk batch pendingFill
    pure (⟨xsk, handled ++ rxDescs.drop count, compDescs, conn, pendingFill,
        stats.recordPendingFill (UInt64.ofNat pendingFill.length)⟩,
      ⟨received, packets, batch.txBatch, accepted, batch.recycleBatch, loadTracker⟩)

/-- As many iterations as there are rounds, with the log of each. -/
def workerLoop (pipeline : Pipeline) : WorkerState Socket Frame → List Round →
    Checked (WorkerState Socket Frame × List (RoundLog Frame))
  | state, [] => pure (state, [])
  | state, round :: rest => do
    let (next, log) ← workerIteration socket pipeline state round
    let (final, logs) ← workerLoop pipeline next rest
    pure (final, log :: logs)

end Loop

section Inversion

variable {Socket Frame : Type} {socket : AfXdpSocket Socket Frame} {pipeline : Pipeline}
  {round : Round}

/-- One descriptor of the frame loop: what the pipeline made of it, the descriptor as it was
written back, and the batch it was dealt to. -/
structure FrameStep (socket : AfXdpSocket Socket Frame) (pipeline : Pipeline) (round : Round)
    (desc : Frame) (xsk : Socket) (conn : ConnectionTable) (batch : Batch Frame)
    (handled : Handled) (next : Socket) (written : Frame) (dealt : Batch Frame) : Prop where
  piped : pipeline round (socket.frameView xsk desc) conn batch.pendingLoadInitials = .ok handled
  stored : socket.storeView xsk desc handled.view = (next, written)
  dispatched : Batch.dispatch
    { batch with
      stats := batch.stats.recordRetry handled.outcome handled.detail
      pendingLoadInitials := handled.pendingLoadInitials } written handled.action = .ok dealt

/-- The frame loop deals with its first frame, then with the rest. -/
theorem frameLoop_cons_iff {desc : Frame} {rest descs : List Frame} {xsk after : Socket}
    {conn conn' : ConnectionTable} {batch batch' : Batch Frame} :
    frameLoop socket pipeline round (desc :: rest) xsk conn batch =
        .ok (descs, after, conn', batch') ↔
      ∃ handled next written dealt tail,
        FrameStep socket pipeline round desc xsk conn batch handled next written dealt ∧
        frameLoop socket pipeline round rest next handled.conn dealt =
          .ok (tail, after, conn', batch') ∧
        descs = written :: tail := by
  constructor
  · intro done
    rw [frameLoop, Checked.bind_eq_ok_iff] at done
    obtain ⟨handled, piped, done⟩ := done
    rcases stored : socket.storeView xsk desc handled.view with ⟨next, written⟩
    simp only [stored, Checked.bind_eq_ok_iff] at done
    obtain ⟨dealt, dispatched, ⟨tail, last, lastConn, lastBatch⟩, looped, done⟩ := done
    cases done
    exact ⟨handled, next, written, dealt, tail, ⟨piped, stored, dispatched⟩, looped, rfl⟩
  · rintro ⟨handled, next, written, dealt, tail, ⟨piped, stored, dispatched⟩, looped, rfl⟩
    rw [frameLoop, piped, Checked.ok_bind]
    simp only [stored, dispatched, looped, Checked.ok_bind, Checked.pure_eq_ok]

/-- What an iteration went through: it found nothing to receive, or served a batch. -/
inductive Iterates (socket : AfXdpSocket Socket Frame) (pipeline : Pipeline)
    (state : WorkerState Socket Frame) (round : Round) :
    WorkerState Socket Frame → RoundLog Frame → Prop where
  | idle {first second third : Socket} {waiting compDescs pendingFill rxDescs : List Frame}
      (refilled : refillPending socket state.xsk state.pendingFill = .ok (first, waiting))
      (drained : drainCompletions socket first state.compDescs waiting =
        .ok (second, compDescs, pendingFill))
      (polled : socket.pollRecv second state.rxDescs pollTimeoutMs = (third, rxDescs, 0)) :
      Iterates socket pipeline state round
        ⟨third, rxDescs, compDescs, state.conn.maybeSweep round.now, pendingFill, state.stats⟩
        ⟨[], [], [], 0, [], none⟩
  | served {first second third fourth last : Socket}
      {waiting compDescs pendingFill rxDescs handled kept : List Frame} {count : Nat}
      {conn : ConnectionTable} {batch : Batch Frame}
      (refilled : refillPending socket state.xsk state.pendingFill = .ok (first, waiting))
      (drained : drainCompletions socket first state.compDescs waiting =
        .ok (second, compDescs, pendingFill))
      (polled : socket.pollRecv second state.rxDescs pollTimeoutMs = (third, rxDescs, count))
      (some : count ≠ 0) (inside : count ≤ rxDescs.length)
      (looped : frameLoop socket pipeline round (rxDescs.take count) third
        (state.conn.maybeSweep round.now) .empty = .ok (handled, fourth, conn, batch))
      (returned : returnFrames socket fourth batch pendingFill = (last, kept)) :
      Iterates socket pipeline state round
        ⟨last, handled ++ rxDescs.drop count, compDescs, conn, kept,
          (batch.stats.flush (state.stats.recordRx (UInt64.ofNat count))).recordPendingFill
            (UInt64.ofNat kept.length)⟩
        ⟨rxDescs.take count,
          (rxDescs.take count).map fun desc => (socket.frameView third desc).contents,
          batch.txBatch, (socket.transmit fourth batch.txBatch).2, batch.recycleBatch,
          (round.config.retry.bind (·.loadTracker)).map
            (·.recordBatch batch.pendingLoadInitials round.nowMs)⟩

/-- An iteration in terms of what it went through. -/
theorem workerIteration_iff {state next : WorkerState Socket Frame} {log : RoundLog Frame} :
    workerIteration socket pipeline state round = .ok (next, log) ↔
      Iterates socket pipeline state round next log := by
  constructor
  · intro done
    simp only [workerIteration, Checked.bind_eq_ok_iff] at done
    obtain ⟨⟨first, waiting⟩, refilled, ⟨second, compDescs, pendingFill⟩, drained, done⟩ := done
    rcases polled : socket.pollRecv second state.rxDescs pollTimeoutMs with ⟨third, rxDescs, count⟩
    simp only [polled] at done
    split at done
    · next idle =>
      cases done
      subst idle
      exact .idle refilled drained polled
    · next some =>
      simp only [Checked.bind_eq_ok_iff] at done
      obtain ⟨received, sliced, ⟨handled, fourth, conn, batch⟩, looped, done⟩ := done
      unfold sliceFrames at sliced
      split at sliced
      · next bounds =>
        cases sliced
        cases done
        exact .served refilled drained polled some bounds.2 looped rfl
      · cases sliced
  · intro iterates
    cases iterates with
    | idle refilled drained polled =>
      simp only [workerIteration, refilled, drained, polled, Checked.ok_bind, if_true,
        Checked.pure_eq_ok]
    | @served _ _ _ _ _ _ _ _ rxDescs _ _ count _ _ refilled drained polled some inside looped
        returned =>
      have bounds : 0 ≤ count ∧ count ≤ rxDescs.length := ⟨Nat.zero_le _, inside⟩
      simp only [workerIteration, refilled, drained, polled, Checked.ok_bind, if_neg some,
        sliceFrames, if_pos bounds, List.drop_zero, looped, returned, Checked.pure_eq_ok]

/-- The worker loop makes an iteration, then goes on. -/
theorem workerLoop_cons_iff {state next : WorkerState Socket Frame} {rest : List Round}
    {logs : List (RoundLog Frame)} :
    workerLoop socket pipeline state (round :: rest) = .ok (next, logs) ↔
      ∃ middle log tail, workerIteration socket pipeline state round = .ok (middle, log) ∧
        workerLoop socket pipeline middle rest = .ok (next, tail) ∧ logs = log :: tail := by
  constructor
  · intro done
    simp only [workerLoop, Checked.bind_eq_ok_iff] at done
    obtain ⟨⟨middle, log⟩, stepped, ⟨final, tail⟩, looped, done⟩ := done
    cases done
    exact ⟨middle, log, tail, stepped, looped, rfl⟩
  · rintro ⟨middle, log, tail, stepped, looped, rfl⟩
    simp only [workerLoop, stepped, looped, Checked.ok_bind, Checked.pure_eq_ok]

/-- A packet was logged for each frame that was received. -/
theorem workerIteration_packets {state next : WorkerState Socket Frame} {log : RoundLog Frame}
    (done : workerIteration socket pipeline state round = .ok (next, log)) :
    log.packets.length = log.received.length := by
  cases workerIteration_iff.mp done with
  | idle refilled drained polled => rfl
  | served refilled drained polled some inside looped returned => exact List.length_map _

/-- There is a log for each round, with a packet for each frame that was received in it. -/
theorem workerLoop_logs {state next : WorkerState Socket Frame} {rounds : List Round}
    {logs : List (RoundLog Frame)}
    (done : workerLoop socket pipeline state rounds = .ok (next, logs)) :
    logs.length = rounds.length ∧ ∀ log ∈ logs, log.packets.length = log.received.length := by
  induction rounds generalizing state logs with
  | nil =>
    cases done
    exact ⟨rfl, by simp⟩
  | cons round rest ih =>
    obtain ⟨middle, log, tail, stepped, looped, rfl⟩ := workerLoop_cons_iff.mp done
    obtain ⟨sameLength, packets⟩ := ih looped
    refine ⟨congrArg Nat.succ sameLength, ?_⟩
    intro entry member
    rcases List.mem_cons.mp member with rfl | later
    · exact workerIteration_packets stepped
    · exact packets entry later

end Inversion

section Moves

variable {Socket Frame Chunk : Type} {socket : AfXdpSocket Socket Frame}
  (contract : socket.Contract Chunk) {xsk after : Socket}

/-- The refill moves frames from the worker to the socket. -/
theorem refillPending_spec {pendingFill kept : List Frame}
    (done : refillPending socket xsk pendingFill = .ok (after, kept)) :
    contract.held after + contract.chunks kept =
      contract.held xsk + contract.chunks pendingFill := by
  unfold refillPending at done
  split at done
  · cases done
    rfl
  · rcases given : socket.refill xsk pendingFill with ⟨next, refilled⟩
    obtain ⟨inside, heldEq⟩ := contract.refill_spec given
    simp only [given, drainFront, if_pos inside, Checked.ok_bind, Checked.pure_eq_ok] at done
    cases done
    rw [heldEq, add_assoc]
    exact congrArg _ (contract.chunks_take_add_drop pendingFill refilled)

/-- Taking the completions moves frames from the socket to the worker. -/
theorem drainCompletions_spec {compDescs filled pendingFill kept : List Frame}
    (done : drainCompletions socket xsk compDescs pendingFill = .ok (after, filled, kept)) :
    filled.length = compDescs.length ∧ contract.held after + contract.chunks kept =
      contract.held xsk + contract.chunks pendingFill := by
  unfold drainCompletions at done
  rcases given : socket.complete xsk compDescs with ⟨next, scratch, consumed, refilled⟩
  obtain ⟨sized, back, inside, heldEq⟩ := contract.complete_spec given
  simp only [given] at done
  split at done
  · have bounds : refilled ≤ consumed ∧ consumed ≤ scratch.length := by omega
    simp only [sliceFrames, if_pos bounds, Checked.ok_bind, Checked.pure_eq_ok] at done
    cases done
    refine ⟨sized, ?_⟩
    rw [← heldEq, AfXdpSocket.Contract.chunks_append, AfXdpSocket.Contract.chunks,
      AfXdpSocket.Contract.chunks]
    abel
  · next full =>
    -- Every completion went back, so there is no orphan to keep.
    have none : (scratch.take consumed).drop refilled = [] :=
      List.drop_eq_nil_of_le (by simp; omega)
    rw [none] at heldEq
    cases done
    refine ⟨sized, ?_⟩
    rw [← heldEq]
    simp

/-- Returning a batch leaves each frame with the socket or pending. -/
theorem returnFrames_spec {batch : Batch Frame} {pendingFill kept : List Frame}
    (done : returnFrames socket xsk batch pendingFill = (after, kept)) :
    contract.held after + contract.chunks kept = contract.held xsk + contract.chunks pendingFill +
      (contract.chunks batch.txBatch + contract.chunks batch.recycleBatch) := by
  rcases sentTo : socket.transmit xsk batch.txBatch with ⟨next, sent⟩
  rcases given : socket.refill next batch.recycleBatch with ⟨last, refilled⟩
  obtain ⟨-, nextHeld⟩ := contract.transmit_spec sentTo
  obtain ⟨-, lastHeld⟩ := contract.refill_spec given
  simp only [returnFrames, sentTo, given, leftover_eq_drop] at done
  cases done
  rw [lastHeld, nextHeld, ← contract.chunks_take_add_drop batch.txBatch sent,
    ← contract.chunks_take_add_drop batch.recycleBatch refilled]
  simp only [AfXdpSocket.Contract.chunks_append]
  simp only [AfXdpSocket.Contract.chunks]
  abel

/-- A dispatched descriptor is in one batch more, and in one only. -/
theorem Batch.dispatch_cases {batch result : Batch Frame} {desc : Frame} {action : Action}
    (done : batch.dispatch desc action = .ok result) :
    (∃ stats, result = batch.send stats desc) ∨ ∃ stats, result = batch.recycle stats desc := by
  cases action with
  | emitted =>
    cases done
    exact .inl ⟨_, rfl⟩
  | verdict verdict =>
    cases verdict with
    | cidForward configId =>
      simp only [dispatch, Checked.bind_eq_ok_iff] at done
      obtain ⟨stats, -, done⟩ := done
      cases done
      exact .inl ⟨_, rfl⟩
    | cidForwardDraining configId =>
      simp only [dispatch, Checked.bind_eq_ok_iff] at done
      obtain ⟨stats, -, done⟩ := done
      cases done
      exact .inl ⟨_, rfl⟩
    | fallbackForward =>
      cases done
      exact .inl ⟨_, rfl⟩
    | icmpForward =>
      cases done
      exact .inl ⟨_, rfl⟩
    | cidUnroutableNoServer =>
      cases done
      exact .inr ⟨_, rfl⟩
    | cidUnroutableBadServerId =>
      cases done
      exact .inr ⟨_, rfl⟩
    | pass =>
      cases done
      exact .inr ⟨_, rfl⟩

/-- A frame goes to one of the two batches. -/
theorem Batch.dispatch_chunks {batch result : Batch Frame} {desc : Frame} {action : Action}
    (done : batch.dispatch desc action = .ok result) :
    contract.chunks result.txBatch + contract.chunks result.recycleBatch =
      contract.chunks batch.txBatch + contract.chunks batch.recycleBatch +
        contract.chunks [desc] := by
  rcases Batch.dispatch_cases done with ⟨stats, rfl⟩ | ⟨stats, rfl⟩
  · rw [Batch.send, AfXdpSocket.Contract.chunks_append]
    abel
  · rw [Batch.recycle, AfXdpSocket.Contract.chunks_append]
    abel

/-- The frame loop keeps what the socket holds and deals every descriptor out once. -/
theorem frameLoop_spec {pipeline : Pipeline} {round : Round} {descs handled : List Frame}
    {conn conn' : ConnectionTable} {batch batch' : Batch Frame}
    (done : frameLoop socket pipeline round descs xsk conn batch =
      .ok (handled, after, conn', batch')) :
    handled.length = descs.length ∧ contract.held after = contract.held xsk ∧
      contract.chunks batch'.txBatch + contract.chunks batch'.recycleBatch =
        contract.chunks batch.txBatch + contract.chunks batch.recycleBatch +
          contract.chunks descs := by
  induction descs generalizing xsk conn batch handled with
  | nil =>
    cases done
    exact ⟨rfl, rfl, by simp⟩
  | cons desc rest ih =>
    obtain ⟨outcome, next, written, dealt, tail, step, looped, rfl⟩ := frameLoop_cons_iff.mp done
    obtain ⟨sameChunk, sameHeld⟩ := contract.storeView_spec step.stored
    obtain ⟨sized, lastHeld, chunks⟩ := ih looped
    refine ⟨by rw [List.length_cons, List.length_cons, sized], lastHeld.trans sameHeld, ?_⟩
    have sameFrame : contract.chunks [written] = contract.chunks [desc] := by
      simp [sameChunk]
    have split : contract.chunks (desc :: rest) = contract.chunks [desc] + contract.chunks rest :=
      contract.chunks_append [desc] rest
    rw [chunks, Batch.dispatch_chunks contract step.dispatched, sameFrame, split, add_assoc]

end Moves

section Balances

variable {Socket Frame Chunk : Type} {socket : AfXdpSocket Socket Frame}
  (contract : socket.Contract Chunk) {pipeline : Pipeline} {state next : WorkerState Socket Frame}
  {round : Round} {log : RoundLog Frame} {frames : Multiset Chunk}

/-- At the loop head, the socket's frames and the pending ones are all there are. -/
structure Balanced (frames : Multiset Chunk) (state : WorkerState Socket Frame) : Prop where
  balance : contract.held state.xsk + contract.chunks state.pendingFill = frames
  rxSized : state.rxDescs.length = batchSize
  compSized : state.compDescs.length = batchSize

/-- The received frames are distinct, and each is in exactly one of the two batches. -/
structure Dealt (log : RoundLog Frame) : Prop where
  distinct : (contract.chunks log.received).Nodup
  together : contract.chunks log.txBatch + contract.chunks log.recycleBatch =
    contract.chunks log.received
  exactlyOne : ∀ desc ∈ log.received,
    Xor (contract.chunk desc ∈ contract.chunks log.txBatch)
      (contract.chunk desc ∈ contract.chunks log.recycleBatch)

/-- At the start the socket has all frames. -/
theorem balanced_start (xsk : Socket) (startedAt : Instant) :
    Balanced contract (contract.held xsk) (WorkerState.start socket xsk startedAt) where
  balance := by simp [WorkerState.start]
  rxSized := List.length_replicate
  compSized := List.length_replicate

/-- Two batches that together are what was received share no frame. -/
theorem dealt_of_together (distinct : (contract.chunks log.received).Nodup)
    (together : contract.chunks log.txBatch + contract.chunks log.recycleBatch =
      contract.chunks log.received) : Dealt contract log := by
  refine ⟨distinct, together, ?_⟩
  intro desc member
  have placed := contract.mem_chunks_of_mem member
  rw [← together] at placed distinct
  have apart := (Multiset.nodup_add.mp distinct).2.2
  rcases Multiset.mem_add.mp placed with sent | recycled
  · exact .inl ⟨sent, Multiset.disjoint_left.mp apart sent⟩
  · exact .inr ⟨recycled, fun sent => Multiset.disjoint_left.mp apart sent recycled⟩

/-- One iteration moves frames around and deals what it received out once. -/
theorem workerIteration_spec (once : frames.Nodup) (balanced : Balanced contract frames state)
    (done : workerIteration socket pipeline state round = .ok (next, log)) :
    Balanced contract frames next ∧ Dealt contract log := by
  cases workerIteration_iff.mp done with
  | idle refilled drained polled =>
    obtain ⟨compSized, drainedHeld⟩ := drainCompletions_spec contract drained
    obtain ⟨rxSized, -, polledHeld⟩ := contract.pollRecv_spec polled
    refine ⟨⟨?_, rxSized.trans balanced.rxSized, compSized.trans balanced.compSized⟩,
      dealt_of_together contract (by simp) rfl⟩
    rw [← balanced.balance, ← refillPending_spec contract refilled, ← drainedHeld, ← polledHeld]
    simp
  | @served first second third fourth last _ compDescs pendingFill rxDescs handled kept count conn
      batch refilled drained polled some inside looped returned =>
    obtain ⟨compSized, drainedHeld⟩ := drainCompletions_spec contract drained
    obtain ⟨rxSized, -, polledHeld⟩ := contract.pollRecv_spec polled
    obtain ⟨handledSized, loopedHeld, dealt⟩ := frameLoop_spec contract looped
    have balance : contract.held second + contract.chunks pendingFill = frames := by
      rw [drainedHeld, refillPending_spec contract refilled, balanced.balance]
    have together : contract.chunks batch.txBatch + contract.chunks batch.recycleBatch =
        contract.chunks (rxDescs.take count) := by
      rw [dealt]
      simp [Batch.empty]
    have received : contract.held third + contract.chunks (rxDescs.take count) =
        contract.held second := polledHeld
    refine ⟨⟨?_, ?_, compSized.trans balanced.compSized⟩, dealt_of_together contract ?_ together⟩
    · rw [returnFrames_spec contract returned, loopedHeld, together, ← balance, ← received]
      abel
    · simp only [List.length_append, List.length_drop, handledSized, List.length_take]
      have sized := balanced.rxSized
      omega
    · -- What was received is part of all the frames, which are distinct.
      have part : contract.chunks (rxDescs.take count) ≤ frames := by
        rw [← balance, ← received, add_assoc, add_left_comm]
        exact Multiset.le_add_right _ _
      exact Multiset.nodup_of_le part once

/-- Every iteration of a run. -/
theorem workerLoop_spec (once : frames.Nodup) {rounds : List Round} {logs : List (RoundLog Frame)}
    (balanced : Balanced contract frames state)
    (done : workerLoop socket pipeline state rounds = .ok (next, logs)) :
    Balanced contract frames next ∧ ∀ log ∈ logs, Dealt contract log := by
  induction rounds generalizing state logs with
  | nil =>
    cases done
    exact ⟨balanced, by simp⟩
  | cons round rest ih =>
    obtain ⟨middle, log, tail, stepped, looped, rfl⟩ := workerLoop_cons_iff.mp done
    obtain ⟨middleBalanced, dealt⟩ := workerIteration_spec contract once balanced stepped
    obtain ⟨finalBalanced, restDealt⟩ := ih middleBalanced looped
    refine ⟨finalBalanced, ?_⟩
    intro entry member
    rcases List.mem_cons.mp member with rfl | later
    · exact dealt
    · exact restDealt entry later

end Balances

section Returning

variable {Socket Frame Chunk : Type} {socket : AfXdpSocket Socket Frame}
  (contract : socket.Contract Chunk) {pipeline : Pipeline} {state : WorkerState Socket Frame}

/-- An action whose counter exists. -/
def Action.Counted : Action → Prop
  | .verdict (.cidForward configId) | .verdict (.cidForwardDraining configId) => configId.toNat < 7
  | _ => True

/-- A pipeline that does not panic and names only config ids that are in use. -/
def Pipeline.Total (pipeline : Pipeline) : Prop :=
  ∀ round view conn pending, ∃ handled,
    pipeline round view conn pending = .ok handled ∧ handled.action.Counted

/-- Dispatching an action that can be counted does not panic. -/
theorem Batch.dispatch_returns (batch : Batch Frame) (desc : Frame) {action : Action}
    (counted : action.Counted) : (batch.dispatch desc action).Returns := by
  cases action with
  | emitted => exact ⟨_, rfl⟩
  | verdict verdict =>
    cases verdict with
    | cidForward configId =>
      have inside : configId.toNat < 7 := counted
      simp [dispatch, BatchStats.recordCidForward, inside]
    | cidForwardDraining configId =>
      have inside : configId.toNat < 7 := counted
      simp [dispatch, BatchStats.recordCidForward, inside]
    | fallbackForward => exact ⟨_, rfl⟩
    | icmpForward => exact ⟨_, rfl⟩
    | cidUnroutableNoServer => exact ⟨_, rfl⟩
    | cidUnroutableBadServerId => exact ⟨_, rfl⟩
    | pass => exact ⟨_, rfl⟩

/-- The frame loop does not panic if the pipeline does not. -/
theorem frameLoop_returns (socket : AfXdpSocket Socket Frame) (total : pipeline.Total) (round : Round) (descs : List Frame)
    (xsk : Socket) (conn : ConnectionTable) (batch : Batch Frame) :
    (frameLoop socket pipeline round descs xsk conn batch).Returns := by
  induction descs generalizing xsk conn batch with
  | nil => exact ⟨_, rfl⟩
  | cons desc rest ih =>
    obtain ⟨handled, piped, counted⟩ :=
      total round (socket.frameView xsk desc) conn batch.pendingLoadInitials
    rcases stored : socket.storeView xsk desc handled.view with ⟨next, written⟩
    obtain ⟨dealt, dispatched⟩ := Batch.dispatch_returns
      { batch with
        stats := batch.stats.recordRetry handled.outcome handled.detail
        pendingLoadInitials := handled.pendingLoadInitials } written counted
    obtain ⟨⟨tail, last, lastConn, lastBatch⟩, looped⟩ := ih next handled.conn dealt
    exact ⟨_, frameLoop_cons_iff.mpr
      ⟨handled, next, written, dealt, tail, ⟨piped, stored, dispatched⟩, looped, rfl⟩⟩

include contract in
/-- Nor does the refill. -/
theorem refillPending_returns (xsk : Socket) (pendingFill : List Frame) :
    (refillPending socket xsk pendingFill).Returns := by
  unfold refillPending
  split
  · exact ⟨_, rfl⟩
  · rcases given : socket.refill xsk pendingFill with ⟨next, refilled⟩
    simp [drainFront, (contract.refill_spec given).1]

include contract in
/-- Nor does taking the completions. -/
theorem drainCompletions_returns (xsk : Socket) (compDescs pendingFill : List Frame) :
    (drainCompletions socket xsk compDescs pendingFill).Returns := by
  unfold drainCompletions
  rcases given : socket.complete xsk compDescs with ⟨next, scratch, consumed, refilled⟩
  obtain ⟨sized, back, inside, -⟩ := contract.complete_spec given
  have bounds : refilled ≤ consumed ∧ consumed ≤ scratch.length := by omega
  simp only [sliceFrames, if_pos bounds]
  split
  · exact ⟨_, rfl⟩
  · exact ⟨_, rfl⟩

include contract in
/-- Nothing but the pipeline can stop an iteration. -/
theorem workerIteration_returns (total : pipeline.Total) (round : Round) :
    (workerIteration socket pipeline state round).Returns := by
  obtain ⟨⟨first, waiting⟩, refilled⟩ :=
    refillPending_returns contract state.xsk state.pendingFill
  obtain ⟨⟨second, compDescs, pendingFill⟩, drained⟩ :=
    drainCompletions_returns contract first state.compDescs waiting
  rcases polled : socket.pollRecv second state.rxDescs pollTimeoutMs with ⟨third, rxDescs, count⟩
  obtain ⟨rxSized, inside, -⟩ := contract.pollRecv_spec polled
  by_cases idle : count = 0
  · subst idle
    exact ⟨_, workerIteration_iff.mpr (.idle refilled drained polled)⟩
  · obtain ⟨⟨handled, fourth, conn, batch⟩, looped⟩ := frameLoop_returns socket total round
      (rxDescs.take count) third (state.conn.maybeSweep round.now) .empty
    exact ⟨_, workerIteration_iff.mpr
      (.served refilled drained polled idle (by omega) looped rfl)⟩

include contract in
/-- So the worker loop returns from any number of rounds. -/
theorem workerLoop_returns (total : pipeline.Total) (rounds : List Round) :
    (workerLoop socket pipeline state rounds).Returns := by
  induction rounds generalizing state with
  | nil => exact ⟨_, rfl⟩
  | cons round rest ih =>
    obtain ⟨⟨next, log⟩, stepped⟩ : (workerIteration socket pipeline state round).Returns :=
      workerIteration_returns contract total round
    obtain ⟨⟨final, tail⟩, looped⟩ : (workerLoop socket pipeline next rest).Returns := ih
    exact ⟨_, workerLoop_cons_iff.mpr ⟨next, log, tail, stepped, looped, rfl⟩⟩

end Returning

/-- No frame is lost or duplicated: whatever the verdicts, after any number of iterations the frames
of the socket and the pending ones are those of the start, each once, and every iteration put
each frame it received into exactly one batch. -/
theorem frames_conserved {Socket Frame Chunk : Type} {socket : AfXdpSocket Socket Frame}
    (contract : socket.Contract Chunk) (pipeline : Pipeline) (xsk : Socket) (startedAt : Instant)
    (once : (contract.held xsk).Nodup) (rounds : List Round) :
    (∀ state logs, workerLoop socket pipeline (.start socket xsk startedAt) rounds =
        .ok (state, logs) →
      contract.held state.xsk + contract.chunks state.pendingFill = contract.held xsk ∧
        (contract.held state.xsk + contract.chunks state.pendingFill).Nodup ∧
        ∀ log ∈ logs, Dealt contract log) ∧
      (pipeline.Total →
        (workerLoop socket pipeline (.start socket xsk startedAt) rounds).Returns) := by
  refine ⟨?_, fun total => workerLoop_returns contract total rounds⟩
  intro state logs done
  obtain ⟨balanced, dealt⟩ :=
    workerLoop_spec contract once (balanced_start contract xsk startedAt) done
  refine ⟨balanced.balance, ?_, dealt⟩
  rw [balanced.balance]
  exact once

namespace SampleWorker

/-- A kernel that sends what it is given and receives nothing new. -/
def sendAll (xsk : AdoptedSocket) : AdoptedSocket :=
  let (comp, sent) := xsk.comp.produce (xsk.tx.entries.map XdpDesc.addr)
  { xsk with comp := comp, tx := xsk.tx.release sent }

/-- The sample's kernel loses no chunk. -/
theorem held_sendAll (xsk : AdoptedSocket) :
    (sendAll xsk).held 256 = xsk.held 256 := by
  rcases given : xsk.comp.produce (xsk.tx.entries.map XdpDesc.addr) with ⟨comp, sent⟩
  obtain ⟨-, entries⟩ := Ring.produce_spec given
  simp only [sendAll, given, AdoptedSocket.held, Ring.release]
  rw [entries, addrChunks_append, List.map_drop,
    ← addrChunks_take_add_drop 256 (xsk.tx.entries.map XdpDesc.addr) sent]
  abel

def kernel : AdoptedSocket.Kernel 256 := ⟨sendAll, fun xsk => !xsk.rx.entries.isEmpty, held_sendAll⟩

/-- Two received frames: the sample client's first Initial, and sixty zero bytes. -/
def xsk : AdoptedSocket where
  umem := SampleRetry.first.contents ++ List.replicate (512 - SampleRetry.first.len) 0
  rx := ⟨[⟨0, 84, 0⟩, ⟨256, 60, 0⟩], 2, by simp⟩
  tx := ⟨[], 2, by simp⟩
  fill := ⟨[], 2, by simp⟩
  comp := ⟨[], 2, by simp⟩
  inKernel := []
  turn := 0

/-- Neither the cipher nor the flow hash is called on these two frames. -/
def pipeline : Pipeline :=
  handleFrame SampleRetry.crypto ⟨fun _ block => block, fun _ block => block⟩ (fun _ => 0)
    SampleRetry.localMac

def rounds : List Round := List.replicate 2 ⟨0, 2000, SampleRetry.table⟩

/-- The run, if it does not panic. -/
def run : Option (WorkerState AdoptedSocket XdpDesc × List (RoundLog XdpDesc)) :=
  (workerLoop (AdoptedSocket.socket kernel) pipeline (.start (AdoptedSocket.socket kernel) xsk 0)
    rounds).toOption

/-- The sample's run does not panic. -/
theorem run_isSome : run.isSome = true := by decide +kernel

end SampleWorker

/-- The sample run returns, and both of its frames are still accounted for. -/
theorem sample_frames_conserved :
    ∃ state logs, workerLoop (AdoptedSocket.socket SampleWorker.kernel) SampleWorker.pipeline
        (.start (AdoptedSocket.socket SampleWorker.kernel) SampleWorker.xsk 0)
        SampleWorker.rounds = .ok (state, logs) ∧
      state.xsk.held 256 + (AdoptedSocket.contract SampleWorker.kernel).chunks state.pendingFill =
        ↑[0, 1] ∧
      ∀ log ∈ logs, Dealt (AdoptedSocket.contract SampleWorker.kernel) log := by
  have once : (SampleWorker.xsk.held 256).Nodup := by decide +kernel
  have all : SampleWorker.xsk.held 256 = ↑[0, 1] := by decide +kernel
  have conserved := (frames_conserved (AdoptedSocket.contract SampleWorker.kernel)
    SampleWorker.pipeline SampleWorker.xsk 0 once SampleWorker.rounds).1
  obtain ⟨⟨state, logs⟩, done⟩ := Checked.returns_of_toOption SampleWorker.run_isSome
  obtain ⟨balance, -, dealt⟩ := conserved state logs done
  exact ⟨state, logs, done, balance.trans all, dealt⟩

end Pesigitg
