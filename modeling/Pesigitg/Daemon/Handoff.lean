import Mathlib.Data.Multiset.Range
import Mathlib.Logic.Relation
import Pesigitg.Daemon.Worker

/-!
# Handing a socket over

A worker that stops hands its descriptors to the next process, and with them every frame that
is in a ring or in the kernel; a frame that waits in `pendingFill` is lost. Nothing on the way
out flushes that list. It is empty all along: there are no more frames than ring slots, each
frame is in one place, and so a ring always has room for the frames that are not in it.

`Roomy` is what a socket promises about room, and `recording` is a socket that writes down what
its rings were given and what they took.
-/

namespace Pesigitg

open Base

section Room

variable {Socket Frame Chunk : Type} {socket : AfXdpSocket Socket Frame}

/-- A socket whose rings take everything as long as there are at most `capacity` frames. -/
structure AfXdpSocket.Contract.Roomy (contract : socket.Contract Chunk) (capacity : Nat) where
  /-- What every call keeps true of the socket. -/
  ready : Socket → Prop
  pollRecv_ready : ∀ {xsk after descs filled timeout count}, ready xsk →
    socket.pollRecv xsk descs timeout = (after, filled, count) → ready after
  storeView_ready : ∀ {xsk after desc stored view}, ready xsk →
    socket.storeView xsk desc view = (after, stored) → ready after
  transmit_whole : ∀ {xsk after descs count}, ready xsk →
    (contract.held xsk).card + descs.length ≤ capacity →
    socket.transmit xsk descs = (after, count) → ready after ∧ count = descs.length
  refill_whole : ∀ {xsk after descs count}, ready xsk →
    (contract.held xsk).card + descs.length ≤ capacity →
    socket.refill xsk descs = (after, count) → ready after ∧ count = descs.length
  complete_whole : ∀ {xsk after scratch filled consumed refilled}, ready xsk →
    (contract.held xsk).card ≤ capacity →
    socket.complete xsk scratch = (after, filled, consumed, refilled) →
    ready after ∧ refilled = consumed

variable {contract : socket.Contract Chunk} {capacity : Nat} (roomy : contract.Roomy capacity)
  {pipeline : Pipeline} {xsk after : Socket}

/-- Every frame has a chunk. -/
@[simp] theorem AfXdpSocket.Contract.card_chunks (contract : socket.Contract Chunk)
    (frames : List Frame) : (contract.chunks frames).card = frames.length := by
  simp [AfXdpSocket.Contract.chunks]

/-- The frame loop keeps the socket ready. -/
theorem frameLoop_ready {round : Round} {descs handled : List Frame}
    {conn conn' : ConnectionTable} {batch batch' : Batch Frame} (ready : roomy.ready xsk)
    (done : frameLoop socket pipeline round descs xsk conn batch =
      .ok (handled, after, conn', batch')) : roomy.ready after := by
  induction descs generalizing xsk conn batch handled with
  | nil =>
    cases done
    exact ready
  | cons desc rest ih =>
    obtain ⟨outcome, next, written, dealt, tail, step, looped, rfl⟩ := frameLoop_cons_iff.mp done
    exact ih (roomy.storeView_ready ready step.stored) looped

/-- A batch goes back whole when there is room for all frames. -/
theorem returnFrames_whole {batch : Batch Frame} {kept : List Frame} (ready : roomy.ready xsk)
    (room : (contract.held xsk).card + (batch.txBatch.length + batch.recycleBatch.length) ≤
      capacity)
    (done : returnFrames socket xsk batch [] = (after, kept)) : roomy.ready after ∧ kept = [] := by
  rcases sentTo : socket.transmit xsk batch.txBatch with ⟨next, sent⟩
  rcases given : socket.refill next batch.recycleBatch with ⟨last, refilled⟩
  obtain ⟨nextReady, rfl⟩ := roomy.transmit_whole ready (by omega) sentTo
  obtain ⟨-, nextHeld⟩ := contract.transmit_spec sentTo
  have counted := congrArg Multiset.card nextHeld
  simp only [Multiset.card_add, Multiset.coe_card, List.length_map, List.length_take,
    Nat.min_self] at counted
  obtain ⟨lastReady, rfl⟩ := roomy.refill_whole nextReady (by omega) given
  simp only [returnFrames, sentTo, given, leftover_eq_drop, List.drop_length, List.append_nil]
    at done
  cases done
  exact ⟨lastReady, rfl⟩

/-- The worker at the loop head, with nothing pending. -/
structure Settled (state : WorkerState Socket Frame) : Prop where
  ready : roomy.ready state.xsk
  nothingPending : state.pendingFill = []

variable {state next : WorkerState Socket Frame} {round : Round} {log : RoundLog Frame}
  {frames : Multiset Chunk}

/-- With nothing pending there is nothing to refill. -/
theorem refillPending_nil {waiting : List Frame}
    (done : refillPending socket xsk [] = .ok (after, waiting)) : after = xsk ∧ waiting = [] := by
  cases done
  exact ⟨rfl, rfl⟩

/-- Every completion is refilled at once. -/
theorem drainCompletions_whole {compDescs filled kept : List Frame} (ready : roomy.ready xsk)
    (room : (contract.held xsk).card ≤ capacity)
    (done : drainCompletions socket xsk compDescs [] = .ok (after, filled, kept)) :
    roomy.ready after ∧ kept = [] ∧ contract.held after = contract.held xsk := by
  obtain ⟨-, sameHeld⟩ := drainCompletions_spec contract done
  unfold drainCompletions at done
  rcases given : socket.complete xsk compDescs with ⟨last, scratch, consumed, refilled⟩
  obtain ⟨lastReady, rfl⟩ := roomy.complete_whole ready room given
  simp only [given, lt_self_iff_false, if_false, Checked.pure_eq_ok] at done
  cases done
  exact ⟨lastReady, rfl, by simpa using sameHeld⟩

/-- An iteration leaves nothing pending. -/
theorem workerIteration_settled (few : frames.card ≤ capacity)
    (balanced : Balanced contract frames state) (settled : Settled roomy state)
    (done : workerIteration socket pipeline state round = .ok (next, log)) :
    Settled roomy next := by
  have allHeld : contract.held state.xsk = frames := by
    have balance := balanced.balance
    rwa [settled.nothingPending, AfXdpSocket.Contract.chunks_nil, add_zero] at balance
  have fits : (contract.held state.xsk).card ≤ capacity := by rwa [allHeld]
  cases workerIteration_iff.mp done with
  | idle refilled drained polled =>
    rw [settled.nothingPending] at refilled
    obtain ⟨rfl, rfl⟩ := refillPending_nil refilled
    obtain ⟨secondReady, rfl, -⟩ := drainCompletions_whole roomy settled.ready fits drained
    exact ⟨roomy.pollRecv_ready secondReady polled, rfl⟩
  | served refilled drained polled some inside looped returned =>
    rw [settled.nothingPending] at refilled
    obtain ⟨rfl, rfl⟩ := refillPending_nil refilled
    obtain ⟨secondReady, rfl, drainedHeld⟩ :=
      drainCompletions_whole roomy settled.ready fits drained
    obtain ⟨-, -, polledHeld⟩ := contract.pollRecv_spec polled
    obtain ⟨-, loopedHeld, dealt⟩ := frameLoop_spec contract looped
    have fourthReady := frameLoop_ready roomy (roomy.pollRecv_ready secondReady polled) looped
    -- The batch holds exactly the frames that the poll took out of the socket.
    have received := congrArg Multiset.card dealt
    have all := congrArg Multiset.card polledHeld
    rw [drainedHeld] at all
    simp only [Multiset.card_add, AfXdpSocket.Contract.card_chunks, Batch.empty,
      List.length_nil, Multiset.coe_card, List.length_map] at received all
    obtain ⟨lastReady, rfl⟩ :=
      returnFrames_whole roomy fourthReady (by rw [loopedHeld]; omega) returned
    exact ⟨lastReady, rfl⟩

/-- Nothing is pending at any loop head. -/
theorem workerLoop_settled (once : frames.Nodup) (few : frames.card ≤ capacity)
    {rounds : List Round} {logs : List (RoundLog Frame)} (balanced : Balanced contract frames state)
    (settled : Settled roomy state)
    (done : workerLoop socket pipeline state rounds = .ok (next, logs)) : Settled roomy next := by
  induction rounds generalizing state logs with
  | nil =>
    cases done
    exact settled
  | cons round rest ih =>
    obtain ⟨middle, log, tail, stepped, looped, rfl⟩ := workerLoop_cons_iff.mp done
    exact ih (workerIteration_spec contract once balanced stepped).1
      (workerIteration_settled roomy few balanced settled stepped) looped

end Room

/-- One call of `Ring::produce`: how many entries it was given and how many it enqueued. -/
structure Produced where
  given : Nat
  accepted : Nat
deriving DecidableEq, Repr

/-- A socket with a record of what its rings were given. -/
structure Recorded (Socket : Type) where
  socket : Socket
  produced : List Produced

section Recording

variable {Socket Frame Chunk : Type}

/-- The same socket, recording every call that produces into the fill or the transmit ring. -/
def AfXdpSocket.recording (socket : AfXdpSocket Socket Frame) :
    AfXdpSocket (Recorded Socket) Frame where
  zeroFrame := socket.zeroFrame
  pollRecv xsk descs timeout :=
    let (next, filled, count) := socket.pollRecv xsk.socket descs timeout
    (⟨next, xsk.produced⟩, filled, count)
  frameView xsk := socket.frameView xsk.socket
  storeView xsk desc view :=
    let (next, stored) := socket.storeView xsk.socket desc view
    (⟨next, xsk.produced⟩, stored)
  transmit xsk descs :=
    let (next, count) := socket.transmit xsk.socket descs
    (⟨next, xsk.produced ++ [⟨descs.length, count⟩]⟩, count)
  refill xsk descs :=
    let (next, count) := socket.refill xsk.socket descs
    (⟨next, xsk.produced ++ [⟨descs.length, count⟩]⟩, count)
  complete xsk scratch :=
    let (next, filled, consumed, refilled) := socket.complete xsk.socket scratch
    -- Without a completion nothing is produced.
    (⟨next, xsk.produced ++ if 0 < consumed then [⟨consumed, refilled⟩] else []⟩, filled, consumed,
      refilled)

variable {socket : AfXdpSocket Socket Frame} (contract : socket.Contract Chunk)

/-- Recording moves no frame. -/
def AfXdpSocket.Contract.recording : socket.recording.Contract Chunk where
  chunk := contract.chunk
  held xsk := contract.held xsk.socket
  pollRecv_spec done := by
    cases done
    exact contract.pollRecv_spec rfl
  storeView_spec done := by
    cases done
    exact contract.storeView_spec rfl
  transmit_spec done := by
    cases done
    exact contract.transmit_spec rfl
  refill_spec done := by
    cases done
    exact contract.refill_spec rfl
  complete_spec done := by
    cases done
    exact contract.complete_spec rfl

/-- Every recorded call enqueued its whole input. -/
def Recorded.Whole (xsk : Recorded Socket) : Prop :=
  ∀ call ∈ xsk.produced, call.accepted = call.given

/-- Calls that were accepted in full keep the record whole. -/
theorem Recorded.Whole.append {xsk : Recorded Socket} {next : Socket} {calls : List Produced}
    (whole : xsk.Whole) (more : ∀ call ∈ calls, call.accepted = call.given) :
    Recorded.Whole ⟨next, xsk.produced ++ calls⟩ := by
  intro call member
  rcases List.mem_append.mp member with earlier | last
  · exact whole call earlier
  · exact more call last

variable {contract} {capacity : Nat}

/-- A socket with room for everything records whole calls only. -/
def AfXdpSocket.Contract.Roomy.recording (roomy : contract.Roomy capacity) :
    contract.recording.Roomy capacity where
  ready xsk := roomy.ready xsk.socket ∧ xsk.Whole
  pollRecv_ready := by
    rintro xsk after descs filled timeout count ⟨ready, whole⟩ done
    cases done
    exact ⟨roomy.pollRecv_ready ready rfl, whole⟩
  storeView_ready := by
    rintro xsk after desc stored view ⟨ready, whole⟩ done
    cases done
    exact ⟨roomy.storeView_ready ready rfl, whole⟩
  transmit_whole := by
    rintro xsk after descs count ⟨ready, whole⟩ room done
    cases done
    obtain ⟨next, all⟩ := roomy.transmit_whole ready room rfl
    refine ⟨⟨next, whole.append ?_⟩, all⟩
    intro call last
    rw [List.mem_singleton.mp last]
    exact all
  refill_whole := by
    rintro xsk after descs count ⟨ready, whole⟩ room done
    cases done
    obtain ⟨next, all⟩ := roomy.refill_whole ready room rfl
    refine ⟨⟨next, whole.append ?_⟩, all⟩
    intro call last
    rw [List.mem_singleton.mp last]
    exact all
  complete_whole := by
    rintro xsk after scratch filled consumed refilled ⟨ready, whole⟩ room done
    cases done
    obtain ⟨next, all⟩ := roomy.complete_whole ready room rfl
    refine ⟨⟨next, whole.append ?_⟩, all⟩
    intro call last
    split at last
    · rw [List.mem_singleton.mp last]
      exact all
    · cases last

end Recording

section Erasure

variable {Socket Frame : Type} {socket : AfXdpSocket Socket Frame} {pipeline : Pipeline}

/-- The worker without the record. -/
def WorkerState.erase (state : WorkerState (Recorded Socket) Frame) : WorkerState Socket Frame :=
  ⟨state.xsk.socket, state.rxDescs, state.compDescs, state.conn, state.pendingFill, state.stats⟩

variable {xsk : Recorded Socket} {after : Socket}

/-- Recording changes nothing about the refill. -/
theorem refillPending_recording {pendingFill kept : List Frame}
    (done : refillPending socket xsk.socket pendingFill = .ok (after, kept)) :
    ∃ next, refillPending socket.recording xsk pendingFill = .ok (next, kept) ∧
      next.socket = after := by
  unfold refillPending at done ⊢
  split at done
  · next empty =>
    cases done
    exact ⟨xsk, by rw [if_pos empty]; rfl, rfl⟩
  · next some =>
    rw [if_neg some]
    rcases given : socket.refill xsk.socket pendingFill with ⟨next, refilled⟩
    simp only [given, Checked.bind_eq_ok_iff] at done
    obtain ⟨drained, drain, done⟩ := done
    cases done
    simp only [AfXdpSocket.recording, given, drain, Checked.ok_bind, Checked.pure_eq_ok]
    exact ⟨_, rfl, rfl⟩

/-- Nor about the completions. -/
theorem drainCompletions_recording {compDescs filled pendingFill kept : List Frame}
    (done : drainCompletions socket xsk.socket compDescs pendingFill = .ok (after, filled, kept)) :
    ∃ next, drainCompletions socket.recording xsk compDescs pendingFill = .ok (next, filled, kept) ∧
      next.socket = after := by
  unfold drainCompletions at done ⊢
  rcases given : socket.complete xsk.socket compDescs with ⟨next, scratch, consumed, refilled⟩
  simp only [given] at done
  simp only [AfXdpSocket.recording, given]
  split at done
  · next short =>
    rw [Checked.bind_eq_ok_iff] at done
    obtain ⟨orphans, cut, done⟩ := done
    cases done
    simp only [short, if_true, cut, Checked.ok_bind, Checked.pure_eq_ok]
    exact ⟨_, rfl, rfl⟩
  · next all =>
    cases done
    simp only [all, if_false, Checked.pure_eq_ok]
    exact ⟨_, rfl, rfl⟩

/-- Nor about receiving. -/
theorem pollRecv_recording {descs filled : List Frame} {timeout : Int} {count : Nat}
    (done : socket.pollRecv xsk.socket descs timeout = (after, filled, count)) :
    ∃ next, socket.recording.pollRecv xsk descs timeout = (next, filled, count) ∧
      next.socket = after := by
  simp only [AfXdpSocket.recording, done]
  exact ⟨_, rfl, rfl⟩

/-- Nor about the frame loop. -/
theorem frameLoop_recording {round : Round} {descs handled : List Frame}
    {conn conn' : ConnectionTable} {batch batch' : Batch Frame}
    (done : frameLoop socket pipeline round descs xsk.socket conn batch =
      .ok (handled, after, conn', batch')) :
    ∃ next, frameLoop socket.recording pipeline round descs xsk conn batch =
      .ok (handled, next, conn', batch') ∧ next.socket = after := by
  induction descs generalizing xsk conn batch handled with
  | nil =>
    cases done
    exact ⟨xsk, rfl, rfl⟩
  | cons desc rest ih =>
    obtain ⟨outcome, next, written, dealt, tail, ⟨piped, stored, dispatched⟩, looped, rfl⟩ :=
      frameLoop_cons_iff.mp done
    obtain ⟨final, again, same⟩ : ∃ final, frameLoop socket.recording pipeline round rest
        ⟨next, xsk.produced⟩ outcome.conn dealt = .ok (tail, final, conn', batch') ∧
          final.socket = after := ih looped
    have kept : socket.recording.storeView xsk desc outcome.view =
        (⟨next, xsk.produced⟩, written) := by
      simp only [AfXdpSocket.recording, stored]
    exact ⟨final, frameLoop_cons_iff.mpr
      ⟨outcome, _, written, dealt, tail, ⟨piped, kept, dispatched⟩, again, rfl⟩, same⟩

/-- Nor about returning the frames. -/
theorem returnFrames_recording {batch : Batch Frame} {pendingFill kept : List Frame}
    (done : returnFrames socket xsk.socket batch pendingFill = (after, kept)) :
    ∃ next, returnFrames socket.recording xsk batch pendingFill = (next, kept) ∧
      next.socket = after := by
  cases done
  exact ⟨_, rfl, rfl⟩

variable {state : WorkerState (Recorded Socket) Frame} {plain : WorkerState Socket Frame}

/-- So an iteration on the recording socket is one on the plain socket. -/
theorem workerIteration_recording {round : Round} {log : RoundLog Frame}
    (done : workerIteration socket pipeline state.erase round = .ok (plain, log)) :
    ∃ next, workerIteration socket.recording pipeline state round = .ok (next, log) ∧
      next.erase = plain := by
  cases workerIteration_iff.mp done with
  | idle refilled drained polled =>
    obtain ⟨first', refilled', rfl⟩ := refillPending_recording refilled
    obtain ⟨second', drained', rfl⟩ := drainCompletions_recording drained
    obtain ⟨third', polled', rfl⟩ := pollRecv_recording polled
    exact ⟨_, workerIteration_iff.mpr (.idle refilled' drained' polled'), rfl⟩
  | served refilled drained polled some inside looped returned =>
    obtain ⟨first', refilled', rfl⟩ := refillPending_recording refilled
    obtain ⟨second', drained', rfl⟩ := drainCompletions_recording drained
    obtain ⟨third', polled', rfl⟩ := pollRecv_recording polled
    obtain ⟨fourth', looped', rfl⟩ := frameLoop_recording looped
    obtain ⟨last', returned', rfl⟩ := returnFrames_recording returned
    exact ⟨_, workerIteration_iff.mpr
      (.served refilled' drained' polled' some inside looped' returned'), rfl⟩

/-- Every run can be recorded. -/
theorem workerLoop_recording {rounds : List Round} {logs : List (RoundLog Frame)}
    (done : workerLoop socket pipeline state.erase rounds = .ok (plain, logs)) :
    ∃ next, workerLoop socket.recording pipeline state rounds = .ok (next, logs) ∧
      next.erase = plain := by
  induction rounds generalizing state logs with
  | nil =>
    cases done
    exact ⟨state, rfl, rfl⟩
  | cons round rest ih =>
    obtain ⟨middle, log, tail, stepped, looped, rfl⟩ := workerLoop_cons_iff.mp done
    obtain ⟨middle', stepped', rfl⟩ := workerIteration_recording stepped
    obtain ⟨final', looped', rfl⟩ := ih looped
    exact ⟨final', workerLoop_cons_iff.mpr ⟨middle', log, tail, stepped', looped', rfl⟩, rfl⟩

end Erasure

namespace AdoptedSocket

variable {chunkSize frameCount : Nat}

/-- One move of the kernel: it takes the oldest entry of the fill or the transmit ring, or gives
a frame it has taken back through the receive or the completion ring. -/
inductive KernelStep (chunkSize : Nat) (xsk : AdoptedSocket) : AdoptedSocket → Prop where
  | takeFill {addr : UInt64} {rest : List UInt64} (oldest : xsk.fill.entries = addr :: rest) :
      KernelStep chunkSize xsk
        { xsk with fill := xsk.fill.release 1, inKernel := xsk.inKernel ++ [addr] }
  | receive {addr : UInt64} {before later : List UInt64} {desc : XdpDesc} (umem : Bytes)
      (taken : xsk.inKernel = before ++ addr :: later)
      (same : descChunk chunkSize desc = addr.toNat / chunkSize)
      (room : xsk.rx.entries.length < xsk.rx.size) :
      KernelStep chunkSize xsk
        { xsk with
          umem := umem, rx := (xsk.rx.produce [desc]).1, inKernel := before ++ later }
  | takeTx {desc : XdpDesc} {rest : List XdpDesc} (oldest : xsk.tx.entries = desc :: rest) :
      KernelStep chunkSize xsk
        { xsk with tx := xsk.tx.release 1, inKernel := xsk.inKernel ++ [desc.addr] }
  | complete {addr back : UInt64} {before later : List UInt64}
      (taken : xsk.inKernel = before ++ addr :: later)
      (same : back.toNat / chunkSize = addr.toNat / chunkSize)
      (room : xsk.comp.entries.length < xsk.comp.size) :
      KernelStep chunkSize xsk
        { xsk with comp := (xsk.comp.produce [back]).1, inKernel := before ++ later }

/-- What the kernel does between two calls of the worker. -/
def KernelMoves (chunkSize : Nat) : AdoptedSocket → AdoptedSocket → Prop :=
  Relation.ReflTransGen (KernelStep chunkSize)

/-- All four rings have `frameCount` slots. -/
structure Sized (frameCount : Nat) (xsk : AdoptedSocket) : Prop where
  rx : xsk.rx.size = frameCount
  tx : xsk.tx.size = frameCount
  fill : xsk.fill.size = frameCount
  comp : xsk.comp.size = frameCount

section Moves

variable {xsk after : AdoptedSocket}

/-- A move of the kernel keeps the rings' sizes. -/
theorem KernelStep.sized (step : KernelStep chunkSize xsk after) (sized : xsk.Sized frameCount) :
    after.Sized frameCount := by
  cases step <;> exact ⟨sized.rx, sized.tx, sized.fill, sized.comp⟩

/-- So does any number of them. -/
theorem KernelMoves.sized (moves : KernelMoves chunkSize xsk after)
    (sized : xsk.Sized frameCount) : after.Sized frameCount := by
  induction moves with
  | refl => exact sized
  | tail _ step kept => exact step.sized kept

/-- The chunks of addresses, the first one split off. -/
theorem addrChunks_cons (addr : UInt64) (addrs : List UInt64) :
    addrChunks chunkSize (addr :: addrs) =
      addrChunks chunkSize [addr] + addrChunks chunkSize addrs :=
  addrChunks_append chunkSize [addr] addrs

/-- Two addresses in one chunk. -/
theorem addrChunks_congr {left right : UInt64}
    (same : left.toNat / chunkSize = right.toNat / chunkSize) :
    addrChunks chunkSize [left] = addrChunks chunkSize [right] := by
  simp [addrChunks, same]

/-- The kernel loses and duplicates no frame. -/
theorem KernelStep.held (step : KernelStep chunkSize xsk after) :
    after.held chunkSize = xsk.held chunkSize := by
  cases step with
  | @takeFill addr rest oldest =>
    simp only [AdoptedSocket.held, Ring.release, oldest, List.drop_succ_cons, List.drop_zero,
      addrChunks_append]
    rw [addrChunks_cons addr rest]
    abel
  | @receive addr before later desc umem taken same room =>
    obtain ⟨entries, -⟩ := xsk.rx.produce_whole [desc] room
    simp only [AdoptedSocket.held, entries, taken, List.map_append, List.map_cons, List.map_nil,
      addrChunks_append]
    rw [addrChunks_cons addr later, addrChunks_congr same]
    abel
  | @takeTx desc rest oldest =>
    simp only [AdoptedSocket.held, Ring.release, oldest, List.drop_succ_cons, List.drop_zero,
      List.map_cons, addrChunks_append]
    rw [addrChunks_cons desc.addr (rest.map XdpDesc.addr)]
    abel
  | @complete addr back before later taken same room =>
    obtain ⟨entries, -⟩ := xsk.comp.produce_whole [back] room
    simp only [AdoptedSocket.held, entries, taken, addrChunks_append]
    rw [addrChunks_cons addr later, addrChunks_congr same]
    abel

/-- The kernel's moves neither lose nor add a chunk. -/
theorem KernelMoves.held (moves : KernelMoves chunkSize xsk after) :
    after.held chunkSize = xsk.held chunkSize := by
  induction moves with
  | refl => rfl
  | tail _ step kept => rw [step.held, kept]

end Moves

/-- A kernel that only moves frames, each once. -/
def Kernel.OnlyMoves (kernel : Kernel chunkSize) : Prop :=
  ∀ xsk, KernelMoves chunkSize xsk (kernel.run xsk)

section Rooms

variable {kernel : Kernel chunkSize} {xsk : AdoptedSocket}

/-- Letting the kernel act keeps the rings' sizes. -/
theorem advance_sized (moves : kernel.OnlyMoves) (sized : xsk.Sized frameCount) :
    (xsk.advance kernel).Sized frameCount := by
  obtain ⟨rx, tx, fill, comp⟩ := (moves xsk).sized sized
  exact ⟨rx, tx, fill, comp⟩

/-- Every address has a chunk. -/
theorem card_addrChunks (addrs : List UInt64) :
    (addrChunks chunkSize addrs).card = addrs.length := by
  simp [addrChunks]

/-- Each ring holds part of the frames. -/
theorem ring_lengths_le (chunkSize : Nat) (xsk : AdoptedSocket) :
    xsk.tx.entries.length + xsk.fill.entries.length + xsk.comp.entries.length ≤
      (xsk.held chunkSize).card := by
  simp only [held, Multiset.card_add, card_addrChunks, List.length_map]
  omega

/-- The frames of a socket that the kernel has run on. -/
theorem ring_lengths_advance_le (kernel : Kernel chunkSize) (xsk : AdoptedSocket) :
    (xsk.advance kernel).tx.entries.length + (xsk.advance kernel).fill.entries.length +
      (xsk.advance kernel).comp.entries.length ≤ (xsk.held chunkSize).card := by
  rw [← held_advance kernel xsk]
  exact ring_lengths_le chunkSize _

/-- With room for all frames, all of a batch is accepted. -/
theorem transmit_whole (moves : kernel.OnlyMoves) {descs : List XdpDesc} {after : AdoptedSocket}
    {count : Nat} (sized : xsk.Sized frameCount)
    (room : (xsk.held chunkSize).card + descs.length ≤ frameCount)
    (done : transmit kernel xsk descs = (after, count)) :
    after.Sized frameCount ∧ count = descs.length := by
  obtain ⟨rx, tx, fill, comp⟩ := advance_sized moves sized
  have lengths := ring_lengths_advance_le kernel xsk
  obtain ⟨-, whole⟩ := (xsk.advance kernel).tx.produce_whole descs (by omega)
  cases done
  exact ⟨⟨rx, tx, fill, comp⟩, whole⟩

/-- With room for all frames, all of a refill is accepted. -/
theorem refillDescs_whole (moves : kernel.OnlyMoves) {descs : List XdpDesc}
    {after : AdoptedSocket} {count : Nat} (sized : xsk.Sized frameCount)
    (room : (xsk.held chunkSize).card + descs.length ≤ frameCount)
    (done : refillDescs kernel xsk descs = (after, count)) :
    after.Sized frameCount ∧ count = descs.length := by
  obtain ⟨rx, tx, fill, comp⟩ := advance_sized moves sized
  have lengths := ring_lengths_advance_le kernel xsk
  obtain ⟨-, whole⟩ := (xsk.advance kernel).fill.produce_whole (descs.map XdpDesc.addr)
    (by rw [List.length_map]; omega)
  rw [List.length_map] at whole
  cases done
  exact ⟨⟨rx, tx, fill, comp⟩, whole⟩

/-- The completed frames leave one ring for another, so there is room for them. -/
theorem completeDescs_whole (moves : kernel.OnlyMoves) {scratch filled : List XdpDesc}
    {after : AdoptedSocket} {consumed refilled : Nat} (sized : xsk.Sized frameCount)
    (room : (xsk.held chunkSize).card ≤ frameCount)
    (done : completeDescs kernel xsk scratch = (after, filled, consumed, refilled)) :
    after.Sized frameCount ∧ refilled = consumed := by
  obtain ⟨rx, tx, fill, comp⟩ := advance_sized moves sized
  have lengths := ring_lengths_advance_le kernel xsk
  rcases taken : (xsk.advance kernel).comp.consume (List.replicate scratch.length 0) with
    ⟨ring, addrs, number⟩
  obtain ⟨filledSized, inside, entries⟩ := Ring.consume_spec taken
  have ringSize : ring.size = frameCount := by
    cases taken
    exact comp
  have width : (addrs.take number).length = number := by
    rw [List.length_take]
    omega
  have consumedFew : number ≤ (xsk.advance kernel).comp.entries.length := by
    rw [entries, List.length_append, width]
    omega
  simp only [completeDescs, taken] at done
  split at done
  · obtain ⟨-, whole⟩ := (xsk.advance kernel).fill.produce_whole (addrs.take number) (by omega)
    rw [width] at whole
    cases done
    exact ⟨⟨rx, tx, fill, ringSize⟩, whole⟩
  · next nothing =>
    cases done
    exact ⟨⟨rx, tx, fill, ringSize⟩, by omega⟩

/-- With as many slots as frames, the raw socket has room for every frame. -/
def roomy (moves : kernel.OnlyMoves) (frameCount : Nat) :
    (contract kernel).Roomy frameCount where
  ready := Sized frameCount
  pollRecv_ready := by
    intro xsk after descs filled timeout count sized done
    obtain ⟨rx, tx, fill, comp⟩ := advance_sized moves sized
    simp only [socket, pollRecv] at done
    split at done <;> cases done <;> exact ⟨rx, tx, fill, comp⟩
  storeView_ready := by
    intro xsk after desc stored view sized done
    cases done
    exact ⟨sized.rx, sized.tx, sized.fill, sized.comp⟩
  transmit_whole := transmit_whole moves
  refill_whole := refillDescs_whole moves
  complete_whole := completeDescs_whole moves

end Rooms

end AdoptedSocket

/-- Distinct frames below a bound are at most that many. -/
theorem card_le_of_nodup {frames : Multiset Nat} {frameCount : Nat} (once : frames.Nodup)
    (inside : ∀ frame ∈ frames, frame < frameCount) : frames.card ≤ frameCount := by
  have part : frames ≤ Multiset.range frameCount := by
    rw [Multiset.le_iff_subset once]
    intro frame member
    exact Multiset.mem_range.mpr (inside frame member)
  simpa using Multiset.card_le_card part

/-- No frame is stranded: with as many slots in each ring as there are frames, every produce of
every run enqueues its whole input, nothing is pending at any loop head, and when the worker stops
the rings and the kernel hold all the frames they held at the start. -/
theorem no_frame_stranded {chunkSize frameCount : Nat} {kernel : AdoptedSocket.Kernel chunkSize}
    (moves : kernel.OnlyMoves) (pipeline : Pipeline) {xsk : AdoptedSocket}
    (sized : xsk.Sized frameCount) (once : (xsk.held chunkSize).Nodup)
    (inside : ∀ frame ∈ xsk.held chunkSize, frame < frameCount) (startedAt : Instant)
    (rounds : List Round) :
    (∀ state logs,
      workerLoop (AdoptedSocket.socket kernel) pipeline
          (.start (AdoptedSocket.socket kernel) xsk startedAt) rounds = .ok (state, logs) →
      state.pendingFill = [] ∧ state.xsk.held chunkSize = xsk.held chunkSize ∧
        ∃ recorded, workerLoop (AdoptedSocket.socket kernel).recording pipeline
            (.start (AdoptedSocket.socket kernel).recording ⟨xsk, []⟩ startedAt) rounds =
              .ok (recorded, logs) ∧
          recorded.erase = state ∧
          ∀ call ∈ recorded.xsk.produced, call.accepted = call.given) ∧
      (pipeline.Total → (workerLoop (AdoptedSocket.socket kernel) pipeline
        (.start (AdoptedSocket.socket kernel) xsk startedAt) rounds).Returns) := by
  refine ⟨?_, fun total => workerLoop_returns (AdoptedSocket.contract kernel) total rounds⟩
  intro state logs done
  have few := card_le_of_nodup once inside
  have begun : (WorkerState.start (AdoptedSocket.socket kernel).recording ⟨xsk, []⟩
      startedAt).erase = .start (AdoptedSocket.socket kernel) xsk startedAt := rfl
  rw [← begun] at done
  obtain ⟨recorded, recording, rfl⟩ := workerLoop_recording done
  have balanced := balanced_start (AdoptedSocket.contract kernel).recording ⟨xsk, []⟩ startedAt
  have settled : Settled (AdoptedSocket.roomy moves frameCount).recording
      (.start (AdoptedSocket.socket kernel).recording ⟨xsk, []⟩ startedAt) :=
    ⟨⟨sized, fun call member => by cases member⟩, rfl⟩
  obtain ⟨⟨-, whole⟩, nothingPending⟩ := workerLoop_settled _ once few balanced settled recording
  obtain ⟨⟨balance, -, -⟩, -⟩ :=
    workerLoop_spec (AdoptedSocket.contract kernel).recording once balanced recording
  refine ⟨nothingPending, ?_, recorded, recording, rfl, whole⟩
  rw [nothingPending, AfXdpSocket.Contract.chunks_nil, add_zero] at balance
  exact balance

namespace SampleHandoff

open AdoptedSocket

/-- A kernel that sends the oldest frame it was given, if it can report it. -/
def sendOne (xsk : AdoptedSocket) : AdoptedSocket :=
  match xsk.tx.entries with
  | [] => xsk
  | desc :: _ =>
    if xsk.comp.entries.length < xsk.comp.size then
      { xsk with tx := xsk.tx.release 1, comp := (xsk.comp.produce [desc.addr]).1 }
    else xsk

/-- The sample's kernel makes moves of a kernel. -/
theorem sendOne_moves (xsk : AdoptedSocket) : KernelMoves 256 xsk (sendOne xsk) := by
  unfold sendOne
  cases oldest : xsk.tx.entries with
  | nil => exact .refl
  | cons desc rest =>
    simp only
    split
    · next room =>
      have taken : KernelStep 256 xsk
          { xsk with tx := xsk.tx.release 1, inKernel := xsk.inKernel ++ [desc.addr] } :=
        .takeTx oldest
      have reported : KernelStep 256
          { xsk with tx := xsk.tx.release 1, inKernel := xsk.inKernel ++ [desc.addr] }
          { xsk with
            tx := xsk.tx.release 1, comp := (xsk.comp.produce [desc.addr]).1,
            inKernel := xsk.inKernel ++ [] } := .complete rfl rfl room
      rw [List.append_nil] at reported
      exact (Relation.ReflTransGen.single taken).tail reported
    · exact .refl

def kernel : Kernel 256 :=
  ⟨sendOne, fun xsk => !xsk.rx.entries.isEmpty, fun xsk => (sendOne_moves xsk).held⟩

def rounds : List Round := List.replicate 3 ⟨0, 2000, SampleRetry.table⟩

/-- The two frames of the sample worker, whose rings have two slots each. -/
def run : Option (WorkerState AdoptedSocket XdpDesc × List (RoundLog XdpDesc)) :=
  (workerLoop (socket kernel) SampleWorker.pipeline (.start (socket kernel) SampleWorker.xsk 0)
    rounds).toOption

/-- The sample's run does not panic. -/
theorem run_isSome : run.isSome = true := by decide +kernel

end SampleHandoff

open SampleHandoff in
/-- One of the sample's frames is sent and completed, the other recycled, and both are handed
over. -/
theorem sample_no_frame_stranded :
    ∃ state logs, workerLoop (AdoptedSocket.socket kernel) SampleWorker.pipeline
        (.start (AdoptedSocket.socket kernel) SampleWorker.xsk 0) rounds = .ok (state, logs) ∧
      state.pendingFill = [] ∧ state.xsk.held 256 = ↑[0, 1] := by
  have all : SampleWorker.xsk.held 256 = ↑[0, 1] := by decide +kernel
  have moves : kernel.OnlyMoves := sendOne_moves
  have stranded := (no_frame_stranded moves SampleWorker.pipeline
    (⟨rfl, rfl, rfl, rfl⟩ : SampleWorker.xsk.Sized 2) (by decide +kernel) (by rw [all]; decide)
    0 rounds).1
  obtain ⟨⟨state, logs⟩, done⟩ := Checked.returns_of_toOption run_isSome
  obtain ⟨nothingPending, held, -⟩ := stranded state logs done
  exact ⟨state, logs, done, nothingPending, held.trans all⟩

end Pesigitg
