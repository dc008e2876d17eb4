import Mathlib.Data.List.Infix
import Pesigitg.Base.Interleave
import Pesigitg.Base.Spsc
import Pesigitg.Daemon.XdpAdopt

/-!
# The shared rings of the raw socket

`Ring::produce` and `Ring::consume` share a ring with another side that may act between any two
of their memory accesses. Each side of a ring is either a caller of the daemon's own function,
broken into its loads, slot accesses and the final store, or the other side, which reads or
writes one slot at a time and moves its index whenever it likes.

A run keeps the ring in step with a channel whose tape is everything that was written
(`ring_outline`); `ring_safe` reads the guarantees off the channel.
-/

namespace Pesigitg

open Base

variable {Entry : Type}

/-- The two sides of a ring. -/
inductive Side where
  | producer
  | consumer
deriving DecidableEq, Repr

/-- Where a caller of `Ring::produce` stands. -/
inductive ProduceCall (Entry : Type) where
  | idle
  | entered (entries : List Entry)
  | loaded (entries : List Entry) (prod : UInt32)
  | writing (entries : List Entry) (prod cons : UInt32) (done : Nat)

/-- Where a caller of `Ring::consume` stands; `got` is what it has copied to the front of `out`. -/
inductive ConsumeCall (Entry : Type) where
  | idle
  | entered (out : List Entry)
  | loaded (out : List Entry) (cons : UInt32)
  | reading (out : List Entry) (prod cons : UInt32) (got : List Entry)

/-- What a side is doing: a call of the daemon's, or the other side with its own cursor. -/
inductive Party (Entry : Type) where
  | producing (call : ProduceCall Entry)
  | consuming (call : ConsumeCall Entry)
  | supplying (cursor : UInt32)
  | draining (cursor : UInt32)

/-- One access to the shared ring. -/
inductive RingEvent (Entry : Type) where
  | call
  | load
  | look (prod cons : UInt32)
  | write (index : UInt32) (entry : Entry)
  | read (index : UInt32) (entry : Entry)
  | produced (entries : List Entry) (prod cons : UInt32) (count : Nat)
  | consumed (out : List Entry) (prod cons : UInt32) (count : Nat) (filled : List Entry)
  | supplied (count : Nat)
  | released (count : Nat)

/-- How many entries `Ring::produce` enqueues, from the indices it loaded. -/
def produceCount (ring : RingSize) (prod cons : UInt32) (length : Nat) : Nat :=
  min (ring.size - (prod - cons)).toNat length

/-- How many entries `Ring::consume` dequeues, from the indices it loaded. -/
def consumeCount (prod cons : UInt32) (length : Nat) : Nat := min (prod - cons).toNat length

/-- Fill the slot an index selects. -/
def writeSlot (ring : RingSize) (memory : RingMemory Entry) (index : UInt32) (entry : Entry) :
    RingMemory Entry :=
  { memory with descs := Function.update memory.descs (ring.slot index) entry }

/-- The accesses of both sides. -/
inductive RingStep (ring : RingSize) :
    AtomicStep (Party Entry) (RingMemory Entry) (RingEvent Entry) where
  | produceCall {memory : RingMemory Entry} (entries : List Entry) :
      RingStep ring (.producing .idle) memory .call
        (.producing (if entries.isEmpty then .idle else .entered entries)) memory
  | loadProducer {memory : RingMemory Entry} {entries : List Entry} :
      RingStep ring (.producing (.entered entries)) memory .load
        (.producing (.loaded entries memory.producer)) memory
  | lookConsumer {memory : RingMemory Entry} {entries : List Entry} {prod : UInt32} :
      RingStep ring (.producing (.loaded entries prod)) memory (.look prod memory.consumer)
        (.producing (.writing entries prod memory.consumer 0)) memory
  | writeEntry {memory : RingMemory Entry} {entries : List Entry} {prod cons : UInt32} {done : Nat}
      {entry : Entry} (more : done < produceCount ring prod cons entries.length)
      (next : entries[done]? = some entry) :
      RingStep ring (.producing (.writing entries prod cons done)) memory
        (.write (prod + UInt32.ofNat done) entry)
        (.producing (.writing entries prod cons (done + 1)))
        (writeSlot ring memory (prod + UInt32.ofNat done) entry)
  | storeProducer {memory : RingMemory Entry} {entries : List Entry} {prod cons : UInt32}
      {done : Nat} (finished : done = produceCount ring prod cons entries.length) :
      RingStep ring (.producing (.writing entries prod cons done)) memory
        (.produced entries prod cons done) (.producing .idle)
        { memory with producer := prod + UInt32.ofNat done }
  | consumeCall {memory : RingMemory Entry} (out : List Entry) :
      RingStep ring (.consuming .idle) memory .call
        (.consuming (if out.isEmpty then .idle else .entered out)) memory
  | loadConsumer {memory : RingMemory Entry} {out : List Entry} :
      RingStep ring (.consuming (.entered out)) memory .load
        (.consuming (.loaded out memory.consumer)) memory
  | lookProducer {memory : RingMemory Entry} {out : List Entry} {cons : UInt32} :
      RingStep ring (.consuming (.loaded out cons)) memory (.look memory.producer cons)
        (.consuming (.reading out memory.producer cons [])) memory
  | readEntry {memory : RingMemory Entry} {out got : List Entry} {prod cons : UInt32}
      (more : got.length < consumeCount prod cons out.length) :
      RingStep ring (.consuming (.reading out prod cons got)) memory
        (.read (cons + UInt32.ofNat got.length)
          (memory.descs (ring.slot (cons + UInt32.ofNat got.length))))
        (.consuming (.reading out prod cons
          (got ++ [memory.descs (ring.slot (cons + UInt32.ofNat got.length))]))) memory
  | storeConsumer {memory : RingMemory Entry} {out got : List Entry} {prod cons : UInt32}
      (finished : got.length = consumeCount prod cons out.length) :
      RingStep ring (.consuming (.reading out prod cons got)) memory
        (.consumed out prod cons got.length (got ++ out.drop got.length)) (.consuming .idle)
        { memory with consumer := cons + UInt32.ofNat got.length }
  -- The other side, where the daemon consumes: it writes while there is room.
  | put {memory : RingMemory Entry} {cursor : UInt32} (entry : Entry)
      (room : (cursor - memory.consumer).toNat < ring.size.toNat) :
      RingStep ring (.supplying cursor) memory (.write cursor entry) (.supplying (cursor + 1))
        (writeSlot ring memory cursor entry)
  | supply {memory : RingMemory Entry} {cursor : UInt32} {count : Nat}
      (written : count ≤ (cursor - memory.producer).toNat) :
      RingStep ring (.supplying cursor) memory (.supplied count) (.supplying cursor)
        { memory with producer := memory.producer + UInt32.ofNat count }
  -- The other side, where the daemon produces: it reads what has been published.
  | take {memory : RingMemory Entry} {cursor : UInt32} (available : cursor ≠ memory.producer) :
      RingStep ring (.draining cursor) memory (.read cursor (memory.descs (ring.slot cursor)))
        (.draining (cursor + 1)) memory
  | giveBack {memory : RingMemory Entry} {cursor : UInt32} {count : Nat}
      (read : count ≤ (cursor - memory.consumer).toNat) :
      RingStep ring (.draining cursor) memory (.released count) (.draining cursor)
        { memory with consumer := memory.consumer + UInt32.ofNat count }

/-- A ring and its two sides. -/
abbrev RingMachine (Entry : Type) := Machine Side (Party Entry) (RingMemory Entry)

abbrev RingLog (Entry : Type) := List (Side × RingEvent Entry)

/-- Any order of the accesses of the two sides. -/
abbrev RingRun (ring : RingSize) (start : RingMachine Entry) (log : RingLog Entry)
    (machine : RingMachine Entry) : Prop :=
  Interleaving (RingStep ring) (fun _ _ _ _ => True) start log machine

/-- Both sides between calls, and no more entries than slots. -/
structure RingStart (ring : RingSize) (start : RingMachine Entry) : Prop where
  distance : (start.shared.producer - start.shared.consumer).toNat ≤ ring.size.toNat
  producer : start.threads .producer = .producing .idle ∨
    start.threads .producer = .supplying start.shared.producer
  consumer : start.threads .consumer = .consuming .idle ∨
    start.threads .consumer = .draining start.shared.consumer

namespace RingEvent

def written : RingEvent Entry → List Entry
  | .write _ entry => [entry]
  | _ => []

def readOut : RingEvent Entry → List Entry
  | .read _ entry => [entry]
  | _ => []

def publishes : RingEvent Entry → Nat
  | .produced _ _ _ count | .supplied count => count
  | _ => 0

def releases : RingEvent Entry → Nat
  | .consumed _ _ _ count _ | .released count => count
  | _ => 0

/-- The indices a call has loaded. -/
def looked : RingEvent Entry → Option (UInt32 × UInt32)
  | .look prod cons => some (prod, cons)
  | _ => none

end RingEvent

section Logs

/-- The entries written to slots, oldest first. -/
def writtenIn (log : RingLog Entry) : List Entry := log.flatMap fun step => step.2.written

/-- The entries read from slots, oldest first. -/
def readFrom (log : RingLog Entry) : List Entry := log.flatMap fun step => step.2.readOut

def publishedIn (log : RingLog Entry) : Nat := (log.map fun step => step.2.publishes).sum

def releasedIn (log : RingLog Entry) : Nat := (log.map fun step => step.2.releases).sum

/-- The indices the last call of a side has loaded. -/
def lastLook (side : Side) (log : RingLog Entry) : Option (UInt32 × UInt32) :=
  (log.filterMap fun step => if step.1 = side then step.2.looked else none).getLast?

/-- The entries between the indices, oldest first. -/
def queued (ring : RingSize) (memory : RingMemory Entry) : List Entry :=
  (List.range (memory.producer - memory.consumer).toNat).map fun offset =>
    memory.descs (ring.slot (indexAt memory.consumer offset))

/-- Everything that was in the ring at the start or written since. -/
def tapeOf (ring : RingSize) (start : RingMemory Entry) (log : RingLog Entry) : List Entry :=
  queued ring start ++ writtenIn log

/-- The channel that a log amounts to. -/
def channelOf (ring : RingSize) (start : RingMemory Entry) (log : RingLog Entry) :
    Channel Entry where
  tape := tapeOf ring start log
  published := (queued ring start).length + publishedIn log
  read := (readFrom log).length
  released := releasedIn log

/-- What an access does to the channel. -/
def RingEvent.extend (event : RingEvent Entry) (channel : Channel Entry) : Channel Entry where
  tape := channel.tape ++ event.written
  published := channel.published + event.publishes
  read := channel.read + event.readOut.length
  released := channel.released + event.releases

namespace RingEvent

variable (channel : Channel Entry)

/-- An event that writes no entry only moves positions. -/
theorem extend_of_unwritten {event : RingEvent Entry} (unwritten : event.written = []) :
    event.extend channel =
      { channel with
        published := channel.published + event.publishes
        read := channel.read + event.readOut.length
        released := channel.released + event.releases } := by
  rw [extend, unwritten, List.append_nil]

/-- A call by itself changes nothing. -/
@[simp] theorem extend_call : (call : RingEvent Entry).extend channel = channel :=
  extend_of_unwritten channel rfl

/-- Nor does a load. -/
@[simp] theorem extend_load : (load : RingEvent Entry).extend channel = channel :=
  extend_of_unwritten channel rfl

/-- Nor does a look at both indices. -/
@[simp] theorem extend_look (prod cons : UInt32) :
    (look prod cons : RingEvent Entry).extend channel = channel :=
  extend_of_unwritten channel rfl

/-- A write puts one entry on the tape. -/
@[simp] theorem extend_write (index : UInt32) (entry : Entry) :
    (write index entry).extend channel = { channel with tape := channel.tape ++ [entry] } := rfl

/-- A read moves the reading position on. -/
@[simp] theorem extend_read (index : UInt32) (entry : Entry) :
    (read index entry).extend channel = { channel with read := channel.read + 1 } :=
  extend_of_unwritten channel rfl

/-- The end of a produce call publishes what it wrote. -/
@[simp] theorem extend_produced (entries : List Entry) (prod cons : UInt32) (count : Nat) :
    (produced entries prod cons count).extend channel =
      { channel with published := channel.published + count } :=
  extend_of_unwritten channel rfl

/-- So does the kernel's. -/
@[simp] theorem extend_supplied (count : Nat) :
    (supplied count : RingEvent Entry).extend channel =
      { channel with published := channel.published + count } :=
  extend_of_unwritten channel rfl

/-- The end of a consume call releases what it read. -/
@[simp] theorem extend_consumed (out filled : List Entry) (prod cons : UInt32) (count : Nat) :
    (consumed out prod cons count filled).extend channel =
      { channel with released := channel.released + count } :=
  extend_of_unwritten channel rfl

/-- So does the kernel's. -/
@[simp] theorem extend_released (count : Nat) :
    (released count : RingEvent Entry).extend channel =
      { channel with released := channel.released + count } :=
  extend_of_unwritten channel rfl

end RingEvent

variable {ring : RingSize} {start : RingMemory Entry} {log : RingLog Entry} {side mover : Side}
  {event : RingEvent Entry}

/-- The channel after one more event. -/
theorem channelOf_snoc :
    channelOf ring start (log ++ [(mover, event)]) = event.extend (channelOf ring start log) := by
  simp [channelOf, RingEvent.extend, tapeOf, writtenIn, readFrom, publishedIn, releasedIn,
    Nat.add_assoc]

/-- What was read after one more event. -/
theorem readFrom_snoc : readFrom (log ++ [(mover, event)]) = readFrom log ++ event.readOut := by
  simp [readFrom]

/-- An event of the other side is not a look of this one. -/
theorem lastLook_snoc_of_ne (other : mover ≠ side) :
    lastLook side (log ++ [(mover, event)]) = lastLook side log := by
  simp [lastLook, other]

/-- The last look of a side after one more event of it. -/
theorem lastLook_snoc_self :
    lastLook side (log ++ [(side, event)]) = event.looked.or (lastLook side log) := by
  cases found : event.looked <;> simp [lastLook, found]

end Logs

/-- What is true of a side between its accesses: how its local values relate to the channel, to
the entries read so far and to the indices it looked at last. -/
inductive SideHolds (ring : RingSize) (base : UInt32) (channel : Channel Entry)
    (reads : List Entry) (look : Option (UInt32 × UInt32)) : Side → Party Entry → Prop where
  | produceIdle (settled : channel.published = channel.tape.length) :
      SideHolds ring base channel reads look .producer (.producing .idle)
  | produceEntered {entries : List Entry} (settled : channel.published = channel.tape.length) :
      SideHolds ring base channel reads look .producer (.producing (.entered entries))
  | produceLoaded {entries : List Entry} {prod : UInt32}
      (settled : channel.published = channel.tape.length)
      (own : prod = indexAt base channel.published) :
      SideHolds ring base channel reads look .producer (.producing (.loaded entries prod))
  | writing {entries : List Entry} {prod cons : UInt32} {done : Nat}
      (own : prod = indexAt base channel.published) (looked : look = some (prod, cons))
      (within : (prod - cons).toNat ≤ ring.size.toNat)
      (progress : done ≤ produceCount ring prod cons entries.length)
      (room : channel.published + produceCount ring prod cons entries.length ≤
        channel.released + ring.size.toNat)
      (written : channel.tape.drop channel.published = entries.take done) :
      SideHolds ring base channel reads look .producer
        (.producing (.writing entries prod cons done))
  | supplying {cursor : UInt32} (own : cursor = indexAt base channel.tape.length) :
      SideHolds ring base channel reads look .producer (.supplying cursor)
  | consumeIdle (settled : channel.released = channel.read) :
      SideHolds ring base channel reads look .consumer (.consuming .idle)
  | consumeEntered {out : List Entry} (settled : channel.released = channel.read) :
      SideHolds ring base channel reads look .consumer (.consuming (.entered out))
  | consumeLoaded {out : List Entry} {cons : UInt32} (settled : channel.released = channel.read)
      (own : cons = indexAt base channel.released) :
      SideHolds ring base channel reads look .consumer (.consuming (.loaded out cons))
  | reading {out got : List Entry} {prod cons : UInt32}
      (own : cons = indexAt base channel.released) (looked : look = some (prod, cons))
      (progress : got.length ≤ consumeCount prod cons out.length)
      (available : channel.released + consumeCount prod cons out.length ≤ channel.published)
      (copied : reads.drop channel.released = got) :
      SideHolds ring base channel reads look .consumer (.consuming (.reading out prod cons got))
  | draining {cursor : UInt32} (own : cursor = indexAt base channel.read) :
      SideHolds ring base channel reads look .consumer (.draining cursor)

section Steps

variable {ring : RingSize} {base : UInt32} {channel : Channel Entry} {reads : List Entry}
  {look : Option (UInt32 × UInt32)} {party next : Party Entry} {memory after : RingMemory Entry}
  {event : RingEvent Entry}

/-- The producer side neither reads nor releases. -/
theorem SideHolds.producer_quiet
    (holds : SideHolds ring base channel reads look .producer party)
    (moved : RingStep ring party memory event next after) :
    event.readOut = [] ∧ event.releases = 0 := by
  cases holds <;> cases moved <;> exact ⟨rfl, rfl⟩

/-- The consumer side neither writes nor publishes. -/
theorem SideHolds.consumer_quiet
    (holds : SideHolds ring base channel reads look .consumer party)
    (moved : RingStep ring party memory event next after) :
    event.written = [] ∧ event.publishes = 0 := by
  cases holds <;> cases moved <;> exact ⟨rfl, rfl⟩

/-- What the consumer side does leaves the producer side's view standing: there can only be more
room than it saw. -/
theorem SideHolds.producer_undisturbed
    (holds : SideHolds ring base channel reads look .producer party)
    (quiet : event.written = [] ∧ event.publishes = 0) :
    SideHolds ring base (event.extend channel) (reads ++ event.readOut) look .producer party := by
  rw [RingEvent.extend, quiet.1, quiet.2, List.append_nil, Nat.add_zero]
  cases holds with
  | produceIdle settled => exact .produceIdle settled
  | produceEntered settled => exact .produceEntered settled
  | produceLoaded settled own => exact .produceLoaded settled own
  | writing own looked within progress room written =>
    exact .writing own looked within progress (by simp only; omega) written
  | supplying own => exact .supplying own

/-- What the producer side does leaves the consumer side's view standing: there can only be more
entries than it saw. -/
theorem SideHolds.consumer_undisturbed
    (holds : SideHolds ring base channel reads look .consumer party)
    (quiet : event.readOut = [] ∧ event.releases = 0) :
    SideHolds ring base (event.extend channel) (reads ++ event.readOut) look .consumer party := by
  rw [RingEvent.extend, quiet.1, quiet.2, List.append_nil, List.length_nil, Nat.add_zero,
    Nat.add_zero]
  cases holds with
  | consumeIdle settled => exact .consumeIdle settled
  | consumeEntered settled => exact .consumeEntered settled
  | consumeLoaded settled own => exact .consumeLoaded settled own
  | reading own looked progress available copied =>
    exact .reading own looked progress (by simp only; omega) copied
  | draining own => exact .draining own

/-- The free slots, from the double subtraction. -/
theorem free_toNat {prod cons : UInt32} (within : (prod - cons).toNat ≤ ring.size.toNat) :
    (ring.size - (prod - cons)).toNat = ring.size.toNat - (prod - cons).toNat := by
  have small := ring.size.toNat_lt
  rw [UInt32.toNat_sub]
  omega

/-- No more is produced than was given. -/
theorem produceCount_le (prod cons : UInt32) (length : Nat) :
    produceCount ring prod cons length ≤ length :=
  Nat.min_le_right _ _

/-- In the middle of `Ring::produce`, the tape ends with the entries written so far. -/
theorem tape_length_of_written (ordered : channel.Ordered ring.size.toNat) {entries : List Entry}
    {prod cons : UInt32} {done : Nat} (progress : done ≤ produceCount ring prod cons entries.length)
    (written : channel.tape.drop channel.published = entries.take done) :
    channel.tape.length = channel.published + done := by
  have inside := Nat.le_trans progress (produceCount_le prod cons entries.length)
  have lengths := congrArg List.length written
  have below := ordered.published_le
  rw [List.length_drop, List.length_take] at lengths
  omega

/-- A side that writes has room for the entry, and writes it where the tape ends. -/
theorem write_at_end {side : Side} {index : UInt32} {entry : Entry}
    (represents : Represents ring base memory channel)
    (holds : SideHolds ring base channel reads look side party)
    (moved : RingStep ring party memory (.write index entry) next after) :
    index = indexAt base channel.tape.length ∧
      channel.tape.length < channel.released + ring.size.toNat := by
  have ordered := represents.ordered
  cases moved with
  | writeEntry more placed =>
    cases holds with
    | writing own looked within progress room written =>
      have length := tape_length_of_written ordered progress written
      rw [own, indexAt_add, ← length]
      exact ⟨rfl, by omega⟩
  | put entry free =>
    cases holds with
    | supplying own =>
      rw [own, represents.consumer, ordered.distance base (Nat.le_refl _)
        ordered.released_le_length (Nat.le_refl _)] at free
      exact ⟨own, by omega⟩

/-- The producer side's accesses keep the ring in step with the channel, and its own view true. -/
theorem producer_step (represents : Represents ring base memory channel)
    (holds : SideHolds ring base channel reads look .producer party)
    (moved : RingStep ring party memory event next after) :
    Represents ring base after (event.extend channel) ∧
      SideHolds ring base (event.extend channel) (reads ++ event.readOut) (event.looked.or look)
        .producer next := by
  have ordered := represents.ordered
  cases moved with
  | produceCall entries =>
    cases holds with
    | produceIdle settled =>
      rw [RingEvent.extend_call]
      refine ⟨represents, ?_⟩
      split
      · exact .produceIdle settled
      · exact .produceEntered settled
  | loadProducer =>
    cases holds with
    | produceEntered settled =>
      rw [RingEvent.extend_load]
      exact ⟨represents, .produceLoaded settled represents.producer⟩
  | lookConsumer =>
    cases holds with
    | produceLoaded settled own =>
      rw [RingEvent.extend_look]
      refine ⟨represents, ?_⟩
      have within := represents.distance_le
      have distance := represents.distance
      have below := ordered.released_le
      have published := ordered.read_le
      rw [represents.producer, ← own] at within distance
      refine .writing own rfl within (Nat.zero_le _) ?_ ?_
      · -- The free slots it computes are those beyond the published entries.
        rw [produceCount, free_toNat within]
        omega
      · rw [settled, List.drop_length, List.take_zero]
  | @writeEntry _ entries prod cons done entry more placed =>
    obtain ⟨slot, space⟩ := write_at_end represents holds (.writeEntry more placed)
    cases holds with
    | writing own looked within progress room written =>
      rw [RingEvent.extend_write, writeSlot, slot]
      refine ⟨represents.write space entry, ?_⟩
      refine .writing own looked within more room ?_
      simp only
      rw [List.drop_append_of_le_length ordered.published_le, written, List.take_add_one, placed]
      rfl
  | @storeProducer _ entries prod cons done finished =>
    cases holds with
    | writing own looked within progress room written =>
      have length := tape_length_of_written ordered progress written
      rw [RingEvent.extend_produced]
      refine ⟨?_, .produceIdle (by simp only; omega)⟩
      rw [own, ← represents.producer]
      exact represents.publish (by omega)
  | put entry free =>
    obtain ⟨slot, space⟩ := write_at_end represents holds (.put entry free)
    cases holds with
    | supplying own =>
      rw [RingEvent.extend_write, writeSlot, slot]
      refine ⟨represents.write space entry, .supplying ?_⟩
      rw [List.length_append, List.length_singleton, ← indexAt_add]
      rfl
  | @supply _ cursor count published =>
    cases holds with
    | supplying own =>
      have high := ordered.published_le
      rw [own, represents.producer, ordered.distance base ordered.released_le_published high
        (Nat.le_refl _)] at published
      rw [RingEvent.extend_supplied]
      exact ⟨represents.publish (by omega), .supplying own⟩
  | consumeCall => cases holds
  | loadConsumer => cases holds
  | lookProducer => cases holds
  | readEntry => cases holds
  | storeConsumer => cases holds
  | take => cases holds
  | giveBack => cases holds

/-- In the middle of `Ring::consume`, the entries copied so far are those read and not released. -/
theorem read_of_copied (ordered : channel.Ordered ring.size.toNat)
    (counted : reads.length = channel.read) {got : List Entry}
    (copied : reads.drop channel.released = got) :
    channel.read = channel.released + got.length := by
  have lengths := congrArg List.length copied
  have below := ordered.released_le
  rw [List.length_drop, counted] at lengths
  omega

/-- A side that reads finds a published entry, and it is the next one of the tape. -/
theorem read_at_front {side : Side} {index : UInt32} {entry : Entry}
    (counted : reads.length = channel.read) (represents : Represents ring base memory channel)
    (holds : SideHolds ring base channel reads look side party)
    (moved : RingStep ring party memory (.read index entry) next after) :
    channel.read < channel.published ∧ index = indexAt base channel.read ∧
      channel.tape[channel.read]? = some entry := by
  have ordered := represents.ordered
  cases moved with
  | @readEntry _ out got prod cons more =>
    cases holds with
    | reading own looked progress available copied =>
      have behind := read_of_copied ordered counted copied
      have unread : channel.read < channel.published := by omega
      have slot : cons + UInt32.ofNat got.length = indexAt base channel.read := by
        rw [own, indexAt_add, behind]
      rw [slot]
      exact ⟨unread, rfl, (represents.read unread).1⟩
  | take available =>
    cases holds with
    | draining own =>
      have unread : channel.read < channel.published := by
        apply Nat.lt_of_le_of_ne ordered.read_le
        intro same
        rw [own, represents.producer, same] at available
        exact available rfl
      rw [own]
      exact ⟨unread, rfl, (represents.read unread).1⟩

/-- The consumer side's accesses keep the ring in step with the channel, and its own view true;
what it reads is the next entry of the tape. -/
theorem consumer_step (counted : reads.length = channel.read)
    (represents : Represents ring base memory channel)
    (holds : SideHolds ring base channel reads look .consumer party)
    (moved : RingStep ring party memory event next after) :
    Represents ring base after (event.extend channel) ∧
      SideHolds ring base (event.extend channel) (reads ++ event.readOut) (event.looked.or look)
        .consumer next ∧
      ∀ entry, event.readOut = [entry] → channel.tape[channel.read]? = some entry := by
  have ordered := represents.ordered
  cases moved with
  | consumeCall out =>
    cases holds with
    | consumeIdle settled =>
      rw [RingEvent.extend_call]
      refine ⟨represents, ?_, by simp [RingEvent.readOut]⟩
      split
      · exact .consumeIdle settled
      · exact .consumeEntered settled
  | loadConsumer =>
    cases holds with
    | consumeEntered settled =>
      rw [RingEvent.extend_load]
      exact ⟨represents, .consumeLoaded settled represents.consumer, by simp [RingEvent.readOut]⟩
  | lookProducer =>
    cases holds with
    | consumeLoaded settled own =>
      rw [RingEvent.extend_look]
      refine ⟨represents, ?_, by simp [RingEvent.readOut]⟩
      have distance := represents.distance
      have below := ordered.read_le
      rw [represents.consumer, ← own] at distance
      refine .reading own rfl (Nat.zero_le _) ?_ ?_
      · rw [consumeCount, distance]
        omega
      · simp [RingEvent.readOut, settled, counted]
  | @readEntry _ out got prod cons more =>
    obtain ⟨unread, -, placed⟩ := read_at_front counted represents holds (.readEntry more)
    cases holds with
    | reading own looked progress available copied =>
      have behind := read_of_copied ordered counted copied
      rw [RingEvent.extend_read]
      refine ⟨(represents.read unread).2, .reading own looked ?_ available ?_, ?_⟩
      · rw [List.length_append, List.length_singleton]
        exact more
      · simp only [RingEvent.readOut]
        rw [List.drop_append_of_le_length (by omega), copied]
      · simp [RingEvent.readOut, placed]
  | @storeConsumer _ out got prod cons finished =>
    cases holds with
    | reading own looked progress available copied =>
      have behind := read_of_copied ordered counted copied
      rw [RingEvent.extend_consumed]
      refine ⟨?_, .consumeIdle (by simp only; omega), by simp [RingEvent.readOut]⟩
      rw [own, ← represents.consumer]
      exact represents.release (by omega)
  | @take _ cursor available =>
    obtain ⟨unread, -, placed⟩ := read_at_front counted represents holds (.take available)
    cases holds with
    | draining own =>
      rw [RingEvent.extend_read]
      refine ⟨(represents.read unread).2, .draining ?_, ?_⟩
      · rw [own, ← indexAt_add]
        rfl
      · simp [RingEvent.readOut, placed]
  | @giveBack _ cursor count given =>
    cases holds with
    | draining own =>
      have low := ordered.released_le
      rw [own, represents.consumer, ordered.distance base (Nat.le_refl _) low
        (Nat.le_trans ordered.read_le ordered.published_le)] at given
      rw [RingEvent.extend_released]
      exact ⟨represents.release (by omega), .draining own, by simp [RingEvent.readOut]⟩
  | produceCall => cases holds
  | loadProducer => cases holds
  | lookConsumer => cases holds
  | writeEntry => cases holds
  | storeProducer => cases holds
  | put => cases holds
  | supply => cases holds

end Steps

section Runs

variable {ring : RingSize} {start machine : RingMachine Entry} {log : RingLog Entry}

/-- The ring holds as many entries as the indices are apart. -/
theorem queued_length (memory : RingMemory Entry) :
    (queued ring memory).length = (memory.producer - memory.consumer).toNat := by
  simp [queued]

/-- A ring with no more entries than slots stands for a channel nobody has touched yet. -/
theorem represents_start {memory : RingMemory Entry}
    (distance : (memory.producer - memory.consumer).toNat ≤ ring.size.toNat) :
    Represents ring memory.consumer memory (channelOf ring memory []) where
  ordered := by
    refine ⟨Nat.zero_le _, Nat.zero_le _, ?_, ?_⟩
    · simp [channelOf, tapeOf, publishedIn, writtenIn]
    · simpa [channelOf, tapeOf, writtenIn, releasedIn, queued_length] using distance
  producer := by
    simp [channelOf, publishedIn, queued_length, indexAt_distance]
  consumer := by
    simp [channelOf, releasedIn, indexAt]
  stored := by
    intro position entry _ placed
    simp only [channelOf, tapeOf, writtenIn, List.flatMap_nil, List.append_nil, queued,
      List.getElem?_map, Option.map_eq_some_iff] at placed
    obtain ⟨offset, counted, rfl⟩ := placed
    obtain ⟨inside, rfl⟩ := List.getElem?_eq_some_iff.mp counted
    simp

/-- Reading the next entry of the tape keeps what was read its front. -/
theorem extends_front {mover : Side} {event : RingEvent Entry} {memory : RingMemory Entry}
    (front : readFrom log <+: tapeOf ring memory log)
    (taken : ∀ entry, event.readOut = [entry] →
      (tapeOf ring memory log)[(readFrom log).length]? = some entry) :
    readFrom log ++ event.readOut <+: tapeOf ring memory (log ++ [(mover, event)]) := by
  have longer : tapeOf ring memory log <+: tapeOf ring memory (log ++ [(mover, event)]) :=
    ⟨event.written, by simp [tapeOf, writtenIn]⟩
  apply List.IsPrefix.trans ?_ longer
  cases event with
  | read index entry =>
    obtain ⟨inside, placed⟩ := List.getElem?_eq_some_iff.mp (taken entry rfl)
    rw [RingEvent.readOut, ← placed]
    exact List.concat_get_prefix front inside
  | _ => simpa [RingEvent.readOut] using front

/-- What a run keeps: the ring is in step with the channel of the log, the entries read are the
front of the tape, and each side's view is true. -/
theorem ring_outline (fresh : RingStart ring start) (run : RingRun ring start log machine) :
    (Represents ring start.shared.consumer machine.shared (channelOf ring start.shared log) ∧
      readFrom log <+: tapeOf ring start.shared log) ∧
    ∀ side, SideHolds ring start.shared.consumer (channelOf ring start.shared log) (readFrom log)
      (lastLook side log) side (machine.threads side) := by
  refine Interleaving.outline
    (fun log memory => Represents ring start.shared.consumer memory
      (channelOf ring start.shared log) ∧ readFrom log <+: tapeOf ring start.shared log)
    (fun log side party => SideHolds ring start.shared.consumer (channelOf ring start.shared log)
      (readFrom log) (lastLook side log) side party) ?_ ?_ run
  · refine ⟨⟨represents_start fresh.distance, by simp [readFrom]⟩, ?_⟩
    intro side
    cases side with
    | producer =>
      rcases fresh.producer with idle | supplying
      · rw [idle]
        exact .produceIdle (by simp [channelOf, tapeOf, publishedIn, writtenIn])
      · rw [supplying]
        exact .supplying (by simp [channelOf, tapeOf, writtenIn, queued_length, indexAt_distance])
    | consumer =>
      rcases fresh.consumer with idle | draining
      · rw [idle]
        exact .consumeIdle rfl
      · rw [draining]
        exact .draining (by simp [channelOf, readFrom, indexAt])
  · rintro log machine side event next after - ⟨represents, front⟩ holds moved
    simp only [channelOf_snoc, readFrom_snoc, lastLook_snoc_self]
    cases side with
    | producer =>
      have quiet := (holds .producer).producer_quiet moved
      obtain ⟨stepped, own⟩ := producer_step represents (holds .producer) moved
      refine ⟨⟨stepped, extends_front front (by simp [quiet.1])⟩, own, ?_⟩
      intro other distinct
      cases other with
      | producer => exact absurd rfl distinct
      | consumer =>
        rw [lastLook_snoc_of_ne (by decide)]
        exact (holds .consumer).consumer_undisturbed quiet
    | consumer =>
      have quiet := (holds .consumer).consumer_quiet moved
      obtain ⟨stepped, own, taken⟩ := consumer_step rfl represents (holds .consumer) moved
      refine ⟨⟨stepped, extends_front front taken⟩, own, ?_⟩
      intro other distinct
      cases other with
      | consumer => exact absurd rfl distinct
      | producer =>
        rw [lastLook_snoc_of_ne (by decide)]
        exact (holds .producer).producer_undisturbed quiet

/-- What both sides can rely on after every access. -/
structure RingSafe (ring : RingSize) (start : RingMemory Entry) (log : RingLog Entry)
    (machine : RingMachine Entry) : Prop where
  /-- The entries read are the first of those in the ring at the start and written since. -/
  fifo : readFrom log <+: tapeOf ring start log
  /-- Only published entries are read. -/
  published : (readFrom log).length ≤ (queued ring start).length + publishedIn log
  /-- Every entry that was not read is still in its slot. -/
  stored : ∀ position entry, (readFrom log).length ≤ position →
    (tapeOf ring start log)[position]? = some entry →
    machine.shared.descs (ring.slot (indexAt start.consumer position)) = entry
  /-- No write goes to the slot of an entry that was not given back. -/
  spares : ∀ side index entry next after,
    RingStep ring (machine.threads side) machine.shared (.write index entry) next after →
    ∀ position, releasedIn log ≤ position → position < (tapeOf ring start log).length →
      ring.slot (indexAt start.consumer position) ≠ ring.slot index
  distance : (machine.shared.producer - machine.shared.consumer).toNat ≤ ring.size.toNat
  /-- Once a call has loaded the other side's index, it has seen both indices as they are. -/
  looks : ∀ side prod cons next after,
    RingStep ring (machine.threads side) machine.shared (.look prod cons) next after →
    prod = machine.shared.producer ∧ cons = machine.shared.consumer
  /-- `produce` enqueues as many of its entries as were free when it looked. -/
  produces : ∀ entries prod cons count next after,
    RingStep ring (machine.threads .producer) machine.shared (.produced entries prod cons count)
      next after →
    lastLook .producer log = some (prod, cons) ∧ prod = machine.shared.producer ∧
      count = min (ring.size.toNat - (prod - cons).toNat) entries.length ∧
      (writtenIn log).drop (publishedIn log) = entries.take count ∧
      after.producer = machine.shared.producer + UInt32.ofNat count
  /-- `consume` dequeues as many entries as were available when it looked. -/
  consumes : ∀ out prod cons count filled next after,
    RingStep ring (machine.threads .consumer) machine.shared
      (.consumed out prod cons count filled) next after →
    lastLook .consumer log = some (prod, cons) ∧ cons = machine.shared.consumer ∧
      count = min (prod - cons).toNat out.length ∧
      filled = (readFrom log).drop (releasedIn log) ++ out.drop count ∧
      ((readFrom log).drop (releasedIn log)).length = count ∧
      after.consumer = machine.shared.consumer + UInt32.ofNat count

section Guarantees

variable {base : UInt32} {channel : Channel Entry} {reads : List Entry}
  {look : Option (UInt32 × UInt32)} {side : Side} {party next : Party Entry}
  {memory after : RingMemory Entry}

/-- A look sees both indices as they are when it ends. -/
theorem look_sees {prod cons : UInt32} (represents : Represents ring base memory channel)
    (holds : SideHolds ring base channel reads look side party)
    (moved : RingStep ring party memory (.look prod cons) next after) :
    prod = memory.producer ∧ cons = memory.consumer := by
  cases moved with
  | lookConsumer =>
    cases holds with
    | produceLoaded settled own => exact ⟨own.trans represents.producer.symm, rfl⟩
  | lookProducer =>
    cases holds with
    | consumeLoaded settled own => exact ⟨rfl, own.trans represents.consumer.symm⟩

/-- What a produce call writes and publishes: as much as it saw room for. -/
theorem produced_exact {entries : List Entry} {prod cons : UInt32} {count : Nat}
    (represents : Represents ring base memory channel)
    (holds : SideHolds ring base channel reads look side party)
    (moved : RingStep ring party memory (.produced entries prod cons count) next after) :
    look = some (prod, cons) ∧ prod = memory.producer ∧
      count = min (ring.size.toNat - (prod - cons).toNat) entries.length ∧
      channel.tape.drop channel.published = entries.take count ∧
      after.producer = memory.producer + UInt32.ofNat count := by
  cases moved with
  | storeProducer finished =>
    cases holds with
    | writing own looked within progress room written =>
      have same : prod = memory.producer := own.trans represents.producer.symm
      refine ⟨looked, same, ?_, written, ?_⟩
      · rw [finished, produceCount, free_toNat within]
      · rw [same]

/-- What a consume call hands out and releases: as much as it saw published. -/
theorem consumed_exact {out filled : List Entry} {prod cons : UInt32} {count : Nat}
    (represents : Represents ring base memory channel)
    (holds : SideHolds ring base channel reads look side party)
    (moved : RingStep ring party memory (.consumed out prod cons count filled) next after) :
    look = some (prod, cons) ∧ cons = memory.consumer ∧
      count = min (prod - cons).toNat out.length ∧
      filled = reads.drop channel.released ++ out.drop count ∧
      (reads.drop channel.released).length = count ∧
      after.consumer = memory.consumer + UInt32.ofNat count := by
  cases moved with
  | storeConsumer finished =>
    cases holds with
    | reading own looked progress available copied =>
      have same : cons = memory.consumer := own.trans represents.consumer.symm
      subst copied
      exact ⟨looked, same, finished, rfl, rfl, by rw [same]⟩

end Guarantees

/-- The ring is safe in every run, wherever the indices start and whenever they wrap. -/
theorem ring_safe (fresh : RingStart ring start) (run : RingRun ring start log machine) :
    RingSafe ring start.shared log machine := by
  obtain ⟨⟨represents, front⟩, holds⟩ := ring_outline fresh run
  have unpublished : (channelOf ring start.shared log).tape.drop
      (channelOf ring start.shared log).published = (writtenIn log).drop (publishedIn log) := by
    simp [channelOf, tapeOf, List.drop_append]
  refine ⟨front, represents.ordered.read_le, ?_, ?_, represents.distance_le, ?_, ?_, ?_⟩
  · intro position entry unread placed
    exact represents.stored position entry (Nat.le_trans represents.ordered.released_le unread) placed
  · intro side index entry next after moved position kept inside
    obtain ⟨rfl, room⟩ := write_at_end represents (holds side) moved
    exact slot_indexAt_ne _ ring inside (Nat.lt_of_lt_of_le room (by simp only [channelOf]; omega))
  · intro side prod cons next after moved
    exact look_sees represents (holds side) moved
  · intro entries prod cons count next after moved
    rw [← unpublished]
    exact produced_exact represents (holds .producer) moved
  · intro out prod cons count filled next after moved
    exact consumed_exact represents (holds .consumer) moved

end Runs

namespace SampleRing

def ring : RingSize := ⟨2, 1, rfl⟩

/-- The two sides at the given places. -/
def sides (producer consumer : Party UInt64) (memory : RingMemory UInt64) : RingMachine UInt64 where
  threads
    | .producer => producer
    | .consumer => consumer
  shared := memory

/-- One entry is queued at the last index before the wrap; the other side drains. -/
def start : RingMachine UInt64 :=
  sides (.producing .idle) (.draining 0xffffffff) ⟨0, 0xffffffff, fun _ => 10⟩

/-- The sample starts with an empty ring. -/
theorem fresh : RingStart ring start := ⟨by decide, .inl rfl, .inr rfl⟩

variable {log : RingLog UInt64} {producer consumer next : Party UInt64}
  {memory after : RingMemory UInt64} {event : RingEvent UInt64}

/-- A step of the producer extends the sample's run. -/
theorem producer_moves (run : RingRun ring start log (sides producer consumer memory))
    (moved : RingStep ring producer memory event next after) :
    RingRun ring start (log ++ [(.producer, event)]) (sides next consumer after) := by
  have same : (sides producer consumer memory).move .producer next after =
      sides next consumer after := by
    simp only [Machine.move, sides, Machine.mk.injEq, and_true]
    ext1 side
    cases side <;> rfl
  exact same ▸ run.advance .producer rfl trivial moved

/-- So does a step of the consumer. -/
theorem consumer_moves (run : RingRun ring start log (sides producer consumer memory))
    (moved : RingStep ring consumer memory event next after) :
    RingRun ring start (log ++ [(.consumer, event)]) (sides producer next after) := by
  have same : (sides producer consumer memory).move .consumer next after =
      sides producer next after := by
    simp only [Machine.move, sides, Machine.mk.injEq, and_true]
    ext1 side
    cases side <;> rfl
  exact same ▸ run.advance .consumer rfl trivial moved

/-- The other side takes the old entry after `produce` has looked, so one entry is enqueued
although there is room for two by then. -/
def crossing : RingLog UInt64 :=
  [(.producer, .call), (.producer, .load), (.producer, .look 0 0xffffffff),
    (.consumer, .read 0xffffffff 10), (.consumer, .released 1), (.producer, .write 0 11),
    (.producer, .produced [11, 12] 0 0xffffffff 1), (.consumer, .read 0 11)]

/-- The calls of the two sides may overlap. -/
theorem crossing_run : ∃ machine, RingRun ring start crossing machine := by
  have begun : RingRun ring start [] start := .nil
  have called := producer_moves begun (.produceCall [11, 12])
  have loaded := producer_moves called .loadProducer
  have looked := producer_moves loaded .lookConsumer
  have taken := consumer_moves looked (.take (by decide))
  have released := consumer_moves taken (.giveBack (by decide : 1 ≤ _))
  have written := producer_moves released (.writeEntry (by decide) rfl)
  have produced := producer_moves written (.storeProducer (by decide))
  exact ⟨_, consumer_moves produced (.take (by decide))⟩

end SampleRing

open SampleRing in
/-- A ring of two slots, drained while `produce` works across the wrap. -/
theorem ring_safe_crossing : ∃ machine, RingRun ring start crossing machine ∧
    RingSafe ring start.shared crossing machine ∧ readFrom crossing = [10, 11] := by
  obtain ⟨machine, run⟩ := crossing_run
  exact ⟨machine, run, ring_safe fresh run, rfl⟩

section Queue

variable {ring : RingSize} {start machine : RingMachine Entry} {log : RingLog Entry}

/-- Between its indices the ring holds what was published and not given back. -/
theorem queued_eq {base : UInt32} {memory : RingMemory Entry} {channel : Channel Entry}
    (represents : Represents ring base memory channel) :
    queued ring memory =
      (channel.tape.drop channel.released).take (channel.published - channel.released) := by
  have high := represents.ordered.published_le
  apply List.ext_getElem?
  intro offset
  rw [queued, represents.distance, List.getElem?_map, List.getElem?_take]
  by_cases inside : offset < channel.published - channel.released
  · have written : channel.released + offset < channel.tape.length := by omega
    have placed := List.getElem?_eq_getElem written
    rw [List.getElem?_range inside, if_pos inside, List.getElem?_drop, placed, Option.map_some,
      represents.consumer, ← represents.stored _ _ (Nat.le_add_right _ _) placed, indexAt, indexAt_add]
  · rw [if_neg inside, List.getElem?_eq_none (by simpa using inside), Option.map_none]

/-- Publishing the rest of the tape appends it to what is queued. -/
theorem published_append {channel : Channel Entry} {capacity count : Nat}
    (ordered : channel.Ordered capacity)
    (rest : (channel.tape.drop channel.published).length = count) :
    (channel.tape.drop channel.released).take (channel.published + count - channel.released) =
      (channel.tape.drop channel.released).take (channel.published - channel.released) ++
        channel.tape.drop channel.published := by
  have low := ordered.released_le_published
  have high := ordered.published_le
  have split : channel.tape.drop channel.published =
      (channel.tape.drop channel.released).drop (channel.published - channel.released) := by
    rw [List.drop_drop]
    congr 1
    omega
  rw [split, List.take_append_drop]
  rw [List.length_drop] at rest
  exact List.take_of_length_le (by rw [List.length_drop]; omega)

/-- What was read and not given back is the front of what is queued. -/
theorem queued_front {channel : Channel Entry} {capacity : Nat} {reads : List Entry}
    (ordered : channel.Ordered capacity) (front : reads <+: channel.tape)
    (counted : reads.length = channel.read) :
    ((channel.tape.drop channel.released).take (channel.published - channel.released)).take
      (reads.drop channel.released).length = reads.drop channel.released := by
  have read := ordered.read_le
  have inside : reads.drop channel.released <+:
      (channel.tape.drop channel.released).take (channel.published - channel.released) := by
    rw [List.prefix_take_iff]
    refine ⟨front.drop _, ?_⟩
    rw [List.length_drop]
    omega
  exact (List.prefix_iff_eq_take.mp inside).symm

/-- A call of `produce` after whose look nothing was consumed is the queue's. -/
theorem produced_refines {entries : List Entry} {prod cons : UInt32} {count : Nat}
    {next : Party Entry} {after : RingMemory Entry} (fresh : RingStart ring start)
    (run : RingRun ring start log machine)
    (moved : RingStep ring (machine.threads .producer) machine.shared
      (.produced entries prod cons count) next after)
    (current : cons = machine.shared.consumer) {queue : Ring Entry}
    (held : queue.entries = queued ring machine.shared) (sized : queue.size = ring.size.toNat) :
    (queue.produce entries).1.entries = queued ring after ∧ (queue.produce entries).2 = count := by
  obtain ⟨⟨represents, -⟩, holds⟩ := ring_outline fresh run
  obtain ⟨-, own, counted, written, -⟩ := produced_exact represents (holds .producer) moved
  obtain ⟨stepped, -⟩ := producer_step represents (holds .producer) moved
  have enqueued : min (queue.size - queue.entries.length) entries.length = count := by
    rw [counted, held, sized, queued_length, own, current]
  refine ⟨?_, enqueued⟩
  show queue.entries ++ entries.take (min (queue.size - queue.entries.length) entries.length) = _
  rw [enqueued, held, queued_eq represents, queued_eq stepped, RingEvent.extend_produced, ← written]
  exact (published_append represents.ordered (by rw [written, List.length_take]; omega)).symm

/-- A call of `consume` after whose look nothing was produced is the queue's. -/
theorem consumed_refines {out filled : List Entry} {prod cons : UInt32} {count : Nat}
    {next : Party Entry} {after : RingMemory Entry} (fresh : RingStart ring start)
    (run : RingRun ring start log machine)
    (moved : RingStep ring (machine.threads .consumer) machine.shared
      (.consumed out prod cons count filled) next after)
    (current : prod = machine.shared.producer) {queue : Ring Entry}
    (held : queue.entries = queued ring machine.shared) :
    (queue.consume out).1.entries = queued ring after ∧ (queue.consume out).2 = (filled, count) := by
  obtain ⟨⟨represents, front⟩, holds⟩ := ring_outline fresh run
  obtain ⟨-, own, counted, copied, length, -⟩ := consumed_exact represents (holds .consumer) moved
  obtain ⟨stepped, -⟩ := consumer_step rfl represents (holds .consumer) moved
  have dequeued : min queue.entries.length out.length = count := by
    rw [counted, held, queued_length, own, current]
  rw [RingEvent.extend_consumed] at stepped
  have kept : queue.entries.drop count = queued ring after := by
    rw [held, queued_eq represents, queued_eq stepped, List.drop_take, List.drop_drop,
      Nat.sub_sub]
  have taken : queue.entries.take count = (readFrom log).drop (releasedIn log) := by
    rw [held, queued_eq represents, ← length]
    exact queued_front represents.ordered front rfl
  refine ⟨?_, ?_⟩
  · show queue.entries.drop (min queue.entries.length out.length) = _
    rw [dequeued, kept]
  · show (queue.entries.take (min queue.entries.length out.length) ++
      out.drop (min queue.entries.length out.length), min queue.entries.length out.length) = _
    rw [dequeued, taken, copied]
    rfl

section Returns

/-- A side goes on alone until it is idle again; its last access is `event`. -/
def RunsAlone (ring : RingSize) (start : RingMachine Entry) (log : RingLog Entry) (side : Side)
    (idle : Party Entry) (event : RingEvent Entry) : Prop :=
  ∃ more last, RingRun ring start (log ++ more ++ [(side, event)]) last ∧
    (∀ step ∈ more, step.1 = side) ∧ last.threads side = idle

variable {side : Side} {idle : Party Entry} {event made : RingEvent Entry}

/-- One more access of the same side in front. -/
theorem RunsAlone.after (rest : RunsAlone ring start (log ++ [(side, made)]) side idle event) :
    RunsAlone ring start log side idle event := by
  obtain ⟨more, last, run, alone, ended⟩ := rest
  refine ⟨(side, made) :: more, last, by simpa using run, ?_, ended⟩
  intro step member
  rcases List.mem_cons.mp member with rfl | member
  · rfl
  · exact alone step member

/-- The loop of `produce` needs nobody's help to finish. -/
theorem writing_returns {entries : List Entry} {prod cons : UInt32} {remaining done : Nat}
    (run : RingRun ring start log machine)
    (standing : machine.threads .producer = .producing (.writing entries prod cons done))
    (left : done + remaining = produceCount ring prod cons entries.length) :
    RunsAlone ring start log .producer (.producing .idle)
      (.produced entries prod cons (produceCount ring prod cons entries.length)) := by
  induction remaining generalizing log machine done with
  | zero =>
    have finished : done = produceCount ring prod cons entries.length := left
    have stored := run.advance .producer standing trivial (.storeProducer finished)
    rw [finished] at stored
    exact ⟨[], _, by simpa using stored, by simp, Machine.move_threads_self ..⟩
  | succ remaining ih =>
    have more : done < produceCount ring prod cons entries.length := by omega
    have inside : done < entries.length := Nat.lt_of_lt_of_le more (produceCount_le _ _ _)
    have written := run.advance .producer standing trivial
      (.writeEntry more (List.getElem?_eq_getElem inside))
    exact (ih written (Machine.move_threads_self ..) (by omega)).after

/-- A call of `produce` returns, with the count for the indices it finds. -/
theorem produce_returns (run : RingRun ring start log machine)
    (standing : machine.threads .producer = .producing .idle) {entries : List Entry}
    (some : entries ≠ []) :
    RunsAlone ring start log .producer (.producing .idle)
      (.produced entries machine.shared.producer machine.shared.consumer
        (produceCount ring machine.shared.producer machine.shared.consumer entries.length)) := by
  have called := run.advance .producer standing trivial (.produceCall entries)
  have entered : (if entries.isEmpty then ProduceCall.idle else .entered entries) =
      .entered entries := by simp [some]
  rw [entered] at called
  have loaded := called.advance .producer (Machine.move_threads_self ..) trivial .loadProducer
  have looked := loaded.advance .producer (Machine.move_threads_self ..) trivial .lookConsumer
  exact (writing_returns looked (Machine.move_threads_self ..) (Nat.zero_add _)).after.after.after

/-- The loop of `consume` needs nobody's help to finish. -/
theorem reading_returns {out got : List Entry} {prod cons : UInt32} {remaining : Nat}
    (run : RingRun ring start log machine)
    (standing : machine.threads .consumer = .consuming (.reading out prod cons got))
    (left : got.length + remaining = consumeCount prod cons out.length) :
    ∃ filled, RunsAlone ring start log .consumer (.consuming .idle)
      (.consumed out prod cons (consumeCount prod cons out.length) filled) := by
  induction remaining generalizing log machine got with
  | zero =>
    have finished : got.length = consumeCount prod cons out.length := left
    have stored := run.advance .consumer standing trivial (.storeConsumer finished)
    rw [finished] at stored
    exact ⟨_, [], _, by simpa using stored, by simp, Machine.move_threads_self ..⟩
  | succ remaining ih =>
    have more : got.length < consumeCount prod cons out.length := by omega
    have read := run.advance .consumer standing trivial (.readEntry more)
    obtain ⟨filled, rest⟩ := ih read (Machine.move_threads_self ..) (by simp; omega)
    exact ⟨filled, rest.after⟩

/-- A call of `consume` returns, with the count for the indices it finds. -/
theorem consume_returns (run : RingRun ring start log machine)
    (standing : machine.threads .consumer = .consuming .idle) {out : List Entry}
    (some : out ≠ []) :
    ∃ filled, RunsAlone ring start log .consumer (.consuming .idle)
      (.consumed out machine.shared.producer machine.shared.consumer
        (consumeCount machine.shared.producer machine.shared.consumer out.length) filled) := by
  have called := run.advance .consumer standing trivial (.consumeCall out)
  have entered : (if out.isEmpty then ConsumeCall.idle else .entered out) = .entered out := by
    simp [some]
  rw [entered] at called
  have loaded := called.advance .consumer (Machine.move_threads_self ..) trivial .loadConsumer
  have looked := loaded.advance .consumer (Machine.move_threads_self ..) trivial .lookProducer
  obtain ⟨filled, rest⟩ :=
    reading_returns looked (Machine.move_threads_self ..) (Nat.zero_add _)
  exact ⟨filled, rest.after.after.after⟩

end Returns

end Queue

end Pesigitg
