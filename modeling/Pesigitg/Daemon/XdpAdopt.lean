import Pesigitg.Daemon.WorkerSocket

/-!
# The raw AF_XDP socket

`AdoptedSocket` talks to the kernel through four rings. A ring is modelled by the entries between
its two indices, oldest first; the kernel is a parameter that may move frames between the rings
whenever the worker makes a call. `AdoptedSocket.contract` shows that this socket keeps the
promises the worker loop relies on.
-/

namespace Pesigitg

open Base

/-- A bounded queue that one side fills and the other drains. -/
structure Ring (Entry : Type) where
  entries : List Entry
  size : Nat
  fits : entries.length ≤ size

namespace Ring

variable {Entry : Type}

/-- Enqueue as many entries as are free; the result says how many. -/
def produce (ring : Ring Entry) (items : List Entry) : Ring Entry × Nat :=
  let count := min (ring.size - ring.entries.length) items.length
  (⟨ring.entries ++ items.take count, ring.size, by
    have fits := ring.fits
    simp only [List.length_append, List.length_take]
    omega⟩, count)

/-- The ring without its oldest entries. -/
def release (ring : Ring Entry) (count : Nat) : Ring Entry where
  entries := ring.entries.drop count
  size := ring.size
  fits := by
    have fits := ring.fits
    simp only [List.length_drop]
    omega

/-- Dequeue into the front of `out`; the result says how many entries were written. -/
def consume (ring : Ring Entry) (out : List Entry) : Ring Entry × List Entry × Nat :=
  let count := min ring.entries.length out.length
  (ring.release count, ring.entries.take count ++ out.drop count, count)

/-- A ring accepts a first part of what it is given. -/
theorem produce_spec {ring after : Ring Entry} {items : List Entry} {count : Nat}
    (done : ring.produce items = (after, count)) :
    count ≤ items.length ∧ after.entries = ring.entries ++ items.take count := by
  cases done
  exact ⟨Nat.min_le_right _ _, rfl⟩

/-- A ring with room for all of its input takes all of it. -/
theorem produce_whole (ring : Ring Entry) (items : List Entry)
    (room : ring.entries.length + items.length ≤ ring.size) :
    (ring.produce items).1.entries = ring.entries ++ items ∧
      (ring.produce items).2 = items.length := by
  have count : min (ring.size - ring.entries.length) items.length = items.length := by omega
  refine ⟨?_, count⟩
  show ring.entries ++ items.take (min (ring.size - ring.entries.length) items.length) = _
  rw [count, List.take_length]

/-- A ring hands out its oldest entries and keeps the rest. -/
theorem consume_spec {ring after : Ring Entry} {out filled : List Entry} {count : Nat}
    (done : ring.consume out = (after, filled, count)) :
    filled.length = out.length ∧ count ≤ out.length ∧
      ring.entries = filled.take count ++ after.entries := by
  cases done
  refine ⟨?_, Nat.min_le_right _ _, ?_⟩
  · simp only [List.length_append, List.length_take, List.length_drop]
    omega
  · rw [List.take_append_of_le_length (by simp), List.take_of_length_le (by simp), release,
      List.take_append_drop]

end Ring

/-- A descriptor of the receive and transmit rings. -/
structure XdpDesc where
  addr : UInt64
  len : UInt32
  options : UInt32
deriving DecidableEq, Repr

/-- An AF_XDP socket over a packet memory that is cut into chunks of one size. -/
structure AdoptedSocket where
  umem : Bytes
  rx : Ring XdpDesc
  tx : Ring XdpDesc
  fill : Ring UInt64
  comp : Ring UInt64
  /-- Addresses the kernel has taken from a ring and not yet given back. -/
  inKernel : List UInt64
  /-- How many times the kernel has run. -/
  turn : Nat

/-- The chunks that a list of addresses lies in. -/
def addrChunks (chunkSize : Nat) (addrs : List UInt64) : Multiset Nat :=
  ↑(addrs.map fun addr => addr.toNat / chunkSize)

/-- The chunks of two lists add up. -/
@[simp] theorem addrChunks_append (chunkSize : Nat) (left right : List UInt64) :
    addrChunks chunkSize (left ++ right) =
      addrChunks chunkSize left + addrChunks chunkSize right := by
  simp [addrChunks]

/-- Cutting a list loses no chunk. -/
theorem addrChunks_take_add_drop (chunkSize : Nat) (addrs : List UInt64) (count : Nat) :
    addrChunks chunkSize (addrs.take count) + addrChunks chunkSize (addrs.drop count) =
      addrChunks chunkSize addrs := by
  rw [← addrChunks_append, List.take_append_drop]

namespace AdoptedSocket

variable {chunkSize : Nat}

/-- Every chunk that is in a ring or in the kernel. -/
def held (chunkSize : Nat) (xsk : AdoptedSocket) : Multiset Nat :=
  addrChunks chunkSize (xsk.rx.entries.map XdpDesc.addr) +
    addrChunks chunkSize (xsk.tx.entries.map XdpDesc.addr) +
    addrChunks chunkSize xsk.fill.entries + addrChunks chunkSize xsk.comp.entries +
    addrChunks chunkSize xsk.inKernel

/-- The other side of the rings: what it does between the worker's calls, and whether a poll
reports frames. It moves each frame it takes on once. -/
structure Kernel (chunkSize : Nat) where
  run : AdoptedSocket → AdoptedSocket
  readable : AdoptedSocket → Bool
  run_held : ∀ xsk, (run xsk).held chunkSize = xsk.held chunkSize

variable (kernel : Kernel chunkSize)

/-- Let the kernel act. -/
def advance (xsk : AdoptedSocket) : AdoptedSocket :=
  { kernel.run xsk with turn := xsk.turn + 1 }

/-- The kernel loses no chunk. -/
theorem held_advance (xsk : AdoptedSocket) :
    (xsk.advance kernel).held chunkSize = xsk.held chunkSize := kernel.run_held xsk

def pollRecv (xsk : AdoptedSocket) (descs : List XdpDesc) : AdoptedSocket × List XdpDesc × Nat :=
  let xsk := xsk.advance kernel
  if kernel.readable xsk then
    let (rx, filled, count) := xsk.rx.consume descs
    ({ xsk with rx := rx }, filled, count)
  else (xsk, descs, 0)

/-- The chunk that starts at the descriptor's address, with its live length. -/
def frameMut (chunkSize : Nat) (xsk : AdoptedSocket) (desc : XdpDesc) : FrameView :=
  let buf := (xsk.umem.drop desc.addr.toNat).take chunkSize
  if fits : desc.len.toNat ≤ buf.length then ⟨buf, desc.len.toNat, fits⟩
  -- The kernel reports no packet that is longer than its chunk.
  else ⟨buf, buf.length, Nat.le_refl _⟩

/-- A view writes through to the packet memory and to the length in the descriptor. -/
def storeView (xsk : AdoptedSocket) (desc : XdpDesc) (view : FrameView) :
    AdoptedSocket × XdpDesc :=
  let start := desc.addr.toNat
  ({ xsk with
      umem := xsk.umem.take start ++ view.chunk ++ xsk.umem.drop (start + view.chunk.length) },
    { desc with len := UInt32.ofNat view.len })

def transmit (xsk : AdoptedSocket) (descs : List XdpDesc) : AdoptedSocket × Nat :=
  let xsk := xsk.advance kernel
  let (tx, count) := xsk.tx.produce descs
  ({ xsk with tx := tx }, count)

def refillDescs (xsk : AdoptedSocket) (descs : List XdpDesc) : AdoptedSocket × Nat :=
  let xsk := xsk.advance kernel
  let (fill, count) := xsk.fill.produce (descs.map XdpDesc.addr)
  ({ xsk with fill := fill }, count)

/-- A completed frame comes back as an address only. -/
def completedDesc (addr : UInt64) : XdpDesc := ⟨addr, 0, 0⟩

def completeDescs (xsk : AdoptedSocket) (scratch : List XdpDesc) :
    AdoptedSocket × List XdpDesc × Nat × Nat :=
  let xsk := xsk.advance kernel
  let (comp, addrs, consumed) := xsk.comp.consume (List.replicate scratch.length 0)
  let filled := (addrs.take consumed).map completedDesc ++ scratch.drop consumed
  let xsk := { xsk with comp := comp }
  if 0 < consumed then
    let (fill, refilled) := xsk.fill.produce (addrs.take consumed)
    ({ xsk with fill := fill }, filled, consumed, refilled)
  else (xsk, filled, consumed, 0)

/-- The socket as the worker calls it. -/
def socket : AfXdpSocket AdoptedSocket XdpDesc where
  zeroFrame := ⟨0, 0, 0⟩
  pollRecv xsk descs _ := pollRecv kernel xsk descs
  frameView := frameMut chunkSize
  storeView := storeView
  transmit := transmit kernel
  refill := refillDescs kernel
  complete := completeDescs kernel

section Specs

variable {kernel} {xsk after : AdoptedSocket}

/-- The chunk that a descriptor lies in. -/
def descChunk (chunkSize : Nat) (desc : XdpDesc) : Nat := desc.addr.toNat / chunkSize

/-- The chunk of a descriptor is that of its address. -/
theorem coe_map_descChunk (descs : List XdpDesc) :
    ((descs.map (descChunk chunkSize) : List Nat) : Multiset Nat) =
      addrChunks chunkSize (descs.map XdpDesc.addr) := by
  rw [addrChunks, List.map_map]
  rfl

/-- Receiving hands the chunks of the received frames to the worker. -/
theorem pollRecv_spec {descs filled : List XdpDesc} {count : Nat}
    (done : pollRecv kernel xsk descs = (after, filled, count)) :
    filled.length = descs.length ∧ count ≤ descs.length ∧
      after.held chunkSize + ↑((filled.take count).map (descChunk chunkSize)) =
        xsk.held chunkSize := by
  rw [← held_advance kernel xsk, coe_map_descChunk]
  simp only [pollRecv] at done
  split at done
  · rcases taken : (xsk.advance kernel).rx.consume descs with ⟨rx, received, number⟩
    obtain ⟨sized, inside, entries⟩ := Ring.consume_spec taken
    rw [taken] at done
    cases done
    refine ⟨sized, inside, ?_⟩
    simp only [held]
    rw [entries, List.map_append, addrChunks_append]
    abel
  · cases done
    simp [addrChunks]

/-- Transmitting takes the chunks of the accepted frames back. -/
theorem transmit_spec {descs : List XdpDesc} {count : Nat}
    (done : transmit kernel xsk descs = (after, count)) :
    count ≤ descs.length ∧ after.held chunkSize =
      xsk.held chunkSize + ↑((descs.take count).map (descChunk chunkSize)) := by
  rw [← held_advance kernel xsk, coe_map_descChunk]
  rcases given : (xsk.advance kernel).tx.produce descs with ⟨tx, number⟩
  obtain ⟨inside, entries⟩ := Ring.produce_spec given
  simp only [transmit, given] at done
  cases done
  refine ⟨inside, ?_⟩
  simp only [held]
  rw [entries, List.map_append, addrChunks_append]
  abel

/-- So does a refill. -/
theorem refillDescs_spec {descs : List XdpDesc} {count : Nat}
    (done : refillDescs kernel xsk descs = (after, count)) :
    count ≤ descs.length ∧ after.held chunkSize =
      xsk.held chunkSize + ↑((descs.take count).map (descChunk chunkSize)) := by
  rw [← held_advance kernel xsk, coe_map_descChunk]
  rcases given : (xsk.advance kernel).fill.produce (descs.map XdpDesc.addr) with ⟨fill, number⟩
  obtain ⟨inside, entries⟩ := Ring.produce_spec given
  simp only [refillDescs, given] at done
  cases done
  rw [List.length_map] at inside
  refine ⟨inside, ?_⟩
  simp only [held]
  rw [entries, addrChunks_append, List.map_take]
  abel

/-- Completions hand over the chunks that could not be refilled right away. -/
theorem completeDescs_spec {scratch filled : List XdpDesc} {consumed refilled : Nat}
    (done : completeDescs kernel xsk scratch = (after, filled, consumed, refilled)) :
    filled.length = scratch.length ∧ refilled ≤ consumed ∧ consumed ≤ scratch.length ∧
      after.held chunkSize + ↑(((filled.take consumed).drop refilled).map (descChunk chunkSize)) =
        xsk.held chunkSize := by
  rw [← held_advance kernel xsk, coe_map_descChunk]
  rcases taken : (xsk.advance kernel).comp.consume (List.replicate scratch.length 0) with
    ⟨comp, addrs, number⟩
  obtain ⟨sized, inside, entries⟩ := Ring.consume_spec taken
  rw [List.length_replicate] at sized inside
  have width : (addrs.take number).length = number := by
    rw [List.length_take]
    omega
  -- The front of the scratch buffer names the completed addresses.
  have front : ∀ tail : List XdpDesc, (((addrs.take number).map completedDesc ++ tail).take
      number).map XdpDesc.addr = addrs.take number := by
    intro tail
    have frontLength : ((addrs.take number).map completedDesc).length = number := by
      rw [List.length_map, width]
    rw [List.take_append_of_le_length (Nat.le_of_eq frontLength.symm),
      List.take_of_length_le (Nat.le_of_eq frontLength), List.map_map]
    exact List.map_id _
  simp only [completeDescs, taken] at done
  split at done
  · rcases given : (xsk.advance kernel).fill.produce (addrs.take number) with ⟨fill, back⟩
    obtain ⟨backLe, filledEntries⟩ := Ring.produce_spec given
    have parts := addrChunks_take_add_drop chunkSize (addrs.take number) back
    simp only [given] at done
    cases done
    refine ⟨by simp; omega, by omega, inside, ?_⟩
    rw [List.map_drop, front]
    simp only [held]
    rw [entries, filledEntries, addrChunks_append, addrChunks_append]
    rw [← parts]
    abel
  · cases done
    refine ⟨by simp; omega, Nat.zero_le _, inside, ?_⟩
    rw [List.drop_zero, front]
    simp only [held]
    rw [entries, addrChunks_append]
    abel

end Specs

/-- The raw socket keeps the contract, whatever the kernel does. -/
def contract : (socket kernel).Contract Nat where
  chunk := descChunk chunkSize
  held := held chunkSize
  pollRecv_spec done := pollRecv_spec done
  storeView_spec done := by
    cases done
    exact ⟨rfl, rfl⟩
  transmit_spec done := transmit_spec done
  refill_spec done := refillDescs_spec done
  complete_spec done := completeDescs_spec done

end AdoptedSocket

end Pesigitg
