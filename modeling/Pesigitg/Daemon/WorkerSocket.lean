import Mathlib.Data.Multiset.MapFold
import Mathlib.Algebra.Order.Group.Multiset
import Mathlib.Tactic.Abel
import Pesigitg.Retry.Datapath

/-!
# AF_XDP sockets

The worker loop is generic over its socket. `AfXdpSocket` is the interface it calls, and
`AfXdpSocket.Contract` is what it relies on: the socket knows which chunks of the packet memory it
and the kernel hold, and every call moves chunks between them and the caller, each chunk once.
-/

namespace Pesigitg

/-- The calls the worker makes on a socket. `Frame` is the descriptor that goes through the
rings. -/
structure AfXdpSocket (Socket Frame : Type) where
  zeroFrame : Frame
  pollRecv : Socket → List Frame → Int → Socket × List Frame × Nat
  frameView : Socket → Frame → FrameView
  /-- The socket and the descriptor once a view of the frame has been written to. -/
  storeView : Socket → Frame → FrameView → Socket × Frame
  transmit : Socket → List Frame → Socket × Nat
  refill : Socket → List Frame → Socket × Nat
  complete : Socket → List Frame → Socket × List Frame × Nat × Nat

variable {Socket Frame : Type}

/-- What every socket promises. -/
structure AfXdpSocket.Contract (socket : AfXdpSocket Socket Frame) (Chunk : Type) where
  /-- The chunk of packet memory that a descriptor names. -/
  chunk : Frame → Chunk
  /-- The chunks that the socket and the kernel hold. -/
  held : Socket → Multiset Chunk
  pollRecv_spec : ∀ {xsk after descs filled timeout count},
    socket.pollRecv xsk descs timeout = (after, filled, count) →
      filled.length = descs.length ∧ count ≤ descs.length ∧
        held after + ↑((filled.take count).map chunk) = held xsk
  storeView_spec : ∀ {xsk after desc stored view},
    socket.storeView xsk desc view = (after, stored) →
      chunk stored = chunk desc ∧ held after = held xsk
  transmit_spec : ∀ {xsk after descs count},
    socket.transmit xsk descs = (after, count) →
      count ≤ descs.length ∧ held after = held xsk + ↑((descs.take count).map chunk)
  refill_spec : ∀ {xsk after descs count},
    socket.refill xsk descs = (after, count) →
      count ≤ descs.length ∧ held after = held xsk + ↑((descs.take count).map chunk)
  /-- The completed frames leave the socket, and the first of them go back at once. -/
  complete_spec : ∀ {xsk after scratch filled consumed refilled},
    socket.complete xsk scratch = (after, filled, consumed, refilled) →
      filled.length = scratch.length ∧ refilled ≤ consumed ∧ consumed ≤ scratch.length ∧
        held after + ↑(((filled.take consumed).drop refilled).map chunk) = held xsk

namespace AfXdpSocket.Contract

variable {socket : AfXdpSocket Socket Frame} {Chunk : Type} (contract : socket.Contract Chunk)

/-- The chunks that a list of descriptors names. -/
def chunks (frames : List Frame) : Multiset Chunk := ↑(frames.map contract.chunk)

/-- No frames, no chunks. -/
@[simp] theorem chunks_nil : contract.chunks [] = 0 := rfl

/-- The chunks of two lists add up. -/
@[simp] theorem chunks_append (left right : List Frame) :
    contract.chunks (left ++ right) = contract.chunks left + contract.chunks right := by
  simp [chunks]

/-- The chunk of the first frame can be split off. -/
@[simp] theorem chunks_cons (frame : Frame) (frames : List Frame) :
    contract.chunks (frame :: frames) = contract.chunk frame ::ₘ contract.chunks frames := rfl

/-- Cutting a list loses no chunk. -/
theorem chunks_take_add_drop (frames : List Frame) (count : Nat) :
    contract.chunks (frames.take count) + contract.chunks (frames.drop count) =
      contract.chunks frames := by
  rw [← chunks_append, List.take_append_drop]

/-- The chunk of a frame is among those of its list. -/
theorem mem_chunks_of_mem {frame : Frame} {frames : List Frame} (member : frame ∈ frames) :
    contract.chunk frame ∈ contract.chunks frames :=
  Multiset.mem_coe.mpr (List.mem_map_of_mem member)

end AfXdpSocket.Contract

end Pesigitg
