import Pesigitg.Daemon.Router

/-!
# The worker on the shared packet memory

The raw socket hands out descriptors of one packet memory that the kernel writes to as well. As
long as no chunk is handed out twice and the kernel only writes to chunks it was given, a packet
that has been received or waits to be sent stays as it is, and rewriting one packet changes no
other. So the raw socket keeps the promises that the refinement asks for
(`AdoptedSocket.packets`), and its worker is a router.
-/

namespace Pesigitg

open Base

namespace AdoptedSocket

variable {chunkSize reach : Nat} {xsk after : AdoptedSocket} {desc : XdpDesc}

/-- The bytes of one chunk. -/
def chunkBytes (chunkSize : Nat) (umem : Bytes) (chunk : Nat) : Bytes :=
  (umem.drop (chunk * chunkSize)).take chunkSize

/-- The packet that a descriptor names. -/
def packet (chunkSize : Nat) (xsk : AdoptedSocket) (desc : XdpDesc) : Bytes :=
  (frameMut chunkSize xsk desc).contents

/-- The packet, or a reply in its place, ends in the chunk it starts in, and the chunk is part of
the memory. -/
structure Placed (chunkSize reach : Nat) (xsk : AdoptedSocket) (desc : XdpDesc) : Prop where
  inside : (descChunk chunkSize desc + 1) * chunkSize ≤ xsk.umem.length
  fits : desc.addr.toNat % chunkSize + max desc.len.toNat reach ≤ chunkSize

/-- The packets of the two rings of descriptors, and every chunk once. -/
structure Sound (chunkSize reach : Nat) (xsk : AdoptedSocket) : Prop where
  once : (xsk.held chunkSize).Nodup
  received : ∀ desc ∈ xsk.rx.entries, Placed chunkSize reach xsk desc
  waiting : ∀ desc ∈ xsk.tx.entries, Placed chunkSize reach xsk desc

def inbox (chunkSize : Nat) (xsk : AdoptedSocket) : List Bytes :=
  xsk.rx.entries.map (packet chunkSize xsk)

def outbox (chunkSize : Nat) (xsk : AdoptedSocket) : List Bytes :=
  xsk.tx.entries.map (packet chunkSize xsk)

/-- A move of the kernel that writes only to chunks it has taken, and reports what it received as
it lies there. -/
structure CarefulStep (chunkSize reach : Nat) (xsk after : AdoptedSocket) : Prop where
  step : KernelStep chunkSize xsk after
  sized : after.umem.length = xsk.umem.length
  untouched : ∀ chunk, chunk ∉ addrChunks chunkSize xsk.inKernel →
    chunkBytes chunkSize after.umem chunk = chunkBytes chunkSize xsk.umem chunk
  received : ∀ desc ∈ after.rx.entries, desc ∈ xsk.rx.entries ∨
    Placed chunkSize reach after desc

/-- A kernel that only makes such moves. -/
def Kernel.Careful (kernel : Kernel chunkSize) (reach : Nat) : Prop :=
  ∀ xsk, Relation.ReflTransGen (CarefulStep chunkSize reach) xsk (kernel.run xsk)

section Memory

/-- A packet stays placed while the memory keeps its size. -/
theorem Placed.of_sized (placed : Placed chunkSize reach xsk desc)
    (sized : after.umem.length = xsk.umem.length) : Placed chunkSize reach after desc :=
  ⟨sized ▸ placed.inside, placed.fits⟩

/-- Where a placed packet starts and what is there behind it. -/
theorem Placed.bounds (placed : Placed chunkSize reach xsk desc) :
    desc.addr.toNat = descChunk chunkSize desc * chunkSize + desc.addr.toNat % chunkSize ∧
      desc.addr.toNat + max desc.len.toNat reach ≤ xsk.umem.length := by
  have start : desc.addr.toNat =
      descChunk chunkSize desc * chunkSize + desc.addr.toNat % chunkSize := by
    rw [descChunk, Nat.mul_comm]
    exact (Nat.div_add_mod _ _).symm
  refine ⟨start, ?_⟩
  have inside := placed.inside
  have fits := placed.fits
  rw [Nat.add_mul, Nat.one_mul] at inside
  omega

/-- The memory behind a packet's address holds it, or a reply in its place. -/
theorem Placed.buffer_length (placed : Placed chunkSize reach xsk desc) :
    max desc.len.toNat reach ≤ ((xsk.umem.drop desc.addr.toNat).take chunkSize).length := by
  obtain ⟨-, inside⟩ := placed.bounds
  have fits := placed.fits
  rw [List.length_take, List.length_drop]
  omega

/-- The view of a placed packet is its chunk, with the length that the descriptor says. -/
theorem Placed.frameMut_eq (placed : Placed chunkSize reach xsk desc) :
    (frameMut chunkSize xsk desc).chunk = (xsk.umem.drop desc.addr.toNat).take chunkSize ∧
      (frameMut chunkSize xsk desc).len = desc.len.toNat := by
  have long := Nat.le_trans (Nat.le_max_left _ _) placed.buffer_length
  simp only [frameMut, dif_pos long, and_self]

/-- There is room for a reply. -/
theorem Placed.le_capacity (placed : Placed chunkSize reach xsk desc) :
    reach ≤ (frameMut chunkSize xsk desc).capacity := by
  rw [FrameView.capacity, placed.frameMut_eq.1]
  exact Nat.le_trans (Nat.le_max_right _ _) placed.buffer_length

/-- A packet is part of its chunk. -/
theorem Placed.packet_eq (placed : Placed chunkSize reach xsk desc) :
    packet chunkSize xsk desc =
      ((chunkBytes chunkSize xsk.umem (descChunk chunkSize desc)).drop
        (desc.addr.toNat % chunkSize)).take desc.len.toNat := by
  obtain ⟨start, -⟩ := placed.bounds
  obtain ⟨chunk, len⟩ := placed.frameMut_eq
  have fits := placed.fits
  rw [packet, FrameView.contents, chunk, len, chunkBytes, List.drop_take, List.drop_drop, ← start,
    List.take_take, List.take_take, Nat.min_eq_left (by omega), Nat.min_eq_left (by omega)]

/-- The packet stays while its chunk does. -/
theorem Placed.packet_congr (placed : Placed chunkSize reach xsk desc)
    (sized : after.umem.length = xsk.umem.length)
    (same : chunkBytes chunkSize after.umem (descChunk chunkSize desc) =
      chunkBytes chunkSize xsk.umem (descChunk chunkSize desc)) :
    packet chunkSize after desc = packet chunkSize xsk desc := by
  rw [(placed.of_sized sized).packet_eq, placed.packet_eq, same]

end Memory

section Kernels

/-- The chunk of a descriptor is among those of its list. -/
theorem mem_addrChunks {descs : List XdpDesc} (member : desc ∈ descs) :
    descChunk chunkSize desc ∈ addrChunks chunkSize (descs.map XdpDesc.addr) := by
  rw [← coe_map_descChunk]
  exact Multiset.mem_coe.mpr (List.mem_map_of_mem member)

/-- What stands in the receive or the transmit ring is not with the kernel. -/
theorem Sound.not_inKernel (sound : Sound chunkSize reach xsk)
    (member : desc ∈ xsk.rx.entries ∨ desc ∈ xsk.tx.entries) :
    descChunk chunkSize desc ∉ addrChunks chunkSize xsk.inKernel := by
  have once := sound.once
  rw [held, Multiset.nodup_add] at once
  refine Multiset.disjoint_left.mp once.2.2 ?_
  simp only [Multiset.mem_add]
  rcases member with received | waiting
  · exact .inl (.inl (.inl (mem_addrChunks received)))
  · exact .inl (.inl (.inr (mem_addrChunks waiting)))

/-- The rings that the worker reads packets from and writes them to: one grows at its end, the
other shrinks at its front. -/
theorem KernelStep.rings (step : KernelStep chunkSize xsk after) :
    (∃ arrivals, after.rx.entries = xsk.rx.entries ++ arrivals) ∧
      ∃ sent, after.tx.entries = xsk.tx.entries.drop sent := by
  cases step with
  | takeFill oldest => exact ⟨⟨[], (List.append_nil _).symm⟩, 0, rfl⟩
  | @receive addr before later desc umem taken same room =>
    exact ⟨⟨[desc], (xsk.rx.produce_whole [desc] room).1⟩, 0, rfl⟩
  | takeTx oldest => exact ⟨⟨[], (List.append_nil _).symm⟩, 1, rfl⟩
  | complete taken same room => exact ⟨⟨[], (List.append_nil _).symm⟩, 0, rfl⟩

/-- The kernel acted: the rings moved on, and no packet changed that it did not have. -/
structure Acted (chunkSize reach : Nat) (xsk after : AdoptedSocket) : Prop where
  sound : Sound chunkSize reach after
  moved : Moved (inbox chunkSize xsk) (outbox chunkSize xsk) (inbox chunkSize after)
    (outbox chunkSize after)
  held : after.held chunkSize = xsk.held chunkSize
  kept : ∀ desc, Placed chunkSize reach xsk desc → descChunk chunkSize desc ∉ xsk.held chunkSize →
    Placed chunkSize reach after desc ∧ packet chunkSize after desc = packet chunkSize xsk desc

/-- A careful move of the kernel only adds received packets and takes waiting ones. -/
theorem CarefulStep.acted (move : CarefulStep chunkSize reach xsk after)
    (sound : Sound chunkSize reach xsk) : Acted chunkSize reach xsk after := by
  have kept (desc : XdpDesc) (placed : Placed chunkSize reach xsk desc)
      (elsewhere : descChunk chunkSize desc ∉ addrChunks chunkSize xsk.inKernel) :
      Placed chunkSize reach after desc ∧
        packet chunkSize after desc = packet chunkSize xsk desc :=
    ⟨placed.of_sized move.sized, placed.packet_congr move.sized (move.untouched _ elsewhere)⟩
  have received (desc : XdpDesc) (member : desc ∈ xsk.rx.entries) :=
    kept desc (sound.received desc member) (sound.not_inKernel (.inl member))
  have waiting (desc : XdpDesc) (member : desc ∈ xsk.tx.entries) :=
    kept desc (sound.waiting desc member) (sound.not_inKernel (.inr member))
  obtain ⟨⟨arrivals, rx⟩, sent, tx⟩ := move.step.rings
  have held := move.step.held
  refine ⟨⟨held ▸ sound.once, ?_, ?_⟩, ⟨arrivals.map (packet chunkSize after), sent, ?_, ?_⟩, held,
    ?_⟩
  · intro desc member
    rcases move.received desc member with old | placed
    · exact (received desc old).1
    · exact placed
  · intro desc member
    rw [tx] at member
    exact (waiting desc (List.mem_of_mem_drop member)).1
  · rw [inbox, inbox, rx, List.map_append, List.map_congr_left fun desc member =>
      (received desc member).2]
  · rw [outbox, outbox, tx, ← List.map_drop, List.map_congr_left fun desc member =>
      (waiting desc (List.mem_of_mem_drop member)).2]
  · intro desc placed notHeld
    refine kept desc placed fun taken => notHeld ?_
    rw [AdoptedSocket.held, Multiset.mem_add]
    exact .inr taken

/-- Doing nothing is an action. -/
theorem Acted.refl (sound : Sound chunkSize reach xsk) : Acted chunkSize reach xsk xsk :=
  ⟨sound, .refl _ _, rfl, fun _ placed _ => ⟨placed, rfl⟩⟩

/-- Two actions in a row are one. -/
theorem Acted.trans {last : AdoptedSocket} (first : Acted chunkSize reach xsk after)
    (second : Acted chunkSize reach after last) : Acted chunkSize reach xsk last := by
  refine ⟨second.sound, first.moved.trans second.moved, second.held.trans first.held, ?_⟩
  intro desc placed notHeld
  obtain ⟨placed', same⟩ := first.kept desc placed notHeld
  obtain ⟨placed'', same'⟩ := second.kept desc placed' (first.held ▸ notHeld)
  exact ⟨placed'', same'.trans same⟩

/-- So is any number of careful moves. -/
theorem Acted.of_moves (moves : Relation.ReflTransGen (CarefulStep chunkSize reach) xsk after)
    (sound : Sound chunkSize reach xsk) : Acted chunkSize reach xsk after := by
  induction moves with
  | refl => exact .refl sound
  | tail _ move acted => exact acted.trans (move.acted acted.sound)

/-- The kernel between two calls of the worker. -/
theorem advance_acted {kernel : Kernel chunkSize} (careful : kernel.Careful reach)
    (sound : Sound chunkSize reach xsk) : Acted chunkSize reach xsk (xsk.advance kernel) := by
  have run := Acted.of_moves (careful xsk) sound
  refine ⟨⟨run.sound.once, ?_, ?_⟩, run.moved, run.held, ?_⟩
  · exact fun desc member => (run.sound.received desc member).of_sized rfl
  · exact fun desc member => (run.sound.waiting desc member).of_sized rfl
  · intro desc placed notHeld
    obtain ⟨placed', same⟩ := run.kept desc placed notHeld
    exact ⟨placed'.of_sized rfl, same⟩

end Kernels

section Stores

variable {view : FrameView} {written : XdpDesc}

/-- Outside the bytes that are in reach, the memory is the old one. -/
theorem storeView_umem (placed : Placed chunkSize reach xsk desc)
    (within : (frameMut chunkSize xsk desc).Within reach view)
    (done : storeView xsk desc view = (after, written)) :
    after.umem = xsk.umem.take desc.addr.toNat ++ (view.chunk.take (max desc.len.toNat reach) ++
      xsk.umem.drop (desc.addr.toNat + max desc.len.toNat reach)) := by
  have shape : after.umem = xsk.umem.take desc.addr.toNat ++ view.chunk ++
      xsk.umem.drop (desc.addr.toNat + view.chunk.length) := by
    cases done
    rfl
  obtain ⟨chunk, len⟩ := placed.frameMut_eq
  have sized := within.chunk
  have behind := within.behind
  rw [len, chunk] at behind
  rw [chunk] at sized
  have joined : view.chunk = view.chunk.take (max desc.len.toNat reach) ++
      ((xsk.umem.drop desc.addr.toNat).take chunkSize).drop (max desc.len.toNat reach) := by
    rw [← behind, List.take_append_drop]
  have rest : ((xsk.umem.drop desc.addr.toNat).take chunkSize).drop (max desc.len.toNat reach) ++
      xsk.umem.drop (desc.addr.toNat + view.chunk.length) =
        xsk.umem.drop (desc.addr.toNat + max desc.len.toNat reach) := by
    have whole : (xsk.umem.drop desc.addr.toNat).take chunkSize ++
        xsk.umem.drop (desc.addr.toNat + view.chunk.length) = xsk.umem.drop desc.addr.toNat := by
      rw [sized, ← List.drop_drop, List.length_take, List.take_eq_take_min, List.take_append_drop]
    rw [← List.drop_append_of_le_length placed.buffer_length, whole, List.drop_drop]
  rw [shape, ← rest, ← List.append_assoc (view.chunk.take _), ← joined, List.append_assoc]

/-- Storing a view keeps the size of the memory. -/
theorem storeView_length (placed : Placed chunkSize reach xsk desc)
    (within : (frameMut chunkSize xsk desc).Within reach view)
    (done : storeView xsk desc view = (after, written)) :
    after.umem.length = xsk.umem.length ∧
      (view.chunk.take (max desc.len.toNat reach)).length = max desc.len.toNat reach := by
  have room := placed.buffer_length
  have sized := within.chunk
  rw [placed.frameMut_eq.1] at sized
  have reached : (view.chunk.take (max desc.len.toNat reach)).length =
      max desc.len.toNat reach := by
    rw [List.length_take, sized]
    exact Nat.min_eq_left room
  refine ⟨?_, reached⟩
  obtain ⟨-, inside⟩ := placed.bounds
  rw [storeView_umem placed within done]
  simp only [List.length_append, reached, List.length_take, List.length_drop]
  omega

/-- A view that was written to in reach changes bytes of its own chunk only. -/
theorem storeView_untouched (placed : Placed chunkSize reach xsk desc)
    (within : (frameMut chunkSize xsk desc).Within reach view)
    (done : storeView xsk desc view = (after, written)) {chunk : Nat}
    (other : chunk ≠ descChunk chunkSize desc) :
    chunkBytes chunkSize after.umem chunk = chunkBytes chunkSize xsk.umem chunk := by
  obtain ⟨-, reached⟩ := storeView_length placed within done
  obtain ⟨start, inside⟩ := placed.bounds
  have fits := placed.fits
  rw [chunkBytes, chunkBytes, storeView_umem placed within done]
  rcases Nat.lt_or_gt_of_ne other with before | behind
  · -- The chunk ends before the packet starts.
    have ends : (chunk + 1) * chunkSize ≤ desc.addr.toNat := by
      rw [start]
      exact Nat.le_trans (Nat.mul_le_mul_right _ before) (Nat.le_add_right _ _)
    rw [Nat.add_mul, Nat.one_mul] at ends
    have inFront : chunk * chunkSize + chunkSize ≤ (xsk.umem.take desc.addr.toNat).length := by
      rw [List.length_take]
      omega
    rw [List.take_drop, List.take_drop, List.take_append_of_le_length inFront, List.take_take,
      Nat.min_eq_left ends]
  · -- The chunk starts behind all that was written.
    have starts : desc.addr.toNat + max desc.len.toNat reach ≤ chunk * chunkSize := by
      refine Nat.le_trans ?_ (Nat.mul_le_mul_right chunkSize behind)
      rw [Nat.succ_mul]
      omega
    have front : (xsk.umem.take desc.addr.toNat ++
        view.chunk.take (max desc.len.toNat reach)).length =
          desc.addr.toNat + max desc.len.toNat reach := by
      rw [List.length_append, reached, List.length_take]
      omega
    rw [← List.append_assoc, List.drop_append, List.drop_eq_nil_of_le (by rw [front]; exact starts),
      List.nil_append, front, List.drop_drop, Nat.add_sub_cancel' starts]

/-- The rewritten packet is what the descriptor now names. -/
theorem storeView_written (small : chunkSize < 2 ^ 32) (placed : Placed chunkSize reach xsk desc)
    (within : (frameMut chunkSize xsk desc).Within reach view)
    (done : storeView xsk desc view = (after, written)) :
    Placed chunkSize reach after written ∧ packet chunkSize after written = view.contents := by
  obtain ⟨sized, reached⟩ := storeView_length placed within done
  have umem := storeView_umem placed within done
  have fits := placed.fits
  obtain ⟨-, inside⟩ := placed.bounds
  have short := within.len
  rw [placed.frameMut_eq.2] at short
  have named : written = { desc with len := UInt32.ofNat view.len } := by
    cases done
    rfl
  have length : written.len.toNat = view.len := by
    rw [named, UInt32.toNat_ofNat']
    exact Nat.mod_eq_of_lt (by omega)
  have start : written.addr = desc.addr := by rw [named]
  have there : Placed chunkSize reach after written := by
    refine ⟨?_, ?_⟩
    · rw [descChunk, start, sized]
      exact placed.inside
    · rw [start, length]
      omega
  refine ⟨there, ?_⟩
  obtain ⟨chunk, len⟩ := there.frameMut_eq
  have front : (xsk.umem.take desc.addr.toNat).length = desc.addr.toNat := by
    rw [List.length_take]
    omega
  have behind : after.umem.drop desc.addr.toNat = view.chunk.take (max desc.len.toNat reach) ++
      xsk.umem.drop (desc.addr.toNat + max desc.len.toNat reach) := by
    rw [umem, List.drop_append, List.drop_eq_nil_of_le (Nat.le_of_eq front), List.nil_append, front,
      Nat.sub_self, List.drop_zero]
  rw [packet, FrameView.contents, chunk, len, length, start, behind, List.take_take,
    Nat.min_eq_left (by omega), List.take_append_of_le_length (by omega), List.take_take,
    Nat.min_eq_left short]
  rfl

end Stores

section Calls

variable {kernel : Kernel chunkSize}

/-- Packets are read from the memory only. -/
theorem packet_of_umem (same : after.umem = xsk.umem) (desc : XdpDesc) :
    packet chunkSize after desc = packet chunkSize xsk desc := by
  simp only [packet, frameMut, same]

/-- A call that only gives frames back: the memory and the two rings of packets are as the kernel
left them. -/
theorem gives_back (careful : kernel.Careful reach) (sound : Sound chunkSize reach xsk)
    (once : (after.held chunkSize).Nodup) (umem : after.umem = (xsk.advance kernel).umem)
    (rx : after.rx = (xsk.advance kernel).rx) (tx : after.tx = (xsk.advance kernel).tx) :
    Sound chunkSize reach after ∧
      Moved (inbox chunkSize xsk) (outbox chunkSize xsk) (inbox chunkSize after)
        (outbox chunkSize after) := by
  have acted := advance_acted careful sound
  refine ⟨⟨once, ?_, ?_⟩, ?_⟩
  · intro desc member
    rw [rx] at member
    exact (acted.sound.received desc member).of_sized (by rw [umem])
  · intro desc member
    rw [tx] at member
    exact (acted.sound.waiting desc member).of_sized (by rw [umem])
  · have received : inbox chunkSize after = inbox chunkSize (xsk.advance kernel) := by
      rw [inbox, inbox, rx]
      exact List.map_congr_left fun desc _ => packet_of_umem umem desc
    have waiting : outbox chunkSize after = outbox chunkSize (xsk.advance kernel) := by
      rw [outbox, outbox, tx]
      exact List.map_congr_left fun desc _ => packet_of_umem umem desc
    rw [received, waiting]
    exact acted.moved

/-- Giving chunks back touches no packet. -/
theorem refillDescs_packets (careful : kernel.Careful reach) (sound : Sound chunkSize reach xsk)
    {descs : List XdpDesc} {count : Nat}
    (apart : (xsk.held chunkSize + (contract kernel).chunks descs).Nodup)
    (done : refillDescs kernel xsk descs = (after, count)) :
    Sound chunkSize reach after ∧
      Moved (inbox chunkSize xsk) (outbox chunkSize xsk) (inbox chunkSize after)
        (outbox chunkSize after) := by
  have once : (after.held chunkSize).Nodup := by
    rw [(refillDescs_spec done).2]
    refine Multiset.nodup_of_le (add_le_add le_rfl ?_) apart
    rw [← (contract kernel).chunks_take_add_drop descs count]
    exact Multiset.le_add_right _ _
  cases done
  exact gives_back careful sound once rfl rfl rfl

/-- Taking sent chunks back touches no packet. -/
theorem completeDescs_packets (careful : kernel.Careful reach) (sound : Sound chunkSize reach xsk)
    {scratch filled : List XdpDesc} {consumed refilled : Nat}
    (done : completeDescs kernel xsk scratch = (after, filled, consumed, refilled)) :
    Sound chunkSize reach after ∧
      Moved (inbox chunkSize xsk) (outbox chunkSize xsk) (inbox chunkSize after)
        (outbox chunkSize after) := by
  have once : (after.held chunkSize).Nodup := by
    refine Multiset.nodup_of_le ?_ sound.once
    rw [← (completeDescs_spec done).2.2.2]
    exact Multiset.le_add_right _ _
  simp only [completeDescs] at done
  split at done
  · cases done
    exact gives_back careful sound once rfl rfl rfl
  · cases done
    exact gives_back careful sound once rfl rfl rfl

/-- Receiving hands out the oldest packets, as they were when they came in. -/
theorem pollRecv_packets (careful : kernel.Careful reach) (sound : Sound chunkSize reach xsk)
    {descs filled : List XdpDesc} {count : Nat}
    (done : pollRecv kernel xsk descs = (after, filled, count)) :
    Sound chunkSize reach after ∧ (∀ desc ∈ filled.take count, Placed chunkSize reach after desc) ∧
      Moved (inbox chunkSize xsk) (outbox chunkSize xsk)
        ((filled.take count).map (packet chunkSize after) ++ inbox chunkSize after)
        (outbox chunkSize after) := by
  have acted := advance_acted careful sound
  have once : (after.held chunkSize).Nodup := by
    refine Multiset.nodup_of_le ?_ sound.once
    rw [← (pollRecv_spec done).2.2]
    exact Multiset.le_add_right _ _
  simp only [pollRecv] at done
  split at done
  · rcases taken : (xsk.advance kernel).rx.consume descs with ⟨rx, received, number⟩
    obtain ⟨-, -, entries⟩ := Ring.consume_spec taken
    rw [taken] at done
    cases done
    have there (desc : XdpDesc) (member : desc ∈ (xsk.advance kernel).rx.entries) :=
      acted.sound.received desc member
    rw [entries] at there
    refine ⟨⟨once, ?_, ?_⟩, ?_, ?_⟩
    · exact fun desc member => (there desc (List.mem_append_right _ member)).of_sized rfl
    · exact fun desc member => (acted.sound.waiting desc member).of_sized rfl
    · exact fun desc member => (there desc (List.mem_append_left _ member)).of_sized rfl
    · have moved := acted.moved
      rw [inbox, inbox, entries, List.map_append] at moved
      exact moved
  · cases done
    refine ⟨acted.sound, by simp, ?_⟩
    rw [List.take_zero, List.map_nil, List.nil_append]
    exact acted.moved

/-- Transmitting puts the packets of the accepted descriptors behind the waiting ones. -/
theorem transmit_packets (careful : kernel.Careful reach) (sound : Sound chunkSize reach xsk)
    {descs : List XdpDesc} {count : Nat} (placed : ∀ desc ∈ descs, Placed chunkSize reach xsk desc)
    (apart : (xsk.held chunkSize + (contract kernel).chunks descs).Nodup)
    (done : transmit kernel xsk descs = (after, count)) :
    Sound chunkSize reach after ∧ ∃ waiting,
      Moved (inbox chunkSize xsk) (outbox chunkSize xsk) (inbox chunkSize after) waiting ∧
        outbox chunkSize after = waiting ++ (descs.take count).map (packet chunkSize xsk) := by
  have acted := advance_acted careful sound
  -- What is to be sent is with the worker while the kernel acts.
  have kept (desc : XdpDesc) (member : desc ∈ descs) := acted.kept desc (placed desc member)
    fun held => Multiset.disjoint_left.mp (Multiset.nodup_add.mp apart).2.2 held
      ((contract kernel).mem_chunks_of_mem member)
  have once : (after.held chunkSize).Nodup := by
    rw [(transmit_spec done).2]
    refine Multiset.nodup_of_le (add_le_add le_rfl ?_) apart
    rw [← (contract kernel).chunks_take_add_drop descs count]
    exact Multiset.le_add_right _ _
  rcases given : (xsk.advance kernel).tx.produce descs with ⟨tx, number⟩
  obtain ⟨-, entries⟩ := Ring.produce_spec given
  simp only [transmit, given] at done
  cases done
  refine ⟨⟨once, ?_, ?_⟩, outbox chunkSize (xsk.advance kernel), acted.moved, ?_⟩
  · exact fun desc member => (acted.sound.received desc member).of_sized rfl
  · intro desc member
    rw [entries] at member
    rcases List.mem_append.mp member with old | new
    · exact (acted.sound.waiting desc old).of_sized rfl
    · exact (kept desc (List.mem_of_mem_take new)).1.of_sized rfl
  · rw [outbox, entries, List.map_append]
    congr 1
    exact List.map_congr_left fun desc member => (kept desc (List.mem_of_mem_take member)).2

/-- Rewriting a packet that the socket does not hold changes that packet only. -/
theorem storeView_packets (small : chunkSize < 2 ^ 32) (sound : Sound chunkSize reach xsk)
    (placed : Placed chunkSize reach xsk desc)
    (notHeld : descChunk chunkSize desc ∉ xsk.held chunkSize) {view : FrameView} {written : XdpDesc}
    (within : (frameMut chunkSize xsk desc).Within reach view)
    (done : storeView xsk desc view = (after, written)) :
    Sound chunkSize reach after ∧ inbox chunkSize after = inbox chunkSize xsk ∧
      outbox chunkSize after = outbox chunkSize xsk ∧ Placed chunkSize reach after written ∧
      packet chunkSize after written = view.contents ∧
      ∀ other, Placed chunkSize reach xsk other →
        descChunk chunkSize other ≠ descChunk chunkSize desc →
          Placed chunkSize reach after other ∧
            packet chunkSize after other = packet chunkSize xsk other := by
  obtain ⟨sized, -⟩ := storeView_length placed within done
  obtain ⟨there, packetEq⟩ := storeView_written small placed within done
  have others (other : XdpDesc) (otherPlaced : Placed chunkSize reach xsk other)
      (apart : descChunk chunkSize other ≠ descChunk chunkSize desc) :
      Placed chunkSize reach after other ∧
        packet chunkSize after other = packet chunkSize xsk other :=
    ⟨otherPlaced.of_sized sized,
      otherPlaced.packet_congr sized (storeView_untouched placed within done apart)⟩
  have received (other : XdpDesc) (member : other ∈ xsk.rx.entries) :=
    others other (sound.received other member) fun same => notHeld <| by
      rw [← same]
      simp only [held, Multiset.mem_add]
      exact .inl (.inl (.inl (.inl (mem_addrChunks member))))
  have waiting (other : XdpDesc) (member : other ∈ xsk.tx.entries) :=
    others other (sound.waiting other member) fun same => notHeld <| by
      rw [← same]
      simp only [held, Multiset.mem_add]
      exact .inl (.inl (.inl (.inr (mem_addrChunks member))))
  cases done
  refine ⟨⟨sound.once, fun other member => (received other member).1,
    fun other member => (waiting other member).1⟩, ?_, ?_, there, packetEq, others⟩
  · exact List.map_congr_left fun other member => (received other member).2
  · exact List.map_congr_left fun other member => (waiting other member).2

/-- The raw socket keeps its promises about packets, as long as the kernel is careful. -/
def packets (small : chunkSize < 2 ^ 32) (careful : kernel.Careful reach) :
    (contract kernel).Packets reach where
  Sound := Sound chunkSize reach
  Placed := Placed chunkSize reach
  inbox := inbox chunkSize
  outbox := outbox chunkSize
  room placed := placed.le_capacity
  refilled sound apart done := refillDescs_packets careful sound apart done
  completed sound done := completeDescs_packets careful sound done
  polled sound done := pollRecv_packets careful sound done
  stored sound placed notHeld within done :=
    storeView_packets small sound placed notHeld within done
  transmitted sound placed apart done := transmit_packets careful sound placed apart done

end Calls

end AdoptedSocket

/-- Every run of the worker loop on the raw socket is a run of a router that answers packets one
by one, over the packets that came in and those that wait to be sent. The router's batches are the
packets that stood in the frames of each round when they were received, with as many answers
accepted as the transmit ring took, and the connection table is the same. Packets are answered in
the order they came in, and the answers that the transmit ring accepted are sent in that order, as
they were when they were accepted. -/
theorem worker_refines_router {crypto : RetryCrypto} {aes : Aes128} {hash : FlowKey → UInt64}
    {localMac : Mac} {chunkSize : Nat} (small : chunkSize < 2 ^ 32)
    {kernel : AdoptedSocket.Kernel chunkSize} (careful : kernel.Careful replyReach)
    {xsk : AdoptedSocket} (sound : xsk.Sound chunkSize replyReach) {startedAt : Instant}
    {rounds : List Round} {state : WorkerState AdoptedSocket XdpDesc}
    {logs : List (RoundLog XdpDesc)}
    (done : workerLoop (AdoptedSocket.socket kernel) (handleFrame crypto aes hash localMac)
      (.start (AdoptedSocket.socket kernel) xsk startedAt) rounds = .ok (state, logs)) :
    ∃ log, Trace (RouterStep (handleFrame crypto aes hash localMac) replyReach)
        ⟨xsk.inbox chunkSize, .new startedAt, xsk.outbox chunkSize⟩ log
        ⟨state.xsk.inbox chunkSize, state.conn, state.xsk.outbox chunkSize⟩ ∧
      (logs.length = rounds.length ∧ ∀ log ∈ logs, log.packets.length = log.received.length) ∧
      log.filterMap RouterEvent.batch? =
        rounds.zip (logs.map fun log => (log.packets, log.txBatch.length, log.accepted)) ∧
      xsk.inbox chunkSize ++ log.flatMap RouterEvent.arrives =
        log.flatMap RouterEvent.takes ++ state.xsk.inbox chunkSize ∧
      xsk.outbox chunkSize ++ log.flatMap RouterEvent.accepts =
        log.flatMap RouterEvent.sends ++ state.xsk.outbox chunkSize := by
  have balanced := balanced_start (AdoptedSocket.contract kernel) xsk startedAt
  obtain ⟨log, run, batches⟩ := workerLoop_routes (AdoptedSocket.packets small careful)
    (handleFrame_isolated crypto aes hash localMac) sound.once balanced sound done
  obtain ⟨inOrder, outOrder⟩ := router_in_order run
  exact ⟨log, run, workerLoop_logs done, batches, inOrder, outOrder⟩

namespace SampleHandoff

open AdoptedSocket

/-- Sending writes to no packet. -/
theorem sendOne_careful : kernel.Careful replyReach := by
  intro xsk
  show Relation.ReflTransGen (CarefulStep 256 replyReach) xsk (sendOne xsk)
  unfold sendOne
  cases oldest : xsk.tx.entries with
  | nil => exact .refl
  | cons desc rest =>
    simp only
    split
    · next room =>
      have taken : CarefulStep 256 replyReach xsk
          { xsk with tx := xsk.tx.release 1, inKernel := xsk.inKernel ++ [desc.addr] } :=
        ⟨.takeTx oldest, rfl, fun _ _ => rfl, fun _ member => .inl member⟩
      have step : KernelStep 256
          { xsk with tx := xsk.tx.release 1, inKernel := xsk.inKernel ++ [desc.addr] }
          { xsk with
            tx := xsk.tx.release 1, comp := (xsk.comp.produce [desc.addr]).1,
            inKernel := xsk.inKernel ++ [] } := .complete rfl rfl room
      rw [List.append_nil] at step
      exact (Relation.ReflTransGen.single taken).tail
        ⟨step, rfl, fun _ _ => rfl, fun _ member => .inl member⟩
    · exact .refl

/-- Both frames of the sample lie in chunks of their own. -/
theorem xsk_sound : SampleWorker.xsk.Sound 256 replyReach := by
  refine ⟨by decide +kernel, ?_, by simp [SampleWorker.xsk]⟩
  intro desc member
  have listed : desc = ⟨0, 84, 0⟩ ∨ desc = ⟨256, 60, 0⟩ := by
    simpa [SampleWorker.xsk] using member
  rcases listed with rfl | rfl
  · exact ⟨by decide +kernel, by decide +kernel⟩
  · exact ⟨by decide +kernel, by decide +kernel⟩

end SampleHandoff

open SampleHandoff in
/-- The two frames of the sample come in as packets, and the run over them is one of a router. -/
theorem worker_refines_router_sample :
    ∃ state logs log, workerLoop (AdoptedSocket.socket kernel) SampleWorker.pipeline
        (.start (AdoptedSocket.socket kernel) SampleWorker.xsk 0) rounds = .ok (state, logs) ∧
      (SampleWorker.xsk.inbox 256).length = 2 ∧
      log.filterMap RouterEvent.batch? =
        rounds.zip (logs.map fun log => (log.packets, log.txBatch.length, log.accepted)) ∧
      Trace (RouterStep SampleWorker.pipeline replyReach)
        ⟨SampleWorker.xsk.inbox 256, .new 0, []⟩ log
        ⟨state.xsk.inbox 256, state.conn, state.xsk.outbox 256⟩ ∧
      log.flatMap RouterEvent.accepts =
        log.flatMap RouterEvent.sends ++ state.xsk.outbox 256 := by
  obtain ⟨⟨state, logs⟩, done⟩ := Checked.returns_of_toOption run_isSome
  obtain ⟨log, run, -, batches, -, outOrder⟩ :=
    worker_refines_router (by decide) sendOne_careful xsk_sound done
  exact ⟨state, logs, log, done, rfl, batches, run, outOrder⟩

end Pesigitg
