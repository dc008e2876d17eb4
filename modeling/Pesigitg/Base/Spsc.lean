import Mathlib.Data.List.Basic
import Mathlib.Data.Nat.ModEq
import Mathlib.Logic.Function.Basic
import Mathlib.Tactic.Common

/-!
# A ring with free-running 32-bit indices

One side writes entries at the producer index, the other reads them at the consumer
index. The indices run freely and wrap; masking selects the slot, so the size is a power
of two. `Channel` is the ring with unbounded positions and the tape of everything that was
ever written; `Represents` ties a ring in memory to a channel. The four operations of the
two sides keep it, whatever the wrapped indices happen to be.
-/

namespace Pesigitg.Base

/-- A number of slots that masking can select from. -/
structure RingSize where
  size : UInt32
  exponent : Nat
  power : size.toNat = 2 ^ exponent

namespace RingSize

variable (ring : RingSize)

def mask : UInt32 := ring.size - 1

/-- The slot an index selects. -/
def slot (index : UInt32) : Nat := (index &&& ring.mask).toNat

/-- A ring has at least one slot. -/
theorem size_pos : 0 < ring.size.toNat := by
  rw [ring.power]
  exact Nat.two_pow_pos _

/-- The size fits 32 bits. -/
theorem exponent_lt : ring.exponent < 32 := by
  have small := ring.size.toNat_lt
  rw [ring.power] at small
  exact (Nat.pow_lt_pow_iff_right (by decide)).mp small

/-- The mask keeps the low bits of an index. -/
theorem mask_toNat : ring.mask.toNat = 2 ^ ring.exponent - 1 := by
  have pos := ring.size_pos
  have small := ring.size.toNat_lt
  rw [mask, UInt32.toNat_sub, ← ring.power]
  simp only [UInt32.toNat_one]
  omega

/-- Masking is reduction modulo the size. -/
theorem slot_eq (index : UInt32) : ring.slot index = index.toNat % ring.size.toNat := by
  rw [slot, UInt32.toNat_and, mask_toNat, Nat.and_two_pow_sub_one_eq_mod, ring.power]

end RingSize

/-- The index that stands for a position, counted from `base`. -/
def indexAt (base : UInt32) (position : Nat) : UInt32 := base + UInt32.ofNat position

section Index

variable (base : UInt32)

/-- Adding to an index moves its position on. -/
theorem indexAt_add (position count : Nat) :
    indexAt base position + UInt32.ofNat count = indexAt base (position + count) := by
  rw [indexAt, indexAt, UInt32.ofNat_add, UInt32.add_assoc]

/-- The distance of an index leads to it. -/
theorem indexAt_distance (index : UInt32) : indexAt base (index - base).toNat = index := by
  rw [indexAt, UInt32.ofNat_toNat, UInt32.add_comm, UInt32.sub_add_cancel]

/-- An index is its position up to the wrap at 32 bits. -/
theorem indexAt_toNat (position : Nat) :
    (indexAt base position).toNat = (base.toNat + position) % 2 ^ 32 := by
  rw [indexAt, UInt32.toNat_add, UInt32.toNat_ofNat']
  omega

/-- The wrapping difference of two indices is the difference of their positions. -/
theorem indexAt_sub {low high : Nat} (ordered : low ≤ high) (close : high < low + 2 ^ 32) :
    (indexAt base high - indexAt base low).toNat = high - low := by
  rw [UInt32.toNat_sub, indexAt_toNat, indexAt_toNat]
  omega

/-- Positions that are less than one round apart select different slots. -/
theorem slot_indexAt_ne (ring : RingSize) {low high : Nat} (ordered : low < high)
    (close : high < low + ring.size.toNat) :
    ring.slot (indexAt base low) ≠ ring.slot (indexAt base high) := by
  intro same
  have divides : ring.size.toNat ∣ 2 ^ 32 := by
    rw [ring.power]
    exact Nat.pow_dvd_pow 2 (Nat.le_of_lt ring.exponent_lt)
  rw [ring.slot_eq, ring.slot_eq, indexAt_toNat, indexAt_toNat, Nat.mod_mod_of_dvd _ divides,
    Nat.mod_mod_of_dvd _ divides] at same
  have multiple : ring.size.toNat ∣ (base.toNat + high) - (base.toNat + low) :=
    (Nat.modEq_iff_dvd' (by omega)).mp same
  have bound := Nat.le_of_dvd (by omega) multiple
  omega

end Index

/-- The two shared indices and the slots. -/
structure RingMemory (Entry : Type) where
  producer : UInt32
  consumer : UInt32
  descs : Nat → Entry

/-- A ring with unbounded positions: everything ever written, and how much of it has been
published, read, and given back for reuse. -/
structure Channel (Entry : Type) where
  tape : List Entry
  published : Nat
  read : Nat
  released : Nat

/-- The positions come in order, and no more than `capacity` of them are in use. -/
structure Channel.Ordered {Entry : Type} (capacity : Nat) (channel : Channel Entry) : Prop where
  released_le : channel.released ≤ channel.read
  read_le : channel.read ≤ channel.published
  published_le : channel.published ≤ channel.tape.length
  fits : channel.tape.length ≤ channel.released + capacity

namespace Channel.Ordered

variable {Entry : Type} {capacity : Nat} {channel : Channel Entry}

/-- Nothing is released before it is published. -/
theorem released_le_published (ordered : channel.Ordered capacity) :
    channel.released ≤ channel.published :=
  Nat.le_trans ordered.released_le ordered.read_le

/-- Nothing is released before it is written. -/
theorem released_le_length (ordered : channel.Ordered capacity) :
    channel.released ≤ channel.tape.length :=
  Nat.le_trans ordered.released_le_published ordered.published_le

/-- Positions in use are close enough for their indices to be subtracted. -/
theorem distance {ring : RingSize} (ordered : channel.Ordered ring.size.toNat) (base : UInt32)
    {low high : Nat} (kept : channel.released ≤ low) (upward : low ≤ high)
    (inside : high ≤ channel.tape.length) :
    (indexAt base high - indexAt base low).toNat = high - low := by
  have fits := ordered.fits
  have small := ring.size.toNat_lt
  exact indexAt_sub base upward (by omega)

end Channel.Ordered

/-- The indices are the positions, wrapped, and every entry that has not been given back stands
in its slot. -/
structure Represents {Entry : Type} (ring : RingSize) (base : UInt32) (memory : RingMemory Entry)
    (channel : Channel Entry) : Prop where
  ordered : channel.Ordered ring.size.toNat
  producer : memory.producer = indexAt base channel.published
  consumer : memory.consumer = indexAt base channel.released
  stored : ∀ position entry, channel.released ≤ position →
    channel.tape[position]? = some entry → memory.descs (ring.slot (indexAt base position)) = entry

namespace Represents

variable {Entry : Type} {ring : RingSize} {base : UInt32} {memory : RingMemory Entry}
  {channel : Channel Entry}

/-- The wrapping distance of the indices is the number of entries between them. -/
theorem distance (represents : Represents ring base memory channel) :
    (memory.producer - memory.consumer).toNat = channel.published - channel.released := by
  have ordered := represents.ordered
  rw [represents.producer, represents.consumer]
  exact ordered.distance base (Nat.le_refl _) ordered.released_le_published ordered.published_le

/-- The producer is never more than the ring's size ahead, in wrapping arithmetic too. -/
theorem distance_le (represents : Represents ring base memory channel) :
    (memory.producer - memory.consumer).toNat ≤ ring.size.toNat := by
  have high := represents.ordered.published_le
  have fits := represents.ordered.fits
  rw [represents.distance]
  omega

/-- The producer side fills the next slot. -/
theorem write (represents : Represents ring base memory channel)
    (room : channel.tape.length < channel.released + ring.size.toNat) (entry : Entry) :
    Represents ring base
      { memory with
        descs := Function.update memory.descs
          (ring.slot (indexAt base channel.tape.length)) entry }
      { channel with tape := channel.tape ++ [entry] } where
  ordered := by
    obtain ⟨released, read, published, fits⟩ := represents.ordered
    refine ⟨released, read, ?_, ?_⟩ <;> simp only [List.length_append, List.length_singleton] <;>
      omega
  producer := represents.producer
  consumer := represents.consumer
  stored := by
    simp only
    intro position found kept placed
    by_cases inside : position < channel.tape.length
    · rw [List.getElem?_append_left inside] at placed
      -- The slots in use lie less than a round before the one that is written.
      rw [Function.update_of_ne (slot_indexAt_ne base ring inside (by omega))]
      exact represents.stored position found kept placed
    · -- Only the new entry lies beyond the old tape.
      obtain ⟨last, -⟩ := List.getElem?_eq_some_iff.mp placed
      have here : position = channel.tape.length := by
        simp only [List.length_append, List.length_singleton] at last
        omega
      subst here
      rw [Function.update_self]
      simpa using placed

/-- The producer side moves its index over entries it has written. -/
theorem publish (represents : Represents ring base memory channel) {count : Nat}
    (written : channel.published + count ≤ channel.tape.length) :
    Represents ring base { memory with producer := memory.producer + UInt32.ofNat count }
      { channel with published := channel.published + count } where
  ordered := by
    obtain ⟨released, read, -, fits⟩ := represents.ordered
    exact ⟨released, Nat.le_trans read (Nat.le_add_right _ _), written, fits⟩
  producer := by rw [represents.producer, indexAt_add]
  consumer := represents.consumer
  stored := represents.stored

/-- The consumer side finds the next entry of the tape in the next slot. -/
theorem read (represents : Represents ring base memory channel)
    (available : channel.read < channel.published) :
    channel.tape[channel.read]? =
        some (memory.descs (ring.slot (indexAt base channel.read))) ∧
      Represents ring base memory { channel with read := channel.read + 1 } := by
  obtain ⟨released, read, published, fits⟩ := represents.ordered
  have inside : channel.read < channel.tape.length := by omega
  have placed := List.getElem?_eq_getElem inside
  refine ⟨?_, ⟨⟨by simp only; omega, available, published, fits⟩, represents.producer,
    represents.consumer, represents.stored⟩⟩
  rw [placed, represents.stored _ _ released placed]

/-- The consumer side moves its index over entries it has read. -/
theorem release (represents : Represents ring base memory channel) {count : Nat}
    (read : channel.released + count ≤ channel.read) :
    Represents ring base { memory with consumer := memory.consumer + UInt32.ofNat count }
      { channel with released := channel.released + count } where
  ordered := by
    obtain ⟨-, below, published, fits⟩ := represents.ordered
    exact ⟨read, below, published, by simp only; omega⟩
  producer := represents.producer
  consumer := by rw [represents.consumer, indexAt_add]
  stored := by
    intro position entry kept placed
    exact represents.stored position entry (Nat.le_trans (Nat.le_add_right _ _) kept) placed

end Represents

end Pesigitg.Base
