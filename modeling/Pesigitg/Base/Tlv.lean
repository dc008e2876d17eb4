import Pesigitg.Base.Bytes

/-!
# Records that carry their own length

A buffer holds records one behind the other. A header of fixed size says how long its record is,
and the next record starts at a stride that is computed from the length. `walk` visits the records
in turn. It stops where no header fits, where a length cannot be right, or where a visit asks it to.

`walk_returns` is safety on every buffer, and `walk_padded` is what a walk does on records that are
laid out as they should be.
-/

namespace Pesigitg.Base

/-- How records are laid out. -/
structure TlvLayout where
  header : Nat
  /-- The length of a record, header included, out of its header. -/
  lengthOf : Bytes → Nat
  /-- The distance from the start of a record to the next one, out of its length. -/
  stride : Nat → Nat
  header_pos : 0 < header
  le_stride : ∀ len, len ≤ stride len

namespace TlvLayout

variable {σ ρ : Type} (layout : TlvLayout) (visit : σ → Bytes → Checked (σ × Option ρ))

/-- Go on unless a visit stopped. -/
def proceed (out : σ × Option ρ) (next : σ → Checked (σ × Option ρ)) : Checked (σ × Option ρ) :=
  match out with
  | (state, some result) => .ok (state, some result)
  | (state, none) => next state

/-- Visit the records from an offset on. The result is the last state, and what a visit stopped
with, if one did. -/
def walk (buf : Bytes) (offset : Nat) (state : σ) : Checked (σ × Option ρ) :=
  if _room : offset + layout.header ≤ buf.length then do
    let head ← slice buf offset (offset + layout.header)
    if _bad : layout.lengthOf head < layout.header ∨
        buf.length < offset + layout.lengthOf head then
      pure (state, none)
    else
      let record ← slice buf offset (offset + layout.lengthOf head)
      let out ← visit state record
      proceed out fun state => walk buf (offset + layout.stride (layout.lengthOf head)) state
  else pure (state, none)
termination_by buf.length - offset
decreasing_by
  have positive := layout.header_pos
  have forward := layout.le_stride (layout.lengthOf head)
  omega

/-- Visit a list of records. -/
def visitAll : List Bytes → σ → Checked (σ × Option ρ)
  | [], state => .ok (state, none)
  | record :: rest, state => visit state record >>= fun out => proceed out (visitAll rest)

/-- A record whose header gives its length. -/
structure Sized (record : Bytes) : Prop where
  long : layout.header ≤ record.length
  length_eq : layout.lengthOf (record.take layout.header) = record.length

/-- A record is sized when its header counts what follows it. -/
theorem sized_append {layout : TlvLayout} {head body : Bytes} (fixed : head.length = layout.header)
    (counts : layout.lengthOf head = layout.header + body.length) :
    layout.Sized (head ++ body) where
  long := by
    rw [List.length_append, fixed]
    exact Nat.le_add_right ..
  length_eq := by
    rw [List.take_left' fixed, counts, List.length_append, fixed]

/-- A record with what fills up its stride. -/
structure Padded where
  record : Bytes
  pad : Bytes
  sized : layout.Sized record
  filled : record.length + pad.length = layout.stride record.length

def Padded.bytes {layout : TlvLayout} (padded : layout.Padded) : Bytes :=
  padded.record ++ padded.pad

section Walk

variable {layout visit} {buf front record rest : Bytes} {offset : Nat} {state : σ}

/-- A walk ends where no header fits. -/
theorem walk_of_short (short : buf.length < offset + layout.header) :
    layout.walk visit buf offset state = .ok (state, none) := by
  rw [walk, dif_neg (by omega)]
  rfl

/-- What a walk does at a record. -/
theorem walk_record (sized : layout.Sized record) :
    layout.walk visit (front ++ (record ++ rest)) front.length state =
      visit state record >>= fun out => proceed out fun state =>
        layout.walk visit (front ++ (record ++ rest)) (front.length + layout.stride record.length)
          state := by
  have long := sized.long
  have room : front.length + layout.header ≤ (front ++ (record ++ rest)).length := by
    simp only [List.length_append]
    omega
  have head : slice (front ++ (record ++ rest)) front.length (front.length + layout.header) =
      .ok (record.take layout.header) := by
    have cut := slice_append front (record.take layout.header) (record.drop layout.header ++ rest)
    rwa [← List.append_assoc (record.take _), List.take_append_drop, List.length_take,
      Nat.min_eq_left long] at cut
  have good : ¬ (layout.lengthOf (record.take layout.header) < layout.header ∨
      (front ++ (record ++ rest)).length <
        front.length + layout.lengthOf (record.take layout.header)) := by
    rw [sized.length_eq, List.length_append, List.length_append]
    omega
  rw [walk, dif_pos room, head, Checked.ok_bind, dif_neg good, sized.length_eq, slice_append,
    Checked.ok_bind]

/-- Records that are laid out with their padding are visited one by one. -/
theorem walk_padded (records : List layout.Padded) :
    layout.walk visit (front ++ (records.flatMap Padded.bytes ++ rest)) front.length state =
      visitAll visit (records.map Padded.record) state >>= fun out => proceed out fun state =>
        layout.walk visit (front ++ (records.flatMap Padded.bytes ++ rest))
          (front ++ records.flatMap Padded.bytes).length state := by
  induction records generalizing front state with
  | nil => simp [visitAll, proceed]
  | cons padded records ih =>
    have split : front ++ ((padded :: records).flatMap Padded.bytes ++ rest) =
        front ++ (padded.record ++ (padded.pad ++ (records.flatMap Padded.bytes ++ rest))) := by
      simp [Padded.bytes]
    have next : front ++ (padded.record ++ (padded.pad ++ (records.flatMap Padded.bytes ++ rest))) =
        (front ++ padded.bytes) ++ (records.flatMap Padded.bytes ++ rest) := by
      simp [Padded.bytes]
    have stride : front.length + layout.stride padded.record.length =
        (front ++ padded.bytes).length := by
      rw [← padded.filled, Padded.bytes, List.length_append, List.length_append]
    have stop : front ++ (padded :: records).flatMap Padded.bytes =
        front ++ padded.bytes ++ records.flatMap Padded.bytes := by
      simp
    rw [split, walk_record padded.sized, stride, List.map_cons, visitAll, stop]
    cases first : visit state padded.record with
    | error reason => rfl
    | ok out =>
      obtain ⟨after, stopped⟩ := out
      cases stopped with
      | some result => rfl
      | none =>
        rw [next]
        exact ih

/-- The last record needs no padding. -/
theorem walk_last (sized : layout.Sized record) :
    layout.walk visit (front ++ record) front.length state = visit state record := by
  have step := @walk_record _ _ _ visit front record [] state sized
  rw [List.append_nil] at step
  rw [step]
  cases first : visit state record with
  | error reason => rfl
  | ok out =>
    obtain ⟨after, stopped⟩ := out
    cases stopped with
    | some result => rfl
    | none =>
      apply walk_of_short
      have forward := layout.le_stride record.length
      have positive := layout.header_pos
      rw [List.length_append]
      omega

/-- A walk returns on every buffer when its visits do. -/
theorem walk_returns
    (total : ∀ state record, layout.header ≤ record.length → (visit state record).Returns) :
    (layout.walk visit buf offset state).Returns := by
  induction left : buf.length - offset using Nat.strongRecOn generalizing offset state with
  | ind left ih =>
    by_cases room : offset + layout.header ≤ buf.length
    · rw [walk, dif_pos room, slice_of_le (Nat.le_add_right ..) room, Checked.ok_bind]
      split_ifs with bad
      · exact Checked.returns_ok _
      · set len := layout.lengthOf ((buf.take (offset + layout.header)).drop offset)
        rw [not_or, Nat.not_lt, Nat.not_lt] at bad
        rw [slice_of_le (Nat.le_add_right ..) bad.2, Checked.ok_bind]
        apply Checked.Returns.bind
        · apply total
          rw [List.length_drop, List.length_take]
          omega
        · rintro ⟨after, stopped⟩ -
          cases stopped with
          | some result => exact Checked.returns_ok _
          | none =>
            have positive := layout.header_pos
            have forward := layout.le_stride len
            exact ih _ (by omega) rfl
    · rw [walk_of_short (by omega)]
      exact Checked.returns_ok _

end Walk

end TlvLayout

end Pesigitg.Base
