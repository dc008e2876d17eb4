import Mathlib.Logic.Function.Basic
import Mathlib.Data.List.Induction

/-!
# A map that is filled entry by entry

Later entries replace earlier ones of the same key, so that a key maps to the last value that
was written for it.
-/

namespace Pesigitg.Base

section LastWrite

variable {α β : Type*} [DecidableEq α]

/-- Insert the entries one after another. -/
def insertAll (entries : List (α × β)) (map : α → Option β) : α → Option β :=
  entries.foldl (fun map entry => Function.update map entry.1 (some entry.2)) map

/-- The values written for a key, in order. -/
def writtenFor (key : α) (entries : List (α × β)) : List β :=
  entries.filterMap fun entry => if entry.1 = key then some entry.2 else none

variable {key : α} {value : β} {entries : List (α × β)} {map : α → Option β}

/-- The values written for a key are those of its entries. -/
theorem mem_writtenFor : value ∈ writtenFor key entries ↔ (key, value) ∈ entries := by
  simp only [writtenFor, List.mem_filterMap]
  constructor
  · rintro ⟨⟨other, written⟩, member, hit⟩
    split at hit
    · next same =>
      cases hit
      cases same
      exact member
    · cases hit
  · intro member
    exact ⟨(key, value), member, if_pos rfl⟩

/-- A key has the last value written for it, or else the one it had. -/
theorem insertAll_apply :
    insertAll entries map key = (writtenFor key entries).getLast?.or (map key) := by
  induction entries using List.reverseRecOn with
  | nil => rfl
  | append_singleton entries entry ih =>
    rw [insertAll, List.foldl_append, writtenFor, List.filterMap_append]
    by_cases same : entry.1 = key
    · simp [same]
    · simpa [same, Function.update_of_ne (Ne.symm same), insertAll, writtenFor] using ih

/-- Filled from nothing, a map has no value that was not written. -/
theorem insertAll_eq_some (found : insertAll entries (fun _ => none) key = some value) :
    (key, value) ∈ entries := by
  rw [insertAll_apply, Option.or_none] at found
  exact mem_writtenFor.mp (List.mem_of_getLast? found)

/-- When one value only was written for a key, it is found in whichever order that was. -/
theorem insertAll_eq_some_of_unique (member : (key, value) ∈ entries)
    (unique : ∀ other, (key, other) ∈ entries → other = value) :
    insertAll entries (fun _ => none) key = some value := by
  rw [insertAll_apply, Option.or_none]
  cases last : (writtenFor key entries).getLast? with
  | none =>
    rw [List.getLast?_eq_none_iff] at last
    exact absurd (mem_writtenFor.mpr member) (by simp [last])
  | some other => rw [unique other (mem_writtenFor.mp (List.mem_of_getLast? last))]

end LastWrite

end Pesigitg.Base
