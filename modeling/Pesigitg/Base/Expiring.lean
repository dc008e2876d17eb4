import Mathlib.Logic.Function.Basic
import Mathlib.Tactic.Common

/-!
# Maps whose entries expire

A finite map is its lookup function. An entry is written with the time it stops
being visible and no reading moves that time. `Sourced` ties every entry to the
write that made it; it is the invariant behind both directions of use: what a
visible value proves about the past, and what a write guarantees about the
future as long as its key is not written again.
-/

namespace Pesigitg.Base

/-- A stored value and the first instant at which it is no longer visible. -/
structure ExpiringEntry (Value : Type) where
  value : Value
  expires : Nat
deriving DecidableEq, Repr

/-- A map from keys to expiring entries. -/
abbrev ExpiringMap (Key Value : Type) := Key → Option (ExpiringEntry Value)

namespace ExpiringMap

variable {Key Value : Type}

/-- The map with no entries. -/
def empty : ExpiringMap Key Value := fun _ => none

/-- Visible at `now` means not yet expired. -/
def find (map : ExpiringMap Key Value) (key : Key) (now : Nat) : Option Value :=
  match map key with
  | some entry => if entry.expires ≤ now then none else some entry.value
  | none => none

/-- Drop the entries that have expired. -/
def sweep (map : ExpiringMap Key Value) (now : Nat) : ExpiringMap Key Value :=
  fun key => (map key).filter fun entry => ¬ entry.expires ≤ now

/-- Write a value that is visible for `ttl` from `now` on. -/
def insert [DecidableEq Key] (ttl : Nat) (map : ExpiringMap Key Value) (key : Key) (value : Value)
    (now : Nat) : ExpiringMap Key Value :=
  Function.update map key (some ⟨value, now + ttl⟩)

/-- A value is found exactly if it is stored under the key and has not expired. -/
theorem find_eq_some_iff {map : ExpiringMap Key Value} {key : Key} {now : Nat} {value : Value} :
    find map key now = some value ↔ ∃ expires, map key = some ⟨value, expires⟩ ∧ now < expires := by
  unfold find
  cases stored : map key with
  | none => simp
  | some entry =>
    obtain ⟨held, expires⟩ := entry
    by_cases expired : expires ≤ now
    · simp only [expired, if_true]
      constructor
      · intro impossible
        cases impossible
      · rintro ⟨limit, same, later⟩
        cases same
        omega
    · simp only [expired, if_false, Option.some.injEq]
      constructor
      · rintro rfl
        exact ⟨expires, rfl, by omega⟩
      · rintro ⟨limit, same, -⟩
        cases same
        rfl

/-- A sweep keeps exactly the entries that have not expired. -/
theorem sweep_eq_some_iff {map : ExpiringMap Key Value} {key : Key} {now : Nat}
    {entry : ExpiringEntry Value} :
    sweep map now key = some entry ↔ map key = some entry ∧ now < entry.expires := by
  simp [sweep, Option.filter_eq_some_iff]

/-- A sweep is not observable from its own time on. -/
theorem find_sweep {map : ExpiringMap Key Value} {key : Key} {now later : Nat}
    (ordered : now ≤ later) : find (sweep map now) key later = find map key later := by
  apply Option.ext
  intro value
  rw [find_eq_some_iff, find_eq_some_iff]
  constructor
  · rintro ⟨expires, kept, visible⟩
    exact ⟨expires, (sweep_eq_some_iff.mp kept).1, visible⟩
  · rintro ⟨expires, stored, visible⟩
    exact ⟨expires, sweep_eq_some_iff.mpr ⟨stored, by simp only; omega⟩, visible⟩

section Writes

variable [DecidableEq Key] {ttl : Nat} {map : ExpiringMap Key Value}

/-- An inserted value is stored with its expiry. -/
@[simp] theorem insert_self (key : Key) (value : Value) (now : Nat) :
    insert ttl map key value now key = some ⟨value, now + ttl⟩ := by
  simp [insert]

/-- An insertion leaves the other keys alone. -/
theorem insert_of_ne {key other : Key} (value : Value) (now : Nat) (distinct : other ≠ key) :
    insert ttl map key value now other = map other := by
  simp [insert, distinct]

end Writes

/-- Every entry was made by a write that `source` accounts for, `ttl` before the
entry expires. -/
def Sourced (ttl : Nat) (source : Key → Value → Nat → Prop) (map : ExpiringMap Key Value) : Prop :=
  ∀ key entry, map key = some entry →
    ∃ written, entry.expires = written + ttl ∧ source key entry.value written

namespace Sourced

variable {ttl : Nat} {source : Key → Value → Nat → Prop} {map : ExpiringMap Key Value}

/-- An empty map has nothing to account for. -/
theorem empty : Sourced ttl source (ExpiringMap.empty : ExpiringMap Key Value) := by
  intro key entry stored
  cases stored

/-- Inserting a value that is accounted for keeps the map accounted for. -/
theorem insert [DecidableEq Key] (sourced : Sourced ttl source map) {key : Key} {value : Value}
    {now : Nat} (accounted : source key value now) :
    Sourced ttl source (ExpiringMap.insert ttl map key value now) := by
  intro other entry stored
  by_cases same : other = key
  · subst same
    rw [insert_self] at stored
    cases stored
    exact ⟨now, rfl, accounted⟩
  · rw [insert_of_ne value now same] at stored
    exact sourced other entry stored

/-- Sweeping only removes entries. -/
theorem sweep (sourced : Sourced ttl source map) (now : Nat) :
    Sourced ttl source (ExpiringMap.sweep map now) := by
  intro key entry kept
  exact sourced key entry (sweep_eq_some_iff.mp kept).1

/-- A wider notion of source accounts for the same map. -/
theorem mono (sourced : Sourced ttl source map) {wider : Key → Value → Nat → Prop}
    (extends_ : ∀ key value written, source key value written → wider key value written) :
    Sourced ttl wider map := by
  intro key entry stored
  obtain ⟨written, expiry, accounted⟩ := sourced key entry stored
  exact ⟨written, expiry, extends_ key entry.value written accounted⟩

/-- A visible value was written less than `ttl` ago. -/
theorem find (sourced : Sourced ttl source map) {key : Key} {now : Nat} {value : Value}
    (found : ExpiringMap.find map key now = some value) :
    ∃ written, now < written + ttl ∧ source key value written := by
  obtain ⟨expires, stored, visible⟩ := find_eq_some_iff.mp found
  obtain ⟨written, expiry, accounted⟩ := sourced key _ stored
  refine ⟨written, ?_, accounted⟩
  simp only at expiry
  omega

end Sourced

end ExpiringMap

end Pesigitg.Base
