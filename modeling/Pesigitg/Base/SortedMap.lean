import Mathlib.Order.Lattice

/-!
# Maps in the order of their keys

A map is a list of entries whose keys ascend. A key that is not there counts as one with the
default value: `upsert` changes the value of a key and adds the key when it is missing, and
`modifyFirst` changes the first value, by key, that meets a condition.
-/

namespace Pesigitg.Base

variable {α β : Type*} [LinearOrder α] [Inhabited β]

/-- Entries with ascending keys. -/
structure SortedMap (α β : Type*) [LinearOrder α] where
  entries : List (α × β)
  sorted : (entries.map Prod.fst).Pairwise (· < ·)

namespace SortedMap

section Lists

def valueIn (key : α) : List (α × β) → β
  | [] => default
  | (other, value) :: rest => if other = key then value else valueIn key rest

def upsertIn (key : α) (change : β → β) : List (α × β) → List (α × β)
  | [] => [(key, change default)]
  | (other, value) :: rest =>
    if key < other then (key, change default) :: (other, value) :: rest
    else if key = other then (other, change value) :: rest
    else (other, value) :: upsertIn key change rest

def modifyFirstIn (meets : β → Bool) (change : β → β) : List (α × β) → Option (List (α × β))
  | [] => none
  | (key, value) :: rest =>
    if meets value then some ((key, change value) :: rest)
    else (modifyFirstIn meets change rest).map ((key, value) :: ·)

variable {key other : α} {value : β} {change : β → β} {meets : β → Bool}
  {entries changed : List (α × β)}

/-- A key below all others is not there. -/
theorem valueIn_of_lt (below : ∀ other ∈ entries.map Prod.fst, key < other) :
    valueIn key entries = default := by
  induction entries with
  | nil => rfl
  | cons entry rest ih =>
    obtain ⟨first, value⟩ := entry
    rw [valueIn, if_neg (ne_of_gt (below first List.mem_cons_self))]
    exact ih fun other member => below other (List.mem_cons_of_mem _ member)

/-- A key below the first one has no entry. -/
theorem valueIn_cons_of_lt {first : α} {rest : List (α × β)}
    (sorted : (((first, value) :: rest).map Prod.fst).Pairwise (· < ·)) (below : key < first) :
    valueIn key ((first, value) :: rest) = default := by
  apply valueIn_of_lt
  intro next member
  obtain rfl | later := List.mem_cons.mp member
  · exact below
  · exact below.trans ((List.pairwise_cons.mp sorted).1 next later)

/-- An upsert adds no key but its own. -/
theorem mem_keys_upsertIn (member : other ∈ (upsertIn key change entries).map Prod.fst) :
    other = key ∨ other ∈ entries.map Prod.fst := by
  induction entries with
  | nil => simpa [upsertIn] using member
  | cons entry rest ih =>
    rw [upsertIn] at member
    split_ifs at member
    · simpa using member
    · exact .inr member
    · obtain here | later := List.mem_cons.mp member
      · exact .inr (here ▸ List.mem_cons_self)
      · exact (ih later).imp_right (List.mem_cons_of_mem _)

/-- An upsert keeps the keys sorted. -/
theorem sorted_upsertIn (sorted : (entries.map Prod.fst).Pairwise (· < ·)) :
    ((upsertIn key change entries).map Prod.fst).Pairwise (· < ·) := by
  induction entries with
  | nil => simp [upsertIn]
  | cons entry rest ih =>
    have apart := List.pairwise_cons.mp sorted
    rw [upsertIn]
    split_ifs with below same
    · refine List.pairwise_cons.mpr ⟨?_, sorted⟩
      intro other member
      obtain rfl | later := List.mem_cons.mp member
      · exact below
      · exact below.trans (apart.1 other later)
    · exact sorted
    · refine List.pairwise_cons.mpr ⟨?_, ih apart.2⟩
      intro other member
      obtain rfl | inside := mem_keys_upsertIn member
      · exact lt_of_le_of_ne (not_lt.mp below) (Ne.symm same)
      · exact apart.1 other inside

/-- An upsert changes the value of its key and no other. -/
theorem valueIn_upsertIn (sorted : (entries.map Prod.fst).Pairwise (· < ·)) :
    valueIn other (upsertIn key change entries) =
      if other = key then change (valueIn key entries) else valueIn other entries := by
  induction entries with
  | nil => simp [upsertIn, valueIn, eq_comm]
  | cons entry rest ih =>
    obtain ⟨first, value⟩ := entry
    obtain below | rfl | above := lt_trichotomy key first
    · rw [upsertIn, if_pos below, valueIn_cons_of_lt sorted below, valueIn]
      simp only [eq_comm]
    · rw [upsertIn, if_neg (lt_irrefl key), if_pos rfl]
      by_cases found : other = key
      · simp [valueIn, found]
      · simp [valueIn, found, Ne.symm found]
    · have apart := List.pairwise_cons.mp sorted
      rw [upsertIn, if_neg (lt_asymm above), if_neg (ne_of_gt above), valueIn, ih apart.2]
      by_cases found : other = key
      · simp [valueIn, found, ne_of_lt above]
      · simp [valueIn, found]

omit [LinearOrder α] [Inhabited β] in
/-- A modification keeps the keys. -/
theorem keys_modifyFirstIn (found : modifyFirstIn meets change entries = some changed) :
    changed.map Prod.fst = entries.map Prod.fst := by
  induction entries generalizing changed with
  | nil => cases found
  | cons entry rest ih =>
    rw [modifyFirstIn] at found
    split_ifs at found
    · cases found
      rfl
    · obtain ⟨later, inside, rfl⟩ := Option.map_eq_some_iff.mp found
      rw [List.map_cons, List.map_cons, ih inside]

/-- If nothing is modified, no value meets the condition. -/
theorem modifyFirstIn_eq_none (absent : ¬ meets default)
    (found : modifyFirstIn meets change entries = none) : ¬ meets (valueIn key entries) := by
  induction entries with
  | nil => exact absent
  | cons entry rest ih =>
    rw [modifyFirstIn] at found
    split_ifs at found with no
    rw [valueIn]
    split_ifs with here
    · exact no
    · exact ih (Option.map_eq_none_iff.mp found)

/-- What changes is the first key, in order, whose value meets the condition. -/
theorem modifyFirstIn_eq_some (absent : ¬ meets default)
    (sorted : (entries.map Prod.fst).Pairwise (· < ·))
    (found : modifyFirstIn meets change entries = some changed) :
    ∃ key, meets (valueIn key entries) ∧ (∀ other < key, ¬ meets (valueIn other entries)) ∧
      ∀ other, valueIn other changed =
        if other = key then change (valueIn key entries) else valueIn other entries := by
  induction entries generalizing changed with
  | nil => cases found
  | cons entry rest ih =>
    obtain ⟨first, value⟩ := entry
    have apart := List.pairwise_cons.mp sorted
    rw [modifyFirstIn] at found
    split_ifs at found with here
    · cases found
      refine ⟨first, ?_, ?_, ?_⟩
      · simpa [valueIn] using here
      · intro other below
        rwa [valueIn_cons_of_lt sorted below]
      · intro other
        by_cases same : other = first
        · simp [valueIn, same]
        · simp only [valueIn, if_neg same, if_neg (Ne.symm same)]
    · obtain ⟨later, inside, rfl⟩ := Option.map_eq_some_iff.mp found
      obtain ⟨key, meetsKey, before, values⟩ := ih apart.2 inside
      have other : first ≠ key := by
        rintro rfl
        rw [valueIn_of_lt apart.1] at meetsKey
        exact absent meetsKey
      refine ⟨key, ?_, ?_, ?_⟩
      · rwa [valueIn, if_neg other]
      · intro next below
        rw [valueIn]
        split_ifs
        · exact here
        · exact before next below
      · intro next
        simp only [valueIn, values, if_neg other]
        split_ifs with same found
        · exact absurd (same.trans found) other
        · rfl
        · rfl
        · rfl

/-- Some stored value meets a condition exactly if the value of some key does. -/
theorem exists_mem_values_iff (absent : ¬ meets default)
    (sorted : (entries.map Prod.fst).Pairwise (· < ·)) :
    (∃ value ∈ entries.map Prod.snd, meets value) ↔ ∃ key, meets (valueIn key entries) := by
  induction entries with
  | nil => simp [valueIn, absent]
  | cons entry rest ih =>
    obtain ⟨first, value⟩ := entry
    have apart := List.pairwise_cons.mp sorted
    simp only [List.map_cons, List.mem_cons, exists_eq_or_imp, ih apart.2]
    constructor
    · rintro (here | ⟨key, later⟩)
      · exact ⟨first, by simpa [valueIn] using here⟩
      · refine ⟨key, ?_⟩
        have other : first ≠ key := by
          rintro rfl
          rw [valueIn_of_lt apart.1] at later
          exact absent later
        rwa [valueIn, if_neg other]
    · rintro ⟨key, found⟩
      rw [valueIn] at found
      split_ifs at found
      · exact .inl found
      · exact .inr ⟨key, found⟩

end Lists

/-- The value of a key. -/
def value (map : SortedMap α β) (key : α) : β := valueIn key map.entries

/-- The values in the order of their keys. -/
def values (map : SortedMap α β) : List β := map.entries.map Prod.snd

def empty : SortedMap α β := ⟨[], List.Pairwise.nil⟩

/-- Change the value of a key, from the default when the key is new. -/
def upsert (key : α) (change : β → β) (map : SortedMap α β) : SortedMap α β :=
  ⟨upsertIn key change map.entries, sorted_upsertIn map.sorted⟩

/-- Change the first value that meets a condition, if there is one. -/
def modifyFirst (meets : β → Bool) (change : β → β) (map : SortedMap α β) :
    Option (SortedMap α β) :=
  match found : modifyFirstIn meets change map.entries with
  | some changed => some ⟨changed, keys_modifyFirstIn found ▸ map.sorted⟩
  | none => none

section Values

variable {map changed : SortedMap α β} {key other : α} {change : β → β} {meets : β → Bool}

/-- An upsert changes the value of its key and no other. -/
theorem value_upsert :
    (map.upsert key change).value other =
      if other = key then change (map.value key) else map.value other :=
  valueIn_upsertIn map.sorted

/-- If nothing is modified, no value of the map meets the condition. -/
theorem modifyFirst_eq_none (absent : ¬ meets default)
    (found : map.modifyFirst meets change = none) : ¬ meets (map.value key) := by
  unfold modifyFirst at found
  split at found
  · cases found
  · next none => exact modifyFirstIn_eq_none absent none

/-- What is modified is the value of the least key that meets the condition. -/
theorem modifyFirst_eq_some (absent : ¬ meets default)
    (found : map.modifyFirst meets change = some changed) :
    ∃ key, meets (map.value key) ∧ (∀ other < key, ¬ meets (map.value other)) ∧
      ∀ other, changed.value other =
        if other = key then change (map.value key) else map.value other := by
  unfold modifyFirst at found
  split at found
  · next some =>
    cases found
    exact modifyFirstIn_eq_some absent map.sorted some
  · cases found

/-- Some value of the map meets a condition exactly if the value of some key does. -/
theorem exists_values_iff (absent : ¬ meets default) :
    (∃ value ∈ map.values, meets value) ↔ ∃ key, meets (map.value key) :=
  exists_mem_values_iff absent map.sorted

end Values

end SortedMap

end Pesigitg.Base
