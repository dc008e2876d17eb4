import Mathlib.Data.List.Nodup
import Mathlib.Data.List.Induction
import Mathlib.Tactic.Common

/-!
# First occurrences

A list is often built by appending each wanted item whose key is not there yet.
`FirstOccurrences` says what comes out: the items with a new key, each key once, in the order in
which the keys first occur.
-/

namespace Pesigitg.Base

variable {Item Key : Type} [DecidableEq Key]

/-- `firsts` holds one item for each key of `items`, in the order the keys first occur. -/
structure FirstOccurrences (key : Item → Key) (items firsts : List Item) : Prop where
  part : ∀ item ∈ firsts, item ∈ items
  keys : ∀ value, value ∈ firsts.map key ↔ value ∈ items.map key
  once : (firsts.map key).Nodup
  ordered : (firsts.map key).Pairwise fun earlier later =>
    (items.map key).idxOf earlier < (items.map key).idxOf later

/-- Append an item that is wanted and has a new key. -/
def pushFirst (key : Item → Key) (wanted : Item → Bool) (firsts : List Item) (item : Item) :
    List Item :=
  if wanted item && !firsts.any (fun other => key other == key item) then firsts ++ [item]
  else firsts

namespace FirstOccurrences

variable {key : Item → Key} {items firsts : List Item} {item : Item}

/-- The empty list has no occurrences. -/
theorem nil : FirstOccurrences key [] [] :=
  ⟨by simp, by simp, by simp, by simp⟩

/-- What comes later does not change where a key first occurs. -/
theorem ordered_append (first : FirstOccurrences key items firsts) :
    (firsts.map key).Pairwise fun earlier later =>
      ((items ++ [item]).map key).idxOf earlier < ((items ++ [item]).map key).idxOf later := by
  apply first.ordered.imp_of_mem
  intro earlier later earlierMem laterMem before
  rw [List.map_append, List.idxOf_append_of_mem ((first.keys earlier).mp earlierMem),
    List.idxOf_append_of_mem ((first.keys later).mp laterMem)]
  exact before

/-- An item with a known key adds nothing. -/
theorem known (first : FirstOccurrences key items firsts) (member : key item ∈ firsts.map key) :
    FirstOccurrences key (items ++ [item]) firsts where
  part := fun other listed => List.mem_append_left _ (first.part other listed)
  keys := by
    intro value
    rw [first.keys, List.map_append, List.mem_append]
    constructor
    · exact .inl
    · rintro (listed | last)
      · exact listed
      · rw [List.mem_singleton.mp last, ← first.keys]
        exact member
  once := first.once
  ordered := first.ordered_append

/-- An item with a new key comes last. -/
theorem fresh (first : FirstOccurrences key items firsts) (absent : key item ∉ firsts.map key) :
    FirstOccurrences key (items ++ [item]) (firsts ++ [item]) where
  part := by
    intro other listed
    rcases List.mem_append.mp listed with listed | last
    · exact List.mem_append_left _ (first.part other listed)
    · exact List.mem_append_right _ last
  keys := by
    intro value
    rw [List.map_append, List.map_append, List.mem_append, List.mem_append, first.keys]
  once := by
    rw [List.map_append]
    exact first.once.append (List.nodup_singleton _) (by simpa using absent)
  ordered := by
    have split : (firsts ++ [item]).map key = firsts.map key ++ [key item] := List.map_append
    rw [split, List.pairwise_append]
    refine ⟨first.ordered_append, List.pairwise_singleton _ _, ?_⟩
    intro earlier earlierMem later laterMem
    rw [List.mem_singleton.mp laterMem]
    have listed := (first.keys earlier).mp earlierMem
    have new : key item ∉ items.map key := fun old => absent ((first.keys _).mpr old)
    rw [List.map_append, List.idxOf_append_of_mem listed, List.idxOf_append_of_notMem new]
    exact Nat.lt_of_lt_of_le (List.idxOf_lt_length_iff.mpr listed) (Nat.le_add_right _ _)

/-- Appending wanted items with a new key one by one keeps the first occurrences. -/
theorem foldl_pushFirst (key : Item → Key) (wanted : Item → Bool) (items : List Item) :
    FirstOccurrences key (items.filter wanted) (items.foldl (pushFirst key wanted) []) := by
  induction items using List.reverseRecOn with
  | nil => exact nil
  | append_singleton items item ih =>
    rw [List.foldl_append, List.filter_append, List.foldl_cons, List.foldl_nil, pushFirst]
    generalize items.foldl (pushFirst key wanted) [] = firsts at ih ⊢
    have listed : firsts.any (fun other => key other == key item) = true ↔
        key item ∈ firsts.map key := by simp
    by_cases want : wanted item = true
    · rw [List.filter_cons_of_pos want, List.filter_nil]
      by_cases known : key item ∈ firsts.map key
      · simp only [want, listed.mpr known, Bool.not_true, Bool.and_false, Bool.false_eq_true,
          if_false]
        exact ih.known known
      · simp only [want, Bool.eq_false_iff.mpr (mt listed.mp known), Bool.not_false, Bool.and_true,
          if_true]
        exact ih.fresh known
    · rw [List.filter_cons_of_neg want, List.filter_nil, List.append_nil]
      simp only [Bool.eq_false_iff.mpr want, Bool.false_and, Bool.false_eq_true, if_false]
      exact ih

end FirstOccurrences

end Pesigitg.Base
