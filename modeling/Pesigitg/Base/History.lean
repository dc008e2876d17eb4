import Mathlib.Data.List.DropRight
import Mathlib.Tactic.Common

/-!
# Statuses that depend on a history

A history is a list that grows at its end, and a status is any function of it. `changes` are
the entries at which the status became another one, in order.
-/

namespace Pesigitg.Base

variable {α σ : Type} [DecidableEq σ]

/-- The entries of a history at which a status changed. -/
def changes (status : List α → σ) (history : List α) : List α :=
  (List.range history.length).filterMap fun index =>
    if status (history.take index) = status (history.take (index + 1)) then none
    else history[index]?

/-- Nothing has changed yet. -/
@[simp] theorem changes_nil (status : List α → σ) : changes status [] = [] := rfl

/-- One more entry adds itself if it changes the status, and nothing otherwise. -/
theorem changes_concat (status : List α → σ) (history : List α) (entry : α) :
    changes status (history ++ [entry]) =
      changes status history ++
        if status history = status (history ++ [entry]) then [] else [entry] := by
  have earlier : (List.range history.length).filterMap (fun index =>
      if status ((history ++ [entry]).take index) = status ((history ++ [entry]).take (index + 1))
        then none else (history ++ [entry])[index]?) = changes status history := by
    apply List.filterMap_congr
    intro index member
    have inside := List.mem_range.mp member
    rw [List.take_append_of_le_length inside.le, List.take_append_of_le_length inside,
      List.getElem?_append_left inside]
  have last : (history ++ [entry]).take (history.length + 1) = history ++ [entry] := by
    rw [List.take_of_length_le (by simp)]
  rw [changes, List.length_append, List.length_singleton, List.range_succ, List.filterMap_append,
    earlier]
  congr 1
  simp only [List.filterMap_cons, List.filterMap_nil, List.take_left, last,
    List.getElem?_concat_length]
  by_cases same : status history = status (history ++ [entry])
  · rw [if_pos same, if_pos same]
  · rw [if_neg same, if_neg same]

/-- There are no more changes than entries. -/
theorem changes_length_le (status : List α → σ) (history : List α) :
    (changes status history).length ≤ history.length := by
  have bound := List.length_filterMap_le (fun index =>
    if status (history.take index) = status (history.take (index + 1)) then none
    else history[index]?) (List.range history.length)
  rwa [List.length_range] at bound

end Pesigitg.Base
