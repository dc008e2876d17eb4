import Mathlib.Data.List.SplitBy
import Mathlib.Data.List.Nodup

/-!
# Alarms that are raised once a generation

A history is a list that grows at its end. Neighbours that keep each other form a generation, so
the generations of a history are the parts `List.splitBy` cuts it into, and each has the stamp of
its first entry. A watch carries the stamp along and raises an alarm at a breach unless it has
raised one for that stamp before. If no two entries have the same stamp, the alarms it has raised
are the first breach of every generation that has one (`Watch.run_raised`).
-/

namespace Pesigitg.Base

section Splitting

variable {α : Type} {keeps : α → α → Bool} {history : List α} {groups : List (List α)}
  {group : List α} {last entry : α}

/-- An entry that its predecessor keeps joins the last generation. -/
theorem splitBy_concat_of_kept (split : history.splitBy keeps = groups ++ [group])
    (isLast : group.getLast? = some last) (kept : keeps last entry = true) :
    (history ++ [entry]).splitBy keeps = groups ++ [group ++ [entry]] := by
  obtain ⟨joined, nonempty, chains, breaks⟩ := List.splitBy_eq_iff.mp split
  rw [List.splitBy_eq_iff]
  refine ⟨?_, ?_, ?_, ?_⟩
  · rw [joined]
    simp
  · simp only [List.mem_append, List.mem_singleton, not_or] at nonempty ⊢
    exact ⟨nonempty.1, by simp⟩
  · intro part member
    rcases List.mem_append.mp member with earlier | now
    · exact chains part (List.mem_append_left _ earlier)
    · rw [List.mem_singleton.mp now, List.isChain_append]
      refine ⟨chains group (by simp), List.isChain_singleton _, ?_⟩
      intro x isX y isY
      rw [isLast, Option.mem_def, Option.some.injEq] at isX
      rw [List.head?_cons, Option.mem_def, Option.some.injEq] at isY
      rw [← isX, ← isY]
      exact kept
  · rw [List.isChain_append] at breaks ⊢
    refine ⟨breaks.1, List.isChain_singleton _, ?_⟩
    intro x isX y isY
    obtain ⟨xNonempty, groupNonempty, broken⟩ := breaks.2.2 x isX group (by simp)
    rw [List.head?_cons, Option.mem_def, Option.some.injEq] at isY
    subst isY
    refine ⟨xNonempty, by simp, ?_⟩
    rw [List.head_append_of_ne_nil groupNonempty]
    exact broken

/-- An entry that its predecessor does not keep starts a generation. -/
theorem splitBy_concat_of_broken (broken : ∀ last ∈ history.getLast?, keeps last entry = false) :
    (history ++ [entry]).splitBy keeps = history.splitBy keeps ++ [[entry]] :=
  List.splitBy_append_cons [] broken

end Splitting

/-- What has been raised, and for which generation last. -/
structure Alarm (ι ω : Type) where
  raisedFor : Option ι
  raised : List ω

namespace Alarm

variable {ι ω : Type} [DecidableEq ι]

/-- Raise a warning for a generation, once. -/
def see (alarm : Alarm ι ω) (sighting : ι × ω) : Alarm ι ω :=
  if alarm.raisedFor = some sighting.1 then alarm
  else ⟨some sighting.1, alarm.raised ++ [sighting.2]⟩

/-- An alarm that was raised for a generation ignores its further warnings. -/
theorem foldl_see_raised {alarm : Alarm ι ω} {generation : ι}
    (raised : alarm.raisedFor = some generation) (warnings : List ω) :
    (warnings.map fun warning => (generation, warning)).foldl see alarm = alarm := by
  induction warnings with
  | nil => rfl
  | cons warning rest ih =>
    rw [List.map_cons, List.foldl_cons, see, if_pos raised, ih]

/-- Warnings for one generation, of which `earlier` has been raised already: the first of all of
them is raised, and no other. -/
theorem foldl_see {alarm : Alarm ι ω} {generation : ι} {before : List ω} {earlier : Option ω}
    (raised : alarm.raised = before ++ earlier.toList)
    (raisedFor : alarm.raisedFor = some generation ↔ earlier.isSome) (warnings : List ω) :
    ∃ after, (warnings.map fun warning => (generation, warning)).foldl see alarm = after ∧
      after.raised = before ++ (earlier.or warnings.head?).toList ∧
      (after.raisedFor = some generation ↔ (earlier.or warnings.head?).isSome) ∧
      ∀ other, after.raisedFor = some other → other = generation ∨ alarm.raisedFor = some other := by
  cases earlier with
  | some warning =>
    exact ⟨alarm, foldl_see_raised (raisedFor.mpr rfl) warnings, raised, raisedFor, fun _ => .inr⟩
  | none =>
    cases warnings with
    | nil => exact ⟨alarm, rfl, raised, raisedFor, fun _ => .inr⟩
    | cons warning rest =>
      have fresh : alarm.raisedFor ≠ some generation := fun known => by
        have absent := raisedFor.mp known
        cases absent
      refine ⟨⟨some generation, alarm.raised ++ [warning]⟩, ?_, ?_, ?_, ?_⟩
      · rw [List.map_cons, List.foldl_cons, see, if_neg fresh]
        exact foldl_see_raised rfl rest
      · simp [raised]
      · simp
      · intro other same
        exact .inl (Option.some.inj same).symm

end Alarm

/-- The last entry of a history with the stamp of its generation, and the alarm. -/
structure Watch (α ι ω : Type) where
  latest : Option (α × ι)
  alarm : Alarm ι ω

namespace Watch

variable {α ι ω : Type} (keeps : α → α → Bool) (stamp : α → ι) (breaches : ι → α → List ω)

def start : Watch α ι ω := ⟨none, none, []⟩

/-- The stamp that an entry carries: that of the entry before it if that one keeps it. -/
def stampOf (latest : Option (α × ι)) (entry : α) : ι :=
  match latest with
  | none => stamp entry
  | some (last, generation) => if keeps last entry then generation else stamp entry

/-- The first breach of a generation. -/
def firstBreach (group : List α) : Option ω :=
  group.head?.bind fun first => (group.flatMap (breaches (stamp first))).head?

variable [DecidableEq ι]

/-- One more entry, with all that it breaches. -/
def enter (watch : Watch α ι ω) (entry : α) : Watch α ι ω :=
  let generation := stampOf keeps stamp watch.latest entry
  ⟨some (entry, generation),
    ((breaches generation entry).map fun warning => (generation, warning)).foldl Alarm.see
      watch.alarm⟩

def run (history : List α) : Watch α ι ω := history.foldl (enter keeps stamp breaches) start

/-- The watch says what its history says: `groups` are the generations before the current one,
which goes from `first` to `last`. -/
structure Current (history : List α) (watch : Watch α ι ω) (groups : List (List α))
    (group : List α) (first last : α) : Prop where
  split : history.splitBy keeps = groups ++ [group]
  isFirst : group.head? = some first
  isLast : group.getLast? = some last
  latest : watch.latest = some (last, stamp first)
  raised : watch.alarm.raised = groups.filterMap (firstBreach stamp breaches) ++
    (firstBreach stamp breaches group).toList
  raisedFor : watch.alarm.raisedFor = some (stamp first) ↔
    (firstBreach stamp breaches group).isSome
  known : ∀ generation, watch.alarm.raisedFor = some generation → generation ∈ history.map stamp

variable {keeps stamp breaches} {history : List α} {watch : Watch α ι ω}
  {groups : List (List α)} {group : List α} {first last entry : α}

section Reading

omit [DecidableEq ι]

/-- The first breach in a group of one entry is that entry's. -/
theorem firstBreach_singleton (entry : α) :
    firstBreach stamp breaches [entry] = (breaches (stamp entry) entry).head? := by
  rw [firstBreach, List.head?_cons, Option.bind_some, List.flatMap_singleton]

/-- A later entry only matters if nothing was breached before it; it is measured from the stamp of
the first one. -/
theorem firstBreach_concat (isFirst : group.head? = some first) (entry : α) :
    firstBreach stamp breaches (group ++ [entry]) =
      (firstBreach stamp breaches group).or (breaches (stamp first) entry).head? := by
  have sameFirst : (group ++ [entry]).head? = some first := by
    rw [List.head?_append, isFirst, Option.some_or]
  rw [firstBreach, firstBreach, sameFirst, isFirst, Option.bind_some, Option.bind_some,
    List.flatMap_append, List.head?_append, List.flatMap_singleton]

/-- The groups joined are the history. -/
theorem Current.joined
    (current : Current keeps stamp breaches history watch groups group first last) :
    history = (groups ++ [group]).flatten := by
  rw [← current.split, List.flatten_splitBy]

/-- The first entry of the current group is part of the history. -/
theorem Current.first_mem
    (current : Current keeps stamp breaches history watch groups group first last) :
    first ∈ history := by
  rw [current.joined]
  exact List.mem_flatten.mpr ⟨group, by simp, List.mem_of_head? current.isFirst⟩

/-- The last entry of the current group is that of the history. -/
theorem Current.last_eq
    (current : Current keeps stamp breaches history watch groups group first last) :
    history.getLast? = some last := by
  rw [current.joined, List.flatten_append, List.getLast?_append, List.flatten_singleton,
    current.isLast, Option.some_or]

/-- What has been raised, over all generations. -/
theorem Current.raised_eq
    (current : Current keeps stamp breaches history watch groups group first last) :
    watch.alarm.raised = (history.splitBy keeps).filterMap (firstBreach stamp breaches) := by
  rw [current.split, current.raised, List.filterMap_append]
  cases breach : firstBreach stamp breaches group with
  | none => simp [breach]
  | some warning => simp [breach]

end Reading

/-- An entry of the current generation. -/
theorem Current.enter_kept
    (current : Current keeps stamp breaches history watch groups group first last)
    (kept : keeps last entry = true) :
    Current keeps stamp breaches (history ++ [entry]) (watch.enter keeps stamp breaches entry)
      groups (group ++ [entry]) first entry := by
  have carried : stampOf keeps stamp watch.latest entry = stamp first := by
    rw [current.latest, stampOf, if_pos kept]
  obtain ⟨after, folded, raised, raisedFor, known⟩ :=
    Alarm.foldl_see current.raised current.raisedFor (breaches (stamp first) entry)
  rw [← firstBreach_concat current.isFirst] at raised raisedFor
  have entered : watch.enter keeps stamp breaches entry = ⟨some (entry, stamp first), after⟩ := by
    rw [enter, carried, folded]
  rw [entered]
  refine ⟨splitBy_concat_of_kept current.split current.isLast kept, ?_, List.getLast?_concat, rfl,
    raised, raisedFor, ?_⟩
  · rw [List.head?_append, current.isFirst, Option.some_or]
  · intro generation found
    rw [List.map_append]
    refine List.mem_append_left _ ?_
    rcases known generation found with rfl | earlier
    · exact List.mem_map_of_mem current.first_mem
    · exact current.known generation earlier

/-- An entry that starts a generation, with everything before it closed. -/
theorem enter_broken (fresh : stamp entry ∉ history.map stamp)
    (started : stampOf keeps stamp watch.latest entry = stamp entry)
    (broken : ∀ last ∈ history.getLast?, keeps last entry = false)
    (raised : watch.alarm.raised =
      (history.splitBy keeps).filterMap (firstBreach stamp breaches))
    (known : ∀ generation, watch.alarm.raisedFor = some generation →
      generation ∈ history.map stamp) :
    Current keeps stamp breaches (history ++ [entry]) (watch.enter keeps stamp breaches entry)
      (history.splitBy keeps) [entry] entry entry := by
  have closed : watch.alarm.raised =
      (history.splitBy keeps).filterMap (firstBreach stamp breaches) ++
        (none : Option ω).toList := by
    rw [raised, Option.toList_none, List.append_nil]
  have unraised : watch.alarm.raisedFor = some (stamp entry) ↔ (none : Option ω).isSome :=
    ⟨fun found => absurd (known _ found) fresh, fun absent => by cases absent⟩
  obtain ⟨after, folded, afterRaised, raisedFor, afterKnown⟩ :=
    Alarm.foldl_see closed unraised (breaches (stamp entry) entry)
  rw [Option.none_or, ← firstBreach_singleton] at afterRaised raisedFor
  have entered : watch.enter keeps stamp breaches entry = ⟨some (entry, stamp entry), after⟩ := by
    rw [enter, started, folded]
  rw [entered]
  refine ⟨splitBy_concat_of_broken broken, rfl, rfl, rfl, afterRaised, raisedFor, ?_⟩
  intro generation found
  rw [List.map_append]
  rcases afterKnown generation found with rfl | earlier
  · exact List.mem_append_right _ (by simp)
  · exact List.mem_append_left _ (known generation earlier)

/-- A history without two equal stamps is at some entry of some generation. -/
theorem run_current (distinct : (history.map stamp).Nodup) (nonempty : history ≠ []) :
    ∃ groups group first last, Current keeps stamp breaches history
      (run keeps stamp breaches history) groups group first last := by
  induction history using List.reverseRecOn with
  | nil => exact absurd rfl nonempty
  | append_singleton earlier entry ih =>
    rw [List.map_append, List.nodup_append] at distinct
    obtain ⟨earlierDistinct, -, apart⟩ := distinct
    have fresh : stamp entry ∉ earlier.map stamp := fun found =>
      apart _ found _ (by simp) rfl
    have grown : run keeps stamp breaches (earlier ++ [entry]) =
        (run keeps stamp breaches earlier).enter keeps stamp breaches entry := by
      rw [run, List.foldl_append, List.foldl_cons, List.foldl_nil, run]
    rw [grown]
    by_cases empty : earlier = []
    · subst empty
      exact ⟨_, _, _, _, enter_broken fresh rfl (by simp) rfl (by simp [run, start])⟩
    · obtain ⟨groups, group, first, last, current⟩ := ih earlierDistinct empty
      cases kept : keeps last entry with
      | true => exact ⟨_, _, _, _, current.enter_kept kept⟩
      | false =>
        refine ⟨_, _, _, _, enter_broken fresh ?_ ?_ current.raised_eq current.known⟩
        · rw [current.latest, stampOf, kept, if_neg Bool.false_ne_true]
        · intro other isLast
          rw [current.last_eq, Option.mem_def, Option.some.injEq] at isLast
          rw [← isLast, kept]

/-- A watch raises the first breach of every generation. -/
theorem run_raised (distinct : (history.map stamp).Nodup) :
    (run keeps stamp breaches history).alarm.raised =
      (history.splitBy keeps).filterMap (firstBreach stamp breaches) := by
  by_cases empty : history = []
  · subst empty
    rfl
  · obtain ⟨groups, group, first, last, current⟩ : ∃ groups group first last,
        Current keeps stamp breaches history (run keeps stamp breaches history) groups group first
          last := run_current distinct empty
    exact current.raised_eq

end Watch

end Pesigitg.Base
