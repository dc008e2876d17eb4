import Mathlib.Tactic.Common

/-!
# Runs of a labelled transition relation

A run is the list of what its steps did and the state it reaches. `invariant` packages the
induction over a run once; what a step keeps may use that its label is one of the run's.
-/

namespace Pesigitg.Base

variable {State Event : Type} {step : State → Event → State → Prop}

/-- Any finite sequence of steps, its log oldest first. -/
inductive Trace (step : State → Event → State → Prop) (start : State) :
    List Event → State → Prop where
  | nil : Trace step start [] start
  | snoc {log : List Event} {state next : State} {event : Event}
      (prior : Trace step start log state) (moved : step state event next) :
      Trace step start (log ++ [event]) next

namespace Trace

variable {start state middle : State} {log more : List Event}

/-- What holds at the start and is kept by every step of the run holds at its end. -/
theorem invariant (holds : State → Prop) (run : Trace step start log state)
    (initially : holds start)
    (kept : ∀ {state event next}, event ∈ log → holds state → step state event next →
      holds next) : holds state := by
  induction run with
  | nil => exact initially
  | snoc prior moved ih =>
    refine kept (List.mem_append_right _ List.mem_cons_self) (ih ?_) moved
    exact fun member => kept (List.mem_append_left _ member)

/-- A run goes on from where another one ended. -/
theorem trans (first : Trace step start log middle) (rest : Trace step middle more state) :
    Trace step start (log ++ more) state := by
  induction rest with
  | nil => simpa using first
  | snoc _ moved ih =>
    rw [← List.append_assoc]
    exact ih.snoc moved

/-- Every logged step was made, between a state that the log before it leads to and one from which
the log after it goes on. -/
theorem split {before after : List Event} {event : Event} (run : Trace step start log state)
    (same : log = before ++ event :: after) :
    ∃ middle next, Trace step start before middle ∧ step middle event next ∧
      Trace step next after state := by
  induction run generalizing after with
  | nil => simp at same
  | @snoc log middle last final prior moved ih =>
    rcases List.eq_nil_or_concat after with rfl | ⟨rest, final', rfl⟩
    · obtain ⟨rfl, here⟩ := List.append_inj' same rfl
      cases here
      exact ⟨middle, last, prior, moved, .nil⟩
    · rw [List.concat_eq_append, ← List.cons_append, ← List.append_assoc] at same
      obtain ⟨earlier, here⟩ := List.append_inj' same rfl
      cases here
      obtain ⟨first, next, reached, made, rest⟩ := ih earlier
      rw [List.concat_eq_append]
      exact ⟨first, next, reached, made, rest.snoc moved⟩

/-- Where every step that counts is paid for out of a budget, no more of them are made than the
budget at the start allows. -/
theorem spend (run : Trace step start log state) (counts : Event → Bool) (budget : State → Nat)
    (holds : State → Prop) (initially : holds start)
    (kept : ∀ {state event next}, holds state → step state event next →
      holds next ∧ (counts event).toNat + budget next ≤ budget state) :
    log.countP counts + budget state ≤ budget start := by
  have paid : holds state ∧ log.countP counts + budget state ≤ budget start := by
    induction run with
    | nil => exact ⟨initially, by simp⟩
    | @snoc log state next event _ moved ih =>
      obtain ⟨still, pays⟩ := kept ih.1 moved
      have last : [event].countP counts = (counts event).toNat := by
        cases here : counts event <;> simp [here]
      have total := ih.2
      refine ⟨still, ?_⟩
      rw [List.countP_append, last]
      omega
  exact paid.2

end Trace

end Pesigitg.Base
