import Mathlib.Logic.Function.Basic
import Mathlib.Tactic.Common

/-!
# Threads over shared memory

Each thread is a local state; one step of one thread reads and writes the shared
memory in a single atomic access. `Interleaving` is any finite order of such
steps with its log, restricted to the steps that `allowed` permits: what a caller
promises about the order of its own calls is such a restriction. `outline` is the
rule behind every invariant: an assertion about each thread, kept by the thread's
own steps and not disturbed by anybody else's, and one about the memory.
-/

namespace Pesigitg.Base

/-- What every thread is about to do, and the memory they share. -/
structure Machine (Thread Local Shared : Type) where
  threads : Thread → Local
  shared : Shared

namespace Machine

variable {Thread Local Shared : Type} [DecidableEq Thread]

/-- One thread has moved on and left the memory as given. -/
def move (machine : Machine Thread Local Shared) (thread : Thread) (next : Local)
    (memory : Shared) : Machine Thread Local Shared :=
  ⟨Function.update machine.threads thread next, memory⟩

variable (machine : Machine Thread Local Shared) (thread : Thread) (next : Local) (memory : Shared)

/-- A move leaves its memory behind. -/
@[simp] theorem move_shared : (machine.move thread next memory).shared = memory := rfl

/-- A move takes its own thread to its next state. -/
@[simp] theorem move_threads_self :
    (machine.move thread next memory).threads thread = next := by
  simp [move]

/-- A move leaves the other threads where they are. -/
theorem move_threads_of_ne {other : Thread} (distinct : other ≠ thread) :
    (machine.move thread next memory).threads other = machine.threads other := by
  simp [move, distinct]

end Machine

/-- The steps one thread can make, each labelled with what it did. -/
abbrev AtomicStep (Local Shared Event : Type) := Local → Shared → Event → Local → Shared → Prop

/-- A promise about the steps of a run: it may look at what happened so far, at
the machine before the step, and at the step. -/
abbrev Allowed (Thread Local Shared Event : Type) :=
  List (Thread × Event) → Machine Thread Local Shared → Thread → Event → Prop

section Runs

variable {Thread Local Shared Event : Type} [DecidableEq Thread]

/-- Any finite order of allowed atomic steps, its log oldest first. -/
inductive Interleaving (step : AtomicStep Local Shared Event)
    (allowed : Allowed Thread Local Shared Event) (start : Machine Thread Local Shared) :
    List (Thread × Event) → Machine Thread Local Shared → Prop where
  | nil : Interleaving step allowed start [] start
  | snoc {log : List (Thread × Event)} {machine : Machine Thread Local Shared} {thread : Thread}
      {event : Event} {next : Local} {memory : Shared}
      (prior : Interleaving step allowed start log machine)
      (permitted : allowed log machine thread event)
      (moved : step (machine.threads thread) machine.shared event next memory) :
      Interleaving step allowed start (log ++ [(thread, event)])
        (machine.move thread next memory)

namespace Interleaving

variable {step : AtomicStep Local Shared Event} {allowed : Allowed Thread Local Shared Event}
  {start machine : Machine Thread Local Shared} {log : List (Thread × Event)}

/-- The thread that stands at `state` moves on. -/
theorem advance {event : Event} {state next : Local} {memory : Shared}
    (run : Interleaving step allowed start log machine) (thread : Thread)
    (standing : machine.threads thread = state) (permitted : allowed log machine thread event)
    (moved : step state machine.shared event next memory) :
    Interleaving step allowed start (log ++ [(thread, event)])
      (machine.move thread next memory) := by
  subst standing
  exact run.snoc permitted moved

/-- A run goes on from where an earlier one ended, under the promise as it reads
after the earlier log. -/
theorem trans {more : List (Thread × Event)} {last : Machine Thread Local Shared}
    (first : Interleaving step allowed start log machine)
    (rest : Interleaving step (fun later => allowed (log ++ later)) machine more last) :
    Interleaving step allowed start (log ++ more) last := by
  induction rest with
  | nil => simpa using first
  | snoc _ permitted moved joined =>
    rw [← List.append_assoc]
    exact joined.snoc permitted moved

/-- Every logged step was made, from a machine the log before it leads to. -/
theorem logged {before after : List (Thread × Event)} {thread : Thread} {event : Event}
    (run : Interleaving step allowed start log machine)
    (split : log = before ++ (thread, event) :: after) :
    ∃ (middle : Machine Thread Local Shared) (next : Local) (memory : Shared),
      Interleaving step allowed start before middle ∧ allowed before middle thread event ∧
      step (middle.threads thread) middle.shared event next memory := by
  induction run generalizing after with
  | nil => simp at split
  | @snoc log machine mover made next memory prior permitted moved earlier =>
    rcases List.eq_nil_or_concat after with rfl | ⟨rest, last, rfl⟩
    · obtain ⟨rfl, same⟩ := List.append_inj' split rfl
      cases same
      exact ⟨machine, next, memory, prior, permitted, moved⟩
    · rw [List.concat_eq_append, ← List.cons_append, ← List.append_assoc] at split
      exact earlier (List.append_inj' split rfl).1

/-- An assertion about the memory and one about each thread hold all along, when
each step establishes both for the thread that makes it and leaves the other
threads' assertions standing. -/
theorem outline (memoryHolds : List (Thread × Event) → Shared → Prop)
    (threadHolds : List (Thread × Event) → Thread → Local → Prop)
    (initially : memoryHolds [] start.shared ∧
      ∀ thread, threadHolds [] thread (start.threads thread))
    (preserved : ∀ log machine thread event next memory,
      allowed log machine thread event →
      memoryHolds log machine.shared →
      (∀ other, threadHolds log other (machine.threads other)) →
      step (machine.threads thread) machine.shared event next memory →
      memoryHolds (log ++ [(thread, event)]) memory ∧
        threadHolds (log ++ [(thread, event)]) thread next ∧
        ∀ other, other ≠ thread →
          threadHolds (log ++ [(thread, event)]) other (machine.threads other))
    (run : Interleaving step allowed start log machine) :
    memoryHolds log machine.shared ∧ ∀ thread, threadHolds log thread (machine.threads thread) := by
  induction run with
  | nil => exact initially
  | @snoc log machine thread event next memory _ permitted moved kept =>
    obtain ⟨memoryNow, threadNow, othersNow⟩ :=
      preserved log machine thread event next memory permitted kept.1 kept.2 moved
    refine ⟨memoryNow, fun other => ?_⟩
    by_cases same : other = thread
    · subst same
      simpa using threadNow
    · rw [Machine.move_threads_of_ne _ _ _ _ same]
      exact othersNow other same

end Interleaving

end Runs

end Pesigitg.Base
