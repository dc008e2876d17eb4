import Mathlib.Data.List.Basic
import Mathlib.Tactic.Common

/-!
# Computations that may panic

A `Checked` value is either a result or the reason the computation aborted.
Every access that a language with bounds checks guards at run time is an
operation of this monad, so "no input can panic" is the statement that the
outcome is `ok` for every input.
-/

namespace Pesigitg.Base

/-- Reasons a checked computation stops without a value. -/
inductive Panic where
  | index
  | slice
  | copyLength
  | assertion (message : String)
  | expect (message : String)
  | unreachable (message : String)
deriving DecidableEq, Repr

/-- A computation that either returns or panics. -/
abbrev Checked (α : Type) := Except Panic α

namespace Checked

variable {α β : Type}

/-- The computation returns some value, whichever it is. -/
def Returns (computation : Checked α) : Prop := ∃ value, computation = .ok value

/-- A computation that has returned goes on with its value. -/
@[simp] theorem ok_bind (value : α) (next : α → Checked β) :
    ((Except.ok value : Checked α) >>= next) = next value := rfl

/-- A panic ends the whole computation. -/
@[simp] theorem error_bind (reason : Panic) (next : α → Checked β) :
    ((Except.error reason : Checked α) >>= next) = .error reason := rfl

/-- Returning a value is the case `ok`. -/
@[simp] theorem pure_eq_ok (value : α) : (pure value : Checked α) = .ok value := rfl

/-- A value is a result. -/
@[simp] theorem returns_ok (value : α) : Returns (Except.ok value : Checked α) := ⟨value, rfl⟩

/-- A panic is not a result. -/
@[simp] theorem not_returns_error (reason : Panic) :
    ¬ Returns (Except.error reason : Checked α) := by
  rintro ⟨value, equal⟩
  cases equal

/-- A sequence returns exactly when its first part does and the rest returns
from the value the first part produced. -/
theorem bind_eq_ok_iff {computation : Checked α} {next : α → Checked β} {result : β} :
    computation >>= next = .ok result ↔
      ∃ value, computation = .ok value ∧ next value = .ok result := by
  cases computation with
  | error reason => simp
  | ok value => simp

/-- A sequence returns when its first part does and the rest returns from there. -/
theorem Returns.bind {computation : Checked α} {next : α → Checked β}
    (first : computation.Returns) (rest : ∀ value, computation = .ok value → (next value).Returns) :
    (computation >>= next).Returns := by
  obtain ⟨value, rfl⟩ := first
  exact rest value rfl

/-- Two computations with the same image stop for one reason, or both return. -/
theorem map_eq_map_cases {γ : Type} {first : Checked α} {second : Checked β} {f : α → γ}
    {g : β → γ} (same : first.map f = second.map g) :
    (∃ reason, first = .error reason ∧ second = .error reason) ∨
      ∃ value value', first = .ok value ∧ second = .ok value' ∧ f value = g value' := by
  cases first with
  | error reason =>
    cases second with
    | error other =>
      cases same
      exact .inl ⟨reason, rfl, rfl⟩
    | ok value => cases same
  | ok value =>
    cases second with
    | error other => cases same
    | ok value' => exact .inr ⟨value, value', rfl, rfl, Except.ok.inj same⟩

/-- Forgetting the panic's reason loses no result. -/
theorem toOption_eq_some_iff {computation : Checked α} {value : α} :
    computation.toOption = some value ↔ computation = .ok value := by
  cases computation with
  | error reason => simp [Except.toOption]
  | ok held => simp [Except.toOption]

/-- A result can be checked by evaluation. -/
theorem returns_of_toOption {computation : Checked α}
    (returned : computation.toOption.isSome = true) : computation.Returns := by
  obtain ⟨value, found⟩ := Option.isSome_iff_exists.mp returned
  exact ⟨value, toOption_eq_some_iff.mp found⟩

/-- The computation returns, and what it finds is exactly what is described. -/
def Finds (computation : Checked (Option α)) (described : α → Prop) : Prop :=
  ∃ found, computation = .ok found ∧ ∀ value, found = some value ↔ described value

namespace Finds

variable {computation other : Checked (Option α)} {described described' : α → Prop}

/-- A search that finds what is described does not panic. -/
theorem returns (finds : Finds computation described) : computation.Returns := by
  obtain ⟨found, returned, -⟩ := finds
  exact ⟨found, returned⟩

/-- It finds exactly the described value. -/
theorem eq_some_iff (finds : Finds computation described) {value : α} :
    computation = .ok (some value) ↔ described value := by
  obtain ⟨found, returned, found_iff⟩ := finds
  rw [returned, Except.ok.injEq, found_iff]

/-- It finds nothing exactly if nothing is described. -/
theorem eq_none_iff (finds : Finds computation described) :
    computation = .ok none ↔ ∀ value, ¬ described value := by
  obtain ⟨found, returned, found_iff⟩ := finds
  rw [returned, Except.ok.injEq, Option.eq_none_iff_forall_ne_some]
  exact forall_congr' fun value => not_congr (found_iff value)

/-- What can be found is described once. -/
theorem unique (finds : Finds computation described) {value value' : α} (first : described value)
    (second : described value') : value = value' := by
  obtain ⟨found, -, found_iff⟩ := finds
  exact Option.some.inj (((found_iff value).mpr first).symm.trans ((found_iff value').mpr second))

/-- A search that gives up is right if nothing is described. -/
theorem nothing (absent : ∀ value, ¬ described value) : Finds (.ok none) described :=
  ⟨none, rfl, fun value => ⟨nofun, fun held => absurd held (absent value)⟩⟩

/-- A search that succeeds is right if its value is the only one described. -/
theorem just {value : α} (only : ∀ other, described other ↔ value = other) :
    Finds (.ok (some value)) described := by
  refine ⟨some value, rfl, ?_⟩
  intro other
  rw [Option.some.injEq, only]

/-- Equivalent descriptions are found alike. -/
theorem congr (finds : Finds computation described')
    (same : ∀ value, described value ↔ described' value) : Finds computation described := by
  obtain ⟨found, returned, found_iff⟩ := finds
  exact ⟨found, returned, fun value => (found_iff value).trans (same value).symm⟩

/-- A search may check something first, if both branches are right under what the check says. -/
theorem branch {check : Prop} [Decidable check] (taken : check → Finds computation described)
    (passed : ¬ check → Finds other described) :
    Finds (if check then computation else other) described := by
  split
  · next held => exact taken held
  · next failed => exact passed failed

/-- A check that gives up may do so only where nothing is described. -/
theorem guard {check : Prop} [Decidable check] (excluded : check → ∀ value, ¬ described value)
    (rest : ¬ check → Finds computation described) :
    Finds (if check then pure none else computation) described :=
  branch (fun held => nothing (excluded held)) rest

/-- Going on from what a first part finds. -/
theorem bind {next : Option α → Checked (Option β)} {target : β → Prop}
    (finds : Finds computation described)
    (missing : (∀ value, ¬ described value) → Finds (next none) target)
    (present : ∀ value, described value → Finds (next (some value)) target) :
    Finds (computation >>= next) target := by
  obtain ⟨found, rfl, found_iff⟩ := finds
  cases found with
  | none => exact missing fun value held => nomatch (found_iff value).mpr held
  | some value => exact present value ((found_iff value).mp rfl)

end Finds

/-- A guard that fails with an assertion message. -/
def assert (condition : Prop) [Decidable condition] (message : String) : Checked Unit :=
  if condition then .ok () else .error (.assertion message)

/-- An assertion passes exactly if it holds. -/
@[simp] theorem assert_eq_ok_iff {condition : Prop} [Decidable condition] {message : String} :
    assert condition message = .ok () ↔ condition := by
  unfold assert
  split <;> simp_all

/-- Unwrap an optional value whose absence is a broken precondition. -/
def expect (value : Option α) (message : String) : Checked α :=
  match value with
  | some present => .ok present
  | none => .error (.expect message)

/-- A value that is there is handed out. -/
@[simp] theorem expect_some (value : α) (message : String) :
    expect (some value) message = .ok value := rfl

/-- An expectation passes exactly if the value is there. -/
theorem expect_eq_ok_iff {value : Option α} {message : String} {result : α} :
    expect value message = .ok result ↔ value = some result := by
  cases value with
  | none => simp [expect]
  | some held => simp [expect]

end Checked

end Pesigitg.Base
