import Mathlib.Algebra.Group.Int.Defs
import Pesigitg.Base.Checked

/-!
# Checked machine arithmetic

Integers with the operations of a fixed-width type: a result that the type does not hold is a
panic. An underflow of an unsigned subtraction is one of these.
-/

namespace Pesigitg.Base

/-- An integer type, by the integers it holds: from `low` to below `high`. -/
structure IntType where
  low : Int
  high : Int

def i32 : IntType := ⟨-2 ^ 31, 2 ^ 31⟩

def u32 : IntType := ⟨0, 2 ^ 32⟩

def i64 : IntType := ⟨-2 ^ 63, 2 ^ 63⟩

def u64 : IntType := ⟨0, 2 ^ 64⟩

namespace IntType

/-- The type holds the integer. -/
def Holds (type : IntType) (value : Int) : Prop := type.low ≤ value ∧ value < type.high

instance (type : IntType) (value : Int) : Decidable (type.Holds value) :=
  inferInstanceAs (Decidable (type.low ≤ value ∧ value < type.high))

/-- The result of an operation, or its panic. -/
def check (type : IntType) (value : Int) (message : String) : Checked Int := do
  Checked.assert (type.Holds value) message
  pure value

def add (type : IntType) (left right : Int) : Checked Int :=
  type.check (left + right) "attempt to add with overflow"

def sub (type : IntType) (left right : Int) : Checked Int :=
  type.check (left - right) "attempt to subtract with overflow"

def mul (type : IntType) (left right : Int) : Checked Int :=
  type.check (left * right) "attempt to multiply with overflow"

variable {type : IntType} {left right value : Int}

/-- A value of the type passes the overflow check. -/
theorem check_of_holds (holds : type.Holds value) (message : String) :
    type.check value message = .ok value := by
  simp [check, Checked.assert, holds]

/-- A sum that fits does not panic. -/
theorem add_of_holds (holds : type.Holds (left + right)) :
    type.add left right = .ok (left + right) := check_of_holds holds _

/-- A difference that fits does not panic. -/
theorem sub_of_holds (holds : type.Holds (left - right)) :
    type.sub left right = .ok (left - right) := check_of_holds holds _

/-- A product that fits does not panic. -/
theorem mul_of_holds (holds : type.Holds (left * right)) :
    type.mul left right = .ok (left * right) := check_of_holds holds _

section Sequence

variable {α : Type} {next : Int → Checked α}

/-- A computation goes on with a sum that fits. -/
theorem add_bind (holds : type.Holds (left + right)) :
    (type.add left right >>= next) = next (left + right) := by
  rw [add_of_holds holds, Checked.ok_bind]

/-- A computation goes on with a difference that fits. -/
theorem sub_bind (holds : type.Holds (left - right)) :
    (type.sub left right >>= next) = next (left - right) := by
  rw [sub_of_holds holds, Checked.ok_bind]

/-- A computation goes on with a product that fits. -/
theorem mul_bind (holds : type.Holds (left * right)) :
    (type.mul left right >>= next) = next (left * right) := by
  rw [mul_of_holds holds, Checked.ok_bind]

end Sequence

end IntType

/-- The range of `i32`. -/
theorem i32_holds_iff {value : Int} : i32.Holds value ↔ -2 ^ 31 ≤ value ∧ value < 2 ^ 31 := Iff.rfl

/-- The range of `u32`. -/
theorem u32_holds_iff {value : Int} : u32.Holds value ↔ 0 ≤ value ∧ value < 2 ^ 32 := Iff.rfl

/-- The range of `i64`. -/
theorem i64_holds_iff {value : Int} : i64.Holds value ↔ -2 ^ 63 ≤ value ∧ value < 2 ^ 63 := Iff.rfl

/-- The range of `u64`. -/
theorem u64_holds_iff {value : Int} : u64.Holds value ↔ 0 ≤ value ∧ value < 2 ^ 64 := Iff.rfl

end Pesigitg.Base
