import Mathlib.Logic.Basic

/-!
# JSON documents

Documents as a serializer builds them and the accessors of a reader that treats every missing or
mistyped field as absent.
-/

namespace Pesigitg.Base

/-- A JSON document whose numbers are natural. Fields keep the order they were written in. -/
inductive Json where
  | null
  | bool (value : Bool)
  | number (value : Nat)
  | string (text : String)
  | array (items : List Json)
  | object (fields : List (String × Json))

namespace Json

section Access

/-- The value of a field, by its first occurrence. -/
def get (key : String) : Json → Option Json
  | object fields => fields.lookup key
  | _ => none

def asNumber : Json → Option Nat
  | number value => some value
  | _ => none

def asString : Json → Option String
  | string text => some text
  | _ => none

def asBool : Json → Option Bool
  | bool value => some value
  | _ => none

def asArray : Json → Option (List Json)
  | array items => some items
  | _ => none

@[simp] theorem asNumber_number (value : Nat) : (number value).asNumber = some value := rfl

@[simp] theorem asString_string (text : String) : (string text).asString = some text := rfl

@[simp] theorem asArray_array (items : List Json) : (array items).asArray = some items := rfl

end Access

section Build

/-- An optional value, written as `null` when it is missing. -/
def ofOption {α : Type} (write : α → Json) : Option α → Json
  | none => null
  | some value => write value

/-- A field that is left out when its value is missing. -/
def optionalField {α : Type} (key : String) (write : α → Json) :
    Option α → List (String × Json)
  | none => []
  | some value => [(key, write value)]

end Build

section Fields

variable {key other : String} {value : Json} {fields : List (String × Json)}

/-- A lookup passes a field under another name. -/
theorem get_object_cons_of_ne (differs : key ≠ other) :
    get key (object ((other, value) :: fields)) = get key (object fields) := by
  have skipped : (key == other) = false := beq_eq_false_iff_ne.mpr differs
  simp only [get, List.lookup_cons, skipped]

/-- The first part of an object that has the field decides. -/
theorem get_object_append {front back : List (String × Json)} :
    get key (object (front ++ back)) = (get key (object front)).or (get key (object back)) :=
  List.lookup_append

/-- An optional field under another name. -/
theorem get_optionalField_of_ne {α : Type} {write : α → Json} {optional : Option α}
    (differs : key ≠ other) : get key (object (optionalField other write optional)) = none := by
  cases optional with
  | none => rfl
  | some value => exact get_object_cons_of_ne differs

end Fields

end Json

end Pesigitg.Base
