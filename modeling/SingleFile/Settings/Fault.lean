import SingleFile.Text.Blank
import SingleFile.Value

/-!
# Checked settings

A value is checked against the form that a setting must have. Every fault
is reported, in the order of the settings, with the place it was found
at; a checked value is there only when there is no fault.
-/

namespace SingleFile

namespace Settings

/-- A step on the way to a value. -/
inductive Step
  /-- To a field of a table. -/
  | field (name : String)
  /-- To an item of a list. -/
  | item (index : Nat)
  deriving DecidableEq, Repr

/-- What is wrong with a value. -/
inductive Cause
  /-- A string is expected. -/
  | notText
  /-- A string is empty. -/
  | tooShort
  /-- A list is expected. -/
  | notList
  /-- A table of the named settings is expected. -/
  | notTable (settings : String)
  /-- The two shorthands of directives are the same. -/
  | sameShorthands
  deriving DecidableEq, Repr

namespace Cause

/-- The name of the kind of a cause. -/
def kind : Cause → String
  | notText => "string_type"
  | tooShort => "string_too_short"
  | notList => "tuple_type"
  | notTable _ => "model_type"
  | sameShorthands => "value_error"

/-- The message of a cause. -/
def message : Cause → String
  | notText => "Input should be a valid string"
  | tooShort => "String should have at least 1 character"
  | notList => "Input should be a valid tuple"
  | notTable settings => s!"Input should be a valid dictionary or instance of {settings}"
  | sameShorthands => "Value error, bind_shorthand and event_shorthand must differ."

end Cause

/-- A cause and the way to the value that is at fault. -/
structure Fault where
  place : List Step
  cause : Cause
  deriving DecidableEq, Repr

/-- A value, or the faults for which there is none. -/
abbrev Checked (α : Type) := Except (List Fault) α

namespace Checked

/-- The value at fault itself. -/
def fault (cause : Cause) : Checked α := .error [⟨[], cause⟩]

/-- Faults seen from one step further away. -/
def beneath (step : Step) (c : Checked α) : Checked α :=
  c.mapError fun faults => faults.map fun f => { f with place := step :: f.place }

/-- A function and its argument checked one after the other, with the faults
of both. -/
def apply (f : Checked (α → β)) (a : Checked α) : Checked β :=
  match f, a with
  | .ok f, .ok a => .ok (f a)
  | .ok _, .error faults => .error faults
  | .error faults, .ok _ => .error faults
  | .error first, .error second => .error (first ++ second)

/-- The items of a list checked in order, with the faults of all. -/
def all (check : Value → Checked α) : (index : Nat) → List Value → Checked (List α)
  | _, [] => .ok []
  | index, v :: vs =>
    apply ((beneath (.item index) (check v)).map fun a more => a :: more) (all check (index + 1) vs)

end Checked

/-! ## Forms of values -/

/-- A string without white space at its ends, of at least `least` characters. -/
def checkText (least : Nat) : Value → Checked Text
  | .string s =>
    let trimmed := s.trimOf Text.isWhiteSpace
    if trimmed.length < least then .fault .tooShort else .ok trimmed
  | _ => .fault .notText

/-- A list of strings. -/
def checkTexts : Value → Checked (List Text)
  | .array items => Checked.all (checkText 0) 0 items
  | _ => .fault .notList

/-- A table of settings with the given name. -/
def checkTable (name : String) (check : List (Text × Value) → Checked α) : Value → Checked α
  | .table fields => check fields
  | _ => .fault (.notTable name)

/-- A field checked, or its default where the field is absent. -/
def checkField (fields : List (Text × Value)) (name : String) (check : Value → Checked α)
    (default : α) : Checked α :=
  match Value.get? fields name.toList with
  | some v => (check v).beneath (.field name)
  | none => .ok default

end Settings

end SingleFile
