import Scaffold.Error

/-!
# Arguments of calls

A call may be given nothing where it requires something. A call that attaches several values takes
them one by one or as one sequence, and attaches none of them if one is missing. Sequences among
other arguments are no way to make such a call.
-/

namespace Scaffold

variable {α : Type}

/-- The argument of the given name, which must not be missing. -/
def requireArgument (name : String) : Option α → Except Error α
  | none => .error (.missingArgument name)
  | some value => .ok value

/-- An argument of a call that attaches several values. -/
inductive Given (α : Type) where
  | missing
  | one (value : α)
  | sequence (elements : List (Option α))

/-- The values that an argument stands for, of which some may be missing. -/
def Given.elements : Given α → List (Option α)
  | .missing => [none]
  | .one value => [some value]
  | .sequence elements => elements

/-- One value as a call may be given it. -/
def Given.ofOption : Option α → Given α
  | none => .missing
  | some value => .one value

@[simp]
theorem Given.elements_ofOption (value? : Option α) :
    (Given.ofOption value?).elements = [value?] := by
  cases value? <;> rfl

/-- The values that all arguments stand for, none of which may be missing. A call is given a
sequence as its only argument, or none: calls with sequences among other arguments are outside of
what drafts offer, and what becomes of them here says nothing. -/
def requireAll (name : String) (given : List (Given α)) : Except Error (List α) :=
  let elements := given.flatMap Given.elements
  if elements.any Option.isNone then .error (.missingElement name)
  else .ok (elements.filterMap id)

/-! ## Adding to what a draft holds -/

/-- The attached drafts and one more, which must not be missing. -/
def attach (attached : List α) (ref? : Option α) : Except Error (List α) := do
  return attached ++ [← requireArgument "builder" ref?]

/-- The attached drafts and some more, none of which may be missing. -/
def attachAll (attached : List α) (given : List (Given α)) : Except Error (List α) := do
  return attached ++ (← requireAll "builders" given)

/-- Adds a value to the end of a list that does not hold it. -/
def addNew [DecidableEq α] (values : List α) (value : α) : List α :=
  if value ∈ values then values else values ++ [value]

end Scaffold
