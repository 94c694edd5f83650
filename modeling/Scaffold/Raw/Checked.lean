import Scaffold.Raw
import Scaffold.Number.PlainInteger
import Scaffold.Text.Lower

/-!
# Checked values

Reading a raw value either gives a value or the list of everything wrong with it, in the order in
which its parts are declared. `Readable` is the class of types that raw values can be read as.

An integer may also be given as a truth value, as a fraction without fractional part, or as text,
and a truth value as one of a few words and numbers; all else is taken as it is or refused.
-/

namespace Scaffold

/-- A step from a value to one of its parts. -/
inductive Step where
  | key (name : String)
  | index (position : Nat)
deriving DecidableEq

/-- What is wrong with a part of a raw value. -/
inductive IssueKind where
  | missing
  | notText
  | notInteger
  /-- A text that is not an integer. -/
  | unreadableInteger
  | integerTooLarge
  /-- A number with a fractional part. -/
  | fractionalInteger
  | notFinite
  | notBool
  /-- A text or integer that is no truth value. -/
  | unreadableBool
  /-- None of the members of an enumeration. -/
  | notListed
  /-- None of the texts that are allowed. -/
  | notLiteral
  | notObject
  | notArray
  | notPath
  /-- Below the least value allowed. -/
  | tooSmall
  /-- Text that is not JSON. -/
  | notJson
  /-- An attempt to assign to a part of a value. -/
  | frozen
deriving DecidableEq

/-- The code that an issue is reported with. -/
def IssueKind.code : IssueKind → String
  | .missing => "missing"
  | .notText => "string_type"
  | .notInteger => "int_type"
  | .unreadableInteger => "int_parsing"
  | .integerTooLarge => "int_parsing_size"
  | .fractionalInteger => "int_from_float"
  | .notFinite => "finite_number"
  | .notBool => "bool_type"
  | .unreadableBool => "bool_parsing"
  | .notListed => "enum"
  | .notLiteral => "literal_error"
  | .notObject => "model_type"
  | .notArray => "tuple_type"
  | .notPath => "path_type"
  | .tooSmall => "greater_than_equal"
  | .notJson => "json_invalid"
  | .frozen => "frozen_instance"

/-- Something wrong, and the part of the value where it is. -/
structure Issue where
  path : List Step
  kind : IssueKind
deriving DecidableEq

/-- A step as text. -/
def Step.text : Step → String
  | .key name => name
  | .index position => toString position

/-- The path to an issue as text: its steps with points between. -/
def Issue.location (issue : Issue) : String :=
  ".".intercalate (issue.path.map Step.text)

/-- A value, or everything that is wrong with it. -/
abbrev Checked (α : Type) := Except (List Issue) α

namespace Checked

variable {α β γ : Type}

/-- One thing is wrong with the value as a whole. -/
def fail (kind : IssueKind) : Checked α :=
  .error [⟨[], kind⟩]

/-- The value is a part that one step leads to. -/
def below (step : Step) : Checked α → Checked α
  | .ok value => .ok value
  | .error issues => .error (issues.map fun issue => { issue with path := step :: issue.path })

/-- Combines two checked values; the issues of both are reported, in order. -/
def both (combine : α → β → γ) : Checked α → Checked β → Checked γ
  | .ok first, .ok second => .ok (combine first second)
  | .ok _, .error issues => .error issues
  | .error issues, .ok _ => .error issues
  | .error first, .error second => .error (first ++ second)

/-- Checks all elements of a list, each below its position. -/
def listFrom (check : Raw → Checked α) (position : Nat) : List Raw → Checked (List α)
  | [] => .ok []
  | element :: rest =>
    both List.cons ((check element).below (.index position)) (listFrom check (position + 1) rest)

end Checked

/-- The types that a raw value can be read as. -/
class Readable (α : Type) where
  read : Raw → Checked α

/-! ## Plain values -/

/-- The issue that a number raises that is not an integer. -/
def Number.Binary64.NotInteger.issue : Number.Binary64.NotInteger → IssueKind
  | .notFinite => .notFinite
  | .fractional => .fractionalInteger
  | .tooLarge => .integerTooLarge

/-- The issue that a text raises that is not an integer. -/
def Number.IntegerFault.issue : Number.IntegerFault → IssueKind
  | .malformed => .unreadableInteger
  | .tooManyDigits _ => .integerTooLarge

/-- The texts for a truth value, in lower case. -/
def trueWords : List String := ["1", "on", "t", "true", "y", "yes"]

/-- The texts for the other truth value, in lower case. -/
def falseWords : List String := ["0", "off", "f", "false", "n", "no"]

/-- The integers that fit 64 bits. -/
def fitsInt64 (value : Int) : Bool :=
  Int64.minValue.toInt ≤ value && value ≤ Int64.maxValue.toInt

/-- The truth value that an integer stands for. -/
def boolOfInt (value : Int) : Checked Bool :=
  if value = 1 then .ok true
  else if value = 0 then .ok false
  else Checked.fail .unreadableBool

/-- The truth value that a text stands for, in either case of its letters. -/
def boolOfText? (text : String) : Option Bool :=
  if trueWords.contains (Text.lowerAscii text) then some true
  else if falseWords.contains (Text.lowerAscii text) then some false
  else none

/-- The integer that a raw value stands for. -/
def readInt : Raw → Checked Int
  | .integer value => .ok value
  | .bool value => .ok (if value then 1 else 0)
  | .decimal value => match value.toInt with
    | .ok value => .ok value
    | .error fault => Checked.fail fault.issue
  | .text value =>
    match Number.readTidied value.toList with
    | .ok value => .ok value
    | .error fault => Checked.fail fault.issue
  | _ => Checked.fail .notInteger

/-- The truth value that a raw value stands for. A number that is no integer of 64 bits cannot be
one. -/
def readBool : Raw → Checked Bool
  | .bool value => .ok value
  | .integer value => if fitsInt64 value then boolOfInt value else Checked.fail .notBool
  | .decimal value => match value.toInt with
    | .ok value => boolOfInt value
    | .error _ => Checked.fail .notBool
  | .text value => (boolOfText? value).elim (Checked.fail .unreadableBool) .ok
  | _ => Checked.fail .notBool

instance : Readable Int := ⟨readInt⟩

instance : Readable Bool := ⟨readBool⟩

instance : Readable String where
  read
    | .text value => .ok value
    | _ => Checked.fail .notText

/-- A value that may be absent. -/
instance {α : Type} [Readable α] : Readable (Option α) where
  read
    | .null => .ok none
    | raw => (Readable.read raw).map some

/-- A sequence is read from an array only. -/
instance {α : Type} [Readable α] : Readable (List α) where
  read
    | .array elements => Checked.listFrom Readable.read 0 elements
    | _ => Checked.fail .notArray

end Scaffold
