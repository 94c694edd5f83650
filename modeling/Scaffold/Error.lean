import Scaffold.Raw.Checked
import Scaffold.Text.Blank
import Scaffold.Text.Shown

/-!
# Errors

An `Error` says why a declaration could not be configured, built or rendered. A `Failure` is any
way in which a call can end without an answer: an error, a raw value with issues, a number that
could not be read, or a call with the wrong number of arguments.

The wording of all messages is in this module.
-/

namespace Scaffold

/-- Why a declaration could not be configured, built or rendered. -/
inductive Error where
  /-- An argument is missing or not allowed. Without a message of its own it counts as missing. -/
  | argument (name : String) (message : Option String)
  /-- A setting that building or rendering requires is missing. -/
  | missingSetting (entity setting : String)
  /-- The source would not be legal. The diagnostic is the code of the rule that it breaks. -/
  | illegal (message : String) (diagnostic : Option String)
  /-- Any other reason. -/
  | other (message : String)
deriving DecidableEq

namespace Error

/-- The kind of an error, as it is reported. -/
def label : Error → String
  | .argument _ _ => "InvalidArgumentError"
  | .missingSetting _ _ => "MissingBuilderSettingError"
  | .illegal _ _ => "InvalidSyntaxError"
  | .other _ => "SharpCodeError"

def message : Error → String
  | .argument name message =>
    (Text.given? message).getD ("The argument '" ++ name ++ "' must be provided.")
  | .missingSetting entity setting =>
    "Providing the " ++ setting ++ " of the " ++ entity ++ " is required when building a " ++ entity
      ++ "."
  | .illegal message diagnostic =>
    match Text.given? diagnostic with
    | some code => message ++ " (" ++ code ++ ")"
    | none => message
  | .other message => message

/-- An error on one line: its kind and what it says. -/
def described (error : Error) : String :=
  "[" ++ error.label ++ "] " ++ error.message

/-! ## The errors of this library -/

/-- A required argument is missing. -/
def missingArgument (name : String) : Error :=
  .argument name none

/-- One of the drafts or names to attach is missing. -/
def missingElement (name : String) : Error :=
  .argument name (some ("One of the " ++ name ++ " parameter values is None."))

/-- One of the parameters or arguments of a constructor is missing. -/
def missingValue (name : String) : Error :=
  .argument name (some ("One of the " ++ name ++ " values is None."))

/-- The number of an enumeration member is no integer. -/
def valueNotInteger : Error :=
  .argument "value" (some "The argument 'value' must be an integer.")

/-- A record has no slot with the given key. -/
def unknownKey (label key : String) : Error :=
  .argument key (some ("'" ++ label ++ "' has no field named '" ++ key ++ "'."))

/-- A value of the called type does not stand for source of its own. -/
def notRenderable (label : String) : Error :=
  .argument "node" (some ("Cannot render a value of type '" ++ label ++ "'."))

/-- A setter is generated beside a getter that was taken away. -/
def setterWithoutGetter : Error :=
  .illegal "Properties with auto implemented setters must also have auto implemented getters."
    (some "CS8051")

/-- A setter is generated beside a getter with code of its own. -/
def setterWithCustomGetter : Error :=
  .illegal "Properties with custom getters cannot have auto implemented setters." none

/-- A property with a default value has an accessor with code of its own. -/
def defaultWithCustomAccessor : Error :=
  .illegal "Only auto implemented properties can have a default value." (some "CS8050")

/-- A static class has more than one constructor. -/
def staticConstructors : Error :=
  .illegal "Static classes can have only 1 constructor." none

/-- Two members of an enumeration have one name. -/
def duplicateMember (enumeration member : String) : Error :=
  .illegal
    ("The enum '" ++ enumeration ++ "' already contains a definition for '" ++ member ++ "'.") none

/-! ## How missing arguments are reported -/

/-- An element that is missing makes an argument invalid. -/
@[simp]
theorem label_missingElement (name : String) :
    (missingElement name).label = "InvalidArgumentError" := rfl

@[simp]
theorem label_missingValue (name : String) :
    (missingValue name).label = "InvalidArgumentError" := rfl

end Error

/-- The way in which a call ends without an answer. -/
inductive Failure where
  | error (error : Error)
  /-- A raw value has issues. -/
  | invalid (issues : List Issue)
  /-- A text that should be a number is none. -/
  | notANumber (text : String) (fault : Number.IntegerFault)
  /-- A call does not take that number of arguments. -/
  | wrongArity
deriving DecidableEq

/-- The issues of a value as the failure of the call that read it. -/
def Checked.orFail {α : Type} (value : Checked α) : Except Failure α :=
  value.mapError .invalid

/-- The most characters of a text that a message about a number shows. -/
def Number.maxShown : Nat := 200

/-- What is said about a text that should be an integer. -/
def Number.IntegerFault.message (text : String) : Number.IntegerFault → String
  | .malformed =>
    "invalid literal for int() with base 10: "
      ++ String.ofList ((Text.shown text.toList).take Number.maxShown)
  | .tooManyDigits count =>
    "Exceeds the limit (4300 digits) for integer string conversion: value has " ++ toString count
      ++ " digits; use sys.set_int_max_str_digits() to increase the limit"

end Scaffold
