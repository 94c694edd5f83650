import Scaffold.Draft.Argument
import Scaffold.Declaration.Constructor

/-!
# Configuring constructors

The calls that configure constructors. Parameters that are handed over together are added one by
one: the first that fails ends the call, and those before it stay.
-/

namespace Scaffold

inductive ConstructorCall where
  | access (text? : Option String)
  | summary (text? : Option String)
  /-- Adds a parameter of a type and name, and the member that it is stored in, if any. -/
  | parameter (arguments : List Raw)
  /-- Adds parameters, each given as the sequence of its arguments. -/
  | parameters (sequences : List Raw)
  /-- Calls the constructor of the base class. -/
  | baseCall (arguments : List (Option String))

namespace Constructor

/-- The parameter that three arguments describe. -/
def readParameter (type name member : Raw) : Except Failure Parameter :=
  if type.isNull then .error (.error (.missingArgument "type"))
  else if name.isNull then .error (.error (.missingArgument "name"))
  else
    Checked.orFail <| Readable.read
      (.object [("type", type), ("name", name), ("receiving_member", member)])

/-- The parameter that a call describes; it takes two arguments or three. -/
def parameterOf : List Raw → Except Failure Parameter
  | [type, name] => readParameter type name .null
  | [type, name, member] => readParameter type name member
  | _ => .error .wrongArity

/-- The arguments that a sequence holds. A text is the sequence of its characters, and an object
that of its keys, each where it was first written. -/
def sequenceArguments : Raw → Except Failure (List Raw)
  | .null => .error (.error (.missingValue "parameters"))
  | .array arguments => .ok arguments
  | .text text => .ok (text.toList.map fun c => .text (String.singleton c))
  | .object members => .ok ((members.map Prod.fst).eraseDups.map .text)
  | _ => .error .wrongArity

/-- The constructor with one more parameter. -/
def addParameter (constructor : Constructor) (arguments : List Raw) :
    Except Failure Constructor := do
  let parameter ← parameterOf arguments
  return { constructor with parameters := constructor.parameters ++ [parameter] }

/-- The constructor with the parameters up to the first that fails, and that failure. -/
def addParameters (constructor : Constructor) : List Raw → Constructor × Option Failure
  | [] => (constructor, none)
  | sequence :: sequences =>
    match sequenceArguments sequence >>= addParameter constructor with
    | .error failure => (constructor, some failure)
    | .ok added => added.addParameters sequences

/-- The constructor with a call of the constructor of the base class. -/
def withBaseCall (constructor : Constructor) (arguments : List (Option String)) :
    Except Error Constructor :=
  if arguments.any Option.isNone then .error (.missingValue "arguments")
  else .ok { constructor with baseCallArguments := some (arguments.filterMap id) }

end Constructor

/-- The outcome of a call that replaces nothing if it fails. -/
def atomically {α : Type} (before : α) : Except Failure α → α × Option Failure
  | .ok after => (after, none)
  | .error failure => (before, some failure)

/-- The constructor after a call, and the failure if there is one. -/
def ConstructorCall.apply (constructor : Constructor) :
    ConstructorCall → Constructor × Option Failure
  | .access text? => atomically constructor <|
    (requireArgument "access_modifier" text?).mapError .error |>.map fun text =>
      { constructor with access := .ofText text }
  | .summary text? => atomically constructor <|
    (requireArgument "summary" text?).mapError .error |>.map fun text =>
      { constructor with summary := some text }
  | .parameter arguments => atomically constructor (constructor.addParameter arguments)
  | .parameters sequences => constructor.addParameters sequences
  | .baseCall arguments => atomically constructor <|
    (constructor.withBaseCall arguments).mapError .error

end Scaffold
