import Scaffold.Json.Token

/-!
# Reading JSON text

The reader goes through the tokens once and keeps the arrays and objects that are still open,
innermost first. Each token is allowed or not by what is expected at its place.

`read` gives the value that a text holds, or nothing if the text is not one value.
-/

namespace Scaffold.Json

/-- An array or object that is still open, its parts in reverse. -/
inductive Frame where
  | array (elements : List Raw)
  | object (members : List (String × Raw))
  /-- An object that waits for the value of a key. -/
  | member (key : String) (members : List (String × Raw))

/-- What may come next. -/
inductive Expected where
  | value
  /-- The first element of an array, or its end. -/
  | element
  /-- The first key of an object, or its end. -/
  | member
  | key
  | colon
  /-- A comma, or the end of the innermost array or object. -/
  | separator
  /-- Nothing: the value is read. -/
  | nothing (value : Raw)

/-- The reader between two tokens. -/
structure Reader where
  frames : List Frame
  expected : Expected

/-- The most arrays and objects that a value may stand in. -/
def maxDepth : Nat := 200

namespace Reader

/-- The reader before the first token. -/
def start : Reader := ⟨[], .value⟩

/-- A value is read: it goes to the innermost array or object. -/
def deliver (value : Raw) : List Frame → Option Reader
  | [] => some ⟨[], .nothing value⟩
  | .array elements :: frames => some ⟨.array (value :: elements) :: frames, .separator⟩
  | .member key members :: frames => some ⟨.object ((key, value) :: members) :: frames, .separator⟩
  | .object _ :: _ => none

/-- A token that starts a value, where one may stand. -/
def beginValue (frames : List Frame) : Token → Option Reader
  | .openArray => some ⟨.array [] :: frames, .element⟩
  | .openObject => some ⟨.object [] :: frames, .member⟩
  | .text chars => deliver (.text (String.ofList chars)) frames
  | .scalar value => deliver value frames
  | _ => none

/-- A token that may only be a key. -/
def beginMember (frames : List Frame) (token : Token) : Option Reader :=
  match token, frames with
  | .text chars, .object members :: frames =>
    some ⟨.member (String.ofList chars) members :: frames, .colon⟩
  | _, _ => none

/-- A token that may only end the innermost array or object. -/
def leave (frames : List Frame) (token : Token) : Option Reader :=
  match token, frames with
  | .closeArray, .array elements :: frames => deliver (.array elements.reverse) frames
  | .closeObject, .object members :: frames => deliver (.object members.reverse) frames
  | _, _ => none

/-- A token after a value inside an array or object. -/
def proceed (frames : List Frame) (token : Token) : Option Reader :=
  match token, frames with
  | .comma, .array _ :: _ => some ⟨frames, .value⟩
  | .comma, .object _ :: _ => some ⟨frames, .key⟩
  | token, frames => leave frames token

/-- The innermost array or object has to stay empty. -/
def isTooDeep (reader : Reader) : Bool :=
  maxDepth < reader.frames.length

/-- Takes one token, or refuses it. -/
def step (reader : Reader) (token : Token) : Option Reader :=
  match reader.expected with
  | .value => beginValue reader.frames token
  | .element =>
    match token with
    | .closeArray => leave reader.frames token
    | token => if reader.isTooDeep then none else beginValue reader.frames token
  | .member =>
    match token with
    | .closeObject => leave reader.frames token
    | token => if reader.isTooDeep then none else beginMember reader.frames token
  | .key => beginMember reader.frames token
  | .colon =>
    match token with
    | .colon => some ⟨reader.frames, .value⟩
    | _ => none
  | .separator => proceed reader.frames token
  | .nothing _ => none

/-- The value that was read, if it is complete. -/
def result? (reader : Reader) : Option Raw :=
  match reader.expected with
  | .nothing value => some value
  | _ => none

end Reader

/-- The value that a text holds. -/
def read (cs : List Char) : Option Raw := do
  let tokens ← tokens? cs
  let reader ← tokens.foldlM Reader.step Reader.start
  reader.result?

end Scaffold.Json
