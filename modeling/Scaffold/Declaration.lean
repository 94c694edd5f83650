import Scaffold.Declaration.Namespace

/-!
# Declarations

A declaration is a value of one of the eleven record types. Nine of them stand for source of their
own; accessors and parameters are parts of others.
-/

namespace Scaffold

/-- A value of any record type. -/
inductive Declaration where
  | accessor (value : Accessor)
  | field (value : Field)
  | property (value : Property)
  | parameter (value : Parameter)
  | constructor (value : Constructor)
  | enumMember (value : EnumMember)
  | enumeration (value : Enumeration)
  | «class» (value : Class)
  | struct (value : Struct)
  | interface (value : Interface)
  | «namespace» (value : Namespace)
deriving DecidableEq

namespace Declaration

/-- What the type of a declaration is called. -/
def label : Declaration → String
  | .accessor _ => Record.label Accessor
  | .field _ => Record.label Field
  | .property _ => Record.label Property
  | .parameter _ => Record.label Parameter
  | .constructor _ => Record.label Constructor
  | .enumMember _ => Record.label EnumMember
  | .enumeration _ => Record.label Enumeration
  | .class _ => Record.label Class
  | .struct _ => Record.label Struct
  | .interface _ => Record.label Interface
  | .namespace _ => Record.label Namespace

/-- The readers of declarations, by what their types are called. -/
def readers : List (String × (Raw → Checked Declaration)) :=
  [(Record.label Accessor, fun raw => (Readable.read raw).map accessor),
   (Record.label Field, fun raw => (Readable.read raw).map field),
   (Record.label Property, fun raw => (Readable.read raw).map property),
   (Record.label Parameter, fun raw => (Readable.read raw).map parameter),
   (Record.label Constructor, fun raw => (Readable.read raw).map constructor),
   (Record.label EnumMember, fun raw => (Readable.read raw).map enumMember),
   (Record.label Enumeration, fun raw => (Readable.read raw).map enumeration),
   (Record.label Class, fun raw => (Readable.read raw).map «class»),
   (Record.label Struct, fun raw => (Readable.read raw).map struct),
   (Record.label Interface, fun raw => (Readable.read raw).map interface),
   (Record.label Namespace, fun raw => (Readable.read raw).map «namespace»)]

/-- The declaration of the called type that a raw value describes, if there is such a type. -/
def read? (label : String) (raw : Raw) : Option (Checked Declaration) :=
  (readers.lookup label).map fun reader => reader raw

end Declaration

end Scaffold
