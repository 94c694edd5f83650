import Scaffold.Draft.Numbering
import Scaffold.Draft.Workspace

/-!
# Drafts unfolded

A draft refers to the drafts attached to it, which may be attached elsewhere, too. Unfolding it
copies them all into one value, a tree that shares nothing and refers to nothing. What has to hold
for a draft to be built can then be asked of the tree alone:

* **`Workspace.unfold`**: the tree of a draft. It reads the workspace and writes nothing.
* **`DraftKind.check`**: the checks of a tree, in the order in which building makes them. They see
  no workspace.
-/

namespace Scaffold

/-! ## Trees -/

/-- The constructor in a type of the given name, which is static or not. -/
def Constructor.bound (constructor : Constructor) (name : Option String) (isStatic : Bool) :
    Constructor :=
  { constructor with className := name, isStatic := isStatic }

/-- What an earlier type has written is overwritten by the next. -/
theorem Constructor.bound_bound (constructor : Constructor) (first second : Option String)
    (wasStatic isStatic : Bool) :
    (constructor.bound first wasStatic).bound second isStatic = constructor.bound second isStatic :=
  rfl

namespace Workspace

variable (workspace : Workspace)

/-- The constructors of a type, each with the name of the type and whether that is static. -/
def unfoldConstructors (name : Option String) (isStatic : Bool) (refs : List (Ref .constructor)) :
    List Constructor :=
  refs.map fun ref => Constructor.bound (workspace.get ref) name isStatic

def unfoldEnumeration (ref : Ref .enumeration) : Enumeration :=
  let draft : EnumerationDraft := workspace.get ref
  { draft.held with members := draft.members.map workspace.get }

def unfoldClass (ref : Ref .class) : Class :=
  let draft : ClassDraft := workspace.get ref
  { draft.held with
    fields := draft.fields.map workspace.get
    properties := draft.properties.map workspace.get
    constructors :=
      workspace.unfoldConstructors draft.held.name draft.held.isStatic draft.constructors }

/-- The constructors of a struct are never static. -/
def unfoldStruct (ref : Ref .struct) : Struct :=
  let draft : StructDraft := workspace.get ref
  { draft.held with
    fields := draft.fields.map workspace.get
    properties := draft.properties.map workspace.get
    constructors := workspace.unfoldConstructors draft.held.name false draft.constructors }

def unfoldInterface (ref : Ref .interface) : Interface :=
  let draft : InterfaceDraft := workspace.get ref
  { draft.held with properties := draft.properties.map workspace.get }

def unfoldNamespace (ref : Ref .namespace) : Namespace :=
  let draft : NamespaceDraft := workspace.get ref
  { draft.held with
    classes := draft.classes.map workspace.unfoldClass
    structs := draft.structs.map workspace.unfoldStruct
    interfaces := draft.interfaces.map workspace.unfoldInterface
    enums := draft.enums.map workspace.unfoldEnumeration }

/-- The tree of a draft: the value that it holds, where the trees of what is attached to it take
the place of whatever that value was seeded with. -/
def unfold : (kind : DraftKind) → Ref kind → kind.Value
  | .field, ref => workspace.get ref
  | .property, ref => workspace.get ref
  | .constructor, ref => workspace.get ref
  | .enumMember, ref => workspace.get ref
  | .enumeration, ref => workspace.unfoldEnumeration ref
  | .class, ref => workspace.unfoldClass ref
  | .struct, ref => workspace.unfoldStruct ref
  | .interface, ref => workspace.unfoldInterface ref
  | .namespace, ref => workspace.unfoldNamespace ref

end Workspace

/-! ## Checks of trees -/

def Enumeration.check (enumeration : Enumeration) : Except Error Enumeration := do
  enumeration.checkOwn
  let members ← enumeration.members.mapM EnumMember.check
  enumeration.withMembers members

def Class.check (record : Class) : Except Error Class := do
  record.checkOwn record.constructors.length
  let fields ← record.fields.mapM Field.check
  let properties ← record.properties.mapM Property.check
  let constructors ← record.constructors.mapM Constructor.check
  return { record with fields, properties, constructors }

def Struct.check (record : Struct) : Except Error Struct := do
  record.checkOwn
  let fields ← record.fields.mapM Field.check
  let properties ← record.properties.mapM Property.check
  let constructors ← record.constructors.mapM Constructor.check
  return { record with fields, properties, constructors }

def Interface.check (record : Interface) : Except Error Interface := do
  record.checkOwn
  let properties ← record.properties.mapM Property.check
  return { record with properties }

def Namespace.check (record : Namespace) : Except Error Namespace := do
  record.checkOwn
  let classes ← record.classes.mapM Class.check
  let structs ← record.structs.mapM Struct.check
  let interfaces ← record.interfaces.mapM Interface.check
  let enums ← record.enums.mapM Enumeration.check
  return { record with classes, structs, interfaces, enums }

/-- The tree as it is built, or the first thing that is wrong with it: its own settings come
before its parts. -/
def DraftKind.check : (kind : DraftKind) → kind.Value → Except Error kind.Value
  | .field => Field.check
  | .property => Property.check
  | .constructor => Constructor.check
  | .enumMember => EnumMember.check
  | .enumeration => Enumeration.check
  | .class => Class.check
  | .struct => Struct.check
  | .interface => Interface.check
  | .namespace => Namespace.check

end Scaffold
