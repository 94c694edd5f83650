import Scaffold.Draft.Numbering
import Scaffold.Draft.Workspace

/-!
# Building

A draft is built by checking it and building what is attached to it. Building has one effect on
the workspace: a class or struct writes its name, and whether it is static, into the drafts of its
constructors, one after another as it reaches them, and what is written stays also if the build
fails afterwards.
-/

namespace Scaffold

/-- A computation that may fail, and changes the workspace whether it fails or not. -/
abbrev Build (α : Type) := ExceptT Error (StateM Workspace) α

namespace Build

/-- The draft that a reference refers to. -/
def draft {kind : DraftKind} (ref : Ref kind) : Build (Draft kind) := do
  return (← get).get ref

/-- A check of what has been read. -/
def check {α : Type} : Except Error α → Build α
  | .ok value => pure value
  | .error error => throw error

def field (ref : Ref .field) : Build Field := do
  check (Field.check (← draft ref))

def property (ref : Ref .property) : Build Property := do
  check (Property.check (← draft ref))

def enumMember (ref : Ref .enumMember) : Build EnumMember := do
  check (EnumMember.check (← draft ref))

def constructor (ref : Ref .constructor) : Build Constructor := do
  check (Constructor.check (← draft ref))

/-- Writes the name of a type, and whether it is static, into the draft of a constructor. -/
def bindConstructor (name : Option String) (isStatic : Bool) (ref : Ref .constructor) :
    Build Unit :=
  modify fun workspace =>
    let bound : Constructor :=
      { (workspace.get ref : Constructor) with className := name, isStatic := isStatic }
    workspace.set ref bound

def boundConstructor (name : Option String) (isStatic : Bool) (ref : Ref .constructor) :
    Build Constructor := do
  bindConstructor name isStatic ref
  constructor ref

def enumeration (ref : Ref .enumeration) : Build Enumeration := do
  let draft : EnumerationDraft ← draft ref
  check draft.held.checkOwn
  let members ← draft.members.mapM enumMember
  check (draft.held.withMembers members)

def «class» (ref : Ref .class) : Build Class := do
  let draft : ClassDraft ← draft ref
  check (draft.held.checkOwn draft.constructors.length)
  let fields ← draft.fields.mapM field
  let properties ← draft.properties.mapM property
  let constructors ←
    draft.constructors.mapM (boundConstructor draft.held.name draft.held.isStatic)
  return { draft.held with fields, properties, constructors }

def struct (ref : Ref .struct) : Build Struct := do
  let draft : StructDraft ← draft ref
  check draft.held.checkOwn
  let fields ← draft.fields.mapM field
  let properties ← draft.properties.mapM property
  let constructors ← draft.constructors.mapM (boundConstructor draft.held.name false)
  return { draft.held with fields, properties, constructors }

def interface (ref : Ref .interface) : Build Interface := do
  let draft : InterfaceDraft ← draft ref
  check draft.held.checkOwn
  let properties ← draft.properties.mapM property
  return { draft.held with properties }

def «namespace» (ref : Ref .namespace) : Build Namespace := do
  let draft : NamespaceDraft ← draft ref
  check draft.held.checkOwn
  let classes ← draft.classes.mapM «class»
  let structs ← draft.structs.mapM struct
  let interfaces ← draft.interfaces.mapM interface
  let enums ← draft.enums.mapM enumeration
  return { draft.held with classes, structs, interfaces, enums }

def any : (kind : DraftKind) → Ref kind → Build kind.Value
  | .field, ref => field ref
  | .property, ref => property ref
  | .constructor, ref => constructor ref
  | .enumMember, ref => enumMember ref
  | .enumeration, ref => enumeration ref
  | .class, ref => «class» ref
  | .struct, ref => struct ref
  | .interface, ref => interface ref
  | .namespace, ref => «namespace» ref

end Build

def Workspace.build (workspace : Workspace) {kind : DraftKind} (ref : Ref kind) :
    Except Error kind.Value × Workspace :=
  (Build.any kind ref).run.run workspace

end Scaffold
