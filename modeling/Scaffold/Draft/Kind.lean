import Scaffold.Declaration

/-!
# Drafts

A draft is a declaration under construction. It holds a value of the declaration's type, and one
that contains other declarations refers to the drafts of those, so that a draft can be attached in
several places and still be changed afterwards.

`Draft kind` is the type of the drafts of a kind, and `Ref kind` refers to one of them.
-/

namespace Scaffold

/-- The kinds of declarations that are drafted. -/
inductive DraftKind where
  | field
  | property
  | constructor
  | enumMember
  | enumeration
  | «class»
  | struct
  | interface
  | «namespace»
deriving DecidableEq

/-- What a draft of the kind is built into. -/
abbrev DraftKind.Value : DraftKind → Type
  | .field => Field
  | .property => Property
  | .constructor => Constructor
  | .enumMember => EnumMember
  | .enumeration => Enumeration
  | .class => Class
  | .struct => Struct
  | .interface => Interface
  | .namespace => Namespace

/-- Refers to a draft of the kind. -/
structure Ref (kind : DraftKind) where
  index : Nat
deriving DecidableEq

/-! ## Drafts with attached drafts -/

structure EnumerationDraft where
  held : Enumeration := {}
  members : List (Ref .enumMember) := []
deriving DecidableEq

structure ClassDraft where
  held : Class := {}
  fields : List (Ref .field) := []
  properties : List (Ref .property) := []
  constructors : List (Ref .constructor) := []
deriving DecidableEq

structure StructDraft where
  held : Struct := {}
  fields : List (Ref .field) := []
  properties : List (Ref .property) := []
  constructors : List (Ref .constructor) := []
deriving DecidableEq

structure InterfaceDraft where
  held : Interface := {}
  properties : List (Ref .property) := []
deriving DecidableEq

structure NamespaceDraft where
  held : Namespace := {}
  classes : List (Ref .class) := []
  structs : List (Ref .struct) := []
  interfaces : List (Ref .interface) := []
  enums : List (Ref .enumeration) := []
deriving DecidableEq

/-- The drafts of a kind. Those without attached drafts are the value that they hold. -/
abbrev Draft : DraftKind → Type
  | .field => Field
  | .property => Property
  | .constructor => Constructor
  | .enumMember => EnumMember
  | .enumeration => EnumerationDraft
  | .class => ClassDraft
  | .struct => StructDraft
  | .interface => InterfaceDraft
  | .namespace => NamespaceDraft

namespace Draft

/-- The draft that holds a value and has nothing attached. -/
def ofValue : (kind : DraftKind) → kind.Value → Draft kind
  | .field, value => value
  | .property, value => value
  | .constructor, value => value
  | .enumMember, value => value
  | .enumeration, value => { held := value }
  | .class, value => { held := value }
  | .struct, value => { held := value }
  | .interface, value => { held := value }
  | .namespace, value => { held := value }

/-- The draft of a kind before anything is configured. -/
def fresh : (kind : DraftKind) → Draft kind
  | .field => ({} : Field)
  | .property => ({} : Property)
  | .constructor => ({} : Constructor)
  | .enumMember => ({} : EnumMember)
  | .enumeration => {}
  | .class => {}
  | .struct => {}
  | .interface => {}
  | .namespace => {}

/-- The value that a draft holds. Whatever that value itself contains is what it was seeded with;
attached drafts do not show in it. -/
def value : (kind : DraftKind) → Draft kind → kind.Value
  | .field, draft => draft
  | .property, draft => draft
  | .constructor, draft => draft
  | .enumMember, draft => draft
  | .enumeration, draft => EnumerationDraft.held draft
  | .class, draft => ClassDraft.held draft
  | .struct, draft => StructDraft.held draft
  | .interface, draft => InterfaceDraft.held draft
  | .namespace, draft => NamespaceDraft.held draft

theorem value_ofValue (kind : DraftKind) (held : kind.Value) :
    value kind (ofValue kind held) = held := by
  cases kind <;> rfl

end Draft

/-- A value of a kind as a declaration. -/
def DraftKind.declare : (kind : DraftKind) → kind.Value → Declaration
  | .field, value => .field value
  | .property, value => .property value
  | .constructor, value => .constructor value
  | .enumMember, value => .enumMember value
  | .enumeration, value => .enumeration value
  | .class, value => .class value
  | .struct, value => .struct value
  | .interface, value => .interface value
  | .namespace, value => .namespace value

/-- The value of a kind that a declaration is, if it is one. -/
def DraftKind.value? : (kind : DraftKind) → Declaration → Option kind.Value
  | .field, .field value => some value
  | .property, .property value => some value
  | .constructor, .constructor value => some value
  | .enumMember, .enumMember value => some value
  | .enumeration, .enumeration value => some value
  | .class, .class value => some value
  | .struct, .struct value => some value
  | .interface, .interface value => some value
  | .namespace, .namespace value => some value
  | _, _ => none

end Scaffold
