import Scaffold.Draft.Call

/-!
# Creating drafts

A draft is created fresh, from a value, or with its first settings already made. A setting that is
not given is not made; the access level is the only one that may not be given as missing.
-/

namespace Scaffold

/-- The settings that a draft may be created with. -/
structure FirstSettings where
  /-- The access level, if one is given, which may be given as missing. -/
  access : Option (Option String) := none
  type : Option String := none
  name : Option String := none
  /-- The number of a member of an enumeration. -/
  value : Option Raw := none

namespace FirstSettings

/-- The call that makes a setting, if the setting is given. -/
def callIf {α β : Type} (make : α → β) : Option α → List β
  | none => []
  | some value => [make value]

/-- The calls that make the settings that a kind has, access first, then type, name and number. -/
def calls (settings : FirstSettings) : (kind : DraftKind) → List (Call kind)
  | .field =>
    callIf FieldCall.access settings.access
      ++ callIf (FieldCall.type ∘ some) settings.type
      ++ callIf (FieldCall.name ∘ some) settings.name
  | .property =>
    callIf PropertyCall.access settings.access
      ++ callIf (PropertyCall.type ∘ some) settings.type
      ++ callIf (PropertyCall.name ∘ some) settings.name
  | .constructor => callIf ConstructorCall.access settings.access
  | .enumMember =>
    callIf (EnumMemberCall.name ∘ some) settings.name
      ++ callIf EnumMemberCall.value settings.value
  | .enumeration =>
    callIf EnumerationCall.access settings.access
      ++ callIf (EnumerationCall.name ∘ some) settings.name
  | .class =>
    callIf ClassCall.access settings.access ++ callIf (ClassCall.name ∘ some) settings.name
  | .struct =>
    callIf StructCall.access settings.access ++ callIf (StructCall.name ∘ some) settings.name
  | .interface =>
    callIf InterfaceCall.access settings.access ++ callIf (InterfaceCall.name ∘ some) settings.name
  | .namespace => callIf (NamespaceCall.name ∘ some) settings.name

end FirstSettings

namespace Workspace

/-- Stores a draft that holds a value and has nothing attached. -/
def seed (workspace : Workspace) {kind : DraftKind} (value : kind.Value) : Ref kind × Workspace :=
  workspace.add (Draft.ofValue kind value)

/-- Stores a draft with its first settings, unless one of them fails. -/
def create (workspace : Workspace) (kind : DraftKind) (settings : FirstSettings) :
    Except Failure (Ref kind × Workspace) :=
  match Call.applyAll kind (Draft.fresh kind) (settings.calls kind) with
  | (draft, none) => .ok (workspace.add draft)
  | (_, some failure) => .error failure

end Workspace

end Scaffold
