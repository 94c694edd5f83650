import Scaffold.Draft.Workspace
import Scaffold.Draft.Argument
import Scaffold.Text.CaseFold

/-!
# Looking for members

Drafts of classes, structs and enumerations can be asked whether a member of some kind and name is
attached. The answer looks at the attached drafts as they are now; a member without a name is never
found.
-/

namespace Scaffold

/-- The kinds of members that can be asked for. -/
inductive MemberKind where
  | any
  | interface
  | «class»
  | struct
  | enumeration
  | enumMember
  | field
  | property
deriving DecidableEq

/-- How the name of a member is compared with the wanted one. -/
inductive NameComparison where
  | ignoringCase
  | exact
  /-- The name of the member starts with the wanted one. -/
  | starting
deriving DecidableEq

/-- The name of a member is found when another is wanted. -/
def NameComparison.holds : NameComparison → String → String → Bool
  | .ignoringCase, name, wanted => Text.equalIgnoringCase name wanted
  | .exact, name, wanted => name == wanted
  | .starting, name, wanted => wanted.toList.isPrefixOf name.toList

/-- The kind asked for includes the given one. -/
def MemberKind.includes (asked kind : MemberKind) : Bool :=
  asked == .any || asked == kind

namespace Workspace

def fieldNames (workspace : Workspace) (refs : List (Ref .field)) : List (Option String) :=
  refs.map fun ref => Field.name (workspace.get ref)

def propertyNames (workspace : Workspace) (refs : List (Ref .property)) : List (Option String) :=
  refs.map fun ref => Property.name (workspace.get ref)

def enumMemberNames (workspace : Workspace) (refs : List (Ref .enumMember)) :
    List (Option String) :=
  refs.map fun ref => EnumMember.name (workspace.get ref)

/-- The names of the attached members of the kind asked for. -/
def memberNames (workspace : Workspace) (asked : MemberKind) :
    (kind : DraftKind) → Ref kind → List (Option String)
  | .class, ref =>
    let draft : ClassDraft := workspace.get ref
    (if asked.includes .field then workspace.fieldNames draft.fields else [])
      ++ if asked.includes .property then workspace.propertyNames draft.properties else []
  | .struct, ref =>
    let draft : StructDraft := workspace.get ref
    (if asked.includes .field then workspace.fieldNames draft.fields else [])
      ++ if asked.includes .property then workspace.propertyNames draft.properties else []
  | .enumeration, ref =>
    let draft : EnumerationDraft := workspace.get ref
    if asked.includes .enumMember then workspace.enumMemberNames draft.members else []
  | _, _ => []

/-- A member of the kind and name asked for is attached. -/
def hasMember (workspace : Workspace) {kind : DraftKind} (ref : Ref kind) (wanted? : Option String)
    (asked : MemberKind) (comparison : NameComparison) : Except Error Bool := do
  let wanted ← requireArgument "name" wanted?
  return (workspace.memberNames asked kind ref).any fun name? =>
    name?.any fun name => comparison.holds name wanted

end Workspace

end Scaffold
