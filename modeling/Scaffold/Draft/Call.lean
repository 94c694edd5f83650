import Scaffold.Draft.Call.Member
import Scaffold.Draft.Call.Constructor
import Scaffold.Draft.Call.Container
import Scaffold.Draft.Workspace

/-!
# Calls on drafts

`Call kind` is the type of the calls that configure drafts of a kind, and `Workspace.call` makes
one. A draft of one kind is never changed by a call on another, and a call that fails leaves its
draft as it was, but for parameters that are added one by one.
-/

namespace Scaffold

/-- The calls that configure drafts of a kind. -/
abbrev Call : DraftKind → Type
  | .field => FieldCall
  | .property => PropertyCall
  | .constructor => ConstructorCall
  | .enumMember => EnumMemberCall
  | .enumeration => EnumerationCall
  | .class => ClassCall
  | .struct => StructCall
  | .interface => InterfaceCall
  | .namespace => NamespaceCall

/-- The draft after a call, and the failure if there is one. -/
def Call.apply : (kind : DraftKind) → Draft kind → Call kind → Draft kind × Option Failure
  | .field, draft, call => atomically draft ((FieldCall.apply draft call).mapError .error)
  | .property, draft, call => atomically draft ((PropertyCall.apply draft call).mapError .error)
  | .constructor, draft, call => ConstructorCall.apply draft call
  | .enumMember, draft, call =>
    atomically draft ((EnumMemberCall.apply draft call).mapError .error)
  | .enumeration, draft, call =>
    atomically draft ((EnumerationCall.apply draft call).mapError .error)
  | .class, draft, call => atomically draft ((ClassCall.apply draft call).mapError .error)
  | .struct, draft, call => atomically draft ((StructCall.apply draft call).mapError .error)
  | .interface, draft, call => atomically draft ((InterfaceCall.apply draft call).mapError .error)
  | .namespace, draft, call => atomically draft ((NamespaceCall.apply draft call).mapError .error)

/-- The draft after some calls, up to the first that fails, and that failure. -/
def Call.applyAll (kind : DraftKind) (draft : Draft kind) :
    List (Call kind) → Draft kind × Option Failure
  | [] => (draft, none)
  | call :: calls =>
    match Call.apply kind draft call with
    | (after, none) => applyAll kind after calls
    | (after, some failure) => (after, some failure)

/-- The workspace after a call on one draft, and the failure if there is one. -/
def Workspace.call (workspace : Workspace) {kind : DraftKind} (ref : Ref kind) (call : Call kind) :
    Workspace × Option Failure :=
  let (draft, failure?) := Call.apply kind (workspace.get ref) call
  (workspace.set ref draft, failure?)

end Scaffold
