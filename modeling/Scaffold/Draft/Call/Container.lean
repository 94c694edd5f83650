import Scaffold.Draft.Argument
import Scaffold.Draft.Kind

/-!
# Configuring containers

The calls that configure enumerations, classes, structs, interfaces and namespaces. Each replaces
one slot of the value that a draft holds or adds to one list of attached drafts, or it fails and
does neither.
-/

namespace Scaffold

/-! ## Enumerations -/

inductive EnumerationCall where
  | access (text? : Option String)
  | name (text? : Option String)
  | summary (text? : Option String)
  | flags (flag : Bool)
  | member (ref? : Option (Ref .enumMember))
  | members (given : List (Given (Ref .enumMember)))

def EnumerationCall.apply (draft : EnumerationDraft) :
    EnumerationCall → Except Error EnumerationDraft
  | .access text? => do
    let text ← requireArgument "access_modifier" text?
    return { draft with held := { draft.held with access := .ofText text } }
  | .name text? => do
    let text ← requireArgument "name" text?
    return { draft with held := { draft.held with name := some text } }
  | .summary text? => do
    let text ← requireArgument "summary" text?
    return { draft with held := { draft.held with summary := some text } }
  | .flags flag => .ok { draft with held := { draft.held with isFlags := flag } }
  | .member ref? => do return { draft with members := ← attach draft.members ref? }
  | .members given => do return { draft with members := ← attachAll draft.members given }

/-! ## Classes -/

inductive ClassCall where
  | access (text? : Option String)
  | name (text? : Option String)
  | summary (text? : Option String)
  | static (flag : Bool)
  | inheritedClass (text? : Option String)
  | implementedInterface (text? : Option String)
  | field (ref? : Option (Ref .field))
  | fields (given : List (Given (Ref .field)))
  | property (ref? : Option (Ref .property))
  | properties (given : List (Given (Ref .property)))
  | constructor (ref? : Option (Ref .constructor))
  | constructors (given : List (Given (Ref .constructor)))

def ClassCall.apply (draft : ClassDraft) : ClassCall → Except Error ClassDraft
  | .access text? => do
    let text ← requireArgument "access_modifier" text?
    return { draft with held := { draft.held with access := .ofText text } }
  | .name text? => do
    let text ← requireArgument "name" text?
    return { draft with held := { draft.held with name := some text } }
  | .summary text? => do
    let text ← requireArgument "summary" text?
    return { draft with held := { draft.held with summary := some text } }
  | .static flag => .ok { draft with held := { draft.held with isStatic := flag } }
  | .inheritedClass text? => do
    let text ← requireArgument "name" text?
    return { draft with held := { draft.held with inheritedClass := some text } }
  | .implementedInterface text? => do
    let text ← requireArgument "name" text?
    let names := addNew draft.held.implementedInterfaces text
    return { draft with held := { draft.held with implementedInterfaces := names } }
  | .field ref? => do return { draft with fields := ← attach draft.fields ref? }
  | .fields given => do return { draft with fields := ← attachAll draft.fields given }
  | .property ref? => do return { draft with properties := ← attach draft.properties ref? }
  | .properties given => do return { draft with properties := ← attachAll draft.properties given }
  | .constructor ref? => do return { draft with constructors := ← attach draft.constructors ref? }
  | .constructors given => do
    return { draft with constructors := ← attachAll draft.constructors given }

/-! ## Structs -/

inductive StructCall where
  | access (text? : Option String)
  | name (text? : Option String)
  | summary (text? : Option String)
  | implementedInterface (text? : Option String)
  | field (ref? : Option (Ref .field))
  | fields (given : List (Given (Ref .field)))
  | property (ref? : Option (Ref .property))
  | properties (given : List (Given (Ref .property)))
  | constructor (ref? : Option (Ref .constructor))
  | constructors (given : List (Given (Ref .constructor)))

def StructCall.apply (draft : StructDraft) : StructCall → Except Error StructDraft
  | .access text? => do
    let text ← requireArgument "access_modifier" text?
    return { draft with held := { draft.held with access := .ofText text } }
  | .name text? => do
    let text ← requireArgument "name" text?
    return { draft with held := { draft.held with name := some text } }
  | .summary text? => do
    let text ← requireArgument "summary" text?
    return { draft with held := { draft.held with summary := some text } }
  | .implementedInterface text? => do
    let text ← requireArgument "name" text?
    let names := addNew draft.held.implementedInterfaces text
    return { draft with held := { draft.held with implementedInterfaces := names } }
  | .field ref? => do return { draft with fields := ← attach draft.fields ref? }
  | .fields given => do return { draft with fields := ← attachAll draft.fields given }
  | .property ref? => do return { draft with properties := ← attach draft.properties ref? }
  | .properties given => do return { draft with properties := ← attachAll draft.properties given }
  | .constructor ref? => do return { draft with constructors := ← attach draft.constructors ref? }
  | .constructors given => do
    return { draft with constructors := ← attachAll draft.constructors given }

/-! ## Interfaces -/

inductive InterfaceCall where
  | access (text? : Option String)
  | name (text? : Option String)
  | summary (text? : Option String)
  | implementedInterface (text? : Option String)
  | property (ref? : Option (Ref .property))
  | properties (given : List (Given (Ref .property)))

def InterfaceCall.apply (draft : InterfaceDraft) : InterfaceCall → Except Error InterfaceDraft
  | .access text? => do
    let text ← requireArgument "access_modifier" text?
    return { draft with held := { draft.held with access := .ofText text } }
  | .name text? => do
    let text ← requireArgument "name" text?
    return { draft with held := { draft.held with name := some text } }
  | .summary text? => do
    let text ← requireArgument "summary" text?
    return { draft with held := { draft.held with summary := some text } }
  | .implementedInterface text? => do
    let text ← requireArgument "name" text?
    let names := addNew draft.held.implementedInterfaces text
    return { draft with held := { draft.held with implementedInterfaces := names } }
  | .property ref? => do return { draft with properties := ← attach draft.properties ref? }
  | .properties given => do return { draft with properties := ← attachAll draft.properties given }

/-! ## Namespaces -/

inductive NamespaceCall where
  | name (text? : Option String)
  | usingName (text? : Option String)
  | usingNames (given : List (Given String))
  | «class» (ref? : Option (Ref .class))
  | classes (given : List (Given (Ref .class)))
  | struct (ref? : Option (Ref .struct))
  | structs (given : List (Given (Ref .struct)))
  | interface (ref? : Option (Ref .interface))
  | interfaces (given : List (Given (Ref .interface)))
  | enum (ref? : Option (Ref .enumeration))
  | enums (given : List (Given (Ref .enumeration)))

def NamespaceCall.apply (draft : NamespaceDraft) : NamespaceCall → Except Error NamespaceDraft
  | .name text? => do
    let text ← requireArgument "name" text?
    return { draft with held := { draft.held with name := some text } }
  | .usingName text? => do
    let text ← requireArgument "using" text?
    return { draft with held := { draft.held with usings := addNew draft.held.usings text } }
  | .usingNames given => do
    let texts ← requireAll "usings" given
    return { draft with held := { draft.held with usings := texts.foldl addNew draft.held.usings } }
  | .class ref? => do return { draft with classes := ← attach draft.classes ref? }
  | .classes given => do return { draft with classes := ← attachAll draft.classes given }
  | .struct ref? => do return { draft with structs := ← attach draft.structs ref? }
  | .structs given => do return { draft with structs := ← attachAll draft.structs given }
  | .interface ref? => do return { draft with interfaces := ← attach draft.interfaces ref? }
  | .interfaces given => do return { draft with interfaces := ← attachAll draft.interfaces given }
  | .enum ref? => do return { draft with enums := ← attach draft.enums ref? }
  | .enums given => do return { draft with enums := ← attachAll draft.enums given }

end Scaffold
