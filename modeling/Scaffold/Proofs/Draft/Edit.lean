import Scaffold.Draft.Call
import Scaffold.Proofs.Draft.Place

/-!
# Calls as edits

Each call on a draft addresses one place and makes something of what that place holds, and of
nothing else. `Call.place` gives the place, `Call.edit` what is made of it, call by call, and
**`Call.apply_eq_edit`** says that this is all that calls do.
-/

namespace Scaffold

/-! ## Edits -/

/-- What a call makes of the content of a place. -/
inductive Edit (α : Type) where
  /-- The place is to hold something else, whatever it holds. -/
  | replace (content : Except Failure α)
  /-- Something is to be added to what the place holds. -/
  | extend (content : α → Except Failure α)
  /-- Several things are to be added, up to the first that cannot be. -/
  | stepwise (content : α → α × Option Failure)

namespace Edit

variable {α β : Type}

/-- The content after an edit, and the failure if there is one. -/
def run : Edit α → α → α × Option Failure
  | .replace content, before => atomically before content
  | .extend content, before => atomically before (content before)
  | .stepwise content, before => content before

/-- What an edit of a place makes of a draft, and the failure if there is one. -/
def applyTo {kind : DraftKind} (draft : Draft kind) (place : Place kind)
    (edit : Edit place.Content) : Draft kind × Option Failure :=
  let (content, failure?) := edit.run (Draft.read draft place)
  (Draft.write draft place content, failure?)

/-- The place is to hold what is made of an argument, which must not be missing. -/
def ofArgument (name : String) (argument? : Option β) (make : β → α) : Edit α :=
  .replace (((requireArgument name argument?).mapError .error).map make)

/-- An attached draft is added. -/
def attach {kind : DraftKind} (ref? : Option (Ref kind)) : Edit (List (Ref kind)) :=
  .extend fun refs => (Scaffold.attach refs ref?).mapError .error

/-- Attached drafts are added. -/
def attachAll {kind : DraftKind} (given : List (Given (Ref kind))) : Edit (List (Ref kind)) :=
  .extend fun refs => (Scaffold.attachAll refs given).mapError .error

/-- A name is added, unless it is there. -/
def addName (argument : String) (text? : Option String) : Edit (List String) :=
  .extend fun names =>
    ((requireArgument argument text?).mapError .error).map fun text => addNew names text

end Edit

/-! ## Members -/

def FieldCall.place : FieldCall → Place .field
  | .access _ => .held FieldSlot.access
  | .type _ => .held FieldSlot.type
  | .name _ => .held FieldSlot.name
  | .readonly _ => .held FieldSlot.isReadonly
  | .summary _ => .held FieldSlot.summary

def FieldCall.edit : (call : FieldCall) → Edit call.place.Content
  | .access text? => .ofArgument "access_modifier" text? Access.ofText
  | .type text? => .ofArgument "type" text? some
  | .name text? => .ofArgument "name" text? some
  | .readonly flag => .replace (.ok flag)
  | .summary text? => .ofArgument "summary" text? some

def PropertyCall.place : PropertyCall → Place .property
  | .access _ => .held PropertySlot.access
  | .type _ => .held PropertySlot.type
  | .name _ => .held PropertySlot.name
  | .getter _ => .held PropertySlot.getter
  | .noGetter => .held PropertySlot.getter
  | .setter _ => .held PropertySlot.setter
  | .noSetter => .held PropertySlot.setter
  | .defaultValue _ => .held PropertySlot.defaultValue
  | .static _ => .held PropertySlot.isStatic
  | .summary _ => .held PropertySlot.summary

def PropertyCall.edit : (call : PropertyCall) → Edit call.place.Content
  | .access text? => .ofArgument "access_modifier" text? Access.ofText
  | .type text? => .ofArgument "type" text? some
  | .name text? => .ofArgument "name" text? some
  | .getter expression? => .replace (.ok (Accessor.custom expression?))
  | .noGetter => .replace (.ok Accessor.absent)
  | .setter expression? => .replace (.ok (Accessor.custom expression?))
  | .noSetter => .replace (.ok Accessor.absent)
  | .defaultValue text? => .ofArgument "default_value" text? some
  | .static flag => .replace (.ok flag)
  | .summary text? => .ofArgument "summary" text? some

def EnumMemberCall.place : EnumMemberCall → Place .enumMember
  | .name _ => .held EnumMemberSlot.name
  | .value _ => .held EnumMemberSlot.value
  | .summary _ => .held EnumMemberSlot.summary

def EnumMemberCall.edit : (call : EnumMemberCall) → Edit call.place.Content
  | .name text? => .ofArgument "name" text? some
  | .value raw => .replace (((requireInteger raw).mapError .error).map some)
  | .summary text? => .ofArgument "summary" text? some

/-! ## Constructors -/

namespace Constructor

/-- The parameter that a sequence of arguments describes. -/
def readSequence (sequence : Raw) : Except Failure Parameter :=
  sequenceArguments sequence >>= parameterOf

/-- What is missing describes no parameter. -/
@[simp]
theorem readSequence_null : readSequence .null = .error (.error (.missingValue "parameters")) := rfl

/-- The parameters that some sequences describe, up to the first that describes none. -/
def keptParameters (sequences : List Raw) : List Parameter :=
  ((sequences.map readSequence).takeWhile Except.isOk).filterMap Except.toOption

/-- Why the first of some sequences that describes no parameter does not. -/
def firstRefusal? (sequences : List Raw) : Option Failure :=
  (sequences.map readSequence).findSome? fun
    | .ok _ => none
    | .error failure => some failure

end Constructor

def ConstructorCall.place : ConstructorCall → Place .constructor
  | .access _ => .held ConstructorSlot.access
  | .summary _ => .held ConstructorSlot.summary
  | .parameter _ => .held ConstructorSlot.parameters
  | .parameters _ => .held ConstructorSlot.parameters
  | .baseCall _ => .held ConstructorSlot.baseCallArguments

def ConstructorCall.edit : (call : ConstructorCall) → Edit call.place.Content
  | .access text? => .ofArgument "access_modifier" text? Access.ofText
  | .summary text? => .ofArgument "summary" text? some
  | .parameter arguments => .extend fun (parameters : List Parameter) =>
    (Constructor.parameterOf arguments).map fun parameter => parameters ++ [parameter]
  | .parameters sequences => .stepwise fun (parameters : List Parameter) =>
    (parameters ++ Constructor.keptParameters sequences, Constructor.firstRefusal? sequences)
  | .baseCall arguments => .replace <|
    if arguments.any Option.isNone then .error (.error (.missingValue "arguments"))
    else .ok (some (arguments.filterMap id))

/-! ## Containers -/

def EnumerationCall.place : EnumerationCall → Place .enumeration
  | .access _ => .held EnumerationSlot.access
  | .name _ => .held EnumerationSlot.name
  | .summary _ => .held EnumerationSlot.summary
  | .flags _ => .held EnumerationSlot.isFlags
  | .member _ => .attached .enumerationMember
  | .members _ => .attached .enumerationMember

def EnumerationCall.edit : (call : EnumerationCall) → Edit call.place.Content
  | .access text? => .ofArgument "access_modifier" text? Access.ofText
  | .name text? => .ofArgument "name" text? some
  | .summary text? => .ofArgument "summary" text? some
  | .flags flag => .replace (.ok flag)
  | .member ref? => .attach ref?
  | .members given => .attachAll given

def ClassCall.place : ClassCall → Place .class
  | .access _ => .held ClassSlot.access
  | .name _ => .held ClassSlot.name
  | .summary _ => .held ClassSlot.summary
  | .static _ => .held ClassSlot.isStatic
  | .inheritedClass _ => .held ClassSlot.inheritedClass
  | .implementedInterface _ => .held ClassSlot.implementedInterfaces
  | .field _ => .attached .classField
  | .fields _ => .attached .classField
  | .property _ => .attached .classProperty
  | .properties _ => .attached .classProperty
  | .constructor _ => .attached .classConstructor
  | .constructors _ => .attached .classConstructor

def ClassCall.edit : (call : ClassCall) → Edit call.place.Content
  | .access text? => .ofArgument "access_modifier" text? Access.ofText
  | .name text? => .ofArgument "name" text? some
  | .summary text? => .ofArgument "summary" text? some
  | .static flag => .replace (.ok flag)
  | .inheritedClass text? => .ofArgument "name" text? some
  | .implementedInterface text? => .addName "name" text?
  | .field ref? => .attach ref?
  | .fields given => .attachAll given
  | .property ref? => .attach ref?
  | .properties given => .attachAll given
  | .constructor ref? => .attach ref?
  | .constructors given => .attachAll given

def StructCall.place : StructCall → Place .struct
  | .access _ => .held StructSlot.access
  | .name _ => .held StructSlot.name
  | .summary _ => .held StructSlot.summary
  | .implementedInterface _ => .held StructSlot.implementedInterfaces
  | .field _ => .attached .structField
  | .fields _ => .attached .structField
  | .property _ => .attached .structProperty
  | .properties _ => .attached .structProperty
  | .constructor _ => .attached .structConstructor
  | .constructors _ => .attached .structConstructor

def StructCall.edit : (call : StructCall) → Edit call.place.Content
  | .access text? => .ofArgument "access_modifier" text? Access.ofText
  | .name text? => .ofArgument "name" text? some
  | .summary text? => .ofArgument "summary" text? some
  | .implementedInterface text? => .addName "name" text?
  | .field ref? => .attach ref?
  | .fields given => .attachAll given
  | .property ref? => .attach ref?
  | .properties given => .attachAll given
  | .constructor ref? => .attach ref?
  | .constructors given => .attachAll given

def InterfaceCall.place : InterfaceCall → Place .interface
  | .access _ => .held InterfaceSlot.access
  | .name _ => .held InterfaceSlot.name
  | .summary _ => .held InterfaceSlot.summary
  | .implementedInterface _ => .held InterfaceSlot.implementedInterfaces
  | .property _ => .attached .interfaceProperty
  | .properties _ => .attached .interfaceProperty

def InterfaceCall.edit : (call : InterfaceCall) → Edit call.place.Content
  | .access text? => .ofArgument "access_modifier" text? Access.ofText
  | .name text? => .ofArgument "name" text? some
  | .summary text? => .ofArgument "summary" text? some
  | .implementedInterface text? => .addName "name" text?
  | .property ref? => .attach ref?
  | .properties given => .attachAll given

def NamespaceCall.place : NamespaceCall → Place .namespace
  | .name _ => .held NamespaceSlot.name
  | .usingName _ => .held NamespaceSlot.usings
  | .usingNames _ => .held NamespaceSlot.usings
  | .class _ => .attached .namespaceClass
  | .classes _ => .attached .namespaceClass
  | .struct _ => .attached .namespaceStruct
  | .structs _ => .attached .namespaceStruct
  | .interface _ => .attached .namespaceInterface
  | .interfaces _ => .attached .namespaceInterface
  | .enum _ => .attached .namespaceEnumeration
  | .enums _ => .attached .namespaceEnumeration

def NamespaceCall.edit : (call : NamespaceCall) → Edit call.place.Content
  | .name text? => .ofArgument "name" text? some
  | .usingName text? => .addName "using" text?
  | .usingNames given => .extend fun (names : List String) =>
    ((requireAll "usings" given).mapError .error).map fun texts => texts.foldl addNew names
  | .class ref? => .attach ref?
  | .classes given => .attachAll given
  | .struct ref? => .attach ref?
  | .structs given => .attachAll given
  | .interface ref? => .attach ref?
  | .interfaces given => .attachAll given
  | .enum ref? => .attach ref?
  | .enums given => .attachAll given

/-! ## All calls -/

/-- The place that a call addresses. -/
def Call.place : (kind : DraftKind) → Call kind → Place kind
  | .field => FieldCall.place
  | .property => PropertyCall.place
  | .constructor => ConstructorCall.place
  | .enumMember => EnumMemberCall.place
  | .enumeration => EnumerationCall.place
  | .class => ClassCall.place
  | .struct => StructCall.place
  | .interface => InterfaceCall.place
  | .namespace => NamespaceCall.place

/-- What a call makes of that place. -/
def Call.edit : (kind : DraftKind) → (call : Call kind) → Edit (Call.place kind call).Content
  | .field => FieldCall.edit
  | .property => PropertyCall.edit
  | .constructor => ConstructorCall.edit
  | .enumMember => EnumMemberCall.edit
  | .enumeration => EnumerationCall.edit
  | .class => ClassCall.edit
  | .struct => StructCall.edit
  | .interface => InterfaceCall.edit
  | .namespace => NamespaceCall.edit

/-! ## What calls do -/

/-- A change that writes into one place, if it is made. -/
theorem atomically_write {kind : DraftKind} (draft : Draft kind) (place : Place kind)
    (content : Except Error place.Content) :
    atomically draft ((content >>= fun content => pure (Draft.write draft place content)).mapError
        .error)
      = Edit.applyTo draft place (.extend fun _ => content.mapError .error) := by
  cases content with
  | ok content => rfl
  | error error =>
    show (draft, _) = (Draft.write draft place (Draft.read draft place), _)
    rw [Draft.write_read]

/-- Calls on fields fail only where an argument is required. -/
theorem FieldCall.apply_eq_edit (draft : Draft .field) (call : FieldCall) :
    atomically draft ((FieldCall.apply draft call).mapError .error)
      = call.edit.applyTo draft call.place := by
  cases call with
  | readonly flag => rfl
  | access text? | type text? | name text? | summary text? => cases text? <;> rfl

/-- So do calls on properties. Those for accessors never fail. -/
theorem PropertyCall.apply_eq_edit (draft : Draft .property) (call : PropertyCall) :
    atomically draft ((PropertyCall.apply draft call).mapError .error)
      = call.edit.applyTo draft call.place := by
  cases call with
  | getter | noGetter | setter | noSetter | static => rfl
  | access text? | type text? | name text? | defaultValue text? | summary text? =>
    cases text? <;> rfl

/-- Besides, the number of a member of an enumeration must be an integer. -/
theorem EnumMemberCall.apply_eq_edit (draft : Draft .enumMember) (call : EnumMemberCall) :
    atomically draft ((EnumMemberCall.apply draft call).mapError .error)
      = call.edit.applyTo draft call.place := by
  cases call with
  | value raw => cases raw <;> rfl
  | name text? | summary text? => cases text? <;> rfl

/-- Calls on enumerations write one slot, or the list of attached members. -/
theorem EnumerationCall.apply_eq_edit (draft : Draft .enumeration) (call : EnumerationCall) :
    atomically draft ((EnumerationCall.apply draft call).mapError .error)
      = call.edit.applyTo draft call.place := by
  cases call with
  | flags => rfl
  | access text? | name text? | summary text? => cases text? <;> rfl
  | member ref? => cases ref? <;> rfl
  -- adding several drafts can fail, and then it writes back the list as it was
  | members given => exact atomically_write draft (.attached .enumerationMember) _

/-- Calls on classes write one slot, or one of the three lists of attached drafts. Naming an
interface extends the slot that it writes. -/
theorem ClassCall.apply_eq_edit (draft : Draft .class) (call : ClassCall) :
    atomically draft ((ClassCall.apply draft call).mapError .error)
      = call.edit.applyTo draft call.place := by
  cases call with
  | static => rfl
  | access text? | name text? | summary text? | inheritedClass text?
  | implementedInterface text? => cases text? <;> rfl
  | field ref? | property ref? | constructor ref? => cases ref? <;> rfl
  | fields given => exact atomically_write draft (.attached .classField) _
  | properties given => exact atomically_write draft (.attached .classProperty) _
  | constructors given => exact atomically_write draft (.attached .classConstructor) _

theorem StructCall.apply_eq_edit (draft : Draft .struct) (call : StructCall) :
    atomically draft ((StructCall.apply draft call).mapError .error)
      = call.edit.applyTo draft call.place := by
  cases call with
  | access text? | name text? | summary text? | implementedInterface text? => cases text? <;> rfl
  | field ref? | property ref? | constructor ref? => cases ref? <;> rfl
  | fields given => exact atomically_write draft (.attached .structField) _
  | properties given => exact atomically_write draft (.attached .structProperty) _
  | constructors given => exact atomically_write draft (.attached .structConstructor) _

theorem InterfaceCall.apply_eq_edit (draft : Draft .interface) (call : InterfaceCall) :
    atomically draft ((InterfaceCall.apply draft call).mapError .error)
      = call.edit.applyTo draft call.place := by
  cases call with
  | access text? | name text? | summary text? | implementedInterface text? => cases text? <;> rfl
  | property ref? => cases ref? <;> rfl
  | properties given => exact atomically_write draft (.attached .interfaceProperty) _

/-- Names for a namespace are added to those that it has, one or several at a time. -/
theorem NamespaceCall.apply_eq_edit (draft : Draft .namespace) (call : NamespaceCall) :
    atomically draft ((NamespaceCall.apply draft call).mapError .error)
      = call.edit.applyTo draft call.place := by
  cases call with
  | name text? | usingName text? => cases text? <;> rfl
  | usingNames given =>
    simp only [NamespaceCall.apply, NamespaceCall.edit]
    cases requireAll "usings" given <;> rfl
  | «class» ref? | struct ref? | interface ref? | enum ref? => cases ref? <;> rfl
  | classes given => exact atomically_write draft (.attached .namespaceClass) _
  | structs given => exact atomically_write draft (.attached .namespaceStruct) _
  | interfaces given => exact atomically_write draft (.attached .namespaceInterface) _
  | enums given => exact atomically_write draft (.attached .namespaceEnumeration) _

namespace Constructor

variable {sequence : Raw} {parameter : Parameter} {failure : Failure}

/-- A sequence that describes a parameter is passed over. -/
theorem kept_cons_of_ok (h : readSequence sequence = .ok parameter) (sequences : List Raw) :
    keptParameters (sequence :: sequences) = parameter :: keptParameters sequences
      ∧ firstRefusal? (sequence :: sequences) = firstRefusal? sequences := by
  unfold keptParameters firstRefusal?
  rw [List.map_cons, h]
  exact ⟨rfl, rfl⟩

/-- At a sequence that describes none it ends, whatever follows. -/
theorem kept_cons_of_error (h : readSequence sequence = .error failure) (sequences : List Raw) :
    keptParameters (sequence :: sequences) = []
      ∧ firstRefusal? (sequence :: sequences) = some failure := by
  unfold keptParameters firstRefusal?
  rw [List.map_cons, h]
  exact ⟨rfl, rfl⟩

/-- Parameters that are added one by one are those up to the first that is refused. Induction along
the sequences. -/
theorem addParameters_eq (constructor : Constructor) (sequences : List Raw) :
    constructor.addParameters sequences
      = ({ constructor with parameters := constructor.parameters ++ keptParameters sequences },
        firstRefusal? sequences) := by
  induction sequences generalizing constructor with
  | nil =>
    show (constructor, none)
      = ({ constructor with parameters := constructor.parameters ++ [] }, none)
    rw [List.append_nil]
  | cons sequence rest ih =>
    -- a parameter is added just if the sequence describes one
    have hadd : (sequenceArguments sequence >>= addParameter constructor)
        = (readSequence sequence).map fun parameter =>
            { constructor with parameters := constructor.parameters ++ [parameter] } := by
      unfold readSequence
      cases sequenceArguments sequence with
      | error failure => rfl
      | ok arguments => rfl
    unfold addParameters
    rw [hadd]
    cases hsequence : readSequence sequence with
    | error failure =>
      obtain ⟨hkept, hrefusal⟩ := kept_cons_of_error hsequence rest
      rw [hkept, hrefusal, List.append_nil]
      rfl
    | ok parameter =>
      obtain ⟨hkept, hrefusal⟩ := kept_cons_of_ok hsequence rest
      show Constructor.addParameters _ rest = _
      rw [ih, hkept, hrefusal, List.append_assoc]
      rfl

end Constructor

/-- Calls on constructors are edits as well. The one that is given several parameters is the only
edit that may fail and still write. -/
theorem ConstructorCall.apply_eq_edit (draft : Draft .constructor) (call : ConstructorCall) :
    ConstructorCall.apply draft call = call.edit.applyTo draft call.place := by
  cases call with
  | access text? | summary text? => cases text? <;> rfl
  | parameter arguments =>
    simp only [ConstructorCall.apply, ConstructorCall.edit, Constructor.addParameter]
    cases Constructor.parameterOf arguments <;> rfl
  -- here alone failing and writing go together, so this is no case of the lemma on atomic writes
  | parameters sequences => exact Constructor.addParameters_eq draft sequences
  | baseCall arguments =>
    simp only [ConstructorCall.apply, ConstructorCall.edit, Constructor.withBaseCall]
    cases arguments.any Option.isNone <;> rfl

/-- **A call is an edit of one place**: it reads that place alone, and writes it alone. -/
theorem Call.apply_eq_edit (kind : DraftKind) (draft : Draft kind) (call : Call kind) :
    Call.apply kind draft call = (Call.edit kind call).applyTo draft (Call.place kind call) := by
  cases kind with
  | field => exact FieldCall.apply_eq_edit draft call
  | property => exact PropertyCall.apply_eq_edit draft call
  | constructor => exact ConstructorCall.apply_eq_edit draft call
  | enumMember => exact EnumMemberCall.apply_eq_edit draft call
  | enumeration => exact EnumerationCall.apply_eq_edit draft call
  | «class» => exact ClassCall.apply_eq_edit draft call
  | struct => exact StructCall.apply_eq_edit draft call
  | interface => exact InterfaceCall.apply_eq_edit draft call
  | «namespace» => exact NamespaceCall.apply_eq_edit draft call

end Scaffold
