import Scaffold.Proofs.Draft.Numbering
import Scaffold.Proofs.Render.Anatomy

/-!
# What rendering requires

Rendering fails for a required text that is missing, and for nothing else. Building makes checks of
its own, in another order, and they are enough:

* **`DraftKind.requiredTexts`**: the texts that the source of a value cannot do without, in the
  order in which it is put together.
* **`requires_source`**: rendering reports the first of them that is missing.
* **`isComplete_of_check`**: whatever passes the checks of building has them all.
* **`renders_unless_text_missing`**: both together, so what is built is rendered.
-/

namespace Scaffold

open Render

/-! ## Required texts -/

/-- A text that a source cannot do without, and what it is called when it is missing. -/
structure RequiredText where
  entity : String
  setting : String
  text? : Option String

namespace RequiredText

def isMissing (required : RequiredText) : Bool :=
  Text.isMissing required.text?

def error (required : RequiredText) : Error :=
  .missingSetting required.entity required.setting

end RequiredText

def Field.requiredTexts (field : Field) : List RequiredText :=
  [⟨"field", "type", field.type⟩, ⟨"field", "name", field.name⟩]

def Property.requiredTexts (property : Property) : List RequiredText :=
  [⟨"property", "type", property.type⟩, ⟨"property", "name", property.name⟩]

def Constructor.requiredTexts (constructor : Constructor) : List RequiredText :=
  [⟨"constructor", "class name", constructor.className⟩]

def EnumMember.requiredTexts (member : EnumMember) : List RequiredText :=
  [⟨"enum member", "name", member.name⟩]

def Enumeration.requiredTexts (enumeration : Enumeration) : List RequiredText :=
  ⟨"enum", "name", enumeration.name⟩ :: enumeration.members.flatMap EnumMember.requiredTexts

/-- The required texts of the members of a class or struct. -/
def memberTexts (fields : List Field) (constructors : List Constructor)
    (properties : List Property) : List RequiredText :=
  fields.flatMap Field.requiredTexts ++ constructors.flatMap Constructor.requiredTexts
    ++ properties.flatMap Property.requiredTexts

def Class.requiredTexts (record : Class) : List RequiredText :=
  ⟨"class", "name", record.name⟩
    :: memberTexts record.fields record.constructors record.properties

def Struct.requiredTexts (record : Struct) : List RequiredText :=
  ⟨"struct", "name", record.name⟩
    :: memberTexts record.fields record.constructors record.properties

def Interface.requiredTexts (record : Interface) : List RequiredText :=
  ⟨"interface", "name", record.name⟩ :: record.properties.flatMap Property.requiredTexts

def Namespace.requiredTexts (record : Namespace) : List RequiredText :=
  ⟨"namespace", "name", record.name⟩
    :: (record.enums.flatMap Enumeration.requiredTexts
      ++ record.interfaces.flatMap Interface.requiredTexts
      ++ record.classes.flatMap Class.requiredTexts
      ++ record.structs.flatMap Struct.requiredTexts)

/-- The texts that the source of a value cannot do without, in the order in which the source is put
together. -/
def DraftKind.requiredTexts : (kind : DraftKind) → kind.Value → List RequiredText
  | .field => Field.requiredTexts
  | .property => Property.requiredTexts
  | .constructor => Constructor.requiredTexts
  | .enumMember => EnumMember.requiredTexts
  | .enumeration => Enumeration.requiredTexts
  | .class => Class.requiredTexts
  | .struct => Struct.requiredTexts
  | .interface => Interface.requiredTexts
  | .namespace => Namespace.requiredTexts

/-! ## Rendering -/

/-- The errors of the required texts that are missing. -/
def missingErrors (required : List RequiredText) : List Error :=
  (required.filter RequiredText.isMissing).map RequiredText.error

/-- The outcome is the error of the first required text that is missing, if one is. -/
def Requires {α : Type} (outcome : Except Error α) (required : List RequiredText) : Prop :=
  Reports outcome (missingErrors required)

section

variable {α β : Type} {outcome : Except Error α} {required : List RequiredText}

/-- A text adds its error just if it is missing. -/
theorem missingErrors_cons (text : RequiredText) (rest : List RequiredText) :
    missingErrors (text :: rest)
      = errorIfMissing text.entity text.setting text.text? ++ missingErrors rest := by
  unfold missingErrors errorIfMissing
  rw [List.filter_cons]
  show List.map _ (if Text.isMissing text.text? = true then _ else _) = _
  split <;> rfl

theorem missingErrors_eq_nil_iff :
    missingErrors required = [] ↔ ∀ text ∈ required, text.isMissing = false := by
  simp [missingErrors]

/-- The first error is that of the first text that is missing. -/
theorem head?_missingErrors (required : List RequiredText) :
    (missingErrors required).head?
      = (required.find? RequiredText.isMissing).map RequiredText.error := by
  rw [missingErrors, List.head?_map, List.head?_filter]

theorem requires_value (value : α) : Requires (.ok value) [] :=
  .value value

/-- A required text comes before all that is required once it is there. -/
theorem requires_text {entity setting : String} {text? : Option String}
    {next : String → Except Error β} (hnext : ∀ text, Requires (next text) required) :
    Requires (require entity setting text? >>= next) (⟨entity, setting, text?⟩ :: required) := by
  unfold Requires
  rw [missingErrors_cons]
  exact (reports_require entity setting text?).bind fun text _ => hnext text

/-- Texts are required in the order in which rendering asks for them. -/
theorem Requires.bind {next : α → Except Error β} {others : List RequiredText}
    (h : Requires outcome required) (hnext : ∀ value, Requires (next value) others) :
    Requires (outcome >>= next) (required ++ others) := by
  unfold Requires missingErrors
  rw [List.filter_append, List.map_append]
  exact Reports.bind h fun value _ => hnext value

/-- What cannot fail requires nothing further. -/
theorem Requires.map {next : α → Except Error β} (h : Requires outcome required)
    (hnext : ∀ value, ∃ result, next value = .ok result) : Requires (outcome >>= next) required :=
  Reports.map h hnext

/-- Each item requires its texts, in the order of the items. -/
theorem requires_mapM {items : List α} {step : α → Except Error β} {texts : α → List RequiredText}
    (h : ∀ item, Requires (step item) (texts item)) :
    Requires (items.mapM step) (items.flatMap texts) := by
  unfold Requires missingErrors
  rw [List.filter_flatMap, List.map_flatMap]
  exact reports_mapM fun item _ => h item

end

/-- A field requires its type and then its name. -/
theorem requires_field (value : Field) : Requires (Render.field value) value.requiredTexts :=
  requires_text fun _ => requires_text fun _ => requires_value _

theorem requires_property (value : Property) :
    Requires (Render.property value) value.requiredTexts :=
  requires_text fun _ => requires_text fun _ => requires_value _

theorem requires_constructor (value : Constructor) :
    Requires (Render.constructor value) value.requiredTexts :=
  requires_text fun _ => requires_value _

theorem requires_enumMember (value : EnumMember) :
    Requires (Render.enumMember value) value.requiredTexts :=
  requires_text fun _ => requires_value _

theorem requires_enumeration (settings : RenderSettings) (value : Enumeration) :
    Requires (Render.enumeration settings value) value.requiredTexts :=
  requires_text fun _ => (requires_mapM requires_enumMember).map fun _ => ⟨_, rfl⟩

/-- Fields come first, then constructors, then properties. -/
theorem requires_typeMembers (fields : List Field) (constructors : List Constructor)
    (properties : List Property) :
    Requires (typeMembers fields constructors properties)
      (memberTexts fields constructors properties) := by
  unfold memberTexts
  rw [List.append_assoc]
  refine (requires_mapM requires_field).bind fun _ => ?_
  refine (requires_mapM requires_constructor).bind fun _ => ?_
  exact (requires_mapM requires_property).map fun _ => ⟨_, rfl⟩

theorem requires_class (value : Class) : Requires (Render.class value) value.requiredTexts :=
  requires_text fun _ => (requires_typeMembers _ _ _).map fun _ => ⟨_, rfl⟩

theorem requires_struct (value : Struct) : Requires (Render.struct value) value.requiredTexts :=
  requires_text fun _ => (requires_typeMembers _ _ _).map fun _ => ⟨_, rfl⟩

theorem requires_interface (value : Interface) :
    Requires (Render.interface value) value.requiredTexts :=
  requires_text fun _ => (requires_mapM requires_property).map fun _ => ⟨_, rfl⟩

/-- A namespace requires its name, and then its types in the order in which they are rendered. -/
theorem requires_namespace (settings : RenderSettings) (value : Namespace) :
    Requires (Render.namespace settings value) value.requiredTexts := by
  have hmembers : Requires (namespaceMembers settings value)
      (value.enums.flatMap Enumeration.requiredTexts
        ++ (value.interfaces.flatMap Interface.requiredTexts
          ++ (value.classes.flatMap Class.requiredTexts
            ++ value.structs.flatMap Struct.requiredTexts))) := by
    refine (requires_mapM (requires_enumeration settings)).bind fun _ => ?_
    refine (requires_mapM requires_interface).bind fun _ => ?_
    refine (requires_mapM requires_class).bind fun _ => ?_
    exact (requires_mapM requires_struct).map fun _ => ⟨_, rfl⟩
  unfold Namespace.requiredTexts
  rw [List.append_assoc, List.append_assoc]
  exact requires_text fun _ => hmembers.map fun _ => ⟨_, rfl⟩

/-- **Rendering** fails for nothing but a required text that is missing. -/
theorem requires_source (settings : RenderSettings) {kind : DraftKind} (value : kind.Value) :
    Requires (source settings (kind.declare value)) (kind.requiredTexts value) := by
  cases kind with
  | field => exact requires_field value
  | property => exact requires_property value
  | constructor => exact requires_constructor value
  | enumMember => exact requires_enumMember value
  | enumeration => exact requires_enumeration settings value
  | «class» => exact requires_class value
  | struct => exact requires_struct value
  | interface => exact requires_interface value
  | «namespace» => exact requires_namespace settings value

/-! ## What has been built -/

/-- None of the required texts is missing. -/
def IsComplete (required : List RequiredText) : Prop :=
  ∀ text ∈ required, text.isMissing = false

theorem isComplete_nil : IsComplete [] := by simp [IsComplete]

theorem isComplete_cons {text : RequiredText} {rest : List RequiredText}
    (htext : Text.isMissing text.text? = false) (hrest : IsComplete rest) :
    IsComplete (text :: rest) :=
  List.forall_mem_cons.mpr ⟨htext, hrest⟩

theorem IsComplete.append {first second : List RequiredText} (hfirst : IsComplete first)
    (hsecond : IsComplete second) : IsComplete (first ++ second) :=
  List.forall_mem_append.mpr ⟨hfirst, hsecond⟩

/-- Where each item passes a check that leaves nothing missing, nothing is missing in them all. -/
theorem isComplete_mapM {α β : Type} {check : α → Except Error β} {texts : β → List RequiredText}
    (hcheck : ∀ item result, check item = .ok result → IsComplete (texts result))
    {items : List α} {results : List β} (h : items.mapM check = .ok results) :
    IsComplete (results.flatMap texts) := by
  intro text htext
  obtain ⟨result, hresult, hmem⟩ := List.mem_flatMap.mp htext
  obtain ⟨item, -, hitem⟩ := exists_of_mem_mapM h hresult
  exact hcheck item result hitem text hmem

/-- A field that has passed its check is complete. -/
theorem isComplete_field (value built : Field) (h : value.check = .ok built) :
    IsComplete built.requiredTexts := by
  obtain ⟨⟨⟩, htype, hnext⟩ := bind_eq_ok_iff.mp h
  obtain ⟨⟨⟩, hname, hbuilt⟩ := bind_eq_ok_iff.mp hnext
  obtain rfl := Except.ok.inj hbuilt
  exact isComplete_cons (isMissing_of_checkSetting htype)
    (isComplete_cons (isMissing_of_checkSetting hname) isComplete_nil)

theorem isComplete_property (value built : Property) (h : value.check = .ok built) :
    IsComplete built.requiredTexts := by
  obtain ⟨rfl, hname, htype⟩ := Property.check_eq_ok h
  exact isComplete_cons htype (isComplete_cons hname isComplete_nil)

/-- A constructor that has passed its check has the name of its class, which is all it requires. -/
theorem isComplete_constructor (value built : Constructor) (h : value.check = .ok built) :
    IsComplete built.requiredTexts := by
  obtain ⟨⟨⟩, hname, hnext⟩ := bind_eq_ok_iff.mp h
  obtain ⟨⟨⟩, -, hbuilt⟩ := bind_eq_ok_iff.mp hnext
  obtain rfl := Except.ok.inj hbuilt
  exact isComplete_cons (isMissing_of_checkSetting hname) isComplete_nil

theorem isComplete_enumMember (value built : EnumMember) (h : value.check = .ok built) :
    IsComplete built.requiredTexts := by
  obtain ⟨⟨⟩, hname, hbuilt⟩ := bind_eq_ok_iff.mp h
  obtain rfl := Except.ok.inj hbuilt
  exact isComplete_cons (isMissing_of_checkSetting hname) isComplete_nil

/-- Numbering gives members numbers and no other names. -/
theorem requiredTexts_numbered (enumeration : Enumeration) (members : List EnumMember) :
    (enumeration.numbered members).flatMap EnumMember.requiredTexts
      = members.flatMap EnumMember.requiredTexts := by
  have htexts : (enumeration.numbered members).map EnumMember.requiredTexts
      = members.map EnumMember.requiredTexts :=
    Enumeration.map_numbered (fun _ _ => rfl) enumeration members
  rw [List.flatMap_def, htexts, List.flatMap_def]

/-- An enumeration that has passed its check is complete, its members included. -/
theorem isComplete_enumeration (value built : Enumeration) (h : value.check = .ok built) :
    IsComplete built.requiredTexts := by
  obtain ⟨⟨⟩, hname, hnext⟩ := bind_eq_ok_iff.mp h
  obtain ⟨members, hmembers, hbuilt⟩ := bind_eq_ok_iff.mp hnext
  have hcomplete := isComplete_mapM isComplete_enumMember hmembers
  -- a name that is repeated fails the check, and numbering keeps the names
  unfold Enumeration.withMembers at hbuilt
  split at hbuilt
  next => exact absurd hbuilt (by simp)
  next =>
    obtain rfl := Except.ok.inj hbuilt
    refine isComplete_cons (isMissing_of_checkSetting hname) ?_
    show IsComplete ((value.numbered members).flatMap EnumMember.requiredTexts)
    rwa [requiredTexts_numbered]

/-- The members of a class or struct, each of which has passed its check. -/
theorem isComplete_members {fields builtFields : List Field}
    {properties builtProperties : List Property}
    {constructors builtConstructors : List Constructor}
    (hfields : fields.mapM Field.check = .ok builtFields)
    (hproperties : properties.mapM Property.check = .ok builtProperties)
    (hconstructors : constructors.mapM Constructor.check = .ok builtConstructors) :
    IsComplete (memberTexts builtFields builtConstructors builtProperties) :=
  ((isComplete_mapM isComplete_field hfields).append
    (isComplete_mapM isComplete_constructor hconstructors)).append
      (isComplete_mapM isComplete_property hproperties)

/-- A class that has passed its check is complete, its members included. -/
theorem isComplete_class (value built : Class) (h : value.check = .ok built) :
    IsComplete built.requiredTexts := by
  obtain ⟨⟨⟩, hown, h⟩ := bind_eq_ok_iff.mp h
  obtain ⟨⟨⟩, hname, -⟩ := bind_eq_ok_iff.mp hown
  obtain ⟨fields, hfields, h⟩ := bind_eq_ok_iff.mp h
  obtain ⟨properties, hproperties, h⟩ := bind_eq_ok_iff.mp h
  obtain ⟨constructors, hconstructors, h⟩ := bind_eq_ok_iff.mp h
  obtain rfl := Except.ok.inj h
  exact isComplete_cons (isMissing_of_checkSetting hname)
    (isComplete_members hfields hproperties hconstructors)

theorem isComplete_struct (value built : Struct) (h : value.check = .ok built) :
    IsComplete built.requiredTexts := by
  obtain ⟨⟨⟩, hname, h⟩ := bind_eq_ok_iff.mp h
  obtain ⟨fields, hfields, h⟩ := bind_eq_ok_iff.mp h
  obtain ⟨properties, hproperties, h⟩ := bind_eq_ok_iff.mp h
  obtain ⟨constructors, hconstructors, h⟩ := bind_eq_ok_iff.mp h
  obtain rfl := Except.ok.inj h
  exact isComplete_cons (isMissing_of_checkSetting hname)
    (isComplete_members hfields hproperties hconstructors)

/-- An interface that has passed its check is complete, its properties included. -/
theorem isComplete_interface (value built : Interface) (h : value.check = .ok built) :
    IsComplete built.requiredTexts := by
  obtain ⟨⟨⟩, hname, h⟩ := bind_eq_ok_iff.mp h
  obtain ⟨properties, hproperties, h⟩ := bind_eq_ok_iff.mp h
  obtain rfl := Except.ok.inj h
  exact isComplete_cons (isMissing_of_checkSetting hname)
    (isComplete_mapM isComplete_property hproperties)

/-- A namespace that has passed its check is complete, with all that is nested in it. -/
theorem isComplete_namespace (value built : Namespace) (h : value.check = .ok built) :
    IsComplete built.requiredTexts := by
  obtain ⟨⟨⟩, hname, h⟩ := bind_eq_ok_iff.mp h
  obtain ⟨classes, hclasses, h⟩ := bind_eq_ok_iff.mp h
  obtain ⟨structs, hstructs, h⟩ := bind_eq_ok_iff.mp h
  obtain ⟨interfaces, hinterfaces, h⟩ := bind_eq_ok_iff.mp h
  obtain ⟨enums, henums, h⟩ := bind_eq_ok_iff.mp h
  obtain rfl := Except.ok.inj h
  -- the types are checked in one order and rendered in another
  have htypes := (isComplete_mapM isComplete_enumeration henums).append
    (isComplete_mapM isComplete_interface hinterfaces)
  exact isComplete_cons (isMissing_of_checkSetting hname)
    ((htypes.append (isComplete_mapM isComplete_class hclasses)).append
      (isComplete_mapM isComplete_struct hstructs))

/-- **What passes the checks of building** has all texts that rendering requires. -/
theorem isComplete_of_check {kind : DraftKind} {tree value : kind.Value}
    (h : kind.check tree = .ok value) : IsComplete (kind.requiredTexts value) := by
  cases kind with
  | field => exact isComplete_field tree value h
  | property => exact isComplete_property tree value h
  | constructor => exact isComplete_constructor tree value h
  | enumMember => exact isComplete_enumMember tree value h
  | enumeration => exact isComplete_enumeration tree value h
  | «class» => exact isComplete_class tree value h
  | struct => exact isComplete_struct tree value h
  | interface => exact isComplete_interface tree value h
  | «namespace» => exact isComplete_namespace tree value h

/-! ## Both together -/

/-- **Rendering succeeds unless a required text is missing**, and then it reports the first of
those that are. What has been built has them all, so it is rendered, laid out or not. -/
theorem renders_unless_text_missing (settings : Settings) {kind : DraftKind} :
    (∀ value : kind.Value,
      ((∃ text, source settings.render (kind.declare value) = .ok text)
          ↔ ∀ required ∈ kind.requiredTexts value, required.isMissing = false)
        ∧ ∀ error, source settings.render (kind.declare value) = .error error
          ↔ ((kind.requiredTexts value).find? RequiredText.isMissing).map RequiredText.error
            = some error)
      ∧ ∀ (workspace : Workspace) (ref : Ref kind) (value : kind.Value),
          (workspace.build ref).1 = .ok value →
            (∃ text, source settings.render (kind.declare value) = .ok text)
              ∧ ∃ text, formatted settings (kind.declare value) = .ok text := by
  have hreports (value : kind.Value) := requires_source settings.render value
  refine ⟨fun value => ⟨?_, fun error => ?_⟩, fun workspace ref value hbuild => ?_⟩
  · rw [(hreports value).exists_ok_iff, missingErrors_eq_nil_iff]
  · rw [(hreports value).eq_error_iff, head?_missingErrors]
  · rw [workspace.build_fst] at hbuild
    -- a value that was built has passed its check, so nothing in it is missing
    have hcomplete := isComplete_of_check hbuild
    obtain ⟨text, htext⟩ :=
      (hreports value).exists_ok_iff.mpr (missingErrors_eq_nil_iff.mpr hcomplete)
    exact ⟨⟨text, htext⟩, ⟨_, formatted_of_source htext⟩⟩

/-- A namespace with a class of an access that is no level, and with flags that have no numbers. -/
def depot : Ref .namespace × Workspace :=
  let (constructor, workspace) := @Workspace.add .empty .constructor ({} : Constructor)
  let (type, workspace) := @Workspace.add workspace .class
    { held := { name := some "Depot", access := .unlisted "package" }
      constructors := [constructor] }
  let (member, workspace) := @Workspace.add workspace .enumMember { name := some "Closed" }
  let (flags, workspace) := @Workspace.add workspace .enumeration
    { held := { name := some "Doors", isFlags := true }, members := [member] }
  @Workspace.add workspace .namespace
    { held := { name := some "Store" }, classes := [type], enums := [flags] }

/-- What it is built into. -/
def builtDepot : Namespace :=
  { name := some "Store"
    classes := [{ name := some "Depot", access := .unlisted "package"
                  constructors := [{ className := some "Depot" }] }]
    enums := [{ name := some "Doors", isFlags := true
                members := [{ name := some "Closed", value := some 0 }] }] }

/-- What the depot is built into has all that its source requires. -/
theorem renders_depot :
    (depot.2.build depot.1).1 = .ok builtDepot
      ∧ (∃ text, source {} (.namespace builtDepot) = .ok text)
      ∧ ∃ text, formatted {} (.namespace builtDepot) = .ok text := by
  have hbuild : (depot.2.build depot.1).1 = .ok builtDepot := by
    rw [depot.2.build_fst]
    rfl
  exact ⟨hbuild, (renders_unless_text_missing {}).2 depot.2 depot.1 builtDepot hbuild⟩

end Scaffold
