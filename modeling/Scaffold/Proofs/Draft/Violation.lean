import Mathlib.Data.List.Basic
import Mathlib.Data.List.Count
import Mathlib.Data.List.Find
import Mathlib.Data.Option.Basic
import Scaffold.Proofs.Draft.Building
import Scaffold.Proofs.Error.Report

/-!
# What is wrong with a draft

Building stops at the first thing that is wrong. Here everything that is wrong with a draft and
with what is attached to it is listed as it can be read off the workspace, in the order in which
building looks at it.

* **`Workspace.violations`**: all that is wrong, a draft's own settings first and what is attached
  in the order of its attachment. What a constructor gets from its type cannot be wrong in it.
* **`repeated?_map_name`**: of the names that members have in common, the one that occurs first is
  found.
* **`reports_unfold`**: checking the tree of a draft reports the first of its violations, by one
  lemma for each kind.
* **`build_reports_first_violation`**: so does building.
-/

namespace Scaffold

/-! ## What is wrong with a member -/

def Field.violations (field : Field) : List Error :=
  errorIfMissing "field" "type" field.type ++ errorIfMissing "field" "name" field.name

def Property.violations (property : Property) : List Error :=
  let getter := property.getter.kind
  let setter := property.setter.kind
  errorIfMissing "property" "name" property.name
    ++ errorIfMissing "property" "type" property.type
    ++ errorIf (setter == .automatic && getter == .absent) .setterWithoutGetter
    ++ errorIf (setter == .automatic && getter == .custom) .setterWithCustomGetter
    ++ errorIf (property.defaultValue.isSome && (getter == .custom || setter == .custom))
      .defaultWithCustomAccessor

def Parameter.violations (parameter : Parameter) : List Error :=
  errorIfMissing "parameter" "type" (some parameter.type)
    ++ errorIfMissing "parameter" "name" (some parameter.name)

/-- What is wrong with a constructor apart from the name of its type. -/
def Constructor.parameterViolations (constructor : Constructor) : List Error :=
  constructor.parameters.flatMap Parameter.violations

def EnumMember.violations (member : EnumMember) : List Error :=
  errorIfMissing "enum member" "name" member.name

/-- A name that some members have in common; of several, the one that occurs first. -/
def EnumMember.commonName? (members : List EnumMember) : Option String :=
  let names := members.filterMap EnumMember.name
  names.find? fun name => 1 < names.count name

/-- The error of a name that some members of an enumeration have in common. -/
def Enumeration.repetitions (enumeration : Enumeration) (members : List EnumMember) : List Error :=
  ((EnumMember.commonName? members).map
    (Error.duplicateMember (enumeration.name.getD ""))).toList

/-! ## What is wrong with a draft -/

namespace Workspace

variable (workspace : Workspace)

def enumerationViolations (ref : Ref .enumeration) : List Error :=
  let draft : EnumerationDraft := workspace.get ref
  let members : List EnumMember := draft.members.map workspace.get
  errorIfMissing "enum" "name" draft.held.name
    ++ members.flatMap EnumMember.violations
    ++ draft.held.repetitions members

/-- What is wrong with a class itself, whatever its members are. -/
def ownClassViolations (ref : Ref .class) : List Error :=
  let draft : ClassDraft := workspace.get ref
  errorIfMissing "class" "name" draft.held.name
    ++ errorIf (draft.held.isStatic && 1 < draft.constructors.length) .staticConstructors

def fieldViolations (refs : List (Ref .field)) : List Error :=
  refs.flatMap fun ref => Field.violations (workspace.get ref)

def propertyViolations (refs : List (Ref .property)) : List Error :=
  refs.flatMap fun ref => Property.violations (workspace.get ref)

def constructorViolations (refs : List (Ref .constructor)) : List Error :=
  refs.flatMap fun ref => Constructor.parameterViolations (workspace.get ref)

def classViolations (ref : Ref .class) : List Error :=
  let draft : ClassDraft := workspace.get ref
  workspace.ownClassViolations ref
    ++ workspace.fieldViolations draft.fields
    ++ workspace.propertyViolations draft.properties
    ++ workspace.constructorViolations draft.constructors

def structViolations (ref : Ref .struct) : List Error :=
  let draft : StructDraft := workspace.get ref
  errorIfMissing "struct" "name" draft.held.name
    ++ workspace.fieldViolations draft.fields
    ++ workspace.propertyViolations draft.properties
    ++ workspace.constructorViolations draft.constructors

def interfaceViolations (ref : Ref .interface) : List Error :=
  let draft : InterfaceDraft := workspace.get ref
  errorIfMissing "interface" "name" draft.held.name
    ++ workspace.propertyViolations draft.properties

def namespaceViolations (ref : Ref .namespace) : List Error :=
  let draft : NamespaceDraft := workspace.get ref
  errorIfMissing "namespace" "name" draft.held.name
    ++ draft.classes.flatMap workspace.classViolations
    ++ draft.structs.flatMap workspace.structViolations
    ++ draft.interfaces.flatMap workspace.interfaceViolations
    ++ draft.enums.flatMap workspace.enumerationViolations

/-- All that is wrong with a draft and with what is attached to it. -/
def violations : (kind : DraftKind) → Ref kind → List Error
  | .field, ref => Field.violations (workspace.get ref)
  | .property, ref => Property.violations (workspace.get ref)
  | .constructor, ref =>
    errorIfMissing "constructor" "class name" (Constructor.className (workspace.get ref))
      ++ Constructor.parameterViolations (workspace.get ref)
  | .enumMember, ref => EnumMember.violations (workspace.get ref)
  | .enumeration, ref => workspace.enumerationViolations ref
  | .class, ref => workspace.classViolations ref
  | .struct, ref => workspace.structViolations ref
  | .interface, ref => workspace.interfaceViolations ref
  | .namespace, ref => workspace.namespaceViolations ref

end Workspace

/-! ## Checks of members -/

/-- The type of a field is checked before its name. -/
theorem reports_field (field : Field) : Reports field.check field.violations := by
  refine (reports_checkSetting _ _ _).bind fun _ _ => ?_
  exact (reports_checkSetting _ _ _).map fun _ => ⟨field, rfl⟩

/-- The checks of a property: its name, its type, and three combinations that are refused. -/
theorem reports_property (property : Property) : Reports property.check property.violations := by
  unfold Property.violations
  simp only [List.append_assoc]
  refine (reports_checkSetting _ _ _).bind fun _ _ => ?_
  refine (reports_checkSetting _ _ _).bind fun _ _ => ?_
  refine (reports_refuseIf _ _).bind fun _ _ => ?_
  refine (reports_refuseIf _ _).bind fun _ _ => ?_
  exact (reports_refuseIf _ _).map fun _ => ⟨property, rfl⟩

theorem reports_parameter (parameter : Parameter) :
    Reports parameter.check parameter.violations :=
  (reports_checkSetting _ _ _).bind fun _ _ => reports_checkSetting _ _ _

/-- A constructor lacks its name before any of its parameters lacks anything. -/
theorem reports_constructor (constructor : Constructor) :
    Reports constructor.check
      (errorIfMissing "constructor" "class name" constructor.className
        ++ constructor.parameterViolations) := by
  have hparameters : Reports (constructor.parameters.forM Parameter.check)
      constructor.parameterViolations := reports_forM fun parameter _ => reports_parameter parameter
  exact (reports_checkSetting _ _ _).bind fun _ _ => hparameters.map fun _ => ⟨constructor, rfl⟩

theorem reports_enumMember (member : EnumMember) : Reports member.check member.violations :=
  (reports_checkSetting _ _ _).map fun _ => ⟨member, rfl⟩

/-- A property that passes its check is the one that is returned, and has a name and a type. -/
theorem Property.check_eq_ok {property built : Property} (h : property.check = .ok built) :
    property = built ∧ Text.isMissing property.name = false
      ∧ Text.isMissing property.type = false := by
  unfold Property.check at h
  obtain ⟨⟨⟩, hname, h⟩ := bind_eq_ok_iff.mp h
  obtain ⟨⟨⟩, htype, h⟩ := bind_eq_ok_iff.mp h
  -- the accessors go together; nothing of what follows depends on how
  obtain ⟨-, -, h⟩ := bind_eq_ok_iff.mp h
  obtain ⟨-, -, h⟩ := bind_eq_ok_iff.mp h
  obtain ⟨-, -, h⟩ := bind_eq_ok_iff.mp h
  exact ⟨Except.ok.inj h, isMissing_of_checkSetting hname, isMissing_of_checkSetting htype⟩

/-- Members that pass their checks are those that are returned, and have names. -/
theorem EnumMember.mapM_check_eq_ok {members built : List EnumMember}
    (h : members.mapM EnumMember.check = .ok built) :
    built = members ∧ ∀ member ∈ members, Text.isMissing member.name = false := by
  induction members generalizing built with
  | nil =>
    obtain rfl : [] = built := Except.ok.inj h
    simp
  | cons member rest ih =>
    obtain ⟨checked, others, hchecked, hothers, rfl⟩ := mapM_cons_eq_ok h
    obtain ⟨⟨⟩, hname, hself⟩ := bind_eq_ok_iff.mp hchecked
    obtain rfl : member = checked := Except.ok.inj hself
    obtain ⟨rfl, hnamed⟩ := ih hothers
    exact ⟨rfl, List.forall_mem_cons.mpr ⟨isMissing_of_checkSetting hname, hnamed⟩⟩

/-- A field that passes its check is the one that is returned. -/
theorem Field.check_eq_ok (field built : Field) (h : field.check = .ok built) : field = built := by
  unfold Field.check at h
  obtain ⟨-, -, h⟩ := bind_eq_ok_iff.mp h
  obtain ⟨-, -, h⟩ := bind_eq_ok_iff.mp h
  exact Except.ok.inj h

/-- So is a constructor. -/
theorem Constructor.check_eq_ok (constructor built : Constructor)
    (h : constructor.check = .ok built) : constructor = built := by
  unfold Constructor.check at h
  obtain ⟨-, -, h⟩ := bind_eq_ok_iff.mp h
  obtain ⟨-, -, h⟩ := bind_eq_ok_iff.mp h
  exact Except.ok.inj h

/-- The name of a type is not missing once its own check is through, and it is what its
constructors are bound to. -/
theorem reports_boundConstructor {name : Option String} (hname : Text.isMissing name = false)
    (isStatic : Bool) (workspace : Workspace) (ref : Ref .constructor) :
    Reports (Constructor.bound (workspace.get ref) name isStatic).check
      (Constructor.parameterViolations (workspace.get ref)) := by
  have hnamed : errorIfMissing "constructor" "class name"
      (Constructor.bound (workspace.get ref) name isStatic).className = [] :=
    errorIfMissing_of_given hname
  have hreports := reports_constructor (Constructor.bound (workspace.get ref) name isStatic)
  rwa [hnamed] at hreports

/-- Bound to a type that has a name, constructors lack none; only their parameters are checked. -/
theorem reports_boundConstructors {name : Option String} (hname : Text.isMissing name = false)
    (isStatic : Bool) (workspace : Workspace) (refs : List (Ref .constructor)) :
    Reports ((workspace.unfoldConstructors name isStatic refs).mapM Constructor.check)
      (workspace.constructorViolations refs) := by
  unfold Workspace.unfoldConstructors
  rw [List.mapM_map]
  exact reports_mapM fun ref _ => reports_boundConstructor hname isStatic workspace ref

/-! ## Names in common -/

namespace Enumeration

/-- The first name that occurs again is the first of those that occur more than once. Induction
along the names: one that occurs again later is found at once, and another has no say in how often
the rest occur. -/
theorem repeated?_eq_find? (names : List (Option String)) :
    repeated? names = names.find? fun name => 1 < names.count name := by
  induction names with
  | nil => rfl
  | cons name rest ih =>
    unfold repeated?
    split
    -- the first name that stands again is the first whose count exceeds one: behind it the counts
    -- are those of the rest
    next hagain =>
      have hcount : 0 < rest.count name := List.count_pos_iff.mpr hagain
      rw [List.find?_cons_of_pos]
      simpa [List.count_cons] using hcount
    next honce =>
      have hcount : rest.count name = 0 := List.count_eq_zero.mpr honce
      have hrest : ∀ other ∈ rest, (name :: rest).count other = rest.count other := by
        rintro other hother
        have hne : name ≠ other := fun heq => honce (heq ▸ hother)
        simp [hne]
      rw [ih, List.find?_cons_of_neg (by simp [hcount])]
      exact List.find?_congr fun other hother => by rw [hrest other hother]

/-- Members that all have names repeat just those that they have in common. -/
theorem repeated?_map_name {members : List EnumMember}
    (h : ∀ member ∈ members, Text.isMissing member.name = false) :
    repeated? (members.map EnumMember.name) = (EnumMember.commonName? members).map some := by
  have hgiven : members.map EnumMember.name = (members.filterMap EnumMember.name).map some := by
    rw [List.map_filterMap]
    symm
    rw [List.filterMap_eq_map_iff_forall_eq_some]
    intro member hmember
    obtain ⟨name, hname, -⟩ := (Text.isMissing_eq_false_iff _).mp (h member hmember)
    rw [hname]
    rfl
  rw [repeated?_eq_find?, hgiven, List.find?_map]
  congr 2
  funext name
  simp [List.count_map_of_injective _ _ (Option.some_injective String)]

/-- Members that all have names are taken in, unless they have one in common. -/
theorem reports_withMembers (enumeration : Enumeration) {members : List EnumMember}
    (h : ∀ member ∈ members, Text.isMissing member.name = false) :
    Reports (enumeration.withMembers members) (enumeration.repetitions members) := by
  unfold withMembers repetitions
  rw [repeated?_map_name h]
  cases EnumMember.commonName? members with
  | none => exact .value _
  | some name => exact .first _ []

end Enumeration

/-! ## Types that pass -/

/-- A class that passes its check is the one that is returned. -/
theorem Class.check_eq_ok {record built : Class} (h : record.check = .ok built) :
    record = built := by
  unfold Class.check at h
  obtain ⟨-, -, h⟩ := bind_eq_ok_iff.mp h
  obtain ⟨fields, hfields, h⟩ := bind_eq_ok_iff.mp h
  obtain ⟨properties, hproperties, h⟩ := bind_eq_ok_iff.mp h
  obtain ⟨constructors, hconstructors, h⟩ := bind_eq_ok_iff.mp h
  obtain rfl := eq_of_mapM_eq_ok Field.check_eq_ok hfields
  obtain rfl := eq_of_mapM_eq_ok (fun _ _ hcheck => (Property.check_eq_ok hcheck).1) hproperties
  obtain rfl := eq_of_mapM_eq_ok Constructor.check_eq_ok hconstructors
  exact Except.ok.inj h

/-- A struct that passes its check is returned with its members as they were. -/
theorem Struct.check_eq_ok {record built : Struct} (h : record.check = .ok built) :
    record = built := by
  unfold Struct.check at h
  obtain ⟨-, -, h⟩ := bind_eq_ok_iff.mp h
  obtain ⟨fields, hfields, h⟩ := bind_eq_ok_iff.mp h
  obtain ⟨properties, hproperties, h⟩ := bind_eq_ok_iff.mp h
  obtain ⟨constructors, hconstructors, h⟩ := bind_eq_ok_iff.mp h
  obtain rfl := eq_of_mapM_eq_ok Field.check_eq_ok hfields
  obtain rfl := eq_of_mapM_eq_ok (fun _ _ hcheck => (Property.check_eq_ok hcheck).1) hproperties
  obtain rfl := eq_of_mapM_eq_ok Constructor.check_eq_ok hconstructors
  exact Except.ok.inj h

theorem Interface.check_eq_ok {record built : Interface} (h : record.check = .ok built) :
    record = built := by
  unfold Interface.check at h
  obtain ⟨-, -, h⟩ := bind_eq_ok_iff.mp h
  obtain ⟨properties, hproperties, h⟩ := bind_eq_ok_iff.mp h
  obtain rfl := eq_of_mapM_eq_ok (fun _ _ hcheck => (Property.check_eq_ok hcheck).1) hproperties
  exact Except.ok.inj h

/-! ## Checks of trees -/

namespace Workspace

variable (workspace : Workspace)

/-- A step for each attached draft, made on its tree, reports what is wrong with each. -/
theorem reports_attached {α β : Type} {kind : DraftKind} {unfold : Ref kind → α}
    {check : α → Except Error β} {found : Ref kind → List Error} (refs : List (Ref kind))
    (h : ∀ ref, Reports (check (unfold ref)) (found ref)) :
    Reports ((refs.map unfold).mapM check) (refs.flatMap found) := by
  rw [List.mapM_map]
  exact reports_mapM fun ref _ => h ref

theorem reports_fields (refs : List (Ref .field)) :
    Reports ((refs.map workspace.get).mapM Field.check) (workspace.fieldViolations refs) :=
  reports_attached refs fun _ => reports_field _

theorem reports_properties (refs : List (Ref .property)) :
    Reports ((refs.map workspace.get).mapM Property.check) (workspace.propertyViolations refs) :=
  reports_attached refs fun _ => reports_property _

/-- An enumeration is checked for its name, then its members for theirs, and then all names for
repetition. -/
theorem reports_enumeration (ref : Ref .enumeration) :
    Reports (workspace.unfoldEnumeration ref).check (workspace.enumerationViolations ref) := by
  unfold enumerationViolations
  simp only [List.append_assoc]
  refine (reports_checkSetting _ _ _).bind fun _ _ => ?_
  refine (reports_mapM fun member _ => reports_enumMember member).bind fun members hmembers => ?_
  -- the members are what they were before, and all of them have names
  obtain ⟨rfl, hnamed⟩ := EnumMember.mapM_check_eq_ok hmembers
  exact Enumeration.reports_withMembers _ hnamed

/-- What a class needs of itself to be built, it needs of its tree. -/
theorem reports_ownClass (ref : Ref .class) :
    Reports
      ((workspace.unfoldClass ref).checkOwn (ClassDraft.constructors (workspace.get ref)).length)
      (workspace.ownClassViolations ref) :=
  (reports_checkSetting _ _ _).bind fun _ _ => reports_refuseIf _ _

/-- A class is checked for itself first, and its fields come before its properties and its
constructors. -/
theorem reports_class (ref : Ref .class) :
    Reports (workspace.unfoldClass ref).check (workspace.classViolations ref) := by
  have hcount : (workspace.unfoldClass ref).constructors.length
      = (ClassDraft.constructors (workspace.get ref)).length := List.length_map _
  unfold classViolations Class.check
  rw [hcount]
  simp only [List.append_assoc]
  refine (workspace.reports_ownClass ref).bind fun _ hown => ?_
  obtain ⟨⟨⟩, hname, -⟩ := bind_eq_ok_iff.mp hown
  refine (workspace.reports_fields _).bind fun _ _ => ?_
  refine (workspace.reports_properties _).bind fun _ _ => ?_
  exact (reports_boundConstructors (isMissing_of_checkSetting hname) _ workspace _).map
    fun _ => ⟨_, rfl⟩

/-- A struct has a name to be checked, and nothing else of its own. -/
theorem reports_struct (ref : Ref .struct) :
    Reports (workspace.unfoldStruct ref).check (workspace.structViolations ref) := by
  unfold structViolations
  simp only [List.append_assoc]
  refine (reports_checkSetting _ _ _).bind fun _ hname => ?_
  refine (workspace.reports_fields _).bind fun _ _ => ?_
  refine (workspace.reports_properties _).bind fun _ _ => ?_
  exact (reports_boundConstructors (isMissing_of_checkSetting hname) _ workspace _).map
    fun _ => ⟨_, rfl⟩

theorem reports_interface (ref : Ref .interface) :
    Reports (workspace.unfoldInterface ref).check (workspace.interfaceViolations ref) := by
  refine (reports_checkSetting _ _ _).bind fun _ _ => ?_
  exact (workspace.reports_properties _).map fun _ => ⟨_, rfl⟩

/-- The types of a namespace are checked by kind: classes, structs, interfaces, enumerations. -/
theorem reports_namespace (ref : Ref .namespace) :
    Reports (workspace.unfoldNamespace ref).check (workspace.namespaceViolations ref) := by
  unfold namespaceViolations
  simp only [List.append_assoc]
  refine (reports_checkSetting _ _ _).bind fun _ _ => ?_
  refine (reports_attached _ workspace.reports_class).bind fun _ _ => ?_
  refine (reports_attached _ workspace.reports_struct).bind fun _ _ => ?_
  refine (reports_attached _ workspace.reports_interface).bind fun _ _ => ?_
  exact (reports_attached _ workspace.reports_enumeration).map fun _ => ⟨_, rfl⟩

/-- **The tree of a draft** reports what is wrong with the draft. -/
theorem reports_unfold {kind : DraftKind} (ref : Ref kind) :
    Reports (kind.check (workspace.unfold kind ref)) (workspace.violations kind ref) := by
  cases kind with
  | field => exact reports_field _
  | property => exact reports_property _
  | constructor => exact reports_constructor _
  | enumMember => exact reports_enumMember _
  | enumeration => exact workspace.reports_enumeration ref
  | «class» => exact workspace.reports_class ref
  | struct => exact workspace.reports_struct ref
  | interface => exact workspace.reports_interface ref
  | «namespace» => exact workspace.reports_namespace ref

/-! ## Building -/

/-- A draft is built into the checks of its tree. That of a constructor is the draft itself. -/
theorem build_fst {kind : DraftKind} (ref : Ref kind) :
    (workspace.build ref).1 = kind.check (workspace.unfold kind ref) := by
  by_cases hkind : kind = .constructor
  · subst hkind
    exact congrArg Prod.fst (run_constructor ref workspace)
  · exact (yields_any hkind ref workspace (Agrees.refl workspace)).1

/-- **Building reports the first violation**, if there is one. -/
theorem reports_build {kind : DraftKind} (ref : Ref kind) :
    Reports (workspace.build ref).1 (workspace.violations kind ref) := by
  rw [build_fst]
  exact workspace.reports_unfold ref

/-- **Building reports the first thing that is wrong**: it succeeds just when there is nothing
wrong with the draft and with what is attached to it, and fails with an error just when that error
is the first. -/
theorem build_reports_first_violation {kind : DraftKind} (ref : Ref kind) :
    ((∃ value, (workspace.build ref).1 = .ok value) ↔ workspace.violations kind ref = [])
      ∧ ∀ error, (workspace.build ref).1 = .error error
          ↔ (workspace.violations kind ref).head? = some error := by
  have hreports := workspace.reports_build ref
  exact ⟨hreports.exists_ok_iff, hreports.eq_error_iff⟩

end Workspace

end Scaffold
