import Scaffold.Proofs.Draft.History
import Scaffold.Proofs.Draft.Numbering

/-!
# Looking for members finds what is built

A draft that is asked for a member looks at the attached drafts as they are, while building checks
them, numbers flags and binds constructors. The two never disagree:

* **`MemberKind.namesIn`**: the names among which a member of a built value is looked for.
* **`namesIn_check`**: checking a tree leaves these names alone, whatever else it does.
* **`Workspace.hasMember_eq_any`**: the answer is about the tree of a draft, where a member without
  a name does not count.
* **`Workspace.Extends`**: nothing is detached and no member renamed. Attaching never leads out of
  this relation, one action at a time (`extends_after`) or in a run (`extends_afterAll`).
-/

namespace Scaffold

/-! ## Names in built values -/

/-- The names of the members of a type that are of the kind asked for. -/
def MemberKind.namesAmong (fields : List Field) (properties : List Property) :
    MemberKind → List String
  | .field => fields.filterMap Field.name
  | .property => properties.filterMap Property.name
  | .any => fields.filterMap Field.name ++ properties.filterMap Property.name
  | _ => []

/-- The names of the members of an enumeration that are of the kind asked for. -/
def MemberKind.namesAmongMembers (members : List EnumMember) : MemberKind → List String
  | .enumMember => members.filterMap EnumMember.name
  | .any => members.filterMap EnumMember.name
  | _ => []

/-- The names of the members of a value that are of the kind asked for. -/
def MemberKind.namesIn (asked : MemberKind) : (kind : DraftKind) → kind.Value → List String
  | .class, value => asked.namesAmong value.fields value.properties
  | .struct, value => asked.namesAmong value.fields value.properties
  | .enumeration, value => asked.namesAmongMembers value.members
  | _, _ => []

/-- Members are built with the names that they have. -/
theorem Enumeration.map_name_of_check {enumeration built : Enumeration}
    (h : enumeration.check = .ok built) :
    enumeration.members.map EnumMember.name = built.members.map EnumMember.name := by
  obtain ⟨rfl, -⟩ := Enumeration.eq_of_check h
  exact (Enumeration.map_numbered (fun _ _ => rfl) enumeration enumeration.members).symm

/-- **Checking a tree leaves the names of its members alone.** -/
theorem namesIn_check (asked : MemberKind) {kind : DraftKind} {value built : kind.Value}
    (h : kind.check value = .ok built) : asked.namesIn kind value = asked.namesIn kind built := by
  cases kind with
  | «class» => rw [Class.check_eq_ok h]
  | struct => rw [Struct.check_eq_ok h]
  | enumeration =>
    have hnames : value.members.filterMap EnumMember.name
        = built.members.filterMap EnumMember.name := by
      rw [← Function.id_comp EnumMember.name, ← List.filterMap_map, ← List.filterMap_map,
        Enumeration.map_name_of_check h]
    simp only [MemberKind.namesIn, MemberKind.namesAmongMembers, hnames]
  | field | property | constructor | enumMember | interface | «namespace» => rfl

namespace Workspace

variable (workspace : Workspace)

/-! ## The answer -/

/-- The names that are looked at are those in the tree, and nothing for a member without one. -/
theorem filterMap_memberNames (asked : MemberKind) {kind : DraftKind} (ref : Ref kind) :
    (workspace.memberNames asked kind ref).filterMap id
      = asked.namesIn kind (workspace.unfold kind ref) := by
  -- kinds without members have no names on either side; for the others each asked kind is compared
  cases kind with
  | «class» =>
    cases asked <;>
      simp [memberNames, MemberKind.includes, fieldNames, propertyNames, MemberKind.namesIn,
        MemberKind.namesAmong, unfold, unfoldClass, List.filterMap_map]
  | struct =>
    cases asked <;>
      simp [memberNames, MemberKind.includes, fieldNames, propertyNames, MemberKind.namesIn,
        MemberKind.namesAmong, unfold, unfoldStruct, List.filterMap_map]
  | enumeration =>
    cases asked <;>
      simp [memberNames, MemberKind.includes, enumMemberNames, MemberKind.namesIn,
        MemberKind.namesAmongMembers, unfold, unfoldEnumeration, List.filterMap_map]
  | field | property | constructor | enumMember | interface | «namespace» => rfl

/-- **The answer is about the tree of the draft.** -/
theorem hasMember_eq_any {kind : DraftKind} (ref : Ref kind) (wanted : String) (asked : MemberKind)
    (comparison : NameComparison) :
    workspace.hasMember ref (some wanted) asked comparison
      = .ok ((asked.namesIn kind (workspace.unfold kind ref)).any
          fun name => comparison.holds name wanted) := by
  rw [← filterMap_memberNames, List.any_filterMap]
  unfold hasMember
  refine congrArg Except.ok (congrArg (List.any _) (funext fun name? => ?_))
  cases name? <;> rfl

/-- A member is found just if one of the asked kinds has a name for which the comparison holds. -/
theorem hasMember_iff {kind : DraftKind} (ref : Ref kind) (wanted : String) (asked : MemberKind)
    (comparison : NameComparison) :
    workspace.hasMember ref (some wanted) asked comparison = .ok true
      ↔ ∃ name ∈ asked.namesIn kind (workspace.unfold kind ref), comparison.holds name wanted := by
  rw [hasMember_eq_any, Except.ok.injEq, List.any_eq_true]

end Workspace

/-! ## Attaching -/

/-- The edit of a place adds attached drafts. -/
inductive Edit.Attaches {kind : DraftKind} : (place : Place kind) → Edit place.Content → Prop where
  | one {child : DraftKind} (attachment : Attachment kind child) (ref? : Option (Ref child)) :
    Attaches (.attached attachment) (.attach ref?)
  | several {child : DraftKind} (attachment : Attachment kind child)
      (given : List (Given (Ref child))) : Attaches (.attached attachment) (.attachAll given)

/-- The action attaches drafts to another, or builds or asks for something in between. -/
def Action.Attaches : Action → Prop
  | .call kind _ made => Edit.Attaches (Call.place kind made) (Call.edit kind made)
  | .inquire _ => True
  | .seed _ _ => False
  | .create _ _ => False

/-- Drafts are added to those that are attached, or none are. -/
theorem subset_run_attach {kind : DraftKind} (ref? : Option (Ref kind)) (refs : List (Ref kind)) :
    refs ⊆ ((Edit.attach ref?).run refs).1 := by
  cases ref? with
  | none => exact List.Subset.refl refs
  | some ref => exact List.subset_append_left refs [ref]

/-- Attaching several drafts takes none away. -/
theorem subset_run_attachAll {kind : DraftKind} (given : List (Given (Ref kind)))
    (refs : List (Ref kind)) : refs ⊆ ((Edit.attachAll given).run refs).1 := by
  show refs ⊆ (atomically refs ((Scaffold.attachAll refs given).mapError .error)).1
  unfold Scaffold.attachAll
  cases requireAll "builders" given with
  | error error => exact List.Subset.refl refs
  | ok added => exact List.subset_append_left refs added

/-- Nothing is attached to members. -/
theorem Edit.Attaches.kind_ne {kind : DraftKind} {place : Place kind} {edit : Edit place.Content}
    (h : Edit.Attaches place edit) : kind ≠ .field ∧ kind ≠ .property ∧ kind ≠ .enumMember := by
  cases h with
  | one attachment | several attachment => cases attachment <;> decide

/-- Whatever an edit attaches, no list of attached drafts loses anything. -/
theorem Edit.Attaches.attached_subset {kind child : DraftKind} {place : Place kind}
    {edit : Edit place.Content} (h : Edit.Attaches place edit) (draft : Draft kind)
    (attachment : Attachment kind child) :
    Draft.attached attachment draft ⊆ Draft.attached attachment (edit.applyTo draft place).1 := by
  -- the list that is edited grows, and every other stays: both calls that attach come down to this
  have hread {other : DraftKind} (edited : Attachment kind other)
      {edit : Edit (List (Ref other))} (hedit : ∀ refs, refs ⊆ (edit.run refs).1) :
      Draft.attached attachment draft
        ⊆ Draft.attached attachment (edit.applyTo draft (.attached edited)).1 := by
    by_cases hplace : Place.attached attachment = Place.attached edited
    · cases hplace
      show _ ⊆ Draft.attached attachment (Draft.setAttached attachment draft _)
      rw [Draft.attached_setAttached_self]
      exact hedit _
    · have hother : Draft.attached attachment (edit.applyTo draft (.attached edited)).1
          = Draft.attached attachment draft := Draft.read_write_ne hplace draft _
      rw [hother]
      exact List.Subset.refl _
  cases h with
  | one edited ref? => exact hread edited (subset_run_attach ref?)
  | several edited given => exact hread edited (subset_run_attachAll given)

namespace Workspace

/-- The second workspace has all that is attached in the first one, and the same members. -/
structure Extends (first second : Workspace) : Prop where
  field_eq : ∀ ref : Ref .field, second.get ref = first.get ref
  property_eq : ∀ ref : Ref .property, second.get ref = first.get ref
  enumMember_eq : ∀ ref : Ref .enumMember, second.get ref = first.get ref
  attached : ∀ {kind child : DraftKind} (attachment : Attachment kind child) (ref : Ref kind),
    Draft.attached attachment (first.get ref) ⊆ Draft.attached attachment (second.get ref)

theorem Extends.refl (workspace : Workspace) : workspace.Extends workspace where
  field_eq _ := rfl
  property_eq _ := rfl
  enumMember_eq _ := rfl
  attached _ _ := List.Subset.refl _

theorem Extends.trans {first second third : Workspace} (h : first.Extends second)
    (hnext : second.Extends third) : first.Extends third where
  field_eq ref := (hnext.field_eq ref).trans (h.field_eq ref)
  property_eq ref := (hnext.property_eq ref).trans (h.property_eq ref)
  enumMember_eq ref := (hnext.enumMember_eq ref).trans (h.enumMember_eq ref)
  attached attachment ref :=
    List.Subset.trans (h.attached attachment ref) (hnext.attached attachment ref)

/-- Workspaces that agree differ in constructors only, to which nothing is attached. -/
theorem Agrees.extends {first second : Workspace} (h : first.Agrees second) :
    first.Extends second where
  field_eq ref := h.get_eq ref (by decide)
  property_eq ref := h.get_eq ref (by decide)
  enumMember_eq ref := h.get_eq ref (by decide)
  attached {kind _} attachment ref := by
    have hkind : kind ≠ .constructor := by cases attachment <;> decide
    rw [h.get_eq ref hkind]
    exact List.Subset.refl _

/-- A call that attaches drafts extends the workspace. -/
theorem extends_call (workspace : Workspace) {kind : DraftKind} (ref : Ref kind) {call : Call kind}
    (h : Edit.Attaches (Call.place kind call) (Call.edit kind call)) :
    workspace.Extends (workspace.call ref call).1 := by
  -- a draft that others are attached to is no field, no property and no member itself
  obtain ⟨hfield, hproperty, henumMember⟩ := h.kind_ne
  refine ⟨fun other => ?_, fun other => ?_, fun other => ?_, ?_⟩
  · exact get_set_of_kind_ne workspace hfield.symm ref other _
  · exact get_set_of_kind_ne workspace hproperty.symm ref other _
  · exact get_set_of_kind_ne workspace henumMember.symm ref other _
  · intro otherKind child attachment other
    show _ ⊆ Draft.attached attachment
      ((workspace.set ref (Call.apply kind (workspace.get ref) call).1).get other)
    by_cases hother : otherKind = kind
    · subst hother
      by_cases href : other = ref
      · subst href
        rw [get_set_self, Call.apply_eq_edit]
        exact h.attached_subset _ attachment
      · rw [get_set_ne _ href]
        exact List.Subset.refl _
    · rw [get_set_of_kind_ne _ hother]
      exact List.Subset.refl _

/-- **One action** that attaches detaches nothing and renames nothing. -/
theorem extends_after (workspace : Workspace) {action : Action} (h : action.Attaches) :
    workspace.Extends (workspace.after action) := by
  cases action with
  | call kind ref call => exact workspace.extends_call ref h
  | inquire inquiry => exact (workspace.agrees_afterInquiry inquiry).extends
  | seed | create => exact False.elim h

/-- **A run** that attaches detaches nothing and renames nothing. Induction along the run. -/
theorem extends_afterAll (workspace : Workspace) {actions : List Action}
    (h : ∀ action ∈ actions, action.Attaches) :
    workspace.Extends (workspace.afterAll actions) := by
  induction actions generalizing workspace with
  | nil => exact Extends.refl workspace
  | cons action rest ih =>
    have hfirst := workspace.extends_after (h action List.mem_cons_self)
    exact hfirst.trans (ih _ fun other hother => h other (List.mem_cons_of_mem action hother))

/-! ## Looking for members -/

/-- Nothing gets lost to those who ask. -/
theorem Extends.memberNames_subset {first second : Workspace} (h : first.Extends second)
    (asked : MemberKind) {kind : DraftKind} (ref : Ref kind) :
    first.memberNames asked kind ref ⊆ second.memberNames asked kind ref := by
  -- for each kind of member: more references give more names, since the members stay as they are
  have hfields {refs others : List (Ref .field)} (hrefs : refs ⊆ others) :
      first.fieldNames refs ⊆ second.fieldNames others := by
    unfold fieldNames
    simp only [h.field_eq]
    exact List.map_subset _ hrefs
  have hproperties {refs others : List (Ref .property)} (hrefs : refs ⊆ others) :
      first.propertyNames refs ⊆ second.propertyNames others := by
    unfold propertyNames
    simp only [h.property_eq]
    exact List.map_subset _ hrefs
  have hmembers {refs others : List (Ref .enumMember)} (hrefs : refs ⊆ others) :
      first.enumMemberNames refs ⊆ second.enumMemberNames others := by
    unfold enumMemberNames
    simp only [h.enumMember_eq]
    exact List.map_subset _ hrefs
  have happend {names others more rest : List (Option String)} (hnames : names ⊆ others)
      (hmore : more ⊆ rest) : names ++ more ⊆ others ++ rest :=
    List.append_subset.mpr ⟨List.subset_append_of_subset_left _ hnames,
      List.subset_append_of_subset_right _ hmore⟩
  have hasked {names others : List (Option String)} (hnames : names ⊆ others) (kind : MemberKind) :
      (if asked.includes kind then names else []) ⊆ if asked.includes kind then others else [] := by
    split
    · exact hnames
    · exact List.Subset.refl []
  cases kind with
  | «class» =>
    refine happend ?_ ?_
    · exact hasked (hfields (h.attached .classField ref)) .field
    · exact hasked (hproperties (h.attached .classProperty ref)) .property
  | struct =>
    refine happend ?_ ?_
    · exact hasked (hfields (h.attached .structField ref)) .field
    · exact hasked (hproperties (h.attached .structProperty ref)) .property
  | enumeration => exact hasked (hmembers (h.attached .enumerationMember ref)) .enumMember
  | field | property | constructor | enumMember | interface | «namespace» =>
    exact List.Subset.refl []

/-- **What has been found is found again** when more is attached. -/
theorem Extends.hasMember {first second : Workspace} (h : first.Extends second) {kind : DraftKind}
    {ref : Ref kind} {wanted : String} {asked : MemberKind} {comparison : NameComparison}
    (hfound : first.hasMember ref (some wanted) asked comparison = .ok true) :
    second.hasMember ref (some wanted) asked comparison = .ok true := by
  rw [hasMember_iff, ← filterMap_memberNames] at hfound ⊢
  obtain ⟨name, hname, hholds⟩ := hfound
  exact ⟨name, List.filterMap_subset id (h.memberNames_subset asked ref) hname, hholds⟩

/-- **A draft that can be built** has the members of what is built. -/
theorem hasMember_of_build {workspace : Workspace} {kind : DraftKind} {ref : Ref kind}
    {value : kind.Value} (h : (workspace.build ref).1 = .ok value) (wanted : String)
    (asked : MemberKind) (comparison : NameComparison) :
    workspace.hasMember ref (some wanted) asked comparison
      = .ok ((asked.namesIn kind value).any fun name => comparison.holds name wanted) := by
  rw [build_fst] at h
  rw [hasMember_eq_any, namesIn_check asked h]

/-- **Looking for members finds what is built.** If a draft can be built, the answer, before and
after, is whether the built value has a member of that kind and name. Whether it can be built or
not, a member without a name is never found, and attaching further members loses none. -/
theorem hasMember_agrees_with_build (workspace : Workspace) {kind : DraftKind} (ref : Ref kind)
    (wanted : String) (asked : MemberKind) (comparison : NameComparison) :
    (∀ value, (workspace.build ref).1 = .ok value → ∃ found,
        workspace.hasMember ref (some wanted) asked comparison = .ok found
          ∧ (workspace.build ref).2.hasMember ref (some wanted) asked comparison = .ok found
          ∧ (found = true
            ↔ ∃ name ∈ asked.namesIn kind value, comparison.holds name wanted = true))
      ∧ (workspace.hasMember ref (some wanted) asked comparison = .ok true
          ↔ ∃ name, some name ∈ workspace.memberNames asked kind ref
              ∧ comparison.holds name wanted = true)
      ∧ ∀ actions, (∀ action ∈ actions, Action.Attaches action) →
          workspace.hasMember ref (some wanted) asked comparison = .ok true →
          (workspace.afterAll actions).hasMember ref (some wanted) asked comparison = .ok true := by
  refine ⟨?_, ?_, ?_⟩
  · intro value hbuild
    refine ⟨_, hasMember_of_build hbuild wanted asked comparison, ?_, List.any_eq_true⟩
    by_cases hkind : kind = .constructor
    · subst hkind
      rfl
    · -- what building has written makes no difference to what is built
      have hagain : ((workspace.build ref).2.build ref).1 = .ok value := by
        rw [(workspace.build_eq_check_unfold hkind ref).2.1 _ (workspace.agrees_build ref), hbuild]
      exact hasMember_of_build hagain wanted asked comparison
  · rw [hasMember_iff, ← filterMap_memberNames]
    simp
  · intro actions hactions
    exact (workspace.extends_afterAll hactions).hasMember

/-- A class with a field and a property, and a field that is not attached and has no name. -/
def stock : Ref .class × Workspace :=
  let (field, workspace) := @add empty .field
    ({ type := some "int", name := some "count" } : Field)
  let (property, workspace) := @add workspace .property
    ({ type := some "int", name := some "Total" } : Property)
  let (_, workspace) := @add workspace .field ({} : Field)
  @add workspace .class
    { held := { name := some "Stock" }, fields := [field], properties := [property] }

/-- Attaches the field without a name, with which the class can no longer be built. -/
def restocking : List Action :=
  [.call .class stock.1 (.fields [.one ⟨2⟩, .one ⟨0⟩]), .inquire (.build stock.1)]

/-- The class above has a property whose name starts as asked, also after the run. -/
theorem hasMember_stock :
    let value : Class :=
      { name := some "Stock"
        fields := [{ type := some "int", name := some "count" }]
        properties := [{ type := some "int", name := some "Total" }] }
    (stock.2.build stock.1).1 = .ok value
      ∧ (∃ found, stock.2.hasMember stock.1 (some "To") .property .starting = .ok found
          ∧ (stock.2.build stock.1).2.hasMember stock.1 (some "To") .property .starting = .ok found
          ∧ (found = true ↔ ∃ name ∈ MemberKind.property.namesIn .class value,
              NameComparison.starting.holds name "To" = true))
      ∧ stock.2.hasMember stock.1 (some "To") .property .starting = .ok true
      ∧ (∀ action ∈ restocking, Action.Attaches action)
      ∧ (stock.2.afterAll restocking).hasMember stock.1 (some "To") .property .starting
          = .ok true := by
  intro value
  obtain ⟨hbuilt, -, hattached⟩ :=
    hasMember_agrees_with_build stock.2 stock.1 "To" .property .starting
  have hbuild : (stock.2.build stock.1).1 = .ok value := rfl
  have hfound : stock.2.hasMember stock.1 (some "To") .property .starting = .ok true := rfl
  have hrestocking : ∀ action ∈ restocking, Action.Attaches action := by
    intro action haction
    rcases List.mem_cons.mp haction with rfl | haction
    · exact .several .classField _
    · rw [List.mem_singleton.mp haction]
      exact trivial
  exact ⟨hbuild, hbuilt value hbuild, hfound, hrestocking, hattached _ hrestocking hfound⟩

end Workspace

end Scaffold
