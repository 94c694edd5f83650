import Scaffold.Draft.Query
import Scaffold.Draft.Source
import Scaffold.Proofs.Draft.Unfolding

/-!
# Building is unfolding

Building walks over shared drafts and writes into those of constructors while it goes, also when it
fails later. None of this shows in what is built. The argument is a relation and a logic:

* **`Workspace.Agrees`**: the workspaces differ in nothing but what types have written into drafts
  of constructors. Building never leads out of this relation.
* **`Yields`**: from every workspace that agrees with the given one, the program has the given
  result, and it leaves one that agrees. `Yields.bind` and `Yields.mapM` compose it, so each kind
  of draft is followed once, along its own program.
* **`build_eq_check_unfold`**: hence a draft is built into its tree, whatever was built before.
-/

namespace Scaffold

/-! ## Workspaces that agree -/

/-- The workspaces agree up to the names and flags that constructors were bound to. -/
structure Workspace.Agrees (first second : Workspace) : Prop where
  get_eq : ∀ {kind : DraftKind} (ref : Ref kind), kind ≠ .constructor →
    second.get ref = first.get ref
  bound_eq : ∀ (ref : Ref .constructor) (name : Option String) (isStatic : Bool),
    Constructor.bound (second.get ref) name isStatic
      = Constructor.bound (first.get ref) name isStatic

namespace Workspace.Agrees

variable {first second third : Workspace}

theorem refl (workspace : Workspace) : workspace.Agrees workspace :=
  ⟨fun _ _ => rfl, fun _ _ _ => rfl⟩

theorem trans (h : first.Agrees second) (hnext : second.Agrees third) : first.Agrees third where
  get_eq ref hkind := (hnext.get_eq ref hkind).trans (h.get_eq ref hkind)
  bound_eq ref name isStatic :=
    (hnext.bound_eq ref name isStatic).trans (h.bound_eq ref name isStatic)

/-- Binding a constructor anew leads to a workspace that agrees. -/
theorem set_bound (workspace : Workspace) (ref : Ref .constructor) (name : Option String)
    (isStatic : Bool) :
    workspace.Agrees (workspace.set ref (Constructor.bound (workspace.get ref) name isStatic)) where
  get_eq other hkind := get_set_of_kind_ne workspace hkind ref other _
  bound_eq other newName wasStatic := by
    by_cases heq : other = ref
    · subst heq
      rw [get_set_self]
      exact Constructor.bound_bound _ _ _ _ _
    · rw [get_set_ne workspace heq]

end Workspace.Agrees

/-! ## The logic -/

/-- From every workspace that agrees with the given one, the program has the given result and
leaves a workspace that agrees. -/
def Yields {α : Type} (workspace : Workspace) (program : Build α) (result : Except Error α) : Prop :=
  ∀ other, workspace.Agrees other →
    (program.run.run other).1 = result ∧ workspace.Agrees (program.run.run other).2

section

variable {α β : Type} {workspace : Workspace}

theorem yields_pure (value : α) : Yields workspace (pure value) (.ok value) :=
  fun _ hother => ⟨rfl, hother⟩

/-- Checks neither read nor write a workspace. -/
theorem yields_check (result : Except Error α) : Yields workspace (Build.check result) result := by
  cases result with
  | ok value => exact yields_pure value
  | error error => exact fun _ hother => ⟨rfl, hother⟩

/-- A program goes on where the first part left the workspace, unless that part failed. -/
theorem run_bind (program : Build α) (next : α → Build β) (workspace : Workspace) :
    (program >>= next).run.run workspace
      = match program.run.run workspace with
        | (.ok value, after) => (next value).run.run after
        | (.error error, after) => (.error error, after) := by
  rw [ExceptT.run_bind, StateT.run_bind]
  show (match program.run.run workspace with | (outcome, after) => _) = _
  cases program.run.run workspace with
  | mk outcome after => cases outcome <;> rfl

/-- Reading a draft goes on with what is there, unless it may have been written by a type. -/
theorem Yields.read {kind : DraftKind} (hkind : kind ≠ .constructor) (ref : Ref kind)
    {next : Draft kind → Build α} {result : Except Error α}
    (h : Yields workspace (next (workspace.get ref)) result) :
    Yields workspace (Build.draft ref >>= next) result := by
  intro other hother
  have hrun : (Build.draft ref >>= next).run.run other
      = (next (workspace.get ref)).run.run other := by
    rw [run_bind, ← hother.get_eq ref hkind]
    rfl
  rw [hrun]
  exact h other hother

/-- **Programs compose.** After a failure the rest is not run, and the workspace stays. -/
theorem Yields.bind {program : Build α} {next : α → Build β} {result : Except Error α}
    {results : α → Except Error β} (h : Yields workspace program result)
    (hnext : ∀ value, Yields workspace (next value) (results value)) :
    Yields workspace (program >>= next) (result >>= results) := by
  intro other hother
  obtain ⟨hresult, hafter⟩ := h other hother
  rw [run_bind]
  -- the first part leaves a workspace that agrees, and that is all the second relies on
  cases hcase : program.run.run other with
  | mk outcome after =>
    rw [hcase] at hresult hafter
    subst hresult
    cases outcome with
    | ok value => exact hnext value after hafter
    | error error => exact ⟨rfl, hafter⟩

/-- One program after the other, up to the first that fails. -/
theorem Yields.mapM {items : List α} {program : α → Build β} {result : α → Except Error β}
    (h : ∀ item ∈ items, Yields workspace (program item) (result item)) :
    Yields workspace (items.mapM program) (items.mapM result) := by
  induction items with
  | nil => exact yields_pure []
  | cons item rest ih =>
    have hrest : Yields workspace (rest.mapM program) (rest.mapM result) :=
      ih fun other hother => h other (List.mem_cons_of_mem item hother)
    rw [List.mapM_cons, List.mapM_cons]
    exact (h item List.mem_cons_self).bind fun value =>
      hrest.bind fun values => yields_pure (value :: values)

end

/-! ## Each kind of draft -/

section

variable {workspace : Workspace}

/-- A field is read and checked, and so are properties and members of enumerations. -/
theorem yields_field (ref : Ref .field) :
    Yields workspace (Build.field ref) (Field.check (workspace.get ref)) :=
  Yields.read (by decide) ref (yields_check _)

theorem yields_property (ref : Ref .property) :
    Yields workspace (Build.property ref) (Property.check (workspace.get ref)) :=
  Yields.read (by decide) ref (yields_check _)

theorem yields_enumMember (ref : Ref .enumMember) :
    Yields workspace (Build.enumMember ref) (EnumMember.check (workspace.get ref)) :=
  Yields.read (by decide) ref (yields_check _)

/-- A constructor that is built on its own is only read. -/
theorem run_constructor (ref : Ref .constructor) (workspace : Workspace) :
    (Build.constructor ref).run.run workspace
      = (Constructor.check (workspace.get ref), workspace) := by
  show (Build.check (Constructor.check (workspace.get ref))).run.run workspace = _
  cases Constructor.check (workspace.get ref) <;> rfl

/-- A constructor is read right after it is written. -/
theorem run_boundConstructor (name : Option String) (isStatic : Bool) (ref : Ref .constructor)
    (workspace : Workspace) :
    (Build.boundConstructor name isStatic ref).run.run workspace
      = (Constructor.check (Constructor.bound (workspace.get ref) name isStatic),
        workspace.set ref (Constructor.bound (workspace.get ref) name isStatic)) := by
  refine (run_constructor ref (workspace.set ref _)).trans ?_
  rw [Workspace.get_set_self]
  rfl

/-- **A constructor is built as its type binds it**, whatever it was bound to before. -/
theorem yields_boundConstructor (name : Option String) (isStatic : Bool) (ref : Ref .constructor) :
    Yields workspace (Build.boundConstructor name isStatic ref)
      (Constructor.check (Constructor.bound (workspace.get ref) name isStatic)) := by
  intro other hother
  have hset := hother.trans (Workspace.Agrees.set_bound other ref name isStatic)
  rw [run_boundConstructor]
  rw [hother.bound_eq] at hset ⊢
  exact ⟨rfl, hset⟩

/-- Building attached drafts yields the checks of their trees. -/
theorem Yields.mapM_unfold {β : Type} {kind : DraftKind} {program : Ref kind → Build β}
    {unfold : Ref kind → β} {check : β → Except Error β} (refs : List (Ref kind))
    (h : ∀ ref, Yields workspace (program ref) (check (unfold ref))) :
    Yields workspace (refs.mapM program) ((refs.map unfold).mapM check) := by
  rw [List.mapM_map]
  exact Yields.mapM fun ref _ => h ref

/-- Constructors of a type are built one after the other, and each as the type binds it. One that
the type holds twice is bound twice to the same. -/
theorem yields_boundConstructors (name : Option String) (isStatic : Bool)
    (refs : List (Ref .constructor)) :
    Yields workspace (refs.mapM (Build.boundConstructor name isStatic))
      ((workspace.unfoldConstructors name isStatic refs).mapM Constructor.check) := by
  unfold Workspace.unfoldConstructors
  rw [List.mapM_map]
  exact Yields.mapM fun ref _ => yields_boundConstructor name isStatic ref

/-- Members are built after the enumeration itself has been checked, and numbered at the end. -/
theorem yields_enumeration (ref : Ref .enumeration) :
    Yields workspace (Build.enumeration ref) (workspace.unfoldEnumeration ref).check := by
  refine Yields.read (by decide) ref ?_
  refine (yields_check _).bind fun _ => ?_
  refine (Yields.mapM_unfold _ yields_enumMember).bind fun members => ?_
  exact yields_check _

/-- A class is checked, and its fields, properties and constructors are built in that order. -/
theorem yields_class (ref : Ref .class) :
    Yields workspace (Build.class ref) (workspace.unfoldClass ref).check := by
  refine Yields.read (by decide) ref ?_
  -- the draft is checked before its constructors are built, so the check counts the references, and
  -- that of the tree the constructors; they are as many
  have hcount : (workspace.unfoldClass ref).constructors.length
      = (ClassDraft.constructors (workspace.get ref)).length := List.length_map _
  unfold Class.check
  rw [hcount]
  refine (yields_check _).bind fun _ => ?_
  refine (Yields.mapM_unfold _ yields_field).bind fun fields => ?_
  refine (Yields.mapM_unfold _ yields_property).bind fun properties => ?_
  refine (yields_boundConstructors _ _ _).bind fun constructors => ?_
  exact yields_pure _

/-- A struct is built as a class is, and its constructors are not static. -/
theorem yields_struct (ref : Ref .struct) :
    Yields workspace (Build.struct ref) (workspace.unfoldStruct ref).check := by
  refine Yields.read (by decide) ref ?_
  refine (yields_check _).bind fun _ => ?_
  refine (Yields.mapM_unfold _ yields_field).bind fun fields => ?_
  refine (Yields.mapM_unfold _ yields_property).bind fun properties => ?_
  refine (yields_boundConstructors _ _ _).bind fun constructors => ?_
  exact yields_pure _

theorem yields_interface (ref : Ref .interface) :
    Yields workspace (Build.interface ref) (workspace.unfoldInterface ref).check := by
  refine Yields.read (by decide) ref ?_
  refine (yields_check _).bind fun _ => ?_
  refine (Yields.mapM_unfold _ yields_property).bind fun properties => ?_
  exact yields_pure _

/-- Types are built in the order of their kinds, whatever order they were attached in. -/
theorem yields_namespace (ref : Ref .namespace) :
    Yields workspace (Build.namespace ref) (workspace.unfoldNamespace ref).check := by
  refine Yields.read (by decide) ref ?_
  refine (yields_check _).bind fun _ => ?_
  refine (Yields.mapM_unfold _ yields_class).bind fun classes => ?_
  refine (Yields.mapM_unfold _ yields_struct).bind fun structs => ?_
  refine (Yields.mapM_unfold _ yields_interface).bind fun interfaces => ?_
  refine (Yields.mapM_unfold _ yields_enumeration).bind fun enums => ?_
  exact yields_pure _

/-- **Building yields the checks of the tree**, for every kind whose drafts no type writes into. -/
theorem yields_any {kind : DraftKind} (hkind : kind ≠ .constructor) (ref : Ref kind) :
    Yields workspace (Build.any kind ref) (kind.check (workspace.unfold kind ref)) := by
  cases kind with
  | constructor => exact absurd rfl hkind
  | field => exact yields_field ref
  | property => exact yields_property ref
  | enumMember => exact yields_enumMember ref
  | enumeration => exact yields_enumeration ref
  | «class» => exact yields_class ref
  | struct => exact yields_struct ref
  | interface => exact yields_interface ref
  | «namespace» => exact yields_namespace ref

end

/-! ## What is asked in between -/

/-- What can be asked of a workspace without configuring anything. -/
inductive Inquiry where
  | build {kind : DraftKind} (ref : Ref kind)
  | source (env : Environment) (formatted : Bool) {kind : DraftKind} (ref : Ref kind)
  | hasMember {kind : DraftKind} (ref : Ref kind) (wanted? : Option String) (asked : MemberKind)
      (comparison : NameComparison)

namespace Workspace

/-- The workspace that an inquiry leaves behind. Looking for a member leaves it alone. -/
def afterInquiry (workspace : Workspace) : Inquiry → Workspace
  | .build ref => (workspace.build ref).2
  | .source env formatted ref => (workspace.source env formatted ref).2
  | .hasMember _ _ _ _ => workspace

def afterInquiries (workspace : Workspace) (inquiries : List Inquiry) : Workspace :=
  inquiries.foldl afterInquiry workspace

/-- **One build** leads to a workspace that agrees. That of a constructor only reads. -/
theorem agrees_build (workspace : Workspace) {kind : DraftKind} (ref : Ref kind) :
    workspace.Agrees (workspace.build ref).2 := by
  by_cases hkind : kind = .constructor
  · subst hkind
    have hread : workspace.build ref = (_, workspace) := run_constructor ref workspace
    rw [hread]
    exact Agrees.refl workspace
  · exact (yields_any hkind ref workspace (Agrees.refl workspace)).2

/-- The source of a draft is asked for by building it. -/
theorem source_snd (workspace : Workspace) (env : Environment) (formatted : Bool)
    {kind : DraftKind} (ref : Ref kind) :
    (workspace.source env formatted ref).2 = (workspace.build ref).2 := by
  unfold source
  cases workspace.build ref with
  | mk outcome after => cases outcome <;> rfl

/-- **One inquiry** leads to a workspace that agrees. -/
theorem agrees_afterInquiry (workspace : Workspace) (inquiry : Inquiry) :
    workspace.Agrees (workspace.afterInquiry inquiry) := by
  cases inquiry with
  | build ref => exact workspace.agrees_build ref
  | source env formatted ref =>
    show workspace.Agrees (workspace.source env formatted ref).2
    rw [source_snd]
    exact workspace.agrees_build ref
  | hasMember => exact Agrees.refl workspace

/-- **A run of inquiries** leads to a workspace that agrees. Induction along the run. -/
theorem agrees_afterInquiries (workspace : Workspace) (inquiries : List Inquiry) :
    workspace.Agrees (workspace.afterInquiries inquiries) := by
  induction inquiries generalizing workspace with
  | nil => exact Agrees.refl workspace
  | cons inquiry rest ih => exact (workspace.agrees_afterInquiry inquiry).trans (ih _)

/-- **A draft is built into its tree**, in every workspace. So neither what its constructors were
bound to before, nor anything that is built or asked for in between, makes a difference. -/
theorem build_eq_check_unfold (workspace : Workspace) {kind : DraftKind}
    (hkind : kind ≠ .constructor) (ref : Ref kind) :
    (workspace.build ref).1 = kind.check (workspace.unfold kind ref)
      ∧ (∀ other, workspace.Agrees other → (other.build ref).1 = (workspace.build ref).1)
      ∧ ∀ inquiries,
          ((workspace.afterInquiries inquiries).build ref).1 = (workspace.build ref).1 := by
  -- agreement is all that building depends on, and inquiries keep it
  have hyields := @yields_any workspace kind hkind ref
  have hbuild : (workspace.build ref).1 = kind.check (workspace.unfold kind ref) :=
    (hyields workspace (Agrees.refl workspace)).1
  have hsame (other : Workspace) (hother : workspace.Agrees other) :
      (other.build ref).1 = (workspace.build ref).1 := by
    rw [hbuild]
    exact (hyields other hother).1
  refine ⟨hbuild, hsame, fun inquiries => ?_⟩
  exact hsame _ (workspace.agrees_afterInquiries inquiries)

/-- A namespace whose class and struct share a constructor, which the struct holds twice, and which
an earlier type has been built with. -/
def sharing : Ref .namespace × Workspace :=
  let (constructor, workspace) := @add empty .constructor
    ({ className := some "Earlier" } : Constructor)
  let (type, workspace) := @add workspace .class
    { held := { name := some "Cart", isStatic := true }, constructors := [constructor] }
  let (struct, workspace) := @add workspace .struct
    { held := { name := some "Size" }, constructors := [constructor, constructor] }
  @add workspace .namespace
    { held := { name := some "Shop" }, classes := [type], structs := [struct] }

theorem build_sharing :
    DraftKind.namespace ≠ .constructor
      ∧ (sharing.2.build sharing.1).1 = .ok
          { name := some "Shop"
            classes := [{ name := some "Cart", isStatic := true
                          constructors := [{ className := some "Cart", isStatic := true }] }]
            structs := [{ name := some "Size"
                          constructors := [{ className := some "Size" },
                            { className := some "Size" }] }] } := by
  have hkind : DraftKind.namespace ≠ .constructor := by decide
  refine ⟨hkind, ?_⟩
  rw [(build_eq_check_unfold sharing.2 hkind sharing.1).1]
  rfl

end Workspace

end Scaffold
