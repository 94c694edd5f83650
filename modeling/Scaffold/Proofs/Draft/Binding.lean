import Scaffold.Proofs.Draft.Violation

/-!
# What building writes

Building writes into drafts of constructors, also when it fails later, and into nothing else. What
it writes can be read off the workspace as it was before:

* **`Workspace.bindings`**: the constructors that a build reaches, in the order in which it reaches
  them, each with the name of the type that reaches it and whether that is static. A type with
  something wrong before its constructors reaches none of them, and nothing is reached behind
  something wrong.
* **`Workspace.rebound`**: the workspace in which each constructor is bound as the last of some
  bindings says, and all else is as before.
* **`Binds`**: the program leaves its workspace rebound by the given bindings. `Binds.bind` and
  `Binds.mapM` compose it along the programs that build.
* **`build_rebinds`**: building leaves the workspace rebound by the bindings of the draft.
-/

namespace Scaffold

/-! ## Constructors that are reached -/

/-- A constructor as a type reaches it. -/
structure Binding where
  ref : Ref .constructor
  name : Option String
  isStatic : Bool

/-- The items up to the first that the condition holds for, and that one. -/
def upToFirst {α : Type} (condition : α → Bool) : List α → List α
  | [] => []
  | item :: rest => if condition item then [item] else item :: upToFirst condition rest

namespace Workspace

variable (workspace : Workspace)

/-- The constructors of a type that are reached once their turn comes. -/
def constructorBindings (name : Option String) (isStatic : Bool) (refs : List (Ref .constructor)) :
    List Binding :=
  let isWrong (ref : Ref .constructor) : Bool :=
    Constructor.parameterViolations (workspace.get ref) != []
  (upToFirst isWrong refs).map fun ref => { ref, name, isStatic }

/-- The constructors of a type that are reached once the type itself is right: none, if something
is wrong with its fields or properties. -/
def memberBindings (name : Option String) (isStatic : Bool) (fields : List (Ref .field))
    (properties : List (Ref .property)) (constructors : List (Ref .constructor)) : List Binding :=
  if workspace.fieldViolations fields = [] ∧ workspace.propertyViolations properties = [] then
    workspace.constructorBindings name isStatic constructors
  else []

def classBindings (ref : Ref .class) : List Binding :=
  let draft : ClassDraft := workspace.get ref
  if workspace.ownClassViolations ref = [] then
    workspace.memberBindings draft.held.name draft.held.isStatic draft.fields draft.properties
      draft.constructors
  else []

/-- The constructors that a struct reaches are not static. -/
def structBindings (ref : Ref .struct) : List Binding :=
  let draft : StructDraft := workspace.get ref
  if errorIfMissing "struct" "name" draft.held.name = [] then
    workspace.memberBindings draft.held.name false draft.fields draft.properties draft.constructors
  else []

/-- The classes come first. Behind a class with something wrong no struct is reached. -/
def namespaceBindings (ref : Ref .namespace) : List Binding :=
  let draft : NamespaceDraft := workspace.get ref
  let classes := upToFirst (fun ref => workspace.classViolations ref != []) draft.classes
  let structs := upToFirst (fun ref => workspace.structViolations ref != []) draft.structs
  if errorIfMissing "namespace" "name" draft.held.name = [] then
    classes.flatMap workspace.classBindings
      ++ if draft.classes.flatMap workspace.classViolations = [] then
          structs.flatMap workspace.structBindings
        else []
  else []

/-- The constructors that a build reaches, in order. -/
def bindings : (kind : DraftKind) → Ref kind → List Binding
  | .class, ref => workspace.classBindings ref
  | .struct, ref => workspace.structBindings ref
  | .namespace, ref => workspace.namespaceBindings ref
  | _, _ => []

/-! ## Workspaces rebound -/

/-- The last of some bindings that is one of the given constructor. -/
def lastBinding? (bindings : List Binding) (ref : Ref .constructor) : Option Binding :=
  (bindings.filter fun binding => binding.ref = ref).getLast?

/-- The workspace with each constructor bound as the last of the bindings says. -/
def rebound (bindings : List Binding) : Workspace where
  draft
    | .constructor, index =>
      match lastBinding? bindings ⟨index⟩ with
      | some binding =>
        Constructor.bound (workspace.draft .constructor index) binding.name binding.isStatic
      | none => workspace.draft .constructor index
    | kind, index => workspace.draft kind index
  next := workspace.next

theorem rebound_nil : workspace.rebound [] = workspace := by
  refine ext rfl fun kind ref => ?_
  cases kind <;> rfl

/-- Only constructors are bound. -/
theorem get_rebound {kind : DraftKind} (hkind : kind ≠ .constructor) (bindings : List Binding)
    (ref : Ref kind) : (workspace.rebound bindings).get ref = workspace.get ref := by
  cases kind with
  | constructor => exact absurd rfl hkind
  | _ => rfl

theorem get_rebound_constructor (bindings : List Binding) (ref : Ref .constructor) :
    (workspace.rebound bindings).get ref
      = match lastBinding? bindings ref with
        | some binding => Constructor.bound (workspace.get ref) binding.name binding.isStatic
        | none => workspace.get ref := rfl

/-- Workspaces that differ by bindings alone agree. -/
theorem agrees_rebound (bindings : List Binding) : workspace.Agrees (workspace.rebound bindings) where
  get_eq ref hkind := workspace.get_rebound hkind bindings ref
  bound_eq ref name isStatic := by
    rw [get_rebound_constructor]
    cases lastBinding? bindings ref <;> rfl

/-- Writing into one more constructor is one more binding. -/
theorem rebound_concat (bindings : List Binding) (binding : Binding) :
    workspace.rebound (bindings ++ [binding])
      = (workspace.rebound bindings).set binding.ref
          (Constructor.bound ((workspace.rebound bindings).get binding.ref)
            binding.name binding.isStatic) := by
  -- the last binding of a reference is the one that shows; it is the new one, or an earlier one of
  -- another reference
  refine ext rfl fun kind ref => ?_
  by_cases hkind : kind = .constructor
  · subst hkind
    by_cases heq : binding.ref = ref
    · subst heq
      rw [get_set_self, (workspace.agrees_rebound bindings).bound_eq, get_rebound_constructor]
      simp [lastBinding?]
    · rw [get_set_ne _ (Ne.symm heq), get_rebound_constructor, get_rebound_constructor]
      simp [lastBinding?, heq]
  · rw [get_set_of_kind_ne _ hkind, workspace.get_rebound hkind, workspace.get_rebound hkind]

end Workspace

/-! ## The logic -/

/-- The program leaves its workspace rebound by the bindings, whatever it was rebound by before. -/
def Binds {α : Type} (workspace : Workspace) (program : Build α) (bindings : List Binding) : Prop :=
  ∀ earlier, (program.run.run (workspace.rebound earlier)).2 = workspace.rebound (earlier ++ bindings)

section

variable {α β : Type} {workspace : Workspace}

theorem binds_pure (value : α) : Binds workspace (pure value) [] := by
  intro earlier
  rw [List.append_nil]
  rfl

theorem binds_check (result : Except Error α) : Binds workspace (Build.check result) [] := by
  intro earlier
  rw [List.append_nil]
  cases result <;> rfl

/-- Before the first program nothing has been bound. -/
theorem Binds.run_snd {program : Build α} {bindings : List Binding}
    (h : Binds workspace program bindings) :
    (program.run.run workspace).2 = workspace.rebound bindings := by
  have hrun := h []
  rwa [workspace.rebound_nil, List.nil_append] at hrun

/-- Reading a draft that no type writes into binds nothing. -/
theorem Binds.read {kind : DraftKind} (hkind : kind ≠ .constructor) (ref : Ref kind)
    {next : Draft kind → Build α} {bindings : List Binding}
    (h : Binds workspace (next (workspace.get ref)) bindings) :
    Binds workspace (Build.draft ref >>= next) bindings := by
  intro earlier
  have hrun : (Build.draft ref >>= next).run.run (workspace.rebound earlier)
      = (next (workspace.get ref)).run.run (workspace.rebound earlier) := by
    rw [run_bind, ← workspace.get_rebound hkind earlier ref]
    rfl
  rw [hrun]
  exact h earlier

/-- **Programs compose.** What the second binds is bound only if the first does not fail, and
whether it does is known from what it yields. -/
theorem Binds.bind {program : Build α} {next : α → Build β} {result : Except Error α}
    {errors : List Error} {first second : List Binding} (hyields : Yields workspace program result)
    (hreports : Reports result errors) (h : Binds workspace program first)
    (hnext : ∀ value, result = .ok value → Binds workspace (next value) second) :
    Binds workspace (program >>= next) (first ++ if errors = [] then second else []) := by
  intro earlier
  have hresult := (hyields _ (workspace.agrees_rebound earlier)).1
  have hafter := h earlier
  rw [run_bind]
  cases hrun : program.run.run (workspace.rebound earlier) with
  | mk outcome after =>
    rw [hrun] at hresult hafter
    subst hresult hafter
    -- what the first program reports tells whether the second is run at all
    cases hreports with
    | value value =>
      rw [if_pos rfl, ← List.append_assoc]
      exact hnext value rfl (earlier ++ first)
    | first error rest => rw [if_neg (List.cons_ne_nil error rest), List.append_nil]

/-- After a program that binds nothing, all bindings are those of the second. -/
theorem Binds.after {program : Build α} {next : α → Build β} {result : Except Error α}
    {errors : List Error} {bindings : List Binding} (hyields : Yields workspace program result)
    (hreports : Reports result errors) (h : Binds workspace program [])
    (hnext : ∀ value, result = .ok value → Binds workspace (next value) bindings) :
    Binds workspace (program >>= next) (if errors = [] then bindings else []) :=
  Binds.bind hyields hreports h hnext

/-- Before a program that binds nothing, all bindings are those of the first. -/
theorem Binds.before {program : Build α} {next : α → Build β} {bindings : List Binding}
    (h : Binds workspace program bindings) (hnext : ∀ value, Binds workspace (next value) []) :
    Binds workspace (program >>= next) bindings := by
  intro earlier
  -- what is bound goes behind what was bound earlier, whether the program fails or not
  have hafter := h earlier
  rw [run_bind]
  cases hrun : program.run.run (workspace.rebound earlier) with
  | mk outcome after =>
    rw [hrun] at hafter
    subst hafter
    cases outcome with
    | ok value =>
      have hlast := hnext value (earlier ++ bindings)
      rwa [List.append_nil] at hlast
    | error error => rfl

/-- One program after the other: the first that fails has bound before it fails. Induction along
the items. -/
theorem Binds.mapM {items : List α} {program : α → Build β} {result : α → Except Error β}
    {errors : α → List Error} {bindings : α → List Binding}
    (hyields : ∀ item, Yields workspace (program item) (result item))
    (hreports : ∀ item, Reports (result item) (errors item))
    (h : ∀ item, Binds workspace (program item) (bindings item)) :
    Binds workspace (items.mapM program)
      ((upToFirst (fun item => errors item != []) items).flatMap bindings) := by
  induction items with
  | nil => exact binds_pure []
  | cons item rest ih =>
    rw [List.mapM_cons]
    have hrest (value : β) : Binds workspace (do return value :: (← rest.mapM program)) _ :=
      ih.before fun values => binds_pure (value :: values)
    have hbinds := Binds.bind (hyields item) (hreports item) (h item) fun value _ => hrest value
    -- an item that reports nothing is followed by the rest, any other is the last that is reached
    unfold upToFirst
    cases herrors : errors item with
    | nil => simpa [herrors] using hbinds
    | cons error others => simpa [herrors] using hbinds

/-- Programs that bind nothing bind nothing one after the other. -/
theorem binds_nil_mapM {items : List α} {program : α → Build β}
    (h : ∀ item, Binds workspace (program item) []) : Binds workspace (items.mapM program) [] := by
  induction items with
  | nil => exact binds_pure []
  | cons item rest ih =>
    rw [List.mapM_cons]
    exact (h item).before fun value => ih.before fun values => binds_pure _

end

/-! ## Each kind of draft -/

section

variable {workspace : Workspace}

/-- Fields, properties and members of enumerations are built without binding anything. -/
theorem binds_field (ref : Ref .field) : Binds workspace (Build.field ref) [] :=
  Binds.read (by decide) ref (binds_check _)

theorem binds_property (ref : Ref .property) : Binds workspace (Build.property ref) [] :=
  Binds.read (by decide) ref (binds_check _)

theorem binds_enumMember (ref : Ref .enumMember) : Binds workspace (Build.enumMember ref) [] :=
  Binds.read (by decide) ref (binds_check _)

/-- A constructor that is built on its own is not bound. -/
theorem binds_constructor (ref : Ref .constructor) : Binds workspace (Build.constructor ref) [] := by
  intro earlier
  rw [List.append_nil]
  exact congrArg Prod.snd (run_constructor ref _)

/-- A type binds a constructor whether that can be built or not. -/
theorem binds_boundConstructor (name : Option String) (isStatic : Bool) (ref : Ref .constructor) :
    Binds workspace (Build.boundConstructor name isStatic ref) [{ ref, name, isStatic }] := by
  intro earlier
  rw [run_boundConstructor, workspace.rebound_concat]

/-- The constructors of a type with a name. -/
theorem binds_boundConstructors {name : Option String} (hname : Text.isMissing name = false)
    (isStatic : Bool) (refs : List (Ref .constructor)) :
    Binds workspace (refs.mapM (Build.boundConstructor name isStatic))
      (workspace.constructorBindings name isStatic refs) := by
  unfold Workspace.constructorBindings
  rw [List.map_eq_flatMap]
  exact Binds.mapM (fun ref => yields_boundConstructor name isStatic ref)
    (fun ref => reports_boundConstructor hname isStatic workspace ref)
    (fun ref => binds_boundConstructor name isStatic ref)

/-- Nor does an enumeration hold anything that could be bound. -/
theorem binds_enumeration (ref : Ref .enumeration) :
    Binds workspace (Build.enumeration ref) [] := by
  refine Binds.read (by decide) ref ?_
  refine (binds_check _).before fun _ => ?_
  exact (binds_nil_mapM binds_enumMember).before fun members => binds_check _

theorem binds_interface (ref : Ref .interface) : Binds workspace (Build.interface ref) [] := by
  refine Binds.read (by decide) ref ?_
  refine (binds_check _).before fun _ => ?_
  exact (binds_nil_mapM binds_property).before fun properties => binds_pure _

/-- What a type binds once its own check is through. -/
theorem binds_members {α : Type} {name : Option String} (hname : Text.isMissing name = false)
    (isStatic : Bool) (fields : List (Ref .field)) (properties : List (Ref .property))
    (constructors : List (Ref .constructor))
    (next : List Field → List Property → List Constructor → α) :
    Binds workspace
      (do
        let fields ← fields.mapM Build.field
        let properties ← properties.mapM Build.property
        let constructors ← constructors.mapM (Build.boundConstructor name isStatic)
        return next fields properties constructors)
      (workspace.memberBindings name isStatic fields properties constructors) := by
  -- fields and properties bind nothing themselves, but constructors are reached only if all of them
  -- pass: hence the two conditions, which are joined at the end
  have hread : Binds workspace (properties.mapM Build.property) [] := binds_nil_mapM binds_property
  have hproperties (built : List Field) := Binds.after
    (Yields.mapM_unfold properties yields_property) (workspace.reports_properties properties)
    hread fun checked _ =>
      (binds_boundConstructors hname isStatic constructors).before fun last =>
        binds_pure (next built checked last)
  have hfields := Binds.after (Yields.mapM_unfold fields yields_field)
    (workspace.reports_fields fields) (binds_nil_mapM binds_field) fun built _ => hproperties built
  rwa [← ite_and] at hfields

/-- **A class binds its constructors** once its name and its own checks, its fields and its
properties have passed. -/
theorem binds_class (ref : Ref .class) :
    Binds workspace (Build.class ref) (workspace.classBindings ref) := by
  refine Binds.read (by decide) ref ?_
  refine Binds.after (yields_check _) (workspace.reports_ownClass ref) (binds_check _) ?_
  intro _ hown
  -- among what has been checked is the name, so the constructors are bound to a proper one
  obtain ⟨⟨⟩, hname, -⟩ := bind_eq_ok_iff.mp hown
  exact binds_members (isMissing_of_checkSetting hname) _ _ _ _ _

/-- **A struct** binds them under its name alone, and never as static. -/
theorem binds_struct (ref : Ref .struct) :
    Binds workspace (Build.struct ref) (workspace.structBindings ref) := by
  refine Binds.read (by decide) ref ?_
  refine Binds.after (yields_check _) (reports_checkSetting _ _ _) (binds_check _) ?_
  intro _ hname
  exact binds_members (isMissing_of_checkSetting hname) _ _ _ _ _

/-- **A namespace** binds those of its classes first, and those of its structs if all classes have
passed. Interfaces and enumerations bind none. -/
theorem binds_namespace (ref : Ref .namespace) :
    Binds workspace (Build.namespace ref) (workspace.namespaceBindings ref) := by
  refine Binds.read (by decide) ref ?_
  refine Binds.after (yields_check _) (reports_checkSetting _ _ _) (binds_check _) ?_
  intro _ _
  refine Binds.bind (Yields.mapM_unfold _ yields_class)
    (Workspace.reports_attached _ workspace.reports_class)
    (Binds.mapM yields_class workspace.reports_class binds_class) ?_
  intro classes _
  refine Binds.before (Binds.mapM yields_struct workspace.reports_struct binds_struct) ?_
  intro structs
  refine (binds_nil_mapM binds_interface).before fun interfaces => ?_
  exact (binds_nil_mapM binds_enumeration).before fun enums => binds_pure _

/-- **Building a draft of any kind** leaves its bindings behind, and nothing else. -/
theorem binds_any {kind : DraftKind} (ref : Ref kind) :
    Binds workspace (Build.any kind ref) (workspace.bindings kind ref) := by
  cases kind with
  | field => exact binds_field ref
  | property => exact binds_property ref
  | constructor => exact binds_constructor ref
  | enumMember => exact binds_enumMember ref
  | enumeration => exact binds_enumeration ref
  | «class» => exact binds_class ref
  | struct => exact binds_struct ref
  | interface => exact binds_interface ref
  | «namespace» => exact binds_namespace ref

end

/-- **Building writes bindings and nothing else**, whether it succeeds or fails: each constructor
that it reaches is bound as the last type that reaches it says, and all else is as before. -/
theorem Workspace.build_rebinds (workspace : Workspace) {kind : DraftKind} (ref : Ref kind) :
    (workspace.build ref).2 = workspace.rebound (workspace.bindings kind ref) := by
  have hbinds : Binds workspace (Build.any kind ref) (workspace.bindings kind ref) := binds_any ref
  exact hbinds.run_snd

end Scaffold
