import Scaffold.Proofs.Draft.Locality

/-!
# Adding several things at once

What calls add to one at a time they also add to several at a time. The two agree, except that a
call that is given several checks all of them before it adds any:

* **`Adder`**: what calls add to, with the call that adds one element and the call that adds
  several.
* **`Adder.call_several`**: the elements are added in order, or none is if one is missing. How they
  are handed over makes no difference (`Adder.several_sequence`).
* **`Workspace.attemptAll_one`**: what is left by calls that add one element each.
* **`Workspace.call_parameters_eq_attemptAll`**: parameters, in contrast, are added by the calls
  that add one each, up to the first that fails.
-/

namespace Scaffold

/-! ## Adders -/

/-- A list of a draft that calls add to, whose elements are attached drafts or names. -/
inductive Adder : DraftKind → Type → Type where
  | attached {kind child : DraftKind} (attachment : Attachment kind child) : Adder kind (Ref child)
  | usings : Adder .namespace String

namespace Adder

variable {kind : DraftKind} {α : Type}

/-- The call that adds one element. -/
def one : Adder kind α → Option α → Call kind
  | .attached .classField, ref? => ClassCall.field ref?
  | .attached .classProperty, ref? => ClassCall.property ref?
  | .attached .classConstructor, ref? => ClassCall.constructor ref?
  | .attached .structField, ref? => StructCall.field ref?
  | .attached .structProperty, ref? => StructCall.property ref?
  | .attached .structConstructor, ref? => StructCall.constructor ref?
  | .attached .interfaceProperty, ref? => InterfaceCall.property ref?
  | .attached .enumerationMember, ref? => EnumerationCall.member ref?
  | .attached .namespaceClass, ref? => NamespaceCall.class ref?
  | .attached .namespaceStruct, ref? => NamespaceCall.struct ref?
  | .attached .namespaceInterface, ref? => NamespaceCall.interface ref?
  | .attached .namespaceEnumeration, ref? => NamespaceCall.enum ref?
  | .usings, name? => NamespaceCall.usingName name?

/-- The call that adds several. -/
def several : Adder kind α → List (Given α) → Call kind
  | .attached .classField, given => ClassCall.fields given
  | .attached .classProperty, given => ClassCall.properties given
  | .attached .classConstructor, given => ClassCall.constructors given
  | .attached .structField, given => StructCall.fields given
  | .attached .structProperty, given => StructCall.properties given
  | .attached .structConstructor, given => StructCall.constructors given
  | .attached .interfaceProperty, given => InterfaceCall.properties given
  | .attached .enumerationMember, given => EnumerationCall.members given
  | .attached .namespaceClass, given => NamespaceCall.classes given
  | .attached .namespaceStruct, given => NamespaceCall.structs given
  | .attached .namespaceInterface, given => NamespaceCall.interfaces given
  | .attached .namespaceEnumeration, given => NamespaceCall.enums given
  | .usings, given => NamespaceCall.usingNames given

/-- What the elements of a call that adds several are called. -/
def argument : Adder kind α → String
  | .attached _ => "builders"
  | .usings => "usings"

/-- What has been added. -/
def elements : Adder kind α → Draft kind → List α
  | .attached attachment, draft => Draft.attached attachment draft
  | .usings, draft => Namespace.usings (NamespaceDraft.held draft)

/-- The draft with other elements. -/
def replace : Adder kind α → Draft kind → List α → Draft kind
  | .attached attachment, draft, refs => Draft.setAttached attachment draft refs
  | .usings, draft, names =>
    { (draft : NamespaceDraft) with
      held := { NamespaceDraft.held draft with usings := names } }

/-- The elements with one more. A name is not added again. -/
def extend : Adder kind α → List α → α → List α
  | .attached _, refs, ref => refs ++ [ref]
  | .usings, names, name => addNew names name

variable (adder : Adder kind α) (draft : Draft kind)

theorem elements_replace (values : List α) :
    adder.elements (adder.replace draft values) = values := by
  cases adder with
  | attached attachment => exact Draft.attached_setAttached_self attachment draft values
  | usings => rfl

/-- Putting back what has been added changes nothing. -/
theorem replace_elements : adder.replace draft (adder.elements draft) = draft := by
  cases adder with
  | attached attachment => exact Draft.write_read draft (.attached attachment)
  | usings => rfl

theorem replace_replace (values later : List α) :
    adder.replace (adder.replace draft values) later = adder.replace draft later := by
  cases adder with
  | attached attachment => cases attachment <;> rfl
  | usings => rfl

/-! ## Adding -/

/-- An element that is not missing is added, and the call does not fail. -/
theorem apply_one (value : α) :
    Call.apply kind draft (adder.one (some value))
      = (adder.replace draft (adder.extend (adder.elements draft) value), none) := by
  cases adder with
  | attached attachment => cases attachment <;> rfl
  | usings => rfl

/-- **All elements are added, in order, or none is.** -/
theorem apply_several (given : List (Given α)) :
    Call.apply kind draft (adder.several given)
      = match requireAll adder.argument given with
        | .ok values =>
          (adder.replace draft (values.foldl adder.extend (adder.elements draft)), none)
        | .error error => (draft, some (.error error)) := by
  cases adder with
  | attached attachment =>
    -- all twelve calls that attach drafts are one edit, so they are dealt with at once
    have hedit : Call.apply kind draft ((Adder.attached attachment).several given)
        = (Edit.attachAll given).applyTo draft (.attached attachment) := by
      rw [Call.apply_eq_edit]
      cases attachment <;> rfl
    rw [hedit]
    unfold Edit.applyTo Edit.attachAll attachAll argument
    cases requireAll "builders" given with
    | error error => exact congrArg (·, _) (Draft.write_read draft (.attached attachment))
    | ok values =>
      -- extending by one draft after the other appends them all
      have happend : values.foldl (Adder.attached attachment).extend
          (Draft.attached attachment draft) = Draft.attached attachment draft ++ values :=
        List.foldl_append_eq_append.trans (congrArg _ (List.flatMap_singleton' values))
      show (Draft.setAttached attachment draft _, _)
        = (Draft.setAttached attachment draft (values.foldl (Adder.attached attachment).extend
            (Draft.attached attachment draft)), _)
      rw [happend]
      rfl
  | usings =>
    show atomically draft ((NamespaceCall.apply draft (.usingNames given)).mapError .error) = _
    simp only [NamespaceCall.apply, argument]
    cases requireAll "usings" given <;> rfl

/-! ## Elements that may be missing -/

/-- **Elements are handed over separately or in one sequence**, with the same outcome. -/
theorem several_sequence (elements : List (Option α)) :
    Call.apply kind draft (adder.several [.sequence elements])
      = Call.apply kind draft (adder.several (elements.map Given.ofOption)) := by
  have hsame : (elements.map Given.ofOption).flatMap Given.elements
      = [Given.sequence elements].flatMap Given.elements := by
    rw [List.flatMap_map, List.flatMap_singleton]
    simp only [Given.elements_ofOption]
    exact List.flatMap_singleton' elements
  rw [apply_several, apply_several]
  unfold requireAll
  rw [hsame]

theorem requireAll_map_some (name : String) (values : List α) :
    requireAll name [.sequence (values.map some)] = .ok values := by
  simp [requireAll, Given.elements]

theorem map_some_filterMap {elements : List (Option α)} (h : none ∉ elements) :
    (elements.filterMap id).map some = elements := by
  rw [List.map_filterMap_some_eq_filter_map_isSome, List.map_id, List.filter_eq_self]
  intro element? hmem
  exact Option.isSome_iff_ne_none.mpr (ne_of_mem_of_not_mem hmem h)

/-- A missing element is reported, wherever it stands. -/
theorem requireAll_of_mem {name : String} {elements : List (Option α)} (h : none ∈ elements) :
    requireAll name [.sequence elements] = .error (.missingElement name) := by
  have hany : elements.any Option.isNone = true := List.any_eq_true.mpr ⟨none, h, rfl⟩
  simp [requireAll, Given.elements, hany]

end Adder

/-! ## Runs of calls that add one element each -/

namespace Workspace

variable {kind : DraftKind}

/-- The workspace after calls on a draft, up to the first that fails or cannot be made at all, and
why that is. -/
def attemptAll (workspace : Workspace) (ref : Ref kind) :
    List (Except Failure (Call kind)) → Workspace × Option Failure
  | [] => (workspace, none)
  | .error failure :: _ => (workspace, some failure)
  | .ok call :: rest =>
    match workspace.call ref call with
    | (after, none) => after.attemptAll ref rest
    | (after, some failure) => (after, some failure)

/-- **One after the other, elements are added in order.** Induction along the elements. -/
theorem attemptAll_one {α : Type} (workspace : Workspace) (ref : Ref kind) (adder : Adder kind α)
    (values : List α) :
    workspace.attemptAll ref (values.map fun value => .ok (adder.one (some value)))
      = (workspace.set ref (adder.replace (workspace.get ref)
          (values.foldl adder.extend (adder.elements (workspace.get ref)))), none) := by
  induction values generalizing workspace with
  | nil =>
    rw [List.foldl_nil, Adder.replace_elements, set_get_self]
    rfl
  | cons value rest ih =>
    have hcall : workspace.call ref (adder.one (some value))
        = (workspace.set ref (adder.replace (workspace.get ref)
            (adder.extend (adder.elements (workspace.get ref)) value)), none) := by
      unfold call
      rw [Adder.apply_one]
    rw [List.map_cons, attemptAll, hcall]
    show attemptAll _ ref _ = _
    -- the draft that the rest starts from is the one just stored
    rw [ih, get_set_self, set_set, Adder.elements_replace, Adder.replace_replace, List.foldl_cons]

end Workspace

/-! ## Parameters -/

namespace Constructor

/-- The call that adds the parameter that a sequence describes. -/
def attempt (sequence : Raw) : Except Failure (Call .constructor) :=
  (sequenceArguments sequence).map ConstructorCall.parameter

/-- The parameters before the first that is refused are kept. Induction along them. -/
theorem kept_append_of_error {earlier later : List Raw} {sequence : Raw}
    {parameters : List Parameter} {failure : Failure}
    (hearlier : earlier.map readSequence = parameters.map .ok)
    (h : readSequence sequence = .error failure) :
    keptParameters (earlier ++ sequence :: later) = parameters
      ∧ firstRefusal? (earlier ++ sequence :: later) = some failure := by
  induction earlier generalizing parameters with
  | nil =>
    obtain rfl : parameters = [] := List.map_eq_nil_iff.mp hearlier.symm
    exact kept_cons_of_error h later
  | cons first rest ih =>
    -- as many parameters as sequences before the failing one
    obtain _ | ⟨parameter, others⟩ := parameters
    · cases hearlier
    · obtain ⟨hfirst, hrest⟩ := List.cons.inj hearlier
      obtain ⟨hkept, hrefusal⟩ := kept_cons_of_ok hfirst (rest ++ sequence :: later)
      obtain ⟨hothers, hfailure⟩ := ih hrest
      rw [List.cons_append, hkept, hrefusal, hothers]
      exact ⟨rfl, hfailure⟩

end Constructor

namespace Workspace

variable (workspace : Workspace) (ref : Ref .constructor)

/-- A parameter is added, or the run ends. -/
theorem attemptAll_attempt (sequence : Raw) (rest : List (Except Failure (Call .constructor))) :
    workspace.attemptAll ref (Constructor.attempt sequence :: rest)
      = match Constructor.readSequence sequence with
        | .ok parameter =>
          (workspace.set ref { (workspace.get ref : Constructor) with
            parameters := Constructor.parameters (workspace.get ref) ++ [parameter] }).attemptAll
              ref rest
        | .error failure => (workspace, some failure) := by
  unfold Constructor.attempt Constructor.readSequence
  cases Constructor.sequenceArguments sequence with
  | error failure => rfl
  | ok arguments =>
    show attemptAll workspace ref (.ok (ConstructorCall.parameter arguments) :: rest)
      = match Constructor.parameterOf arguments with
        | .ok parameter => _
        | .error failure => _
    -- the single call fails just if its arguments describe no parameter, and then leaves all as it
    -- was
    have hcall : workspace.call ref (ConstructorCall.parameter arguments)
        = match Constructor.parameterOf arguments with
          | .ok parameter => (workspace.set ref { (workspace.get ref : Constructor) with
              parameters := Constructor.parameters (workspace.get ref) ++ [parameter] }, none)
          | .error failure => (workspace, some failure) := by
      show (workspace.set ref (atomically _ (Constructor.addParameter _ arguments)).1,
        (atomically _ (Constructor.addParameter _ arguments)).2) = _
      unfold Constructor.addParameter
      cases Constructor.parameterOf arguments with
      | error failure => exact congrArg (·, some failure) (workspace.set_get_self ref)
      | ok parameter => rfl
    rw [attemptAll, hcall]
    cases Constructor.parameterOf arguments <;> rfl

/-- **Parameters that are handed over together are added by one call each**, up to the first that
fails. Induction along the sequences. -/
theorem call_parameters_eq_attemptAll (sequences : List Raw) :
    workspace.call ref (ConstructorCall.parameters sequences)
      = workspace.attemptAll ref (sequences.map Constructor.attempt) := by
  induction sequences generalizing workspace with
  | nil => exact congrArg (·, none) (workspace.set_get_self ref)
  | cons sequence rest ih =>
    rw [List.map_cons, attemptAll_attempt, call_parameters]
    cases hsequence : Constructor.readSequence sequence with
    | error failure =>
      obtain ⟨hkept, hrefusal⟩ := Constructor.kept_cons_of_error hsequence rest
      rw [hkept, hrefusal, List.append_nil]
      exact congrArg (·, some failure) (workspace.set_get_self ref)
    | ok parameter =>
      obtain ⟨hkept, hrefusal⟩ := Constructor.kept_cons_of_ok hsequence rest
      show _ = attemptAll _ ref _
      -- what the rest adds goes behind the parameter just added
      rw [← ih, call_parameters, get_set_self, set_set, hkept, hrefusal, List.append_cons]

end Workspace

/-! ## What adding several things comes to -/

namespace Workspace

section Several

variable (workspace : Workspace) {kind : DraftKind} {α : Type} (adder : Adder kind α)
variable (ref : Ref kind) {elements : List (Option α)}

/-- How the elements are handed over makes no difference to a call. -/
theorem call_several_sequence (elements : List (Option α)) :
    workspace.call ref (adder.several (elements.map Given.ofOption))
      = workspace.call ref (adder.several [.sequence elements]) := by
  unfold call
  rw [Adder.several_sequence]

/-- **If no element is missing**, the outcome is that of one call for each, and no call fails. -/
theorem call_several_of_given (h : none ∉ elements) :
    workspace.call ref (adder.several [.sequence elements])
        = workspace.attemptAll ref (elements.map fun element? => .ok (adder.one element?))
      ∧ (workspace.call ref (adder.several [.sequence elements])).2 = none := by
  obtain ⟨values, rfl⟩ : ∃ values : List α, elements = values.map some :=
    ⟨_, (Adder.map_some_filterMap h).symm⟩
  have hcall : workspace.call ref (adder.several [.sequence (values.map some)])
      = (workspace.set ref (adder.replace (workspace.get ref)
          (values.foldl adder.extend (adder.elements (workspace.get ref)))), none) := by
    unfold call
    rw [Adder.apply_several, Adder.requireAll_map_some]
  rw [hcall, List.map_map]
  exact ⟨(workspace.attemptAll_one ref adder values).symm, rfl⟩

/-- **If an element is missing**, nothing is added. -/
theorem call_several_of_missing (h : none ∈ elements) :
    workspace.call ref (adder.several [.sequence elements])
      = (workspace, some (.error (.missingElement adder.argument))) := by
  unfold call
  rw [Adder.apply_several, Adder.requireAll_of_mem h]
  exact congrArg (·, _) (workspace.set_get_self ref)

end Several

/-- **Parameters before the first refusal are kept**, and it is the failure of the call. -/
theorem call_parameters_of_refusal (workspace : Workspace) (ref : Ref .constructor)
    {earlier : List Raw} (later : List Raw) {sequence : Raw} {parameters : List Parameter}
    {failure : Failure} (hearlier : earlier.map Constructor.readSequence = parameters.map .ok)
    (h : Constructor.readSequence sequence = .error failure) :
    workspace.call ref (ConstructorCall.parameters (earlier ++ sequence :: later))
      = (workspace.set ref { (workspace.get ref : Constructor) with
          parameters := Constructor.parameters (workspace.get ref) ++ parameters },
        some failure) := by
  obtain ⟨hkept, hrefusal⟩ := Constructor.kept_append_of_error hearlier h
  rw [call_parameters, hkept, hrefusal]

/-- What calls that are given several things do to a workspace. -/
structure AddsSeveral (workspace : Workspace) : Prop where
  /-- Elements are handed over separately or in one sequence. -/
  handed_over : ∀ {kind : DraftKind} {α : Type} (adder : Adder kind α) (ref : Ref kind)
      (elements : List (Option α)),
    workspace.call ref (adder.several (elements.map Given.ofOption))
      = workspace.call ref (adder.several [.sequence elements])
  /-- If none is missing, the outcome is that of one call for each, in order. -/
  none_missing : ∀ {kind : DraftKind} {α : Type} (adder : Adder kind α) (ref : Ref kind)
      (elements : List (Option α)), none ∉ elements →
    workspace.call ref (adder.several [.sequence elements])
        = workspace.attemptAll ref (elements.map fun element? => .ok (adder.one element?))
      ∧ (workspace.call ref (adder.several [.sequence elements])).2 = none
  /-- If one is missing, nothing is added. -/
  one_missing : ∀ {kind : DraftKind} {α : Type} (adder : Adder kind α) (ref : Ref kind)
      (elements : List (Option α)), none ∈ elements →
    workspace.call ref (adder.several [.sequence elements])
        = (workspace, some (.error (.missingElement adder.argument)))
      ∧ (Error.missingElement adder.argument).label = "InvalidArgumentError"
  /-- Parameters are added by one call each, up to the first that fails. -/
  parameters : ∀ (ref : Ref .constructor) (sequences : List Raw),
    workspace.call ref (ConstructorCall.parameters sequences)
      = workspace.attemptAll ref (sequences.map Constructor.attempt)
  /-- The parameters before one that is refused are kept, and the call fails as that one does. -/
  parameter_refused : ∀ (ref : Ref .constructor) (earlier later : List Raw) (sequence : Raw)
      (parameters : List Parameter) (failure : Failure),
    earlier.map Constructor.readSequence = parameters.map .ok →
    Constructor.readSequence sequence = .error failure →
      workspace.call ref (ConstructorCall.parameters (earlier ++ sequence :: later))
        = (workspace.set ref { (workspace.get ref : Constructor) with
            parameters := Constructor.parameters (workspace.get ref) ++ parameters },
          some failure)
  /-- So it is with one that is missing. -/
  parameter_missing : ∀ (ref : Ref .constructor) (earlier later : List Raw)
      (parameters : List Parameter),
    earlier.map Constructor.readSequence = parameters.map .ok →
      workspace.call ref (ConstructorCall.parameters (earlier ++ .null :: later))
          = (workspace.set ref { (workspace.get ref : Constructor) with
              parameters := Constructor.parameters (workspace.get ref) ++ parameters },
            some (.error (.missingValue "parameters")))
        ∧ Constructor.readSequence .null = .error (.error (.missingValue "parameters"))
        ∧ (Error.missingValue "parameters").label = "InvalidArgumentError"

/-- **Adding several elements agrees with adding them one by one**, whatever the elements are and
whatever has been added before. They are handed over separately or in one sequence. If none is
missing, the outcome is that of one call for each, in order; if one is missing, nothing is added.
Parameters are added by one call each, up to the first that fails: those before it are kept. -/
theorem several_agrees_with_one (workspace : Workspace) : workspace.AddsSeveral where
  handed_over adder ref elements := workspace.call_several_sequence adder ref elements
  none_missing adder ref _ hgiven := workspace.call_several_of_given adder ref hgiven
  one_missing adder ref _ hmissing :=
    ⟨workspace.call_several_of_missing adder ref hmissing, Error.label_missingElement _⟩
  parameters := workspace.call_parameters_eq_attemptAll
  parameter_refused ref _ later _ _ _ hearlier hfails :=
    workspace.call_parameters_of_refusal ref later hearlier hfails
  parameter_missing ref _ later _ hearlier :=
    ⟨workspace.call_parameters_of_refusal ref later hearlier Constructor.readSequence_null,
      Constructor.readSequence_null, Error.label_missingValue _⟩

/-- Names for a namespace, one of them twice, and parameters, of which the second is missing. -/
theorem several_with_gaps :
    let ref : Ref .namespace := ⟨0⟩
    let names := [some "System", some "System.Linq", some "System"]
    let outcome := empty.call ref (NamespaceCall.usingNames [.sequence names])
    let sequence := Raw.array [.text "int", .text "count"]
    let parameter : Parameter := { type := "int", name := "count" }
    none ∉ names
      ∧ outcome = empty.attemptAll ref
          (names.map fun name? => .ok (NamespaceCall.usingName name?))
      ∧ Namespace.usings (NamespaceDraft.held (outcome.1.get ref)) = ["System", "System.Linq"]
      ∧ none ∈ names ++ [none]
      ∧ empty.call ref (NamespaceCall.usingNames [.sequence (names ++ [none])])
        = (empty, some (.error (.missingElement "usings")))
      ∧ Constructor.readSequence sequence = .ok parameter
      ∧ Constructor.readSequence .null = .error (.error (.missingValue "parameters"))
      ∧ @call empty .constructor ⟨0⟩ (.parameters [sequence, .null, sequence])
        = (@set empty .constructor ⟨0⟩ ({ parameters := [parameter] } : Constructor),
          some (.error (.missingValue "parameters"))) := by
  intro ref names outcome sequence parameter
  have hempty := several_agrees_with_one empty
  have hgiven : none ∉ names := by decide
  have hnone : none ∈ names ++ [none] := by decide
  have hread : Constructor.readSequence sequence = .ok parameter := rfl
  have hearlier : [sequence].map Constructor.readSequence = [parameter].map .ok := by
    rw [List.map_singleton, hread, List.map_singleton]
  obtain ⟨hstops, hmissing, -⟩ :=
    hempty.parameter_missing ⟨0⟩ [sequence] [sequence] [parameter] hearlier
  exact ⟨hgiven, (hempty.none_missing .usings ref names hgiven).1, rfl, hnone,
    (hempty.one_missing .usings ref (names ++ [none]) hnone).1, hread, hmissing, hstops⟩

end Workspace

end Scaffold
