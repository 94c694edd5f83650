import Scaffold.Draft.Create
import Scaffold.Proofs.Draft.Binding
import Scaffold.Proofs.Draft.Locality

/-!
# What a run leaves in a place

A run creates drafts, configures them, and builds or asks for them in between. What calls replace
is known afterwards without looking at the drafts on the way: it is what was written last, and what
was there before if nothing was.

* **`Place.Accumulates`**: what calls add to. What they replace is every other place.
* **`Action.written`**: what an action writes into a place, read off the action alone. A call that
  fails writes nothing; a draft that is created has what it is created with written into it.
* **`Workspace.read_afterAll`**: what a run leaves in a place.
* **`configuring_is_local`**: how calls fail, what they leave alone, and what runs of them lead to,
  law by law (`Workspace.ConfiguresLocally`).
-/

namespace Scaffold

/-! ## Places -/

/-- Calls add to what the place holds. -/
inductive Place.Accumulates : {kind : DraftKind} → Place kind → Prop where
  | attached {kind child : DraftKind} (attachment : Attachment kind child) :
    Accumulates (.attached attachment)
  | parameters : @Accumulates .constructor (.held ConstructorSlot.parameters)
  | classInterfaces : @Accumulates .class (.held ClassSlot.implementedInterfaces)
  | structInterfaces : @Accumulates .struct (.held StructSlot.implementedInterfaces)
  | interfaceInterfaces : @Accumulates .interface (.held InterfaceSlot.implementedInterfaces)
  | usings : @Accumulates .namespace (.held NamespaceSlot.usings)

/-- Types write into the place when they are built. -/
inductive Place.IsBound : {kind : DraftKind} → Place kind → Prop where
  | className : @IsBound .constructor (.held ConstructorSlot.className)
  | isStatic : @IsBound .constructor (.held ConstructorSlot.isStatic)

/-! ## What calls write -/

/-- What a place holds after an edit, if that does not depend on what it held before. -/
def Edit.written? {α : Type} : Edit α → Option α
  | .replace (.ok content) => some content
  | _ => none

/-- What a call writes into a place: nothing, if it fails or addresses another place. -/
def Call.written? (kind : DraftKind) (call : Call kind) (place : Place kind) :
    Option place.Content :=
  if h : Call.place kind call = place then h ▸ (Call.edit kind call).written? else none

/-- What a call does not add to it replaces. -/
theorem Call.exists_replace {kind : DraftKind} {call : Call kind}
    (h : ¬ (Call.place kind call).Accumulates) :
    ∃ content, Call.edit kind call = .replace content := by
  -- every call either is a replacement or addresses one of the places that accumulate
  cases kind with
  | field | property | enumMember => cases call <;> exact ⟨_, rfl⟩
  | constructor =>
    cases call with
    | access | summary | baseCall => exact ⟨_, rfl⟩
    | parameter | parameters => exact absurd .parameters h
  | enumeration =>
    cases call with
    | access | name | summary | flags => exact ⟨_, rfl⟩
    | member | members => exact absurd (.attached _) h
  | «class» =>
    cases call with
    | access | name | summary | static | inheritedClass => exact ⟨_, rfl⟩
    | implementedInterface => exact absurd .classInterfaces h
    | field | fields | property | properties | constructor | constructors =>
      exact absurd (.attached _) h
  | struct =>
    cases call with
    | access | name | summary => exact ⟨_, rfl⟩
    | implementedInterface => exact absurd .structInterfaces h
    | field | fields | property | properties | constructor | constructors =>
      exact absurd (.attached _) h
  | interface =>
    cases call with
    | access | name | summary => exact ⟨_, rfl⟩
    | implementedInterface => exact absurd .interfaceInterfaces h
    | property | properties => exact absurd (.attached _) h
  | «namespace» =>
    cases call with
    | name => exact ⟨_, rfl⟩
    | usingName | usingNames => exact absurd .usings h
    | «class» | classes | struct | structs | interface | interfaces | enum | enums =>
      exact absurd (.attached _) h

/-- A call that replaces what its place holds writes something just if it succeeds. -/
theorem Call.succeeds_iff_written (workspace : Workspace) {kind : DraftKind} (ref : Ref kind)
    {call : Call kind} (h : ¬ (Call.place kind call).Accumulates) :
    (workspace.call ref call).2 = none
      ↔ (Call.written? kind call (Call.place kind call)).isSome := by
  obtain ⟨content, hedit⟩ := Call.exists_replace h
  rw [workspace.call_eq_write]
  unfold Call.written?
  rw [dif_pos rfl, hedit]
  cases content with
  | ok content => exact iff_of_true rfl rfl
  | error failure => exact iff_of_false nofun nofun

/-- Code for an accessor is what is written, and without code a generated accessor is. -/
theorem Call.written?_accessor (expression? : Option String) :
    Call.written? .property (.getter expression?) (.held PropertySlot.getter)
        = some (Accessor.custom expression?)
      ∧ Call.written? .property (.setter expression?) (.held PropertySlot.setter)
        = some (Accessor.custom expression?) :=
  ⟨rfl, rfl⟩

/-- An integer is written as it stands, and nothing else is written as a number. -/
theorem Call.written?_number {raw : Raw} {value : Int} :
    Call.written? .enumMember (.value raw) (.held EnumMemberSlot.value) = some (some value)
      ↔ raw = .integer value := by
  rw [← requireInteger_eq_ok_iff]
  show (Edit.replace (((requireInteger raw).mapError .error).map some)).written? = some (some value)
    ↔ _
  cases requireInteger raw with
  | error error => exact iff_of_false nofun nofun
  | ok other =>
    show some (some other) = some (some value) ↔ Except.ok other = Except.ok value
    simp

namespace Draft

variable {kind : DraftKind} {place : Place kind}

/-- **One call** leaves in a place what it writes there. -/
theorem read_apply (draft : Draft kind) (call : Call kind) (hplace : ¬ place.Accumulates) :
    read (Call.apply kind draft call).1 place
      = (Call.written? kind call place).getD (read draft place) := by
  rw [Call.apply_eq_edit]
  unfold Edit.applyTo Call.written?
  by_cases h : Call.place kind call = place
  · subst h
    obtain ⟨content, hedit⟩ := Call.exists_replace hplace
    rw [dif_pos rfl, hedit]
    -- a call that fails writes back what it has read
    cases content with
    | ok content => exact read_write_self draft _ content
    | error failure => exact read_write_self draft _ _
  · rw [dif_neg h]
    exact read_write_ne (Ne.symm h) draft _

/-- **Some calls** leave in a place what is last written there. Induction along the calls. -/
theorem read_applyAll (draft : Draft kind) (calls : List (Call kind))
    (hplace : ¬ place.Accumulates) (h : (Call.applyAll kind draft calls).2 = none) :
    read (Call.applyAll kind draft calls).1 place
      = (calls.filterMap fun call => Call.written? kind call place).getLastD
          (read draft place) := by
  induction calls generalizing draft with
  | nil => rfl
  | cons call rest ih =>
    have hcall := read_apply draft call hplace
    unfold Call.applyAll at h ⊢
    cases happly : Call.apply kind draft call with
    | mk after failure? =>
      rw [happly] at h hcall
      -- no call fails, so each starts from what the one before it left
      cases failure? with
      | some failure => cases h
      | none =>
        rw [List.filterMap_cons]
        refine (ih after h).trans ?_
        rw [hcall]
        cases Call.written? kind call place with
        | none => rfl
        | some content => exact List.getLastD_cons.symm

end Draft

/-! ## Runs -/

/-- What can be done with a workspace. -/
inductive Action where
  | call (kind : DraftKind) (ref : Ref kind) (call : Call kind)
  | inquire (inquiry : Inquiry)
  | seed (kind : DraftKind) (value : kind.Value)
  | create (kind : DraftKind) (settings : FirstSettings)

namespace Workspace

/-- The workspace after an action. A draft that cannot be created is not stored. -/
def after (workspace : Workspace) : Action → Workspace
  | .call _ ref call => (workspace.call ref call).1
  | .inquire inquiry => workspace.afterInquiry inquiry
  | .seed _ value => (workspace.seed value).2
  | .create kind settings =>
    match workspace.create kind settings with
    | .ok (_, created) => created
    | .error _ => workspace

def afterAll (workspace : Workspace) (actions : List Action) : Workspace :=
  actions.foldl after workspace

end Workspace

/-- A draft can be created with the settings. -/
def FirstSettings.succeed (settings : FirstSettings) (kind : DraftKind) : Bool :=
  (Call.applyAll kind (Draft.fresh kind) (settings.calls kind)).2.isNone

/-- The address is a place of the draft that a reference refers to. -/
def Address.IsOf (address : Address) {kind : DraftKind} (ref : Ref kind) : Prop :=
  kind = address.kind ∧ address.ref.index = ref.index

instance (address : Address) {kind : DraftKind} (ref : Ref kind) : Decidable (address.IsOf ref) :=
  inferInstanceAs (Decidable (_ ∧ _))

/-- A reference refers to the draft of an address, or to another one. -/
theorem Address.exists_eq_or_not_isOf (address : Address) {kind : DraftKind} (ref : Ref kind) :
    (∃ place, address = ⟨kind, ref, place⟩) ∨ ¬ address.IsOf ref := by
  obtain ⟨index⟩ := ref
  obtain ⟨other, ⟨otherIndex⟩, place⟩ := address
  by_cases h : Address.IsOf ⟨other, ⟨otherIndex⟩, place⟩ (⟨index⟩ : Ref kind)
  · obtain ⟨rfl, rfl⟩ := h
    exact .inl ⟨place, rfl⟩
  · exact .inr h

namespace Action

/-- The index of the next reference to be handed out, after an action. -/
def nextAfter (next : Nat) : Action → Nat
  | .call _ _ _ | .inquire _ => next
  | .seed _ _ => next + 1
  | .create kind settings => if settings.succeed kind then next + 1 else next

/-- What an action writes at an address, one after the other. A draft that is created holds what
its value holds, or what a fresh draft holds and then what its first settings are. -/
def written (next : Nat) (address : Address) : Action → List address.Content
  | .call _ ref made =>
    if h : address.IsOf ref then
      (Call.written? address.kind (h.1 ▸ made) address.place).toList
    else []
  | .inquire _ => []
  | .seed kind value =>
    if h : address.IsOf (⟨next⟩ : Ref kind) then
      [Draft.read (Draft.ofValue address.kind (h.1 ▸ value)) address.place]
    else []
  | .create kind settings =>
    if address.IsOf (⟨next⟩ : Ref kind) ∧ settings.succeed kind then
      Draft.read (Draft.fresh address.kind) address.place ::
        (settings.calls address.kind).filterMap fun call =>
          Call.written? address.kind call address.place
    else []

/-- What the actions of a run write at an address. -/
def writtenByAll (next : Nat) (address : Address) : List Action → List address.Content
  | [] => []
  | action :: rest =>
    action.written next address ++ writtenByAll (action.nextAfter next) address rest

end Action

/-! ## What runs leave behind -/

/-- Workspaces that agree differ in no other place than types write into. -/
theorem Workspace.Agrees.read_eq {first second : Workspace} (h : first.Agrees second)
    {address : Address} (hbound : ¬ address.place.IsBound) :
    second.read address = first.read address := by
  obtain ⟨kind, ref, place⟩ := address
  show Draft.read (second.get ref) place = Draft.read (first.get ref) place
  by_cases hkind : kind = .constructor
  · subst hkind
    -- bound to the same type they are equal, and binding leaves the other slots alone
    have hbind := h.bound_eq ref none false
    cases place with
    | attached attachment => cases attachment
    | held slot =>
      cases slot with
      | className => exact absurd .className hbound
      | isStatic => exact absurd .isStatic hbound
      | access => exact (congrArg Constructor.access hbind :)
      | summary => exact (congrArg Constructor.summary hbind :)
      | parameters => exact (congrArg Constructor.parameters hbind :)
      | baseCallArguments => exact (congrArg Constructor.baseCallArguments hbind :)
  · rw [h.get_eq ref hkind]

/-- Building hands out no references. -/
theorem Workspace.next_build (workspace : Workspace) {kind : DraftKind} (ref : Ref kind) :
    (workspace.build ref).2.next = workspace.next := by
  have hbinds : Binds workspace (Build.any kind ref) (workspace.bindings kind ref) := binds_any ref
  exact (congrArg Workspace.next hbinds.run_snd :)

/-- What was written last is looked for at the end first. -/
theorem getLastD_append {α : Type} (first second : List α) (before : α) :
    (first ++ second).getLastD before = second.getLastD (first.getLastD before) := by
  simp [List.getLast?_append, Option.getD_or]

namespace Workspace

variable (workspace : Workspace)

theorem next_afterInquiry (inquiry : Inquiry) :
    (workspace.afterInquiry inquiry).next = workspace.next := by
  cases inquiry with
  | build ref => exact workspace.next_build ref
  | source env formatted ref =>
    show (workspace.source env formatted ref).2.next = workspace.next
    rw [source_snd]
    exact workspace.next_build ref
  | hasMember => rfl

theorem read_set_self {kind : DraftKind} (ref : Ref kind) (draft : Draft kind)
    (place : Place kind) :
    (workspace.set ref draft).read ⟨kind, ref, place⟩ = Draft.read draft place := by
  unfold read
  rw [get_set_self]

/-- Storing a draft changes no place of any other. -/
theorem read_set_of_not_isOf {kind : DraftKind} {ref : Ref kind} {address : Address}
    (h : ¬ address.IsOf ref) (draft : Draft kind) :
    (workspace.set ref draft).read address = workspace.read address := by
  unfold read
  rw [get_set_of_not_same workspace fun hsame => h ⟨hsame.1.symm, hsame.2⟩]

/-- A draft is added when all of its first settings have succeeded, and else nothing is. -/
theorem after_create (kind : DraftKind) (settings : FirstSettings) :
    workspace.after (.create kind settings)
      = if settings.succeed kind then
          (workspace.add (Call.applyAll kind (Draft.fresh kind) (settings.calls kind)).1).2
        else workspace := by
  unfold FirstSettings.succeed
  simp only [after, create]
  cases Call.applyAll kind (Draft.fresh kind) (settings.calls kind) with
  | mk draft failure? => cases failure? <;> rfl

/-- Whether an action hands out a reference can be told without the drafts. -/
theorem next_after (action : Action) :
    (workspace.after action).next = action.nextAfter workspace.next := by
  cases action with
  | call | seed => rfl
  | inquire inquiry => exact workspace.next_afterInquiry inquiry
  | create kind settings =>
    rw [after_create]
    simp only [Action.nextAfter]
    cases settings.succeed kind <;> rfl

/-- A call leaves what it writes, and what was there if it writes nothing. -/
theorem read_after_call {kind : DraftKind} (ref : Ref kind) (call : Call kind) {address : Address}
    (hplace : ¬ address.place.Accumulates) :
    (workspace.call ref call).1.read address
      = ((Action.call kind ref call).written workspace.next address).getLastD
          (workspace.read address) := by
  show (workspace.set ref (Call.apply kind (workspace.get ref) call).1).read address = _
  simp only [Action.written]
  obtain ⟨place, rfl⟩ | h := address.exists_eq_or_not_isOf ref
  · rw [read_set_self, dif_pos ⟨rfl, rfl⟩, Draft.read_apply _ call hplace]
    cases Call.written? kind call place <;> rfl
  · rw [read_set_of_not_isOf workspace h, dif_neg h]
    rfl

/-- A draft that is made from a value holds what the value holds. Every place of it is written. -/
theorem read_after_seed {kind : DraftKind} (value : kind.Value) (address : Address) :
    (workspace.seed value).2.read address
      = ((Action.seed kind value).written workspace.next address).getLastD
          (workspace.read address) := by
  let ref : Ref kind := ⟨workspace.next⟩
  show (workspace.set ref (Draft.ofValue kind value)).read address = _
  simp only [Action.written]
  obtain ⟨place, rfl⟩ | h := address.exists_eq_or_not_isOf ref
  · rw [read_set_self, dif_pos ⟨rfl, rfl⟩]
    rfl
  · rw [read_set_of_not_isOf workspace h, dif_neg h]
    rfl

/-- A draft that is created holds what its first settings are, and what a fresh draft holds where
they say nothing. -/
theorem read_after_create (kind : DraftKind) (settings : FirstSettings) {address : Address}
    (hplace : ¬ address.place.Accumulates) :
    (workspace.after (.create kind settings)).read address
      = ((Action.create kind settings).written workspace.next address).getLastD
          (workspace.read address) := by
  let ref : Ref kind := ⟨workspace.next⟩
  rw [after_create]
  simp only [Action.written]
  by_cases hsucceed : settings.succeed kind = true
  · rw [if_pos hsucceed]
    show (workspace.set ref _).read address = _
    -- the new reference was handed out to no draft before, but an address may name it all the same
    obtain ⟨place, rfl⟩ | h := address.exists_eq_or_not_isOf ref
    · rw [read_set_self, if_pos ⟨⟨rfl, rfl⟩, hsucceed⟩, List.getLastD_cons]
      exact Draft.read_applyAll _ _ hplace (Option.isNone_iff_eq_none.mp hsucceed)
    · rw [read_set_of_not_isOf workspace h, if_neg fun hall => h hall.1]
      rfl
  · rw [if_neg hsucceed, if_neg fun hall => hsucceed hall.2]
    rfl

/-- **One action** leaves in a place what it writes there. -/
theorem read_after (action : Action) {address : Address}
    (hplace : ¬ address.place.Accumulates)
    (hbound : address.place.IsBound → ∀ inquiry, action ≠ .inquire inquiry) :
    (workspace.after action).read address
      = (action.written workspace.next address).getLastD (workspace.read address) := by
  cases action with
  | call kind ref call => exact workspace.read_after_call ref call hplace
  | seed kind value => exact workspace.read_after_seed value address
  | create kind settings => exact workspace.read_after_create kind settings hplace
  | inquire inquiry =>
    have hfree : ¬ address.place.IsBound := fun h => hbound h inquiry rfl
    exact (workspace.agrees_afterInquiry inquiry).read_eq hfree

/-- **A run** leaves in a place what is last written there. Induction along the run. -/
theorem read_afterAll (actions : List Action) {address : Address}
    (hplace : ¬ address.place.Accumulates)
    (hbound : address.place.IsBound → ∀ inquiry, .inquire inquiry ∉ actions) :
    (workspace.afterAll actions).read address
      = (Action.writtenByAll workspace.next address actions).getLastD (workspace.read address) := by
  induction actions generalizing workspace with
  | nil => rfl
  | cons action rest ih =>
    have hrest : address.place.IsBound → ∀ inquiry, Action.inquire inquiry ∉ rest :=
      fun h inquiry hmem => hbound h inquiry (List.mem_cons_of_mem action hmem)
    have hfirst : address.place.IsBound → ∀ inquiry, action ≠ .inquire inquiry := by
      rintro h inquiry rfl
      exact hbound h inquiry List.mem_cons_self
    have hread := workspace.read_after action hplace hfirst
    show ((workspace.after action).afterAll rest).read address = _
    -- what the first action wrote is what is left if the rest writes nothing
    rw [ih (workspace.after action) hrest, next_after, hread]
    exact (getLastD_append _ _ _).symm

/-! ## What configuring comes to -/

/-- What calls do to a workspace, and what runs of them leave behind. -/
structure ConfiguresLocally : Prop where
  /-- A call that fails changes nothing, unless it adds parameters one by one. -/
  atomic : ∀ (kind : DraftKind) (ref : Ref kind) (call : Call kind), ¬ Call.AddsOneByOne kind call →
    (workspace.call ref call).2 ≠ none → (workspace.call ref call).1 = workspace
  /-- Parameters that are added one by one are kept up to the first that is refused. -/
  keeps_parameters : ∀ (ref : Ref .constructor) (sequences : List Raw),
    workspace.call ref (ConstructorCall.parameters sequences)
      = (workspace.set ref { (workspace.get ref : Constructor) with
          parameters := Constructor.parameters (workspace.get ref)
            ++ Constructor.keptParameters sequences },
        Constructor.firstRefusal? sequences)
  /-- A call changes nothing but its address. -/
  confined : ∀ (kind : DraftKind) (ref : Ref kind) (call : Call kind),
    (workspace.call ref call).1.next = workspace.next
      ∧ ∀ other, other ≠ Call.address ref call →
          (workspace.call ref call).1.read other = workspace.read other
  /-- Calls on different addresses can be made in either order. -/
  commutes : ∀ (kind otherKind : DraftKind) (ref : Ref kind) (call : Call kind)
      (otherRef : Ref otherKind) (otherCall : Call otherKind),
    Call.address ref call ≠ Call.address otherRef otherCall →
      ((workspace.call ref call).1.call otherRef otherCall).1
          = ((workspace.call otherRef otherCall).1.call ref call).1
        ∧ ((workspace.call ref call).1.call otherRef otherCall).2
          = (workspace.call otherRef otherCall).2
        ∧ ((workspace.call otherRef otherCall).1.call ref call).2
          = (workspace.call ref call).2
  /-- A run leaves in a place that calls replace what was last written there. Where types write,
  too, this takes a run that builds nothing. -/
  keeps_last : ∀ (actions : List Action) (address : Address), ¬ address.place.Accumulates →
    (address.place.IsBound → ∀ inquiry, .inquire inquiry ∉ actions) →
      (workspace.afterAll actions).read address
        = (Action.writtenByAll workspace.next address actions).getLastD (workspace.read address)
  /-- A call writes just if it succeeds. -/
  writes_iff : ∀ (kind : DraftKind) (ref : Ref kind) (call : Call kind),
    ¬ (Call.place kind call).Accumulates →
      ((workspace.call ref call).2 = none
        ↔ (Call.written? kind call (Call.place kind call)).isSome)
  /-- An accessor without code is written as a generated one. -/
  generates_accessor : ∀ expression? : Option String, Text.isMissing expression? = true →
    Call.written? .property (.getter expression?) (.held PropertySlot.getter)
        = some Accessor.automatic
      ∧ Call.written? .property (.setter expression?) (.held PropertySlot.setter)
        = some Accessor.automatic
  /-- Any other has its code written as it stands. -/
  keeps_code : ∀ expression : String, Text.isBlankText expression = false →
    Call.written? .property (.getter (some expression)) (.held PropertySlot.getter)
        = some { kind := .custom, expression := some expression }
      ∧ Call.written? .property (.setter (some expression)) (.held PropertySlot.setter)
        = some { kind := .custom, expression := some expression }
  /-- A text is written as the access level that it names, or else as no level but that text. -/
  keeps_access : ∀ text : String, (Access.ofText text).text? = some text
    ∧ ∀ level, Access.ofText text = .listed level ↔ text = level.name
  /-- Integers are the numbers that are written. -/
  keeps_number : ∀ (raw : Raw) (value : Int),
    Call.written? .enumMember (.value raw) (.held EnumMemberSlot.value) = some (some value)
      ↔ raw = .integer value

/-- **Configuring is atomic and local**, whatever the workspace. A call that fails changes nothing,
but for parameters that are added one by one; a call changes nothing but its address, and calls on
different addresses can be made in either order. What a run leaves in a place that calls replace is
what was last written there, and calls write exactly when they succeed. -/
theorem configuring_is_local : workspace.ConfiguresLocally where
  atomic _ ref call hcall hfails := workspace.call_fst_of_failure ref call hcall hfails
  keeps_parameters := workspace.call_parameters
  confined _ ref call :=
    ⟨workspace.next_call ref call, fun _ h => workspace.read_call_ne ref call h⟩
  commutes _ _ ref call otherRef otherCall h := workspace.call_comm ref call otherRef otherCall h
  keeps_last actions _ hplace hbound := workspace.read_afterAll actions hplace hbound
  writes_iff _ ref _ hplace := Call.succeeds_iff_written workspace ref hplace
  generates_accessor expression? hmissing := by
    rw [← Accessor.custom_of_isMissing hmissing]
    exact Call.written?_accessor expression?
  keeps_code expression hshows := by
    rw [← Accessor.custom_some hshows]
    exact Call.written?_accessor (some expression)
  keeps_access text := ⟨Access.text?_ofText text, fun _ => Access.ofText_eq_listed_iff⟩
  keeps_number _ _ := Call.written?_number

/-- A run that creates a property, names it anew twice, the second time without a name, and gives it
a getter without code. The property is built in between. -/
def retitling : List Action :=
  let ref : Ref .property := ⟨0⟩
  [.create .property { type := some "int", name := some "Sum" },
    .call .property ref (.name (some "Total")),
    .inquire (.build ref),
    .call .property ref (.name none),
    .call .property ref (.getter (some " "))]

/-- A call without a name fails and changes nothing; a run leaves the name given last. -/
theorem configuring_property :
    let ref : Ref .property := ⟨0⟩
    (empty.call ref (PropertyCall.name none)).2 ≠ none
      ∧ (empty.call ref (PropertyCall.name none)).1 = empty
      ∧ (empty.call ref (PropertyCall.name (some "Total"))).1.read
          ⟨.property, ref, .held PropertySlot.type⟩ = none
      ∧ ((empty.call ref (PropertyCall.name (some "Total"))).1.call ref
            (PropertyCall.type (some "int"))).1
        = ((empty.call ref (PropertyCall.type (some "int"))).1.call ref
            (PropertyCall.name (some "Total"))).1
      ∧ (empty.call ref (PropertyCall.name (some "Total"))).2 = none
      ∧ (empty.afterAll retitling).read ⟨.property, ref, .held PropertySlot.name⟩ = some "Total"
      ∧ (empty.afterAll retitling).read ⟨.property, ref, .held PropertySlot.type⟩ = some "int"
      ∧ Text.isMissing (some " ") = true
      ∧ (empty.afterAll retitling).read ⟨.property, ref, .held PropertySlot.getter⟩
        = Accessor.automatic := by
  intro ref
  have hempty := configuring_is_local empty
  have hfails : (empty.call ref (PropertyCall.name none)).2 ≠ none := nofun
  have hmissing : Text.isMissing (some " ") = true := by decide
  refine ⟨hfails, hempty.atomic .property ref (.name none) id hfails, ?_, ?_, ?_, ?_, ?_, hmissing,
    ?_⟩
  · exact (hempty.confined .property ref (.name (some "Total"))).2
      ⟨.property, ref, .held PropertySlot.type⟩ nofun
  · exact (hempty.commutes .property .property ref (.name (some "Total")) ref (.type (some "int"))
      nofun).1
  · exact (hempty.writes_iff .property ref (.name (some "Total")) nofun).mpr rfl
  · exact hempty.keeps_last retitling ⟨.property, ref, .held PropertySlot.name⟩ nofun nofun
  · exact hempty.keeps_last retitling ⟨.property, ref, .held PropertySlot.type⟩ nofun nofun
  · have hlast := hempty.keeps_last retitling ⟨.property, ref, .held PropertySlot.getter⟩ nofun nofun
    exact hlast.trans (Option.some.inj (hempty.generates_accessor (some " ") hmissing).1)

end Workspace

end Scaffold
