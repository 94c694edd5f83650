import Scaffold.Proofs.Draft.History
import Scaffold.Proofs.Draft.Violation

/-!
# Lists of names

Classes, structs and interfaces hold the names of interfaces, and namespaces hold the names of the
namespaces that they use. Calls add to these lists, which are ordered sets, whatever else is done:

* **`foldl_addNew`**: names that are added one after the other end up behind those that were there,
  each new one once, in the order in which they were first added.
* **`NameList.held_after`**: an action adds the names that are handed over to the draft in a call
  that succeeds, and no others.
* **`NameList.held_afterAll`**: so does a run, by induction along it.
* **`NameList.names_check`**: building copies the list.
-/

namespace Scaffold

/-! ## Adding names -/

section

variable {α : Type} [DecidableEq α]

/-- **New values are added once, in order of first addition.** Induction along the values. -/
theorem foldl_addNew (values added : List α) :
    added.foldl addNew values = values ++ (added.filter (· ∉ values)).eraseDups := by
  induction added generalizing values with
  | nil => simp
  | cons value rest ih =>
    rw [List.foldl_cons, ih]
    unfold addNew
    by_cases hvalue : value ∈ values
    · rw [if_pos hvalue, List.filter_cons_of_neg (by simpa using hvalue)]
    · rw [if_neg hvalue, List.filter_cons_of_pos (by simpa using hvalue), List.eraseDups_cons,
        List.filter_filter, List.append_assoc, List.singleton_append]
      -- what is new behind `value` is what is new and not `value`
      have hnew (other : α) : decide (other ∉ values ++ [value])
          = (!other == value && decide (other ∉ values)) := by
        rw [Bool.eq_iff_iff]
        simp [not_or, and_comm]
      simp only [hnew]

/-- Afterwards the value is there, and so are all that were there before. -/
theorem mem_addNew_iff {values : List α} {added value : α} :
    value ∈ addNew values added ↔ value ∈ values ∨ value = added := by
  unfold addNew
  split
  next hadded =>
    refine ⟨.inl, ?_⟩
    rintro (hvalue | rfl)
    · exact hvalue
    · exact hadded
  next => simp

/-- Only a value that is not there comes to be there once more. -/
theorem count_addNew (values : List α) (added value : α) :
    (addNew values added).count value
      = values.count value + if value ∉ values ∧ value = added then 1 else 0 := by
  unfold addNew
  -- the count of the added value changes just if it is not there
  by_cases hadded : added ∈ values
  · have hold : ¬ (value ∉ values ∧ value = added) := by
      rintro ⟨hnew, rfl⟩
      exact hnew hadded
    rw [if_pos hadded, if_neg hold, Nat.add_zero]
  · have hnew : (value ∉ values ∧ value = added) ↔ added = value := by
      refine ⟨fun h => h.2.symm, ?_⟩
      rintro rfl
      exact ⟨hadded, rfl⟩
    rw [if_neg hadded, List.count_append, List.count_singleton]
    simp only [hnew, beq_iff_eq]

/-- **Nothing is lost, and nothing is repeated by adding.** Induction along what is added. -/
theorem count_foldl_addNew (values added : List α) (value : α) :
    (added.foldl addNew values).count value
      = values.count value + if value ∉ values ∧ value ∈ added then 1 else 0 := by
  induction added generalizing values with
  | nil => simp
  | cons first rest ih =>
    rw [List.foldl_cons, ih, count_addNew]
    simp only [mem_addNew_iff, List.mem_cons]
    by_cases hvalue : value ∈ values <;> by_cases hfirst : value = first <;> simp [hvalue, hfirst]

end

/-! ## Calls on a draft -/

namespace Action

/-- The call that an action makes on a draft, if it makes one. -/
def callOn? {kind : DraftKind} (ref : Ref kind) : Action → Option (Call kind)
  | .call other otherRef made =>
    if h : other = kind ∧ otherRef.index = ref.index then some (h.1 ▸ made) else none
  | .inquire _ | .seed _ _ | .create _ _ => none

/-- An action that is a call on a draft is that call. -/
theorem eq_of_callOn? {kind : DraftKind} {ref : Ref kind} {action : Action} {made : Call kind}
    (h : action.callOn? ref = some made) : action = .call kind ref made := by
  unfold callOn? at h
  split at h
  next other otherRef _ =>
    obtain ⟨⟨rfl, hindex⟩, hmade⟩ := Option.dite_none_right_eq_some.mp h
    obtain ⟨index⟩ := otherRef
    obtain rfl : ⟨index⟩ = ref := congrArg Ref.mk hindex
    rw [← Option.some.inj hmade]
  next => cases h
  next => cases h
  next => cases h

end Action

/-! ## Lists of names -/

/-- A list of names that calls add to. -/
inductive NameList : DraftKind → Type where
  | classInterfaces : NameList .class
  | structInterfaces : NameList .struct
  | interfaceInterfaces : NameList .interface
  | usings : NameList .namespace

namespace NameList

variable {kind : DraftKind} (list : NameList kind)

/-- The names in a value. -/
def names : {kind : DraftKind} → NameList kind → kind.Value → List String
  | _, .classInterfaces, value => Class.implementedInterfaces value
  | _, .structInterfaces, value => Struct.implementedInterfaces value
  | _, .interfaceInterfaces, value => Interface.implementedInterfaces value
  | _, .usings, value => Namespace.usings value

def place : {kind : DraftKind} → NameList kind → Place kind
  | _, .classInterfaces => .held ClassSlot.implementedInterfaces
  | _, .structInterfaces => .held StructSlot.implementedInterfaces
  | _, .interfaceInterfaces => .held InterfaceSlot.implementedInterfaces
  | _, .usings => .held NamespaceSlot.usings

/-- The names that a draft holds. -/
def held (workspace : Workspace) (ref : Ref kind) : List String :=
  list.names (workspace.value ref)

/-- The names that are handed over to a call that adds to the list. -/
def handed : {kind : DraftKind} → NameList kind → Call kind → List String
  | _, .classInterfaces, .implementedInterface name? => name?.toList
  | _, .structInterfaces, .implementedInterface name? => name?.toList
  | _, .interfaceInterfaces, .implementedInterface name? => name?.toList
  | _, .usings, .usingName name? => name?.toList
  | _, .usings, .usingNames given => (given.flatMap Given.elements).filterMap id
  | _, _, _ => []

/-- The names that an action adds: those that are handed over to the draft in a call that
succeeds. -/
def added (ref : Ref kind) (workspace : Workspace) (action : Action) : List String :=
  match action.callOn? ref with
  | some call => if (workspace.call ref call).2 = none then list.handed call else []
  | none => []

/-- The names that a run adds. -/
def addedByAll (ref : Ref kind) : Workspace → List Action → List String
  | _, [] => []
  | workspace, action :: rest =>
    list.added ref workspace action ++ addedByAll ref (workspace.after action) rest

/-! ## One action -/

/-- Constructors have no list of names, so no type writes into one. -/
theorem kind_ne_constructor : {kind : DraftKind} → NameList kind → kind ≠ .constructor
  | _, .classInterfaces => nofun
  | _, .structInterfaces => nofun
  | _, .interfaceInterfaces => nofun
  | _, .usings => nofun

/-- A call on another place leaves the list alone. -/
theorem names_apply_of_place_ne (draft : Draft kind) {call : Call kind}
    (h : list.place ≠ Call.place kind call) :
    list.names (Draft.value kind (Call.apply kind draft call).1)
        = list.names (Draft.value kind draft)
      ∧ list.handed call = [] := by
  constructor
  · rw [Call.apply_eq_edit]
    have hread := Draft.read_write_ne h draft
      ((Call.edit kind call).run (Draft.read draft (Call.place kind call))).1
    cases list <;> exact hread
  · cases list <;> cases call <;> first | rfl | exact absurd rfl h

/-- **A call adds the names that are handed over to it, if it succeeds.** -/
theorem names_apply (draft : Draft kind) (call : Call kind) :
    list.names (Draft.value kind (Call.apply kind draft call).1)
      = (if (Call.apply kind draft call).2 = none then list.handed call else []).foldl addNew
          (list.names (Draft.value kind draft)) := by
  -- of the calls on a kind only those that address its list are handed a name
  by_cases h : list.place = Call.place kind call
  · cases list with
    | classInterfaces =>
      cases call with
      | implementedInterface name? => cases name? <;> rfl
      | _ => cases h
    | structInterfaces =>
      cases call with
      | implementedInterface name? => cases name? <;> rfl
      | _ => cases h
    | interfaceInterfaces =>
      cases call with
      | implementedInterface name? => cases name? <;> rfl
      | _ => cases h
    | usings =>
      cases call with
      | usingName name? => cases name? <;> rfl
      | usingNames given =>
        rw [Call.apply_eq_edit]
        simp only [Edit.applyTo, Call.edit, Call.place, NamespaceCall.edit, NamespaceCall.place,
          requireAll]
        split <;> rfl
      | _ => cases h
  · obtain ⟨hnames, hhanded⟩ := list.names_apply_of_place_ne draft h
    rw [hnames, hhanded, ite_self]
    rfl

/-- An action that makes no call on a draft leaves it alone. -/
theorem get_after_of_callOn?_eq_none (workspace : Workspace) {ref : Ref kind}
    (hkind : kind ≠ .constructor) (href : ref.index < workspace.next) {action : Action}
    (h : action.callOn? ref = none) : (workspace.after action).get ref = workspace.get ref := by
  -- a reference that is handed out is none of those that are
  have hnew (other : DraftKind) : ¬ (kind = other ∧ ref.index = workspace.next) :=
    fun hsame => Nat.ne_of_lt href hsame.2
  cases action with
  | call other otherRef made =>
    refine workspace.get_set_of_not_same (fun hsame => ?_) _
    rw [Action.callOn?, dif_pos ⟨hsame.1.symm, hsame.2.symm⟩] at h
    cases h
  | inquire inquiry => exact (workspace.agrees_afterInquiry inquiry).get_eq ref hkind
  | seed other value => exact workspace.get_set_of_not_same (hnew other) _
  | create other settings =>
    rw [Workspace.after_create]
    split
    · exact workspace.get_set_of_not_same (hnew other) _
    · rfl

theorem held_after (workspace : Workspace) {ref : Ref kind} (href : ref.index < workspace.next)
    (action : Action) :
    list.held (workspace.after action) ref
      = (list.added ref workspace action).foldl addNew (list.held workspace ref) := by
  unfold added
  cases hcall : action.callOn? ref with
  | none =>
    unfold held Workspace.value
    rw [get_after_of_callOn?_eq_none workspace list.kind_ne_constructor href hcall]
    rfl
  | some call =>
    obtain rfl := Action.eq_of_callOn? hcall
    unfold held Workspace.value
    show list.names (Draft.value kind ((workspace.set ref _).get ref)) = _
    rw [Workspace.get_set_self]
    exact list.names_apply (workspace.get ref) call

/-! ## Runs -/

/-- References that have been handed out stay so. -/
theorem next_le_next_after (workspace : Workspace) (action : Action) :
    workspace.next ≤ (workspace.after action).next := by
  rw [Workspace.next_after]
  cases action with
  | call | inquire => exact Nat.le_refl _
  | seed => exact Nat.le_succ _
  | create other settings =>
    simp only [Action.nextAfter]
    split
    · exact Nat.le_succ _
    · exact Nat.le_refl _

/-- **A run adds names one after the other.** Induction along the run. -/
theorem held_afterAll (workspace : Workspace) {ref : Ref kind} (href : ref.index < workspace.next)
    (actions : List Action) :
    list.held (workspace.afterAll actions) ref
      = (list.addedByAll ref workspace actions).foldl addNew (list.held workspace ref) := by
  induction actions generalizing workspace with
  | nil => rfl
  | cons action rest ih =>
    have hnext := Nat.lt_of_lt_of_le href (next_le_next_after workspace action)
    rw [addedByAll, List.foldl_append, ← list.held_after workspace href action]
    exact ih (workspace.after action) hnext

/-- What a longer run adds is what its first part adds, and then the rest. -/
theorem addedByAll_append (workspace : Workspace) (ref : Ref kind) (actions later : List Action) :
    list.addedByAll ref workspace (actions ++ later)
      = list.addedByAll ref workspace actions
        ++ list.addedByAll ref (workspace.afterAll actions) later := by
  induction actions generalizing workspace with
  | nil => rfl
  | cons action rest ih =>
    rw [List.cons_append, addedByAll, addedByAll, ih, List.append_assoc]
    rfl

/-! ## Building -/

/-- No check changes the names. -/
theorem names_check {value built : kind.Value} (h : kind.check value = .ok built) :
    list.names built = list.names value := by
  cases list with
  | classInterfaces => rw [Class.check_eq_ok h]
  | structInterfaces => rw [Struct.check_eq_ok h]
  | interfaceInterfaces => rw [Interface.check_eq_ok h]
  | usings =>
    -- the enumerations may be numbered, but the names are copied
    obtain ⟨-, -, h⟩ := bind_eq_ok_iff.mp h
    obtain ⟨classes, -, h⟩ := bind_eq_ok_iff.mp h
    obtain ⟨structs, -, h⟩ := bind_eq_ok_iff.mp h
    obtain ⟨interfaces, -, h⟩ := bind_eq_ok_iff.mp h
    obtain ⟨enums, -, h⟩ := bind_eq_ok_iff.mp h
    obtain rfl := Except.ok.inj h
    rfl

/-- **A value is built with the names that the draft holds.** -/
theorem names_build {workspace : Workspace} {ref : Ref kind} {built : kind.Value}
    (h : (workspace.build ref).1 = .ok built) : list.names built = list.held workspace ref := by
  rw [Workspace.build_fst] at h
  rw [list.names_check h]
  cases list <;> rfl

/-! ## Drafts that are new -/

/-- No first setting adds a name. -/
theorem place_ne_of_mem_calls (settings : FirstSettings) {call : Call kind}
    (h : call ∈ settings.calls kind) : list.place ≠ Call.place kind call := by
  -- settings are made by a call or left out, and none of the calls adds a name
  have hmade {α : Type} {make : α → Call kind} {given : Option α}
      (hcall : call ∈ FirstSettings.callIf make given) : ∃ value, call = make value := by
    cases given with
    | none => cases hcall
    | some value => exact ⟨value, List.mem_singleton.mp hcall⟩
  cases list with
  | classInterfaces | structInterfaces | interfaceInterfaces =>
    rcases List.mem_append.mp h with haccess | hname
    · obtain ⟨text?, rfl⟩ := hmade haccess
      exact nofun
    · obtain ⟨text, rfl⟩ := hmade hname
      exact nofun
  | usings =>
    obtain ⟨text, rfl⟩ := hmade h
    exact nofun

theorem names_applyAll (draft : Draft kind) {calls : List (Call kind)}
    (h : ∀ call ∈ calls, list.place ≠ Call.place kind call) :
    list.names (Draft.value kind (Call.applyAll kind draft calls).1)
      = list.names (Draft.value kind draft) := by
  induction calls generalizing draft with
  | nil => rfl
  | cons call rest ih =>
    have hcall := (list.names_apply_of_place_ne draft (h call List.mem_cons_self)).1
    have hrest : ∀ other ∈ rest, list.place ≠ Call.place kind other :=
      fun other hother => h other (List.mem_cons_of_mem call hother)
    unfold Call.applyAll
    split
    next after happly =>
      rw [ih after hrest, ← hcall, happly]
    next after failure happly => rw [← hcall, happly]

/-- A draft has just been created, from a value or afresh, and holds the names. -/
inductive Starts : Workspace → Ref kind → List String → Prop where
  | seeded (workspace : Workspace) (value : kind.Value) :
    Starts (workspace.seed value).2 (workspace.seed value).1 (list.names value)
  | created {workspace created : Workspace} {settings : FirstSettings} {ref : Ref kind}
    (h : workspace.create kind settings = .ok (ref, created)) : Starts created ref []

/-- A draft that is added holds the names of its value, and its reference is handed out. -/
theorem held_add (workspace : Workspace) (draft : Draft kind) :
    (workspace.add draft).1.index < (workspace.add draft).2.next
      ∧ list.held (workspace.add draft).2 (workspace.add draft).1
        = list.names (Draft.value kind draft) := by
  refine ⟨Nat.lt_succ_self _, ?_⟩
  let ref : Ref kind := ⟨workspace.next⟩
  show list.names (Draft.value kind ((workspace.set ref draft).get ref)) = _
  rw [Workspace.get_set_self]

/-- **At the start** a list holds what the draft was made from, or nothing. -/
theorem Starts.held_eq {list : NameList kind} {workspace : Workspace} {ref : Ref kind}
    {initial : List String} (h : list.Starts workspace ref initial) :
    ref.index < workspace.next ∧ list.held workspace ref = initial := by
  -- a draft that is created has had its first settings made, none of which is a name of a list
  cases h with
  | seeded before value =>
    obtain ⟨hindex, hheld⟩ := list.held_add before (Draft.ofValue kind value)
    refine ⟨hindex, hheld.trans ?_⟩
    rw [Draft.value_ofValue]
  | @created before _ settings _ h =>
    have hnames := list.names_applyAll (Draft.fresh kind) fun call hcall =>
      list.place_ne_of_mem_calls settings hcall
    unfold Workspace.create at h
    split at h
    next draft happly =>
      obtain ⟨rfl, rfl⟩ := Prod.mk.inj (Except.ok.inj h)
      obtain ⟨hindex, hheld⟩ := list.held_add before draft
      refine ⟨hindex, hheld.trans ?_⟩
      rw [happly] at hnames
      rw [hnames]
      cases list <;> rfl
    next => cases h

/-! ## Ordered sets -/

/-- **Lists of names are ordered sets.** A draft that is new holds some names, none if it is fresh.
After any run, whatever calls it makes and whether they fail, it holds these names and then those
that have been added since and are not among them, each once, in the order in which they were first
added, and so does every value that is built from it. No name is lost, none is repeated by adding,
and whatever follows goes behind. -/
theorem held_is_ordered_set {workspace : Workspace} {ref : Ref kind} {initial : List String}
    (hstart : list.Starts workspace ref initial) (actions : List Action) :
    let added := list.addedByAll ref workspace actions
    let held := list.held (workspace.afterAll actions) ref
    held = initial ++ (added.filter (· ∉ initial)).eraseDups
      ∧ (∀ built, ((workspace.afterAll actions).build ref).1 = .ok built → list.names built = held)
      ∧ (∀ name, held.count name
          = initial.count name + if name ∉ initial ∧ name ∈ added then 1 else 0)
      ∧ ∀ later, held <+: list.held (workspace.afterAll (actions ++ later)) ref := by
  intro added held
  obtain ⟨hindex, hinitial⟩ := hstart.held_eq
  have hheld : held = added.foldl addNew initial := by
    rw [← hinitial]
    exact list.held_afterAll workspace hindex actions
  refine ⟨?_, fun built hbuilt => list.names_build hbuilt, fun name => ?_, fun later => ?_⟩
  · rw [hheld, foldl_addNew]
  · rw [hheld, count_foldl_addNew]
  -- a longer run starts from what the shorter one has left
  · rw [list.held_afterAll workspace hindex, addedByAll_append, List.foldl_append,
      ← list.held_afterAll workspace hindex, foldl_addNew]
    exact List.prefix_append _ _

/-- A namespace that uses one other twice from the start. -/
def crowded : Namespace where
  name := some "Shop"
  usings := ["System", "System"]

/-- A run that adds names to it one by one and several at once, with calls that fail, and builds it
in between. -/
def crowding : List Action :=
  let ref : Ref .namespace := ⟨0⟩
  [.call .namespace ref (.usingName (some "System.Linq")),
    .call .namespace ref (.usingName none),
    .inquire (.build ref),
    .call .namespace ref (.usingNames [.one "Stock", .missing]),
    .call .namespace ref (.usingNames [.sequence [some "Depot", some "System", some "Depot"]])]

/-- A name that a value holds twice is held twice, and the new ones stand behind it in the order in
which they are added first. -/
theorem crowded_keeps_order :
    let ref : Ref .namespace := (@Workspace.seed .empty .namespace crowded).1
    let start := (@Workspace.seed .empty .namespace crowded).2
    NameList.usings.Starts start ref ["System", "System"]
      ∧ NameList.usings.held (start.afterAll crowding) ref
        = ["System", "System", "System.Linq", "Depot"]
      ∧ ∀ built, ((start.afterAll crowding).build ref).1 = .ok built →
          built.usings = ["System", "System", "System.Linq", "Depot"] := by
  intro ref start
  have hstart : NameList.usings.Starts start ref ["System", "System"] :=
    @Starts.seeded _ .usings .empty crowded
  obtain ⟨hheld, hbuilt, -⟩ := held_is_ordered_set .usings hstart crowding
  have hnames : NameList.usings.held (start.afterAll crowding) ref
      = ["System", "System", "System.Linq", "Depot"] := hheld
  exact ⟨hstart, hnames, fun built h => (hbuilt built h).trans hnames⟩

end NameList

end Scaffold
