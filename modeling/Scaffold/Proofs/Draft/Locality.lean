import Scaffold.Proofs.Draft.Edit

/-!
# Calls on a workspace

A call on a draft of a workspace is an edit of one address (`Workspace.call_eq_write`). What it does
elsewhere, what it leaves behind when it fails, and how it gets along with another call, follow from
that and the laws of reading and writing, whatever the call:

* **`Workspace.call_fst_of_failure`**: a call that fails leaves the workspace as it was, unless it
  adds parameters one by one (`Workspace.call_parameters`).
* **`Workspace.read_call_ne`**: a call leaves every other address alone.
* **`Workspace.call_comm`**: calls on different addresses can be made in either order.
-/

namespace Scaffold

/-! ## Edits that fail -/

namespace Edit

variable {α : Type}

/-- The edit adds one thing after the other. -/
def isStepwise : Edit α → Bool
  | .stepwise _ => true
  | _ => false

/-- What is made atomically and fails leaves things as they were. -/
theorem atomically_fst_of_failure {before : α} {outcome : Except Failure α}
    (h : (atomically before outcome).2 ≠ none) : (atomically before outcome).1 = before := by
  cases outcome with
  | ok after => exact absurd rfl h
  | error failure => rfl

/-- An edit that fails leaves the content as it was, unless it goes step by step. -/
theorem run_fst_of_failure {edit : Edit α} (hstepwise : edit.isStepwise = false) {before : α}
    (h : (edit.run before).2 ≠ none) : (edit.run before).1 = before := by
  cases edit with
  | replace content => exact atomically_fst_of_failure h
  | extend content => exact atomically_fst_of_failure h
  | stepwise content => cases hstepwise

end Edit

/-! ## Calls -/

/-- The place of a workspace that a call on a draft addresses. -/
def Call.address {kind : DraftKind} (ref : Ref kind) (call : Call kind) : Address where
  kind := kind
  ref := ref
  place := Call.place kind call

/-- The call hands over several parameters, which are added one by one. -/
def Call.AddsOneByOne : (kind : DraftKind) → Call kind → Prop
  | .constructor, .parameters _ => True
  | _, _ => False

/-- Only parameters that are handed over together are added step by step. -/
theorem Call.isStepwise_edit {kind : DraftKind} {call : Call kind}
    (h : ¬ Call.AddsOneByOne kind call) : (Call.edit kind call).isStepwise = false := by
  cases kind with
  | constructor =>
    cases call with
    | parameters sequences => exact absurd trivial h
    | access | summary | parameter | baseCall => rfl
  | field | property | enumMember | enumeration | «class» | struct | interface | «namespace» =>
    cases call <;> rfl

namespace Workspace

variable (workspace : Workspace) {kind : DraftKind} (ref : Ref kind) (call : Call kind)

/-- **A call edits its address**, and fails if the edit does. -/
theorem call_eq_write :
    workspace.call ref call
      = (workspace.write (Call.address ref call)
          ((Call.edit kind call).run (workspace.read (Call.address ref call))).1,
        ((Call.edit kind call).run (workspace.read (Call.address ref call))).2) := by
  unfold Workspace.call
  rw [Call.apply_eq_edit]
  rfl

theorem next_call : (workspace.call ref call).1.next = workspace.next := rfl

/-- **A call leaves every other address alone**, whether it fails or not. -/
theorem read_call_ne {other : Address} (h : other ≠ Call.address ref call) :
    (workspace.call ref call).1.read other = workspace.read other := by
  rw [call_eq_write]
  exact workspace.read_write_ne h _

/-- **A call that fails changes nothing**, unless it adds parameters one by one. -/
theorem call_fst_of_failure (hcall : ¬ Call.AddsOneByOne kind call)
    (h : (workspace.call ref call).2 ≠ none) : (workspace.call ref call).1 = workspace := by
  rw [call_eq_write] at h ⊢
  -- the edit gives back what it has read, and writing that changes nothing
  show workspace.write (Call.address ref call) _ = workspace
  rw [Edit.run_fst_of_failure (Call.isStepwise_edit hcall) h]
  exact workspace.write_read _

/-- Parameters that are handed over together are added up to the first that is refused. -/
theorem call_parameters (ref : Ref .constructor) (sequences : List Raw) :
    workspace.call ref (ConstructorCall.parameters sequences)
      = (workspace.set ref { (workspace.get ref : Constructor) with
          parameters :=
            Constructor.parameters (workspace.get ref) ++ Constructor.keptParameters sequences },
        Constructor.firstRefusal? sequences) := by
  show (workspace.set ref (Constructor.addParameters (workspace.get ref) sequences).1,
    (Constructor.addParameters (workspace.get ref) sequences).2) = _
  rw [Constructor.addParameters_eq]

/-- **Calls on different addresses commute**: each fails or succeeds as it would first. -/
theorem call_comm {otherKind : DraftKind} (otherRef : Ref otherKind) (otherCall : Call otherKind)
    (h : Call.address ref call ≠ Call.address otherRef otherCall) :
    ((workspace.call ref call).1.call otherRef otherCall).1
        = ((workspace.call otherRef otherCall).1.call ref call).1
      ∧ ((workspace.call ref call).1.call otherRef otherCall).2
        = (workspace.call otherRef otherCall).2
      ∧ ((workspace.call otherRef otherCall).1.call ref call).2 = (workspace.call ref call).2 := by
  -- neither call changes what the other reads, so each edit comes out as if made alone
  have hother := workspace.read_call_ne ref call (Ne.symm h)
  have hfirst := workspace.read_call_ne otherRef otherCall h
  rw [call_eq_write (workspace.call ref call).1 otherRef otherCall, hother,
    call_eq_write (workspace.call otherRef otherCall).1 ref call, hfirst,
    call_eq_write workspace ref call, call_eq_write workspace otherRef otherCall]
  exact ⟨workspace.write_comm h _ _, rfl, rfl⟩

end Workspace

end Scaffold
