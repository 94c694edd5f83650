import Scaffold.Draft.Kind

/-!
# Workspaces

A workspace holds the drafts that references refer to. Every reference refers to a draft: one that
was never stored is fresh. Storing a draft changes what one reference refers to and nothing else
(`get_set_self`, `get_set_ne`), so workspaces that agree on all references are equal (`ext`).
-/

namespace Scaffold

/-- The drafts behind all references. -/
structure Workspace where
  draft : (kind : DraftKind) → Nat → Draft kind
  /-- No reference from this index on has been handed out. -/
  next : Nat

namespace Workspace

/-- The workspace before any draft is stored. -/
def empty : Workspace where
  draft kind _ := Draft.fresh kind
  next := 0

/-- The draft that a reference refers to. -/
def get (workspace : Workspace) {kind : DraftKind} (ref : Ref kind) : Draft kind :=
  workspace.draft kind ref.index

/-- Makes a reference refer to the given draft. -/
def set (workspace : Workspace) {kind : DraftKind} (ref : Ref kind) (draft : Draft kind) :
    Workspace where
  draft other index :=
    if h : other = kind ∧ index = ref.index then h.1 ▸ draft else workspace.draft other index
  next := workspace.next

/-- Stores a draft behind a reference that has not been handed out. -/
def add (workspace : Workspace) {kind : DraftKind} (draft : Draft kind) : Ref kind × Workspace :=
  let ref : Ref kind := ⟨workspace.next⟩
  (ref, { workspace.set ref draft with next := workspace.next + 1 })

/-- The value that a draft holds. -/
def value (workspace : Workspace) {kind : DraftKind} (ref : Ref kind) : kind.Value :=
  Draft.value kind (workspace.get ref)

/-! ## Reading after storing -/

theorem get_set_self (workspace : Workspace) {kind : DraftKind} (ref : Ref kind)
    (draft : Draft kind) : (workspace.set ref draft).get ref = draft := by
  simp [get, set]

/-- Setting a draft leaves those of other kinds and at other places as they are. -/
theorem get_set_of_not_same (workspace : Workspace) {kind otherKind : DraftKind} {ref : Ref kind}
    {other : Ref otherKind} (h : ¬ (otherKind = kind ∧ other.index = ref.index))
    (draft : Draft kind) : (workspace.set ref draft).get other = workspace.get other := by
  simp [get, set, h]

theorem get_set_ne (workspace : Workspace) {kind : DraftKind} {ref other : Ref kind}
    (h : other ≠ ref) (draft : Draft kind) :
    (workspace.set ref draft).get other = workspace.get other :=
  workspace.get_set_of_not_same (fun hsame => h (congrArg Ref.mk hsame.2)) draft

theorem get_set_of_kind_ne (workspace : Workspace) {kind otherKind : DraftKind}
    (h : otherKind ≠ kind) (ref : Ref kind) (other : Ref otherKind) (draft : Draft kind) :
    (workspace.set ref draft).get other = workspace.get other :=
  workspace.get_set_of_not_same (fun hsame => h hsame.1) draft

/-- Workspaces that hand out the same references and agree on all of them are equal. -/
theorem ext {first second : Workspace} (hnext : first.next = second.next)
    (h : ∀ (kind : DraftKind) (ref : Ref kind), first.get ref = second.get ref) :
    first = second := by
  cases first with
  | mk draft next =>
    cases second with
    | mk draft' next' =>
      have hdraft : draft = draft' := by
        funext kind index
        exact h kind ⟨index⟩
      simp only at hnext
      rw [hdraft, hnext]

/-- Storing what is already there changes nothing. -/
theorem set_get_self (workspace : Workspace) {kind : DraftKind} (ref : Ref kind) :
    workspace.set ref (workspace.get ref) = workspace := by
  refine ext rfl fun otherKind other => ?_
  by_cases hkind : otherKind = kind
  · subst hkind
    by_cases href : other = ref
    · rw [href, get_set_self]
    · rw [get_set_ne _ href]
  · rw [get_set_of_kind_ne _ hkind]

/-- Of two drafts stored behind one reference the later stays. -/
theorem set_set (workspace : Workspace) {kind : DraftKind} (ref : Ref kind)
    (draft later : Draft kind) :
    (workspace.set ref draft).set ref later = workspace.set ref later := by
  refine ext rfl fun otherKind other => ?_
  by_cases hkind : otherKind = kind
  · subst hkind
    by_cases href : other = ref
    · rw [href, get_set_self, get_set_self]
    · rw [get_set_ne _ href, get_set_ne _ href, get_set_ne _ href]
  · rw [get_set_of_kind_ne _ hkind, get_set_of_kind_ne _ hkind, get_set_of_kind_ne _ hkind]

end Workspace

end Scaffold
