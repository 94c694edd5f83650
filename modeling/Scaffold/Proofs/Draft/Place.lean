import Scaffold.Draft.Workspace

/-!
# Places of drafts

A draft consists of places: the slots of the value that it holds, and the lists of drafts that are
attached to it. `Address` names a place of one draft of a workspace.

Reading and writing one place follow the usual laws, for a draft (`Draft.read_write_self`,
`Draft.read_write_ne`, `Draft.ext_read`) and for a workspace (`Workspace.read_write_self`,
`Workspace.read_write_ne`, `Workspace.ext_read`). Everything about what a change leaves alone
follows from these.
-/

namespace Scaffold

/-! ## Places -/

/-- The slots of the values of a kind. -/
@[reducible]
def DraftKind.record : (kind : DraftKind) → Record kind.Value
  | .field => inferInstanceAs (Record Field)
  | .property => inferInstanceAs (Record Property)
  | .constructor => inferInstanceAs (Record Constructor)
  | .enumMember => inferInstanceAs (Record EnumMember)
  | .enumeration => inferInstanceAs (Record Enumeration)
  | .class => inferInstanceAs (Record Class)
  | .struct => inferInstanceAs (Record Struct)
  | .interface => inferInstanceAs (Record Interface)
  | .namespace => inferInstanceAs (Record Namespace)

/-- A slot of the values of a kind. -/
abbrev DraftKind.Slot (kind : DraftKind) : Type :=
  @Record.Slot kind.Value kind.record

instance (kind : DraftKind) : DecidableEq kind.Slot :=
  @Record.decEq kind.Value kind.record

/-- The drafts of one kind have a list of attached drafts of another. -/
inductive Attachment : DraftKind → DraftKind → Type where
  | classField : Attachment .class .field
  | classProperty : Attachment .class .property
  | classConstructor : Attachment .class .constructor
  | structField : Attachment .struct .field
  | structProperty : Attachment .struct .property
  | structConstructor : Attachment .struct .constructor
  | interfaceProperty : Attachment .interface .property
  | enumerationMember : Attachment .enumeration .enumMember
  | namespaceClass : Attachment .namespace .class
  | namespaceStruct : Attachment .namespace .struct
  | namespaceInterface : Attachment .namespace .interface
  | namespaceEnumeration : Attachment .namespace .enumeration
deriving DecidableEq

/-- A place of a draft: a slot of the value that it holds, or a list of attached drafts. -/
inductive Place (kind : DraftKind) where
  | held (slot : kind.Slot)
  | attached {child : DraftKind} (attachment : Attachment kind child)
deriving DecidableEq

/-- What a place can hold. -/
abbrev Place.Content {kind : DraftKind} : Place kind → Type
  | .held slot => @Record.Value kind.Value kind.record slot
  | @Place.attached _ child _ => List (Ref child)

/-! ## Reading and writing a draft -/

namespace Draft

/-- The draft with the given value in place of the one that it holds. -/
def hold : (kind : DraftKind) → Draft kind → kind.Value → Draft kind
  | .field, _, value => value
  | .property, _, value => value
  | .constructor, _, value => value
  | .enumMember, _, value => value
  | .enumeration, draft, value => { (draft : EnumerationDraft) with held := value }
  | .class, draft, value => { (draft : ClassDraft) with held := value }
  | .struct, draft, value => { (draft : StructDraft) with held := value }
  | .interface, draft, value => { (draft : InterfaceDraft) with held := value }
  | .namespace, draft, value => { (draft : NamespaceDraft) with held := value }

def attached {kind child : DraftKind} : Attachment kind child → Draft kind → List (Ref child)
  | .classField, draft => ClassDraft.fields draft
  | .classProperty, draft => ClassDraft.properties draft
  | .classConstructor, draft => ClassDraft.constructors draft
  | .structField, draft => StructDraft.fields draft
  | .structProperty, draft => StructDraft.properties draft
  | .structConstructor, draft => StructDraft.constructors draft
  | .interfaceProperty, draft => InterfaceDraft.properties draft
  | .enumerationMember, draft => EnumerationDraft.members draft
  | .namespaceClass, draft => NamespaceDraft.classes draft
  | .namespaceStruct, draft => NamespaceDraft.structs draft
  | .namespaceInterface, draft => NamespaceDraft.interfaces draft
  | .namespaceEnumeration, draft => NamespaceDraft.enums draft

def setAttached {kind child : DraftKind} :
    Attachment kind child → Draft kind → List (Ref child) → Draft kind
  | .classField, draft, refs => { (draft : ClassDraft) with fields := refs }
  | .classProperty, draft, refs => { (draft : ClassDraft) with properties := refs }
  | .classConstructor, draft, refs => { (draft : ClassDraft) with constructors := refs }
  | .structField, draft, refs => { (draft : StructDraft) with fields := refs }
  | .structProperty, draft, refs => { (draft : StructDraft) with properties := refs }
  | .structConstructor, draft, refs => { (draft : StructDraft) with constructors := refs }
  | .interfaceProperty, draft, refs => { (draft : InterfaceDraft) with properties := refs }
  | .enumerationMember, draft, refs => { (draft : EnumerationDraft) with members := refs }
  | .namespaceClass, draft, refs => { (draft : NamespaceDraft) with classes := refs }
  | .namespaceStruct, draft, refs => { (draft : NamespaceDraft) with structs := refs }
  | .namespaceInterface, draft, refs => { (draft : NamespaceDraft) with interfaces := refs }
  | .namespaceEnumeration, draft, refs => { (draft : NamespaceDraft) with enums := refs }

/-- What a place of a draft holds. -/
def read {kind : DraftKind} (draft : Draft kind) : (place : Place kind) → place.Content
  | .held slot => @Record.get kind.Value kind.record (value kind draft) slot
  | .attached attachment => attached attachment draft

/-- The draft with the given content in one place. -/
def write {kind : DraftKind} (draft : Draft kind) : (place : Place kind) → place.Content → Draft kind
  | .held slot, content =>
    hold kind draft (@Record.set kind.Value kind.record (value kind draft) slot content)
  | .attached attachment, refs => setAttached attachment draft refs

variable {kind child other : DraftKind}

theorem value_hold (draft : Draft kind) (held : kind.Value) :
    value kind (hold kind draft held) = held := by
  cases kind <;> rfl

/-- The value that a draft holds can be replaced without touching what is attached to it. -/
theorem attached_hold (attachment : Attachment kind child) (draft : Draft kind)
    (held : kind.Value) :
    attached attachment (hold kind draft held) = attached attachment draft := by
  cases attachment <;> rfl

/-- What is attached to a draft can be replaced without touching the value that it holds. -/
theorem value_setAttached (attachment : Attachment kind child) (draft : Draft kind)
    (refs : List (Ref child)) :
    value kind (setAttached attachment draft refs) = value kind draft := by
  cases attachment <;> rfl

theorem attached_setAttached_self (attachment : Attachment kind child) (draft : Draft kind)
    (refs : List (Ref child)) : attached attachment (setAttached attachment draft refs) = refs := by
  cases attachment <;> rfl

/-- The lists of attached drafts are apart, those of one kind of child included. -/
theorem attached_setAttached_ne {attachment : Attachment kind child}
    {second : Attachment kind other} (h : Place.attached second ≠ Place.attached attachment)
    (draft : Draft kind) (refs : List (Ref child)) :
    attached second (setAttached attachment draft refs) = attached second draft := by
  cases attachment <;> cases second <;> first | rfl | exact absurd rfl h

/-- What is written in a place is read there. -/
theorem read_write_self (draft : Draft kind) (place : Place kind) (content : place.Content) :
    read (write draft place content) place = content := by
  cases place with
  | held slot =>
    show @Record.get _ kind.record (value kind (hold kind draft _)) slot = content
    rw [value_hold]
    exact @Record.get_set_self _ kind.record _ slot content
  | attached attachment => exact attached_setAttached_self attachment draft content

/-- What is written in one place is read in no other. -/
theorem read_write_ne {place second : Place kind} (h : second ≠ place) (draft : Draft kind)
    (content : place.Content) : read (write draft place content) second = read draft second := by
  cases place with
  | held slot =>
    cases second with
    | held another =>
      show @Record.get _ kind.record (value kind (hold kind draft _)) another = _
      rw [value_hold]
      have hslot : another ≠ slot := fun heq => h (by rw [heq])
      exact @Record.get_set_ne _ kind.record _ slot content another hslot
    | attached attachment => exact attached_hold attachment draft _
  | attached attachment =>
    cases second with
    | held slot =>
      show @Record.get _ kind.record (value kind (setAttached attachment draft _)) slot = _
      rw [value_setAttached]
      rfl
    | attached another => exact attached_setAttached_ne h draft content

/-- Drafts that agree on all places are equal. -/
theorem ext_read {first second : Draft kind} (h : ∀ place, read first place = read second place) :
    first = second := by
  -- the held values agree in all slots; a kind without attached drafts is its value; for every
  -- other the lists are compared as well
  have hvalue : value kind first = value kind second :=
    @Record.ext_get _ kind.record _ _ fun slot => h (.held slot)
  cases kind with
  | field | property | constructor | enumMember => exact hvalue
  | enumeration =>
    have hmembers := h (.attached .enumerationMember)
    cases first
    cases second
    simp_all [value, read, attached]
  | «class» =>
    have hfields := h (.attached .classField)
    have hproperties := h (.attached .classProperty)
    have hconstructors := h (.attached .classConstructor)
    cases first
    cases second
    simp_all [value, read, attached]
  | struct =>
    have hfields := h (.attached .structField)
    have hproperties := h (.attached .structProperty)
    have hconstructors := h (.attached .structConstructor)
    cases first
    cases second
    simp_all [value, read, attached]
  | interface =>
    have hproperties := h (.attached .interfaceProperty)
    cases first
    cases second
    simp_all [value, read, attached]
  | «namespace» =>
    have hclasses := h (.attached .namespaceClass)
    have hstructs := h (.attached .namespaceStruct)
    have hinterfaces := h (.attached .namespaceInterface)
    have henums := h (.attached .namespaceEnumeration)
    cases first
    cases second
    simp_all [value, read, attached]

/-- Writing what is already there changes nothing. -/
theorem write_read (draft : Draft kind) (place : Place kind) :
    write draft place (read draft place) = draft := by
  refine ext_read fun second => ?_
  by_cases heq : second = place
  · subst heq
    exact read_write_self draft second _
  · exact read_write_ne heq draft _

end Draft

/-! ## Reading and writing a workspace -/

/-- A place of the draft that a reference refers to. -/
structure Address where
  kind : DraftKind
  ref : Ref kind
  place : Place kind

abbrev Address.Content (address : Address) : Type :=
  address.place.Content

namespace Workspace

/-- What a place of a draft holds. -/
def read (workspace : Workspace) (address : Address) : address.Content :=
  Draft.read (workspace.get address.ref) address.place

/-- The workspace with the given content in one place of one draft. -/
def write (workspace : Workspace) (address : Address) (content : address.Content) : Workspace :=
  workspace.set address.ref (Draft.write (workspace.get address.ref) address.place content)

theorem read_write_self (workspace : Workspace) (address : Address) (content : address.Content) :
    (workspace.write address content).read address = content := by
  unfold read write
  rw [get_set_self]
  exact Draft.read_write_self _ _ content

/-- Neither another place of the draft changes nor any place of another draft. -/
theorem read_write_ne (workspace : Workspace) {address other : Address} (h : other ≠ address)
    (content : address.Content) :
    (workspace.write address content).read other = workspace.read other := by
  obtain ⟨kind, ref, place⟩ := address
  obtain ⟨otherKind, otherRef, otherPlace⟩ := other
  unfold read write
  -- drafts of two kinds are stored apart, so only addresses of one draft need the law for drafts
  by_cases hkind : otherKind = kind
  · subst hkind
    by_cases href : otherRef = ref
    · subst href
      rw [get_set_self]
      have hplace : otherPlace ≠ place := fun heq => h (by rw [heq])
      exact Draft.read_write_ne hplace _ content
    · rw [get_set_ne workspace href]
  · rw [get_set_of_kind_ne workspace hkind]

/-- Workspaces that hand out the same references and agree on all places are equal. -/
theorem ext_read {first second : Workspace} (hnext : first.next = second.next)
    (h : ∀ address, first.read address = second.read address) : first = second := by
  refine ext hnext fun kind ref => ?_
  exact Draft.ext_read fun place => h ⟨kind, ref, place⟩

/-- Writing what a workspace holds already changes nothing. -/
theorem write_read (workspace : Workspace) (address : Address) :
    workspace.write address (workspace.read address) = workspace := by
  refine ext_read rfl fun other => ?_
  by_cases heq : other = address
  · subst heq
    exact workspace.read_write_self other _
  · exact workspace.read_write_ne heq _

/-- What is written in different places can be written in either order. -/
theorem write_comm (workspace : Workspace) {first second : Address} (h : first ≠ second)
    (content : first.Content) (other : second.Content) :
    (workspace.write first content).write second other
      = (workspace.write second other).write first content := by
  -- each address reads what was written there, in whichever order
  refine ext_read rfl fun address => ?_
  by_cases hfirst : address = first
  · subst hfirst
    rw [read_write_ne _ h, read_write_self, read_write_self]
  · by_cases hsecond : address = second
    · subst hsecond
      rw [read_write_self, read_write_ne _ (Ne.symm h), read_write_self]
    · rw [read_write_ne _ hsecond, read_write_ne _ hfirst, read_write_ne _ hfirst,
        read_write_ne _ hsecond]

end Workspace

end Scaffold
