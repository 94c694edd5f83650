import Scaffold.Declaration
import Scaffold.Proofs.Raw.Update

/-!
# Changing declarations

The eleven types of declarations follow changes by key (`declarations_follow_changes`): their slots
are told apart by their keys (`DeclarationType.isKeyed`). A change under the key of the record
itself is the one that is refused without a report (`selfChange_is_not_reported`).
-/

namespace Scaffold

/-- The types of declarations. -/
inductive DeclarationType where
  | accessor
  | field
  | property
  | parameter
  | constructor
  | enumMember
  | enumeration
  | «class»
  | struct
  | interface
  | «namespace»

namespace DeclarationType

abbrev Value : DeclarationType → Type
  | .accessor => Accessor
  | .field => Field
  | .property => Property
  | .parameter => Parameter
  | .constructor => Constructor
  | .enumMember => EnumMember
  | .enumeration => Enumeration
  | .class => Class
  | .struct => Struct
  | .interface => Interface
  | .namespace => Namespace

@[reducible]
def record : (type : DeclarationType) → Record type.Value
  | .accessor => inferInstanceAs (Record Accessor)
  | .field => inferInstanceAs (Record Field)
  | .property => inferInstanceAs (Record Property)
  | .parameter => inferInstanceAs (Record Parameter)
  | .constructor => inferInstanceAs (Record Constructor)
  | .enumMember => inferInstanceAs (Record EnumMember)
  | .enumeration => inferInstanceAs (Record Enumeration)
  | .class => inferInstanceAs (Record Class)
  | .struct => inferInstanceAs (Record Struct)
  | .interface => inferInstanceAs (Record Interface)
  | .namespace => inferInstanceAs (Record Namespace)

instance (type : DeclarationType) : Record type.Value := type.record

/-- No two slots of a declaration share a key, and none of them has the key of the record itself. -/
theorem isKeyed (type : DeclarationType) : Record.IsKeyed type.Value := by
  cases type <;> exact Record.isKeyed_of_nodup (by decide) (by decide)

end DeclarationType

/-- **Declarations follow changes by key.** Changes of slots give a copy that is otherwise the same,
and further changes win over them, as they would in one map. Of the keys that name no slot the least
is reported, in whatever order they are passed and whatever known ones go with them, just if the key
of the record itself is not among them; with that key there is no call. All this does not depend on
the contents of slots being those of the type. -/
theorem declarations_follow_changes (type : DeclarationType) :
    FollowsChanges type.Value
      ∧ ∀ Content : Record.Slot type.Value → Type, FollowsChanges (Unchecked type.Value Content) :=
  ⟨followsChanges_of_isKeyed type.isKeyed, fun Content =>
    followsChanges_of_isKeyed (isKeyed_unchecked type.isKeyed Content)⟩

def tally : Field where
  type := some "int"
  name := some "count"

def naming : ChangeMap Field where
  entries := [.known ⟨FieldSlot.name, some "sum"⟩, .known ⟨FieldSlot.isReadonly, true⟩]
  nodup_keys := by decide
  slot?_eq_none := by simp

def retyping : ChangeMap Field where
  entries := [.known ⟨FieldSlot.type, some "long"⟩, .known ⟨FieldSlot.name, some "total"⟩]
  nodup_keys := by decide
  slot?_eq_none := by simp

/-- Two of the keys name no slot. -/
def misspelling : ChangeMap Field where
  entries := [.unknown "zeal", .known ⟨FieldSlot.name, some "total"⟩, .unknown "colour"]
  nodup_keys := by decide
  slot?_eq_none := by simp; decide

theorem tally_follows_changes :
    Record.updateByKey tally (naming.overriddenBy retyping).entries
        = .ok { tally with type := some "long", name := some "total", isReadonly := true }
      ∧ Record.updateByKey tally misspelling.entries
        = .error (.error (.unknownKey "Field" "colour")) := by
  obtain ⟨⟨-, hoverrides, hreports, -, -⟩, -⟩ := declarations_follow_changes .field
  constructor
  -- what one change after the other makes is evaluated; one map of both then makes the same
  · obtain ⟨between, after, hbetween, hafter, hboth, -⟩ :=
      hoverrides tally naming retyping rfl rfl
    obtain rfl := Except.ok.inj hbetween
    obtain rfl := Except.ok.inj hafter
    exact hboth
  · obtain ⟨key, hmem, hleast, hreport⟩ :=
      (hreports tally misspelling).mpr ⟨nofun, by decide⟩
    -- the least of the two unknown keys is not the one passed first
    have hkey : key = "colour" := by
      have hkeys : key ∈ ["zeal", "colour"] := hmem
      have hcolour : key ≤ "colour" := hleast "colour" (by decide)
      simp only [List.mem_cons, List.not_mem_nil, or_false] at hkeys
      rcases hkeys with rfl | rfl
      · exact absurd hcolour (by decide)
      · rfl
    rw [← hkey]
    exact hreport

/-- A change under the key of the record itself. -/
def selfChange : ChangeMap Field where
  entries := [.unknown Record.selfKey]
  nodup_keys := by decide
  slot?_eq_none := by simp; decide

/-- No slot is named by the key of the record, and yet it is not reported. -/
theorem selfChange_is_not_reported :
    selfChange.unknownKeys = ["self"]
      ∧ Record.updateByKey tally selfChange.entries = .error .wrongArity
      ∧ ∀ key, Record.updateByKey tally selfChange.entries
        ≠ .error (.error (.unknownKey (Record.label Field) key)) :=
  ⟨rfl, rfl, fun _ => nofun⟩

end Scaffold
