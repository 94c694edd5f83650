import Scaffold.Declaration.Access
import Scaffold.Raw.Record

/-!
# Fields

A field is a variable of a class or struct.
-/

namespace Scaffold

/-- A field of a class or struct. -/
structure Field where
  access : Access := .listed .private
  isReadonly : Bool := false
  type : Option String := none
  name : Option String := none
  /-- Documentation; a blank text is none. -/
  summary : Option String := none
deriving DecidableEq

/-! ## Slots -/

inductive FieldSlot where
  | access
  | isReadonly
  | type
  | name
  | summary
deriving DecidableEq

instance : Record Field where
  label := "Field"
  Slot := FieldSlot
  decEq := inferInstance
  slots := [.access, .isReadonly, .type, .name, .summary]
  key
    | .access => "access_modifier"
    | .isReadonly => "is_readonly"
    | .type => "type"
    | .name => "name"
    | .summary => "summary"
  Value
    | .access => Access
    | .isReadonly => Bool
    | .type => Option String
    | .name => Option String
    | .summary => Option String
  get record
    | .access => record.access
    | .isReadonly => record.isReadonly
    | .type => record.type
    | .name => record.name
    | .summary => record.summary
  set record
    | .access, value => { record with access := value }
    | .isReadonly, value => { record with isReadonly := value }
    | .type, value => { record with type := value }
    | .name, value => { record with name := value }
    | .summary, value => { record with summary := value }
  mem_slots slot := by cases slot <;> simp
  get_set_self record slot value := by cases slot <;> rfl
  get_set_ne record slot value other h := by
    cases slot <;> cases other <;> first | rfl | exact absurd rfl h
  ext_get first second h := by
    have hAccess := h .access
    have hIsReadonly := h .isReadonly
    have hType := h .type
    have hName := h .name
    have hSummary := h .summary
    cases first
    cases second
    simp_all

instance : RecordReader Field where
  fresh := {}
  isRequired _ := false
  readSlot
    | .access => Readable.read (α := Access)
    | .isReadonly => Readable.read (α := Bool)
    | .type => Readable.read (α := Option String)
    | .name => Readable.read (α := Option String)
    | .summary => Readable.read (α := Option String)

end Scaffold
