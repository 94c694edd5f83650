import Scaffold.Raw.Record

/-!
# Members of enumerations

A member of an enumeration has a name and may have a number.
-/

namespace Scaffold

structure EnumMember where
  name : Option String := none
  value : Option Int := none
  /-- Documentation; a blank text is none. -/
  summary : Option String := none
deriving DecidableEq

/-! ## Slots -/

inductive EnumMemberSlot where
  | name
  | value
  | summary
deriving DecidableEq

instance : Record EnumMember where
  label := "EnumerationMember"
  Slot := EnumMemberSlot
  decEq := inferInstance
  slots := [.name, .value, .summary]
  key
    | .name => "name"
    | .value => "value"
    | .summary => "summary"
  Value
    | .name => Option String
    | .value => Option Int
    | .summary => Option String
  get record
    | .name => record.name
    | .value => record.value
    | .summary => record.summary
  set record
    | .name, value => { record with name := value }
    | .value, value => { record with value := value }
    | .summary, value => { record with summary := value }
  mem_slots slot := by cases slot <;> simp
  get_set_self record slot value := by cases slot <;> rfl
  get_set_ne record slot value other h := by
    cases slot <;> cases other <;> first | rfl | exact absurd rfl h
  ext_get first second h := by
    have hName := h .name
    have hValue := h .value
    have hSummary := h .summary
    cases first
    cases second
    simp_all

instance : RecordReader EnumMember where
  fresh := {}
  isRequired _ := false
  readSlot
    | .name => Readable.read (α := Option String)
    | .value => Readable.read (α := Option Int)
    | .summary => Readable.read (α := Option String)

end Scaffold
