import Scaffold.Raw.Record

/-!
# Parameters

A parameter of a constructor may be stored in a member of the type.
-/

namespace Scaffold

structure Parameter where
  type : String
  name : String
  /-- The member that the constructor assigns the parameter to. -/
  receivingMember : Option String := none
deriving DecidableEq

/-! ## Slots -/

inductive ParameterSlot where
  | type
  | name
  | receivingMember
deriving DecidableEq

instance : Record Parameter where
  label := "Parameter"
  Slot := ParameterSlot
  decEq := inferInstance
  slots := [.type, .name, .receivingMember]
  key
    | .type => "type"
    | .name => "name"
    | .receivingMember => "receiving_member"
  Value
    | .type => String
    | .name => String
    | .receivingMember => Option String
  get record
    | .type => record.type
    | .name => record.name
    | .receivingMember => record.receivingMember
  set record
    | .type, value => { record with type := value }
    | .name, value => { record with name := value }
    | .receivingMember, value => { record with receivingMember := value }
  mem_slots slot := by cases slot <;> simp
  get_set_self record slot value := by cases slot <;> rfl
  get_set_ne record slot value other h := by
    cases slot <;> cases other <;> first | rfl | exact absurd rfl h
  ext_get first second h := by
    have hType := h .type
    have hName := h .name
    have hReceivingMember := h .receivingMember
    cases first
    cases second
    simp_all

instance : RecordReader Parameter where
  fresh := { type := "", name := "" }
  isRequired
    | .type => true
    | .name => true
    | _ => false
  readSlot
    | .type => Readable.read (α := String)
    | .name => Readable.read (α := String)
    | .receivingMember => Readable.read (α := Option String)

end Scaffold
