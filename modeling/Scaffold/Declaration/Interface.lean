import Scaffold.Declaration.Property

/-!
# Interfaces

An interface has properties and may extend interfaces.
-/

namespace Scaffold

structure Interface where
  access : Access := .listed .public
  name : Option String := none
  /-- Documentation; a blank text is none. -/
  summary : Option String := none
  implementedInterfaces : List String := []
  properties : List Property := []
deriving DecidableEq

/-! ## Slots -/

inductive InterfaceSlot where
  | access
  | name
  | summary
  | implementedInterfaces
  | properties
deriving DecidableEq

instance : Record Interface where
  label := "Interface"
  Slot := InterfaceSlot
  decEq := inferInstance
  slots := [.access, .name, .summary, .implementedInterfaces, .properties]
  key
    | .access => "access_modifier"
    | .name => "name"
    | .summary => "summary"
    | .implementedInterfaces => "implemented_interfaces"
    | .properties => "properties"
  Value
    | .access => Access
    | .name => Option String
    | .summary => Option String
    | .implementedInterfaces => List String
    | .properties => List Property
  get record
    | .access => record.access
    | .name => record.name
    | .summary => record.summary
    | .implementedInterfaces => record.implementedInterfaces
    | .properties => record.properties
  set record
    | .access, value => { record with access := value }
    | .name, value => { record with name := value }
    | .summary, value => { record with summary := value }
    | .implementedInterfaces, value => { record with implementedInterfaces := value }
    | .properties, value => { record with properties := value }
  mem_slots slot := by cases slot <;> simp
  get_set_self record slot value := by cases slot <;> rfl
  get_set_ne record slot value other h := by
    cases slot <;> cases other <;> first | rfl | exact absurd rfl h
  ext_get first second h := by
    have hAccess := h .access
    have hName := h .name
    have hSummary := h .summary
    have hImplementedInterfaces := h .implementedInterfaces
    have hProperties := h .properties
    cases first
    cases second
    simp_all

instance : RecordReader Interface where
  fresh := {}
  isRequired _ := false
  readSlot
    | .access => Readable.read (α := Access)
    | .name => Readable.read (α := Option String)
    | .summary => Readable.read (α := Option String)
    | .implementedInterfaces => Readable.read (α := List String)
    | .properties => Readable.read (α := List Property)

end Scaffold
