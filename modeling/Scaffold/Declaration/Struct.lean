import Scaffold.Declaration.Field
import Scaffold.Declaration.Property
import Scaffold.Declaration.Constructor

/-!
# Structs

A struct has fields, properties and constructors, and may extend interfaces.
-/

namespace Scaffold

structure Struct where
  access : Access := .listed .public
  name : Option String := none
  /-- Documentation; a blank text is none. -/
  summary : Option String := none
  implementedInterfaces : List String := []
  fields : List Field := []
  properties : List Property := []
  constructors : List Constructor := []
deriving DecidableEq

/-! ## Slots -/

inductive StructSlot where
  | access
  | name
  | summary
  | implementedInterfaces
  | fields
  | properties
  | constructors
deriving DecidableEq

instance : Record Struct where
  label := "Struct"
  Slot := StructSlot
  decEq := inferInstance
  slots := [.access, .name, .summary, .implementedInterfaces, .fields, .properties, .constructors]
  key
    | .access => "access_modifier"
    | .name => "name"
    | .summary => "summary"
    | .implementedInterfaces => "implemented_interfaces"
    | .fields => "fields"
    | .properties => "properties"
    | .constructors => "constructors"
  Value
    | .access => Access
    | .name => Option String
    | .summary => Option String
    | .implementedInterfaces => List String
    | .fields => List Field
    | .properties => List Property
    | .constructors => List Constructor
  get record
    | .access => record.access
    | .name => record.name
    | .summary => record.summary
    | .implementedInterfaces => record.implementedInterfaces
    | .fields => record.fields
    | .properties => record.properties
    | .constructors => record.constructors
  set record
    | .access, value => { record with access := value }
    | .name, value => { record with name := value }
    | .summary, value => { record with summary := value }
    | .implementedInterfaces, value => { record with implementedInterfaces := value }
    | .fields, value => { record with fields := value }
    | .properties, value => { record with properties := value }
    | .constructors, value => { record with constructors := value }
  mem_slots slot := by cases slot <;> simp
  get_set_self record slot value := by cases slot <;> rfl
  get_set_ne record slot value other h := by
    cases slot <;> cases other <;> first | rfl | exact absurd rfl h
  ext_get first second h := by
    have hAccess := h .access
    have hName := h .name
    have hSummary := h .summary
    have hImplementedInterfaces := h .implementedInterfaces
    have hFields := h .fields
    have hProperties := h .properties
    have hConstructors := h .constructors
    cases first
    cases second
    simp_all

instance : RecordReader Struct where
  fresh := {}
  isRequired _ := false
  readSlot
    | .access => Readable.read (α := Access)
    | .name => Readable.read (α := Option String)
    | .summary => Readable.read (α := Option String)
    | .implementedInterfaces => Readable.read (α := List String)
    | .fields => Readable.read (α := List Field)
    | .properties => Readable.read (α := List Property)
    | .constructors => Readable.read (α := List Constructor)

end Scaffold
