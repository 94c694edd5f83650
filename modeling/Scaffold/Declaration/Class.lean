import Scaffold.Declaration.Field
import Scaffold.Declaration.Property
import Scaffold.Declaration.Constructor

/-!
# Classes

A class has fields, properties and constructors, and may extend a class and interfaces.
-/

namespace Scaffold

structure Class where
  access : Access := .listed .public
  isStatic : Bool := false
  name : Option String := none
  /-- Documentation; a blank text is none. -/
  summary : Option String := none
  /-- The class that the class inherits from. -/
  inheritedClass : Option String := none
  implementedInterfaces : List String := []
  fields : List Field := []
  properties : List Property := []
  constructors : List Constructor := []
deriving DecidableEq

/-- What the class is declared to extend: the class it inherits from, unless that has no name, and
then its interfaces. -/
def Class.inheritance (record : Class) : List String :=
  match record.inheritedClass with
  | none => record.implementedInterfaces
  | some base =>
    if base = "" then record.implementedInterfaces else base :: record.implementedInterfaces

/-! ## Slots -/

inductive ClassSlot where
  | access
  | isStatic
  | name
  | summary
  | inheritedClass
  | implementedInterfaces
  | fields
  | properties
  | constructors
deriving DecidableEq

instance : Record Class where
  label := "Class"
  Slot := ClassSlot
  decEq := inferInstance
  slots :=
    [.access, .isStatic, .name, .summary, .inheritedClass,
     .implementedInterfaces, .fields, .properties, .constructors]
  key
    | .access => "access_modifier"
    | .isStatic => "is_static"
    | .name => "name"
    | .summary => "summary"
    | .inheritedClass => "inherited_class"
    | .implementedInterfaces => "implemented_interfaces"
    | .fields => "fields"
    | .properties => "properties"
    | .constructors => "constructors"
  Value
    | .access => Access
    | .isStatic => Bool
    | .name => Option String
    | .summary => Option String
    | .inheritedClass => Option String
    | .implementedInterfaces => List String
    | .fields => List Field
    | .properties => List Property
    | .constructors => List Constructor
  get record
    | .access => record.access
    | .isStatic => record.isStatic
    | .name => record.name
    | .summary => record.summary
    | .inheritedClass => record.inheritedClass
    | .implementedInterfaces => record.implementedInterfaces
    | .fields => record.fields
    | .properties => record.properties
    | .constructors => record.constructors
  set record
    | .access, value => { record with access := value }
    | .isStatic, value => { record with isStatic := value }
    | .name, value => { record with name := value }
    | .summary, value => { record with summary := value }
    | .inheritedClass, value => { record with inheritedClass := value }
    | .implementedInterfaces, value => { record with implementedInterfaces := value }
    | .fields, value => { record with fields := value }
    | .properties, value => { record with properties := value }
    | .constructors, value => { record with constructors := value }
  mem_slots slot := by cases slot <;> simp
  get_set_self record slot value := by cases slot <;> rfl
  get_set_ne record slot value other h := by
    cases slot <;> cases other <;> first | rfl | exact absurd rfl h
  ext_get first second h := by
    have hAccess := h .access
    have hIsStatic := h .isStatic
    have hName := h .name
    have hSummary := h .summary
    have hInheritedClass := h .inheritedClass
    have hImplementedInterfaces := h .implementedInterfaces
    have hFields := h .fields
    have hProperties := h .properties
    have hConstructors := h .constructors
    cases first
    cases second
    simp_all

instance : RecordReader Class where
  fresh := {}
  isRequired _ := false
  readSlot
    | .access => Readable.read (α := Access)
    | .isStatic => Readable.read (α := Bool)
    | .name => Readable.read (α := Option String)
    | .summary => Readable.read (α := Option String)
    | .inheritedClass => Readable.read (α := Option String)
    | .implementedInterfaces => Readable.read (α := List String)
    | .fields => Readable.read (α := List Field)
    | .properties => Readable.read (α := List Property)
    | .constructors => Readable.read (α := List Constructor)

end Scaffold
