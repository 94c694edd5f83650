import Scaffold.Declaration.Class
import Scaffold.Declaration.Struct
import Scaffold.Declaration.Interface
import Scaffold.Declaration.Enumeration

/-!
# Namespaces

A namespace is the outermost declaration: it holds types, below the namespaces that they use.
-/

namespace Scaffold

structure Namespace where
  name : Option String := none
  /-- The namespaces that the declarations use. -/
  usings : List String := []
  classes : List Class := []
  structs : List Struct := []
  interfaces : List Interface := []
  enums : List Enumeration := []
deriving DecidableEq

/-! ## Slots -/

inductive NamespaceSlot where
  | name
  | usings
  | classes
  | structs
  | interfaces
  | enums
deriving DecidableEq

instance : Record Namespace where
  label := "Namespace"
  Slot := NamespaceSlot
  decEq := inferInstance
  slots := [.name, .usings, .classes, .structs, .interfaces, .enums]
  key
    | .name => "name"
    | .usings => "usings"
    | .classes => "classes"
    | .structs => "structs"
    | .interfaces => "interfaces"
    | .enums => "enums"
  Value
    | .name => Option String
    | .usings => List String
    | .classes => List Class
    | .structs => List Struct
    | .interfaces => List Interface
    | .enums => List Enumeration
  get record
    | .name => record.name
    | .usings => record.usings
    | .classes => record.classes
    | .structs => record.structs
    | .interfaces => record.interfaces
    | .enums => record.enums
  set record
    | .name, value => { record with name := value }
    | .usings, value => { record with usings := value }
    | .classes, value => { record with classes := value }
    | .structs, value => { record with structs := value }
    | .interfaces, value => { record with interfaces := value }
    | .enums, value => { record with enums := value }
  mem_slots slot := by cases slot <;> simp
  get_set_self record slot value := by cases slot <;> rfl
  get_set_ne record slot value other h := by
    cases slot <;> cases other <;> first | rfl | exact absurd rfl h
  ext_get first second h := by
    have hName := h .name
    have hUsings := h .usings
    have hClasses := h .classes
    have hStructs := h .structs
    have hInterfaces := h .interfaces
    have hEnums := h .enums
    cases first
    cases second
    simp_all

instance : RecordReader Namespace where
  fresh := {}
  isRequired _ := false
  readSlot
    | .name => Readable.read (α := Option String)
    | .usings => Readable.read (α := List String)
    | .classes => Readable.read (α := List Class)
    | .structs => Readable.read (α := List Struct)
    | .interfaces => Readable.read (α := List Interface)
    | .enums => Readable.read (α := List Enumeration)

end Scaffold
