import Scaffold.Declaration.Access
import Scaffold.Declaration.Parameter

/-!
# Constructors

A constructor is written with the name of the type that it belongs to. That name and whether the
constructor is static are decided by the type.
-/

namespace Scaffold

/-- A constructor of a class or struct. -/
structure Constructor where
  access : Access := .listed .public
  isStatic : Bool := false
  /-- The name of the type that the constructor belongs to. -/
  className : Option String := none
  /-- Documentation; a blank text is none. -/
  summary : Option String := none
  parameters : List Parameter := []
  /-- What the constructor of the base class is called with, if it is called. -/
  baseCallArguments : Option (List String) := none
deriving DecidableEq

/-! ## Slots -/

inductive ConstructorSlot where
  | access
  | isStatic
  | className
  | summary
  | parameters
  | baseCallArguments
deriving DecidableEq

instance : Record Constructor where
  label := "Constructor"
  Slot := ConstructorSlot
  decEq := inferInstance
  slots := [.access, .isStatic, .className, .summary, .parameters, .baseCallArguments]
  key
    | .access => "access_modifier"
    | .isStatic => "is_static"
    | .className => "class_name"
    | .summary => "summary"
    | .parameters => "parameters"
    | .baseCallArguments => "base_call_arguments"
  Value
    | .access => Access
    | .isStatic => Bool
    | .className => Option String
    | .summary => Option String
    | .parameters => List Parameter
    | .baseCallArguments => Option (List String)
  get record
    | .access => record.access
    | .isStatic => record.isStatic
    | .className => record.className
    | .summary => record.summary
    | .parameters => record.parameters
    | .baseCallArguments => record.baseCallArguments
  set record
    | .access, value => { record with access := value }
    | .isStatic, value => { record with isStatic := value }
    | .className, value => { record with className := value }
    | .summary, value => { record with summary := value }
    | .parameters, value => { record with parameters := value }
    | .baseCallArguments, value => { record with baseCallArguments := value }
  mem_slots slot := by cases slot <;> simp
  get_set_self record slot value := by cases slot <;> rfl
  get_set_ne record slot value other h := by
    cases slot <;> cases other <;> first | rfl | exact absurd rfl h
  ext_get first second h := by
    have hAccess := h .access
    have hIsStatic := h .isStatic
    have hClassName := h .className
    have hSummary := h .summary
    have hParameters := h .parameters
    have hBaseCallArguments := h .baseCallArguments
    cases first
    cases second
    simp_all

instance : RecordReader Constructor where
  fresh := {}
  isRequired _ := false
  readSlot
    | .access => Readable.read (α := Access)
    | .isStatic => Readable.read (α := Bool)
    | .className => Readable.read (α := Option String)
    | .summary => Readable.read (α := Option String)
    | .parameters => Readable.read (α := List Parameter)
    | .baseCallArguments => Readable.read (α := Option (List String))

end Scaffold
