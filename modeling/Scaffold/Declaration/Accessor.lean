import Scaffold.Raw.Record
import Scaffold.Text.Blank

/-!
# Accessors

A property is read through its getter and written through its setter. Each of the two has never
been configured, has been taken away, is generated, or has code of its own.
-/

namespace Scaffold

/-- How a getter or setter comes about. -/
inductive AccessorKind where
  /-- Nothing has been said about it. -/
  | unconfigured
  /-- There is none. -/
  | absent
  /-- It is generated. -/
  | automatic
  /-- It has code of its own. -/
  | custom
deriving DecidableEq

namespace AccessorKind

def all : List AccessorKind := [.unconfigured, .absent, .automatic, .custom]

def name : AccessorKind → String
  | .unconfigured => "unconfigured"
  | .absent => "none"
  | .automatic => "default"
  | .custom => "custom"

def ofName? (name : String) : Option AccessorKind :=
  all.find? fun kind => kind.name == name

instance : Readable AccessorKind where
  read
    | .text text =>
      match ofName? text with
      | some kind => .ok kind
      | none => Checked.fail .notListed
    | _ => Checked.fail .notListed

end AccessorKind

/-- A getter or setter. -/
structure Accessor where
  kind : AccessorKind := .unconfigured
  /-- The code of a custom accessor: an expression, or a block in braces. -/
  expression : Option String := none
deriving DecidableEq

namespace Accessor

/-- Nothing has been said about the accessor. -/
def unconfigured : Accessor := {}

def absent : Accessor := { kind := .absent }

def automatic : Accessor := { kind := .automatic }

/-- The accessor with the given code; without any it is generated. -/
def custom (expression : Option String) : Accessor :=
  if Text.isMissing expression then automatic else { kind := .custom, expression := expression }

/-- The accessor has not been taken away. -/
def isPresent (accessor : Accessor) : Bool :=
  accessor.kind != .absent

/-- Without code an accessor is generated. -/
theorem custom_of_isMissing {expression : Option String} (h : Text.isMissing expression = true) :
    custom expression = automatic := by
  simp [custom, h]

/-- Code is kept as it stands, white space at its ends included. -/
theorem custom_some {expression : String} (h : Text.isBlankText expression = false) :
    custom (some expression) = { kind := .custom, expression := some expression } := by
  simp [custom, Text.isMissing, h]

end Accessor

inductive AccessorSlot where
  | kind
  | expression
deriving DecidableEq

instance : Record Accessor where
  label := "Accessor"
  Slot := AccessorSlot
  decEq := inferInstance
  slots := [.kind, .expression]
  key
    | .kind => "kind"
    | .expression => "expression"
  Value
    | .kind => AccessorKind
    | .expression => Option String
  get accessor
    | .kind => accessor.kind
    | .expression => accessor.expression
  set accessor
    | .kind, value => { accessor with kind := value }
    | .expression, value => { accessor with expression := value }
  mem_slots slot := by cases slot <;> simp
  get_set_self record slot value := by cases slot <;> rfl
  get_set_ne record slot value other h := by
    cases slot <;> cases other <;> first | rfl | exact absurd rfl h
  ext_get first second h := by
    have hkind := h .kind
    have hexpression := h .expression
    cases first
    cases second
    simp_all

instance : RecordReader Accessor where
  fresh := {}
  isRequired _ := false
  readSlot
    | .kind => Readable.read (α := AccessorKind)
    | .expression => Readable.read (α := Option String)

end Scaffold
