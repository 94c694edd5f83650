import Scaffold.Declaration.Access
import Scaffold.Declaration.Accessor

/-!
# Properties

A property is read and written through accessors. Its accessors as they are configured may leave
one of them open; `effectiveGetter` and `effectiveSetter` are the accessors that are rendered.
-/

namespace Scaffold

/-- A property of a class, struct or interface. -/
structure Property where
  access : Access := .listed .public
  isStatic : Bool := false
  type : Option String := none
  name : Option String := none
  /-- Documentation; a blank text is none. -/
  summary : Option String := none
  /-- The expression that the property starts with. -/
  defaultValue : Option String := none
  getter : Accessor := .unconfigured
  setter : Accessor := .unconfigured
deriving DecidableEq

namespace Property

/-- The getter that is rendered: one that was never configured is generated, unless the setter has
code of its own. -/
def effectiveGetter (property : Property) : Accessor :=
  match property.getter.kind, property.setter.kind with
  | .unconfigured, .custom => .absent
  | .unconfigured, _ => .automatic
  | _, _ => property.getter

/-- The setter that is rendered: one that was never configured is generated exactly beside a
generated getter. -/
def effectiveSetter (property : Property) : Accessor :=
  match property.setter.kind, property.effectiveGetter.kind with
  | .unconfigured, .automatic => .automatic
  | .unconfigured, _ => .absent
  | _, _ => property.setter

/-- The rendered property has a block of accessors. -/
def hasAccessors (property : Property) : Bool :=
  property.effectiveGetter.isPresent || property.effectiveSetter.isPresent

/-- The property with its accessors as they are rendered. -/
def resolve (property : Property) : Property :=
  { property with getter := property.effectiveGetter, setter := property.effectiveSetter }

end Property

/-! ## Slots -/

inductive PropertySlot where
  | access
  | isStatic
  | type
  | name
  | summary
  | defaultValue
  | getter
  | setter
deriving DecidableEq

instance : Record Property where
  label := "Property"
  Slot := PropertySlot
  decEq := inferInstance
  slots := [.access, .isStatic, .type, .name, .summary, .defaultValue, .getter, .setter]
  key
    | .access => "access_modifier"
    | .isStatic => "is_static"
    | .type => "type"
    | .name => "name"
    | .summary => "summary"
    | .defaultValue => "default_value"
    | .getter => "getter"
    | .setter => "setter"
  Value
    | .access => Access
    | .isStatic => Bool
    | .type => Option String
    | .name => Option String
    | .summary => Option String
    | .defaultValue => Option String
    | .getter => Accessor
    | .setter => Accessor
  get record
    | .access => record.access
    | .isStatic => record.isStatic
    | .type => record.type
    | .name => record.name
    | .summary => record.summary
    | .defaultValue => record.defaultValue
    | .getter => record.getter
    | .setter => record.setter
  set record
    | .access, value => { record with access := value }
    | .isStatic, value => { record with isStatic := value }
    | .type, value => { record with type := value }
    | .name, value => { record with name := value }
    | .summary, value => { record with summary := value }
    | .defaultValue, value => { record with defaultValue := value }
    | .getter, value => { record with getter := value }
    | .setter, value => { record with setter := value }
  mem_slots slot := by cases slot <;> simp
  get_set_self record slot value := by cases slot <;> rfl
  get_set_ne record slot value other h := by
    cases slot <;> cases other <;> first | rfl | exact absurd rfl h
  ext_get first second h := by
    have hAccess := h .access
    have hIsStatic := h .isStatic
    have hType := h .type
    have hName := h .name
    have hSummary := h .summary
    have hDefaultValue := h .defaultValue
    have hGetter := h .getter
    have hSetter := h .setter
    cases first
    cases second
    simp_all

instance : RecordReader Property where
  fresh := {}
  isRequired _ := false
  readSlot
    | .access => Readable.read (α := Access)
    | .isStatic => Readable.read (α := Bool)
    | .type => Readable.read (α := Option String)
    | .name => Readable.read (α := Option String)
    | .summary => Readable.read (α := Option String)
    | .defaultValue => Readable.read (α := Option String)
    | .getter => Readable.read (α := Accessor)
    | .setter => Readable.read (α := Accessor)

end Scaffold
