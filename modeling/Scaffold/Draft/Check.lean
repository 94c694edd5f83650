import Scaffold.Error
import Scaffold.Declaration.Namespace
import Scaffold.Text.Blank

/-!
# Checks of built declarations

What has to hold of a declaration for its draft to be built. Each check reports the first thing
that is wrong. Checks of containers look at their own settings only.
-/

namespace Scaffold

/-- The setting of an entity must not be missing. -/
def checkSetting (entity setting : String) (text? : Option String) : Except Error Unit :=
  if Text.isMissing text? then .error (.missingSetting entity setting) else .ok ()

/-- A condition under which a declaration is not legal. -/
def refuseIf (condition : Bool) (error : Error) : Except Error Unit :=
  if condition then .error error else .ok ()

def Field.check (field : Field) : Except Error Field := do
  checkSetting "field" "type" field.type
  checkSetting "field" "name" field.name
  return field

/-- A property needs a name and a type, and accessors that go together. -/
def Property.check (property : Property) : Except Error Property := do
  checkSetting "property" "name" property.name
  checkSetting "property" "type" property.type
  let getter := property.getter.kind
  let setter := property.setter.kind
  refuseIf (setter == .automatic && getter == .absent) .setterWithoutGetter
  refuseIf (setter == .automatic && getter == .custom) .setterWithCustomGetter
  refuseIf (property.defaultValue.isSome && (getter == .custom || setter == .custom))
    .defaultWithCustomAccessor
  return property

def Parameter.check (parameter : Parameter) : Except Error Unit := do
  checkSetting "parameter" "type" (some parameter.type)
  checkSetting "parameter" "name" (some parameter.name)

/-- A constructor needs the name of its type, and parameters with types and names. -/
def Constructor.check (constructor : Constructor) : Except Error Constructor := do
  checkSetting "constructor" "class name" constructor.className
  constructor.parameters.forM Parameter.check
  return constructor

def EnumMember.check (member : EnumMember) : Except Error EnumMember := do
  checkSetting "enum member" "name" member.name
  return member

def Enumeration.checkOwn (enumeration : Enumeration) : Except Error Unit :=
  checkSetting "enum" "name" enumeration.name

/-- A class needs a name, and a static one has at most one constructor. -/
def Class.checkOwn (record : Class) (constructors : Nat) : Except Error Unit := do
  checkSetting "class" "name" record.name
  refuseIf (record.isStatic && 1 < constructors) .staticConstructors

def Struct.checkOwn (record : Struct) : Except Error Unit :=
  checkSetting "struct" "name" record.name

def Interface.checkOwn (record : Interface) : Except Error Unit :=
  checkSetting "interface" "name" record.name

def Namespace.checkOwn (record : Namespace) : Except Error Unit :=
  checkSetting "namespace" "name" record.name

end Scaffold
