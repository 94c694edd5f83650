import Scaffold.Declaration.Class
import Scaffold.Declaration.Enumeration
import Scaffold.Render.Fragment

/-!
# Source of members

The source of fields, properties, constructors and members of enumerations. It is loosely laid
out; layout gives it its final form.
-/

namespace Scaffold.Render

/-! ## Fields -/

/-- The declaration of a field of the given type and name. -/
def fieldText (field : Field) (type name : String) : String :=
  docBlock field.summary
    ++ words [field.access.keyword, optionalWord field.isReadonly "readonly", type, name] ++ ";"

def field (field : Field) : Except Error String := do
  let type ← require "field" "type" field.type
  let name ← require "field" "name" field.name
  return fragment (fieldText field type name)

/-! ## Properties -/

/-- The code of an accessor, which may be a block of its own. -/
def customAccessor (keyword expression : String) : String :=
  if expression.toList.head? = some '\x7b' then keyword ++ expression
  else keyword ++ " => " ++ expression ++ ";"

/-- An accessor behind its keyword; nothing for one that is not there. -/
def accessor (keyword : String) (accessor : Accessor) : String :=
  match accessor.kind with
  | .automatic => keyword ++ ";"
  | .custom => customAccessor keyword (accessor.expression.getD "")
  | _ => ""

/-- An accessor on a line of its own; nothing for one that is not there. -/
def accessorLine (text : String) : String :=
  if text = "" then "" else "    " ++ text ++ "\n"

/-- A default value with the equals sign before it and the semicolon after it, neither doubled. -/
def assignment (value : String) : String :=
  (if value.toList.head? = some '=' then "" else "= ") ++ value
    ++ (if value.toList.getLast? = some ';' then "" else ";")

/-- What stands behind a property: its default value, if it has one. -/
def initializer : Option String → String
  | none => ""
  | some value => " " ++ assignment value

/-- The block of the accessors of a property. -/
def accessorBlock (property : Property) : String :=
  accessorLine (accessor "get" property.effectiveGetter)
    ++ accessorLine (accessor "set" property.effectiveSetter)

/-- The declaration of a property up to its type and name. -/
def propertyHeader (property : Property) (type name : String) : String :=
  docBlock property.summary
    ++ words [property.access.keyword, optionalWord property.isStatic "static", type, name]

/-- The declaration of a property of the given type and name. -/
def propertyText (property : Property) (type name : String) : String :=
  if property.hasAccessors then
    block (propertyHeader property type name) (accessorBlock property)
      ++ initializer property.defaultValue
  else
    propertyHeader property type name
      ++ (if property.defaultValue = none then ";" else initializer property.defaultValue)

def property (property : Property) : Except Error String := do
  let type ← require "property" "type" property.type
  let name ← require "property" "name" property.name
  return fragment (propertyText property type name)

/-! ## Constructors -/

/-- The parameters of a constructor. -/
def parameterList (parameters : List Parameter) : String :=
  ", ".intercalate (parameters.map fun parameter => parameter.type ++ " " ++ parameter.name)

/-- The call of the constructor of the base class, if there is one. -/
def baseCall : Option (List String) → String
  | none => ""
  | some arguments => " : base(" ++ ", ".intercalate arguments ++ ")"

/-- The statement that stores a parameter, if it is stored. -/
def storing (parameter : Parameter) : String :=
  match Text.given? parameter.receivingMember with
  | none => ""
  | some member => "    " ++ member ++ " = " ++ parameter.name ++ ";\n"

/-- The declaration of a constructor of the given type up to its block. -/
def constructorHeader (constructor : Constructor) (className : String) : String :=
  docBlock constructor.summary
    ++ words [optionalWord (!constructor.isStatic) constructor.access.keyword,
        optionalWord constructor.isStatic "static", className]
    ++ "(" ++ parameterList constructor.parameters ++ ")" ++ baseCall constructor.baseCallArguments

/-- The declaration of a constructor of the given type. -/
def constructorText (constructor : Constructor) (className : String) : String :=
  block (constructorHeader constructor className) (String.join (constructor.parameters.map storing))

def constructor (constructor : Constructor) : Except Error String := do
  let className ← require "constructor" "class name" constructor.className
  return fragment (constructorText constructor className)

/-! ## Members of enumerations -/

/-- The number of a member behind its name, if it has one. -/
def enumValue : Option Int → String
  | none => ""
  | some value => " = " ++ toString value

/-- The declaration of a member of an enumeration. -/
def enumMemberText (member : EnumMember) (name : String) : String :=
  docBlock member.summary ++ name ++ enumValue member.value ++ ","

/-- The source of a member of an enumeration. -/
def enumMember (member : EnumMember) : Except Error String := do
  let name ← require "enum member" "name" member.name
  return fragment (enumMemberText member name)

end Scaffold.Render
