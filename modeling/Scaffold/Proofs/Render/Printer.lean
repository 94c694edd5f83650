import Scaffold.Proofs.Render.Plain
import Scaffold.Render

/-!
# A direct printer

Rendering puts loose source together and lays it out in a second pass, which finds the lines and
depths again from the braces. The printer of this module needs no second pass: it walks over a
declaration once and writes each line where it belongs, at the depth that it carries along.

* **`HasPlainTexts`**: the texts of a declaration give layout no reason to cut them or to close
  them up.
* **`Printer.print`**: the printer.
-/

namespace Scaffold

/-! ## Plain declarations -/

/-- A required text is there, and plain. -/
def HasPlain (text? : Option String) : Prop :=
  ∃ text ∈ text?, IsPlain text
deriving Decidable

/-- A plain text is not missing where one is required. -/
theorem HasPlain.require_eq {text? : Option String} (h : HasPlain text?) (entity setting : String) :
    Render.require entity setting text? = .ok (text?.getD "") := by
  obtain ⟨text, rfl, hplain⟩ := h
  rw [Render.require_eq_ok_iff]
  exact ⟨rfl, hplain.isBlankText_eq⟩

theorem HasPlain.isPlain_getD {text? : Option String} (h : HasPlain text?) :
    IsPlain (text?.getD "") := by
  obtain ⟨text, rfl, hplain⟩ := h
  exact hplain

/-- Every carriage return of a summary stands before a line feed. -/
def HasPairedReturns (summary : Option String) : Prop :=
  ∀ text ∈ summary, '\r' ∉ Text.dropPairedReturns text.toList
deriving Decidable

/-! Of each kind of declaration, the required texts are there and plain, and the others are plain
where there are any. A summary only has to pair its carriage returns. -/

def Parameter.HasPlainTexts (parameter : Parameter) : Prop :=
  IsPlain parameter.type ∧ IsPlain parameter.name
    ∧ ∀ member ∈ Text.given? parameter.receivingMember, IsPlain member
deriving Decidable

/-- A custom accessor has an expression, and that is plain. -/
def Accessor.HasPlainTexts (accessor : Accessor) : Prop :=
  accessor.kind = .custom → HasPlain accessor.expression
deriving Decidable

def Field.HasPlainTexts (field : Field) : Prop :=
  HasPlain field.type ∧ HasPlain field.name ∧ HasPairedReturns field.summary
deriving Decidable

def Property.HasPlainTexts (property : Property) : Prop :=
  HasPlain property.type ∧ HasPlain property.name ∧ HasPairedReturns property.summary
    ∧ (∀ value ∈ property.defaultValue, IsPlain value)
    ∧ property.getter.HasPlainTexts ∧ property.setter.HasPlainTexts
deriving Decidable

def Constructor.HasPlainTexts (constructor : Constructor) : Prop :=
  HasPlain constructor.className ∧ HasPairedReturns constructor.summary
    ∧ (∀ parameter ∈ constructor.parameters, parameter.HasPlainTexts)
    ∧ ∀ arguments ∈ constructor.baseCallArguments, ∀ argument ∈ arguments, IsPlain argument
deriving Decidable

def EnumMember.HasPlainTexts (member : EnumMember) : Prop :=
  HasPlain member.name ∧ HasPairedReturns member.summary
deriving Decidable

/-- The attribute of flags is plain as well, where it is rendered. -/
def Enumeration.HasPlainTexts (settings : RenderSettings) (enumeration : Enumeration) : Prop :=
  HasPlain enumeration.name ∧ HasPairedReturns enumeration.summary
    ∧ (enumeration.isFlags = true → IsPlain settings.flagsAttribute)
    ∧ ∀ member ∈ enumeration.members, member.HasPlainTexts
deriving Decidable

def Class.HasPlainTexts (record : Class) : Prop :=
  HasPlain record.name ∧ HasPairedReturns record.summary
    ∧ (∀ base ∈ Text.given? record.inheritedClass, IsPlain base)
    ∧ (∀ name ∈ record.implementedInterfaces, IsPlain name)
    ∧ (∀ field ∈ record.fields, field.HasPlainTexts)
    ∧ (∀ constructor ∈ record.constructors, constructor.HasPlainTexts)
    ∧ ∀ property ∈ record.properties, property.HasPlainTexts
deriving Decidable

def Struct.HasPlainTexts (record : Struct) : Prop :=
  HasPlain record.name ∧ HasPairedReturns record.summary
    ∧ (∀ name ∈ record.implementedInterfaces, IsPlain name)
    ∧ (∀ field ∈ record.fields, field.HasPlainTexts)
    ∧ (∀ constructor ∈ record.constructors, constructor.HasPlainTexts)
    ∧ ∀ property ∈ record.properties, property.HasPlainTexts
deriving Decidable

def Interface.HasPlainTexts (record : Interface) : Prop :=
  HasPlain record.name ∧ HasPairedReturns record.summary
    ∧ (∀ name ∈ record.implementedInterfaces, IsPlain name)
    ∧ ∀ property ∈ record.properties, property.HasPlainTexts
deriving Decidable

def Namespace.HasPlainTexts (settings : RenderSettings) (record : Namespace) : Prop :=
  HasPlain record.name ∧ (∀ name ∈ record.usings, IsPlain name)
    ∧ (∀ enumeration ∈ record.enums, enumeration.HasPlainTexts settings)
    ∧ (∀ interface ∈ record.interfaces, interface.HasPlainTexts)
    ∧ (∀ type ∈ record.classes, type.HasPlainTexts)
    ∧ ∀ type ∈ record.structs, type.HasPlainTexts
deriving Decidable

/-- The declaration can be rendered, and its texts are plain, up to summaries. -/
def Declaration.HasPlainTexts (settings : RenderSettings) : Declaration → Prop
  | .field value => value.HasPlainTexts
  | .property value => value.HasPlainTexts
  | .constructor value => value.HasPlainTexts
  | .enumMember value => value.HasPlainTexts
  | .enumeration value => value.HasPlainTexts settings
  | .class value => value.HasPlainTexts
  | .struct value => value.HasPlainTexts
  | .interface value => value.HasPlainTexts
  | .namespace value => value.HasPlainTexts settings
  | .accessor _ => False
  | .parameter _ => False

instance (settings : RenderSettings) (declaration : Declaration) :
    Decidable (declaration.HasPlainTexts settings) :=
  match declaration with
  | .field value => inferInstanceAs (Decidable value.HasPlainTexts)
  | .property value => inferInstanceAs (Decidable value.HasPlainTexts)
  | .constructor value => inferInstanceAs (Decidable value.HasPlainTexts)
  | .enumMember value => inferInstanceAs (Decidable value.HasPlainTexts)
  | .enumeration value => inferInstanceAs (Decidable (value.HasPlainTexts settings))
  | .class value => inferInstanceAs (Decidable value.HasPlainTexts)
  | .struct value => inferInstanceAs (Decidable value.HasPlainTexts)
  | .interface value => inferInstanceAs (Decidable value.HasPlainTexts)
  | .namespace value => inferInstanceAs (Decidable (value.HasPlainTexts settings))
  | .accessor _ => inferInstanceAs (Decidable False)
  | .parameter _ => inferInstanceAs (Decidable False)

namespace Printer

open Render

/-- What is printed at a given depth. -/
abbrev Printed := Nat → String

section

variable (layout : LayoutSettings)

/-! ## Lines, documentation and blocks -/

/-- A text on a line of its own. -/
def line (text : String) : Printed := fun depth =>
  String.join (List.replicate depth layout.indent) ++ text ++ layout.newline.text

/-- One after the other. -/
def inOrder (parts : List Printed) : Printed := fun depth =>
  String.join (parts.map (· depth))

/-- One after the other, with an empty line between each two. -/
def apart (parts : List Printed) : Printed := fun depth =>
  layout.newline.text.intercalate (parts.map (· depth))

/-- A summary between its two tags, line by line and without white space at the ends of lines;
nothing for one that is missing. -/
def documentation (summary : Option String) : Printed := fun depth =>
  if Text.isMissing summary then ""
  else
    line layout "/// <summary>" depth
      ++ inOrder ((summaryLines (summary.getD "")).map fun cs =>
          line layout (String.ofList (Text.trimEnd (docLine cs).toList))) depth
      ++ line layout "/// </summary>" depth

/-- A body in braces, one level below its header, with a text behind the closing brace. -/
def block (header tail : String) (body : Printed) : Printed := fun depth =>
  line layout header depth ++ line layout "\x7b" depth ++ body (depth + 1)
    ++ line layout ("\x7d" ++ tail) depth

/-! ## Members -/

/-- A field, on one line. -/
def field (field : Field) : Printed := fun depth =>
  documentation layout field.summary depth
    ++ line layout (words [field.access.keyword, optionalWord field.isReadonly "readonly",
        field.type.getD "", field.name.getD ""] ++ ";") depth

/-- An accessor on a line of its own; nothing for one that is not there. -/
def accessor (keyword : String) (accessor : Accessor) : Printed :=
  match accessor.kind with
  | .automatic => line layout (keyword ++ ";")
  | .custom => line layout (keyword ++ " => " ++ accessor.expression.getD "" ++ ";")
  | _ => fun _ => ""

/-- A property: a block of its accessors with its default value behind, or one line. -/
def property (property : Property) : Printed := fun depth =>
  let header := words [property.access.keyword, optionalWord property.isStatic "static",
    property.type.getD "", property.name.getD ""]
  documentation layout property.summary depth
    ++ if property.hasAccessors then
        block layout header (initializer property.defaultValue)
          (inOrder [accessor layout "get" property.effectiveGetter,
            accessor layout "set" property.effectiveSetter]) depth
      else if property.defaultValue = none then line layout (header ++ ";") depth
      else line layout (header ++ initializer property.defaultValue) depth

/-- The statement that stores a parameter, if it is stored. -/
def storing (parameter : Parameter) : Printed :=
  match Text.given? parameter.receivingMember with
  | none => fun _ => ""
  | some member => line layout (member ++ " = " ++ parameter.name ++ ";")

/-- A constructor: a block of the statements that store its parameters. -/
def constructor (constructor : Constructor) : Printed := fun depth =>
  documentation layout constructor.summary depth
    ++ block layout
        (words [optionalWord (!constructor.isStatic) constructor.access.keyword,
            optionalWord constructor.isStatic "static", constructor.className.getD ""]
          ++ "(" ++ parameterList constructor.parameters ++ ")"
          ++ baseCall constructor.baseCallArguments)
        "" (inOrder (constructor.parameters.map (storing layout))) depth

/-- A member of an enumeration, on one line. -/
def enumMember (member : EnumMember) : Printed := fun depth =>
  documentation layout member.summary depth
    ++ line layout (member.name.getD "" ++ enumValue member.value ++ ",") depth

/-! ## Types -/

/-- An enumeration: a block of its members without empty lines between. -/
def enumeration (settings : RenderSettings) (enumeration : Enumeration) : Printed := fun depth =>
  documentation layout enumeration.summary depth
    ++ (if enumeration.isFlags then line layout ("[" ++ settings.flagsAttribute ++ "]") depth
        else "")
    ++ block layout (words [enumeration.access.keyword, "enum", enumeration.name.getD ""]) ""
        (inOrder (enumeration.members.map (enumMember layout))) depth

/-- The members of a class or struct, with empty lines between. -/
def typeMembers (fields : List Field) (constructors : List Constructor)
    (properties : List Property) : Printed :=
  apart layout (fields.map (field layout) ++ constructors.map (constructor layout)
    ++ properties.map (property layout))

/-- A class: a block of its members. -/
def «class» (record : Class) : Printed := fun depth =>
  documentation layout record.summary depth
    ++ block layout
        (words [record.access.keyword, optionalWord record.isStatic "static", "class",
          record.name.getD ""] ++ extending record.inheritance)
        "" (typeMembers layout record.fields record.constructors record.properties) depth

/-- A struct: a block of its members. -/
def struct (record : Struct) : Printed := fun depth =>
  documentation layout record.summary depth
    ++ block layout
        (words [record.access.keyword, "struct", record.name.getD ""]
          ++ extending record.implementedInterfaces)
        "" (typeMembers layout record.fields record.constructors record.properties) depth

/-- An interface: a block of its properties. -/
def interface (record : Interface) : Printed := fun depth =>
  documentation layout record.summary depth
    ++ block layout
        (words [record.access.keyword, "interface", record.name.getD ""]
          ++ extending record.implementedInterfaces)
        "" (apart layout (record.properties.map (property layout))) depth

/-- A namespace: the namespaces that it uses, and below an empty line a block of its types. -/
def «namespace» (settings : RenderSettings) (record : Namespace) : Printed := fun depth =>
  inOrder (record.usings.map fun name => line layout ("using " ++ name ++ ";")) depth
    ++ (if record.usings = [] then "" else layout.newline.text)
    ++ block layout ("namespace " ++ record.name.getD "") ""
        (apart layout (record.enums.map (enumeration layout settings)
          ++ record.interfaces.map (interface layout) ++ record.classes.map («class» layout)
          ++ record.structs.map (struct layout))) depth

end

/-- **The source of a declaration, printed in one pass.** -/
def print (settings : Settings) : Declaration → Printed
  | .field value => field settings.layout value
  | .property value => property settings.layout value
  | .constructor value => constructor settings.layout value
  | .enumMember value => enumMember settings.layout value
  | .enumeration value => enumeration settings.layout settings.render value
  | .class value => «class» settings.layout value
  | .struct value => struct settings.layout value
  | .interface value => interface settings.layout value
  | .namespace value => «namespace» settings.layout settings.render value
  | .accessor _ => fun _ => ""
  | .parameter _ => fun _ => ""

end Printer

end Scaffold
