import Scaffold.Declaration.Namespace
import Scaffold.Render.Member
import Scaffold.Settings

/-!
# Source of types and namespaces

The source of a container is a header and a block of the source of its members. A container's own
name is looked at before its members, and those in the order in which they are written.
-/

namespace Scaffold.Render

/-- The empty line between two members. -/
def memberGap : String := "\n"

/-! ## Enumerations -/

/-- The attribute that marks an enumeration of flags, on a line of its own. -/
def flagsLine (settings : RenderSettings) (isFlags : Bool) : String :=
  if isFlags then "[" ++ settings.flagsAttribute ++ "]\n" else ""

/-- The declaration of an enumeration up to its block. -/
def enumHeader (settings : RenderSettings) (enumeration : Enumeration) (name : String) : String :=
  docBlock enumeration.summary ++ flagsLine settings enumeration.isFlags
    ++ words [enumeration.access.keyword, "enum", name]

def enumeration (settings : RenderSettings) (enumeration : Enumeration) : Except Error String := do
  let name ← require "enum" "name" enumeration.name
  let members ← enumeration.members.mapM enumMember
  return fragment (block (enumHeader settings enumeration name) (blockBody "" members))

/-! ## Classes, structs and interfaces -/

/-- The declaration of a class up to its block. -/
def classHeader (record : Class) (name : String) : String :=
  docBlock record.summary
    ++ words [record.access.keyword, optionalWord record.isStatic "static", "class", name]
    ++ extending record.inheritance

/-- The source of the members of a class or struct: fields, constructors, properties. -/
def typeMembers (fields : List Field) (constructors : List Constructor)
    (properties : List Property) : Except Error (List String) := do
  let fields ← fields.mapM field
  let constructors ← constructors.mapM constructor
  let properties ← properties.mapM property
  return fields ++ constructors ++ properties

def «class» (record : Class) : Except Error String := do
  let name ← require "class" "name" record.name
  let members ← typeMembers record.fields record.constructors record.properties
  return fragment (block (classHeader record name) (blockBody memberGap members))

/-- The declaration of a struct up to its block. -/
def structHeader (record : Struct) (name : String) : String :=
  docBlock record.summary ++ words [record.access.keyword, "struct", name]
    ++ extending record.implementedInterfaces

def struct (record : Struct) : Except Error String := do
  let name ← require "struct" "name" record.name
  let members ← typeMembers record.fields record.constructors record.properties
  return fragment (block (structHeader record name) (blockBody memberGap members))

/-- The declaration of an interface up to its block. -/
def interfaceHeader (record : Interface) (name : String) : String :=
  docBlock record.summary ++ words [record.access.keyword, "interface", name]
    ++ extending record.implementedInterfaces

def interface (record : Interface) : Except Error String := do
  let name ← require "interface" "name" record.name
  let members ← record.properties.mapM property
  return fragment (block (interfaceHeader record name) (blockBody memberGap members))

/-! ## Namespaces -/

/-- The lines that name the namespaces in use, and an empty line after them if there are any. -/
def usingLines (usings : List String) : String :=
  String.join (usings.map fun name => "using " ++ name ++ ";\n") ++ optionalWord (usings != []) "\n"

/-- The declaration of a namespace up to its block. -/
def namespaceHeader (record : Namespace) (name : String) : String :=
  usingLines record.usings ++ "namespace " ++ name

/-- The source of the types in a namespace: enumerations, interfaces, classes, structs. -/
def namespaceMembers (settings : RenderSettings) (record : Namespace) :
    Except Error (List String) := do
  let enums ← record.enums.mapM (enumeration settings)
  let interfaces ← record.interfaces.mapM interface
  let classes ← record.classes.mapM «class»
  let structs ← record.structs.mapM struct
  return enums ++ interfaces ++ classes ++ structs

def «namespace» (settings : RenderSettings) (record : Namespace) : Except Error String := do
  let name ← require "namespace" "name" record.name
  let members ← namespaceMembers settings record
  return fragment (block (namespaceHeader record name) (blockBody memberGap members))

end Scaffold.Render
