import Scaffold.Settings.Reader
import Scaffold.Json.Reader

/-!
# Settings files

Settings are kept as JSON text: `save` writes it and `load` reads it. The text is an object of two
objects, with one member to a line and two spaces for each level.
-/

namespace Scaffold.Settings

/-- Spaces in front of a member that lies `depth` objects deep. -/
def padding (depth : Nat) : List Char :=
  List.replicate (2 * depth) ' '

/-- One member of an object that lies `depth` objects deep, from its key and its written value. -/
def writeMember (depth : Nat) (member : String × List Char) : List Char :=
  padding depth ++ Json.quote member.1.toList ++ ": ".toList ++ member.2

/-- The members with commas and line breaks between each two. -/
def writeMembers (depth : Nat) : List (String × List Char) → List Char
  | [] => []
  | [member] => writeMember depth member
  | member :: members => writeMember depth member ++ ",\n".toList ++ writeMembers depth members

/-- An object whose members lie `depth` objects deep. -/
def writeObject (depth : Nat) (members : List (String × List Char)) : List Char :=
  '\x7b' :: '\n' :: (writeMembers depth members ++ '\n' :: (padding (depth - 1) ++ ['\x7d']))

/-- A truth value as JSON text. -/
def writeBool (value : Bool) : List Char :=
  if value then "true".toList else "false".toList

/-- A path as JSON text, or nothing. -/
def writePath : Option PosixPath → List Char
  | none => "null".toList
  | some path => Json.quote path.chars

/-- The settings for layout as JSON text. -/
def writeLayout (settings : LayoutSettings) : List Char :=
  writeObject 2
    [(LayoutSlot.key .indentSize, Nat.toDigits 10 settings.indentSize.width),
     (LayoutSlot.key .useTabs, writeBool settings.useTabs),
     (LayoutSlot.key .newline, Json.quote settings.newline.chars)]

/-- The settings for rendering as JSON text. -/
def writeRender (settings : RenderSettings) : List Char :=
  writeObject 2
    [(RenderSlot.key .flagsAttribute, Json.quote settings.flagsAttribute.toList),
     (RenderSlot.key .templateDir, writePath settings.templateDir)]

/-- The characters of a settings file. -/
def saveChars (settings : Settings) : List Char :=
  writeObject 1
    [(SettingsSlot.key .layout, writeLayout settings.layout),
     (SettingsSlot.key .render, writeRender settings.render)]

/-- The text of a settings file. -/
def save (settings : Settings) : String :=
  String.ofList settings.saveChars

/-- The settings that the text of a settings file holds. -/
def load (text : String) : Checked Settings :=
  match Json.read text.toList with
  | none => Checked.fail .notJson
  | some raw => Settings.read raw

/-- Saving settings and loading the text gives the settings back. -/
def survivesSaving (settings : Settings) : Bool :=
  match load settings.save with
  | .ok loaded => loaded == settings
  | .error _ => false

end Scaffold.Settings
