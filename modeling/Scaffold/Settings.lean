import Scaffold.PosixPath

/-!
# Settings

What the library can be told about its output: how source is laid out, and how declarations are
rendered. Every value of these types is a valid setting.
-/

namespace Scaffold

/-- The width of one level of indentation in spaces; it is never zero. -/
structure IndentSize where
  width : Nat
  pos : 0 < width := by decide
deriving DecidableEq

/-- The two line separators that source can be written with. -/
inductive Newline where
  | lf
  | crlf
deriving DecidableEq

def Newline.chars : Newline → List Char
  | .lf => ['\n']
  | .crlf => ['\r', '\n']

def Newline.text (newline : Newline) : String :=
  String.ofList newline.chars

/-- How source is laid out. -/
structure LayoutSettings where
  indentSize : IndentSize := ⟨4, by decide⟩
  useTabs : Bool := false
  newline : Newline := .lf
deriving DecidableEq

/-- The characters put before a line once for each level that it is nested. -/
def LayoutSettings.unit (settings : LayoutSettings) : List Char :=
  if settings.useTabs then ['\t'] else List.replicate settings.indentSize.width ' '

/-- The indentation of one level as text. -/
def LayoutSettings.indent (settings : LayoutSettings) : String :=
  String.ofList settings.unit

/-- How declarations are rendered. -/
structure RenderSettings where
  /-- The attribute that marks an enumeration of flags. -/
  flagsAttribute : String := "System.Flags"
  /-- A directory of layouts that takes the place of the built-in ones. -/
  templateDir : Option PosixPath := none
deriving DecidableEq

structure Settings where
  layout : LayoutSettings := {}
  render : RenderSettings := {}
deriving DecidableEq

end Scaffold
