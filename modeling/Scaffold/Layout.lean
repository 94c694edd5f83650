import Scaffold.Settings
import Scaffold.Text.Lines
import Scaffold.Layout.Indent

/-!
# Layout

`format` turns loosely spaced source into conventionally laid-out source: braces on lines of their
own, single spaces, at most one blank line in a row, indentation by depth, and one line separator
after every line. It looks at braces, quotes and slashes only, never at what the source means.
-/

namespace Scaffold.Layout

/-- The tidied lines of a source, without indentation. -/
def layoutLines (source : List Char) : List Line :=
  tidy ((Text.lines source).flatMap segments)

/-- Writes lines with the separator of the settings after each. -/
def printLines (settings : LayoutSettings) (lines : List Line) : List Char :=
  (indentFrom settings.unit 0 lines).flatMap (· ++ settings.newline.chars)

/-- The laid-out source; a source without tokens is empty. -/
def formatChars (settings : LayoutSettings) (source : List Char) : List Char :=
  printLines settings (layoutLines source)

def format (settings : LayoutSettings) (source : String) : String :=
  String.ofList (formatChars settings source.toList)

end Scaffold.Layout
