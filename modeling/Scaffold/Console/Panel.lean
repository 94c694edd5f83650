import Scaffold.Console.Line
import Scaffold.Text.Blank
import Scaffold.Text.Cells
import Scaffold.Text.Lines

/-!
# Panels

A panel frames a source with a border, and may have a title in its upper edge. All widths are
counted in terminal cells.
-/

namespace Scaffold.Console

/-! ## What a panel shows -/

/-- The source without the mark of its byte order. -/
def dropByteOrderMark : List Char → List Char
  | '\uFEFF' :: cs => cs
  | cs => cs

/-- The lines of a source as they are printed. The last line feed of the source ends its last
line, together with a carriage return before it. -/
def contentLines (source : List Char) : List (List Char) :=
  let content := dropByteOrderMark (Text.dropTrailingLineFeeds source)
  ((Text.lines (content ++ ['\n'])).dropLast).map printed

/-- The width of a source: that of its widest line, where each character ends a line that is a
line boundary. -/
def contentWidth (source : List Char) : Nat :=
  (((Text.dropTrailingLineFeeds source).splitOnP Text.isLineBoundary).map Text.cells).foldl max 0

/-- A title as it is printed: on one line and between two spaces. -/
def titleChars (title : List Char) : List Char :=
  let shown := (printed (Markup.shown title)).map fun c => if c = '\n' then ' ' else c
  ' ' :: (shown ++ [' '])

/-! ## The frame -/

/-- A horizontal edge of the given width. -/
def edge (width : Nat) : List Char :=
  List.replicate width '─'

/-- What stands between the corners of the upper edge. -/
def upperEdge (width : Nat) : Option (List Char) → List Char
  | none => edge width
  | some title =>
    let dashes := width - Text.cells title
    edge (dashes / 2) ++ (title ++ edge (dashes - dashes / 2))

/-- The width between the borders of a panel whose content has the given width. -/
def innerWidth (content : Nat) : Option (List Char) → Nat
  | none => content + 2
  | some title => max (content + 2) (Text.cells title + 2)

/-- A line between the borders. -/
def contentLine (width : Nat) (line : List Char) : List Char :=
  '│' :: ' ' :: (line ++ (List.replicate (width - 2 - Text.cells line) ' ' ++ [' ', '│', '\n']))

/-- The panel of a source. Where the border leaves no cell for the content, no line is shown. -/
def panelChars (title? : Option (List Char)) (source : List Char) : List Char :=
  let width := innerWidth (contentWidth source) title?
  let lines := if width ≤ 2 then [] else contentLines source
  '╭' :: (upperEdge width title? ++ '╮' :: '\n' :: (lines.flatMap (contentLine width)
    ++ '╰' :: (edge width ++ ['╯', '\n'])))

/-- The panel of a source as text; the empty title is none. -/
def panel (title? : Option String) (source : String) : String :=
  String.ofList
    (panelChars ((Text.given? title?).map fun title => titleChars title.toList) source.toList)

end Scaffold.Console
