import Scaffold.Layout.Segment

/-!
# Blank lines

Between two lines at most one blank line stays, and none does at either end of the source, after
an opening brace or a line of documentation, or before a closing brace.
-/

namespace Scaffold.Layout

def opensBlock (line : Line) : Bool :=
  line == [openBrace]

/-- The line starts with the brace that closes a block. -/
def closesBlock (line : Line) : Bool :=
  line.head? == some closeBrace

/-- The line is documentation: it starts with three slashes. -/
def isDocLine : Line → Bool
  | '/' :: '/' :: '/' :: _ => true
  | _ => false

/-- A blank line may stand between these two lines. -/
def mayPart (before after : Line) : Bool :=
  !opensBlock before && !isDocLine before && !closesBlock after

/-- Whether the blank lines seen since `before`, the last line that is not blank, leave one. -/
def keepsGap (before : Option Line) (gap : Bool) (after : Line) : Bool :=
  match before with
  | none => false
  | some before => gap && mayPart before after

/-- Drops the blank lines that may not stay, where `before` is the last line that is not blank
and `gap` tells whether blank lines follow it. -/
def tidyFrom (before : Option Line) (gap : Bool) : List Line → List Line
  | [] => []
  | [] :: rest => tidyFrom before true rest
  | line :: rest =>
    if keepsGap before gap line then [] :: line :: tidyFrom (some line) false rest
    else line :: tidyFrom (some line) false rest

/-- Drops the blank lines that may not stay. -/
def tidy (lines : List Line) : List Line :=
  tidyFrom none false lines

end Scaffold.Layout
