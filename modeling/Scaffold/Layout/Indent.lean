import Scaffold.Layout.BlankLine

/-!
# Indentation

Each line stands as deep as the blocks open around it. A line that closes a block is as deep as
the line that opened it, and depth never falls below zero.
-/

namespace Scaffold.Layout

/-- The depth at which a line is printed, given the depth after the line before it. -/
def depthAt (depth : Nat) (line : Line) : Nat :=
  if closesBlock line then depth - 1 else depth

/-- The depth after a line, given the depth after the line before it. -/
def depthAfter (depth : Nat) (line : Line) : Nat :=
  if opensBlock line then depthAt depth line + 1 else depthAt depth line

/-- The line below `depth` levels; a blank line has no indentation. -/
def indentLine (unit : List Char) (depth : Nat) (line : Line) : Line :=
  if line = [] then [] else (List.replicate depth unit).flatten ++ line

/-- The lines in order, the first of them after a line that left the given depth. -/
def indentFrom (unit : List Char) (depth : Nat) : List Line → List Line
  | [] => []
  | line :: rest =>
    indentLine unit (depthAt depth line) line :: indentFrom unit (depthAfter depth line) rest

end Scaffold.Layout
