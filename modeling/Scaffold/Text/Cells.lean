import Scaffold.Text.Cells.Table

/-!
# Terminal cells

The width of a text on a terminal is the number of cells that its characters take. It is not the
sum over the characters: the character after a joiner shares the cells before it, and a character
that has a form as a pictograph takes a second cell if the pictograph is asked for.
-/

namespace Scaffold.Text

/-- A character is in one of the ranges. -/
def isWithin (ranges : List (Nat × Nat)) (c : Char) : Bool :=
  ranges.any fun range => range.1 ≤ c.toNat && c.toNat ≤ range.2

/-- The number of cells that a character takes by itself. -/
def charCells (c : Char) : Nat :=
  if isWithin zeroCellRanges c then 0
  else if isWithin doubleCellRanges c then 2
  else 1

/-- A character of one cell that takes two as a pictograph. -/
def isPictograph (c : Char) : Bool :=
  isWithin pictographRanges c

/-- The number of cells that a text takes after a character, which is none if that character takes
no cell or is shown as a pictograph already. The joiner is U+200D; U+FE0F asks for a pictograph. -/
def cellsAfter (last? : Option Char) : List Char → Nat
  | [] => 0
  | '\u200D' :: _ :: cs => cellsAfter last? cs
  | '\uFE0F' :: cs => (if last?.any isPictograph then 1 else 0) + cellsAfter none cs
  | c :: cs =>
    if charCells c = 0 then cellsAfter last? cs
    else charCells c + cellsAfter (some c) cs

/-- The number of cells that a text takes. -/
def cells (cs : List Char) : Nat :=
  cellsAfter none cs

end Scaffold.Text
