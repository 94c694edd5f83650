import Scaffold.Text.CaseFold.Table

/-!
# Case folding

Two names are the same up to case when their full case foldings are equal. Folding looks at one
character at a time and normalises nothing: a letter with a separate accent stays two characters.
-/

namespace Scaffold.Text

/-- The run holds the code point. -/
def FoldRun.holds (run : FoldRun) (code : Nat) : Bool :=
  run.first ≤ code && code ≤ run.last && (code - run.first) % run.step == 0

/-- The letters that one character folds to. -/
def foldChar (c : Char) : List Char :=
  match foldRuns.find? (·.holds c.toNat) with
  | some run => [Char.ofNat (c.toNat + run.shift).toNat]
  | none =>
    match foldExpansions.lookup c.toNat with
    | some codes => codes.map Char.ofNat
    | none => [c]

def foldCase (cs : List Char) : List Char :=
  cs.flatMap foldChar

/-- Folding works character by character. -/
theorem foldCase_append (as bs : List Char) : foldCase (as ++ bs) = foldCase as ++ foldCase bs := by
  simp [foldCase]

/-- The two texts are equal up to case. -/
def equalIgnoringCase (left right : String) : Bool :=
  foldCase left.toList == foldCase right.toList

/-- It does not matter which of two texts is compared with the other. -/
theorem equalIgnoringCase_comm (left right : String) :
    equalIgnoringCase left right = equalIgnoringCase right left := by
  simp [equalIgnoringCase, Bool.beq_comm]

end Scaffold.Text
