/-!
# Lines

A text is cut into lines at line feeds. Carriage returns, alone or before a line feed, may end a
line too; where they do, `lines` is the cut, and `dropPairedReturns` reads the pairs only.
`isLineBoundary` holds of every character that ends a line anywhere.
-/

namespace Scaffold.Text

/-- Reads a carriage return before a line feed, and a lone one, as a line feed. -/
def unifyBreaks : List Char → List Char
  | [] => []
  | '\r' :: '\n' :: cs => '\n' :: unifyBreaks cs
  | c :: cs => (if c = '\r' then '\n' else c) :: unifyBreaks cs

/-- Reads a carriage return before a line feed as part of it; a lone one stays. -/
def dropPairedReturns : List Char → List Char
  | [] => []
  | '\r' :: '\n' :: cs => '\n' :: dropPairedReturns cs
  | c :: cs => c :: dropPairedReturns cs

/-- The physical lines of a text. -/
def lines (cs : List Char) : List (List Char) :=
  (unifyBreaks cs).splitOn '\n'

/-- The characters that end a line in the widest sense: besides the line feed and the carriage
return, some other control characters and the separators of lines and paragraphs. -/
def isLineBoundary (c : Char) : Bool :=
  ['\n', '\x0b', '\x0c', '\r', '\x1c', '\x1d', '\x1e', '\u0085', '\u2028', '\u2029'].contains c

/-- No carriage return is left. -/
theorem return_not_mem_unifyBreaks (cs : List Char) : '\r' ∉ unifyBreaks cs := by
  fun_induction unifyBreaks cs with
  | case1 => simp
  | case2 cs ih => simpa using ih
  | case3 c cs _ ih =>
    split
    · simpa using ih
    · rename_i h
      simpa [eq_comm] using ⟨h, ih⟩

/-- A text without carriage returns is cut at its line feeds alone. -/
theorem unifyBreaks_of_not_mem {cs : List Char} (h : '\r' ∉ cs) : unifyBreaks cs = cs := by
  fun_induction unifyBreaks cs with
  | case1 => rfl
  | case2 => simp at h
  | case3 c cs _ ih =>
    simp only [List.mem_cons, not_or] at h
    rw [if_neg (Ne.symm h.1), ih h.2]

end Scaffold.Text
