import Scaffold.Layout.Indent

/-!
# Indentation, line by line

One equation for each kind of line that indentation tells apart: blank ones, opening braces, lines
that a closing brace starts, and all others. Lines in a row are indented piece by piece
(**`indentFrom_append`**).
-/

namespace Scaffold.Layout

/-! ## Depths -/

theorem depthAt_closing (depth : Nat) (cs : List Char) :
    depthAt depth (closeBrace :: cs) = depth - 1 := rfl

/-- Any other line stands at the depth that has been reached. -/
theorem depthAt_other {text : Line} (hclose : text.head? ≠ some closeBrace) (depth : Nat) :
    depthAt depth text = depth := by
  rw [depthAt, closesBlock, if_neg (by simpa using hclose)]

theorem depthAfter_opening (depth : Nat) : depthAfter depth [openBrace] = depth + 1 := rfl

theorem depthAfter_closing (depth : Nat) (cs : List Char) :
    depthAfter depth (closeBrace :: cs) = depth - 1 := by
  have hopens : opensBlock (closeBrace :: cs) = false := by
    simp [opensBlock, openBrace, closeBrace]
  rw [depthAfter, hopens, depthAt_closing, if_neg (by simp)]

/-- Only a brace that opens or closes a block changes the depth. -/
theorem depthAfter_other {text : Line} (hopen : text ≠ [openBrace])
    (hclose : text.head? ≠ some closeBrace) (depth : Nat) : depthAfter depth text = depth := by
  rw [depthAfter, opensBlock, if_neg (by simpa using hopen), depthAt_other hclose]

/-! ## Indented lines -/

/-- Blank lines are not indented. -/
theorem indentFrom_blank (unit : List Char) (depth : Nat) (rest : List Line) :
    indentFrom unit depth ([] :: rest) = [] :: indentFrom unit depth rest := rfl

/-- An opening brace stands where its block does, and what follows stands deeper. -/
theorem indentFrom_opening (unit : List Char) (depth : Nat) (rest : List Line) :
    indentFrom unit depth ([openBrace] :: rest)
      = ((List.replicate depth unit).flatten ++ [openBrace])
        :: indentFrom unit (depth + 1) rest := rfl

/-- A line that starts with a closing brace stands where its block does. -/
theorem indentFrom_closing (unit : List Char) (depth : Nat) (cs : List Char) (rest : List Line) :
    indentFrom unit depth ((closeBrace :: cs) :: rest)
      = ((List.replicate (depth - 1) unit).flatten ++ closeBrace :: cs)
        :: indentFrom unit (depth - 1) rest := by
  rw [indentFrom, depthAfter_closing, depthAt_closing, indentLine, if_neg (by simp)]

/-- All other lines stand at the depth of the block around them. -/
theorem indentFrom_other {text : Line} (hne : text ≠ []) (hopen : text ≠ [openBrace])
    (hclose : text.head? ≠ some closeBrace) (unit : List Char) (depth : Nat) (rest : List Line) :
    indentFrom unit depth (text :: rest)
      = ((List.replicate depth unit).flatten ++ text) :: indentFrom unit depth rest := by
  rw [indentFrom, depthAfter_other hopen hclose, depthAt_other hclose, indentLine, if_neg hne]

/-- **The lines behind others** are indented from the depth that those leave. -/
theorem indentFrom_append (unit : List Char) (depth : Nat) (first second : List Line) :
    indentFrom unit depth (first ++ second)
      = indentFrom unit depth first ++ indentFrom unit (first.foldl depthAfter depth) second := by
  induction first generalizing depth with
  | nil => rfl
  | cons line rest ih =>
    rw [List.cons_append, indentFrom, ih, indentFrom, List.foldl_cons, List.cons_append]

end Scaffold.Layout
