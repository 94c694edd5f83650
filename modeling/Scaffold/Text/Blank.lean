/-!
# Blank characters and blank text

White space is the Unicode set of separators together with the control characters that
separate lines, fields and records. Zero-width characters and the byte order mark are text.

* `isBlank`: one character of white space.
* `trimEnd`, `trimLineFeeds`, `dropTrailingLineFeeds`: the text without what stands at its ends.
* `isBlankText`, `isMissing`: a text, or an optional text, that holds nothing else.
* `given?`: an optional text, where the empty one counts as none.
-/

namespace Scaffold.Text

/-- The white-space characters as inclusive ranges of code points, in increasing order. -/
def blankRanges : List (Nat × Nat) :=
  [(0x09, 0x0D), (0x1C, 0x20), (0x85, 0x85), (0xA0, 0xA0), (0x1680, 0x1680), (0x2000, 0x200A),
   (0x2028, 0x2029), (0x202F, 0x202F), (0x205F, 0x205F), (0x3000, 0x3000)]

/-- A character is blank when its code point lies in one of `blankRanges`. -/
def isBlank (c : Char) : Bool :=
  blankRanges.any fun range => range.1 ≤ c.toNat && c.toNat ≤ range.2

/-- The information separators U+001C to U+001F, which are blank but never surround a number. -/
def isInformationSeparator (c : Char) : Bool :=
  0x1C ≤ c.toNat && c.toNat ≤ 0x1F

/-- White space that may surround the digits of a number. -/
def isNumberPadding (c : Char) : Bool :=
  isBlank c && !isInformationSeparator c

/-! ## Trimming -/

/-- The text up to its last character that is not blank. -/
def trimEnd (cs : List Char) : List Char :=
  (cs.reverse.dropWhile isBlank).reverse

/-- The text without the line feeds at its end; other white space stays. -/
def dropTrailingLineFeeds (cs : List Char) : List Char :=
  (cs.reverse.dropWhile (· == '\n')).reverse

/-- The text without the line feeds at its two ends. -/
def trimLineFeeds (cs : List Char) : List Char :=
  dropTrailingLineFeeds (cs.dropWhile (· == '\n'))

/-! ## Blank texts -/

/-- A text that holds nothing but white space. -/
def isBlankText (s : String) : Bool :=
  s.toList.all isBlank

/-- A setting is missing when it is unset or blank. -/
def isMissing : Option String → Bool
  | none => true
  | some s => isBlankText s

/-- The text, unless it is empty. -/
def given? : Option String → Option String
  | none => none
  | some s => if s = "" then none else some s

theorem given?_some {s : String} (h : s ≠ "") : given? (some s) = some s :=
  if_neg h

theorem isMissing_some (s : String) : isMissing (some s) = isBlankText s := rfl

/-- A setting that is not missing has a text, and that text has a character that shows. -/
theorem isMissing_eq_false_iff (t : Option String) :
    isMissing t = false ↔ ∃ s, t = some s ∧ isBlankText s = false := by
  cases t <;> simp [isMissing]

end Scaffold.Text
