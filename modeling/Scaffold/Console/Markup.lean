/-!
# Markup

Console text may hold tags, which switch styles and do not show. A tag stands in square brackets
and starts with a small letter, `#`, `/` or `@`; no other opening bracket stands in it.

Backslashes in front of a tag are read in pairs, each of which shows one; a single one left over
makes the tag show as it is written. In front of any other opening bracket one backslash is dropped.

* `shown` gives the characters that markup shows.
* `escape` writes a text so that no tag in it is read as one. A single backslash at its end is
  doubled; several are left alone, and so belong to a tag that follows the text.
-/

namespace Scaffold.Console.Markup

/-- A character that a tag may start with. -/
def startsTag (c : Char) : Bool :=
  ('a' ≤ c && c ≤ 'z') || c == '#' || c == '/' || c == '@'

/-- A character that stands neither for the start nor for the end of a tag. -/
def isInner (c : Char) : Bool :=
  c != '[' && c != ']'

/-- The text after an opening bracket belongs, at its start, to a tag. -/
def opensTag : List Char → Bool
  | [] => false
  | c :: cs => startsTag c && (cs.dropWhile isInner).head? == some ']'

/-- Some backslashes. -/
def backslashes (count : Nat) : List Char :=
  List.replicate count '\\'

/-! ## Writing -/

/-- Escapes a text that `slashes` backslashes stand right before. -/
def escapeFrom (slashes : Nat) : List Char → List Char
  | [] => backslashes (if slashes = 1 then 2 else slashes)
  | c :: cs =>
    if c = '\\' then escapeFrom (slashes + 1) cs
    else if c = '[' ∧ opensTag cs = true then backslashes (2 * slashes + 1) ++ c :: escapeFrom 0 cs
    else backslashes slashes ++ c :: escapeFrom 0 cs

/-- The markup that shows a text, if no tag follows it. -/
def escape (cs : List Char) : List Char :=
  escapeFrom 0 cs

/-- A text between the tags that switch a style on and off. -/
def styled (style cs : List Char) : List Char :=
  '[' :: (style ++ ']' :: (escape cs ++ '[' :: '/' :: (style ++ [']'])))

/-! ## Reading -/

/-- What markup shows that `slashes` backslashes stand right before; `inTag` tells whether it
starts inside a tag. -/
def shownFrom (inTag : Bool) (slashes : Nat) : List Char → List Char
  | [] => backslashes slashes
  | c :: cs =>
    if inTag then shownFrom (c != ']') 0 cs
    else if c = '\\' then shownFrom false (slashes + 1) cs
    else if c = '[' then
      if opensTag cs then
        if slashes % 2 = 0 then backslashes (slashes / 2) ++ shownFrom true 0 cs
        else backslashes (slashes / 2) ++ c :: shownFrom false 0 cs
      else backslashes (slashes - 1) ++ c :: shownFrom false 0 cs
    else backslashes slashes ++ c :: shownFrom false 0 cs

def shown (cs : List Char) : List Char :=
  shownFrom false 0 cs

end Scaffold.Console.Markup
