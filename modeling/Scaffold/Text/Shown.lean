import Scaffold.Text.Hidden

/-!
# Texts shown in messages

A message shows a text between single quotes, or between double quotes if that saves escapes.
Characters that do not show are spelled by their code points.
-/

namespace Scaffold.Text

def shownDigit (value : Nat) : Char :=
  if value < 10 then Char.ofNat ('0'.toNat + value) else Char.ofNat ('a'.toNat + (value - 10))

/-- The last `places` hexadecimal digits of a number. -/
def shownHex (places value : Nat) : List Char :=
  (List.range places).reverse.map fun place => shownDigit ((value >>> (4 * place)) % 16)

/-- A code point in the shortest of its three spellings. -/
def shownCode (code : Nat) : List Char :=
  if code < 0x100 then '\\' :: 'x' :: shownHex 2 code
  else if code < 0x10000 then '\\' :: 'u' :: shownHex 4 code
  else '\\' :: 'U' :: shownHex 8 code

/-- One character between the given quotes. -/
def shownChar (quote c : Char) : List Char :=
  if c = '\\' ∨ c = quote then ['\\', c]
  else if c = '\t' then ['\\', 't']
  else if c = '\n' then ['\\', 'n']
  else if c = '\r' then ['\\', 'r']
  else if isHidden c then shownCode c.toNat
  else [c]

/-- The quote that a text is shown between. -/
def shownQuote (cs : List Char) : Char :=
  if cs.contains '\'' && !cs.contains '"' then '"' else '\''

/-- A text as messages show it. -/
def shown (cs : List Char) : List Char :=
  shownQuote cs :: (cs.flatMap (shownChar (shownQuote cs)) ++ [shownQuote cs])

end Scaffold.Text
