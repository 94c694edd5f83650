import Scaffold.Layout.Token

/-!
# The segments of a line

A segment is what layout puts on a line of its own. An opening brace is one. A closing brace
starts one, and keeps to itself what follows unless that begins with `;`, `,`, `=` or `)`.
Within a segment, white space between two tokens is a single space.
-/

namespace Scaffold.Layout

/-- A line of laid-out source without its indentation; the empty one is a blank line. -/
abbrev Line := List Char

/-- The characters that may follow a closing brace on its line. -/
def isAttached (c : Char) : Bool :=
  c == ';' || c == ',' || c == '=' || c == ')'

/-- A token stays on the line of the closing brace before it. -/
def Token.attaches (token : Token) : Bool :=
  token.text.head?.any isAttached

/-- An open segment that holds something. -/
def closeSegment (current : Line) : List Line :=
  if current = [] then [] else [current]

/-- Adds a token to an open segment. -/
def extendSegment (current : Line) (spaced : Bool) (token : Token) : Line :=
  if current = [] then token.text
  else if spaced then current ++ ' ' :: token.text
  else current ++ token.text

/-- The segments of the given tokens, where `current` is the segment still open. -/
def segmentsFrom (current : Line) : List Lexeme → List Line
  | [] => closeSegment current
  | ⟨spaced, token⟩ :: rest =>
    match token with
    | .opening => closeSegment current ++ [openBrace] :: segmentsFrom [] rest
    | .closing => closeSegment current ++ segmentsFrom [closeBrace] rest
    | token =>
      if current = [closeBrace] ∧ token.attaches = false then
        current :: segmentsFrom token.text rest
      else
        segmentsFrom (extendSegment current spaced token) rest

/-- The segments of one physical line. A line without tokens is one blank segment, so that blank
lines survive until they are tidied. -/
def segments (line : List Char) : List Line :=
  match lex line with
  | [] => [[]]
  | lexemes => segmentsFrom [] lexemes

end Scaffold.Layout
