import Scaffold.Text.Blank

/-!
# The tokens of a line

Layout looks at source one physical line at a time, and on a line it tells apart five things:
the two braces, literals, comments, and the words in between. White space separates them and is
otherwise forgotten; of it only the fact remains that it stood before a token.

* A comment runs from two slashes to the end of the line, without the white space there.
* A literal runs from a quote to the matching one. A backslash takes the next character with it,
  except in a verbatim literal, where two quotes in a row stand for one. A literal that its line
  does not close is cut like a comment.
* A double quote opens a verbatim literal when `@` or `@$` stands right before it.

`lex` is the reader of lines, and `Token.text` the characters of a token.
-/

namespace Scaffold.Layout

def openBrace : Char := '\x7b'

def closeBrace : Char := '\x7d'

/-- What layout tells apart on a line. -/
inductive Token where
  | opening
  | closing
  /-- A quoted literal with its quotes. -/
  | literal (chars : List Char)
  | comment (chars : List Char)
  /-- A run of any other characters that are not white space. -/
  | word (chars : List Char)
deriving DecidableEq

/-- The characters that a token is written with. -/
def Token.text : Token → List Char
  | .opening => [openBrace]
  | .closing => [closeBrace]
  | .literal chars => chars
  | .comment chars => chars
  | .word chars => chars

/-- A token at its place on a line. -/
structure Lexeme where
  /-- White space stands right before the token. -/
  spaced : Bool
  token : Token
deriving DecidableEq

/-! ## Literals -/

/-- How the end of a literal is found. -/
inductive Quoting where
  /-- The given quote closes, and a backslash takes the next character with it. -/
  | escaped (quote : Char)
  /-- A double quote closes unless another one follows. -/
  | verbatim
deriving DecidableEq

/-- Puts a character before the first of two texts. -/
def consFst (c : Char) (parts : List Char × List Char) : List Char × List Char :=
  (c :: parts.1, parts.2)

/-- Cuts the text after an opening quote behind the quote that closes it. -/
def closeEscaped (quote : Char) : List Char → List Char × List Char
  | [] => ([], [])
  | '\\' :: c :: cs => consFst '\\' (consFst c (closeEscaped quote cs))
  | c :: cs => if c = quote then ([c], cs) else consFst c (closeEscaped quote cs)

/-- Cuts the text after the opening quote of a verbatim literal behind the quote that closes it. -/
def closeVerbatim : List Char → List Char × List Char
  | [] => ([], [])
  | '"' :: '"' :: cs => consFst '"' (consFst '"' (closeVerbatim cs))
  | c :: cs => if c = '"' then ([c], cs) else consFst c (closeVerbatim cs)

/-- Cuts the text after an opening quote into the rest of the literal and what follows it. -/
def Quoting.close : Quoting → List Char → List Char × List Char
  | .escaped quote, cs => closeEscaped quote cs
  | .verbatim, cs => closeVerbatim cs

/-- The word right before a double quote makes the literal verbatim. -/
def marksVerbatim (before : List Char) : Bool :=
  match before.reverse with
  | '@' :: _ => true
  | '$' :: '@' :: _ => true
  | _ => false

/-- How a literal ends that the given quote opens right after the given word. -/
def Quoting.ofOpening (before : List Char) (quote : Char) : Quoting :=
  if quote = '"' ∧ marksVerbatim before = true then .verbatim else .escaped quote

/-! ## Comments and words -/

/-- A character that opens a literal. -/
def isQuote (c : Char) : Bool :=
  c == '"' || c == '\''

/-- A character that may stand in a word. -/
def isWordChar (c : Char) : Bool :=
  !Text.isBlank c && c != openBrace && c != closeBrace && !isQuote c

/-- The text starts with the two slashes of a comment. -/
def startsComment : List Char → Bool
  | '/' :: '/' :: _ => true
  | _ => false

/-- Cuts the text behind its first word. -/
def takeWord : List Char → List Char × List Char
  | [] => ([], [])
  | c :: cs =>
    if isWordChar c && !startsComment (c :: cs) then consFst c (takeWord cs) else ([], c :: cs)

/-! ## Each cut leaves less to read -/

/-- What is left behind a literal is part of what was there before. -/
theorem closeEscaped_length (quote : Char) (cs : List Char) :
    (closeEscaped quote cs).2.length ≤ cs.length := by
  fun_induction closeEscaped quote cs with
  | case1 => simp
  | case2 c cs ih => simp [consFst]; omega
  | case3 => simp
  | case4 c cs _ _ ih => simp [consFst]; omega

theorem closeVerbatim_length (cs : List Char) :
    (closeVerbatim cs).2.length ≤ cs.length := by
  fun_induction closeVerbatim cs with
  | case1 => simp
  | case2 cs ih => simp [consFst]; omega
  | case3 => simp
  | case4 c cs _ _ ih => simp [consFst]; omega

/-- Closing a literal of either kind leaves no more than there was. -/
theorem Quoting.close_length (quoting : Quoting) (cs : List Char) :
    (quoting.close cs).2.length ≤ cs.length := by
  cases quoting with
  | escaped quote => exact closeEscaped_length quote cs
  | verbatim => exact closeVerbatim_length cs

/-- What is left behind a word is part of what was there before. -/
theorem takeWord_length (cs : List Char) : (takeWord cs).2.length ≤ cs.length := by
  induction cs with
  | nil => simp [takeWord]
  | cons c cs ih =>
    rw [takeWord]
    split
    · simp [consFst]; omega
    · simp

/-! ## The reader of lines -/

/-- Reads the tokens of a line, where `before` is the word right before the text and `spaced`
tells whether white space is. -/
def lexFrom (before : List Char) (spaced : Bool) : List Char → List Lexeme
  | [] => []
  | c :: cs =>
    if Text.isBlank c then lexFrom [] true cs
    else if c = openBrace then ⟨spaced, .opening⟩ :: lexFrom [] false cs
    else if c = closeBrace then ⟨spaced, .closing⟩ :: lexFrom [] false cs
    else if isQuote c then
      let parts := (Quoting.ofOpening before c).close cs
      ⟨spaced, .literal (Text.trimEnd (c :: parts.1))⟩ :: lexFrom [] false parts.2
    else if startsComment (c :: cs) then [⟨spaced, .comment (Text.trimEnd (c :: cs))⟩]
    else
      let parts := takeWord cs
      ⟨spaced, .word (c :: parts.1)⟩ :: lexFrom (c :: parts.1) false parts.2
termination_by cs => cs.length
decreasing_by
  · exact Nat.lt_succ_self _
  · exact Nat.lt_succ_self _
  · exact Nat.lt_succ_self _
  · exact Nat.lt_succ_of_le (Quoting.close_length _ _)
  · exact Nat.lt_succ_of_le (takeWord_length _)

/-- The tokens of one line, in order. -/
def lex (line : List Char) : List Lexeme :=
  lexFrom [] false line

end Scaffold.Layout
