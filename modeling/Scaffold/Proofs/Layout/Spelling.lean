import Scaffold.Proofs.Layout.Cut

/-!
# Writing lexemes and reading them back

`spell` writes lexemes one after the other, with a single space where white space stood. Reading a
line and spelling what was read loses nothing but layout:

* **`Legible`**: the lexemes can be told apart once they are written. It says of each token that it
  is one, and of each two neighbours without a space between them that they do not run together.
* **`legible_lexFrom`**: what is read is legible.
* **`lexFrom_spell`**: what is legible is read back.

Legible lexemes stay so when they are taken apart (`Legible.left`, `Legible.right`), which is
what happens to them when a line is cut into segments.
-/

namespace Scaffold.Layout

/-! ## Spelling -/

/-- The characters that a lexeme is written with. -/
def Lexeme.text (lexeme : Lexeme) : List Char :=
  if lexeme.spaced then ' ' :: lexeme.token.text else lexeme.token.text

@[simp] theorem Lexeme.text_spaced (token : Token) : Lexeme.text ⟨true, token⟩ = ' ' :: token.text :=
  rfl

@[simp] theorem Lexeme.text_unspaced (token : Token) : Lexeme.text ⟨false, token⟩ = token.text :=
  rfl

@[simp] theorem Token.text_opening : Token.opening.text = [openBrace] := rfl

@[simp] theorem Token.text_closing : Token.closing.text = [closeBrace] := rfl

@[simp] theorem Token.text_literal (chars : List Char) : (Token.literal chars).text = chars := rfl

@[simp] theorem Token.text_comment (chars : List Char) : (Token.comment chars).text = chars := rfl

@[simp] theorem Token.text_word (chars : List Char) : (Token.word chars).text = chars := rfl

/-- The text of lexemes, one after the other. -/
def spell (lexemes : List Lexeme) : List Char :=
  lexemes.flatMap Lexeme.text

@[simp] theorem spell_nil : spell [] = [] := rfl

@[simp] theorem spell_cons (lexeme : Lexeme) (lexemes : List Lexeme) :
    spell (lexeme :: lexemes) = lexeme.text ++ spell lexemes := rfl

theorem spell_unspaced (token : Token) : spell [⟨false, token⟩] = token.text :=
  List.append_nil _

@[simp] theorem spell_append (first second : List Lexeme) :
    spell (first ++ second) = spell first ++ spell second :=
  List.flatMap_append

/-! ## The reader of lines, by the first character

One equation for each kind of character that a text can start with; `char_cases` says that there
is no other. -/

/-- What a character can be to the reader of a line: white space, one of the braces, a quote, or
part of a word. -/
theorem char_cases (c : Char) :
    Text.isBlank c = true ∨ c = openBrace ∨ c = closeBrace ∨ isQuote c = true
      ∨ isWordChar c = true := by
  rw [isWordChar_iff]
  cases Text.isBlank c <;> cases isQuote c <;> simp
  by_cases hopen : c = openBrace
  · exact Or.inl hopen
  · by_cases hclose : c = closeBrace
    · exact Or.inr (Or.inl hclose)
    · exact Or.inr (Or.inr ⟨hopen, hclose⟩)

theorem lexFrom_nil (before : List Char) (spaced : Bool) : lexFrom before spaced [] = [] := by
  rw [lexFrom]

/-- White space ends the word before it and is remembered for the token behind it. -/
theorem lexFrom_blank {c : Char} (hc : Text.isBlank c = true) (before : List Char) (spaced : Bool)
    (cs : List Char) : lexFrom before spaced (c :: cs) = lexFrom [] true cs := by
  rw [lexFrom, if_pos hc]

theorem lexFrom_opening (before : List Char) (spaced : Bool) (cs : List Char) :
    lexFrom before spaced (openBrace :: cs) = ⟨spaced, .opening⟩ :: lexFrom [] false cs := by
  rw [lexFrom, if_neg (by decide), if_pos rfl]

theorem lexFrom_closing (before : List Char) (spaced : Bool) (cs : List Char) :
    lexFrom before spaced (closeBrace :: cs) = ⟨spaced, .closing⟩ :: lexFrom [] false cs := by
  rw [lexFrom, if_neg (by decide), if_neg (by decide), if_pos rfl]

/-- A quote opens a literal. Whether it is a verbatim one depends on the word before it. -/
theorem lexFrom_quote {c : Char} (hc : isQuote c = true) (before : List Char) (spaced : Bool)
    (cs : List Char) :
    lexFrom before spaced (c :: cs)
      = ⟨spaced, .literal (Text.trimEnd (c :: ((Quoting.ofOpening before c).close cs).1))⟩
        :: lexFrom [] false ((Quoting.ofOpening before c).close cs).2 := by
  have hbraces : c ≠ openBrace ∧ c ≠ closeBrace := by
    rcases isQuote_iff.mp hc with rfl | rfl <;> decide
  rw [lexFrom, if_neg (by simp [isBlank_of_isQuote hc]), if_neg hbraces.1, if_neg hbraces.2,
    if_pos hc]

/-- A comment takes the rest of its line. -/
theorem lexFrom_comment {cs : List Char} (h : startsComment cs = true) (before : List Char)
    (spaced : Bool) : lexFrom before spaced cs = [⟨spaced, .comment (Text.trimEnd cs)⟩] := by
  obtain ⟨tail, rfl⟩ := startsComment_iff.mp h
  rw [lexFrom, if_neg (by decide), if_neg (by decide), if_neg (by decide), if_neg (by decide),
    if_pos h]

/-- A word runs as far as its characters do, and is kept for the quote that may follow. -/
theorem lexFrom_word {c : Char} {cs : List Char} (hc : isWordChar c = true)
    (hstart : startsComment (c :: cs) = false) (before : List Char) (spaced : Bool) :
    lexFrom before spaced (c :: cs)
      = ⟨spaced, .word (c :: (takeWord cs).1)⟩
        :: lexFrom (c :: (takeWord cs).1) false (takeWord cs).2 := by
  obtain ⟨hblank, hopen, hclose, hquote⟩ := isWordChar_iff.mp hc
  rw [lexFrom, if_neg (by simp [hblank]), if_neg hopen, if_neg hclose, if_neg (by simp [hquote]),
    if_neg (by simp [hstart])]

/-- White space before a text that shows is remembered by its first lexeme, and by nothing else. -/
theorem lexFrom_spaced {c : Char} (hc : Text.isBlank c = false) (before cs : List Char) :
    ∃ token rest, ∀ spaced, lexFrom before spaced (c :: cs) = ⟨spaced, token⟩ :: rest := by
  rcases char_cases c with h | rfl | rfl | h | h
  · rw [hc] at h
    exact absurd h (by decide)
  · exact ⟨_, _, fun spaced => lexFrom_opening before spaced cs⟩
  · exact ⟨_, _, fun spaced => lexFrom_closing before spaced cs⟩
  · exact ⟨_, _, fun spaced => lexFrom_quote h before spaced cs⟩
  · cases hstart : startsComment (c :: cs) with
    | true => exact ⟨_, _, fun spaced => lexFrom_comment hstart before spaced⟩
    | false => exact ⟨_, _, fun spaced => lexFrom_word h hstart before spaced⟩

/-! ## Legible lexemes -/

/-- The token may stand right behind the word: it is no word itself, and no comment whose first
slash would make one with the slash at the end of the word. -/
def Token.Touches (word : List Char) : Token → Prop
  | .word _ => False
  | .comment _ => word.getLast? ≠ some '/'
  | _ => True

/-- White space, or an allowed token, comes next. -/
def Apart (allowed : Token → Prop) (lexemes : List Lexeme) : Prop :=
  ∀ next ∈ lexemes.head?, next.spaced = true ∨ allowed next.token

theorem apart_nil (allowed : Token → Prop) : Apart allowed [] := by
  simp [Apart]

/-- What starts with a token that stands apart still does so when its end is cut off. -/
theorem Apart.left {allowed : Token → Prop} {first second : List Lexeme}
    (h : Apart allowed (first ++ second)) : Apart allowed first := by
  cases first with
  | nil => exact apart_nil allowed
  | cons next rest => exact h

/-- Lexemes that can be told apart once they are written right behind the word `before`. -/
inductive Legible : List Char → List Lexeme → Prop where
  | nil (before : List Char) : Legible before []
  | opening {before : List Char} {spaced : Bool} {rest : List Lexeme}
      (hrest : Legible [] rest) : Legible before (⟨spaced, .opening⟩ :: rest)
  | closing {before : List Char} {spaced : Bool} {rest : List Lexeme}
      (hrest : Legible [] rest) : Legible before (⟨spaced, .closing⟩ :: rest)
  /-- A literal that its quote closes. -/
  | closed {before : List Char} {spaced : Bool} {c : Char} {body : List Char} {rest : List Lexeme}
      (hquote : isQuote c = true)
      (hbody : (Quoting.ofOpening (if spaced then [] else before) c).Closes body)
      (hnext : Apart (fun token =>
        (Quoting.ofOpening (if spaced then [] else before) c).Spares token.text) rest)
      (hrest : Legible [] rest) : Legible before (⟨spaced, .literal (c :: body)⟩ :: rest)
  /-- A literal that runs to the end of its line. -/
  | unclosed {before : List Char} {spaced : Bool} {c : Char} {body : List Char}
      (hquote : isQuote c = true)
      (hbody : (Quoting.ofOpening (if spaced then [] else before) c).close body = (body, []))
      (htrim : Text.trimEnd (c :: body) = c :: body) :
      Legible before [⟨spaced, .literal (c :: body)⟩]
  | comment {before : List Char} {spaced : Bool} {chars : List Char}
      (hstart : startsComment chars = true) (htrim : Text.trimEnd chars = chars) :
      Legible before [⟨spaced, .comment chars⟩]
  | word {before : List Char} {spaced : Bool} {c : Char} {cs : List Char} {rest : List Lexeme}
      (hword : IsWord (c :: cs)) (hnext : Apart (Token.Touches (c :: cs)) rest)
      (hrest : Legible (c :: cs) rest) : Legible before (⟨spaced, .word (c :: cs)⟩ :: rest)

/-- The first lexemes of legible ones are legible. Induction on these first ones. -/
theorem Legible.left {before : List Char} {first second : List Lexeme}
    (h : Legible before (first ++ second)) : Legible before first := by
  induction first generalizing before with
  | nil => exact .nil before
  | cons lexeme rest ih =>
    rw [List.cons_append] at h
    -- the lexemes behind are named, for the cases to be told apart
    generalize hall : rest ++ second = all at h
    cases h with
    | opening hrest =>
      subst hall
      exact .opening (ih hrest)
    | closing hrest =>
      subst hall
      exact .closing (ih hrest)
    | closed hquote hbody hnext hrest =>
      subst hall
      exact .closed hquote hbody hnext.left (ih hrest)
    | unclosed hquote hbody htrim =>
      -- nothing stands behind, so nothing is left out
      obtain ⟨rfl, -⟩ := List.append_eq_nil_iff.mp hall
      exact .unclosed hquote hbody htrim
    | comment hstart htrim =>
      obtain ⟨rfl, -⟩ := List.append_eq_nil_iff.mp hall
      exact .comment hstart htrim
    | word hword hnext hrest =>
      subst hall
      exact .word hword hnext.left (ih hrest)

/-- The lexemes behind the first of legible ones are legible, behind some word. -/
theorem Legible.tail {before : List Char} {lexeme : Lexeme} {rest : List Lexeme}
    (h : Legible before (lexeme :: rest)) : ∃ word, Legible word rest := by
  cases h with
  | opening hrest => exact ⟨_, hrest⟩
  | closing hrest => exact ⟨_, hrest⟩
  | closed _ _ _ hrest => exact ⟨_, hrest⟩
  | unclosed => exact ⟨[], .nil []⟩
  | comment => exact ⟨[], .nil []⟩
  | word _ _ hrest => exact ⟨_, hrest⟩

/-- The last lexemes of legible ones are legible, behind some word. -/
theorem Legible.right {before : List Char} {first second : List Lexeme}
    (h : Legible before (first ++ second)) : ∃ word, Legible word second := by
  induction first generalizing before with
  | nil => exact ⟨before, h⟩
  | cons lexeme rest ih =>
    obtain ⟨word, hrest⟩ := h.tail
    exact ih hrest

/-- White space before the first lexeme can be dropped where no word stands before it. -/
theorem Legible.unspaced {spaced : Bool} {token : Token} {rest : List Lexeme}
    (h : Legible [] (⟨spaced, token⟩ :: rest)) : Legible [] (⟨false, token⟩ :: rest) := by
  cases h with
  | opening hrest => exact .opening hrest
  | closing hrest => exact .closing hrest
  | closed hquote hbody hnext hrest =>
    -- without a word before it, a quote opens the same literal with and without the space
    rw [ite_self] at hbody hnext
    exact .closed hquote hbody hnext hrest
  | unclosed hquote hbody htrim =>
    rw [ite_self] at hbody
    exact .unclosed hquote hbody htrim
  | comment hstart htrim => exact .comment hstart htrim
  | word hword hnext hrest => exact .word hword hnext hrest

/-- A legible token starts with a character that shows. -/
theorem Legible.head_text {before : List Char} {lexeme : Lexeme} {rest : List Lexeme}
    (h : Legible before (lexeme :: rest)) :
    ∃ c cs, lexeme.token.text = c :: cs ∧ Text.isBlank c = false := by
  cases h with
  | opening => exact ⟨openBrace, [], rfl, by decide⟩
  | closing => exact ⟨closeBrace, [], rfl, by decide⟩
  | closed hquote => exact ⟨_, _, rfl, isBlank_of_isQuote hquote⟩
  | unclosed hquote => exact ⟨_, _, rfl, isBlank_of_isQuote hquote⟩
  | comment hstart =>
    obtain ⟨tail, rfl⟩ := startsComment_iff.mp hstart
    exact ⟨'/', '/' :: tail, rfl, by decide⟩
  | word hword => exact ⟨_, _, rfl, (isWordChar_iff.mp (isWord_cons_iff.mp hword).1).1⟩

/-! ## What is read is legible -/

/-- Behind white space, the next token is marked as spaced. -/
theorem spaced_of_mem_head?_lexFrom {before cs : List Char} {next : Lexeme}
    (h : next ∈ (lexFrom before true cs).head?) : next.spaced = true := by
  induction cs generalizing before with
  | nil =>
    rw [lexFrom_nil] at h
    exact absurd h (by simp)
  | cons c cs ih =>
    cases hc : Text.isBlank c with
    | true =>
      rw [lexFrom_blank hc] at h
      exact ih h
    | false =>
      obtain ⟨token, rest, hlex⟩ := lexFrom_spaced hc before cs
      rw [hlex true, List.head?_cons, Option.mem_some] at h
      rw [← h]

/-- What the first token of a text may be is decided by the character that the text starts with. -/
theorem apart_lexFrom {allowed : Token → Prop} {before cs : List Char}
    (h : ∀ c rest token lexemes, cs = c :: rest → Text.isBlank c = false →
      lexFrom before false cs = ⟨false, token⟩ :: lexemes → allowed token) :
    Apart allowed (lexFrom before false cs) := by
  cases cs with
  | nil =>
    rw [lexFrom_nil]
    exact apart_nil allowed
  | cons c cs =>
    intro next hnext
    cases hc : Text.isBlank c with
    | true =>
      rw [lexFrom_blank hc] at hnext
      exact Or.inl (spaced_of_mem_head?_lexFrom hnext)
    | false =>
      obtain ⟨token, rest, hlex⟩ := lexFrom_spaced hc before cs
      rw [hlex false, List.head?_cons, Option.mem_some] at hnext
      subst hnext
      exact Or.inr (h c cs token rest rfl hc (hlex false))

/-- Equal lists of lexemes start with the same token. -/
theorem token_eq_of_cons_eq {spaced : Bool} {first second : Token} {firsts seconds : List Lexeme}
    (h : (⟨spaced, first⟩ :: firsts : List Lexeme) = ⟨spaced, second⟩ :: seconds) :
    first = second := by
  rw [List.cons.injEq, Lexeme.mk.injEq] at h
  exact h.1.2

/-- The first token of a text that shows starts as the text does. One case for each kind of
character that the text may start with. -/
theorem head?_text_of_lexFrom {before cs : List Char} {c : Char} {spaced : Bool} {token : Token}
    {lexemes : List Lexeme} (hc : Text.isBlank c = false)
    (h : lexFrom before spaced (c :: cs) = ⟨spaced, token⟩ :: lexemes) :
    token.text.head? = some c := by
  rcases char_cases c with hblank | rfl | rfl | hquote | hword
  · rw [hc] at hblank
    exact absurd hblank (by decide)
  · rw [lexFrom_opening] at h
    rw [← token_eq_of_cons_eq h]
    rfl
  · rw [lexFrom_closing] at h
    rw [← token_eq_of_cons_eq h]
    rfl
  -- trimming the end of a literal or of a comment keeps its first character
  · rw [lexFrom_quote hquote, Text.trimEnd_cons hc] at h
    rw [← token_eq_of_cons_eq h]
    rfl
  · cases hstart : startsComment (c :: cs) with
    | true =>
      rw [lexFrom_comment hstart, Text.trimEnd_cons hc] at h
      rw [← token_eq_of_cons_eq h]
      rfl
    | false =>
      rw [lexFrom_word hword hstart] at h
      rw [← token_eq_of_cons_eq h]
      rfl

/-- What follows a literal in the text spares it as a lexeme, too. -/
theorem apart_spares {quoting : Quoting} {cs : List Char} (h : quoting.Spares cs) :
    Apart (fun token => quoting.Spares token.text) (lexFrom [] false cs) := by
  refine apart_lexFrom fun c rest token lexemes hcs hc hlex hverbatim => ?_
  rw [hcs] at hlex h
  rw [head?_text_of_lexFrom hc hlex]
  exact h hverbatim

/-- What ends a word in the text may touch it as a lexeme. -/
theorem apart_touches {word cs : List Char} (h : EndsWord cs)
    (hslash : word.getLast? = some '/' → cs.head? ≠ some '/') :
    Apart (Token.Touches word) (lexFrom word false cs) := by
  refine apart_lexFrom fun c rest token lexemes hcs hc hlex => ?_
  subst hcs
  rcases char_cases c with hblank | rfl | rfl | hquote | hword
  · rw [hc] at hblank
    exact absurd hblank (by decide)
  · rw [lexFrom_opening] at hlex
    rw [← token_eq_of_cons_eq hlex]
    trivial
  · rw [lexFrom_closing] at hlex
    rw [← token_eq_of_cons_eq hlex]
    trivial
  · rw [lexFrom_quote hquote] at hlex
    rw [← token_eq_of_cons_eq hlex]
    trivial
  · -- the only word character that ends a word is the slash of a comment
    have hstart : startsComment (c :: rest) = true := by
      rcases h.head with hnot | hstart
      · rw [hword] at hnot
        exact absurd hnot (by decide)
      · exact hstart
    obtain ⟨tail, htail⟩ := startsComment_iff.mp hstart
    rw [List.cons.injEq] at htail
    rw [lexFrom_comment hstart] at hlex
    rw [← token_eq_of_cons_eq hlex]
    show word.getLast? ≠ some '/'
    intro hlast
    rw [htail.1] at hslash
    exact hslash hlast rfl

/-- **What is read is legible**, behind the word that it is read behind. White space before the
text cuts it off from any other word. Induction along the reader. -/
theorem legible_lexFrom {before : List Char} {spaced : Bool} (cs : List Char) {word : List Char}
    (hspaced : spaced = true → before = []) (hword : spaced = false → word = before) :
    Legible word (lexFrom before spaced cs) := by
  fun_induction lexFrom before spaced cs generalizing word with
  | case1 => exact .nil word
  | case2 before spaced c cs hc ih => exact ih (fun _ => rfl) nofun
  | case3 before spaced cs _ ih => exact .opening (ih nofun fun _ => rfl)
  | case4 before spaced cs _ _ ih => exact .closing (ih nofun fun _ => rfl)
  | case5 before spaced c cs _ _ _ hquote parts =>
    rename_i ih
    -- the literal is the same one, whether it is read or written behind the word
    have hquoting : Quoting.ofOpening (if spaced then [] else word) c
        = Quoting.ofOpening before c := by
      cases spaced with
      | true => rw [if_pos rfl, hspaced rfl]
      | false => rw [if_neg (by decide), hword rfl]
    have hquote' : isQuote (Quoting.ofOpening before c).quote = true := by
      rwa [Quoting.quote_ofOpening]
    have hc : Text.isBlank c = false := isBlank_of_isQuote hquote
    rcases Quoting.close_cases hquote' cs with ⟨body, rest, hcs, hbody, hrest⟩ | hopen
    · have hparts : parts = (body, rest) := by
        rw [← hbody.close_append rest hrest, ← hcs]
      rw [hparts] at ih ⊢
      rw [hbody.trimEnd_eq hquote']
      refine .closed hquote (hquoting ▸ hbody) ?_ (ih nofun fun _ => rfl)
      rw [hquoting]
      exact apart_spares hrest
    · have hparts : parts = (cs, []) := hopen
      -- an open literal is trimmed, and stays open without the white space
      obtain ⟨blanks, hcs, hblanks⟩ := Text.trimEnd_append_blanks cs
      rw [hparts, lexFrom_nil, Text.trimEnd_cons hc]
      refine .unclosed hquote ?_ ?_
      · rw [hquoting]
        refine Quoting.close_of_append_blanks hquote' hblanks ?_
        rw [← hcs]
        exact hopen
      · rw [Text.trimEnd_cons hc, Text.trimEnd_trimEnd]
  | case6 before spaced c cs _ _ _ _ hstart =>
    -- a comment is trimmed, but not down to less than its slashes
    obtain ⟨tail, htail⟩ := startsComment_iff.mp hstart
    refine .comment ?_ (Text.trimEnd_trimEnd _)
    rw [htail, Text.trimEnd_cons (by decide), Text.trimEnd_cons (by decide)]
    rfl
  | case7 before spaced c cs hblank hopen hclose hquote hstart parts =>
    rename_i ih
    -- what is none of the above belongs to a word
    have hc : isWordChar c = true := by
      rw [isWordChar_iff]
      exact ⟨by simpa using hblank, hopen, hclose, by simpa using hquote⟩
    have hstart : startsComment (c :: cs) = false := by simpa using hstart
    refine .word ?_ ?_ (ih nofun fun _ => rfl)
    · exact isWord_cons_iff.mpr ⟨hc, startsComment_cons_takeWord hstart, isWord_takeWord_fst cs⟩
    · exact apart_touches (endsWord_takeWord_snd cs) (takeWord_snd_head hstart)

/-- The tokens of a line are legible: spelled again, they would be read as the same tokens. -/
theorem legible_lex (line : List Char) : Legible [] (lex line) :=
  legible_lexFrom line (fun _ => rfl) fun _ => rfl

/-! ## What is legible is read back -/

/-- The space before a lexeme is read as white space. -/
theorem lexFrom_text (before : List Char) (spaced : Bool) (token : Token) (rest : List Char) :
    lexFrom before false (Lexeme.text ⟨spaced, token⟩ ++ rest)
      = lexFrom (if spaced then [] else before) spaced (token.text ++ rest) := by
  cases spaced with
  | true => rw [Lexeme.text_spaced, if_pos rfl, List.cons_append, lexFrom_blank (by decide)]
  | false => rw [Lexeme.text_unspaced, if_neg (by decide)]

/-- Legible lexemes start with the space or the token of the first one. -/
theorem Legible.head?_spell {before : List Char} {spaced : Bool} {token : Token}
    {rest : List Lexeme} (h : Legible before (⟨spaced, token⟩ :: rest)) :
    (spell (⟨spaced, token⟩ :: rest)).head? = if spaced then some ' ' else token.text.head? := by
  obtain ⟨c, cs, htext, -⟩ := h.head_text
  cases spaced with
  | true => rfl
  | false =>
    rw [spell_cons, Lexeme.text_unspaced, htext]
    rfl

/-- Lexemes that may follow a literal spare it as a text. -/
theorem Legible.spares_spell {quoting : Quoting} {before : List Char} {lexemes : List Lexeme}
    (h : Legible before lexemes)
    (hnext : Apart (fun token => quoting.Spares token.text) lexemes) :
    quoting.Spares (spell lexemes) := by
  cases lexemes with
  | nil => exact quoting.spares_nil
  | cons lexeme rest =>
    obtain ⟨spaced, token⟩ := lexeme
    intro hverbatim
    rw [h.head?_spell]
    -- a space spares every literal
    cases spaced with
    | true => simp
    | false =>
      rcases hnext _ rfl with hspaced | hspares
      · exact absurd hspaced (by simp)
      · exact hspares hverbatim

/-- Lexemes that may follow a word end it as a text. -/
theorem Legible.endsWord_spell {before word : List Char} {lexemes : List Lexeme}
    (h : Legible before lexemes) (hnext : Apart (Token.Touches word) lexemes) :
    EndsWord (spell lexemes)
      ∧ (word.getLast? = some '/' → (spell lexemes).head? ≠ some '/') := by
  cases lexemes with
  | nil => exact ⟨endsWord_nil, fun _ => by simp⟩
  | cons lexeme rest =>
    obtain ⟨spaced, token⟩ := lexeme
    rw [h.head?_spell, spell_cons]
    cases spaced with
    | true => exact ⟨endsWord_of_not_isWordChar (by decide) _, fun _ => by simp⟩
    | false =>
      have htouches : token.Touches word := by
        rcases hnext _ rfl with hspaced | htouches
        · exact absurd hspaced (by simp)
        · exact htouches
      rw [if_neg (by decide), Lexeme.text_unspaced]
      cases h with
      | opening => exact ⟨endsWord_of_not_isWordChar (by decide) _, fun _ => by decide⟩
      | closing => exact ⟨endsWord_of_not_isWordChar (by decide) _, fun _ => by decide⟩
      | @closed _ _ c _ _ hquote | @unclosed _ _ c _ hquote =>
        -- a literal starts with its quote, which no word holds
        have hc : isWordChar c = false ∧ c ≠ '/' := by
          rcases isQuote_iff.mp hquote with rfl | rfl <;> decide
        exact ⟨endsWord_of_not_isWordChar hc.1 _, fun _ => by simpa using hc.2⟩
      | comment hstart =>
        refine ⟨endsWord_of_startsComment (startsComment_append hstart _), fun hlast => ?_⟩
        exact absurd hlast htouches
      | word =>
        -- two words are never written side by side
        exact absurd htouches id

/-- **What is legible is read back.** Induction on the lexemes. -/
theorem lexFrom_spell {before : List Char} {lexemes : List Lexeme} (h : Legible before lexemes) :
    lexFrom before false (spell lexemes) = lexemes := by
  induction h with
  | nil before => exact lexFrom_nil before false
  | opening hrest ih =>
    rw [spell_cons, lexFrom_text, Token.text_opening, List.singleton_append, lexFrom_opening, ih]
  | closing hrest ih =>
    rw [spell_cons, lexFrom_text, Token.text_closing, List.singleton_append, lexFrom_closing, ih]
  | @closed before spaced c body rest hquote hbody hnext hrest ih =>
    have hquote' : isQuote (Quoting.ofOpening (if spaced then [] else before) c).quote = true := by
      rwa [Quoting.quote_ofOpening]
    rw [spell_cons, lexFrom_text, Token.text_literal, List.cons_append, lexFrom_quote hquote,
      hbody.close_append _ (hrest.spares_spell hnext), hbody.trimEnd_eq hquote', ih]
  | unclosed hquote hbody htrim =>
    rw [spell_cons, lexFrom_text, Token.text_literal, spell_nil, List.append_nil,
      lexFrom_quote hquote, hbody, htrim, lexFrom_nil]
  | comment hstart htrim =>
    rw [spell_cons, lexFrom_text, Token.text_comment, spell_nil, List.append_nil,
      lexFrom_comment hstart, htrim]
  | word hword hnext hrest ih =>
    -- the word is cut off again, because what is written behind it ends it
    obtain ⟨hends, hslash⟩ := hrest.endsWord_spell hnext
    have hcut := takeWord_append hword hends hslash
    rw [List.cons_append, takeWord_cons_eq_iff] at hcut
    obtain ⟨hc, hstart, htake⟩ := hcut
    rw [spell_cons, lexFrom_text, Token.text_word, List.cons_append, lexFrom_word hc hstart, htake,
      ih]

end Scaffold.Layout
