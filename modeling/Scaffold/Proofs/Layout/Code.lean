import Mathlib.Data.List.Chain
import Scaffold.Proofs.Layout.Spelling

/-!
# What stands outside of literals and comments

White space and braces are layout only outside of literals and comments. `code` is a line with
these two put out of sight, so that it can be asked what white space and which braces are left:

* **`code_spell`**: the code of legible lexemes is what is spelled outside of their literals and
  comments.
* **`spell_lexFrom`**: a line is spelled by its lexemes exactly as it stands if its code holds
  single spaces and no other white space, and its last character shows.
* **`isSpaced_spellCode`**: conversely, the code of legible lexemes holds single spaces only.
-/

namespace Scaffold.Layout

/-! ## The code of a line -/

/-- A text with a pair of quotes for each literal and two slashes for a comment, where `before` is
the word right before the text. -/
def codeFrom (before : List Char) : List Char → List Char
  | [] => []
  | c :: cs =>
    if isQuote c then
      '"' :: '"' :: codeFrom [] ((Quoting.ofOpening before c).close cs).2
    else if startsComment (c :: cs) then ['/', '/']
    else if isWordChar c then
      c :: ((takeWord cs).1 ++ codeFrom (c :: (takeWord cs).1) (takeWord cs).2)
    else c :: codeFrom [] cs
termination_by cs => cs.length
decreasing_by
  · exact Nat.lt_succ_of_le (Quoting.close_length _ _)
  · exact Nat.lt_succ_of_le (takeWord_length _)
  · exact Nat.lt_succ_self _

/-- A line with a pair of quotes for each literal and two slashes for a comment. -/
def code (line : List Char) : List Char :=
  codeFrom [] line

theorem codeFrom_nil (before : List Char) : codeFrom before [] = [] := by
  rw [codeFrom]

/-- Of a literal only two quotation marks are left. -/
theorem codeFrom_quote {c : Char} (hc : isQuote c = true) (before cs : List Char) :
    codeFrom before (c :: cs)
      = '"' :: '"' :: codeFrom [] ((Quoting.ofOpening before c).close cs).2 := by
  rw [codeFrom, if_pos hc]

/-- Of a comment only its two slashes are left. -/
theorem codeFrom_comment {cs : List Char} (h : startsComment cs = true) (before : List Char) :
    codeFrom before cs = ['/', '/'] := by
  obtain ⟨tail, rfl⟩ := startsComment_iff.mp h
  rw [codeFrom, if_neg (by decide), if_pos h]

/-- A word is kept, and goes before what follows. -/
theorem codeFrom_word {c : Char} {cs : List Char} (hc : isWordChar c = true)
    (hstart : startsComment (c :: cs) = false) (before : List Char) :
    codeFrom before (c :: cs)
      = c :: (takeWord cs).1 ++ codeFrom (c :: (takeWord cs).1) (takeWord cs).2 := by
  rw [codeFrom, if_neg (by simp [(isWordChar_iff.mp hc).2.2.2]), if_neg (by simp [hstart]),
    if_pos hc, List.cons_append]

/-- Any other character is kept, and goes before nothing. -/
theorem codeFrom_other {c : Char} (hword : isWordChar c = false) (hquote : isQuote c = false)
    (before cs : List Char) : codeFrom before (c :: cs) = c :: codeFrom [] cs := by
  -- a slash is a character of words, so no comment starts here
  have hslash : startsComment (c :: cs) = false := by
    rw [← Bool.not_eq_true, startsComment_iff]
    rintro ⟨tail, htail⟩
    rw [(List.cons.inj htail).1] at hword
    exact absurd hword (by decide)
  rw [codeFrom, if_neg (by simp [hquote]), if_neg (by simp [hslash]), if_neg (by simp [hword])]

/-- So is white space. -/
theorem codeFrom_blank {c : Char} (hc : Text.isBlank c = true) (before cs : List Char) :
    codeFrom before (c :: cs) = c :: codeFrom [] cs := by
  have hquote : isQuote c = false := by
    rw [← Bool.not_eq_true]
    intro hquote
    rw [isBlank_of_isQuote hquote] at hc
    exact absurd hc (by decide)
  exact codeFrom_other (by simp [isWordChar, hc]) hquote before cs

/-- **Without quotes and comments, a text is all code.** -/
theorem codeFrom_eq_self (before : List Char) {cs : List Char}
    (hquote : ∀ c ∈ cs, isQuote c = false)
    (hslash : cs.IsChain fun first second => first = '/' → second ≠ '/') :
    codeFrom before cs = cs := by
  fun_induction codeFrom before cs with
  | case1 => rfl
  | case2 before c cs hc =>
    rw [hquote c List.mem_cons_self] at hc
    exact absurd hc (by decide)
  | case3 before c cs _ hstart =>
    obtain ⟨tail, htail⟩ := startsComment_iff.mp hstart
    rw [htail] at hslash
    exact absurd rfl ((List.isChain_cons_cons.mp hslash).1 rfl)
  | case4 before c cs _ _ _ ih =>
    -- what is left behind a word is part of the text, and so has no quotes and comments either
    have hcut : (takeWord cs).1 ++ (takeWord cs).2 = cs := takeWord_append_takeWord cs
    rw [ih, hcut]
    · intro d hd
      refine hquote d (List.mem_cons_of_mem c ?_)
      rw [← hcut]
      exact List.mem_append_right _ hd
    · rw [← hcut, ← List.cons_append] at hslash
      exact hslash.right_of_append
  | case5 before c cs _ _ _ ih =>
    rw [ih (fun d hd => hquote d (List.mem_cons_of_mem c hd)) hslash.tail]

/-! ## The code of lexemes -/

def Token.code : Token → List Char
  | .literal _ => ['"', '"']
  | .comment _ => ['/', '/']
  | token => token.text

/-- The space before a lexeme, if there is one. -/
def gap (spaced : Bool) : List Char :=
  if spaced then [' '] else []

@[simp] theorem gap_true : gap true = [' '] := rfl

@[simp] theorem gap_false : gap false = [] := rfl

theorem Lexeme.text_eq (spaced : Bool) (token : Token) :
    Lexeme.text ⟨spaced, token⟩ = gap spaced ++ token.text := by
  cases spaced <;> rfl

/-- What is code of lexemes, with a space where white space stood. -/
def spellCode (lexemes : List Lexeme) : List Char :=
  lexemes.flatMap fun lexeme => gap lexeme.spaced ++ lexeme.token.code

@[simp] theorem spellCode_nil : spellCode [] = [] := rfl

@[simp] theorem spellCode_cons (spaced : Bool) (token : Token) (rest : List Lexeme) :
    spellCode (⟨spaced, token⟩ :: rest) = gap spaced ++ token.code ++ spellCode rest := rfl

/-- The space before a lexeme is code, and cuts it off from the word before. -/
theorem codeFrom_text (before : List Char) (spaced : Bool) (token : Token) (rest : List Char) :
    codeFrom before (Lexeme.text ⟨spaced, token⟩ ++ rest)
      = gap spaced ++ codeFrom (if spaced then [] else before) (token.text ++ rest) := by
  cases spaced with
  | true => rw [Lexeme.text_spaced, if_pos rfl, List.cons_append, codeFrom_blank (by decide)]; rfl
  | false => rw [Lexeme.text_unspaced, if_neg (by decide)]; rfl

/-- What is spelled of legible lexemes has their code. Induction on the lexemes. -/
theorem codeFrom_spell {before : List Char} {lexemes : List Lexeme} (h : Legible before lexemes) :
    codeFrom before (spell lexemes) = spellCode lexemes := by
  -- induction on legibility, whose cases say where each token ends; a literal or comment that ends
  -- the text has nothing behind it
  induction h with
  | nil before => exact codeFrom_nil before
  | opening hrest ih =>
    rw [spell_cons, codeFrom_text, Token.text_opening, List.singleton_append,
      codeFrom_other (by decide) (by decide), ih, spellCode_cons]
    simp [Token.code]
  | closing hrest ih =>
    rw [spell_cons, codeFrom_text, Token.text_closing, List.singleton_append,
      codeFrom_other (by decide) (by decide), ih, spellCode_cons]
    simp [Token.code]
  | closed hquote hbody hnext hrest ih =>
    rw [spell_cons, codeFrom_text, Token.text_literal, List.cons_append, codeFrom_quote hquote,
      hbody.close_append _ (hrest.spares_spell hnext), ih, spellCode_cons]
    simp [Token.code]
  | unclosed hquote hbody htrim =>
    rw [spell_cons, codeFrom_text, Token.text_literal, spell_nil, List.append_nil,
      codeFrom_quote hquote, hbody, codeFrom_nil, spellCode_cons, spellCode_nil]
    simp [Token.code]
  | comment hstart htrim =>
    rw [spell_cons, codeFrom_text, Token.text_comment, spell_nil, List.append_nil,
      codeFrom_comment hstart, spellCode_cons, spellCode_nil]
    simp [Token.code]
  | word hword hnext hrest ih =>
    obtain ⟨hends, hslash⟩ := hrest.endsWord_spell hnext
    have hcut := takeWord_append hword hends hslash
    rw [List.cons_append, takeWord_cons_eq_iff] at hcut
    obtain ⟨hc, hstart, htake⟩ := hcut
    rw [spell_cons, codeFrom_text, Token.text_word, List.cons_append, codeFrom_word hc hstart,
      htake, ih, spellCode_cons]
    simp [Token.code]

/-- **The code of legible lexemes** is what is spelled outside of their literals and comments. -/
theorem code_spell {lexemes : List Lexeme} (h : Legible [] lexemes) :
    code (spell lexemes) = spellCode lexemes :=
  codeFrom_spell h

/-- A legible token has code, and all of it shows. -/
theorem Legible.code_head {before : List Char} {lexeme : Lexeme} {rest : List Lexeme}
    (h : Legible before (lexeme :: rest)) :
    lexeme.token.code ≠ [] ∧ ∀ c ∈ lexeme.token.code, Text.isBlank c = false := by
  cases h with
  | opening | closing | closed | unclosed | comment =>
    exact ⟨by simp [Token.code], by simp [Token.code]; decide⟩
  | word hword =>
    refine ⟨by simp [Token.code], fun c hc => ?_⟩
    exact (isWordChar_iff.mp (hword.isWordChar_of_mem hc)).1

/-! ## Single spaces -/

/-- The text holds no white space but single spaces. -/
structure IsSpaced (cs : List Char) : Prop where
  eq_space : ∀ c ∈ cs, Text.isBlank c = true → c = ' '
  isChain : cs.IsChain fun first second => first = ' ' → second ≠ ' '

theorem isSpaced_nil : IsSpaced [] :=
  ⟨nofun, .nil⟩

/-- What stands behind spaced text is spaced. -/
theorem IsSpaced.right {first second : List Char} (h : IsSpaced (first ++ second)) :
    IsSpaced second where
  eq_space c hc := h.eq_space c (List.mem_append_right first hc)
  isChain := h.isChain.right_of_append

/-- A character that shows can be put before spaced text. -/
theorem IsSpaced.cons {c : Char} {cs : List Char} (h : IsSpaced cs)
    (hc : Text.isBlank c = false) : IsSpaced (c :: cs) where
  eq_space d hd hblank := by
    rcases List.mem_cons.mp hd with rfl | hmem
    · rw [hc] at hblank
      exact absurd hblank (by decide)
    · exact h.eq_space d hmem hblank
  isChain := by
    refine List.isChain_cons.mpr ⟨fun next _ hspace => ?_, h.isChain⟩
    rw [hspace] at hc
    exact absurd hc (by decide)

/-- What shows may stand anywhere. -/
theorem IsSpaced.append {first second : List Char} (h : IsSpaced second)
    (hfirst : ∀ c ∈ first, Text.isBlank c = false) : IsSpaced (first ++ second) := by
  induction first with
  | nil => exact h
  | cons c cs ih => exact (ih fun d hd => hfirst d (by simp [hd])).cons (hfirst c (by simp))

/-- A space may stand before a character that shows. -/
theorem IsSpaced.gap_append {cs : List Char} (h : IsSpaced cs)
    (hhead : ∀ c ∈ cs.head?, Text.isBlank c = false) (spaced : Bool) :
    IsSpaced (gap spaced ++ cs) := by
  cases spaced with
  | false => exact h
  | true =>
    constructor
    · intro c hc hblank
      rcases List.mem_cons.mp hc with rfl | hmem
      · rfl
      · exact h.eq_space c hmem hblank
    -- only the seam is new: the space stands before a character that is none
    · refine List.isChain_cons.mpr ⟨fun next hnext _ hspace => ?_, h.isChain⟩
      have := hhead next hnext
      rw [hspace] at this
      exact absurd this (by decide)

/-- Two spaces never stand side by side. -/
theorem IsSpaced.ne_space {c : Char} {cs : List Char} (h : IsSpaced (' ' :: c :: cs)) : c ≠ ' ' :=
  (List.isChain_cons_cons.mp h.isChain).1 rfl

/-- **The code of legible lexemes holds single spaces only.** Induction on the lexemes. -/
theorem isSpaced_spellCode {before : List Char} {lexemes : List Lexeme}
    (h : Legible before lexemes) : IsSpaced (spellCode lexemes) := by
  induction lexemes generalizing before with
  | nil => exact isSpaced_nil
  | cons lexeme rest ih =>
    obtain ⟨spaced, token⟩ := lexeme
    obtain ⟨word, hrest⟩ := h.tail
    obtain ⟨hne, hshows⟩ := h.code_head
    -- the space before the lexeme is followed by its code, which shows
    rw [spellCode_cons, List.append_assoc]
    refine ((ih hrest).append hshows).gap_append ?_ spaced
    intro c hc
    obtain ⟨d, ds, hcode⟩ := List.exists_cons_of_ne_nil hne
    rw [hcode, List.cons_append, List.head?_cons, Option.mem_some] at hc
    exact hshows c (by rw [hcode, hc]; exact List.mem_cons_self)

/-! ## Lines that are spelled as they stand -/

/-- **A line is spelled as it stands** by its lexemes if its code holds single spaces and its last
character shows. The white space that has been read and not yet been spelled is kept in front.
Induction along the reader. -/
theorem spell_lexFrom {before : List Char} {spaced : Bool} {cs : List Char}
    (hcode : IsSpaced (gap spaced ++ codeFrom before cs))
    (hlast : ∀ c ∈ (gap spaced ++ cs).getLast?, Text.isBlank c = false) :
    spell (lexFrom before spaced cs) = gap spaced ++ cs := by
  fun_induction lexFrom before spaced cs with
  | case1 before spaced =>
    -- no white space is left over at the end
    cases spaced with
    | true => exact absurd (hlast ' ' rfl) (by decide)
    | false => rfl
  | case2 before spaced c cs hc ih =>
    rw [codeFrom_blank hc] at hcode
    obtain rfl : c = ' ' := hcode.eq_space c (by simp) hc
    -- the space is kept, and there is only one
    cases spaced with
    | true => exact absurd rfl hcode.ne_space
    | false => exact ih hcode hlast
  | case3 before spaced cs _ ih =>
    rw [codeFrom_other (by decide) (by decide), List.append_cons] at hcode
    rw [List.append_cons] at hlast
    rw [spell_cons, Lexeme.text_eq, Token.text_opening, ih hcode.right (Text.shows_getLast?_right hlast)]
    exact (List.append_cons _ _ _).symm
  | case4 before spaced cs _ _ ih =>
    rw [codeFrom_other (by decide) (by decide), List.append_cons] at hcode
    rw [List.append_cons] at hlast
    rw [spell_cons, Lexeme.text_eq, Token.text_closing, ih hcode.right (Text.shows_getLast?_right hlast)]
    exact (List.append_cons _ _ _).symm
  | case5 before spaced c cs _ _ _ hquote parts =>
    rename_i ih
    have hquote' : isQuote (Quoting.ofOpening before c).quote = true := by
      rwa [Quoting.quote_ofOpening]
    have hparts : parts.1 ++ parts.2 = cs := Quoting.close_append_close hquote' cs
    -- a closed literal ends with its quote, and an open one where the line does
    have htrim : Text.trimEnd (c :: parts.1) = c :: parts.1 := by
      rcases Quoting.close_cases hquote' cs with ⟨body, rest, hcs, hbody, hrest⟩ | hopen
      · have hbodyEq : parts = (body, rest) := by rw [← hbody.close_append rest hrest, ← hcs]
        rw [hbodyEq, hbody.trimEnd_eq hquote']
      · have hall : parts = (cs, []) := hopen
        rw [hall, Text.trimEnd_eq_self_iff]
        exact Text.shows_getLast?_right hlast
    rw [codeFrom_quote hquote, List.append_cons, List.append_cons] at hcode
    rw [← hparts, ← List.cons_append, ← List.append_assoc] at hlast
    rw [spell_cons, Lexeme.text_eq, Token.text_literal, htrim,
      ih hcode.right (Text.shows_getLast?_right hlast), gap_false, List.nil_append, List.append_assoc,
      List.cons_append, hparts]
  | case6 before spaced c cs =>
    rw [spell_cons, Lexeme.text_eq, Token.text_comment, spell_nil, List.append_nil,
      Text.trimEnd_eq_self_iff.mpr (Text.shows_getLast?_right hlast)]
  | case7 before spaced c cs hblank hopen hclose hquote hstart parts =>
    rename_i ih
    have hc : isWordChar c = true := by
      rw [isWordChar_iff]
      exact ⟨by simpa using hblank, hopen, hclose, by simpa using hquote⟩
    have hparts : parts.1 ++ parts.2 = cs := takeWord_append_takeWord cs
    rw [codeFrom_word hc (by simpa using hstart), ← List.append_assoc] at hcode
    rw [← hparts, ← List.cons_append, ← List.append_assoc] at hlast
    rw [spell_cons, Lexeme.text_eq, Token.text_word, ih hcode.right (Text.shows_getLast?_right hlast),
      gap_false, List.nil_append, List.append_assoc, List.cons_append, hparts]

end Scaffold.Layout
