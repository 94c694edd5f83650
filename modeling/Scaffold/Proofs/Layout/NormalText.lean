import Scaffold.Proofs.Layout.Code
import Scaffold.Proofs.Layout.Segment

/-!
# Texts that are one segment

Which lines layout leaves whole can be read off their code, without cutting them:

* **`IsNormalText`**: the text is trimmed, holds single spaces, and has no brace but in the two
  places where one may stand.
* **`isNormalText_spell`**: what a group spells is a normal text.
* **`IsNormalText.isGroup_lex`**: the lexemes of a normal text are a group that spells it.
* **`segments_eq_singleton_iff`**: so a text is one segment just when it is a normal text.
-/

namespace Scaffold.Layout

/-! ## Normal texts -/

/-- What may stand behind the closing brace of a line: nothing, or a text that starts with an
attached character, at most one space apart. -/
def IsAttachment (rest : List Char) : Prop :=
  rest = [] ∨ ∃ spaced c cs, rest = gap spaced ++ c :: cs ∧ isAttached c = true

/-- A line, below its indentation, that layout leaves alone. -/
structure IsNormalText (text : Line) : Prop where
  head : ∀ c ∈ text.head?, Text.isBlank c = false
  last : ∀ c ∈ text.getLast?, Text.isBlank c = false
  /-- Outside of literals and comments, white space is single spaces. -/
  isSpaced : IsSpaced (code text)
  /-- Outside of literals and comments, a brace is the whole line or a closing one at its start. -/
  braces : text = [openBrace] ∨ (openBrace ∉ code text ∧ closeBrace ∉ (code text).tail ∧
    ∀ rest, text = closeBrace :: rest → IsAttachment rest)

/-! ## Where spelled lexemes end -/

/-- A legible token ends with a character that shows. -/
theorem Legible.getLast?_text {before : List Char} {lexeme : Lexeme} {rest : List Lexeme}
    (h : Legible before (lexeme :: rest)) :
    ∀ c ∈ lexeme.token.text.getLast?, Text.isBlank c = false := by
  cases h with
  | opening => exact fun c hc => by rw [← Option.mem_some.mp hc]; decide
  | closing => exact fun c hc => by rw [← Option.mem_some.mp hc]; decide
  | closed hquote hbody =>
    exact Text.trimEnd_eq_self_iff.mp
      (hbody.trimEnd_eq (by rwa [Quoting.quote_ofOpening]) _)
  | unclosed hquote hbody htrim => exact Text.trimEnd_eq_self_iff.mp htrim
  | comment hstart htrim => exact Text.trimEnd_eq_self_iff.mp htrim
  | word hword =>
    intro c hc
    exact (isWordChar_iff.mp (hword.isWordChar_of_mem (List.mem_of_getLast? hc))).1

/-- What is spelled of legible lexemes ends with a character that shows. -/
theorem Legible.getLast?_spell {before : List Char} {lexemes : List Lexeme}
    (h : Legible before lexemes) : ∀ c ∈ (spell lexemes).getLast?, Text.isBlank c = false := by
  induction lexemes generalizing before with
  | nil => exact nofun
  | cons lexeme rest ih =>
    obtain ⟨word, hrest⟩ := h.tail
    refine Text.shows_getLast?_append ?_ (ih hrest)
    obtain ⟨d, ds, htext, -⟩ := h.head_text
    obtain ⟨spaced, token⟩ := lexeme
    change token.text = d :: ds at htext
    intro c hc
    -- the token is not empty, so the space before it is not the last character
    refine h.getLast?_text c ?_
    rw [Lexeme.text_eq, List.getLast?_append] at hc
    rw [htext] at hc ⊢
    simpa [List.getLast?_cons] using hc

/-! ## Braces outside of literals and comments -/

/-- Of the legible tokens, only the opening brace has an opening brace as code. -/
theorem Legible.eq_opening_of_mem {before : List Char} {spaced : Bool} {token : Token}
    {rest : List Lexeme} (h : Legible before (⟨spaced, token⟩ :: rest))
    (hmem : openBrace ∈ token.code) : token = .opening := by
  cases h with
  | opening => rfl
  | closing | closed | unclosed | comment =>
    exact absurd hmem (by simp [Token.code, openBrace, closeBrace])
  | word hword => exact absurd (hword.isWordChar_of_mem hmem) (by decide)

/-- A token whose code has a closing brace is one. -/
theorem Legible.eq_closing_of_mem {before : List Char} {spaced : Bool} {token : Token}
    {rest : List Lexeme} (h : Legible before (⟨spaced, token⟩ :: rest))
    (hmem : closeBrace ∈ token.code) : token = .closing := by
  cases h with
  | closing => rfl
  | opening | closed | unclosed | comment =>
    exact absurd hmem (by simp [Token.code, openBrace, closeBrace])
  | word hword => exact absurd (hword.isWordChar_of_mem hmem) (by decide)

/-- Lexemes without braces have no braces as code. -/
theorem Legible.not_mem_spellCode {before : List Char} {lexemes : List Lexeme}
    (h : Legible before lexemes) (hbrace : ∀ lexeme ∈ lexemes, lexeme.token.isBrace = false) :
    openBrace ∉ spellCode lexemes ∧ closeBrace ∉ spellCode lexemes := by
  induction lexemes generalizing before with
  | nil => simp
  | cons lexeme rest ih =>
    obtain ⟨spaced, token⟩ := lexeme
    obtain ⟨word, hrest⟩ := h.tail
    obtain ⟨hopen, hclose⟩ := ih hrest fun other hother => hbrace other (by simp [hother])
    have htoken : token.isBrace = false := hbrace ⟨spaced, token⟩ (by simp)
    have hgap : openBrace ∉ gap spaced ∧ closeBrace ∉ gap spaced := by cases spaced <;> decide
    simp only [spellCode_cons, List.mem_append, not_or]
    -- a brace in the code of a token would be the token
    refine ⟨⟨⟨hgap.1, fun hmem => ?_⟩, hopen⟩, ⟨⟨hgap.2, fun hmem => ?_⟩, hclose⟩⟩
    · rw [h.eq_opening_of_mem hmem] at htoken
      exact absurd htoken (by decide)
    · rw [h.eq_closing_of_mem hmem] at htoken
      exact absurd htoken (by decide)

/-- An open segment has no brace as code, but for a closing one as its first token. -/
theorem IsOpenGroup.not_mem_spellCode {token : Token} {rest : List Lexeme}
    (hopen : IsOpenGroup (⟨false, token⟩ :: rest)) (h : Legible [] (⟨false, token⟩ :: rest)) :
    openBrace ∉ spellCode (⟨false, token⟩ :: rest)
      ∧ closeBrace ∉ (spellCode (⟨false, token⟩ :: rest)).tail := by
  obtain ⟨word, hrest⟩ := h.tail
  obtain ⟨hrestOpen, hrestClose⟩ := hrest.not_mem_spellCode hopen.isBrace_tail
  have hcode : token.code ≠ [] := h.code_head.1
  rw [spellCode_cons, gap_false, List.nil_append]
  constructor
  · rw [List.mem_append, not_or]
    exact ⟨fun hmem => hopen.head_ne _ rfl (h.eq_opening_of_mem hmem), hrestOpen⟩
  · rw [List.tail_append_of_ne_nil hcode, List.mem_append, not_or]
    refine ⟨fun hmem => ?_, hrestClose⟩
    -- the code of a closing brace has no second character
    obtain rfl := h.eq_closing_of_mem (List.mem_of_mem_tail hmem)
    exact absurd hmem (by simp [Token.code])

theorem mem_spellCode {lexemes : List Lexeme} {lexeme : Lexeme} (h : lexeme ∈ lexemes) {c : Char}
    (hc : c ∈ lexeme.token.code) : c ∈ spellCode lexemes :=
  List.mem_flatMap.mpr ⟨lexeme, h, List.mem_append_right _ hc⟩

/-- Conversely, lexemes are no braces where their code has none but at its start. -/
theorem Legible.isBrace_of_mem {token : Token} {rest : List Lexeme}
    (h : Legible [] (⟨false, token⟩ :: rest))
    (hopen : openBrace ∉ spellCode (⟨false, token⟩ :: rest))
    (hclose : closeBrace ∉ (spellCode (⟨false, token⟩ :: rest)).tail) :
    token ≠ .opening ∧ ∀ lexeme ∈ rest, lexeme.token.isBrace = false := by
  rw [spellCode_cons, gap_false, List.nil_append] at hopen hclose
  rw [List.mem_append, not_or] at hopen
  rw [List.tail_append_of_ne_nil h.code_head.1, List.mem_append, not_or] at hclose
  -- only at the very start a closing brace is allowed
  refine ⟨fun heq => ?_, fun lexeme hlexeme => ?_⟩
  · rw [heq] at hopen
    exact hopen.1 (List.mem_singleton_self openBrace)
  · obtain ⟨spaced, other⟩ := lexeme
    cases other with
    | opening => exact absurd (mem_spellCode hlexeme (List.mem_singleton_self openBrace)) hopen.2
    | closing => exact absurd (mem_spellCode hlexeme (List.mem_singleton_self closeBrace)) hclose.2
    | literal | comment | word => rfl

/-- What is attached to a closing brace starts with an attached character. -/
theorem Legible.attaches_iff {before : List Char} {spaced : Bool} {token : Token}
    {rest : List Lexeme} (h : Legible before (⟨spaced, token⟩ :: rest)) :
    token.attaches = true ↔ IsAttachment (spell (⟨spaced, token⟩ :: rest)) := by
  obtain ⟨d, ds, htext, hd⟩ := h.head_text
  change token.text = d :: ds at htext
  have hattaches : token.attaches = isAttached d := by
    rw [Token.attaches, htext]
    rfl
  have hspell : spell (⟨spaced, token⟩ :: rest) = gap spaced ++ d :: (ds ++ spell rest) := by
    rw [spell_cons, Lexeme.text_eq, htext, List.append_assoc, List.cons_append]
  rw [hattaches, hspell]
  constructor
  · exact fun h => Or.inr ⟨spaced, d, ds ++ spell rest, rfl, h⟩
  · rintro (hnil | ⟨other, c, cs, heq, hc⟩)
    · exact absurd hnil (by simp)
    · -- neither `d` nor an attached character is a space, so the gaps are the same
      have hspace : c ≠ ' ' := by
        intro hspace
        rw [hspace] at hc
        exact absurd hc (by decide)
      cases spaced <;> cases other <;> simp at heq
      · rw [heq.1]
        exact hc
      · rw [heq.1] at hd
        exact absurd hd (by decide)
      · exact absurd heq.1.symm hspace
      · rw [heq.1]
        exact hc

/-- **What a group spells is a normal text.** -/
theorem isNormalText_spell {group : List Lexeme} (h : Legible [] group) (hgroup : IsGroup group) :
    IsNormalText (spell group) := by
  obtain ⟨⟨spaced, token⟩, rest, rfl⟩ : ∃ first rest, group = first :: rest := by
    rcases hgroup with rfl | ⟨hne, -⟩
    · exact ⟨_, _, rfl⟩
    · exact List.exists_cons_of_ne_nil hne
  obtain rfl : spaced = false := by
    rcases hgroup with heq | ⟨-, hopen⟩
    · exact (Lexeme.mk.inj (List.cons.inj heq).1).1
    · exact hopen.spaced_head _ rfl
  obtain ⟨d, ds, htext, hd⟩ := h.head_text
  change token.text = d :: ds at htext
  obtain ⟨word, hrest⟩ := h.tail
  refine ⟨?_, h.getLast?_spell, code_spell h ▸ isSpaced_spellCode h, ?_⟩
  · rw [spell_cons, Lexeme.text_unspaced, htext]
    intro c hc
    rw [List.cons_append, List.head?_cons, Option.mem_some] at hc
    rw [← hc, hd]
  · rcases hgroup with heq | ⟨-, hopen⟩
    · rw [heq]
      exact Or.inl rfl
    · obtain ⟨hcodeOpen, hcodeClose⟩ := hopen.not_mem_spellCode h
      rw [← code_spell h] at hcodeOpen hcodeClose
      refine Or.inr ⟨hcodeOpen, hcodeClose, fun tail htail => ?_⟩
      -- a closing brace at the start is a token of its own, and the rest is attached to it
      rw [spell_cons, Lexeme.text_unspaced, htext, List.cons_append, List.cons.injEq] at htail
      obtain ⟨rfl, rfl⟩ := htail
      obtain ⟨rfl, rfl⟩ := h.eq_closing htext
      cases rest with
      | nil => exact Or.inl rfl
      | cons next rest => exact hrest.attaches_iff.mp (hopen.attaches rfl next rfl)

/-- **A normal text is spelled as it stands** by its lexemes, which make up a single group. -/
theorem IsNormalText.isGroup_lex {text : Line} (h : IsNormalText text) (hne : text ≠ []) :
    spell (lex text) = text ∧ IsGroup (lex text) := by
  have hspell : spell (lex text) = text := spell_lexFrom h.isSpaced h.last
  refine ⟨hspell, ?_⟩
  have hlegible : Legible [] (lex text) := legible_lex text
  have hcode : code text = spellCode (lex text) := by
    rw [← code_spell hlegible, hspell]
  -- the text starts with a character that shows, so its first lexeme is not spaced
  obtain ⟨c, cs, rfl⟩ := List.exists_cons_of_ne_nil hne
  obtain ⟨token, rest, hspaced⟩ := lexFrom_spaced (h.head c rfl) [] cs
  have hlex : lex (c :: cs) = ⟨false, token⟩ :: rest := hspaced false
  rcases h.braces with hopen | ⟨hopen, hclose, hattached⟩
  · rw [hopen, lex, lexFrom_opening, lexFrom_nil]
    exact Or.inl rfl
  · refine Or.inr ⟨by simp [hlex], ?_⟩
    rw [hlex] at hlegible hcode hspell ⊢
    rw [hcode] at hopen hclose
    obtain ⟨hne, hbraces⟩ := hlegible.isBrace_of_mem hopen hclose
    obtain ⟨word, hrest⟩ := hlegible.tail
    constructor
    · simp
    · simpa using hne
    · exact hbraces
    · intro hhead next hnext
      obtain rfl : token = .closing := by simpa [closingStart] using hhead
      obtain ⟨others, rfl⟩ : ∃ others, rest = next :: others := List.head?_eq_some_iff.mp hnext
      rw [spell_cons, Lexeme.text_unspaced, Token.text_closing, List.singleton_append,
        List.cons.injEq] at hspell
      rw [hrest.attaches_iff]
      exact hattached _ (by rw [← hspell.1, hspell.2])

/-- **A text is one segment just when it is a normal text.** -/
theorem segments_eq_singleton_iff {text : Line} (hne : text ≠ []) :
    segments text = [text] ↔ IsNormalText text := by
  constructor
  · intro h
    -- a line that is cut into itself is blank or spells a single group
    rcases segments_cases text with ⟨-, hblank⟩ | ⟨groups, hsegments, -, hgroups⟩
    · rw [hblank, List.singleton_inj] at h
      exact absurd h.symm hne
    · rw [h] at hsegments
      obtain ⟨group, rfl, hgroup⟩ := List.map_eq_singleton_iff.mp hsegments.symm
      obtain ⟨hlegible, hgroup'⟩ := hgroups group (List.mem_singleton_self group)
      rw [← hgroup]
      exact isNormalText_spell hlegible hgroup'
  · intro h
    obtain ⟨hspell, hgroup⟩ := h.isGroup_lex hne
    have := segments_spell (legible_lex text) hgroup
    rwa [hspell] at this

end Scaffold.Layout
