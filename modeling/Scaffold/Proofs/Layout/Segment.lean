import Scaffold.Layout.Segment
import Scaffold.Proofs.Layout.Spelling
import Scaffold.Proofs.Text.Lines

/-!
# Lines are cut once

Cutting a line into segments groups its lexemes, and each segment spells one group. A group is
legible on its own, and nothing in it asks for another cut:

* **`IsGroup`**: what a segment may hold. It is an opening brace, or a closing brace with what is
  attached to it, or lexemes without any brace.
* **`segmentsFrom_grouped`**: cutting a line groups its lexemes, in order and without loss.
* **`segments_spell`**: a group is cut into nothing but itself.
* **`segments_of_mem_segments`**: hence a segment of a line, as a line, is one segment.
-/

namespace Scaffold.Layout

/-! ## Groups of lexemes -/

def Token.isBrace : Token → Bool
  | .opening => true
  | .closing => true
  | _ => false

/-- The closing brace at the start of a segment. -/
def closingStart : Lexeme := ⟨false, .closing⟩

/-- Lexemes that may stand in one segment still open: they start without a space, no brace stands
among them but a closing one at the start, and what follows that one is attached to it. -/
structure IsOpenGroup (group : List Lexeme) : Prop where
  spaced_head : ∀ first ∈ group.head?, first.spaced = false
  head_ne : ∀ first ∈ group.head?, first.token ≠ .opening
  isBrace_tail : ∀ lexeme ∈ group.tail, lexeme.token.isBrace = false
  attaches : group.head? = some closingStart →
    ∀ next ∈ group.tail.head?, next.token.attaches = true

/-- Lexemes that make up a segment. -/
def IsGroup (group : List Lexeme) : Prop :=
  group = [⟨false, .opening⟩] ∨ (group ≠ [] ∧ IsOpenGroup group)

theorem isOpenGroup_nil : IsOpenGroup [] where
  spaced_head := nofun
  head_ne := nofun
  isBrace_tail := nofun
  attaches := nofun

theorem isOpenGroup_singleton {token : Token} (h : token ≠ .opening) :
    IsOpenGroup [⟨false, token⟩] where
  spaced_head := by simp
  head_ne := by simpa using h
  isBrace_tail := by simp
  attaches := by simp

/-- A token that is no brace may follow in a segment, unless that is a lone closing brace and the
token is not attached to it. -/
theorem IsOpenGroup.concat {group : List Lexeme} (h : IsOpenGroup group) {spaced : Bool}
    {token : Token} (htoken : token.isBrace = false) (hne : group ≠ [])
    (hattaches : group = [closingStart] → token.attaches = true) :
    IsOpenGroup (group ++ [⟨spaced, token⟩]) := by
  obtain ⟨first, rest, rfl⟩ := List.exists_cons_of_ne_nil hne
  constructor
  · exact h.spaced_head
  · exact h.head_ne
  · intro lexeme hlexeme
    rw [List.cons_append, List.tail_cons, List.mem_append, List.mem_singleton] at hlexeme
    rcases hlexeme with hrest | rfl
    · exact h.isBrace_tail lexeme hrest
    · exact htoken
  · intro hfirst next hnext
    rw [List.cons_append, List.tail_cons] at hnext
    rw [List.cons_append, List.head?_cons, Option.some.injEq] at hfirst
    -- the token is the second lexeme only of a group that held one so far
    cases rest with
    | nil =>
      rw [List.nil_append, List.head?_cons, Option.mem_some] at hnext
      rw [← hnext]
      exact hattaches (by rw [hfirst])
    | cons second rest => exact h.attaches (by rw [hfirst]; rfl) next hnext

/-- What stands first in an open group is an open group: more tokens only add conditions. -/
theorem IsOpenGroup.left {first second : List Lexeme} (h : IsOpenGroup (first ++ second)) :
    IsOpenGroup first := by
  cases first with
  | nil => exact isOpenGroup_nil
  | cons lexeme rest =>
    constructor
    · exact h.spaced_head
    · exact h.head_ne
    -- the last two conditions speak of the tail, which the longer group contains
    · intro other hother
      refine h.isBrace_tail other ?_
      rw [List.cons_append, List.tail_cons]
      exact List.mem_append_left second hother
    · intro hfirst next hnext
      refine h.attaches hfirst next ?_
      rw [List.cons_append, List.tail_cons, List.head?_append]
      rw [List.tail_cons] at hnext
      rw [hnext, Option.some_or]
      rfl

/-! ## Segments still open, as text -/

/-- A legible sequence with a token in it is not spelled by nothing. -/
theorem Legible.spell_ne_nil {before : List Char} {lexemes : List Lexeme}
    (h : Legible before lexemes) (hne : lexemes ≠ []) : spell lexemes ≠ [] := by
  obtain ⟨first, rest, rfl⟩ := List.exists_cons_of_ne_nil hne
  obtain ⟨c, cs, htext, -⟩ := h.head_text
  obtain ⟨spaced, token⟩ := first
  change token.text = c :: cs at htext
  cases spaced with
  | true => simp
  | false => simp [htext]

/-- Only a closing brace is written as one. -/
theorem Legible.eq_closing {before : List Char} {spaced : Bool} {token : Token}
    {rest : List Lexeme} (h : Legible before (⟨spaced, token⟩ :: rest)) {cs : List Char}
    (htext : token.text = closeBrace :: cs) : token = .closing ∧ cs = [] := by
  cases h with
  | opening => exact absurd htext (by simp [openBrace, closeBrace])
  | closing => exact ⟨rfl, by simpa using htext.symm⟩
  | closed hquote | unclosed hquote =>
    rw [Token.text_literal, List.cons.injEq] at htext
    rw [htext.1] at hquote
    exact absurd hquote (by decide)
  | comment hstart =>
    obtain ⟨tail, rfl⟩ := startsComment_iff.mp hstart
    exact absurd htext (by simp [closeBrace])
  -- a closing brace is no word character
  | word hword =>
    rw [Token.text_word, List.cons.injEq] at htext
    have hc := (isWord_cons_iff.mp hword).1
    rw [htext.1] at hc
    exact absurd hc (by decide)

/-- An open segment whose text is a closing brace holds just that. -/
theorem Legible.spell_eq_closeBrace_iff {group : List Lexeme} (h : Legible [] group)
    (hopen : IsOpenGroup group) : spell group = [closeBrace] ↔ group = [closingStart] := by
  constructor
  · intro hspell
    cases group with
    | nil => exact absurd hspell (by simp)
    | cons first rest =>
      obtain ⟨spaced, token⟩ := first
      obtain rfl : spaced = false := hopen.spaced_head _ rfl
      obtain ⟨c, cs, htext, -⟩ := h.head_text
      change token.text = c :: cs at htext
      rw [spell_cons, Lexeme.text_unspaced, htext, List.cons_append, List.cons.injEq] at hspell
      obtain ⟨rfl, htail⟩ := hspell
      -- the first token takes up the whole text, so no second one is there
      obtain ⟨rfl, rfl⟩ := h.eq_closing htext
      obtain ⟨word, hrest⟩ := h.tail
      by_cases hnil : rest = []
      · rw [hnil, closingStart]
      · exact absurd htail (hrest.spell_ne_nil hnil)
  · intro hgroup
    rw [hgroup]
    rfl

/-! ## The cut of a line, one lexeme at a time -/

theorem segmentsFrom_opening (current : Line) (spaced : Bool) (rest : List Lexeme) :
    segmentsFrom current (⟨spaced, .opening⟩ :: rest)
      = closeSegment current ++ [openBrace] :: segmentsFrom [] rest := rfl

theorem segmentsFrom_closing (current : Line) (spaced : Bool) (rest : List Lexeme) :
    segmentsFrom current (⟨spaced, .closing⟩ :: rest)
      = closeSegment current ++ segmentsFrom [closeBrace] rest := rfl

/-- A token that is no brace continues the open segment, unless that segment is a closing brace that
the token does not attach to. -/
theorem segmentsFrom_other {token : Token} (htoken : token.isBrace = false) (current : Line)
    (spaced : Bool) (rest : List Lexeme) :
    segmentsFrom current (⟨spaced, token⟩ :: rest)
      = if current = [closeBrace] ∧ token.attaches = false then
          current :: segmentsFrom token.text rest
        else segmentsFrom (extendSegment current spaced token) rest := by
  cases token with
  | opening => exact absurd htoken (by decide)
  | closing => exact absurd htoken (by decide)
  | literal => rfl
  | comment => rfl
  | word => rfl

/-- The open segment is the start of the next one that is put out. Induction on the lexemes to
come. -/
theorem exists_segmentsFrom_cons {current : Line} (h : current ≠ []) (rest : List Lexeme) :
    ∃ segment others, segmentsFrom current rest = segment :: others ∧ current <+: segment := by
  have hclose : closeSegment current = [current] := if_neg h
  induction rest generalizing current with
  | nil => exact ⟨current, [], hclose, List.prefix_refl current⟩
  | cons lexeme rest ih =>
    obtain ⟨spaced, token⟩ := lexeme
    cases hbrace : token.isBrace with
    | true =>
      cases token with
      | opening => exact ⟨current, _, by rw [segmentsFrom_opening, hclose]; rfl, List.prefix_refl _⟩
      | closing => exact ⟨current, _, by rw [segmentsFrom_closing, hclose]; rfl, List.prefix_refl _⟩
      -- a brace closes the open segment; any other token extends it or starts the next
      | literal | comment | word => exact absurd hbrace (by simp [Token.isBrace])
    | false =>
      rw [segmentsFrom_other hbrace]
      split
      next => exact ⟨current, _, rfl, List.prefix_refl current⟩
      next =>
        have hstart : current <+: extendSegment current spaced token := by
          rw [extendSegment, if_neg h]
          split <;> exact List.prefix_append current _
        have hne : extendSegment current spaced token ≠ [] := fun hnil =>
          h (List.prefix_nil.mp (hnil ▸ hstart))
        obtain ⟨segment, others, hcut, hsegment⟩ := ih hne (if_neg hne)
        exact ⟨segment, others, hcut, hstart.trans hsegment⟩

/-- The segment still open, as the group that it spells. -/
def closeGroup (group : List Lexeme) : List (List Lexeme) :=
  if group = [] then [] else [group]

/-- Closing the segment that spells a group gives the spelling of the group, or no segment if the
group is empty. -/
theorem closeSegment_spell {group : List Lexeme} (h : Legible [] group) :
    closeSegment (spell group) = (closeGroup group).map spell := by
  by_cases hnil : group = []
  · subst hnil
    rfl
  · rw [closeSegment, if_neg (h.spell_ne_nil hnil), closeGroup, if_neg hnil]
    rfl

/-- Closing a group loses none of its tokens. -/
theorem flatten_closeGroup (group : List Lexeme) : (closeGroup group).flatten = group := by
  by_cases hnil : group = []
  · subst hnil
    rfl
  · rw [closeGroup, if_neg hnil, List.flatten_singleton]

/-- All that closing a group can give is the group itself, if it has a token. -/
theorem eq_of_mem_closeGroup {group member : List Lexeme} (h : member ∈ closeGroup group) :
    member = group ∧ group ≠ [] := by
  by_cases hnil : group = []
  · rw [closeGroup, if_pos hnil] at h
    exact absurd h (by simp)
  · rw [closeGroup, if_neg hnil, List.mem_singleton] at h
    exact ⟨h, hnil⟩

/-- A token added to an open segment adds a lexeme to its group; the first one loses its space. -/
theorem extendSegment_spell {group : List Lexeme} (h : Legible [] group) (spaced : Bool)
    (token : Token) :
    extendSegment (spell group) spaced token
      = spell (group ++ [⟨if group = [] then false else spaced, token⟩]) := by
  by_cases hnil : group = []
  · subst hnil
    simp [extendSegment]
  · rw [extendSegment, if_neg (h.spell_ne_nil hnil), if_neg hnil, spell_append]
    cases spaced <;> simp

/-! ## Cutting a line groups its lexemes -/

/-- The tokens of lexemes, in order. -/
def tokensOf (lexemes : List Lexeme) : List Token :=
  lexemes.map Lexeme.token

@[simp] theorem tokensOf_nil : tokensOf [] = [] := rfl

@[simp] theorem tokensOf_cons (lexeme : Lexeme) (lexemes : List Lexeme) :
    tokensOf (lexeme :: lexemes) = lexeme.token :: tokensOf lexemes := rfl

@[simp] theorem tokensOf_append (first second : List Lexeme) :
    tokensOf (first ++ second) = tokensOf first ++ tokensOf second :=
  List.map_append

/-- Segments that spell groups, and the tokens that these hold. -/
def Grouped (segments : List Line) (tokens : List Token) : Prop :=
  ∃ groups : List (List Lexeme), segments = groups.map spell ∧ tokensOf groups.flatten = tokens ∧
    ∀ group ∈ groups, Legible [] group ∧ IsGroup group

theorem Grouped.append {first second : List Line} {tokens more : List Token}
    (hfirst : Grouped first tokens) (hsecond : Grouped second more) :
    Grouped (first ++ second) (tokens ++ more) := by
  obtain ⟨groups, rfl, rfl, hgroups⟩ := hfirst
  obtain ⟨others, rfl, rfl, hothers⟩ := hsecond
  refine ⟨groups ++ others, by simp, by simp, fun group hgroup => ?_⟩
  rcases List.mem_append.mp hgroup with h | h
  · exact hgroups group h
  · exact hothers group h

theorem grouped_singleton {group : List Lexeme} (hlegible : Legible [] group)
    (hgroup : IsGroup group) : Grouped [spell group] (tokensOf group) := by
  refine ⟨[group], rfl, by simp, fun member hmember => ?_⟩
  rw [List.mem_singleton.mp hmember]
  exact ⟨hlegible, hgroup⟩

/-- The segment that is open when a line ends spells a group of its own. -/
theorem grouped_closeSegment {group : List Lexeme} (hlegible : Legible [] group)
    (hopen : IsOpenGroup group) : Grouped (closeSegment (spell group)) (tokensOf group) := by
  refine ⟨closeGroup group, closeSegment_spell hlegible, by rw [flatten_closeGroup],
    fun member hmember => ?_⟩
  obtain ⟨rfl, hne⟩ := eq_of_mem_closeGroup hmember
  exact ⟨hlegible, Or.inr ⟨hne, hopen⟩⟩

/-- **Cutting a line groups its lexemes.** The lexemes already in the open segment and those still
to come are legible together, and stay so at every cut. Induction on the lexemes to come. -/
theorem segmentsFrom_grouped {group rest : List Lexeme} (hlegible : Legible [] (group ++ rest))
    (hopen : IsOpenGroup group) :
    Grouped (segmentsFrom (spell group) rest) (tokensOf (group ++ rest)) := by
  induction rest generalizing group with
  | nil =>
    rw [List.append_nil] at hlegible ⊢
    exact grouped_closeSegment hlegible hopen
  | cons lexeme rest ih =>
    obtain ⟨spaced, token⟩ := lexeme
    have hgroup : Legible [] group := hlegible.left
    obtain ⟨word, hright⟩ := hlegible.right
    rw [tokensOf_append, tokensOf_cons]
    cases hbrace : token.isBrace with
    | true =>
      -- a brace closes the open segment; only a closing one starts the next
      cases token with
      | opening =>
        cases hright with
        | opening hrest =>
          rw [segmentsFrom_opening]
          refine (grouped_closeSegment hgroup hopen).append ?_
          exact (grouped_singleton (.opening (.nil [])) (Or.inl rfl)).append
            (@ih [] hrest isOpenGroup_nil)
      | closing =>
        cases hright with
        | closing hrest =>
          rw [segmentsFrom_closing]
          refine (grouped_closeSegment hgroup hopen).append ?_
          exact @ih [closingStart] (.closing hrest) (isOpenGroup_singleton nofun)
      | literal | comment | word => exact absurd hbrace (by simp [Token.isBrace])
    | false =>
      have hopening : token ≠ .opening := by
        intro heq
        rw [heq] at hbrace
        exact absurd hbrace (by decide)
      rw [segmentsFrom_other hbrace]
      split
      next hcut =>
        -- the closing brace is left alone, and the token starts a segment of its own
        obtain rfl := (hgroup.spell_eq_closeBrace_iff hopen).mp hcut.1
        cases hlegible with
        | closing hrest =>
          have hstart : IsOpenGroup [⟨false, token⟩] := isOpenGroup_singleton hopening
          rw [← spell_unspaced token]
          exact (grouped_singleton hgroup (Or.inr ⟨by simp, hopen⟩)).append
            (@ih [⟨false, token⟩] hrest.unspaced hstart)
      next hcut =>
        -- the token joins the open segment, as its first lexeme or behind others
        rw [extendSegment_spell hgroup]
        by_cases hnil : group = []
        · subst hnil
          exact @ih [⟨false, token⟩] hlegible.unspaced (isOpenGroup_singleton hopening)
        · have hattaches : group = [closingStart] → token.attaches = true := by
            intro hclosing
            have hspell := (hgroup.spell_eq_closeBrace_iff hopen).mpr hclosing
            simpa [hspell] using hcut
          have hnext := @ih (group ++ [⟨spaced, token⟩]) (by simpa using hlegible)
            (hopen.concat hbrace hnil hattaches)
          rw [if_neg hnil]
          simpa using hnext

/-! ## A group is not cut again -/

/-- The tokens of an open segment and of what still belongs to it make one segment. Induction on
what is still to come. -/
theorem segmentsFrom_group {group rest : List Lexeme} (hlegible : Legible [] (group ++ rest))
    (hopen : IsOpenGroup (group ++ rest)) (hne : group ++ rest ≠ []) :
    segmentsFrom (spell group) rest = [spell (group ++ rest)] := by
  induction rest generalizing group with
  | nil =>
    rw [List.append_nil] at hlegible hne ⊢
    rw [segmentsFrom, closeSegment, if_neg (hlegible.spell_ne_nil hne)]
  | cons lexeme rest ih =>
    obtain ⟨spaced, token⟩ := lexeme
    by_cases hnil : group = []
    · subst hnil
      obtain rfl : spaced = false := hopen.spaced_head _ rfl
      -- the first lexeme: a closing brace stands alone so far, and any other token as well
      have hnext := @ih [⟨false, token⟩] hlegible hopen hne
      rw [spell_unspaced] at hnext
      cases hbrace : token.isBrace with
      | true =>
        cases token with
        | opening => exact absurd rfl (hopen.head_ne _ rfl)
        | closing => exact hnext
        | literal | comment | word => exact absurd hbrace (by simp [Token.isBrace])
      | false =>
        rw [segmentsFrom_other hbrace, if_neg (by simp)]
        exact hnext
    · obtain ⟨first, group, rfl⟩ := List.exists_cons_of_ne_nil hnil
      -- a later one is no brace, and attached if a lone closing brace stands before it
      have hbrace : token.isBrace = false := by
        refine hopen.isBrace_tail ⟨spaced, token⟩ ?_
        simp
      have hcut : ¬(spell (first :: group) = [closeBrace] ∧ token.attaches = false) := by
        rintro ⟨hspell, hattaches⟩
        obtain ⟨rfl, rfl⟩ := List.cons.inj
          ((hlegible.left.spell_eq_closeBrace_iff hopen.left).mp hspell)
        have := hopen.attaches rfl ⟨spaced, token⟩ rfl
        exact absurd (hattaches.symm.trans this) (by decide)
      rw [segmentsFrom_other hbrace, if_neg hcut, extendSegment_spell hlegible.left, if_neg hnil]
      have hnext := @ih (first :: group ++ [⟨spaced, token⟩]) (by simpa using hlegible)
        (by simpa using hopen) (by simp)
      simpa using hnext

/-- A line with lexemes is cut into their segments. -/
theorem segments_of_lex {line : List Char} {lexemes : List Lexeme} (h : lex line = lexemes)
    (hne : lexemes ≠ []) : segments line = segmentsFrom [] lexemes := by
  rw [segments]
  split
  next hnil => exact absurd (h.symm.trans hnil) hne
  next => rw [h]

/-- A line without a token is cut into one empty segment. -/
theorem segments_of_lex_nil {line : List Char} (h : lex line = []) : segments line = [[]] := by
  rw [segments, h]

/-- **A group is cut into nothing but itself.** -/
theorem segments_spell {group : List Lexeme} (hlegible : Legible [] group)
    (hgroup : IsGroup group) : segments (spell group) = [spell group] := by
  have hlex : lex (spell group) = group := lexFrom_spell hlegible
  rcases hgroup with rfl | ⟨hne, hopen⟩
  · rw [segments_of_lex hlex (by simp)]
    rfl
  · rw [segments_of_lex hlex hne]
    exact @segmentsFrom_group [] _ hlegible hopen hne

/-- A line is blank, or its segments group its lexemes. -/
theorem segments_cases (line : List Char) :
    (lex line = [] ∧ segments line = [[]]) ∨ Grouped (segments line) (tokensOf (lex line)) := by
  by_cases hnil : lex line = []
  · exact Or.inl ⟨hnil, segments_of_lex_nil hnil⟩
  · rw [segments_of_lex rfl hnil]
    exact Or.inr (@segmentsFrom_grouped [] _ (legible_lex line) isOpenGroup_nil)

theorem segments_nil : segments [] = [[]] :=
  segments_of_lex_nil (lexFrom_nil [] false)

theorem segments_opening : segments [openBrace] = [[openBrace]] :=
  segments_spell (.opening (.nil [])) (Or.inl rfl)

theorem segments_closing : segments [closeBrace] = [[closeBrace]] :=
  segments_spell (.closing (.nil [])) (Or.inr ⟨by simp, isOpenGroup_singleton (by simp)⟩)

/-- A comment is a segment, without the white space behind it. -/
theorem segments_comment {line : List Char} (h : startsComment line = true) :
    segments line = [Text.trimEnd line] := by
  obtain ⟨rest, rfl⟩ := startsComment_iff.mp h
  have htrim : Text.trimEnd ('/' :: '/' :: rest) ≠ [] := by
    rw [Text.trimEnd_cons (by decide)]
    exact List.cons_ne_nil _ _
  have hlex : lex ('/' :: '/' :: rest) = [⟨false, .comment (Text.trimEnd ('/' :: '/' :: rest))⟩] :=
    lexFrom_comment h [] false
  rw [segments_of_lex hlex (by simp), segmentsFrom_other rfl, if_neg (by simp), extendSegment,
    if_pos rfl, Token.text_comment, segmentsFrom, closeSegment, if_neg htrim]

/-- No line is cut into nothing; a blank one is cut into a blank segment. -/
theorem segments_ne_nil (line : List Char) : segments line ≠ [] := by
  rcases segments_cases line with ⟨-, hblank⟩ | ⟨groups, hsegments, htokens, -⟩
  · rw [hblank]
    exact List.cons_ne_nil _ _
  · intro hnone
    obtain rfl : groups = [] := List.map_eq_nil_iff.mp (hsegments.symm.trans hnone)
    have hlex : lex line = [] := List.map_eq_nil_iff.mp htokens.symm
    rw [segments_of_lex_nil hlex] at hnone
    exact absurd hnone (List.cons_ne_nil _ _)

/-- **A segment of a line, as a line, is one segment.** -/
theorem segments_of_mem_segments {line : List Char} {segment : Line}
    (h : segment ∈ segments line) : segments segment = [segment] := by
  rcases segments_cases line with ⟨-, hblank⟩ | ⟨groups, hsegments, -, hgroups⟩
  · rw [hblank, List.mem_singleton] at h
    rw [h, segments_nil]
  · rw [hsegments] at h
    obtain ⟨group, hgroup, rfl⟩ := List.mem_map.mp h
    exact segments_spell (hgroups group hgroup).1 (hgroups group hgroup).2

/-! ## Indentation -/

/-- White space before the first token of a segment is dropped. -/
theorem segmentsFrom_nil_spaced (spaced : Bool) (token : Token) (rest : List Lexeme) :
    segmentsFrom [] (⟨spaced, token⟩ :: rest) = segmentsFrom [] (⟨false, token⟩ :: rest) := by
  cases token <;> rfl

/-- White space at the start of a line is forgotten, or remembered by its first lexeme. -/
theorem lexFrom_nil_true_cases (cs : List Char) :
    lexFrom [] true cs = lexFrom [] false cs
      ∨ ∃ token rest, ∀ spaced, lexFrom [] spaced cs = ⟨spaced, token⟩ :: rest := by
  cases cs with
  | nil => exact Or.inl (by rw [lexFrom_nil, lexFrom_nil])
  | cons c cs =>
    cases hc : Text.isBlank c with
    | true => exact Or.inl (by rw [lexFrom_blank hc, lexFrom_blank hc])
    | false => exact Or.inr (lexFrom_spaced hc [] cs)

/-- What is the same without a character of white space in front is the same without any number of
them. -/
theorem eq_of_blanks_append {α : Type} {f : List Char → α}
    (hf : ∀ c line, Text.isBlank c = true → f (c :: line) = f line) {blanks : List Char}
    (h : ∀ c ∈ blanks, Text.isBlank c = true) (line : List Char) :
    f (blanks ++ line) = f line := by
  induction blanks with
  | nil => rfl
  | cons c blanks ih =>
    rw [List.cons_append, hf c _ (h c (by simp)), ih fun d hd => h d (by simp [hd])]

/-- White space at the start of a line does not show in how the line is cut. -/
theorem segments_cons_blank {c : Char} (hc : Text.isBlank c = true) (line : List Char) :
    segments (c :: line) = segments line := by
  have hlex : lex (c :: line) = lexFrom [] true line := lexFrom_blank hc [] false line
  rcases lexFrom_nil_true_cases line with hsame | ⟨token, rest, hspaced⟩
  · rw [segments, segments, hlex, hsame]
    rfl
  · rw [segments_of_lex hlex (by simp [hspaced]), segments_of_lex rfl (by simp [lex, hspaced]),
      lex, hspaced, hspaced, segmentsFrom_nil_spaced]

/-- A line is cut as it is without its indentation. -/
theorem segments_blanks_append {blanks : List Char} (h : ∀ c ∈ blanks, Text.isBlank c = true)
    (line : List Char) : segments (blanks ++ line) = segments line :=
  eq_of_blanks_append (fun _ line hc => segments_cons_blank hc line) h line

/-! ## Characters -/

/-- Tokens are made of the characters of their line. Induction along the reader. -/
theorem mem_of_mem_text_lexFrom {before : List Char} {spaced : Bool} {cs : List Char}
    {lexeme : Lexeme} (h : lexeme ∈ lexFrom before spaced cs) {d : Char}
    (hd : d ∈ lexeme.token.text) : d ∈ cs := by
  fun_induction lexFrom before spaced cs with
  | case1 => exact absurd h (by simp)
  | case2 before spaced c cs _ ih => exact List.mem_cons_of_mem c (ih h)
  | case3 before spaced cs _ ih | case4 before spaced cs _ _ ih =>
    rcases List.mem_cons.mp h with rfl | hrest
    · exact List.mem_cons.mpr (Or.inl (List.mem_singleton.mp hd))
    · exact List.mem_cons_of_mem _ (ih hrest)
  | case5 before spaced c cs _ _ _ hquote parts =>
    rename_i ih
    -- a character stands in the literal or in what is left behind it
    have hparts : parts.1 ++ parts.2 = cs :=
      Quoting.close_append_close (by rwa [Quoting.quote_ofOpening]) cs
    rw [← hparts, ← List.cons_append, List.mem_append]
    rcases List.mem_cons.mp h with rfl | hrest
    · exact Or.inl (Text.mem_of_mem_trimEnd hd)
    · exact Or.inr (ih hrest)
  | case6 before spaced c cs =>
    rw [List.mem_singleton] at h
    subst h
    exact Text.mem_of_mem_trimEnd hd
  | case7 before spaced c cs _ _ _ _ _ parts =>
    rename_i ih
    rw [← takeWord_append_takeWord cs, ← List.cons_append, List.mem_append]
    rcases List.mem_cons.mp h with rfl | hrest
    · exact Or.inl hd
    · exact Or.inr (ih hrest)

/-- A segment is made of the characters of its line, and of spaces. -/
theorem mem_of_mem_segments {line : List Char} {segment : Line} (h : segment ∈ segments line)
    {d : Char} (hd : d ∈ segment) : d = ' ' ∨ d ∈ line := by
  rcases segments_cases line with ⟨-, hblank⟩ | ⟨groups, hsegments, htokens, -⟩
  · rw [hblank, List.mem_singleton] at h
    rw [h] at hd
    exact absurd hd (by simp)
  · rw [hsegments] at h
    obtain ⟨group, hgroup, rfl⟩ := List.mem_map.mp h
    obtain ⟨⟨spaced, token⟩, hlexeme, hd⟩ := List.mem_flatMap.mp hd
    have hmem : token ∈ tokensOf (lex line) := by
      rw [← htokens]
      exact List.mem_map.mpr ⟨_, List.mem_flatten.mpr ⟨group, hgroup, hlexeme⟩, rfl⟩
    obtain ⟨lexeme, hline, rfl⟩ := List.mem_map.mp hmem
    -- a lexeme is its token, and perhaps a space before it
    cases spaced with
    | true =>
      rcases List.mem_cons.mp hd with hspace | htext
      · exact Or.inl hspace
      · exact Or.inr (mem_of_mem_text_lexFrom hline htext)
    | false => exact Or.inr (mem_of_mem_text_lexFrom hline hd)

/-- A line without line ends is cut into such lines. -/
theorem isUnbroken_of_mem_segments {line : List Char} (hline : Text.IsUnbroken line)
    {segment : Line} (h : segment ∈ segments line) : Text.IsUnbroken segment := by
  refine Text.isUnbroken_of_forall_mem fun d hd => ?_
  rcases mem_of_mem_segments h hd with rfl | hmem
  · decide
  · exact hline.ne_of_mem hmem

end Scaffold.Layout
