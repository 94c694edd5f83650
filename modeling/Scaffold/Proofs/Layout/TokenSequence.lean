import Scaffold.Proofs.Layout.Absorption

/-!
# Layout keeps the tokens

Layout moves white space and line ends about and nothing else: the tokens of a source, read line by
line, are those of the laid-out source, in the same order.

* **`flatMap_tokens_segments`**: the segments of a line hold the tokens of the line.
* **`tokens_formatChars`**: layout keeps the token sequence.
* **`shown_eq_flatMap_tokens`**: tokens hold every character of a source that shows. So a reader of
  tokens cannot hide a loss: with the tokens, the characters stay.
-/

namespace Scaffold.Layout

/-- The tokens of a source, line by line. -/
def tokens (source : List Char) : List Token :=
  (Text.lines source).flatMap fun line => tokensOf (lex line)

/-! ## Tokens of segments and of indented lines -/

/-- White space at the start of a line adds no token. -/
theorem tokensOf_lex_cons_blank {c : Char} (hc : Text.isBlank c = true) (line : List Char) :
    tokensOf (lex (c :: line)) = tokensOf (lex line) := by
  rw [lex, lexFrom_blank hc, lex]
  rcases lexFrom_nil_true_cases line with hsame | ⟨token, rest, hspaced⟩
  · rw [hsame]
  · rw [hspaced, hspaced, tokensOf_cons, tokensOf_cons]

theorem tokensOf_lex_nil : tokensOf (lex []) = [] := by
  rw [lex, lexFrom_nil, tokensOf_nil]

/-- A line holds the same tokens at any depth. -/
theorem tokensOf_lex_indentLine (settings : LayoutSettings) (depth : Nat) (line : Line) :
    tokensOf (lex (indentLine settings.unit depth line)) = tokensOf (lex line) := by
  rw [indentLine]
  split
  next hnil => rw [hnil]
  next =>
    show tokensOf (lex ((List.replicate depth settings.unit).flatten ++ line)) = tokensOf (lex line)
    exact @eq_of_blanks_append _ (fun line => tokensOf (lex line))
      (fun _ line hc => tokensOf_lex_cons_blank hc line) _
      (fun c hc => (isBlank_of_mem_indentation hc).1) line

/-- Indentation adds no token, at any depth and in any unit. -/
theorem flatMap_tokens_indentFrom (settings : LayoutSettings) (depth : Nat) (lines : List Line) :
    ((indentFrom settings.unit depth lines).flatMap fun line => tokensOf (lex line))
      = lines.flatMap fun line => tokensOf (lex line) := by
  induction lines generalizing depth with
  | nil => rfl
  | cons line rest ih =>
    rw [indentFrom, List.flatMap_cons, List.flatMap_cons, tokensOf_lex_indentLine, ih]

/-- **The segments of a line hold the tokens of the line.** Each segment is read back as the group
of lexemes that it spells. -/
theorem flatMap_tokens_segments (line : List Char) :
    ((segments line).flatMap fun segment => tokensOf (lex segment)) = tokensOf (lex line) := by
  rcases segments_cases line with ⟨hlex, hblank⟩ | ⟨groups, hsegments, htokens, hgroups⟩
  · rw [hblank, List.flatMap_singleton, tokensOf_lex_nil, hlex, tokensOf_nil]
  · rw [hsegments, List.flatMap_map, ← htokens, tokensOf, List.map_flatten, List.flatMap_def]
    refine congrArg List.flatten (List.map_congr_left fun group hgroup => ?_)
    rw [lex, lexFrom_spell (hgroups group hgroup).1, tokensOf]

/-! ## Layout keeps the token sequence -/

/-- The lines that layout finds hold the tokens of the source. Tidying and the cut into segments are
undone. -/
theorem flatMap_tokens_layoutLines (source : List Char) :
    ((layoutLines source).flatMap fun line => tokensOf (lex line)) = tokens source :=
  calc ((layoutLines source).flatMap fun line => tokensOf (lex line))
      = ((Text.lines source).flatMap segments).flatMap fun line => tokensOf (lex line) :=
        flatMap_tidy _ tokensOf_lex_nil _
    _ = tokens source := by
        rw [List.flatMap_assoc, tokens]
        exact congrArg List.flatten (List.map_congr_left fun line _ => flatMap_tokens_segments line)

/-- **Layout keeps the token sequence.** Indentation does not change what the lines hold. -/
theorem tokens_formatChars (settings : LayoutSettings) (source : List Char) :
    tokens (formatChars settings source) = tokens source := by
  have hsettled : ∀ line ∈ layoutLines source, IsSettled line :=
    fun _ h => isSettled_of_mem_layoutLines h
  calc tokens (formatChars settings source)
      = (indentFrom settings.unit 0 (layoutLines source) ++ [[]]).flatMap
          fun line => tokensOf (lex line) := by
        rw [tokens, formatChars, lines_printLines settings hsettled]
    _ = (layoutLines source).flatMap fun line => tokensOf (lex line) := by
        rw [List.flatMap_append, flatMap_tokens_indentFrom, List.flatMap_singleton,
          tokensOf_lex_nil, List.append_nil]
    _ = tokens source := flatMap_tokens_layoutLines source

/-! ## Tokens hold every character that shows -/

/-- The characters of a text that are not white space. -/
def shown (cs : List Char) : List Char :=
  cs.filter fun c => !Text.isBlank c

@[simp] theorem shown_nil : shown [] = [] := rfl

@[simp] theorem shown_append (first second : List Char) :
    shown (first ++ second) = shown first ++ shown second :=
  List.filter_append first second

theorem shown_cons_blank {c : Char} (hc : Text.isBlank c = true) (cs : List Char) :
    shown (c :: cs) = shown cs := by
  rw [shown, List.filter_cons_of_neg (by simp [hc]), shown]

/-- Trimming takes away only what does not show. -/
theorem shown_trimEnd (cs : List Char) : shown (Text.trimEnd cs) = shown cs := by
  obtain ⟨blanks, hcs, hblanks⟩ := Text.trimEnd_append_blanks cs
  -- what is trimmed does not show
  have hnone : shown blanks = [] := by
    rw [shown, List.filter_eq_nil_iff]
    intro c hc
    simp [hblanks c hc]
  conv_rhs => rw [hcs]
  rw [shown_append, hnone, List.append_nil]

/-- The characters of a line that show are those of its tokens. Induction along the reader. -/
theorem shown_eq_flatMap_lexFrom (before : List Char) (spaced : Bool) (cs : List Char) :
    shown cs = (lexFrom before spaced cs).flatMap fun lexeme => shown lexeme.token.text := by
  fun_induction lexFrom before spaced cs with
  | case1 => rfl
  | case2 before spaced c cs hc ih => rw [shown_cons_blank hc, ih]
  | case3 before spaced cs _ ih =>
    rw [List.flatMap_cons, ← ih, ← List.singleton_append, shown_append]
    rfl
  | case4 before spaced cs _ _ ih =>
    rw [List.flatMap_cons, ← ih, ← List.singleton_append, shown_append]
    rfl
  | case5 before spaced c cs _ _ _ hquote parts =>
    rename_i ih
    -- only white space is trimmed off an open literal
    have hparts : parts.1 ++ parts.2 = cs :=
      Quoting.close_append_close (by rwa [Quoting.quote_ofOpening]) cs
    rw [List.flatMap_cons, ← ih, Token.text_literal, shown_trimEnd, ← shown_append,
      List.cons_append, hparts]
  | case6 before spaced c cs =>
    rw [List.flatMap_singleton, Token.text_comment, shown_trimEnd]
  | case7 before spaced c cs _ _ _ _ _ parts =>
    rename_i ih
    rw [List.flatMap_cons, ← ih, Token.text_word, ← shown_append, List.cons_append,
      takeWord_append_takeWord]

/-- Line ends do not show, in any of their spellings. -/
theorem shown_unifyBreaks (cs : List Char) : shown (Text.unifyBreaks cs) = shown cs := by
  fun_induction Text.unifyBreaks cs with
  | case1 => rfl
  | case2 cs ih =>
    rw [shown_cons_blank (by decide), ih, shown_cons_blank (by decide), shown_cons_blank (by decide)]
  | case3 c cs _ ih =>
    split
    next hc => rw [hc, shown_cons_blank (by decide), ih, shown_cons_blank (by decide)]
    next => rw [← List.singleton_append, shown_append, ih, ← shown_append, List.singleton_append]

/-- What shows in a text shows in its pieces between line feeds. -/
theorem shown_eq_flatMap_splitOn (cs : List Char) : shown cs = (cs.splitOn '\n').flatMap shown := by
  induction cs with
  | nil => rfl
  | cons c cs ih =>
    rw [List.splitOn_cons_eq_if_modifyHead]
    split
    next hc =>
      rw [List.flatMap_cons, ← ih, shown_nil, List.nil_append, shown_cons_blank]
      rw [beq_iff_eq.mp hc]
      decide
    next =>
      -- the character joins the first piece of the rest
      obtain ⟨first, others, hsplit⟩ := List.exists_cons_of_ne_nil (List.splitOn_ne_nil '\n' cs)
      rw [hsplit, List.flatMap_cons] at ih
      rw [hsplit, List.modifyHead_cons, List.flatMap_cons, ← List.singleton_append, shown_append, ih,
        ← List.append_assoc, ← shown_append, List.singleton_append]

/-- **Tokens hold every character that shows**, and each of them once. -/
theorem shown_eq_flatMap_tokens (source : List Char) :
    shown source = (tokens source).flatMap fun token => shown token.text := by
  rw [← shown_unifyBreaks, shown_eq_flatMap_splitOn, tokens, List.flatMap_assoc]
  refine congrArg List.flatten (List.map_congr_left fun line _ => ?_)
  rw [shown_eq_flatMap_lexFrom [] false line, tokensOf, List.flatMap_map, lex]

/-- **Layout preserves the token sequence**, and with it every character that is not white space,
in order. -/
theorem tokens_format (settings : LayoutSettings) (source : String) :
    tokens (format settings source).toList = tokens source.toList
      ∧ shown (format settings source).toList = shown source.toList := by
  have htokens : tokens (format settings source).toList = tokens source.toList := by
    rw [format, String.toList_ofList, tokens_formatChars]
  refine ⟨htokens, ?_⟩
  rw [shown_eq_flatMap_tokens, htokens, ← shown_eq_flatMap_tokens]

end Scaffold.Layout
