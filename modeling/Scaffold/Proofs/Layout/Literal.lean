import Scaffold.Proofs.Layout.Seam

/-!
# String literals

A string literal is regular, with a backslash before what it escapes, or verbatim, with quotes
doubled. Layout reads one as a token, or as a word and a token that stay together, as long as the
literal ends on the line on which it starts. So it reaches the output as it stands.

* **`IsStringLiteral`**: what a complete string literal is.
* **`IsUnmarked`**: a text in which no literal or comment starts.
* **`exists_segment_of_literal`**: a literal behind such a text stands in one segment.
* **`infix_formatChars_of_mem`**: segments reach the output.
-/

namespace Scaffold.Layout

/-! ## Literals -/

/-- A regular literal behind its opening quote. It holds no line end. -/
inductive IsRegularBody : List Char → Prop where
  | close : IsRegularBody ['"']
  | escape {c : Char} {cs : List Char} (hc : c ≠ '\n' ∧ c ≠ '\r') (h : IsRegularBody cs) :
      IsRegularBody ('\\' :: c :: cs)
  | char {c : Char} {cs : List Char} (hquote : c ≠ '"') (hescape : c ≠ '\\')
      (hc : c ≠ '\n' ∧ c ≠ '\r') (h : IsRegularBody cs) : IsRegularBody (c :: cs)

/-- A verbatim literal behind its opening quote. It may hold line ends. -/
inductive IsVerbatimBody : List Char → Prop where
  | close : IsVerbatimBody ['"']
  | doubled {cs : List Char} (h : IsVerbatimBody cs) : IsVerbatimBody ('"' :: '"' :: cs)
  | char {c : Char} {cs : List Char} (hc : c ≠ '"') (h : IsVerbatimBody cs) :
      IsVerbatimBody (c :: cs)

/-- A complete string literal. -/
inductive IsStringLiteral : List Char → Prop where
  | regular {body : List Char} (h : IsRegularBody body) : IsStringLiteral ('"' :: body)
  | verbatim {body : List Char} (h : IsVerbatimBody body) : IsStringLiteral ('@' :: '"' :: body)

/-- A regular literal is closed by its last quote. Induction along the literal. -/
theorem IsRegularBody.closes {body : List Char} (h : IsRegularBody body) :
    (Quoting.escaped '"').Closes body := by
  induction h with
  | close => exact ⟨fun rest _ => closeEscaped_quote (by decide) rest, rfl⟩
  | escape _ _ ih => exact ih.cons_cons fun cs => closeEscaped_escape '"' _ cs
  | char hquote hescape _ _ ih => exact ih.cons fun rest => closeEscaped_other hquote hescape _

/-- A verbatim literal is closed by its last quote. Induction along the literal. -/
theorem IsVerbatimBody.closes {body : List Char} (h : IsVerbatimBody body) :
    Quoting.verbatim.Closes body := by
  induction h with
  | close => exact ⟨fun rest hrest => closeVerbatim_quote (hrest rfl), rfl⟩
  | doubled _ ih => exact ih.cons_cons closeVerbatim_doubled
  | char hc _ ih => exact ih.cons fun rest => closeVerbatim_other hc _

/-- A literal starts with a quotation mark, or with the mark of a verbatim one. -/
theorem IsStringLiteral.head? {literal : List Char} (h : IsStringLiteral literal) :
    literal.head? = some '"' ∨ literal.head? = some '@' := by
  cases h with
  | regular => exact Or.inl rfl
  | verbatim => exact Or.inr rfl

theorem IsStringLiteral.ne_nil {literal : List Char} (h : IsStringLiteral literal) :
    literal ≠ [] := by
  cases h <;> exact List.cons_ne_nil _ _

/-- A literal ends with a quotation mark. -/
theorem IsStringLiteral.getLast? {literal : List Char} (h : IsStringLiteral literal) :
    literal.getLast? = some '"' := by
  cases h with
  | regular hbody =>
    rw [List.getLast?_cons, hbody.closes.getLast?_eq]
    rfl
  | verbatim hbody =>
    rw [List.getLast?_cons_cons, List.getLast?_cons, hbody.closes.getLast?_eq]
    rfl

/-! ## Reading a literal -/

/-- A closed literal is read as a token. -/
theorem lexFrom_closed {before body rest : List Char} {quote : Char} (hquote : isQuote quote = true)
    (h : (Quoting.ofOpening before quote).Closes body)
    (hrest : (Quoting.ofOpening before quote).Spares rest) (spaced : Bool) :
    lexFrom before spaced (quote :: (body ++ rest))
      = ⟨spaced, .literal (quote :: body)⟩ :: lexFrom [] false rest := by
  have htrim : Text.trimEnd (quote :: body) = quote :: body :=
    h.trimEnd_eq (by rwa [Quoting.quote_ofOpening]) quote
  rw [lexFrom_quote hquote, h.close_append rest hrest, htrim]

/-- The lexemes of a literal: one, or a word and a quoted text right behind it. -/
inductive Spelled (spaced : Bool) : List Char → List Lexeme → Prop where
  | token {chars : List Char} : Spelled spaced chars [⟨spaced, .literal chars⟩]
  | marked {chars : List Char} :
      Spelled spaced ('@' :: chars) [⟨spaced, .word ['@']⟩, ⟨false, .literal chars⟩]

/-- **A literal is read as its lexemes**, behind white space and before what is no quote. -/
theorem IsStringLiteral.lexFrom_append {literal : List Char} (h : IsStringLiteral literal)
    (spaced : Bool) {rest : List Char} (hrest : rest.head? ≠ some '"') :
    ∃ lexemes, Spelled spaced literal lexemes
      ∧ lexFrom [] spaced (literal ++ rest) = lexemes ++ lexFrom [] false rest := by
  cases h with
  | @regular body hbody =>
    have hescaped : (Quoting.ofOpening [] '"').Closes body := hbody.closes
    exact ⟨_, .token, lexFrom_closed (by decide) hescaped (Quoting.spares_escaped '"' rest) spaced⟩
  -- the mark of a verbatim literal is a word by itself, and it makes the literal behind it verbatim
  | @verbatim body hbody =>
    have hverbatim : (Quoting.ofOpening ['@'] '"').Closes body := hbody.closes
    have hword : takeWord ('"' :: (body ++ rest)) = ([], '"' :: (body ++ rest)) :=
      endsWord_of_not_isWordChar (by decide) _
    refine ⟨_, .marked, ?_⟩
    show lexFrom [] spaced ('@' :: '"' :: (body ++ rest)) = _
    rw [lexFrom_word (by decide) (by rfl), hword,
      lexFrom_closed (by decide) hverbatim (fun _ => hrest) false]
    rfl

/-! ## Texts without literals and comments -/

/-- No literal and no comment starts in the text, and it is all on one line. -/
structure IsUnmarked (cs : List Char) : Prop where
  no_quote : ∀ c ∈ cs, isQuote c = false
  /-- No two slashes stand in a row. -/
  isChain : cs.IsChain fun c d => c = '/' → d ≠ '/'
  isUnbroken : Text.IsUnbroken cs

-- As for quiet texts, no quantifier over characters is decided, only a run over the list.
instance (cs : List Char) : Decidable (IsUnmarked cs) :=
  decidable_of_iff (cs.all (fun c => !isQuote c) = true
      ∧ cs.IsChain (fun c d => c = '/' → d ≠ '/') ∧ Text.IsUnbroken cs) <| by
    simp only [List.all_eq_true, Bool.not_eq_true']
    exact ⟨fun ⟨hquote, hchain, hunbroken⟩ => ⟨hquote, hchain, hunbroken⟩,
      fun ⟨hquote, hchain, hunbroken⟩ => ⟨hquote, hchain, hunbroken⟩⟩

theorem isUnmarked_nil : IsUnmarked [] :=
  ⟨by simp, .nil, Text.isUnbroken_nil⟩

/-- What stands behind text without marks is without marks as well. -/
theorem IsUnmarked.right {first second : List Char} (h : IsUnmarked (first ++ second)) :
    IsUnmarked second where
  no_quote c hc := h.no_quote c (List.mem_append_right first hc)
  isChain := (List.isChain_append.mp h.isChain).2.1
  isUnbroken := (Text.isUnbroken_append_iff.mp h.isUnbroken).2

/-- Unmarked texts with a space between are unmarked. -/
theorem IsUnmarked.spaced {first second : List Char} (hfirst : IsUnmarked first)
    (hsecond : IsUnmarked second) : IsUnmarked (first ++ ' ' :: second) where
  no_quote c hc := by
    rcases List.mem_append.mp hc with h | h
    · exact hfirst.no_quote c h
    · rcases List.mem_cons.mp h with rfl | h
      · decide
      · exact hsecond.no_quote c h
  isChain := by
    -- the space keeps slashes on its two sides apart
    refine List.isChain_append.mpr ⟨hfirst.isChain, ?_, fun c _ d hd _ => ?_⟩
    · exact List.isChain_cons.mpr ⟨fun d _ hslash => absurd hslash (by decide), hsecond.isChain⟩
    · rw [← Option.mem_some.mp hd]
      decide
  isUnbroken := by
    have hspace : Text.IsUnbroken [' '] := by decide
    have hboth := Text.isUnbroken_append_iff.mpr ⟨hspace, hsecond.isUnbroken⟩
    exact Text.isUnbroken_append_iff.mpr ⟨hfirst.isUnbroken, hboth⟩

/-- An unmarked text ends outside of literals and comments. Induction along the text; a slash right
before it makes no comment together with it. -/
theorem IsUnmarked.endsInCode {cs : List Char} (h : IsUnmarked cs) : EndsInCode cs := by
  -- induction along the text, with a word behind; two slashes would have to stand at the seam
  have hrun (word : List Char) (hseam : cs.head? = some '/' → word.getLast? ≠ some '/') :
      ((Position.code word).run cs).IsCode := by
    induction cs generalizing word with
    | nil => exact trivial
    | cons c cs ih =>
      have hright : IsUnmarked cs := @IsUnmarked.right [c] cs h
      have hquote : isQuote c = false := h.no_quote c List.mem_cons_self
      cases hc : isWordChar c with
      | true =>
        have hslash : ¬(c = '/' ∧ word.getLast? = some '/') := by
          rintro ⟨rfl, hlast⟩
          exact hseam rfl hlast
        have hstep : Position.stepCode word c = .code (word ++ [c]) := by
          rw [Position.stepCode, if_neg (by simp [hquote]), if_pos hc, if_neg hslash]
        rw [Position.run_cons, Position.step, hstep]
        refine ih hright _ fun hhead hlast => ?_
        rw [List.getLast?_concat, Option.some.injEq] at hlast
        exact (List.isChain_cons.mp h.isChain).1 '/' hhead hlast rfl
      | false =>
        rw [Position.run_cons, Position.step, Position.stepCode_other hc hquote]
        exact ih hright [] (by simp)
  exact hrun [] (by simp)

/-- **White space cuts the reading of a line apart**, where it stands in no literal or comment. -/
theorem lex_append_blank {c : Char} (hc : Text.isBlank c = true) {cs : List Char}
    (h : IsUnmarked cs) (rest : List Char) :
    lex (cs ++ c :: rest) = lex cs ++ lexFrom [] true rest := by
  obtain ⟨spaced, hlex⟩ := lex_append h.endsInCode
  rw [hlex _ (startsApart_blank hc rest), lexFrom_blank hc]

/-! ## Segments of a line, piece by piece -/

/-- What has been read leaves segments behind, and one that is still open. -/
theorem exists_segmentsFrom_append (current : Line) (first rest : List Lexeme) :
    ∃ front next, segmentsFrom current (first ++ rest) = front ++ segmentsFrom next rest := by
  induction first generalizing current with
  | nil => exact ⟨[], current, rfl⟩
  | cons lexeme first ih =>
    obtain ⟨spaced, token⟩ := lexeme
    rw [List.cons_append]
    -- whichever segment is open after the first lexemes, the rest goes on from it
    cases hbrace : token.isBrace with
    | true =>
      cases token with
      | opening =>
        obtain ⟨front, next, hfront⟩ := ih []
        exact ⟨closeSegment current ++ [openBrace] :: front, next, by
          rw [segmentsFrom_opening, hfront, List.append_assoc, List.cons_append]⟩
      | closing =>
        obtain ⟨front, next, hfront⟩ := ih [closeBrace]
        exact ⟨closeSegment current ++ front, next, by
          rw [segmentsFrom_closing, hfront, List.append_assoc]⟩
      | literal | comment | word => exact absurd hbrace (by simp [Token.isBrace])
    | false =>
      rw [segmentsFrom_other hbrace]
      split
      next =>
        obtain ⟨front, next, hfront⟩ := ih token.text
        exact ⟨current :: front, next, by rw [hfront, List.cons_append]⟩
      next => exact ih _

/-- A token stands at the end of the segment that it joins or starts. -/
theorem exists_segmentsFrom_token {token : Token} (htoken : token.isBrace = false) (current : Line)
    (spaced : Bool) (rest : List Lexeme) :
    ∃ front before, segmentsFrom current (⟨spaced, token⟩ :: rest)
      = front ++ segmentsFrom (before ++ token.text) rest := by
  rw [segmentsFrom_other htoken]
  split
  next => exact ⟨[current], [], rfl⟩
  next =>
    unfold extendSegment
    split
    next => exact ⟨[], [], rfl⟩
    next =>
      split
      next => exact ⟨[], current ++ [' '], by rw [List.append_assoc]; rfl⟩
      next => exact ⟨[], current, rfl⟩

/-- The lexemes of a literal stay together. -/
theorem Spelled.exists_segment {spaced : Bool} {literal : List Char} {lexemes : List Lexeme}
    (h : Spelled spaced literal lexemes) (hne : literal ≠ []) (current : Line)
    (rest : List Lexeme) :
    ∃ segment ∈ segmentsFrom current (lexemes ++ rest), literal <:+: segment := by
  -- the literal ends up in the open segment, for nothing cuts between its mark and the rest of it
  obtain ⟨front, before, hopen⟩ : ∃ front before, segmentsFrom current (lexemes ++ rest)
      = front ++ segmentsFrom (before ++ literal) rest := by
    cases h with
    | token => exact exists_segmentsFrom_token rfl current spaced rest
    | @marked chars =>
      obtain ⟨front, before, hword⟩ :=
        @exists_segmentsFrom_token (.word ['@']) rfl current spaced (⟨false, .literal chars⟩ :: rest)
      have hbrace : before ++ ['@'] ≠ [closeBrace] := by
        intro heq
        have hlast := congrArg List.getLast? heq
        rw [List.getLast?_concat] at hlast
        exact absurd hlast (by decide)
      refine ⟨front, before, hword.trans ?_⟩
      rw [Token.text_word, segmentsFrom_other rfl, if_neg fun hcut => hbrace hcut.1, extendSegment,
        if_neg (by simp), if_neg (by simp), Token.text_literal, List.append_assoc]
      rfl
  have hcurrent : before ++ literal ≠ [] := List.append_ne_nil_of_right_ne_nil before hne
  obtain ⟨segment, others, hcut, hstart⟩ := exists_segmentsFrom_cons hcurrent rest
  refine ⟨segment, ?_, (List.suffix_append before literal).isInfix.trans hstart.isInfix⟩
  rw [hopen, hcut]
  exact List.mem_append_right front List.mem_cons_self

/-- **A literal that is assigned behind an unmarked text** stands in one segment of the line. -/
theorem exists_segment_of_literal {first literal : List Char} (hfirst : IsUnmarked first)
    (h : IsStringLiteral literal) :
    ∃ segment ∈ segments (first ++ ' ' :: '=' :: ' ' :: (literal ++ [';'])),
      literal <:+: segment := by
  obtain ⟨lexemes, hspelled, hread⟩ := @IsStringLiteral.lexFrom_append literal h true [';'] (by simp)
  -- the equals sign is a word, and so the literal behind it starts afresh
  have hsign : lexFrom [] true ('=' :: ' ' :: (literal ++ [';']))
      = ⟨true, .word ['=']⟩ :: (lexemes ++ lexFrom [] false [';']) := by
    have hword : takeWord (' ' :: (literal ++ [';'])) = ([], ' ' :: (literal ++ [';'])) :=
      endsWord_of_not_isWordChar (by decide) _
    rw [lexFrom_word (by decide) (by rfl), hword, lexFrom_blank (by decide), hread]
  have hlex : lex (first ++ ' ' :: '=' :: ' ' :: (literal ++ [';']))
      = (lexFrom [] false first ++ [⟨true, .word ['=']⟩])
        ++ (lexemes ++ lexFrom [] false [';']) := by
    rw [lex_append_blank (by decide) hfirst, hsign, List.append_assoc]
    rfl
  rw [segments_of_lex hlex (by simp)]
  obtain ⟨front, next, hfront⟩ := exists_segmentsFrom_append []
    (lexFrom [] false first ++ [⟨true, .word ['=']⟩]) (lexemes ++ lexFrom [] false [';'])
  obtain ⟨segment, hmem, hheld⟩ := hspelled.exists_segment h.ne_nil next (lexFrom [] false [';'])
  exact ⟨segment, by rw [hfront]; exact List.mem_append_right front hmem, hheld⟩

/-! ## Segments in the output -/

/-- A segment of the last line of a source is a line that layout finds. -/
theorem mem_layoutLines_of_segments {front line : List Char} {source : List Char}
    (hsource : source = line ∨ source = front ++ '\n' :: line) (hline : Text.IsUnbroken line)
    {segment : Line} (h : segment ∈ segments line) (hne : segment ≠ []) :
    segment ∈ layoutLines source := by
  have hcut : segment ∈ cutLines line := by
    rw [cutLines_of_isUnbroken hline]
    exact h
  show segment ∈ tidy (cutLines source)
  rw [mem_tidy_iff hne]
  rcases hsource with rfl | rfl
  · exact hcut
  · rcases cutLines_append_feed_cases front line with hall | ⟨others, -, hall⟩
    · rw [hall]
      exact List.mem_append_right _ hcut
    · rw [hall]
      exact List.mem_append_right _ hcut

/-- Each line is indented to some level. -/
theorem exists_indentLine_mem (unit : List Char) {lines : List Line} {line : Line}
    (h : line ∈ lines) (depth : Nat) :
    ∃ level, indentLine unit level line ∈ indentFrom unit depth lines := by
  induction lines generalizing depth with
  | nil => exact absurd h (by simp)
  | cons first rest ih =>
    rw [indentFrom]
    rcases List.mem_cons.mp h with rfl | hrest
    · exact ⟨_, List.mem_cons_self⟩
    · obtain ⟨level, hlevel⟩ := ih hrest (depthAfter depth first)
      exact ⟨level, List.mem_cons_of_mem _ hlevel⟩

/-- **The lines that layout finds reach the output** as they are. -/
theorem infix_formatChars_of_mem (settings : LayoutSettings) {source : List Char} {line : Line}
    (h : line ∈ layoutLines source) : line <:+: formatChars settings source := by
  obtain ⟨level, hmem⟩ := exists_indentLine_mem settings.unit h 0
  have hline : line <:+: indentLine settings.unit level line := by
    rw [indentLine]
    split
    next hnil => exact hnil ▸ List.infix_refl line
    next => exact (List.suffix_append _ line).isInfix
  have hprinted : indentLine settings.unit level line ++ settings.newline.chars
      <:+: formatChars settings source := by
    rw [formatChars, printLines, List.flatMap_def]
    exact List.infix_of_mem_flatten (List.mem_map.mpr ⟨_, hmem, rfl⟩)
  exact (hline.trans (List.prefix_append _ _).isInfix).trans hprinted

/-! ## Line ends in the output -/

/-- A text of written lines starts with no line feed. -/
theorem head?_flatMap_crlf {lines : List Line} (h : ∀ line ∈ lines, Text.IsUnbroken line) :
    (lines.flatMap (· ++ Newline.crlf.chars)).head? ≠ some '\n' := by
  cases lines with
  | nil => simp
  | cons line rest =>
    cases line with
    | nil => exact fun hfeed => absurd (Option.some.inj hfeed) (by decide)
    | cons c cs =>
      intro hfeed
      exact ((h _ List.mem_cons_self).ne_of_mem List.mem_cons_self).1 (Option.some.inj hfeed)

/-- Behind each written line a carriage return stands before the line feed. Induction along the
lines. -/
theorem isChain_flatMap_crlf {lines : List Line} (h : ∀ line ∈ lines, Text.IsUnbroken line) :
    (lines.flatMap (· ++ Newline.crlf.chars)).IsChain fun c d => d = '\n' → c = '\r' := by
  induction lines with
  | nil => exact .nil
  | cons line rest ih =>
    have hline : Text.IsUnbroken line := h line List.mem_cons_self
    have hrest : ∀ other ∈ rest, Text.IsUnbroken other :=
      fun other hother => h other (List.mem_cons_of_mem line hother)
    -- a line has no line feed, so those there are stand behind carriage returns
    have hwithin : line.IsChain fun c d => d = '\n' → c = '\r' :=
      (List.pairwise_of_forall_mem_list fun c _ d hd hfeed =>
        absurd hfeed (hline.ne_of_mem hd).1).isChain
    have hend : (line ++ Newline.crlf.chars).IsChain fun c d => d = '\n' → c = '\r' := by
      refine List.isChain_append.mpr ⟨hwithin, by simp [Newline.chars], fun c _ d hd hfeed => ?_⟩
      rw [← Option.mem_some.mp hd] at hfeed
      exact absurd hfeed (by decide)
    rw [List.flatMap_cons]
    refine List.isChain_append.mpr ⟨hend, ih hrest, fun c _ d hd hfeed => ?_⟩
    rw [hfeed] at hd
    exact absurd hd (head?_flatMap_crlf hrest)

/-- **A text with a line end does not reach the output under all settings**, unless it starts with
a line feed: with one separator there are no carriage returns in the output, and with the other one
no line feeds without them. -/
theorem isUnbroken_of_infix {source text : List Char} (hhead : text.head? ≠ some '\n')
    (h : ∀ settings, text <:+: formatChars settings source) : Text.IsUnbroken text := by
  have hlines (settings : LayoutSettings) :
      ∀ line ∈ indentFrom settings.unit 0 (layoutLines source), Text.IsUnbroken line :=
    fun _ hline => isUnbroken_of_mem_indentFrom (fun _ h => isSettled_of_mem_layoutLines h) hline
  -- with line feeds as separators no carriage return is printed, and with pairs no lone line feed:
  -- the text can have neither
  have hreturn : '\r' ∉ text := by
    intro hmem
    have hout : '\r' ∈ (indentFrom _ 0 (layoutLines source)).flatMap (· ++ Newline.lf.chars) :=
      (h {}).subset hmem
    obtain ⟨line, hline, hc⟩ := List.mem_flatMap.mp hout
    rcases List.mem_append.mp hc with hc | hc
    · exact (hlines {} line hline).2 hc
    · exact absurd hc (by decide)
  refine ⟨fun hmem => ?_, hreturn⟩
  have hchain : text.IsChain fun c d => d = '\n' → c = '\r' :=
    List.IsChain.infix (isChain_flatMap_crlf (hlines { newline := .crlf })) (h { newline := .crlf })
  obtain ⟨before, rest, rfl⟩ := List.append_of_mem hmem
  rcases List.eq_nil_or_concat before with rfl | ⟨init, c, rfl⟩
  · exact hhead rfl
  · rw [List.concat_eq_append, List.append_assoc, List.singleton_append] at hchain
    have hfeed := (List.isChain_cons_cons.mp (List.isChain_append.mp hchain).2.1).1 rfl
    exact hreturn (by simp [hfeed])

end Scaffold.Layout
