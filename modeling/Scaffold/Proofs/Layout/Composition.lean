import Scaffold.Proofs.Layout.TokenSequence

/-!
# Layout of sources put together

Layout runs once over a whole source, but most of it looks at one line at a time. Where a line feed
joins two sources, each is cut as it is alone; only tidying sees both sides of the seam.

* **`cutLines_append_feed`**: the lines of both sources stand side by side before they are tidied.
* **`tidy_append`**, **`tidy_append_gap`**: lines are tidied apart where no blank line meets the
  seam, or a single one that may stay.
* **`tidy_docs_append`**: documentation holds back the blank lines behind it.
* **`layoutLines_trimLineFeeds`**: line feeds at the ends of a source do not count.
* **`outputLines_format`**: the lines of a source that has been laid out.
-/

namespace Scaffold.Layout

/-! ## Lines before they are tidied -/

/-- The segments of a source, line by line. -/
def cutLines (source : List Char) : List Line :=
  (Text.lines source).flatMap segments

/-- A text without line ends is one line to be cut. -/
theorem cutLines_of_isUnbroken {line : List Char} (h : Text.IsUnbroken line) :
    cutLines line = segments line := by
  rw [cutLines, Text.lines_of_isUnbroken h, List.flatMap_singleton]

/-- The lines hold the tokens of the source before they are tidied as well. -/
theorem flatMap_tokens_cutLines (source : List Char) :
    ((cutLines source).flatMap fun line => tokensOf (lex line)) = tokens source := by
  rw [← flatMap_tokens_layoutLines source]
  exact (flatMap_tidy _ tokensOf_lex_nil (cutLines source)).symm

/-- A line feed cuts a source apart, unless it only completes a line end. -/
theorem cutLines_append_feed_cases (first rest : List Char) :
    cutLines (first ++ '\n' :: rest) = cutLines first ++ cutLines rest
      ∨ ∃ others, cutLines first = others ++ [[]]
          ∧ cutLines (first ++ '\n' :: rest) = others ++ cutLines rest := by
  rcases Text.lines_append_feed first rest with hall | ⟨others, hfirst, hall⟩
  · refine Or.inl ?_
    rw [cutLines, hall, List.flatMap_append]
    rfl
  · refine Or.inr ⟨others.flatMap segments, ?_, ?_⟩
    · rw [cutLines, hfirst, List.flatMap_append, List.flatMap_singleton, segments_nil]
    · rw [cutLines, hall, List.flatMap_append]
      rfl

/-- **The lines of two sources stand side by side**, if the first does not end with a blank one. -/
theorem cutLines_append_feed {first : List Char} (h : (cutLines first).getLast? ≠ some [])
    (rest : List Char) : cutLines (first ++ '\n' :: rest) = cutLines first ++ cutLines rest := by
  rcases cutLines_append_feed_cases first rest with hall | ⟨others, hfirst, -⟩
  · exact hall
  · exact absurd (by rw [hfirst, List.getLast?_concat]) h

/-- What takes no notice of blank lines sees the lines of both sources in any case. -/
theorem flatMap_cutLines_append_feed {α : Type} (f : Line → List α) (hf : f [] = [])
    (first rest : List Char) :
    (cutLines (first ++ '\n' :: rest)).flatMap f
      = (cutLines first).flatMap f ++ (cutLines rest).flatMap f := by
  rcases cutLines_append_feed_cases first rest with hall | ⟨others, hfirst, hall⟩
  · rw [hall, List.flatMap_append]
  · rw [hall, hfirst, List.flatMap_append, List.flatMap_append, List.flatMap_singleton, hf,
      List.append_nil]

/-- A line feed in front makes a blank line. -/
theorem cutLines_feed_cons (rest : List Char) : cutLines ('\n' :: rest) = [] :: cutLines rest := by
  have hcut : Text.lines ('\n' :: rest) = Text.lines [] ++ Text.lines rest :=
    @Text.lines_append_newline .lf [] (by simp) rest
  rw [cutLines, hcut, Text.lines_nil, List.singleton_append, List.flatMap_cons, segments_nil]
  rfl

/-! ## Lines that show -/

/-- Something on the line is no white space. -/
def Shows (line : List Char) : Prop :=
  ∃ c ∈ line, Text.isBlank c = false

-- The quantifier is decided along the list, not over all characters.
instance (line : List Char) : Decidable (Shows line) :=
  decidable_of_iff (line.any (fun c => !Text.isBlank c) = true) <| by
    simp only [List.any_eq_true, Bool.not_eq_true']
    rfl

/-- What shows is held by a token. -/
theorem Shows.lex_ne_nil {line : List Char} (h : Shows line) : lex line ≠ [] := by
  obtain ⟨c, hc, hshows⟩ := h
  intro hlex
  have hshown : c ∈ shown line := List.mem_filter.mpr ⟨hc, by simp [hshows]⟩
  have hnone : shown line = [] := by
    rw [shown_eq_flatMap_lexFrom [] false line]
    show (lex line).flatMap _ = []
    rw [hlex, List.flatMap_nil]
  rw [hnone] at hshown
  exact absurd hshown (by simp)

/-- No segment of a line that shows is blank. -/
theorem Shows.ne_nil_of_mem_segments {line : List Char} (h : Shows line) {segment : Line}
    (hsegment : segment ∈ segments line) : segment ≠ [] := by
  rcases segments_cases line with ⟨hlex, -⟩ | ⟨groups, hsegments, -, hgroups⟩
  · exact absurd hlex h.lex_ne_nil
  · rw [hsegments] at hsegment
    obtain ⟨group, hmem, rfl⟩ := List.mem_map.mp hsegment
    obtain ⟨hlegible, hgroup⟩ := hgroups group hmem
    refine hlegible.spell_ne_nil ?_
    rcases hgroup with rfl | ⟨hne, -⟩
    · exact List.cons_ne_nil _ _
    · exact hne

theorem cutLines_ne_nil (source : List Char) : cutLines source ≠ [] := by
  obtain ⟨line, rest, hlines⟩ := List.exists_cons_of_ne_nil (Text.lines_ne_nil source)
  rw [cutLines, hlines, List.flatMap_cons]
  exact List.append_ne_nil_of_left_ne_nil (segments_ne_nil line) _

/-- Where the last line of a source shows, no blank line ends it. -/
theorem getLast?_cutLines_ne {source : List Char}
    (h : ∀ line ∈ (Text.lines source).getLast?, Shows line) :
    (cutLines source).getLast? ≠ some [] := by
  have hne := Text.lines_ne_nil source
  have hshows := h _ (List.getLast?_eq_some_getLast hne)
  rw [cutLines, ← List.dropLast_append_getLast hne, List.flatMap_append, List.flatMap_singleton,
    List.getLast?_append, List.getLast?_eq_some_getLast (segments_ne_nil _), Option.some_or]
  intro hnil
  exact hshows.ne_nil_of_mem_segments (List.getLast_mem (segments_ne_nil _)) (Option.some.inj hnil)

/-- Where the first line of a source shows, no blank line starts it. -/
theorem head?_cutLines_ne {source : List Char}
    (h : ∀ line ∈ (Text.lines source).head?, Shows line) : (cutLines source).head? ≠ some [] := by
  obtain ⟨line, rest, hlines⟩ := List.exists_cons_of_ne_nil (Text.lines_ne_nil source)
  have hshows := h line (by rw [hlines]; rfl)
  obtain ⟨first, others, hcons⟩ := List.exists_cons_of_ne_nil (segments_ne_nil line)
  rw [cutLines, hlines, List.flatMap_cons, hcons, List.cons_append, List.head?_cons]
  intro hnil
  exact hshows.ne_nil_of_mem_segments (by simp [hcons]) (Option.some.inj hnil)

/-! ## Tidying piece by piece -/

/-- A line that is not blank ends what the lines before it can do to those behind. -/
theorem tidyFrom_append_cons {line : Line} (hline : line ≠ []) (before : Option Line) (gap : Bool)
    (first second : List Line) :
    tidyFrom before gap (first ++ line :: second)
      = tidyFrom before gap (first ++ [line]) ++ tidyFrom (some line) false second := by
  have hcons (before : Option Line) (gap : Bool) (rest : List Line) :
      tidyFrom before gap (line :: rest)
        = (if keepsGap before gap line then [[], line] else [line])
          ++ tidyFrom (some line) false rest := by
    rw [tidyFrom]
    · split <;> rfl
    · exact hline
  -- induction along the tidying of what stands above; the line keeps apart what it has before it
  -- from what it has behind it
  fun_induction tidyFrom before gap first with
  | case1 before gap =>
    rw [List.nil_append, List.nil_append, hcons, hcons, tidyFrom, List.append_nil]
  | case2 before gap rest ih => exact ih
  | case3 before gap other rest hother hgap ih =>
    have hne : other ≠ [] := fun h => hother h
    rw [List.cons_append, List.cons_append, tidyFrom, if_pos hgap, tidyFrom, if_pos hgap, ih]
    · rfl
    · exact hne
    · exact hne
  | case4 before gap other rest hother hgap ih =>
    have hne : other ≠ [] := fun h => hother h
    rw [List.cons_append, List.cons_append, tidyFrom, if_neg hgap, tidyFrom, if_neg hgap, ih]
    · rfl
    · exact hne
    · exact hne

/-- No blank line has been seen, so what stands before makes no difference. -/
theorem tidyFrom_of_head?_ne {lines : List Line} (h : lines.head? ≠ some [])
    (before : Option Line) : tidyFrom before false lines = tidy lines := by
  cases lines with
  | nil => rfl
  | cons line rest =>
    have hline : line ≠ [] := by simpa using h
    have hkeeps : keepsGap before false line = false := by cases before <;> rfl
    rw [tidy, tidyFrom, hkeeps, tidyFrom]
    · rfl
    · exact hline
    · exact hline

/-- **Lines are tidied apart** where they meet with lines that are not blank. -/
theorem tidy_append {first second : List Line} (hfirst : first.getLast? ≠ some [])
    (hsecond : second.head? ≠ some []) : tidy (first ++ second) = tidy first ++ tidy second := by
  rcases List.eq_nil_or_concat first with rfl | ⟨init, line, rfl⟩
  · rfl
  · have hline : line ≠ [] := by simpa using hfirst
    rw [tidy, List.concat_eq_append, List.append_assoc, List.singleton_append,
      tidyFrom_append_cons hline, tidyFrom_of_head?_ne hsecond]
    rfl

/-- **A single blank line that may stay** is kept between lines that are tidied apart. -/
theorem tidy_append_gap {first second : List Line} (hne : first ≠ []) (hrest : second ≠ [])
    (hfirst : ∀ last ∈ first.getLast?, MayFollow last [])
    (hsecond : ∀ next ∈ second.head?, MayFollow [] next) :
    tidy (first ++ [] :: second) = tidy first ++ [] :: tidy second := by
  obtain ⟨init, line, rfl⟩ := (List.eq_nil_or_concat first).resolve_left hne
  obtain ⟨next, others, rfl⟩ := List.exists_cons_of_ne_nil hrest
  rw [List.concat_eq_append] at hfirst ⊢
  have hlast : MayFollow line [] := hfirst line (by simp)
  have hnext : MayFollow [] next := hsecond next rfl
  have hline : line ≠ [] := fun hnil => (hlast.1 hnil).1 rfl
  have hnextNe : next ≠ [] := (hnext.1 rfl).1
  -- the gap is kept, since the lines on either side of it may be parted
  have hkeeps : keepsGap (some line) true next = true :=
    (mayPart_iff hline hnextNe).mpr ⟨hlast, hnext⟩
  have htail : tidyFrom (some line) false ([] :: next :: others) = [] :: tidy (next :: others) := by
    rw [tidyFrom, tidyFrom, if_pos hkeeps, tidy, tidyFrom]
    · rfl
    · exact hnextNe
    · exact hnextNe
  rw [tidy, List.append_assoc, List.singleton_append, tidyFrom_append_cons hline, htail]
  rfl

/-- The last line stays the last one, if it is not blank. Induction along the lines before it. -/
theorem getLast?_tidy_concat (lines : List Line) {last : Line} (hlast : last ≠ []) :
    (tidy (lines ++ [last])).getLast? = some last := by
  -- wherever tidying stands, a line that is not blank is never dropped
  have hfrom (before : Option Line) (gap : Bool) :
      ∃ front, tidyFrom before gap (lines ++ [last]) = front ++ [last] := by
    fun_induction tidyFrom before gap lines with
    | case1 before gap =>
      rw [List.nil_append, tidyFrom]
      · split
        next => exact ⟨[[]], rfl⟩
        next => exact ⟨[], rfl⟩
      · exact hlast
    | case2 before gap rest ih => exact ih
    | case3 before gap line rest hne hgap ih =>
      obtain ⟨front, hfront⟩ := ih
      rw [List.cons_append, tidyFrom, if_pos hgap, hfront]
      · exact ⟨[] :: line :: front, rfl⟩
      · exact hne
    | case4 before gap line rest hne hgap ih =>
      obtain ⟨front, hfront⟩ := ih
      rw [List.cons_append, tidyFrom, if_neg hgap, hfront]
      · exact ⟨line :: front, rfl⟩
      · exact hne
  obtain ⟨front, hfront⟩ := hfrom none false
  rw [tidy, hfront, List.getLast?_concat]

/-! ## Documentation -/

/-- Blank lines at the start, behind an opening brace and behind documentation do not count.
Induction along the lines. -/
theorem tidyFrom_behind {before : Option Line}
    (h : ∀ line ∈ before, opensBlock line = true ∨ isDocLine line = true) (gap : Bool)
    (lines : List Line) : tidyFrom before gap lines = tidy lines := by
  induction lines generalizing before gap with
  | nil => rfl
  | cons line rest ih =>
    by_cases hline : line = []
    · subst hline
      show tidyFrom before true rest = tidyFrom none true rest
      rw [ih h, @ih none (by simp)]
    -- no gap is kept behind such a line, nor at the start of all
    · have hkeeps : keepsGap before gap line = false := by
        cases before with
        | none => rfl
        | some before =>
          rcases h before rfl with hbefore | hbefore <;> simp [keepsGap, mayPart, hbefore]
      have hnone : keepsGap none false line = false := rfl
      rw [tidy, tidyFrom, hkeeps, tidyFrom, hnone]
      · exact hline
      · exact hline

/-- **Documentation holds back the blank lines behind it**: what follows is tidied as at the start.
Induction along the lines of documentation. -/
theorem tidy_docs_append {docs : List Line} (h : ∀ line ∈ docs, line = [] ∨ isDocLine line = true)
    (rest : List Line) : tidy (docs ++ rest) = docs.filter (· ≠ []) ++ tidy rest := by
  induction docs with
  | nil => rfl
  | cons line docs ih =>
    have htail := ih fun other hother => h other (List.mem_cons_of_mem line hother)
    by_cases hline : line = []
    · subst hline
      show tidyFrom none true (docs ++ rest) = _
      rw [tidyFrom_behind (by simp), htail]
      rfl
    · have hdoc : isDocLine line = true := (h line List.mem_cons_self).resolve_left hline
      have hbehind : ∀ other ∈ some line, opensBlock other = true ∨ isDocLine other = true := by
        intro other hother
        rw [← Option.mem_some.mp hother]
        exact Or.inr hdoc
      have hkeeps : keepsGap none false line = false := rfl
      rw [List.cons_append, tidy, tidyFrom, hkeeps, tidyFrom_behind hbehind, htail,
        List.filter_cons_of_pos (by simpa using hline)]
      · rfl
      · exact hline

/-! ## Line feeds at the ends of a source -/

/-- A line feed in front of a source makes no difference. -/
theorem layoutLines_feed_cons (source : List Char) :
    layoutLines ('\n' :: source) = layoutLines source := by
  show tidy (cutLines ('\n' :: source)) = tidy (cutLines source)
  rw [cutLines_feed_cons]
  exact tidyFrom_behind (by simp) true (cutLines source)

/-- Nor does one behind it. -/
theorem layoutLines_append_feed (source : List Char) :
    layoutLines (source ++ ['\n']) = layoutLines source := by
  show tidy (cutLines (source ++ ['\n'])) = tidy (cutLines source)
  have hnil : cutLines [] = [[]] := by
    rw [cutLines_of_isUnbroken Text.isUnbroken_nil, segments_nil]
  rcases cutLines_append_feed_cases source [] with hall | ⟨others, hsource, hall⟩
  · rw [hall, hnil, tidy_append_blank]
  · rw [hall, hnil, hsource]

/-- **Line feeds at the ends of a source do not count.** -/
theorem layoutLines_trimLineFeeds (source : List Char) :
    layoutLines (Text.trimLineFeeds source) = layoutLines source := by
  -- line feeds are taken off at each end one by one
  have hbehind (cs : List Char) : layoutLines (cs.rdropWhile (· == '\n')) = layoutLines cs := by
    induction cs using List.reverseRecOn with
    | nil => rfl
    | append_singleton cs c ih =>
      rw [List.rdropWhile_concat]
      split
      next hc => rw [ih, beq_iff_eq.mp hc, layoutLines_append_feed]
      next => rfl
  have hbefore : layoutLines (source.dropWhile (· == '\n')) = layoutLines source := by
    induction source with
    | nil => rfl
    | cons c cs ih =>
      rw [List.dropWhile_cons]
      split
      next hc => rw [ih, beq_iff_eq.mp hc, layoutLines_feed_cons]
      next => rfl
  calc layoutLines (Text.trimLineFeeds source)
      = layoutLines ((source.dropWhile (· == '\n')).rdropWhile (· == '\n')) := rfl
    _ = layoutLines (source.dropWhile (· == '\n')) := hbehind _
    _ = layoutLines source := hbefore

/-! ## The lines of a source that has been laid out -/

/-- The lines of a text that has a separator behind each. -/
def outputLines (text : String) : List Line :=
  (Text.lines text.toList).dropLast

/-- **The lines of a source that has been laid out** are its tidied lines at their depths. -/
theorem outputLines_format (settings : LayoutSettings) (source : String) :
    outputLines (format settings source)
      = indentFrom settings.unit 0 (layoutLines source.toList) := by
  rw [outputLines, format, String.toList_ofList, formatChars,
    lines_printLines settings fun _ h => isSettled_of_mem_layoutLines h, List.dropLast_concat]

end Scaffold.Layout
