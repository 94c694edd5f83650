import Mathlib.Logic.Relation
import Scaffold.Proofs.Layout.Seam

/-!
# Incidental layout

The layout that a source already has is forgotten. `SourceEdit` says what is incidental about it:
the kind of its line ends, the white space around its lines and the amount of it between tokens,
how many blank lines stand in a row, whether some stand where none may, and most of the line breaks
next to braces. Such edits may be made one after the other, forwards and backwards:

* **`LocalEdit.interchangeable`**: what an edit replaces can be told from its replacement by no
  line above or below.
* **`LineEdit.tidy_eq`**: so the tidied lines are the same.
* **`format_eq_of_edits`**: and so is the source that has been laid out.

A source is edited line by line, and afterwards its lines must be the edited ones. They are, unless
the edit brings a carriage return that ends one line right before a line feed that ends the next:
then the two are the end of one line, and a blank line may be lost (`format_betweenEnds_ne`).
-/

namespace Scaffold.Layout

/-! ## Edits -/

/-- The line holds nothing but white space. -/
def IsBlankLine (line : List Char) : Prop :=
  ∀ c ∈ line, Text.isBlank c = true

-- Decided character by character, never over the finite type of all characters.
instance (line : List Char) : Decidable (IsBlankLine line) :=
  decidable_of_iff (line.all Text.isBlank = true) List.all_eq_true

/-- Lines, and what may stand in their place anywhere in a source. -/
inductive LocalEdit : List (List Char) → List (List Char) → Prop where
  /-- White space at the ends of a line. -/
  | edges (line : List Char) {first last : List Char} (hfirst : IsBlankLine first)
      (hlast : IsBlankLine last) : LocalEdit [first ++ (line ++ last)] [line]
  /-- White space within a line, outside of literals and comments. -/
  | gap {left gap other : List Char} (right : List Char) (hleft : EndsInCode left)
      (hgap : gap ≠ [] ∧ IsBlankLine gap) (hother : other ≠ [] ∧ IsBlankLine other) :
      LocalEdit [left ++ (gap ++ right)] [left ++ (other ++ right)]
  /-- A line break between a token and a brace. -/
  | breakBefore {left blanks : List Char} {brace : Char} (right : List Char)
      (hleft : EndsInCode left) (hshows : Shows left) (hblanks : IsBlankLine blanks)
      (hbrace : brace = openBrace ∨ brace = closeBrace) :
      LocalEdit [left ++ (blanks ++ brace :: right)] [left, blanks ++ brace :: right]
  /-- A line break between an opening brace and a token. -/
  | breakBehind {left blanks right : List Char} (hleft : EndsInCode left)
      (hblanks : IsBlankLine blanks) (hshows : Shows right) :
      LocalEdit [left ++ openBrace :: (blanks ++ right)] [left ++ openBrace :: blanks, right]
  /-- Some blank lines in a row. -/
  | blanks {run other : List (List Char)} (hrun : run ≠ [] ∧ ∀ line ∈ run, IsBlankLine line)
      (hother : other ≠ [] ∧ ∀ line ∈ other, IsBlankLine line) : LocalEdit run other
  /-- Blank lines behind an opening brace on a line of its own. -/
  | behindBrace {first last : List Char} {run : List (List Char)} (hfirst : IsBlankLine first)
      (hlast : IsBlankLine last) (hrun : ∀ line ∈ run, IsBlankLine line) :
      LocalEdit ((first ++ openBrace :: last) :: run) [first ++ openBrace :: last]
  /-- Blank lines behind a line of documentation. -/
  | behindDoc {first : List Char} (rest : List Char) {run : List (List Char)}
      (hfirst : IsBlankLine first) (hrun : ∀ line ∈ run, IsBlankLine line) :
      LocalEdit ((first ++ '/' :: '/' :: '/' :: rest) :: run) [first ++ '/' :: '/' :: '/' :: rest]
  /-- Blank lines before a line that starts with a closing brace. -/
  | beforeBrace {first : List Char} (rest : List Char) {run : List (List Char)}
      (hfirst : IsBlankLine first) (hrun : ∀ line ∈ run, IsBlankLine line) :
      LocalEdit (run ++ [first ++ closeBrace :: rest]) [first ++ closeBrace :: rest]

/-- The lines of a source before and after an edit. -/
inductive LineEdit : List (List Char) → List (List Char) → Prop where
  | within (above below : List (List Char)) {lines others : List (List Char)}
      (h : LocalEdit lines others) :
      LineEdit (above ++ (lines ++ below)) (above ++ (others ++ below))
  /-- Blank lines at the start. -/
  | atStart {run : List (List Char)} (hrun : ∀ line ∈ run, IsBlankLine line)
      (below : List (List Char)) : LineEdit (run ++ below) below
  /-- Blank lines at the end. -/
  | atEnd (above : List (List Char)) {run : List (List Char)}
      (hrun : ∀ line ∈ run, IsBlankLine line) : LineEdit (above ++ run) above

/-- A source before and after an edit. Both are written of the lines in question, so the edit brings
no carriage return that ends a line right before a line feed that ends the next. -/
inductive SourceEdit (source other : String) : Prop where
  /-- The lines stay, and may end in another way. -/
  | ends {lines : List (List Char)} (hsource : Text.IsWritten lines source.toList)
      (hother : Text.IsWritten lines other.toList)
  | lines {first second : List (List Char)} (hsource : Text.IsWritten first source.toList)
      (hother : Text.IsWritten second other.toList) (h : LineEdit first second)

/-! ## Blank lines -/

/-- A run of blank lines gives as many empty segments. -/
theorem flatMap_segments_blank {run : List (List Char)} (h : ∀ line ∈ run, IsBlankLine line) :
    run.flatMap segments = List.replicate run.length [] := by
  induction run with
  | nil => rfl
  | cons line run ih =>
    rw [List.flatMap_cons, segments_of_blank (h line (by simp)),
      ih fun other hother => h other (by simp [hother])]
    rfl

/-- Of blank lines in a row, all but one make no difference. -/
theorem tidyFrom_blanks (before : Option Line) (gap : Bool) (n : Nat) (rest : List Line) :
    tidyFrom before gap (List.replicate (n + 1) [] ++ rest) = tidyFrom before true rest := by
  induction n generalizing gap with
  | zero => rfl
  | succ n ih => exact ih true

/-- Empty lines leave no trace where one blank line more before the rest would leave none. -/
theorem tidyFrom_blanks_eq {before : Option Line} {gap : Bool} {rest : List Line}
    (h : tidyFrom before true rest = tidyFrom before gap rest) (n : Nat) :
    tidyFrom before gap (List.replicate n [] ++ rest) = tidyFrom before gap rest := by
  cases n with
  | zero => rfl
  | succ n => rw [tidyFrom_blanks, h]

/-- What is tidied alike is tidied alike below any lines. Induction along these. -/
theorem tidyFrom_append_congr {first second : List Line}
    (h : ∀ before gap, tidyFrom before gap first = tidyFrom before gap second)
    (before : Option Line) (gap : Bool) (above : List Line) :
    tidyFrom before gap (above ++ first) = tidyFrom before gap (above ++ second) := by
  fun_induction tidyFrom before gap above with
  | case1 => exact h _ _
  | case2 before gap rest ih => exact ih
  | case3 before gap line rest hne hgap ih | case4 before gap line rest hne hgap ih =>
    rw [List.cons_append, List.cons_append, tidyFrom, tidyFrom, ih]
    · exact hne
    · exact hne

/-! ## Edits make no difference -/

/-- Whatever stands above and below, the lines are tidied as the others are. -/
def Interchangeable (lines others : List Line) : Prop :=
  ∀ before gap rest, tidyFrom before gap (lines ++ rest) = tidyFrom before gap (others ++ rest)

theorem interchangeable_of_eq {lines others : List Line} (h : lines = others) :
    Interchangeable lines others := by
  intro before gap rest
  rw [h]

/-- Blank lines do not count behind an opening brace or documentation. -/
theorem interchangeable_behind {line : Line}
    (hline : opensBlock line = true ∨ isDocLine line = true) (n : Nat) :
    Interchangeable (line :: List.replicate n []) [line] := by
  have hne : line ≠ [] := by
    rintro rfl
    exact absurd hline (by decide)
  have hbehind : ∀ other ∈ some line, opensBlock other = true ∨ isDocLine other = true := by
    intro other hother
    rw [← Option.mem_some.mp hother]
    exact hline
  intro before gap rest
  -- behind such a line the gap is closed, so the empty lines below it leave no trace
  have hrest : tidyFrom (some line) false (List.replicate n [] ++ rest)
      = tidyFrom (some line) false rest := by
    refine tidyFrom_blanks_eq ?_ n
    rw [tidyFrom_behind hbehind, tidyFrom_behind hbehind]
  have hcons (below : List Line) : tidyFrom before gap (line :: below)
      = tidyFrom before gap [line] ++ tidyFrom (some line) false below :=
    tidyFrom_append_cons hne before gap [] below
  rw [List.cons_append, hcons, hrest, ← hcons, List.singleton_append]

/-- Blank lines do not count before a closing brace. -/
theorem interchangeable_before {line : Line} (hline : closesBlock line = true) (others : List Line)
    (n : Nat) : Interchangeable (List.replicate n [] ++ line :: others) (line :: others) := by
  have hne : line ≠ [] := by
    rintro rfl
    exact absurd hline (by decide)
  intro before gap rest
  rw [List.append_assoc]
  refine tidyFrom_blanks_eq ?_ n
  -- no gap is kept before the line, so it makes no difference whether there is one
  have hkeeps (gap : Bool) : keepsGap before gap line = false := by
    cases before with
    | none => rfl
    | some before => simp [keepsGap, mayPart, hline]
  rw [List.cons_append, tidyFrom, tidyFrom, hkeeps, hkeeps]
  · exact hne
  · exact hne

/-- **No line above or below can tell** what an edit replaces from its replacement. -/
theorem LocalEdit.interchangeable {lines others : List (List Char)} (h : LocalEdit lines others) :
    Interchangeable (lines.flatMap segments) (others.flatMap segments) := by
  cases h with
  | edges line hfirst hlast =>
    refine interchangeable_of_eq ?_
    rw [List.flatMap_singleton, List.flatMap_singleton, segments_blanks_append hfirst,
      segments_append_blanks hlast]
  | gap right hleft hgap hother =>
    refine interchangeable_of_eq ?_
    rw [List.flatMap_singleton, List.flatMap_singleton, segments_append_gap hleft hgap hother]
  | @breakBefore left blanks brace right hleft hshows hblanks hbrace =>
    have hshows' : Shows (left ++ blanks) := by
      obtain ⟨c, hc, hshows⟩ := hshows
      exact ⟨c, List.mem_append_left blanks hc, hshows⟩
    refine interchangeable_of_eq ?_
    rw [List.flatMap_singleton, List.flatMap_cons, List.flatMap_singleton, ← List.append_assoc,
      segments_append_brace (hleft.append_blanks hblanks) hshows' hbrace,
      segments_append_blanks hblanks, segments_blanks_append hblanks]
  | @breakBehind left blanks right hleft hblanks hshows =>
    have hshows' : Shows (blanks ++ right) := by
      obtain ⟨c, hc, hshows⟩ := hshows
      exact ⟨c, List.mem_append_right blanks hc, hshows⟩
    have hline : left ++ openBrace :: blanks = (left ++ [openBrace]) ++ blanks := by
      rw [List.append_assoc, List.singleton_append]
    refine interchangeable_of_eq ?_
    rw [List.flatMap_singleton, List.flatMap_cons, List.flatMap_singleton,
      segments_append_opening hleft hshows', segments_blanks_append hblanks, hline,
      segments_append_blanks hblanks]
  | @blanks run other hrun hother =>
    -- neither is empty, so both come down to a single blank line
    obtain ⟨n, hn⟩ := Nat.exists_eq_succ_of_ne_zero (List.length_pos_iff.mpr hrun.1).ne'
    obtain ⟨m, hm⟩ := Nat.exists_eq_succ_of_ne_zero (List.length_pos_iff.mpr hother.1).ne'
    intro before gap rest
    rw [flatMap_segments_blank hrun.2, flatMap_segments_blank hother.2, hn, hm, tidyFrom_blanks,
      tidyFrom_blanks]
  | @behindBrace first last run hfirst hlast hrun =>
    have hline : segments (first ++ openBrace :: last) = [[openBrace]] := by
      rw [segments_blanks_append hfirst, ← List.singleton_append, segments_append_blanks hlast,
        segments_opening]
    rw [List.flatMap_cons, flatMap_segments_blank hrun, List.flatMap_singleton, hline]
    exact interchangeable_behind (Or.inl rfl) run.length
  | @behindDoc first rest run hfirst hrun =>
    obtain ⟨segment, hsegment, hdoc⟩ := segments_doc rest
    have hline : segments (first ++ '/' :: '/' :: '/' :: rest) = [segment] := by
      rw [segments_blanks_append hfirst, hsegment]
    rw [List.flatMap_cons, flatMap_segments_blank hrun, List.flatMap_singleton, hline]
    exact interchangeable_behind (Or.inr hdoc) run.length
  | @beforeBrace first rest run hfirst hrun =>
    obtain ⟨segment, others, hsegments, hcloses⟩ := segments_closing_cons rest
    have hline : segments (first ++ closeBrace :: rest) = segment :: others := by
      rw [segments_blanks_append hfirst, hsegments]
    rw [List.flatMap_append, flatMap_segments_blank hrun, List.flatMap_singleton, hline]
    exact interchangeable_before hcloses others run.length

/-- **An edit leaves the tidied lines as they are.** -/
theorem LineEdit.tidy_eq {lines others : List (List Char)} (h : LineEdit lines others) :
    tidy (lines.flatMap segments) = tidy (others.flatMap segments) := by
  cases h with
  | within above below h =>
    simp only [List.flatMap_append]
    exact tidyFrom_append_congr (fun before gap => h.interchangeable before gap _) none false _
  -- before the first line, too, there is no gap to open
  | @atStart run hrun below =>
    rw [List.flatMap_append, flatMap_segments_blank hrun]
    refine tidyFrom_blanks_eq ?_ run.length
    rw [tidyFrom_behind (by simp), tidyFrom_behind (by simp)]
  | @atEnd above run hrun =>
    -- a gap that no line follows is never written
    have hend (before : Option Line) (gap : Bool) :
        tidyFrom before gap (List.replicate run.length []) = tidyFrom before gap [] := by
      have hnil : tidyFrom before true [] = tidyFrom before gap [] := rfl
      rw [← List.append_nil (List.replicate run.length [])]
      exact tidyFrom_blanks_eq hnil run.length
    rw [List.flatMap_append, flatMap_segments_blank hrun, tidy, tidyFrom_append_congr hend,
      List.append_nil, tidy]

/-- An edit of a source keeps the lines that are laid out. -/
theorem SourceEdit.layoutLines_eq {source other : String} (h : SourceEdit source other) :
    layoutLines source.toList = layoutLines other.toList := by
  cases h with
  | ends hsource hother => rw [layoutLines, layoutLines, hsource.lines_eq, hother.lines_eq]
  | lines hsource hother h =>
    rw [layoutLines, layoutLines, hsource.lines_eq, hother.lines_eq, h.tidy_eq]

/-- **Incidental layout is forgotten**: sources that any number of edits lead from one to the other
are laid out alike. -/
theorem format_eq_of_edits (settings : LayoutSettings) {source other : String}
    (h : Relation.EqvGen SourceEdit source other) :
    format settings source = format settings other := by
  have hlines : layoutLines source.toList = layoutLines other.toList := by
    induction h with
    | rel source other hedit => exact hedit.layoutLines_eq
    | refl source => rfl
    | symm source other _ ih => exact ih.symm
    | trans source middle other _ _ ihfirst ihsecond => exact ihfirst.trans ihsecond
  rw [format, format, formatChars, formatChars, hlines]

/-! ## Line ends that an edit brings together -/

/-- A source whose second line stands between a carriage return and a line feed. -/
def betweenEnds (line : String) : String := "a\r" ++ line ++ "\nb"

/-- **White space may be all that keeps two line ends apart.** Taken out of the second line, it
leaves a blank line if line ends are not looked at; but they have become one, and the blank line is
gone. -/
theorem format_betweenEnds_ne :
    Text.lines (betweenEnds " ").toList = [['a'], [' '], ['b']]
      ∧ LineEdit [['a'], [' '], ['b']] [['a'], [], ['b']]
      ∧ Text.lines (betweenEnds "").toList = [['a'], ['b']]
      ∧ format {} (betweenEnds " ") = "a\n\nb\n"
      ∧ format {} (betweenEnds "") = "a\nb\n"
      ∧ format {} (betweenEnds " ") ≠ format {} (betweenEnds "") := by
  -- the edit takes one space off a line, which leaves the line ends on either side adjacent
  have hedit : LineEdit [['a'], [' '], ['b']] [['a'], [], ['b']] :=
    .within [['a']] [['b']] (@LocalEdit.edges [] [] [' '] (by decide) (by decide))
  have hparted : format {} (betweenEnds " ") = "a\n\nb\n" := by decide +kernel
  have hjoined : format {} (betweenEnds "") = "a\nb\n" := by decide +kernel
  refine ⟨by decide +kernel, hedit, by decide +kernel, hparted, hjoined, ?_⟩
  rw [hparted, hjoined]
  decide

/-! ## A source that is edited -/

/-- An edit of the lines into which two sources are cut. -/
theorem SourceEdit.of_lines {source other : String} {first second : List (List Char)}
    (hsource : Text.lines source.toList = first) (hother : Text.lines other.toList = second)
    (h : LineEdit first second) : SourceEdit source other :=
  .lines (Text.isWritten_iff.mpr hsource) (Text.isWritten_iff.mpr hother) h

/-- A source on few lines. -/
def crowdedShop : String := "/// Doc.\r\n\r\nclass Shop \x7b\tstring s  = @\"a  \x7b\"; \x7d"

/-- The same source spread over more lines; only its literal keeps its white space. -/
def spreadShop : String := "/// Doc.\nclass Shop\n \x7b\tstring s = @\"a  \x7b\"; \n\x7d\n"

theorem format_crowdedShop :
    Relation.EqvGen SourceEdit crowdedShop spreadShop ∧
      format { useTabs := true, newline := .crlf } crowdedShop
        = format { useTabs := true, newline := .crlf } spreadShop := by
  have hdoc : SourceEdit crowdedShop
      "/// Doc.\nclass Shop \x7b\tstring s  = @\"a  \x7b\"; \x7d" :=
    .of_lines (by decide +kernel) (by decide +kernel) <|
      .within [] ["class Shop \x7b\tstring s  = @\"a  \x7b\"; \x7d".toList]
        (@LocalEdit.behindDoc [] " Doc.".toList [[]] (by decide) (by decide))
  have hopen : SourceEdit "/// Doc.\nclass Shop \x7b\tstring s  = @\"a  \x7b\"; \x7d"
      "/// Doc.\nclass Shop\n \x7b\tstring s  = @\"a  \x7b\"; \x7d" :=
    .of_lines (by decide +kernel) (by decide +kernel) <|
      .within ["/// Doc.".toList] []
        (@LocalEdit.breakBefore "class Shop".toList [' '] openBrace
          "\tstring s  = @\"a  \x7b\"; \x7d".toList (by decide) (by decide) (by decide) (Or.inl rfl))
  have hgap : SourceEdit "/// Doc.\nclass Shop\n \x7b\tstring s  = @\"a  \x7b\"; \x7d"
      "/// Doc.\nclass Shop\n \x7b\tstring s = @\"a  \x7b\"; \x7d" :=
    .of_lines (by decide +kernel) (by decide +kernel) <|
      .within ["/// Doc.".toList, "class Shop".toList] []
        (@LocalEdit.gap " \x7b\tstring s".toList "  ".toList " ".toList
          "= @\"a  \x7b\"; \x7d".toList (by decide) (by decide) (by decide))
  have hclose : SourceEdit "/// Doc.\nclass Shop\n \x7b\tstring s = @\"a  \x7b\"; \x7d"
      "/// Doc.\nclass Shop\n \x7b\tstring s = @\"a  \x7b\"; \n\x7d" :=
    .of_lines (by decide +kernel) (by decide +kernel) <|
      .within ["/// Doc.".toList, "class Shop".toList] []
        (@LocalEdit.breakBefore " \x7b\tstring s = @\"a  \x7b\"; ".toList [] closeBrace []
          (by decide) (by decide) (by decide) (Or.inr rfl))
  -- the last edit is made on the other source: its blank line at the end goes
  have hend : SourceEdit spreadShop
      "/// Doc.\nclass Shop\n \x7b\tstring s = @\"a  \x7b\"; \n\x7d" :=
    .of_lines (by decide +kernel) (by decide +kernel) <|
      @LineEdit.atEnd
        ["/// Doc.".toList, "class Shop".toList, " \x7b\tstring s = @\"a  \x7b\"; ".toList,
          [closeBrace]] [[]] (by decide)
  have hedits : Relation.EqvGen SourceEdit crowdedShop spreadShop :=
    ((((Relation.EqvGen.rel _ _ hdoc).trans _ _ _ (.rel _ _ hopen)).trans _ _ _
      (.rel _ _ hgap)).trans _ _ _ (.rel _ _ hclose)).trans _ _ _ (.symm _ _ (.rel _ _ hend))
  exact ⟨hedits, format_eq_of_edits _ hedits⟩

end Scaffold.Layout
