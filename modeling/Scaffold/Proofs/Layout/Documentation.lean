import Scaffold.Proofs.Layout.Composition
import Scaffold.Proofs.Layout.NormalForm

/-!
# Lines of documentation

Layout takes a line for documentation when three slashes start it. Such a line is one comment, so
layout leaves it whole, and nothing else on a line is ever taken for one.

* **`isInert_iff`**: a line is cut into documentation and blank lines alone just when it is blank or
  three slashes start it.
* **`strays`**: the lines that are neither, which survive tidying and indentation.
* **`outputLines_docs_append_iff`**: lines before a source are documentation in its output just when
  there are no strays among them.
-/

namespace Scaffold.Layout

/-! ## Comments -/

/-- A line of documentation is a comment. -/
theorem startsComment_of_isDocLine {line : List Char} (h : isDocLine line = true) :
    startsComment line = true := by
  obtain ⟨rest, rfl⟩ := isDocLine_iff.mp h
  rfl

/-- White space at the end does not count. -/
theorem isDocLine_trimEnd (line : List Char) : isDocLine (Text.trimEnd line) = isDocLine line := by
  rw [Bool.eq_iff_iff, isDocLine_iff, isDocLine_iff]
  constructor
  · rintro ⟨rest, hrest⟩
    obtain ⟨blanks, hline, -⟩ := Text.trimEnd_append_blanks line
    exact ⟨rest ++ blanks, by rw [hline, ← hrest, List.append_assoc]⟩
  · rintro ⟨rest, rfl⟩
    refine ⟨Text.trimEnd rest, ?_⟩
    show ['/', '/', '/'] ++ _ = Text.trimEnd ('/' :: '/' :: '/' :: rest)
    rw [Text.trimEnd_cons (by decide), Text.trimEnd_cons (by decide), Text.trimEnd_cons (by decide)]
    rfl

/-- The first token of a text is a comment only if the text is one. -/
theorem eq_trimEnd_of_lexFrom_comment {before cs chars : List Char} {c : Char} {spaced : Bool}
    {rest : List Lexeme} (hc : Text.isBlank c = false)
    (h : lexFrom before spaced (c :: cs) = ⟨spaced, .comment chars⟩ :: rest) :
    chars = Text.trimEnd (c :: cs) := by
  by_cases hstart : startsComment (c :: cs) = true
  · rw [lexFrom_comment hstart] at h
    exact (Token.comment.inj (token_eq_of_cons_eq h)).symm
  · -- all other texts start with another token
    rcases char_cases c with hblank | rfl | rfl | hquote | hword
    · rw [hc] at hblank
      exact absurd hblank (by decide)
    · rw [lexFrom_opening] at h
      exact absurd (token_eq_of_cons_eq h) (by simp)
    · rw [lexFrom_closing] at h
      exact absurd (token_eq_of_cons_eq h) (by simp)
    · rw [lexFrom_quote hquote] at h
      exact absurd (token_eq_of_cons_eq h) (by simp)
    · rw [lexFrom_word hword (by simpa using hstart)] at h
      exact absurd (token_eq_of_cons_eq h) (by simp)

/-! ## Lines that add nothing but documentation -/

/-- The line is blank, or three slashes start it. -/
def IsInert (line : List Char) : Prop :=
  line.dropWhile Text.isBlank = [] ∨ isDocLine (line.dropWhile Text.isBlank) = true
deriving Decidable

/-- White space at the start of a line makes no difference to its segments. -/
theorem segments_dropWhile (line : List Char) :
    segments line = segments (line.dropWhile Text.isBlank) := by
  have hblanks : ∀ c ∈ line.takeWhile Text.isBlank, Text.isBlank c = true :=
    fun c hc => List.mem_takeWhile_imp hc
  have hsplit := segments_blanks_append hblanks (line.dropWhile Text.isBlank)
  rwa [List.takeWhile_append_dropWhile] at hsplit

/-- The first segment of a line is documentation only if the line is. -/
theorem isDocLine_of_segments {c : Char} {cs : List Char} (hc : Text.isBlank c = false)
    {first : Line} {rest : List Line} (hsegments : segments (c :: cs) = first :: rest)
    (h : isDocLine first = true) : isDocLine (c :: cs) = true := by
  obtain ⟨token, lexemes, hlexemes⟩ := lexFrom_spaced hc [] cs
  have hlex : lex (c :: cs) = ⟨false, token⟩ :: lexemes := hlexemes false
  rcases segments_cases (c :: cs) with ⟨hnil, -⟩ | ⟨groups, hgroups, htokens, hlegible⟩
  · rw [hlex] at hnil
    exact absurd hnil (by simp)
  · obtain ⟨group, others, rfl, hspell, -⟩ := List.map_eq_cons_iff.mp (hgroups.symm.trans hsegments)
    -- the segment is read back as the group that it spells, and that is a single comment
    have hgroup : group = [⟨false, .comment (Text.trimEnd first)⟩] := by
      have hread : lex (spell group) = group := lexFrom_spell (hlegible group (by simp)).1
      rw [← hread, hspell]
      exact lexFrom_comment (startsComment_of_isDocLine h) [] false
    rw [hgroup, hlex, List.flatten_cons, List.singleton_append, tokensOf_cons,
      tokensOf_cons] at htokens
    obtain ⟨rfl, -⟩ := List.cons.inj htokens
    have hfirst : Text.trimEnd first = Text.trimEnd (c :: cs) := eq_trimEnd_of_lexFrom_comment hc hlex
    rw [← isDocLine_trimEnd, ← hfirst, isDocLine_trimEnd]
    exact h

/-- **A line is cut into documentation and blank lines alone** just when it is blank or three
slashes start it. -/
theorem isInert_iff (line : List Char) :
    IsInert line ↔ ∀ segment ∈ segments line, segment = [] ∨ isDocLine segment = true := by
  rw [segments_dropWhile, IsInert]
  cases hline : line.dropWhile Text.isBlank with
  | nil => simp [segments_nil]
  | cons c cs =>
    have hc : Text.isBlank c = false := by
      have hhead := List.head?_dropWhile_not Text.isBlank line
      rw [hline] at hhead
      simpa using hhead
    -- a line of documentation is cut into itself, and only such a line is
    constructor
    · intro hinert segment hsegment
      have hdoc : isDocLine (c :: cs) = true := hinert.resolve_left (List.cons_ne_nil c cs)
      rw [segments_comment (startsComment_of_isDocLine hdoc), List.mem_singleton] at hsegment
      rw [hsegment, isDocLine_trimEnd]
      exact Or.inr hdoc
    · intro hall
      obtain ⟨first, rest, hsegments⟩ := List.exists_cons_of_ne_nil (segments_ne_nil (c :: cs))
      have hshows : Shows (c :: cs) := ⟨c, List.mem_cons_self, hc⟩
      have hmem : first ∈ segments (c :: cs) := by simp [hsegments]
      have hdoc := (hall first hmem).resolve_left (hshows.ne_nil_of_mem_segments hmem)
      exact Or.inr (isDocLine_of_segments hc hsegments hdoc)

/-! ## Strays -/

/-- The line, if it is neither blank nor documentation. -/
def stray (line : Line) : List Line :=
  if line = [] ∨ isDocLine line = true then [] else [line]

/-- The lines that are neither blank nor documentation. -/
def strays (lines : List Line) : List Line :=
  lines.flatMap stray

theorem stray_nil : stray [] = [] := rfl

theorem strays_append (first second : List Line) :
    strays (first ++ second) = strays first ++ strays second :=
  List.flatMap_append

/-- Tidying neither makes nor drops what is no documentation. -/
theorem strays_tidy (lines : List Line) : strays (tidy lines) = strays lines :=
  flatMap_tidy stray stray_nil lines

/-- Nothing strays just if every line is blank or of documentation. -/
theorem strays_eq_nil_iff (lines : List Line) :
    strays lines = [] ↔ ∀ line ∈ lines, line = [] ∨ isDocLine line = true := by
  rw [strays, List.flatMap_eq_nil_iff]
  refine forall₂_congr fun line _ => ?_
  rw [stray]
  split
  next h => exact ⟨fun _ => h, fun _ => rfl⟩
  next h => exact ⟨fun hnil => absurd hnil (by simp), fun hline => absurd hline h⟩

/-- A source holds no strays just when each of its lines adds nothing but documentation. -/
theorem strays_cutLines_eq_nil_iff (source : List Char) :
    strays (cutLines source) = [] ↔ ∀ line ∈ Text.lines source, IsInert line := by
  rw [strays_eq_nil_iff]
  constructor
  · intro h line hline
    rw [isInert_iff]
    exact fun segment hsegment => h segment (List.mem_flatMap.mpr ⟨line, hline, hsegment⟩)
  · intro h segment hsegment
    obtain ⟨line, hline, hmem⟩ := List.mem_flatMap.mp hsegment
    exact (isInert_iff line).mp (h line hline) segment hmem

/-- At a line feed a source is cut apart. -/
theorem strays_cutLines_append_feed (first rest : List Char) :
    strays (cutLines (first ++ '\n' :: rest)) = strays (cutLines first) ++ strays (cutLines rest) :=
  flatMap_cutLines_append_feed stray stray_nil first rest

/-- Indentation does not hide a stray. -/
theorem dropWhile_indentLine (settings : LayoutSettings) (depth : Nat) {line : Line}
    (h : IsSettled line) : (indentLine settings.unit depth line).dropWhile Text.isBlank = line := by
  by_cases hline : line = []
  · subst hline
    rfl
  · have hnormal := (segments_eq_singleton_iff hline).mp h.segments_eq
    obtain ⟨c, cs, rfl⟩ := List.exists_cons_of_ne_nil hline
    have hc : Text.isBlank c = false := hnormal.head c rfl
    rw [indentLine, if_neg hline, List.dropWhile_append_of_pos fun d hd =>
      (isBlank_of_mem_indentation hd).1, List.dropWhile_cons_of_neg (by simp [hc])]

/-- Indentation does not change what strays. -/
theorem strays_indentFrom (settings : LayoutSettings) {lines : List Line}
    (h : ∀ line ∈ lines, IsSettled line) (depth : Nat) :
    strays ((indentFrom settings.unit depth lines).map (·.dropWhile Text.isBlank))
      = strays lines := by
  induction lines generalizing depth with
  | nil => rfl
  | cons line rest ih =>
    have hrest := ih (fun other hother => h other (List.mem_cons_of_mem line hother))
      (depthAfter depth line)
    rw [indentFrom, List.map_cons, dropWhile_indentLine settings _ (h line List.mem_cons_self)]
    show stray line ++ strays _ = stray line ++ strays rest
    rw [hrest]

/-- Documentation stands at the depth of what it documents, and changes none. -/
theorem indentFrom_docs_append (unit : List Char) {docs : List Line}
    (h : ∀ line ∈ docs, isDocLine line = true) (rest : List Line) :
    indentFrom unit 0 (docs ++ rest) = docs ++ indentFrom unit 0 rest := by
  induction docs with
  | nil => rfl
  | cons line docs ih =>
    obtain ⟨text, rfl⟩ := isDocLine_iff.mp (h line List.mem_cons_self)
    have hdocs := ih fun other hother => h other (List.mem_cons_of_mem _ hother)
    show _ :: indentFrom unit 0 (docs ++ rest) = _
    rw [hdocs]
    rfl

/-! ## Documentation before a source -/

/-- **Lines before a source are documentation in the output** just when there are no strays among
them: documentation is tidied and indented apart from what it documents, and a stray is seen as one
line more that is no documentation. -/
theorem outputLines_docs_append_iff (settings : LayoutSettings) {first : String}
    (hfirst : (cutLines first.toList).getLast? ≠ some []) (rest : String) :
    (∃ docs, (∀ line ∈ docs, isDocLine line = true)
        ∧ outputLines (format settings (first ++ "\n" ++ rest))
          = docs ++ outputLines (format settings rest))
      ↔ strays (cutLines first.toList) = [] := by
  have hlist : (first ++ "\n" ++ rest).toList = first.toList ++ '\n' :: rest.toList := by simp
  have hlayout : layoutLines (first ++ "\n" ++ rest).toList
      = tidy (cutLines first.toList ++ cutLines rest.toList) := by
    show tidy (cutLines _) = _
    rw [hlist, cutLines_append_feed hfirst]
  rw [outputLines_format, outputLines_format, hlayout]
  constructor
  · rintro ⟨docs, hdocs, heq⟩
    have hsettled : ∀ line ∈ tidy (cutLines first.toList ++ cutLines rest.toList),
        IsSettled line := by
      rw [← hlayout]
      exact fun _ hline => isSettled_of_mem_layoutLines hline
    -- both sides hold the same strays, and those of the source are on both of them
    have hstrays := congrArg (fun lines => strays (lines.map (·.dropWhile Text.isBlank))) heq
    have hnone : strays (docs.map (·.dropWhile Text.isBlank)) = [] := by
      rw [strays_eq_nil_iff]
      intro line hline
      obtain ⟨doc, hdoc, rfl⟩ := List.mem_map.mp hline
      obtain ⟨text, rfl⟩ := isDocLine_iff.mp (hdocs doc hdoc)
      exact Or.inr rfl
    simp only [List.map_append, strays_append, hnone, List.nil_append] at hstrays
    rw [strays_indentFrom settings hsettled, strays_tidy, strays_append,
      strays_indentFrom settings fun _ hline => isSettled_of_mem_layoutLines hline] at hstrays
    have hrest : strays (layoutLines rest.toList) = strays (cutLines rest.toList) :=
      strays_tidy (cutLines rest.toList)
    rw [hrest] at hstrays
    exact List.append_left_eq_self.mp hstrays
  · intro hnone
    have hinert := (strays_eq_nil_iff _).mp hnone
    have hdocs : ∀ line ∈ (cutLines first.toList).filter (· ≠ []), isDocLine line = true := by
      intro line hline
      obtain ⟨hmem, hne⟩ := List.mem_filter.mp hline
      exact (hinert line hmem).resolve_left (by simpa using hne)
    refine ⟨_, hdocs, ?_⟩
    rw [tidy_docs_append hinert, indentFrom_docs_append settings.unit hdocs]
    rfl

end Scaffold.Layout
