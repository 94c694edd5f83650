import Scaffold.Proofs.Layout.Composition
import Scaffold.Proofs.Layout.Position

/-!
# Lines cut in two

A brace is a segment of its own, or starts one, so a line may as well end before it. This module
moves what the reader of lines does at such a place to segments:

* **`segments_append_blanks`**: white space at the end of a line does not count.
* **`segments_append_gap`**: nor does what white space stands between two tokens, if some does.
* **`segments_append_brace`**: a line may end before a brace, if a token stands before it.
* **`segments_append_opening`**: it may end behind an opening brace, if a token follows.
-/

namespace Scaffold.Layout

/-! ## White space -/

/-- White space at the end of a line does not show in how the line is cut. -/
theorem segments_append_blanks {blanks : List Char} (h : ∀ c ∈ blanks, Text.isBlank c = true)
    (line : List Char) : segments (line ++ blanks) = segments line := by
  have hlex : lex (line ++ blanks) = lex line := lexFrom_append_blanks h [] false line
  rw [segments, segments, hlex]

/-- A line of white space is a blank one. -/
theorem segments_of_blank {line : List Char} (h : ∀ c ∈ line, Text.isBlank c = true) :
    segments line = [[]] :=
  segments_of_lex_nil (lexFrom_blanks h [] false)

/-- White space at the end leaves the text outside of literals and comments. -/
theorem EndsInCode.append_blanks {left blanks : List Char} (h : EndsInCode left)
    (hblanks : ∀ c ∈ blanks, Text.isBlank c = true) : EndsInCode (left ++ blanks) := by
  induction blanks generalizing left with
  | nil => rwa [List.append_nil]
  | cons c blanks ih =>
    -- a white character leaves the automaton in code, whatever word it had open
    obtain ⟨hword, hquote⟩ := startsApart_blank (hblanks c (by simp)) blanks c rfl
    have hother := Position.stepCode_other hword hquote
    have hnext : EndsInCode (left ++ [c]) := by
      unfold EndsInCode at h ⊢
      rw [Position.run_append]
      cases hrun : Position.run (.code []) left with
      | code word =>
        show (Position.stepCode word c).IsCode
        rw [hother word]
        exact trivial
      | doubling =>
        have hstep : Position.doubling.step c = Position.stepCode [] c := by
          refine if_neg ?_
          rintro rfl
          exact absurd hquote (by decide)
        show (Position.doubling.step c).IsCode
        rw [hstep, hother]
        exact trivial
      | escaped | taking | verbatim | comment =>
        rw [hrun] at h
        exact absurd h id
    rw [← List.singleton_append, ← List.append_assoc]
    exact ih hnext fun d hd => hblanks d (by simp [hd])

/-- Where a line breaks off in code, what follows is read on its own, if it starts a token of its
own. Only whether white space stands at the seam is carried over, in `spaced`. -/
theorem lex_append {left : List Char} (h : EndsInCode left) :
    ∃ spaced, ∀ right, StartsApart right → lex (left ++ right) = lex left ++ lexFrom [] spaced right :=
  lexFrom_append (Or.inl rfl) h false

/-- **What white space stands between two tokens does not count.** -/
theorem segments_append_gap {left : List Char} (hleft : EndsInCode left) {gap other : List Char}
    (hgap : gap ≠ [] ∧ ∀ c ∈ gap, Text.isBlank c = true)
    (hother : other ≠ [] ∧ ∀ c ∈ other, Text.isBlank c = true) (right : List Char) :
    segments (left ++ (gap ++ right)) = segments (left ++ (other ++ right)) := by
  obtain ⟨spaced, hlex⟩ := lex_append hleft
  -- all that is left of a run of white space is the flag on the token behind it
  have hread (blanks : List Char) (h : blanks ≠ [] ∧ ∀ c ∈ blanks, Text.isBlank c = true) :
      lex (left ++ (blanks ++ right)) = lex left ++ lexFrom [] true right := by
    obtain ⟨c, blanks, rfl⟩ := List.exists_cons_of_ne_nil h.1
    have hc := h.2 c (by simp)
    have hskip : lexFrom [] true (blanks ++ right) = lexFrom [] true right :=
      eq_of_blanks_append (fun _ line hd => lexFrom_blank hd [] true line)
        (fun d hd => h.2 d (by simp [hd])) right
    rw [List.cons_append, hlex _ (startsApart_blank hc _), lexFrom_blank hc, hskip]
  rw [segments, segments, hread gap hgap, hread other hother]

/-! ## Braces -/

/-- A brace ends the open segment. Induction on the lexemes before it. -/
theorem segmentsFrom_append_brace {token : Token} (htoken : token.isBrace = true) (current : Line)
    (first : List Lexeme) (spaced : Bool) (rest : List Lexeme) :
    segmentsFrom current (first ++ ⟨spaced, token⟩ :: rest)
      = segmentsFrom current first ++ segmentsFrom [] (⟨false, token⟩ :: rest) := by
  induction first generalizing current with
  -- nothing is open here but `current`, which the brace closes
  | nil =>
    cases token with
    | opening | closing => rfl
    | literal | comment | word => exact absurd htoken (by simp [Token.isBrace])
  | cons lexeme first ih =>
    obtain ⟨before, other⟩ := lexeme
    rw [List.cons_append]
    cases hother : other.isBrace with
    | true =>
      cases other with
      | opening => rw [segmentsFrom_opening, segmentsFrom_opening, ih, List.append_assoc,
          List.cons_append]
      | closing => rw [segmentsFrom_closing, segmentsFrom_closing, ih, List.append_assoc]
      | literal | comment | word => exact absurd hother (by simp [Token.isBrace])
    | false =>
      rw [segmentsFrom_other hother, segmentsFrom_other hother]
      split
      · rw [ih, List.cons_append]
      · exact ih _

/-- A brace is read as a token of its own. -/
theorem lexFrom_brace {c : Char} (hc : c = openBrace ∨ c = closeBrace) :
    ∃ token : Token, token.isBrace = true ∧ ∀ spaced cs,
      lexFrom [] spaced (c :: cs) = ⟨spaced, token⟩ :: lexFrom [] false cs := by
  rcases hc with rfl | rfl
  · exact ⟨.opening, rfl, fun spaced cs => lexFrom_opening [] spaced cs⟩
  · exact ⟨.closing, rfl, fun spaced cs => lexFrom_closing [] spaced cs⟩

/-- A brace starts a token of its own, whatever stands before it. -/
theorem startsApart_brace {c : Char} (hc : c = openBrace ∨ c = closeBrace) (cs : List Char) :
    StartsApart (c :: cs) := by
  intro d hd
  obtain rfl := Option.mem_some.mp hd
  rcases hc with rfl | rfl <;> decide

/-- **A line may end before a brace**, if a token stands before it. -/
theorem segments_append_brace {left : List Char} (hleft : EndsInCode left) (hshows : Shows left)
    {c : Char} (hc : c = openBrace ∨ c = closeBrace) (right : List Char) :
    segments (left ++ c :: right) = segments left ++ segments (c :: right) := by
  obtain ⟨spaced, hlex⟩ := lex_append hleft
  obtain ⟨token, htoken, hbrace⟩ := lexFrom_brace hc
  have hall : lex (left ++ c :: right) = lex left ++ ⟨spaced, token⟩ :: lexFrom [] false right := by
    rw [hlex _ (startsApart_brace hc right), hbrace]
  rw [segments_of_lex hall (by simp), segments_of_lex rfl hshows.lex_ne_nil,
    segments_of_lex (hbrace false right) (by simp), segmentsFrom_append_brace htoken]

/-- **A line may end behind an opening brace**, if a token follows. -/
theorem segments_append_opening {left : List Char} (hleft : EndsInCode left) {right : List Char}
    (hshows : Shows right) :
    segments (left ++ openBrace :: right) = segments (left ++ [openBrace]) ++ segments right := by
  obtain ⟨spaced, hlex⟩ := lex_append hleft
  -- the brace is a token of its own, so both sides of it are read apart
  have hread (cs : List Char) :
      lex (left ++ openBrace :: cs) = lex left ++ ⟨spaced, .opening⟩ :: lex cs := by
    rw [hlex _ (startsApart_brace (Or.inl rfl) cs), lexFrom_opening]
    rfl
  have hcut (cs : List Char) :
      segments (left ++ openBrace :: cs)
        = segmentsFrom [] (lex left) ++ [openBrace] :: segmentsFrom [] (lex cs) := by
    rw [segments_of_lex (hread cs) (by simp), segmentsFrom_append_brace rfl, segmentsFrom_opening]
    rfl
  have hnil : segmentsFrom [] (lex []) = [] := by
    rw [lex, lexFrom_nil]
    rfl
  rw [hcut right, hcut [], hnil, segments_of_lex rfl hshows.lex_ne_nil, List.append_assoc,
    List.cons_append, List.nil_append]

/-- A line that starts with a closing brace is cut into segments the first of which does. -/
theorem segments_closing_cons (rest : List Char) :
    ∃ segment others, segments (closeBrace :: rest) = segment :: others
      ∧ closesBlock segment = true := by
  obtain ⟨segment, others, hcut, tail, rfl⟩ :=
    exists_segmentsFrom_cons (List.cons_ne_nil closeBrace []) (lexFrom [] false rest)
  have hlex : lex (closeBrace :: rest) = ⟨false, .closing⟩ :: lexFrom [] false rest :=
    lexFrom_closing [] false rest
  exact ⟨_, others, by rw [segments_of_lex hlex (by simp), ← hcut]; rfl, rfl⟩

/-- A line that starts with three slashes is one segment, and documentation. -/
theorem segments_doc (rest : List Char) :
    ∃ segment, segments ('/' :: '/' :: '/' :: rest) = [segment] ∧ isDocLine segment = true := by
  have hslash : Text.isBlank '/' = false := by decide
  refine ⟨_, segments_comment rfl, ?_⟩
  rw [Text.trimEnd_cons hslash, Text.trimEnd_cons hslash, Text.trimEnd_cons hslash]
  rfl

end Scaffold.Layout
