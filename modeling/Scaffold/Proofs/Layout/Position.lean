import Scaffold.Proofs.Layout.Spelling

/-!
# Positions outside of literals and comments

Whether a place on a line lies in a literal or a comment is decided by the characters before it.
`Position` is what has to be remembered of them, one character at a time and without cutting
anything off; it knows nothing of tokens. The reader of lines agrees with it:

* **`lexFrom_append`**: where a line is cut outside of literals and comments, and what follows
  cannot belong to a word, the reader reads both parts as it reads each alone.
* **`lexFrom_append_blanks`**: white space at the end of a line is not read at all, also where a
  literal is still open or a comment stands before it.
-/

namespace Scaffold.Layout

/-! ## Positions -/

/-- A place on a line, as the characters before it leave it. -/
inductive Position where
  /-- Outside of literals and comments, right behind the given word. -/
  | code (word : List Char)
  /-- In a literal that the given quote closes. -/
  | escaped (quote : Char)
  /-- In such a literal, right behind a backslash. -/
  | taking (quote : Char)
  | verbatim
  /-- Behind a double quote in a verbatim literal, which closes it unless another one follows. -/
  | doubling
  | comment
deriving DecidableEq

/-- Behind the quote that opens a literal. -/
def Quoting.start : Quoting → Position
  | .escaped quote => .escaped quote
  | .verbatim => .verbatim

/-- The position behind a character that stands outside of literals and comments. -/
def Position.stepCode (word : List Char) (c : Char) : Position :=
  if isQuote c then (Quoting.ofOpening word c).start
  else if isWordChar c then
    if c = '/' ∧ word.getLast? = some '/' then .comment else .code (word ++ [c])
  else .code []

/-- The position behind the next character. -/
def Position.step : Position → Char → Position
  | .code word, c => stepCode word c
  | .escaped quote, c =>
    if c = '\\' then .taking quote else if c = quote then .code [] else .escaped quote
  | .taking quote, _ => .escaped quote
  | .verbatim, c => if c = '"' then .doubling else .verbatim
  | .doubling, c => if c = '"' then .verbatim else stepCode [] c
  | .comment, _ => .comment

/-- The position behind a text. -/
def Position.run (position : Position) (cs : List Char) : Position :=
  cs.foldl Position.step position

/-- No literal is open, and no comment. -/
def Position.IsCode : Position → Prop
  | .code _ => True
  | .doubling => True
  | _ => False

instance : DecidablePred Position.IsCode := by
  intro position
  cases position <;> unfold Position.IsCode <;> infer_instance

/-- The text ends outside of literals and comments, where it is the start of a line. -/
def EndsInCode (cs : List Char) : Prop :=
  (Position.run (.code []) cs).IsCode

instance (cs : List Char) : Decidable (EndsInCode cs) := by
  unfold EndsInCode
  infer_instance

@[simp] theorem Position.run_nil (position : Position) : position.run [] = position := rfl

@[simp] theorem Position.run_cons (position : Position) (c : Char) (cs : List Char) :
    position.run (c :: cs) = (position.step c).run cs := rfl

/-- The position behind two texts is that behind the second, from where the first has led. -/
theorem Position.run_append (position : Position) (first second : List Char) :
    position.run (first ++ second) = (position.run first).run second :=
  List.foldl_append

theorem Position.stepCode_quote {c : Char} (hc : isQuote c = true) (word : List Char) :
    Position.stepCode word c = (Quoting.ofOpening word c).start := by
  rw [Position.stepCode, if_pos hc]

/-- A character of no word and no literal leaves nothing to remember. -/
theorem Position.stepCode_other {c : Char} (hword : isWordChar c = false) (hquote : isQuote c = false)
    (word : List Char) : Position.stepCode word c = .code [] := by
  rw [Position.stepCode, if_neg (by simp [hquote]), if_neg (by simp [hword])]

/-- A comment goes on to the end. -/
theorem Position.run_comment (cs : List Char) : Position.comment.run cs = .comment := by
  induction cs with
  | nil => rfl
  | cons c cs ih => exact ih

/-- Two slashes start a comment, whatever stands before them. -/
theorem Position.run_code_comment {cs : List Char} (h : startsComment cs = true)
    (word : List Char) : (Position.code word).run cs = .comment := by
  obtain ⟨tail, rfl⟩ := startsComment_iff.mp h
  have hslash : isWordChar '/' = true := by decide
  have hquote : isQuote '/' = false := by decide
  by_cases hword : word.getLast? = some '/'
  · -- the first slash makes a comment together with the word
    have hstep : Position.stepCode word '/' = .comment := by
      rw [Position.stepCode, if_neg (by simp [hquote]), if_pos hslash, if_pos ⟨rfl, hword⟩]
    rw [Position.run_cons, Position.step, hstep, Position.run_comment]
  · have hstep : Position.stepCode word '/' = .code (word ++ ['/']) := by
      rw [Position.stepCode, if_neg (by simp [hquote]), if_pos hslash, if_neg fun h => hword h.2]
    have hnext : Position.stepCode (word ++ ['/']) '/' = .comment := by
      rw [Position.stepCode, if_neg (by simp [hquote]), if_pos hslash,
        if_pos ⟨rfl, List.getLast?_concat⟩]
    rw [Position.run_cons, Position.step, hstep, Position.run_cons, Position.step, hnext,
      Position.run_comment]

/-! ## Words -/

/-- What is left of a word is a word. -/
theorem IsWord.right {first second : List Char} (h : IsWord (first ++ second)) : IsWord second := by
  induction first with
  | nil => exact h
  | cons c cs ih => exact ih (isWord_cons_iff.mp h).2.2

/-- A word is remembered as a whole. Induction along what is still to come of it. -/
theorem Position.run_word {before word : List Char} (h : IsWord (before ++ word)) :
    (Position.code before).run word = .code (before ++ word) := by
  induction word generalizing before with
  | nil => rw [List.append_nil, Position.run_nil]
  | cons c cs ih =>
    have hc : isWordChar c = true := h.isWordChar_of_mem (by simp)
    have hquote : isQuote c = false := (isWordChar_iff.mp hc).2.2.2
    -- two slashes in a row would have ended the word
    have hslash : ¬(c = '/' ∧ before.getLast? = some '/') := by
      rintro ⟨rfl, hlast⟩
      obtain ⟨init, rfl⟩ := List.getLast?_eq_some_iff.mp hlast
      rw [List.append_assoc] at h
      exact absurd (isWord_cons_iff.mp h.right).2.1 (by simp [startsComment])
    have hstep : Position.stepCode before c = .code (before ++ [c]) := by
      rw [Position.stepCode, if_neg (by simp [hquote]), if_pos hc, if_neg hslash]
    have hrest : IsWord ((before ++ [c]) ++ cs) := by
      rwa [List.append_assoc, List.singleton_append]
    rw [Position.run_cons, Position.step, hstep, ih hrest, List.append_assoc, List.singleton_append]

/-! ## Literals -/

/-- Behind its opening quote a text closes the literal, and what is left ends outside of literals
and comments. -/
def Quoting.Leaves (quoting : Quoting) (cs : List Char) : Prop :=
  ∃ body rest, cs = body ++ rest ∧ quoting.Closes body ∧ quoting.Spares rest ∧ EndsInCode rest

/-- A character that a literal passes over can be put in front. -/
theorem Quoting.Leaves.cons {quoting : Quoting} {c : Char} {cs : List Char}
    (hclose : ∀ rest, quoting.close (c :: rest) = consFst c (quoting.close rest))
    (h : quoting.Leaves cs) : quoting.Leaves (c :: cs) := by
  obtain ⟨body, rest, rfl, hbody, hrest⟩ := h
  exact ⟨c :: body, rest, rfl, hbody.cons fun rest => hclose _, hrest⟩

theorem Quoting.Leaves.cons_cons {quoting : Quoting} {c d : Char} {cs : List Char}
    (hclose : ∀ rest, quoting.close (c :: d :: rest) = consFst c (consFst d (quoting.close rest)))
    (h : quoting.Leaves cs) : quoting.Leaves (c :: d :: cs) := by
  obtain ⟨body, rest, rfl, hbody, hrest⟩ := h
  exact ⟨c :: d :: body, rest, rfl, hbody.cons_cons hclose, hrest⟩

/-- An escaped literal that a text leaves is closed in it. Induction along the reader. -/
theorem leaves_escaped {quote : Char} (hquote : quote ≠ '\\') {cs : List Char}
    (h : ((Position.escaped quote).run cs).IsCode) : (Quoting.escaped quote).Leaves cs := by
  fun_induction closeEscaped quote cs with
  | case1 => exact absurd h id
  | case2 c cs ih => exact (ih h).cons_cons fun rest => closeEscaped_escape quote c rest
  | case3 cs _ =>
    have hstep : (Position.escaped quote).step quote = .code [] := by
      rw [Position.step, if_neg hquote, if_pos rfl]
    rw [Position.run_cons, hstep] at h
    refine ⟨[quote], cs, rfl, ⟨fun rest _ => ?_, rfl⟩, Quoting.spares_escaped quote cs, h⟩
    exact closeEscaped_quote hquote rest
  | case4 c cs hescape hc ih =>
    by_cases hbackslash : c = '\\'
    · subst hbackslash
      -- a backslash that ends the line takes nothing with it, and leaves the literal open
      cases cs with
      | nil => exact absurd h id
      | cons d ds => exact absurd rfl (hescape d ds rfl)
    · have hstep : (Position.escaped quote).step c = .escaped quote := by
        rw [Position.step, if_neg hbackslash, if_neg hc]
      rw [Position.run_cons, hstep] at h
      exact (ih h).cons fun rest => closeEscaped_other hc hbackslash rest

/-- A verbatim literal that a text leaves is closed in it. Induction along the reader. -/
theorem leaves_verbatim {cs : List Char} (h : (Position.verbatim.run cs).IsCode) :
    Quoting.verbatim.Leaves cs := by
  fun_induction closeVerbatim cs with
  | case1 => exact absurd h id
  | case2 cs ih => exact (ih h).cons_cons closeVerbatim_doubled
  | case3 cs hdoubled =>
    have hcs : cs.head? ≠ some '"' := by
      intro hhead
      obtain ⟨rest, rfl⟩ := List.head?_eq_some_iff.mp hhead
      exact hdoubled rest rfl rfl
    -- what follows the quote cannot take it back, so it is read as behind any other character
    have hcode : EndsInCode cs := by
      cases cs with
      | nil => exact trivial
      | cons d ds =>
        have hd : d ≠ '"' := by simpa using hcs
        have hstep : Position.doubling.step d = (Position.code []).step d := if_neg hd
        rw [EndsInCode, Position.run_cons, ← hstep]
        exact h
    refine ⟨['"'], cs, rfl, ⟨fun rest hrest => ?_, rfl⟩, fun _ => hcs, hcode⟩
    exact closeVerbatim_quote (hrest rfl)
  | case4 c cs _ hc ih =>
    have hstep : Position.verbatim.step c = .verbatim := if_neg hc
    rw [Position.run_cons, hstep] at h
    exact (ih h).cons fun rest => closeVerbatim_other hc rest

/-- **A literal that a text leaves is closed in it.** -/
theorem Quoting.leaves_of_isCode {quoting : Quoting} (hquote : isQuote quoting.quote = true)
    {cs : List Char} (h : (quoting.start.run cs).IsCode) : quoting.Leaves cs := by
  cases quoting with
  | escaped quote => exact leaves_escaped (ne_backslash_of_isQuote hquote) h
  | verbatim => exact leaves_verbatim h

/-! ## Texts apart from what stands before them -/

/-- The text starts with white space or a brace, or is empty: it continues no word, and no literal
starts with it. -/
def StartsApart (cs : List Char) : Prop :=
  ∀ c ∈ cs.head?, isWordChar c = false ∧ isQuote c = false

/-- White space stands apart from whatever is before it. -/
theorem startsApart_blank {c : Char} (hc : Text.isBlank c = true) (cs : List Char) :
    StartsApart (c :: cs) := by
  intro d hd
  obtain rfl := Option.mem_some.mp hd
  refine ⟨by simp [isWordChar, hc], ?_⟩
  rw [← Bool.not_eq_true]
  intro hquote
  rw [isBlank_of_isQuote hquote] at hc
  exact absurd hc (by decide)

theorem StartsApart.ne_slash {cs : List Char} (h : StartsApart cs) : cs.head? ≠ some '/' := by
  intro hhead
  exact absurd (h '/' hhead).1 (by decide)

/-- What stands apart ends every word. -/
theorem StartsApart.endsWord {cs : List Char} (h : StartsApart cs) : EndsWord cs := by
  cases cs with
  | nil => exact endsWord_nil
  | cons c cs => exact endsWord_of_not_isWordChar (h c rfl).1 cs

/-- Nor does it keep a literal open. -/
theorem StartsApart.spares {cs : List Char} (h : StartsApart cs) (quoting : Quoting) :
    quoting.Spares cs := by
  intro _ hhead
  exact absurd (h '"' hhead).2 (by decide)

/-- No comment starts at the seam. -/
theorem startsComment_append_apart {right : List Char} (h : StartsApart right) (c : Char)
    (cs : List Char) : startsComment (c :: cs ++ right) = startsComment (c :: cs) := by
  rw [Bool.eq_iff_iff, startsComment_iff, startsComment_iff]
  cases cs with
  | nil =>
    -- a lone slash finds no other one behind it
    have hhead := h.ne_slash
    constructor
    · rintro ⟨rest, hrest⟩
      have hright : right = '/' :: rest := (List.cons.inj hrest).2
      exact absurd (congrArg List.head? hright) hhead
    · simp
  | cons d ds => simp

/-- A word is cut off alike with such text behind it. -/
theorem takeWord_append_apart {right : List Char} (h : StartsApart right) (cs : List Char) :
    takeWord (cs ++ right) = ((takeWord cs).1, (takeWord cs).2 ++ right) := by
  induction cs with
  | nil => exact h.endsWord
  | cons c cs ih =>
    have hstart := startsComment_append_apart h c cs
    rw [List.cons_append] at hstart ⊢
    rw [takeWord, takeWord, hstart]
    split
    · rw [ih]
      rfl
    · rfl

/-- The word before a text that starts apart makes no difference. -/
theorem StartsApart.lexFrom_eq {cs : List Char} (h : StartsApart cs) (before : List Char)
    (spaced : Bool) : lexFrom before spaced cs = lexFrom [] spaced cs := by
  cases cs with
  | nil => rw [lexFrom_nil, lexFrom_nil]
  | cons c cs =>
    obtain ⟨hword, hquote⟩ := h c rfl
    -- the text starts with white space or a brace, and neither looks at what is before it
    rcases char_cases c with hc | rfl | rfl | hc | hc
    · rw [lexFrom_blank hc, lexFrom_blank hc]
    · rw [lexFrom_opening, lexFrom_opening]
    · rw [lexFrom_closing, lexFrom_closing]
    · rw [hquote] at hc
      exact absurd hc (by decide)
    · rw [hword] at hc
      exact absurd hc (by decide)

/-! ## Reading a line in two parts -/

/-- **The reader of lines can be stopped anywhere outside of literals and comments.** The second
part learns from the first one at most that white space stands before it. Induction along the
reader, which between two tokens is outside of literals and comments as well. -/
theorem lexFrom_append {before left : List Char} (hbefore : before = [] ∨ EndsWord left)
    (hleft : ((Position.code before).run left).IsCode) (spaced : Bool) :
    ∃ spaced', ∀ right, StartsApart right →
      lexFrom before spaced (left ++ right)
        = lexFrom before spaced left ++ lexFrom [] spaced' right := by
  fun_induction lexFrom before spaced left with
  | case1 before spaced =>
    exact ⟨spaced, fun right hright => hright.lexFrom_eq before spaced⟩
  | case2 before spaced c cs hc ih =>
    have hapart := startsApart_blank hc cs c rfl
    rw [Position.run_cons, Position.step, Position.stepCode_other hapart.1 hapart.2] at hleft
    obtain ⟨spaced', h⟩ := ih (Or.inl rfl) hleft
    refine ⟨spaced', fun right hright => ?_⟩
    rw [List.cons_append, lexFrom_blank hc]
    exact h right hright
  | case3 before spaced cs _ ih =>
    obtain ⟨spaced', h⟩ := ih (Or.inl rfl) hleft
    refine ⟨spaced', fun right hright => ?_⟩
    rw [List.cons_append, lexFrom_opening, h right hright, List.cons_append]
  | case4 before spaced cs _ _ ih =>
    obtain ⟨spaced', h⟩ := ih (Or.inl rfl) hleft
    refine ⟨spaced', fun right hright => ?_⟩
    rw [List.cons_append, lexFrom_closing, h right hright, List.cons_append]
  | case5 before spaced c cs _ _ _ hc parts =>
    rename_i ih
    rw [Position.run_cons, Position.step, Position.stepCode_quote hc] at hleft
    have hquote : isQuote (Quoting.ofOpening before c).quote = true := by
      rwa [Quoting.quote_ofOpening]
    obtain ⟨body, rest, rfl, hbody, hspares, hrest⟩ := Quoting.leaves_of_isCode hquote hleft
    have hparts : parts = (body, rest) := hbody.close_append rest hspares
    rw [hparts] at ih ⊢
    obtain ⟨spaced', h⟩ := ih (Or.inl rfl) hrest
    refine ⟨spaced', fun right hright => ?_⟩
    -- the literal is closed in the first part, and nothing behind the seam takes that back
    have hlong : (Quoting.ofOpening before c).Spares (rest ++ right) := by
      cases rest with
      | nil => exact hright.spares _
      | cons d ds => exact hspares
    rw [List.cons_append, List.append_assoc, lexFrom_quote hc, hbody.close_append _ hlong,
      h right hright, List.cons_append]
  | case6 before spaced c cs _ _ _ _ hstart =>
    rw [Position.run_code_comment hstart] at hleft
    exact absurd hleft id
  | case7 before spaced c cs hblank hopen hclose hquote hstart parts ih =>
    have hstart : startsComment (c :: cs) = false := by simpa using hstart
    have hword : isWordChar c = true := by
      rw [isWordChar_iff]
      simp_all
    -- a word starts here, so none stands right before
    have hnil : before = [] := by
      refine hbefore.resolve_right fun hends => ?_
      rcases hends.head with h | h
      · exact absurd (hword.symm.trans h) (by decide)
      · exact absurd (hstart.symm.trans h) (by decide)
    subst hnil
    have hisWord : IsWord ([] ++ c :: (takeWord cs).1) :=
      isWord_cons_iff.mpr ⟨hword, startsComment_cons_takeWord hstart, isWord_takeWord_fst cs⟩
    rw [← takeWord_append_takeWord cs, ← List.cons_append, Position.run_append,
      Position.run_word hisWord] at hleft
    obtain ⟨spaced', h⟩ := ih (Or.inr (endsWord_takeWord_snd cs)) hleft
    refine ⟨spaced', fun right hright => ?_⟩
    have hnone : startsComment (c :: (cs ++ right)) = false := by
      rw [← List.cons_append, startsComment_append_apart hright, hstart]
    rw [List.cons_append, lexFrom_word hword hnone, takeWord_append_apart hright,
      h right hright, List.cons_append]

/-! ## White space at the end of a line -/

/-- White space holds no tokens. -/
theorem lexFrom_blanks {blanks : List Char} (h : ∀ c ∈ blanks, Text.isBlank c = true)
    (before : List Char) (spaced : Bool) : lexFrom before spaced blanks = [] := by
  induction blanks generalizing before spaced with
  | nil => rw [lexFrom_nil]
  | cons c blanks ih =>
    rw [lexFrom_blank (h c (by simp))]
    exact ih (fun d hd => h d (by simp [hd])) [] true

/-- White space behind a closed literal is left over; behind one that is open it belongs to it. -/
theorem Quoting.close_append_blanks {quoting : Quoting} (hquote : isQuote quoting.quote = true)
    {blanks : List Char} (h : ∀ c ∈ blanks, Text.isBlank c = true) (cs : List Char) :
    quoting.close (cs ++ blanks) = ((quoting.close cs).1, (quoting.close cs).2 ++ blanks)
      ∨ quoting.close cs = (cs, []) ∧ quoting.close (cs ++ blanks) = (cs ++ blanks, []) := by
  rcases Quoting.close_cases hquote (cs ++ blanks) with ⟨body, rest, hcut, hbody, hrest⟩ | hopen
  · refine Or.inl ?_
    have hlong : quoting.close (cs ++ blanks) = (body, rest) := by
      rw [hcut, hbody.close_append rest hrest]
    -- the closing quote shows, so it does not stand in the white space
    obtain ⟨left, rfl, rfl⟩ : ∃ left, cs = body ++ left ∧ rest = left ++ blanks := by
      rcases List.append_eq_append_iff.mp hcut with ⟨more, rfl, hblanks⟩ | ⟨left, hcs, hrest⟩
      · rcases List.eq_nil_or_concat more with rfl | ⟨init, last, rfl⟩
        · exact ⟨[], by simp, by simpa using hblanks.symm⟩
        · have hlast := hbody.getLast?_eq
          rw [List.concat_eq_append, ← List.append_assoc, List.getLast?_concat,
            Option.some.injEq] at hlast
          have hshows := isBlank_of_isQuote (hlast ▸ hquote)
          rw [h last (by simp [hblanks])] at hshows
          exact absurd hshows (by decide)
      · exact ⟨left, hcs, hrest⟩
    have hspares : quoting.Spares left := by
      cases left with
      | nil => exact quoting.spares_nil
      | cons d ds => exact hrest
    rw [hlong, hbody.close_append left hspares]
  · exact Or.inr ⟨Quoting.close_of_append_blanks hquote h hopen, hopen⟩

/-- **White space at the end of a line is not read.** Induction along the reader. -/
theorem lexFrom_append_blanks {blanks : List Char} (h : ∀ c ∈ blanks, Text.isBlank c = true)
    (before : List Char) (spaced : Bool) (cs : List Char) :
    lexFrom before spaced (cs ++ blanks) = lexFrom before spaced cs := by
  have hapart : StartsApart blanks := by
    cases blanks with
    | nil => exact nofun
    | cons c blanks => exact startsApart_blank (h c (by simp)) blanks
  fun_induction lexFrom before spaced cs with
  | case1 => exact lexFrom_blanks h _ _
  | case2 before spaced c cs hc ih => rw [List.cons_append, lexFrom_blank hc, ih]
  | case3 before spaced cs _ ih => rw [List.cons_append, lexFrom_opening, ih]
  | case4 before spaced cs _ _ ih => rw [List.cons_append, lexFrom_closing, ih]
  | case5 before spaced c cs _ _ _ hc parts =>
    rename_i ih
    have hquote : isQuote (Quoting.ofOpening before c).quote = true := by
      rwa [Quoting.quote_ofOpening]
    rw [List.cons_append, lexFrom_quote hc]
    rcases Quoting.close_append_blanks hquote h cs with hclose | ⟨hopen, hlong⟩
    · rw [hclose, ih]
    · -- an open literal takes the white space with it, and is trimmed
      have hparts : parts = (cs, []) := hopen
      rw [hlong, hparts, lexFrom_nil, ← List.cons_append, Text.trimEnd_append_of_blank _ h]
  | case6 before spaced c cs _ _ _ _ hstart =>
    have hlong : startsComment (c :: cs ++ blanks) = true := startsComment_append hstart blanks
    rw [lexFrom_comment hlong, Text.trimEnd_append_of_blank _ h]
  | case7 before spaced c cs hblank hopen hclose hquote hstart parts ih =>
    have hstart : startsComment (c :: cs) = false := by simpa using hstart
    have hword : isWordChar c = true := by
      rw [isWordChar_iff]
      simp_all
    have hnone : startsComment (c :: (cs ++ blanks)) = false := by
      rw [← List.cons_append, startsComment_append_apart hapart, hstart]
    rw [List.cons_append, lexFrom_word hword hnone, takeWord_append_apart hapart, ih]

end Scaffold.Layout
