import Scaffold.Layout.Token
import Scaffold.Proofs.Text.Trim

/-!
# Where literals and words end

The reader of lines cuts literals and words off the text before it. This module says when such a
cut is *final*, that is, does not move when other text follows:

* **`Quoting.close_cases`**: a literal is closed by its quote, or runs to the end of its line. A
  closed one (`Quoting.Closes`) ends at the same place whatever follows, but for one thing: a
  verbatim literal must not be followed by a double quote, which would undo the one that closes it.
* **`Quoting.close_of_append_blanks`**: an open literal stays open when white space is cut off its
  end.
* **`takeWord_append`**: a word ends where the following text cannot belong to it. The one trap is
  a slash at its end, which begins a comment together with a slash that follows.
-/

namespace Scaffold.Layout

/-! ## Putting back the first character -/

@[simp] theorem consFst_fst (c : Char) (parts : List Char × List Char) :
    (consFst c parts).1 = c :: parts.1 := rfl

@[simp] theorem consFst_snd (c : Char) (parts : List Char × List Char) :
    (consFst c parts).2 = parts.2 := rfl

@[simp] theorem consFst_mk (c : Char) (first second : List Char) :
    consFst c (first, second) = (c :: first, second) := rfl

/-! ## Quotes -/

theorem isQuote_iff {c : Char} : isQuote c = true ↔ c = '"' ∨ c = '\'' := by
  simp [isQuote]

/-- No mark of quotation is the character that escapes. -/
theorem ne_backslash_of_isQuote {c : Char} (h : isQuote c = true) : c ≠ '\\' := by
  intro hbackslash
  rw [hbackslash] at h
  exact absurd h (by decide)

theorem isBlank_of_isQuote {c : Char} (h : isQuote c = true) : Text.isBlank c = false := by
  rcases isQuote_iff.mp h with rfl | rfl <;> decide

/-- The quote that closes a literal. -/
def Quoting.quote : Quoting → Char
  | .escaped quote => quote
  | .verbatim => '"'

/-- The quote that opens a literal closes it. -/
theorem Quoting.quote_ofOpening (before : List Char) (c : Char) :
    (Quoting.ofOpening before c).quote = c := by
  unfold Quoting.ofOpening
  split
  next h => exact h.1.symm
  next => rfl

/-! ## The reader of literals, character by character -/

/-- An escaped character never closes a literal, be it the quotation mark itself. -/
theorem closeEscaped_escape (quote c : Char) (cs : List Char) :
    closeEscaped quote ('\\' :: c :: cs) = consFst '\\' (consFst c (closeEscaped quote cs)) := rfl

/-- The quotation mark closes the literal. -/
theorem closeEscaped_quote {quote : Char} (hquote : quote ≠ '\\') (cs : List Char) :
    closeEscaped quote (quote :: cs) = ([quote], cs) := by
  rw [closeEscaped, if_pos rfl]
  intro _ _ h _
  exact hquote h

/-- Any other character is passed over. -/
theorem closeEscaped_other {quote c : Char} (hquote : c ≠ quote) (hescape : c ≠ '\\')
    (cs : List Char) : closeEscaped quote (c :: cs) = consFst c (closeEscaped quote cs) := by
  rw [closeEscaped, if_neg hquote]
  intro _ _ h _
  exact hescape h

/-- Two quotation marks stand for one in a verbatim literal. -/
theorem closeVerbatim_doubled (cs : List Char) :
    closeVerbatim ('"' :: '"' :: cs) = consFst '"' (consFst '"' (closeVerbatim cs)) := rfl

/-- A single one closes it. -/
theorem closeVerbatim_quote {cs : List Char} (hcs : cs.head? ≠ some '"') :
    closeVerbatim ('"' :: cs) = (['"'], cs) := by
  rw [closeVerbatim, if_pos rfl]
  -- the other way to read the quote needs a second one behind it
  intro rest _ hdoubled
  rw [hdoubled] at hcs
  exact hcs rfl

/-- Any other character is passed over there, too. -/
theorem closeVerbatim_other {c : Char} (hc : c ≠ '"') (cs : List Char) :
    closeVerbatim (c :: cs) = consFst c (closeVerbatim cs) := by
  rw [closeVerbatim, if_neg hc]
  intro _ h _
  exact hc h

/-! ## Closed and open literals -/

/-- What follows a literal leaves its end alone: behind a verbatim one stands no double quote. -/
def Quoting.Spares (quoting : Quoting) (rest : List Char) : Prop :=
  quoting = .verbatim → rest.head? ≠ some '"'

/-- The text after an opening quote that ends with the quote that closes the literal. -/
structure Quoting.Closes (quoting : Quoting) (body : List Char) : Prop where
  /-- The literal ends there, whatever follows and spares it. -/
  close_append : ∀ rest, quoting.Spares rest → quoting.close (body ++ rest) = (body, rest)
  getLast?_eq : body.getLast? = some quoting.quote

/-- What follows an escaped literal cannot keep it open. -/
theorem Quoting.spares_escaped (quote : Char) (rest : List Char) :
    (Quoting.escaped quote).Spares rest := by
  intro hverbatim
  cases hverbatim

theorem Quoting.spares_nil (quoting : Quoting) : quoting.Spares [] := by
  intro _
  simp

/-- One more character before the closing quote, read on its own. -/
theorem Quoting.Closes.cons {quoting : Quoting} {body : List Char} {c : Char}
    (hclose : ∀ rest, quoting.close (c :: (body ++ rest)) = consFst c (quoting.close (body ++ rest)))
    (h : quoting.Closes body) : quoting.Closes (c :: body) where
  close_append rest hrest := by
    rw [List.cons_append, hclose, h.close_append rest hrest, consFst_mk]
  getLast?_eq := by
    rw [List.getLast?_cons, h.getLast?_eq, Option.getD_some]

/-- Two more characters before the closing quote, read together. -/
theorem Quoting.Closes.cons_cons {quoting : Quoting} {body : List Char} {c d : Char}
    (hclose : ∀ cs, quoting.close (c :: d :: cs) = consFst c (consFst d (quoting.close cs)))
    (h : quoting.Closes body) : quoting.Closes (c :: d :: body) where
  close_append rest hrest := by
    rw [List.cons_append, List.cons_append, hclose, h.close_append rest hrest, consFst_mk,
      consFst_mk]
  getLast?_eq := by
    rw [List.getLast?_cons, List.getLast?_cons, h.getLast?_eq, Option.getD_some, Option.getD_some]

/-- A text after an opening quote is cut behind the closing quote, or not at all. -/
def Quoting.Cuts (quoting : Quoting) (cs : List Char) : Prop :=
  (∃ body rest, cs = body ++ rest ∧ quoting.Closes body ∧ quoting.Spares rest)
    ∨ quoting.close cs = (cs, [])

/-- The characters before a cut move it along, one at a time. -/
theorem Quoting.Cuts.cons {quoting : Quoting} {cs : List Char} {c : Char}
    (hclose : ∀ rest, rest ≠ [] → quoting.close (c :: rest) = consFst c (quoting.close rest))
    (hend : quoting.close [c] = ([c], [])) (h : quoting.Cuts cs) : quoting.Cuts (c :: cs) := by
  rcases h with ⟨body, rest, rfl, hbody, hrest⟩ | hopen
  · refine Or.inl ⟨c :: body, rest, rfl, hbody.cons fun rest => hclose _ ?_, hrest⟩
    -- a closed literal holds at least its quote
    intro hnil
    have := hbody.getLast?_eq
    rw [(List.append_eq_nil_iff.mp hnil).1] at this
    exact absurd this (by simp)
  · refine Or.inr ?_
    -- the reader looks one character ahead, so the end of the line is a case of its own
    cases cs with
    | nil => exact hend
    | cons d ds => rw [hclose _ (by simp), hopen, consFst_mk]

/-- The characters before a cut move it along, two at a time. -/
theorem Quoting.Cuts.cons_cons {quoting : Quoting} {cs : List Char} {c d : Char}
    (hclose : ∀ rest, quoting.close (c :: d :: rest) = consFst c (consFst d (quoting.close rest)))
    (h : quoting.Cuts cs) : quoting.Cuts (c :: d :: cs) := by
  rcases h with ⟨body, rest, rfl, hbody, hrest⟩ | hopen
  · exact Or.inl ⟨c :: d :: body, rest, rfl, hbody.cons_cons hclose, hrest⟩
  · exact Or.inr (by rw [hclose, hopen, consFst_mk, consFst_mk])

/-- An escaped literal is cut behind its quote or not at all. Induction along the reader. -/
theorem cuts_escaped {quote : Char} (hquote : quote ≠ '\\') (cs : List Char) :
    (Quoting.escaped quote).Cuts cs := by
  fun_induction closeEscaped quote cs with
  | case1 => exact Or.inr rfl
  | case2 c cs ih => exact ih.cons_cons fun rest => closeEscaped_escape quote c rest
  | case3 cs _ =>
    -- the closing quote: what the reader has passed is the whole body
    refine Or.inl ⟨[quote], cs, rfl, ⟨fun rest _ => ?_, rfl⟩,
      Quoting.spares_escaped quote cs⟩
    exact closeEscaped_quote hquote rest
  | case4 c cs hescape hc ih =>
    by_cases hbackslash : c = '\\'
    · subst hbackslash
      -- a backslash that ends the line takes nothing with it
      cases cs with
      | nil => exact Or.inr (by simp [Quoting.close, closeEscaped, hquote.symm])
      | cons d ds => exact absurd rfl (hescape d ds rfl)
    · refine ih.cons (fun rest _ => closeEscaped_other hc hbackslash rest) ?_
      exact closeEscaped_other hc hbackslash []

/-- A verbatim literal is cut behind its quote or not at all. Induction along the reader. -/
theorem cuts_verbatim (cs : List Char) : Quoting.verbatim.Cuts cs := by
  fun_induction closeVerbatim cs with
  | case1 => exact Or.inr rfl
  | case2 cs ih => exact ih.cons_cons closeVerbatim_doubled
  | case3 cs hdoubled =>
    -- a quote that is not doubled closes the literal
    have hcs : cs.head? ≠ some '"' := by
      intro hhead
      obtain ⟨rest, rfl⟩ := List.head?_eq_some_iff.mp hhead
      exact hdoubled rest rfl rfl
    refine Or.inl ⟨['"'], cs, rfl, ⟨fun rest hrest => ?_, rfl⟩, fun _ => hcs⟩
    exact closeVerbatim_quote (hrest rfl)
  | case4 c cs _ hc ih =>
    exact ih.cons (fun rest _ => closeVerbatim_other hc rest) (closeVerbatim_other hc [])

/-- **A literal is closed by its quote, or runs to the end of its line.** -/
theorem Quoting.close_cases {quoting : Quoting} (hquote : isQuote quoting.quote = true)
    (cs : List Char) : quoting.Cuts cs := by
  cases quoting with
  | escaped quote => exact cuts_escaped (ne_backslash_of_isQuote hquote) cs
  | verbatim => exact cuts_verbatim cs

/-- Cutting off a literal loses nothing. -/
theorem Quoting.close_append_close {quoting : Quoting} (hquote : isQuote quoting.quote = true)
    (cs : List Char) : (quoting.close cs).1 ++ (quoting.close cs).2 = cs := by
  rcases Quoting.close_cases hquote cs with ⟨body, rest, rfl, hbody, hrest⟩ | hopen
  · rw [hbody.close_append rest hrest]
  · rw [hopen, List.append_nil]

/-- A closed literal ends with its quote, so there is nothing to trim. -/
theorem Quoting.Closes.trimEnd_eq {quoting : Quoting} {body : List Char} (h : quoting.Closes body)
    (hquote : isQuote quoting.quote = true) (c : Char) : Text.trimEnd (c :: body) = c :: body := by
  rw [Text.trimEnd_eq_self_iff, List.getLast?_cons, h.getLast?_eq, Option.getD_some]
  intro d hd
  rw [Option.mem_some] at hd
  rw [← hd]
  exact isBlank_of_isQuote hquote

/-- Neither can white space that is put behind what follows. -/
theorem Quoting.spares_append_blanks {quoting : Quoting} {rest blanks : List Char}
    (hrest : quoting.Spares rest) (hblanks : ∀ c ∈ blanks, Text.isBlank c = true) :
    quoting.Spares (rest ++ blanks) := by
  intro hverbatim hhead
  rw [List.head?_append] at hhead
  -- the first character is that of `rest`, or white space and so no quote
  cases hfirst : rest.head? with
  | some c =>
    rw [hfirst, Option.some_or] at hhead
    exact hrest hverbatim (hfirst.trans hhead)
  | none =>
    rw [hfirst, Option.none_or] at hhead
    exact absurd (hblanks '"' (List.mem_of_mem_head? hhead)) (by decide)

/-- **An open literal stays open when white space is cut off its end.** Were the shorter one
closed, the longer one would be closed at the same place. -/
theorem Quoting.close_of_append_blanks {quoting : Quoting} (hquote : isQuote quoting.quote = true)
    {cs blanks : List Char} (hblanks : ∀ c ∈ blanks, Text.isBlank c = true)
    (hopen : quoting.close (cs ++ blanks) = (cs ++ blanks, [])) : quoting.close cs = (cs, []) := by
  rcases Quoting.close_cases hquote cs with ⟨body, rest, rfl, hbody, hrest⟩ | hcs
  · have hlong : quoting.close (body ++ (rest ++ blanks)) = (body, rest ++ blanks) :=
      hbody.close_append _ (Quoting.spares_append_blanks hrest hblanks)
    -- the longer text is cut at its end, so nothing stands behind the body
    rw [← List.append_assoc, hopen, Prod.mk.injEq] at hlong
    obtain ⟨hnil, -⟩ := List.append_eq_nil_iff.mp hlong.2.symm
    rw [hnil] at hrest ⊢
    rw [hbody.close_append [] hrest, List.append_nil]
  · exact hcs

/-! ## Words -/

/-- A word holds neither white space nor braces nor quotation marks. -/
theorem isWordChar_iff {c : Char} :
    isWordChar c = true ↔
      Text.isBlank c = false ∧ c ≠ openBrace ∧ c ≠ closeBrace ∧ isQuote c = false := by
  simp [isWordChar, and_assoc]

theorem startsComment_iff {cs : List Char} :
    startsComment cs = true ↔ ∃ rest, cs = '/' :: '/' :: rest := by
  rw [startsComment.eq_def]
  split
  next rest => simp
  next h => simpa using fun rest => h rest

/-- A comment has started, whatever comes behind. -/
theorem startsComment_append {cs : List Char} (h : startsComment cs = true) (rest : List Char) :
    startsComment (cs ++ rest) = true := by
  obtain ⟨tail, rfl⟩ := startsComment_iff.mp h
  rfl

/-- Nothing of the text belongs to a word before it. -/
def EndsWord (cs : List Char) : Prop :=
  takeWord cs = ([], cs)

theorem endsWord_nil : EndsWord [] := rfl

/-- A character of no word ends every word. -/
theorem endsWord_of_not_isWordChar {c : Char} (hc : isWordChar c = false) (cs : List Char) :
    EndsWord (c :: cs) := by
  rw [EndsWord, takeWord, if_neg]
  simp [hc]

/-- So does a comment. -/
theorem endsWord_of_startsComment {cs : List Char} (h : startsComment cs = true) :
    EndsWord cs := by
  cases cs with
  | nil => rfl
  | cons c cs =>
    rw [EndsWord, takeWord, if_neg]
    simp [h]

/-- What ends a word starts with a character of no word, or with a comment. -/
theorem EndsWord.head {c : Char} {cs : List Char} (h : EndsWord (c :: cs)) :
    isWordChar c = false ∨ startsComment (c :: cs) = true := by
  rw [EndsWord, takeWord] at h
  split at h
  next => simp [consFst] at h
  next hc => simpa [imp_iff_not_or] using hc

/-- Cutting off a word loses nothing. -/
theorem takeWord_append_takeWord (cs : List Char) : (takeWord cs).1 ++ (takeWord cs).2 = cs := by
  induction cs with
  | nil => rfl
  | cons c cs ih =>
    rw [takeWord]
    split
    next => rw [consFst_fst, consFst_snd, List.cons_append, ih]
    next => rfl

/-- **What is left behind a word ends it.** -/
theorem endsWord_takeWord_snd (cs : List Char) : EndsWord (takeWord cs).2 := by
  induction cs with
  | nil => rfl
  | cons c cs ih =>
    rw [takeWord]
    split
    next => exact ih
    next hc => rw [EndsWord, takeWord, if_neg hc]

/-- A word is cut off when its first character is, and the rest of it behind that one. -/
theorem takeWord_cons_eq_iff {c : Char} {cs word rest : List Char} :
    takeWord (c :: cs) = (c :: word, rest) ↔
      isWordChar c = true ∧ startsComment (c :: cs) = false ∧ takeWord cs = (word, rest) := by
  rw [takeWord]
  split
  next hc =>
    have hc : isWordChar c = true ∧ startsComment (c :: cs) = false := by simpa using hc
    simp [consFst, hc, Prod.ext_iff]
  next hc =>
    have hc : ¬(isWordChar c = true ∧ startsComment (c :: cs) = false) := by simpa using hc
    simp only [Prod.mk.injEq, List.nil_eq, reduceCtorEq, false_and, false_iff]
    exact fun h => hc ⟨h.1, h.2.1⟩

/-- A text that is one word, or the rest of one. -/
def IsWord (cs : List Char) : Prop :=
  takeWord cs = (cs, [])

/-- A word starts with a character of words, and not with a comment. -/
theorem isWord_cons_iff {c : Char} {cs : List Char} :
    IsWord (c :: cs) ↔ isWordChar c = true ∧ startsComment (c :: cs) = false ∧ IsWord cs :=
  takeWord_cons_eq_iff

/-- All characters of a word are of that kind. -/
theorem IsWord.isWordChar_of_mem {cs : List Char} (h : IsWord cs) {c : Char} (hc : c ∈ cs) :
    isWordChar c = true := by
  induction cs with
  | nil => exact absurd hc (by simp)
  | cons d ds ih =>
    obtain ⟨hd, -, hds⟩ := isWord_cons_iff.mp h
    rcases List.mem_cons.mp hc with rfl | hmem
    · exact hd
    · exact ih hds hmem

theorem startsComment_cons_takeWord {c : Char} {cs : List Char}
    (h : startsComment (c :: cs) = false) : startsComment (c :: (takeWord cs).1) = false := by
  rw [← Bool.not_eq_true]
  intro hstart
  -- a comment in the word would be one in the text that it is cut off from
  have := startsComment_append hstart (takeWord cs).2
  rw [List.cons_append, takeWord_append_takeWord, h] at this
  exact absurd this (by decide)

/-- **What is cut off is a word.** -/
theorem isWord_takeWord_fst (cs : List Char) : IsWord (takeWord cs).1 := by
  induction cs with
  | nil => rfl
  | cons c cs ih =>
    rw [takeWord]
    split
    next hc =>
      have hc : isWordChar c = true ∧ startsComment (c :: cs) = false := by simpa using hc
      exact isWord_cons_iff.mpr ⟨hc.1, startsComment_cons_takeWord hc.2, ih⟩
    next => rfl

/-- A word takes the first of two slashes only where no comment starts. -/
theorem takeWord_snd_head {c : Char} {cs : List Char} (hc : startsComment (c :: cs) = false)
    (hlast : (c :: (takeWord cs).1).getLast? = some '/') : (takeWord cs).2.head? ≠ some '/' := by
  -- `c` moves along the word, so that the last step sees the two slashes side by side
  induction cs generalizing c with
  | nil => simp [takeWord]
  | cons d ds ih =>
    rw [takeWord] at hlast ⊢
    split at hlast
    next hd =>
      have hd' : startsComment (d :: ds) = false := by
        have : isWordChar d = true ∧ startsComment (d :: ds) = false := by simpa using hd
        exact this.2
      rw [if_pos hd, consFst_snd]
      rw [consFst_fst, List.getLast?_cons_cons] at hlast
      exact ih hd' hlast
    next hd =>
      rw [if_neg hd]
      rw [List.getLast?_singleton, Option.some.injEq] at hlast
      intro hhead
      rw [List.head?_cons, Option.some.injEq] at hhead
      rw [hlast, hhead] at hc
      exact absurd hc (by simp [startsComment])

/-- **A word ends where the following text cannot belong to it**, unless a slash on either side
makes a comment. -/
theorem takeWord_append {word rest : List Char} (hword : IsWord word) (hrest : EndsWord rest)
    (hslash : word.getLast? = some '/' → rest.head? ≠ some '/') :
    takeWord (word ++ rest) = (word, rest) := by
  induction word with
  | nil => exact hrest
  | cons c cs ih =>
    obtain ⟨hc, hstart, hcs⟩ := isWord_cons_iff.mp hword
    -- the rest of the word is cut off by induction
    have hcut : takeWord (cs ++ rest) = (cs, rest) := by
      cases cs with
      | nil => exact hrest
      | cons d ds => exact ih hcs (by rwa [List.getLast?_cons_cons] at hslash)
    -- and its first character starts no comment, neither within the word nor with what follows
    have hnone : startsComment (c :: (cs ++ rest)) = false := by
      rw [← Bool.not_eq_true, startsComment_iff]
      rintro ⟨tail, htail⟩
      rw [List.cons.injEq] at htail
      obtain ⟨rfl, htail⟩ := htail
      cases cs with
      | nil => exact hslash rfl (by rw [List.nil_append] at htail; rw [htail]; rfl)
      | cons d ds =>
        rw [List.cons_append, List.cons.injEq] at htail
        rw [htail.1] at hstart
        exact absurd hstart (by simp [startsComment])
    rw [List.cons_append, takeWord, if_pos (by simp [hc, hnone]), hcut, consFst_mk]

end Scaffold.Layout
