import Scaffold.Settings
import Scaffold.Text.Lines

/-!
# Lines, cut and written

`lines` cuts a text at line ends of any kind, and a separator of the settings is such a line end:

* **`lines_append_newline`**: what stands before a separator and what stands behind it are cut
  apart; **`lines_append_feed`** is the same for line feeds, whatever stands before them.
* **`lines_flatMap_newline`**: lines that are written with a separator after each are cut back
  into themselves, and a last line with nothing in it.
* **`isUnbroken_of_mem_lines`**: no line end is left in a line.
* **`isWritten_iff`**: a text is written of lines, with line ends of any kind, just when it is cut
  into them.
-/

namespace Scaffold.Text

/-- The text holds no line end. -/
def IsUnbroken (cs : List Char) : Prop :=
  '\n' ∉ cs ∧ '\r' ∉ cs
deriving Decidable

theorem isUnbroken_nil : IsUnbroken [] := by
  simp [IsUnbroken]

theorem isUnbroken_append_iff {first second : List Char} :
    IsUnbroken (first ++ second) ↔ IsUnbroken first ∧ IsUnbroken second := by
  simp only [IsUnbroken, List.mem_append, not_or]
  exact and_and_and_comm

theorem isUnbroken_of_forall_mem {cs : List Char} (h : ∀ c ∈ cs, c ≠ '\n' ∧ c ≠ '\r') :
    IsUnbroken cs :=
  ⟨fun hmem => (h _ hmem).1 rfl, fun hmem => (h _ hmem).2 rfl⟩

theorem IsUnbroken.ne_of_mem {cs : List Char} (h : IsUnbroken cs) {c : Char} (hc : c ∈ cs) :
    c ≠ '\n' ∧ c ≠ '\r' :=
  ⟨fun heq => h.1 (heq ▸ hc), fun heq => h.2 (heq ▸ hc)⟩

/-! ## Line ends -/

/-- Only a carriage return can be read with the character behind it. -/
theorem unifyBreaks_cons {c : Char} (hc : c ≠ '\r') (cs : List Char) :
    unifyBreaks (c :: cs) = c :: unifyBreaks cs := by
  rw [unifyBreaks, if_neg hc]
  intro _ h _
  exact hc h

/-- What stands before the first carriage return is read as it stands. -/
theorem unifyBreaks_append {first : List Char} (h : '\r' ∉ first) (rest : List Char) :
    unifyBreaks (first ++ rest) = first ++ unifyBreaks rest := by
  induction first with
  | nil => rfl
  | cons c cs ih =>
    simp only [List.mem_cons, not_or] at h
    rw [List.cons_append, unifyBreaks_cons (Ne.symm h.1), ih h.2, List.cons_append]

/-- A newline in either spelling is read as a line feed. -/
theorem unifyBreaks_newline (newline : Newline) (rest : List Char) :
    unifyBreaks (newline.chars ++ rest) = '\n' :: unifyBreaks rest := by
  cases newline with
  | lf => exact unifyBreaks_cons (by decide) rest
  | crlf => rfl

/-- A line feed is read as it stands, unless a carriage return before it has ended the line: then
the two are one line end. Induction along the reader. -/
theorem unifyBreaks_append_feed (first rest : List Char) :
    unifyBreaks (first ++ '\n' :: rest) = unifyBreaks first ++ '\n' :: unifyBreaks rest
      ∨ ∃ before, unifyBreaks first = before ++ ['\n']
          ∧ unifyBreaks (first ++ '\n' :: rest) = before ++ '\n' :: unifyBreaks rest := by
  fun_induction unifyBreaks first with
  | case1 => exact Or.inl (unifyBreaks_cons (by decide) rest)
  | case2 cs ih =>
    show unifyBreaks ('\r' :: '\n' :: (cs ++ '\n' :: rest)) = _ ∨ _
    rw [unifyBreaks]
    rcases ih with h | ⟨before, hfirst, hall⟩
    · exact Or.inl (by rw [h, List.cons_append])
    · exact Or.inr ⟨'\n' :: before, by rw [hfirst, List.cons_append],
        by rw [List.cons_append, List.cons_append, unifyBreaks, hall, List.cons_append]⟩
  | case3 c cs hpair ih =>
    by_cases hlone : c = '\r' ∧ cs = []
    · obtain ⟨rfl, rfl⟩ := hlone
      -- a carriage return at the very end of the first text makes a pair with the line feed
      exact Or.inr ⟨[], rfl, rfl⟩
    · -- the character is read alone in the longer text as well
      have hnext : ∀ tail, c = '\r' → cs ++ '\n' :: rest ≠ '\n' :: tail := by
        intro tail hc htail
        obtain ⟨d, ds, rfl⟩ := List.exists_cons_of_ne_nil fun hnil => hlone ⟨hc, hnil⟩
        obtain ⟨rfl, -⟩ := List.cons.inj htail
        exact hpair ds hc rfl
      have hcons : unifyBreaks (c :: cs ++ '\n' :: rest)
          = (if c = '\r' then '\n' else c) :: unifyBreaks (cs ++ '\n' :: rest) := by
        rw [List.cons_append, unifyBreaks]
        exact hnext
      rw [hcons]
      rcases ih with h | ⟨before, hfirst, hall⟩
      · exact Or.inl (by rw [h, List.cons_append])
      · exact Or.inr ⟨_ :: before, by rw [hfirst, List.cons_append], by rw [hall, List.cons_append]⟩

/-! ## Cutting at a separator -/

theorem lines_nil : lines [] = [[]] := rfl

theorem lines_ne_nil (cs : List Char) : lines cs ≠ [] :=
  List.splitOn_ne_nil '\n' (unifyBreaks cs)

/-- A text without line ends is a single line. -/
theorem lines_of_isUnbroken {cs : List Char} (h : IsUnbroken cs) : lines cs = [cs] := by
  rw [lines, unifyBreaks_of_not_mem h.2, List.splitOn_eq_singleton h.1]

/-- A text without line ends joins the first line of what stands behind it. -/
theorem lines_append_of_isUnbroken {first : List Char} (h : IsUnbroken first) (rest : List Char) :
    lines (first ++ rest) = (lines rest).modifyHead (first ++ ·) := by
  -- the first text has no place to split at, so it stays in front of the first line
  have hsplit (cs : List Char) (hcs : '\n' ∉ cs) :
      (cs ++ unifyBreaks rest).splitOn '\n' = (lines rest).modifyHead (cs ++ ·) := by
    induction cs with
    | nil =>
      obtain ⟨line, others, hlines⟩ := List.exists_cons_of_ne_nil (lines_ne_nil rest)
      rw [hlines]
      exact hlines
    | cons c cs ih =>
      rw [List.mem_cons, not_or] at hcs
      rw [List.cons_append, List.splitOn_cons_eq_if_modifyHead, if_neg (by simpa using Ne.symm hcs.1),
        ih hcs.2, List.modifyHead_modifyHead]
      rfl
  rw [lines, unifyBreaks_append h.2, hsplit first h.1]

/-- **A separator cuts a text apart.** Only a carriage return right before it could be mistaken
for a part of it. -/
theorem lines_append_newline (newline : Newline) {first : List Char} (h : '\r' ∉ first)
    (rest : List Char) : lines (first ++ (newline.chars ++ rest)) = lines first ++ lines rest := by
  rw [lines, unifyBreaks_append h, unifyBreaks_newline, List.splitOn_append_cons_self, lines, lines,
    unifyBreaks_of_not_mem h]

/-- **A line feed cuts a text apart**, unless a carriage return before it has done so. -/
theorem lines_append_feed (first rest : List Char) :
    lines (first ++ '\n' :: rest) = lines first ++ lines rest
      ∨ ∃ others, lines first = others ++ [[]]
          ∧ lines (first ++ '\n' :: rest) = others ++ lines rest := by
  rcases unifyBreaks_append_feed first rest with hall | ⟨before, hfirst, hall⟩
  · refine Or.inl ?_
    rw [lines, hall, List.splitOn_append_cons_self, lines, lines]
  · refine Or.inr ⟨before.splitOn '\n', ?_, ?_⟩
    · rw [lines, hfirst, List.splitOn_append_cons_self, List.splitOn_nil]
    · rw [lines, hall, List.splitOn_append_cons_self, lines]

/-- **Written lines are cut back into themselves.** -/
theorem lines_flatMap_newline (newline : Newline) {written : List (List Char)}
    (h : ∀ line ∈ written, IsUnbroken line) :
    lines (written.flatMap (· ++ newline.chars)) = written ++ [[]] := by
  induction written with
  | nil => exact lines_nil
  | cons line rest ih =>
    have hline : IsUnbroken line := h line (by simp)
    rw [List.flatMap_cons, List.append_assoc, lines_append_newline newline hline.2,
      lines_of_isUnbroken hline, ih fun other hother => h other (by simp [hother])]
    rfl

/-- Lines with a separator after each are joined with it and followed by one. -/
theorem flatMap_append_eq_intercalate {written : List (List Char)} (hne : written ≠ [])
    (separator : List Char) :
    written.flatMap (· ++ separator) = separator.intercalate written ++ separator := by
  induction written with
  | nil => exact absurd rfl hne
  | cons line rest ih =>
    cases rest with
    | nil => simp
    | cons next rest =>
      rw [List.flatMap_cons, ih (by simp)]
      simp [List.intercalate]

/-! ## No line end is left -/

/-- A piece of a split holds what the whole does, but for what it was split at. -/
theorem forall_mem_of_mem_splitOn {α : Type} [BEq α] [LawfulBEq α] {separator : α}
    {xs piece : List α} (h : piece ∈ xs.splitOn separator) :
    ∀ x ∈ piece, x ≠ separator ∧ x ∈ xs := by
  induction xs generalizing piece with
  | nil =>
    rw [List.splitOn_nil, List.mem_singleton] at h
    simp [h]
  | cons y ys ih =>
    -- what holds of a piece of the rest holds in the longer list as well
    have hlonger : ∀ piece ∈ ys.splitOn separator, ∀ x ∈ piece, x ≠ separator ∧ x ∈ y :: ys :=
      fun piece hpiece x hx => ⟨(ih hpiece x hx).1, List.mem_cons_of_mem y (ih hpiece x hx).2⟩
    rw [List.splitOn_cons_eq_if_modifyHead] at h
    obtain ⟨first, others, hsplit⟩ :=
      List.exists_cons_of_ne_nil (List.splitOn_ne_nil separator ys)
    split at h
    next =>
      -- the first element is a separator, so the first piece is empty
      rcases List.mem_cons.mp h with rfl | hmem
      · simp
      · exact hlonger piece hmem
    next hy =>
      rw [hsplit, List.modifyHead_cons, List.mem_cons] at h
      -- the first piece has grown by an element that is no separator
      rcases h with rfl | hmem
      · intro x hx
        rcases List.mem_cons.mp hx with rfl | hx
        · exact ⟨fun heq => hy (by simp [heq]), List.mem_cons_self⟩
        · exact hlonger first (by simp [hsplit]) x hx
      · exact hlonger piece (by simp [hsplit, hmem])

/-- **No line end is left in a line.** -/
theorem isUnbroken_of_mem_lines {cs line : List Char} (h : line ∈ lines cs) : IsUnbroken line := by
  refine isUnbroken_of_forall_mem fun c hc => ?_
  obtain ⟨hfeed, hmem⟩ := forall_mem_of_mem_splitOn h c hc
  -- carriage returns are gone before the text is cut
  refine ⟨hfeed, ?_⟩
  intro hreturn
  rw [hreturn] at hmem
  exact return_not_mem_unifyBreaks cs hmem

/-! ## Written lines -/

/-- The text consists of the lines, and each of them but the last has a line end of some kind
behind it. A carriage return right before a line feed ends no line of its own. -/
inductive IsWritten : List (List Char) → List Char → Prop where
  | last {line : List Char} (h : IsUnbroken line) : IsWritten [line] line
  | feed {line : List Char} {below : List (List Char)} {rest : List Char} (h : IsUnbroken line)
      (hrest : IsWritten below rest) : IsWritten (line :: below) (line ++ '\n' :: rest)
  | carriage {line : List Char} {below : List (List Char)} {rest : List Char} (h : IsUnbroken line)
      (hrest : IsWritten below rest) (hfeed : rest.head? ≠ some '\n') :
      IsWritten (line :: below) (line ++ '\r' :: rest)
  | pair {line : List Char} {below : List (List Char)} {rest : List Char} (h : IsUnbroken line)
      (hrest : IsWritten below rest) : IsWritten (line :: below) (line ++ '\r' :: '\n' :: rest)

/-- A carriage return that no line feed follows ends a line alone. -/
theorem unifyBreaks_return {rest : List Char} (h : rest.head? ≠ some '\n') :
    unifyBreaks ('\r' :: rest) = '\n' :: unifyBreaks rest := by
  rw [unifyBreaks, if_pos rfl]
  intro tail _ htail
  rw [htail] at h
  exact h rfl

/-- A line end of any kind cuts a text apart behind a line. -/
theorem lines_append_break {line : List Char} (hline : IsUnbroken line) {rest after : List Char}
    (h : unifyBreaks rest = '\n' :: unifyBreaks after) : lines (line ++ rest) = line :: lines after := by
  rw [lines, unifyBreaks_append hline.2, h, List.splitOn_append_cons_self,
    List.splitOn_eq_singleton hline.1, lines, List.singleton_append]

/-- **A text that is written of lines is cut back into them.** Induction on the writing. -/
theorem IsWritten.lines_eq {written : List (List Char)} {cs : List Char} (h : IsWritten written cs) :
    lines cs = written := by
  induction h with
  | last hline => exact lines_of_isUnbroken hline
  | feed hline _ ih => rw [lines_append_break hline (unifyBreaks_cons (by decide) _), ih]
  | carriage hline _ hfeed ih => rw [lines_append_break hline (unifyBreaks_return hfeed), ih]
  | pair hline _ ih => rw [lines_append_break hline rfl, ih]

/-- A character that ends no line joins the first line behind it. -/
theorem IsWritten.cons {written : List (List Char)} {cs : List Char} (h : IsWritten written cs)
    {c : Char} (hc : c ≠ '\n' ∧ c ≠ '\r') : IsWritten (written.modifyHead (c :: ·)) (c :: cs) := by
  have hcons (line : List Char) (hline : IsUnbroken line) : IsUnbroken (c :: line) := by
    refine isUnbroken_of_forall_mem fun d hd => ?_
    rcases List.mem_cons.mp hd with rfl | hd
    · exact hc
    · exact hline.ne_of_mem hd
  cases h with
  | last hline => exact .last (hcons _ hline)
  | feed hline hrest => exact .feed (hcons _ hline) hrest
  | carriage hline hrest hfeed => exact .carriage (hcons _ hline) hrest hfeed
  | pair hline hrest => exact .pair (hcons _ hline) hrest

/-- **Every text is written of its lines, and of no others.** Induction along the reader of line
ends. -/
theorem isWritten_iff {written : List (List Char)} {cs : List Char} :
    IsWritten written cs ↔ lines cs = written := by
  refine ⟨IsWritten.lines_eq, ?_⟩
  rintro rfl
  fun_induction unifyBreaks cs with
  | case1 => exact .last isUnbroken_nil
  | case2 cs ih =>
    rw [show lines ('\r' :: '\n' :: cs) = [] :: lines cs from lines_append_break isUnbroken_nil rfl]
    exact .pair isUnbroken_nil ih
  | case3 c cs hpair ih =>
    by_cases hreturn : c = '\r'
    · subst hreturn
      have hfeed : cs.head? ≠ some '\n' := by
        intro hhead
        obtain ⟨rest, rfl⟩ := List.head?_eq_some_iff.mp hhead
        exact hpair rest rfl rfl
      rw [show lines ('\r' :: cs) = [] :: lines cs from
        lines_append_break isUnbroken_nil (unifyBreaks_return hfeed)]
      exact .carriage isUnbroken_nil ih hfeed
    · by_cases hfeed : c = '\n'
      · subst hfeed
        rw [show lines ('\n' :: cs) = [] :: lines cs from
          lines_append_break isUnbroken_nil (unifyBreaks_cons (by decide) cs)]
        exact .feed isUnbroken_nil ih
      -- any other character belongs to the line that it starts
      · have hunbroken : IsUnbroken [c] := by simp [IsUnbroken, Ne.symm hfeed, Ne.symm hreturn]
        rw [show lines (c :: cs) = (lines cs).modifyHead (c :: ·) from
          lines_append_of_isUnbroken hunbroken cs]
        exact ih.cons ⟨hfeed, hreturn⟩

end Scaffold.Text
