import Scaffold.Layout
import Scaffold.Proofs.Layout.BlankLine
import Scaffold.Proofs.Layout.Segment

/-!
# Layout is absorbed

A source that has been laid out is laid out again as if it had not been, whatever the settings of
the first pass were. Three passes make up layout, and each of them finds its own work done:

* each line is one segment (`segments_of_mem_segments`) below its indentation;
* the lines are well parted (`wellParted_tidy`);
* the separators cut the text into these lines (`Text.lines_flatMap_newline`).

Together: **`layoutLines_printLines`**, printed lines are the lines that layout finds.
-/

namespace Scaffold.Layout

/-! ## Settled lines -/

/-- A line, below its indentation, that is one segment already. -/
structure IsSettled (line : Line) : Prop where
  segments_eq : segments line = [line]
  isUnbroken : Text.IsUnbroken line

theorem isSettled_nil : IsSettled [] :=
  ⟨segments_nil, Text.isUnbroken_nil⟩

/-- The lines that a source is laid out in are settled. -/
theorem isSettled_of_mem_layoutLines {source : List Char} {line : Line}
    (h : line ∈ layoutLines source) : IsSettled line := by
  -- tidying adds blank lines, which are settled, and no others
  rcases eq_nil_or_mem_of_mem_tidy h with rfl | hmem
  · exact isSettled_nil
  · obtain ⟨physical, hphysical, hsegment⟩ := List.mem_flatMap.mp hmem
    exact ⟨segments_of_mem_segments hsegment,
      isUnbroken_of_mem_segments (Text.isUnbroken_of_mem_lines hphysical) hsegment⟩

/-! ## Indentation -/

/-- The unit of indentation is white space, and no line end. -/
theorem isBlank_of_mem_unit {settings : LayoutSettings} {c : Char} (h : c ∈ settings.unit) :
    Text.isBlank c = true ∧ c ≠ '\n' ∧ c ≠ '\r' := by
  rw [LayoutSettings.unit] at h
  split at h
  next =>
    rw [List.mem_singleton.mp h]
    decide
  next =>
    rw [List.eq_of_mem_replicate h]
    decide

/-- Indentation is white space within a line, at any depth. -/
theorem isBlank_of_mem_indentation {settings : LayoutSettings} {depth : Nat} {c : Char}
    (h : c ∈ (List.replicate depth settings.unit).flatten) :
    Text.isBlank c = true ∧ c ≠ '\n' ∧ c ≠ '\r' := by
  obtain ⟨unit, hunit, hc⟩ := List.mem_flatten.mp h
  rw [List.eq_of_mem_replicate hunit] at hc
  exact isBlank_of_mem_unit hc

/-- A settled line is cut into itself at any depth. -/
theorem IsSettled.segments_indentLine {line : Line} (h : IsSettled line)
    (settings : LayoutSettings) (depth : Nat) :
    segments (indentLine settings.unit depth line) = [line] := by
  rw [indentLine]
  split
  next hnil => rw [hnil, segments_nil]
  next =>
    rw [segments_blanks_append fun c hc => (isBlank_of_mem_indentation hc).1]
    exact h.segments_eq

/-- Indentation breaks no line. -/
theorem IsSettled.isUnbroken_indentLine {line : Line} (h : IsSettled line)
    (settings : LayoutSettings) (depth : Nat) :
    Text.IsUnbroken (indentLine settings.unit depth line) := by
  rw [indentLine]
  split
  next => exact Text.isUnbroken_nil
  next =>
    rw [Text.isUnbroken_append_iff]
    refine ⟨Text.isUnbroken_of_forall_mem fun c hc => ?_, h.isUnbroken⟩
    exact (isBlank_of_mem_indentation hc).2

/-- Indented lines are cut back into the lines themselves. -/
theorem flatMap_segments_indentFrom {lines : List Line} (h : ∀ line ∈ lines, IsSettled line)
    (settings : LayoutSettings) (depth : Nat) :
    (indentFrom settings.unit depth lines).flatMap segments = lines := by
  induction lines generalizing depth with
  | nil => rfl
  | cons line rest ih =>
    rw [indentFrom, List.flatMap_cons, (h line (by simp)).segments_indentLine,
      ih fun other hother => h other (by simp [hother])]
    rfl

theorem isUnbroken_of_mem_indentFrom {lines : List Line} (h : ∀ line ∈ lines, IsSettled line)
    {settings : LayoutSettings} {depth : Nat} {line : Line}
    (hline : line ∈ indentFrom settings.unit depth lines) : Text.IsUnbroken line := by
  induction lines generalizing depth with
  | nil => exact absurd hline (by simp [indentFrom])
  | cons first rest ih =>
    rw [indentFrom, List.mem_cons] at hline
    rcases hline with rfl | hrest
    · exact (h first (by simp)).isUnbroken_indentLine settings _
    · exact ih (fun other hother => h other (by simp [hother])) hrest

/-! ## Printed lines are found again -/

/-- A printed text is cut into its indented lines, and nothing behind the last separator. -/
theorem lines_printLines (settings : LayoutSettings) {lines : List Line}
    (h : ∀ line ∈ lines, IsSettled line) :
    Text.lines (printLines settings lines) = indentFrom settings.unit 0 lines ++ [[]] :=
  Text.lines_flatMap_newline settings.newline fun _ hline => isUnbroken_of_mem_indentFrom h hline

/-- **Printed lines are the lines that layout finds.** -/
theorem layoutLines_printLines (settings : LayoutSettings) {lines : List Line}
    (hsettled : ∀ line ∈ lines, IsSettled line) (hparted : WellParted lines) :
    layoutLines (printLines settings lines) = lines := by
  rw [layoutLines, lines_printLines settings hsettled, List.flatMap_append,
    flatMap_segments_indentFrom hsettled, List.flatMap_singleton, segments_nil, tidy_append_blank,
    tidy_of_wellParted hparted]

/-- Layout finds the same lines in a source that has been laid out. -/
theorem layoutLines_formatChars (settings : LayoutSettings) (source : List Char) :
    layoutLines (formatChars settings source) = layoutLines source :=
  layoutLines_printLines settings (fun _ h => isSettled_of_mem_layoutLines h) (wellParted_tidy _)

/-- **Layout is absorbed.** A source is laid out as if it had not been laid out before, whatever
the settings of the first pass; with the same settings twice, layout is idempotent. -/
theorem format_format (first second : LayoutSettings) (source : String) :
    format second (format first source) = format second source := by
  rw [format, format, format, String.toList_ofList, formatChars, layoutLines_formatChars,
    formatChars]

end Scaffold.Layout
