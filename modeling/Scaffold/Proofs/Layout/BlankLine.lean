import Mathlib.Data.List.Chain
import Scaffold.Layout.BlankLine

/-!
# Blank lines are tidied once

`tidy` drops the blank lines that may not stay. What is left is known by what stands next to each
blank line, and nothing more is dropped from it:

* **`WellParted`**: lines whose blank ones may all stay. It speaks of the first line, of the last
  one, and of each two in a row.
* **`wellParted_tidy`**: tidied lines are well parted.
* **`tidy_of_wellParted`**: well parted lines are tidy.
-/

namespace Scaffold.Layout

/-! ## Lines in a row -/

/-- What may stand in a row. Of two lines at most one is blank; a blank one stands before no
closing brace, and behind neither an opening brace nor documentation. -/
def MayFollow (before after : Line) : Prop :=
  (before = [] → after ≠ [] ∧ after.head? ≠ some closeBrace)
    ∧ (after = [] → before ≠ [openBrace] ∧ ¬['/', '/', '/'] <+: before)

/-- Lines whose blank ones may all stay. -/
structure WellParted (lines : List Line) : Prop where
  head_ne : lines.head? ≠ some []
  getLast_ne : lines.getLast? ≠ some []
  isChain : lines.IsChain MayFollow

/-- A line of documentation starts with three slashes. -/
theorem isDocLine_iff {line : Line} : isDocLine line = true ↔ ['/', '/', '/'] <+: line := by
  rw [isDocLine.eq_def]
  constructor
  · intro h
    split at h
    next rest => exact ⟨rest, rfl⟩
    next => exact absurd h (by decide)
  · rintro ⟨rest, rfl⟩
    rfl

/-- Where a blank line may stand between two others, it may follow the one and precede the other. -/
theorem mayPart_iff {before after : Line} (hbefore : before ≠ []) (hafter : after ≠ []) :
    mayPart before after = true ↔ MayFollow before [] ∧ MayFollow [] after := by
  have hdoc : isDocLine before = false ↔ ¬['/', '/', '/'] <+: before := by
    rw [← isDocLine_iff, Bool.not_eq_true]
  simp only [mayPart, opensBlock, closesBlock, Bool.and_eq_true, Bool.not_eq_true',
    beq_eq_false_iff_ne, hdoc]
  constructor
  · rintro ⟨hopen, hclose⟩
    exact ⟨⟨fun h => absurd h hbefore, fun _ => hopen⟩,
      ⟨fun _ => ⟨hafter, hclose⟩, fun h => absurd h hafter⟩⟩
  · rintro ⟨⟨-, hopen⟩, ⟨hclose, -⟩⟩
    exact ⟨hopen rfl, (hclose rfl).2⟩

/-- Lines that are not blank may follow each other. -/
theorem mayFollow_of_ne {before after : Line} (hbefore : before ≠ []) (hafter : after ≠ []) :
    MayFollow before after :=
  ⟨fun h => absurd h hbefore, fun h => absurd h hafter⟩

/-! ## Tidied lines are well parted -/

/-- What tidying leaves behind a line, seen from there. -/
structure TidyBehind (before : Option Line) (lines : List Line) : Prop where
  getLast_ne : lines.getLast? ≠ some []
  isChain : lines.IsChain MayFollow
  /-- The first line may follow the one before; at the start it is not blank. -/
  head : ∀ first ∈ lines.head?, (before = none → first ≠ []) ∧
    ∀ line ∈ before, line ≠ [] → MayFollow line first

/-- A line that is kept is followed by what tidying leaves behind it. -/
theorem TidyBehind.cons {before : Option Line} {line : Line} {lines : List Line}
    (hline : line ≠ []) (h : TidyBehind (some line) lines) : TidyBehind before (line :: lines) where
  getLast_ne := by
    rw [List.getLast?_cons]
    cases hlast : lines.getLast? with
    | none => simpa using hline
    | some last =>
      rw [Option.getD_some, Ne, Option.some.injEq]
      intro heq
      subst heq
      exact h.getLast_ne hlast
  isChain := by
    rw [List.isChain_cons]
    exact ⟨fun first hfirst => (h.head first hfirst).2 line rfl hline, h.isChain⟩
  head := by
    intro first hfirst
    cases hfirst
    exact ⟨fun _ => hline, fun other _ hother => mayFollow_of_ne hother hline⟩

/-- A blank line that is kept stands between two lines that it may part. -/
theorem TidyBehind.cons_gap {before line : Line} {lines : List Line} (hbefore : before ≠ [])
    (hline : line ≠ []) (hpart : mayPart before line = true)
    (h : TidyBehind (some before) (line :: lines)) :
    TidyBehind (some before) ([] :: line :: lines) where
  getLast_ne := by
    rw [List.getLast?_cons_cons]
    exact h.getLast_ne
  isChain := by
    rw [List.isChain_cons]
    refine ⟨?_, h.isChain⟩
    intro first hfirst
    cases hfirst
    exact ((mayPart_iff hbefore hline).mp hpart).2
  head := by
    intro first hfirst
    cases hfirst
    refine ⟨nofun, ?_⟩
    rintro other ⟨⟩ -
    exact ((mayPart_iff hbefore hline).mp hpart).1

/-- Tidying keeps its promise from any line on. Induction along the lines. -/
theorem tidyBehind_tidyFrom {before : Option Line} (hbefore : ∀ line ∈ before, line ≠ [])
    (gap : Bool) (lines : List Line) : TidyBehind before (tidyFrom before gap lines) := by
  fun_induction tidyFrom before gap lines with
  | case1 => exact ⟨by simp, .nil, nofun⟩
  | case2 before gap rest ih => exact ih hbefore
  | case3 before gap line rest hne hgap ih =>
    have hline : line ≠ [] := fun h => hne h
    have hrest : TidyBehind (some line) (tidyFrom (some line) false rest) :=
      ih fun other hother => Option.mem_some.mp hother ▸ hline
    -- a blank line is kept only behind another line
    cases before with
    | none => exact absurd hgap (by simp [keepsGap])
    | some before =>
      have hpart : mayPart before line = true := by
        rw [keepsGap, Bool.and_eq_true] at hgap
        exact hgap.2
      exact (hrest.cons hline).cons_gap (hbefore before rfl) hline hpart
  | case4 before gap line rest hne hgap ih =>
    have hline : line ≠ [] := fun h => hne h
    have hrest : TidyBehind (some line) (tidyFrom (some line) false rest) :=
      ih fun other hother => Option.mem_some.mp hother ▸ hline
    exact hrest.cons hline

/-- **Tidied lines are well parted.** -/
theorem wellParted_tidy (lines : List Line) : WellParted (tidy lines) := by
  have h : TidyBehind none (tidy lines) := tidyBehind_tidyFrom (by simp) false lines
  exact ⟨fun hhead => (h.head [] hhead).1 rfl rfl, h.getLast_ne, h.isChain⟩

/-! ## Well parted lines are tidy -/

/-- The blank line that has been seen and not yet been decided on. -/
def pending (gap : Bool) : List Line :=
  if gap then [[]] else []

/-- Nothing is dropped from lines that may all stay. Induction along the lines; the blank line seen
last is still to be written. -/
theorem tidyFrom_of_isChain {before : Line} (hbefore : before ≠ []) (gap : Bool) {lines : List Line}
    (hchain : (before :: (pending gap ++ lines)).IsChain MayFollow)
    (hlast : (pending gap ++ lines).getLast? ≠ some []) :
    tidyFrom (some before) gap lines = pending gap ++ lines := by
  induction lines generalizing before gap with
  | nil =>
    cases gap with
    | true => exact absurd rfl hlast
    | false => rfl
  | cons line rest ih =>
    by_cases hline : line = []
    · subst hline
      -- a second blank line in a row is ruled out, and a first one is pending from here on
      cases gap with
      | true =>
        rw [pending, if_pos rfl, List.singleton_append] at hchain
        have hblank : MayFollow [] [] := (List.isChain_cons_cons.mp (List.isChain_cons.mp hchain).2).1
        exact absurd rfl (hblank.1 rfl).1
      | false => exact ih hbefore true hchain hlast
    · have hrest : (line :: rest).IsChain MayFollow := by
        cases gap with
        | true => exact (List.isChain_cons.mp (List.isChain_cons.mp hchain).2).2
        | false => exact (List.isChain_cons.mp hchain).2
      have hrestLast : rest.getLast? ≠ some [] := by
        intro heq
        refine hlast ?_
        rw [List.getLast?_append, List.getLast?_cons, heq]
        rfl
      have htail := ih hline false hrest hrestLast
      -- the pending blank line stands between two lines that it may part
      have hkeeps : keepsGap (some before) gap line = gap := by
        cases gap with
        | true =>
          rw [pending, if_pos rfl, List.singleton_append] at hchain
          obtain ⟨hfirst, hsecond⟩ := List.isChain_cons_cons.mp hchain
          rw [keepsGap, Bool.true_and, mayPart_iff hbefore hline]
          exact ⟨hfirst, (List.isChain_cons_cons.mp hsecond).1⟩
        | false => rfl
      rw [tidyFrom, hkeeps, htail]
      · cases gap <;> rfl
      · exact hline

/-- **Well parted lines are tidy.** -/
theorem tidy_of_wellParted {lines : List Line} (h : WellParted lines) : tidy lines = lines := by
  cases lines with
  | nil => rfl
  | cons line rest =>
    have hline : line ≠ [] := by
      intro heq
      subst heq
      exact h.head_ne rfl
    -- the first line is kept as it stands, so tidying starts behind it
    have hlast : rest.getLast? ≠ some [] := by
      intro heq
      refine h.getLast_ne ?_
      rw [List.getLast?_cons, heq]
      rfl
    have htail := tidyFrom_of_isChain hline false h.isChain hlast
    rw [tidy, tidyFrom, keepsGap, if_neg (by decide), htail]
    · rfl
    · exact hline

/-- A blank line at the end is dropped. Induction along the lines. -/
theorem tidy_append_blank (lines : List Line) : tidy (lines ++ [[]]) = tidy lines := by
  have hfrom (before : Option Line) (gap : Bool) :
      tidyFrom before gap (lines ++ [[]]) = tidyFrom before gap lines := by
    fun_induction tidyFrom before gap lines with
    | case1 => rfl
    | case2 before gap rest ih => exact ih
    | case3 before gap line rest hne hgap ih =>
      rw [List.cons_append, tidyFrom, if_pos hgap, ih]
      exact hne
    | case4 before gap line rest hne hgap ih =>
      rw [List.cons_append, tidyFrom, if_neg hgap, ih]
      exact hne
  exact hfrom none false

/-- Tidying keeps every line that is not blank, in order: what takes no notice of blank lines cannot
tell the lines from the tidied ones. -/
theorem flatMap_tidy {α : Type} (f : Line → List α) (hf : f [] = []) (lines : List Line) :
    (tidy lines).flatMap f = lines.flatMap f := by
  have hfrom (before : Option Line) (gap : Bool) :
      (tidyFrom before gap lines).flatMap f = lines.flatMap f := by
    fun_induction tidyFrom before gap lines with
    | case1 => rfl
    | case2 before gap rest ih => rw [List.flatMap_cons, hf, ih, List.nil_append]
    | case3 before gap line rest hne hgap ih =>
      rw [List.flatMap_cons, List.flatMap_cons, List.flatMap_cons, hf, ih, List.nil_append]
    | case4 before gap line rest hne hgap ih => rw [List.flatMap_cons, List.flatMap_cons, ih]
  exact hfrom none false

/-- **Tidying adds and drops no line but blank ones.** -/
theorem mem_tidy_iff {lines : List Line} {line : Line} (hline : line ≠ []) :
    line ∈ tidy lines ↔ line ∈ lines := by
  have hmem (others : List Line) : line ∈ others ↔
      line ∈ others.flatMap fun line => if line = [] then [] else [line] := by
    rw [List.mem_flatMap]
    constructor
    · exact fun h => ⟨line, h, by rw [if_neg hline]; exact List.mem_singleton_self line⟩
    · rintro ⟨other, hother, heq⟩
      split at heq
      next => exact absurd heq (by simp)
      next => rwa [List.mem_singleton.mp heq]
  have hsame := flatMap_tidy (fun line => if line = [] then [] else [line]) (if_pos rfl) lines
  rw [hmem (tidy lines), hsame, ← hmem]

/-- Tidying brings in no lines but blank ones. -/
theorem eq_nil_or_mem_of_mem_tidy {lines : List Line} {line : Line} (h : line ∈ tidy lines) :
    line = [] ∨ line ∈ lines := by
  by_cases hline : line = []
  · exact Or.inl hline
  · exact Or.inr ((mem_tidy_iff hline).mp h)

end Scaffold.Layout
