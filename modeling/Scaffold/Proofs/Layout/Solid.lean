import Scaffold.Proofs.Layout.BlankLine

/-!
# Lines that blank lines may part

Well parted lines may stand side by side (**`WellParted.append`**). Between two groups of them a
blank line may stand if the first ends, and the second begins, with a line that allows it. Lines
that allow it at both ends are *solid* (`IsSolid`):

* **`IsSolid.append`**, **`IsSolid.append_gap`**: solid lines side by side, and with a blank line
  between, are solid.
* **`IsSolid.cons`**: any line that is not blank and closes no block may stand before solid ones.
* **`isSolid_block`**: well parted lines between braces are solid.
-/

namespace Scaffold.Layout

theorem wellParted_nil : WellParted [] :=
  ⟨by simp, by simp, .nil⟩

/-- Well parted lines may stand side by side: no blank line stands where they meet. -/
theorem WellParted.append {first second : List Line} (hfirst : WellParted first)
    (hsecond : WellParted second) : WellParted (first ++ second) where
  head_ne := by
    cases first with
    | nil => exact hsecond.head_ne
    | cons line rest => exact hfirst.head_ne
  getLast_ne := by
    rw [List.getLast?_append]
    cases hlast : second.getLast? with
    | none =>
      rw [Option.none_or]
      exact hfirst.getLast_ne
    | some line =>
      rw [Option.some_or, ← hlast]
      exact hsecond.getLast_ne
  isChain := by
    -- where they meet, neither line is blank
    refine List.isChain_append.mpr ⟨hfirst.isChain, hsecond.isChain, fun line hline next hnext => ?_⟩
    refine mayFollow_of_ne ?_ ?_
    · intro heq
      subst heq
      exact hfirst.getLast_ne hline
    · intro heq
      subst heq
      exact hsecond.head_ne hnext

theorem wellParted_singleton {line : Line} (hne : line ≠ []) : WellParted [line] :=
  ⟨by simpa using hne, by simpa using hne, .singleton line⟩

/-! ## Solid lines -/

/-- Well parted lines before and behind which a blank line may stand. -/
structure IsSolid (lines : List Line) : Prop where
  ne_nil : lines ≠ []
  wellParted : WellParted lines
  head : ∀ first ∈ lines.head?, MayFollow [] first
  last : ∀ last ∈ lines.getLast?, MayFollow last []

/-- A line that is not blank, closes no block, opens none and documents nothing is solid. -/
theorem isSolid_singleton {line : Line} (hne : line ≠ []) (hclose : line.head? ≠ some closeBrace)
    (hopen : line ≠ [openBrace]) (hdoc : ¬['/', '/', '/'] <+: line) : IsSolid [line] where
  ne_nil := List.cons_ne_nil line []
  wellParted := wellParted_singleton hne
  head := by
    intro first hfirst
    cases hfirst
    exact ⟨fun _ => ⟨hne, hclose⟩, fun h => absurd h hne⟩
  last := by
    intro last hlast
    cases hlast
    exact ⟨fun h => absurd h hne, fun _ => ⟨hopen, hdoc⟩⟩

/-- The last of some lines and of others is the last of the others, if there is one. -/
theorem mem_getLast?_append {first second : List Line} (hne : second ≠ []) {line : Line}
    (h : line ∈ (first ++ second).getLast?) : line ∈ second.getLast? := by
  rw [List.getLast?_append, List.getLast?_eq_some_getLast hne, Option.some_or] at h
  rw [List.getLast?_eq_some_getLast hne]
  exact h

/-- The first of some lines and of others is the first of the former, if there is one. -/
theorem mem_head?_append {first second : List Line} (hne : first ≠ []) {line : Line}
    (h : line ∈ (first ++ second).head?) : line ∈ first.head? := by
  obtain ⟨next, rest, rfl⟩ := List.exists_cons_of_ne_nil hne
  exact h

/-- **Solid lines side by side are solid.** -/
theorem IsSolid.append {first second : List Line} (hfirst : IsSolid first)
    (hsecond : IsSolid second) : IsSolid (first ++ second) where
  ne_nil := List.append_ne_nil_of_left_ne_nil hfirst.ne_nil second
  wellParted := hfirst.wellParted.append hsecond.wellParted
  head line hline := hfirst.head line (mem_head?_append hfirst.ne_nil hline)
  last line hline := hsecond.last line (mem_getLast?_append hsecond.ne_nil hline)

/-- **Solid lines with a blank line between are solid.** -/
theorem IsSolid.append_gap {first second : List Line} (hfirst : IsSolid first)
    (hsecond : IsSolid second) : IsSolid (first ++ [] :: second) where
  ne_nil := List.append_ne_nil_of_left_ne_nil hfirst.ne_nil _
  wellParted := by
    obtain ⟨next, rest, rfl⟩ := List.exists_cons_of_ne_nil hfirst.ne_nil
    obtain ⟨line, others, rfl⟩ := List.exists_cons_of_ne_nil hsecond.ne_nil
    refine ⟨hfirst.wellParted.head_ne, ?_, ?_⟩
    · rw [List.getLast?_append, List.getLast?_cons_cons, List.getLast?_cons, Option.some_or,
        ← List.getLast?_cons]
      exact hsecond.wellParted.getLast_ne
    · -- the blank line may follow the last of the first and precede the first of the second
      refine List.isChain_append.mpr ⟨hfirst.wellParted.isChain, ?_, ?_⟩
      · exact List.isChain_cons.mpr ⟨hsecond.head, hsecond.wellParted.isChain⟩
      · intro last hlast gap hgap
        cases hgap
        exact hfirst.last last hlast
  head line hline := hfirst.head line (mem_head?_append hfirst.ne_nil hline)
  last line hline := by
    rw [List.append_cons] at hline
    exact hsecond.last line (mem_getLast?_append hsecond.ne_nil hline)

/-- **A line before solid ones** may be any that is not blank and closes no block. -/
theorem IsSolid.cons {line : Line} {rest : List Line} (h : IsSolid rest) (hne : line ≠ [])
    (hclose : line.head? ≠ some closeBrace) : IsSolid (line :: rest) where
  ne_nil := List.cons_ne_nil line rest
  wellParted := (wellParted_singleton hne).append h.wellParted
  head := by
    intro first hfirst
    cases hfirst
    exact ⟨fun _ => ⟨hne, hclose⟩, fun hnil => absurd hnil hne⟩
  last other hother := by
    rw [← List.singleton_append] at hother
    exact h.last other (mem_getLast?_append h.ne_nil hother)

/-- **Well parted lines between braces are solid.** -/
theorem isSolid_block {body : List Line} (h : WellParted body) (cs : List Char) :
    IsSolid ([openBrace] :: (body ++ [closeBrace :: cs])) where
  ne_nil := List.cons_ne_nil _ _
  wellParted :=
    (wellParted_singleton (List.cons_ne_nil _ _)).append
      (h.append (wellParted_singleton (List.cons_ne_nil closeBrace cs)))
  head := by
    intro first hfirst
    cases hfirst
    exact ⟨fun _ => by decide, fun hnil => absurd hnil (by decide)⟩
  last line hline := by
    rw [← List.singleton_append, ← List.append_assoc] at hline
    -- the last line is the closing brace, which neither opens a block nor documents
    obtain rfl : closeBrace :: cs = line := by
      simpa using mem_getLast?_append (List.cons_ne_nil _ _) hline
    refine ⟨fun hnil => absurd hnil (by simp), fun _ => ⟨by simp [openBrace, closeBrace], ?_⟩⟩
    rintro ⟨rest, hrest⟩
    exact absurd (List.cons.inj hrest).1 (by decide)

end Scaffold.Layout
