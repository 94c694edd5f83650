import Mathlib.Data.List.DropRight
import Scaffold.Text.Blank

/-!
# Trimming

What is left of a text without the white space at its end. `trimEnd` is the library's `rdropWhile`
for `isBlank`, so a trimmed text is known by its last character:

* **`trimEnd_eq_self_iff`**: nothing is trimmed exactly when the last character shows.
* **`trimEnd_append_blanks`**: only white space is trimmed.
* **`trimEnd_cons`**: a character that shows shields what stands before it.
-/

namespace Scaffold.Text

theorem trimEnd_eq_rdropWhile (cs : List Char) : trimEnd cs = cs.rdropWhile isBlank := rfl

/-- Nothing is trimmed from a text exactly when its last character shows. -/
theorem trimEnd_eq_self_iff {cs : List Char} :
    trimEnd cs = cs ↔ ∀ c ∈ cs.getLast?, isBlank c = false := by
  rw [trimEnd_eq_rdropWhile, List.rdropWhile_eq_self_iff]
  constructor
  · intro h c hc
    obtain ⟨hne, rfl⟩ := List.mem_getLast?_eq_getLast hc
    simpa using h hne
  · intro h hne
    simpa using h _ (List.getLast?_eq_some_getLast hne)

theorem trimEnd_trimEnd (cs : List Char) : trimEnd (trimEnd cs) = trimEnd cs :=
  List.rdropWhile_idempotent isBlank cs

/-- The last character of a trimmed text shows. -/
theorem isBlank_of_mem_getLast?_trimEnd {cs : List Char} {c : Char}
    (h : c ∈ (trimEnd cs).getLast?) : isBlank c = false :=
  trimEnd_eq_self_iff.mp (trimEnd_trimEnd cs) c h

/-- A text is its trimmed form followed by white space. -/
theorem trimEnd_append_blanks (cs : List Char) :
    ∃ blanks, cs = trimEnd cs ++ blanks ∧ ∀ c ∈ blanks, isBlank c = true := by
  refine ⟨cs.rtakeWhile isBlank, ?_, fun c hc => List.mem_rtakeWhile_imp hc⟩
  rw [trimEnd_eq_rdropWhile, List.rdropWhile_append_rtakeWhile]

theorem mem_of_mem_trimEnd {cs : List Char} {c : Char} (h : c ∈ trimEnd cs) : c ∈ cs :=
  (List.rdropWhile_prefix isBlank cs).subset h

/-! ## The last character of a text -/

/-- Where the last character of a text shows, that of every end of it does. -/
theorem shows_getLast?_right {first second : List Char}
    (h : ∀ c ∈ (first ++ second).getLast?, isBlank c = false) :
    ∀ c ∈ second.getLast?, isBlank c = false := by
  intro c hc
  refine h c ?_
  rw [List.getLast?_append, Option.mem_def.mp hc, Option.some_or]
  exact Option.mem_some_self c

/-- Where the last characters of both parts of a text show, that of the text does. -/
theorem shows_getLast?_append {first second : List Char}
    (hfirst : ∀ c ∈ first.getLast?, isBlank c = false)
    (hsecond : ∀ c ∈ second.getLast?, isBlank c = false) :
    ∀ c ∈ (first ++ second).getLast?, isBlank c = false := by
  intro c hc
  rw [List.getLast?_append] at hc
  cases hlast : second.getLast? with
  | none =>
    rw [hlast, Option.none_or] at hc
    exact hfirst c hc
  | some d =>
    rw [hlast, Option.some_or] at hc
    exact hsecond c (hlast ▸ hc)

/-! ## Texts with white space around them -/

/-- White space at the end does not count. -/
theorem trimEnd_append_of_blank (cs : List Char) {blanks : List Char}
    (h : ∀ c ∈ blanks, isBlank c = true) : trimEnd (cs ++ blanks) = trimEnd cs := by
  -- read from the end, the white space is dropped before the text is reached
  have hrev : blanks.reverse.dropWhile isBlank = [] := by
    rw [List.dropWhile_eq_nil_iff]
    intro c hc
    exact h c (List.mem_reverse.mp hc)
  rw [trimEnd, trimEnd, List.reverse_append, List.dropWhile_append, hrev]
  rfl

/-- A character that shows keeps its place before a trimmed text: `c :: trimEnd cs` has nothing to
trim, and `c :: cs` only has white space behind it. -/
theorem trimEnd_cons {c : Char} (hc : isBlank c = false) (cs : List Char) :
    trimEnd (c :: cs) = c :: trimEnd cs := by
  obtain ⟨blanks, hcs, hblanks⟩ := trimEnd_append_blanks cs
  have hself : trimEnd (c :: trimEnd cs) = c :: trimEnd cs := by
    rw [trimEnd_eq_self_iff]
    intro d hd
    rw [List.getLast?_cons, Option.mem_some] at hd
    -- the last character is `c` itself if all of `cs` is white space
    cases hlast : (trimEnd cs).getLast? with
    | none =>
      rw [hlast, Option.getD_none] at hd
      rw [← hd, hc]
    | some e =>
      rw [hlast, Option.getD_some] at hd
      rw [← hd]
      exact isBlank_of_mem_getLast?_trimEnd hlast
  calc trimEnd (c :: cs) = trimEnd ((c :: trimEnd cs) ++ blanks) := by rw [List.cons_append, ← hcs]
    _ = trimEnd (c :: trimEnd cs) := trimEnd_append_of_blank _ hblanks
    _ = c :: trimEnd cs := hself

/-- A text without line feeds at its ends keeps all it holds. -/
theorem trimLineFeeds_eq_self {cs : List Char} (hhead : cs.head? ≠ some '\n')
    (hlast : cs.getLast? ≠ some '\n') : trimLineFeeds cs = cs := by
  -- nothing is dropped in front
  have hdrop : cs.dropWhile (· == '\n') = cs := by
    cases cs with
    | nil => rfl
    | cons c cs =>
      have hc : c ≠ '\n' := by simpa using hhead
      rw [List.dropWhile_cons_of_neg (by simpa using hc)]
  -- and nothing behind
  have hrdrop : cs.rdropWhile (· == '\n') = cs := by
    rw [List.rdropWhile_eq_self_iff]
    intro hne hc
    rw [beq_iff_eq] at hc
    rw [List.getLast?_eq_some_getLast hne, hc] at hlast
    exact hlast rfl
  rw [trimLineFeeds, hdrop]
  exact hrdrop

end Scaffold.Text
