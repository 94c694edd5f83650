import Mathlib.Data.List.Basic
import Scaffold.PosixPath

/-!
# Paths, written and read

A path is read back from its text (`PosixPath.ofString_chars`): its steps hold no slash and none of
them is dropped, so the slashes of the text are those between them and those of the root.
-/

namespace Scaffold

/-- A segment of a path is neither empty nor a single dot, and it holds no slash. -/
theorem isPathSegment_iff {segment : List Char} :
    isPathSegment segment = true ↔ segment ≠ [] ∧ segment ≠ ['.'] ∧ '/' ∉ segment := by
  simp [isPathSegment, and_assoc]

namespace PosixPath

/-- Steps with slashes between do not start with a slash. -/
theorem head?_intercalate_ne {segments : List (List Char)}
    (h : ∀ segment ∈ segments, isPathSegment segment = true) :
    (['/'].intercalate segments).head? ≠ some '/' := by
  cases segments with
  | nil => simp
  | cons first rest =>
    obtain ⟨hne, -, hslash⟩ := isPathSegment_iff.mp (h first List.mem_cons_self)
    obtain ⟨c, cs, rfl⟩ := List.exists_cons_of_ne_nil hne
    have hc : c ≠ '/' := fun heq => hslash (heq ▸ List.mem_cons_self)
    cases rest <;> simpa [List.intercalate] using hc

/-- The pieces between the slashes are the steps, if there are any. -/
theorem stepsOf_splitOn_intercalate {segments : List (List Char)}
    (h : ∀ segment ∈ segments, isPathSegment segment = true) :
    stepsOf ((['/'].intercalate segments).splitOn '/') = segments := by
  by_cases hnil : segments = []
  · subst hnil
    rfl
  · have hslash : ∀ segment ∈ segments, '/' ∉ segment :=
      fun segment hsegment => (isPathSegment_iff.mp (h segment hsegment)).2.2
    rw [List.splitOn_intercalate '/' hslash hnil]
    exact List.filter_eq_self.mpr h

/-- A slash in front adds a piece that names no step. -/
theorem stepsOf_splitOn_slash (cs : List Char) :
    stepsOf (('/' :: cs).splitOn '/') = stepsOf (cs.splitOn '/') := by
  rw [List.splitOn_cons_eq_if_modifyHead, if_pos (by decide)]
  rfl

/-- The root of a path is read off the slashes that it starts with. -/
theorem ofSlashes_append {root : PathRoot} {cs : List Char} (h : cs.head? ≠ some '/') :
    PathRoot.ofSlashes (root.slashes ++ cs) = root := by
  cases cs with
  | nil => cases root <;> rfl
  | cons c cs =>
    have hc : c ≠ '/' := by simpa using h
    cases root <;> simp [PathRoot.slashes, PathRoot.ofSlashes, hc]

/-- The slashes of the root give no step. -/
theorem stepsOf_splitOn_slashes (root : PathRoot) (cs : List Char) :
    stepsOf ((root.slashes ++ cs).splitOn '/') = stepsOf (cs.splitOn '/') := by
  cases root with
  | relative => rfl
  | absolute => exact stepsOf_splitOn_slash cs
  | doubled => exact (stepsOf_splitOn_slash ('/' :: cs)).trans (stepsOf_splitOn_slash cs)

/-- **A path is read back from its text.** -/
theorem ofString_chars (p : PosixPath) : ofString (String.ofList p.chars) = p := by
  obtain ⟨root, segments, hsegments⟩ := p
  have h : ∀ segment ∈ segments, isPathSegment segment = true := List.all_eq_true.mp hsegments
  by_cases hdot : root = .relative ∧ segments = []
  · obtain ⟨rfl, rfl⟩ := hdot
    -- the empty relative path is written as a dot, which names no step
    simp only [ofString, String.toList_ofList, chars]
    rfl
  · have hchars : chars ⟨root, segments, hsegments⟩
        = root.slashes ++ ['/'].intercalate segments := by
      unfold chars
      split
      next hroot hnil => exact absurd ⟨hroot, hnil⟩ hdot
      next => rfl
    simp only [ofString, String.toList_ofList, hchars, ofSlashes_append (head?_intercalate_ne h),
      stepsOf_splitOn_slashes, stepsOf_splitOn_intercalate h]

/-- The empty text is read as the path of a dot, so no path is written with it. -/
theorem toString_ne_empty (p : PosixPath) : p.toString ≠ "" := by
  intro hempty
  have hread : ofString p.toString = p := p.ofString_chars
  rw [hempty] at hread
  rw [← hread] at hempty
  exact absurd hempty (by decide)

end PosixPath

end Scaffold
