import Scaffold.Proofs.Layout.Absorption
import Scaffold.Proofs.Layout.Indent
import Scaffold.Proofs.Layout.NormalText

/-!
# The normal form of layout

What layout puts out can be described without it, line by line: where blank lines stand, how deep
each line is, and what its text looks like. These conditions describe its output *exactly*.

* **`isIndented_iff`**: lines stand at the depths that their braces ask for just when they are
  indented one after the other.
* **`isNormal_format`**: layout puts out sources in normal form.
* **`IsNormal.format_eq`**: layout leaves sources in normal form alone.
* **`isNormal_iff_format`**: so a source is in normal form just when layout has put it out.
-/

namespace Scaffold.Layout

/-! ## Depths -/

/-- The lines are the texts at the depths that their braces ask for, where the line before left the
given depth: a closing brace takes its own line one level up, never above the first, and an opening
brace takes the lines behind it one level down. A blank line has no indentation. -/
inductive IsIndented (unit : List Char) : Nat → List Line → List Line → Prop where
  | nil (depth : Nat) : IsIndented unit depth [] []
  | blank {depth : Nat} {texts lines : List Line} (h : IsIndented unit depth texts lines) :
      IsIndented unit depth ([] :: texts) ([] :: lines)
  | opening {depth : Nat} {texts lines : List Line} (h : IsIndented unit (depth + 1) texts lines) :
      IsIndented unit depth ([openBrace] :: texts)
        (((List.replicate depth unit).flatten ++ [openBrace]) :: lines)
  | closing {depth : Nat} {rest : List Char} {texts lines : List Line}
      (h : IsIndented unit (depth - 1) texts lines) :
      IsIndented unit depth ((closeBrace :: rest) :: texts)
        (((List.replicate (depth - 1) unit).flatten ++ closeBrace :: rest) :: lines)
  | other {depth : Nat} {text : Line} {texts lines : List Line} (hne : text ≠ [])
      (hopen : text ≠ [openBrace]) (hclose : text.head? ≠ some closeBrace)
      (h : IsIndented unit depth texts lines) :
      IsIndented unit depth (text :: texts) (((List.replicate depth unit).flatten ++ text) :: lines)

/-- **Lines stand at the depths that their braces ask for** just when they are indented one after
the other. -/
theorem isIndented_iff {unit : List Char} {depth : Nat} {texts lines : List Line} :
    IsIndented unit depth texts lines ↔ lines = indentFrom unit depth texts := by
  constructor
  · intro h
    induction h with
    | nil => rfl
    | blank _ ih => rw [indentFrom_blank, ih]
    | opening _ ih => rw [indentFrom_opening, ih]
    | closing _ ih => rw [indentFrom_closing, ih]
    | other hne hopen hclose _ ih => rw [indentFrom_other hne hopen hclose, ih]
  · intro heq
    subst heq
    -- the kinds of line that indentation tells apart, one after the other
    induction texts generalizing depth with
    | nil => exact .nil depth
    | cons text texts ih =>
      by_cases hne : text = []
      · rw [hne, indentFrom_blank]
        exact .blank ih
      by_cases hopen : text = [openBrace]
      · rw [hopen, indentFrom_opening]
        exact .opening ih
      by_cases hclose : text.head? = some closeBrace
      · obtain ⟨cs, rfl⟩ := List.head?_eq_some_iff.mp hclose
        rw [indentFrom_closing]
        exact .closing ih
      · rw [indentFrom_other hne hopen hclose]
        exact .other hne hopen hclose ih

/-! ## The normal form of a source -/

/-- Lines in normal form, with the texts that they hold below their indentation. -/
structure AreNormal (settings : LayoutSettings) (texts lines : List Line) : Prop where
  isUnbroken : ∀ line ∈ lines, Text.IsUnbroken line
  wellParted : WellParted texts
  isIndented : IsIndented settings.unit 0 texts lines
  isNormalText : ∀ text ∈ texts, text ≠ [] → IsNormalText text

/-- A source in normal form is empty, or it is lines in normal form, joined with the separator of
the settings and followed by one. -/
def IsNormal (settings : LayoutSettings) (source : String) : Prop :=
  source = "" ∨ ∃ texts lines, lines ≠ [] ∧ AreNormal settings texts lines ∧
    source.toList = settings.newline.chars.intercalate lines ++ settings.newline.chars

/-- The text of a line without line ends holds none. -/
theorem isUnbroken_of_indentLine {unit : List Char} {depth : Nat} {text : Line}
    (h : Text.IsUnbroken (indentLine unit depth text)) : Text.IsUnbroken text := by
  rw [indentLine] at h
  split at h
  next hnil => rw [hnil]; exact Text.isUnbroken_nil
  next => exact (Text.isUnbroken_append_iff.mp h).2

/-- The texts of lines without line ends hold none. -/
theorem isUnbroken_of_indentFrom {unit : List Char} {depth : Nat} {texts : List Line}
    (h : ∀ line ∈ indentFrom unit depth texts, Text.IsUnbroken line) :
    ∀ text ∈ texts, Text.IsUnbroken text := by
  induction texts generalizing depth with
  | nil => exact nofun
  | cons text rest ih =>
    rw [indentFrom] at h
    intro other hother
    rcases List.mem_cons.mp hother with rfl | hrest
    · exact isUnbroken_of_indentLine (h _ List.mem_cons_self)
    · exact ih (fun line hline => h line (List.mem_cons_of_mem _ hline)) other hrest

/-- Layout puts out sources in normal form. -/
theorem isNormal_format (settings : LayoutSettings) (source : String) :
    IsNormal settings (format settings source) := by
  have hsettled : ∀ line ∈ layoutLines source.toList, IsSettled line :=
    fun _ h => isSettled_of_mem_layoutLines h
  -- a source of blank lines is laid out as the empty text
  by_cases hnil : layoutLines source.toList = []
  · refine Or.inl ?_
    rw [format, formatChars, hnil]
    rfl
  · have hlines : indentFrom settings.unit 0 (layoutLines source.toList) ≠ [] := by
      obtain ⟨line, rest, hcons⟩ := List.exists_cons_of_ne_nil hnil
      rw [hcons, indentFrom]
      exact List.cons_ne_nil _ _
    refine Or.inr ⟨layoutLines source.toList, _, hlines, ⟨?_, ?_, isIndented_iff.mpr rfl, ?_⟩, ?_⟩
    · exact fun line hline => isUnbroken_of_mem_indentFrom hsettled hline
    · exact wellParted_tidy _
    · exact fun text htext hne => (segments_eq_singleton_iff hne).mp (hsettled text htext).segments_eq
    · rw [format, String.toList_ofList, formatChars, printLines, Text.flatMap_append_eq_intercalate hlines]

/-- Layout leaves sources in normal form alone. -/
theorem IsNormal.format_eq {settings : LayoutSettings} {source : String}
    (h : IsNormal settings source) : format settings source = source := by
  rcases h with rfl | ⟨texts, lines, hne, hnormal, hsource⟩
  · have hnone : layoutLines [] = [] := by
      rw [layoutLines, Text.lines_nil, List.flatMap_singleton, segments_nil]
      rfl
    rw [format, formatChars, String.toList_empty, hnone]
    rfl
  · obtain ⟨hunbroken, hparted, hindented, htexts⟩ := hnormal
    obtain rfl := isIndented_iff.mp hindented
    -- each line is settled, so indentation and cutting give it back
    have hsettled : ∀ text ∈ texts, IsSettled text := by
      intro text htext
      by_cases hnil : text = []
      · rw [hnil]
        exact isSettled_nil
      · exact ⟨(segments_eq_singleton_iff hnil).mpr (htexts text htext hnil),
          isUnbroken_of_indentFrom hunbroken text htext⟩
    have hprint : source.toList = printLines settings texts := by
      rw [hsource, printLines, Text.flatMap_append_eq_intercalate hne]
    rw [format, formatChars, hprint, layoutLines_printLines settings hsettled hparted, ← hprint,
      String.ofList_toList]

/-- **The outputs of layout are exactly the sources in normal form**, and these are exactly the
sources that layout leaves alone. -/
theorem isNormal_iff_format (settings : LayoutSettings) (text : String) :
    (IsNormal settings text ↔ format settings text = text)
      ∧ (IsNormal settings text ↔ ∃ source, format settings source = text) := by
  refine ⟨⟨IsNormal.format_eq, fun h => ?_⟩, ⟨fun h => ⟨text, h.format_eq⟩, ?_⟩⟩
  · rw [← h]
    exact isNormal_format settings text
  · rintro ⟨source, rfl⟩
    exact isNormal_format settings source

end Scaffold.Layout
