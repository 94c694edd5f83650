import Scaffold.Proofs.Layout.Absorption
import Scaffold.Proofs.Layout.Indent
import Scaffold.Proofs.Layout.Solid
import Scaffold.Proofs.Render.Printer

/-!
# Pieces of source and what they are printed as

`Prints` ties a piece of loose source to the lines that layout cuts it into, and to what these are
printed as at any depth. It composes along `++`, so rendering is compared with printing piece by
piece and never looks at a whole source again:

* **`Introduces`**: pieces that may stand before others, such as documentation and headers.
* **`Stands`**: pieces that empty lines may stand around, such as whole members.
* **`Fills`**: pieces that may stand between braces.

`stands_block` builds the largest of them from the others, and **`Stands.format_eq`** is what they
are for: layout turns a piece that stands into what is printed for it.
-/

namespace Scaffold.Printer

open Layout

variable {layout : LayoutSettings}

/-- The piece is made of whole lines, which layout cuts into the given ones. These leave the depth
as they found it, and are printed as given. -/
structure Prints (layout : LayoutSettings) (piece : String) (lines : List Line)
    (printed : Printed) : Prop where
  cut : ∃ raws : List (List Char), (∀ raw ∈ raws, Text.IsUnbroken raw)
    ∧ piece.toList = raws.flatMap (· ++ ['\n']) ∧ raws.flatMap segments = lines
  depthAfter_eq : ∀ depth, lines.foldl depthAfter depth = depth
  indentFrom_eq : ∀ depth,
    (indentFrom layout.unit depth lines).flatMap (· ++ layout.newline.chars)
      = (printed depth).toList

theorem prints_nil : Prints layout "" [] fun _ => "" where
  cut := ⟨[], by simp⟩
  depthAfter_eq _ := rfl
  indentFrom_eq _ := rfl

/-- **Pieces compose.** -/
theorem Prints.append {first second : String} {lines others : List Line} {printed more : Printed}
    (hfirst : Prints layout first lines printed) (hsecond : Prints layout second others more) :
    Prints layout (first ++ second) (lines ++ others) fun depth => printed depth ++ more depth where
  cut := by
    obtain ⟨raws, hraws, hpiece, hlines⟩ := hfirst.cut
    obtain ⟨more, hmore, hmorePiece, hmoreLines⟩ := hsecond.cut
    refine ⟨raws ++ more, fun raw hraw => ?_, ?_, ?_⟩
    · exact (List.mem_append.mp hraw).elim (hraws raw) (hmore raw)
    · rw [String.toList_append, hpiece, hmorePiece, List.flatMap_append]
    · rw [List.flatMap_append, hlines, hmoreLines]
  depthAfter_eq depth := by
    rw [List.foldl_append, hfirst.depthAfter_eq, hsecond.depthAfter_eq]
  indentFrom_eq depth := by
    rw [indentFrom_append, hfirst.depthAfter_eq, List.flatMap_append, hfirst.indentFrom_eq,
      hsecond.indentFrom_eq, String.toList_append]

/-- A line is its indentation, its text and a newline. -/
theorem toList_line (layout : LayoutSettings) (text : String) (depth : Nat) :
    (line layout text depth).toList
      = (List.replicate depth layout.unit).flatten ++ text.toList ++ layout.newline.chars := by
  have hindent : (String.join (List.replicate depth layout.indent)).toList
      = (List.replicate depth layout.unit).flatten := by
    rw [String.toList_join, List.flatMap_def, List.map_replicate, LayoutSettings.indent,
      String.toList_ofList]
  rw [line, String.toList_append, String.toList_append, hindent, Newline.text,
    String.toList_ofList]

/-- A line that layout cuts into one, which opens and closes no block. -/
theorem prints_line {raw text : String} (hraw : Text.IsUnbroken raw.toList)
    (hsegments : segments raw.toList = [text.toList]) (hne : text.toList ≠ [])
    (hopen : text.toList ≠ [openBrace]) (hclose : text.toList.head? ≠ some closeBrace) :
    Prints layout (raw ++ "\n") [text.toList] (line layout text) where
  cut := ⟨[raw.toList], by simpa using hraw, by simp, by simp [hsegments]⟩
  depthAfter_eq depth := depthAfter_other hopen hclose depth
  indentFrom_eq depth := by
    rw [indentFrom_other hne hopen hclose, toList_line]
    simp [indentFrom]

/-- An empty line. -/
theorem prints_gap : Prints layout "\n" [[]] fun _ => layout.newline.text where
  cut := ⟨[[]], by simp [Text.isUnbroken_nil], by decide, by simp [segments_nil]⟩
  depthAfter_eq _ := rfl
  indentFrom_eq depth := by
    rw [indentFrom_blank, Newline.text, String.toList_ofList]
    simp [indentFrom]

/-- **A body between braces** is printed one level below them. -/
theorem Prints.block {body tail : String} {lines : List Line} {printed : Printed}
    (hbody : Prints layout body lines printed) (htail : IsTail tail) :
    Prints layout ("\x7b\n" ++ body ++ ("\x7d" ++ tail ++ "\n"))
      ([openBrace] :: (lines ++ [closeBrace :: tail.toList]))
      fun depth => line layout "\x7b" depth ++ printed (depth + 1)
        ++ line layout ("\x7d" ++ tail) depth where
  cut := by
    obtain ⟨raws, hraws, hpiece, hlines⟩ := hbody.cut
    refine ⟨[openBrace] :: (raws ++ [closeBrace :: tail.toList]), fun raw hraw => ?_, ?_, ?_⟩
    · -- the braces hold no line ends, and the body does not by assumption
      rcases List.mem_cons.mp hraw with rfl | hmem
      · decide
      · rcases List.mem_append.mp hmem with hbody | hclose
        · exact hraws raw hbody
        · rw [List.mem_singleton.mp hclose, ← List.singleton_append, Text.isUnbroken_append_iff]
          exact ⟨by decide, htail.isUnbroken⟩
    · simp [hpiece, openBrace, closeBrace]
    · have hclose : segments (closeBrace :: tail.toList) = [closeBrace :: tail.toList] :=
        (segments_eq_singleton_iff (List.cons_ne_nil _ _)).mpr htail.isNormalText
      rw [List.flatMap_cons, List.flatMap_append, List.flatMap_singleton, segments_opening, hlines,
        hclose, List.singleton_append]
  depthAfter_eq depth := by
    -- one level down, and one level up again
    rw [List.foldl_cons, List.foldl_append, depthAfter_opening, hbody.depthAfter_eq,
      List.foldl_cons, depthAfter_closing]
    rfl
  indentFrom_eq depth := by
    rw [indentFrom_opening, List.flatMap_cons, indentFrom_append, hbody.depthAfter_eq,
      List.flatMap_append, hbody.indentFrom_eq, indentFrom_closing, String.toList_append,
      String.toList_append, toList_line, toList_line]
    simp [indentFrom, openBrace, closeBrace]

/-! ## Pieces before others, by themselves, and between braces -/

/-- The piece may stand before one that stands. -/
def Introduces (layout : LayoutSettings) (piece : String) (printed : Printed) : Prop :=
  ∃ lines, Prints layout piece lines printed ∧ ∀ rest, IsSolid rest → IsSolid (lines ++ rest)

/-- Empty lines may stand before and behind the piece. -/
def Stands (layout : LayoutSettings) (piece : String) (printed : Printed) : Prop :=
  ∃ lines, Prints layout piece lines printed ∧ IsSolid lines

/-- The piece may stand between braces. -/
def Fills (layout : LayoutSettings) (piece : String) (printed : Printed) : Prop :=
  ∃ lines, Prints layout piece lines printed ∧ WellParted lines

theorem introduces_nil : Introduces layout "" fun _ => "" :=
  ⟨[], prints_nil, fun _ h => h⟩

theorem Introduces.append {first second : String} {printed more : Printed}
    (hfirst : Introduces layout first printed) (hsecond : Introduces layout second more) :
    Introduces layout (first ++ second) fun depth => printed depth ++ more depth := by
  obtain ⟨lines, hlines, hsolid⟩ := hfirst
  obtain ⟨others, hothers, hmore⟩ := hsecond
  refine ⟨lines ++ others, hlines.append hothers, fun rest hrest => ?_⟩
  rw [List.append_assoc]
  exact hsolid _ (hmore rest hrest)

/-- A piece that stands still does so behind what introduces it. -/
theorem Introduces.stands {first second : String} {printed more : Printed}
    (hfirst : Introduces layout first printed) (hsecond : Stands layout second more) :
    Stands layout (first ++ second) fun depth => printed depth ++ more depth := by
  obtain ⟨lines, hlines, hsolid⟩ := hfirst
  obtain ⟨others, hothers, hmore⟩ := hsecond
  exact ⟨lines ++ others, hlines.append hothers, hsolid others hmore⟩

/-- Two pieces that stand do so together. -/
theorem Stands.append {first second : String} {printed more : Printed}
    (hfirst : Stands layout first printed) (hsecond : Stands layout second more) :
    Stands layout (first ++ second) fun depth => printed depth ++ more depth := by
  obtain ⟨lines, hlines, hsolid⟩ := hfirst
  obtain ⟨others, hothers, hmore⟩ := hsecond
  exact ⟨lines ++ others, hlines.append hothers, hsolid.append hmore⟩

/-- An empty line may stand between pieces that stand. -/
theorem Stands.append_gap {first second : String} {printed more : Printed}
    (hfirst : Stands layout first printed) (hsecond : Stands layout second more) :
    Stands layout (first ++ "\n" ++ second)
      fun depth => printed depth ++ layout.newline.text ++ more depth := by
  obtain ⟨lines, hlines, hsolid⟩ := hfirst
  obtain ⟨others, hothers, hmore⟩ := hsecond
  refine ⟨lines ++ [[]] ++ others, (hlines.append prints_gap).append hothers, ?_⟩
  rw [List.append_assoc]
  exact hsolid.append_gap hmore

/-- An empty line behind a piece that stands introduces others. -/
theorem Stands.introduces_gap {piece : String} {printed : Printed}
    (h : Stands layout piece printed) :
    Introduces layout (piece ++ "\n") fun depth => printed depth ++ layout.newline.text := by
  obtain ⟨lines, hlines, hsolid⟩ := h
  refine ⟨lines ++ [[]], hlines.append prints_gap, fun rest hrest => ?_⟩
  rw [List.append_assoc]
  exact hsolid.append_gap hrest

theorem fills_nil : Fills layout "" fun _ => "" :=
  ⟨[], prints_nil, wellParted_nil⟩

theorem Fills.append {first second : String} {printed more : Printed}
    (hfirst : Fills layout first printed) (hsecond : Fills layout second more) :
    Fills layout (first ++ second) fun depth => printed depth ++ more depth := by
  obtain ⟨lines, hlines, hparted⟩ := hfirst
  obtain ⟨others, hothers, hmore⟩ := hsecond
  exact ⟨lines ++ others, hlines.append hothers, hparted.append hmore⟩

/-- A piece that stands fills a block. -/
theorem Stands.fills {piece : String} {printed : Printed} (h : Stands layout piece printed) :
    Fills layout piece printed := by
  obtain ⟨lines, hlines, hsolid⟩ := h
  exact ⟨lines, hlines, hsolid.wellParted⟩

/-! ## Plain lines -/

/-- A plain text is printed as a line. -/
theorem prints_plain {text : String} (h : IsPlain text) :
    Prints layout (text ++ "\n") [text.toList] (line layout text) := by
  obtain ⟨hopen, hclose, -⟩ := h.not_layout
  obtain ⟨c, cs, hcons⟩ := h.exists_cons
  exact prints_line h.isQuiet.isUnbroken h.segments_eq (by simp [hcons]) hopen hclose

/-- A plain text stands on a line of its own. -/
theorem stands_plain {text : String} (h : IsPlain text) :
    Stands layout (text ++ "\n") (line layout text) := by
  obtain ⟨hopen, hclose, hdoc⟩ := h.not_layout
  obtain ⟨c, cs, hcons⟩ := h.exists_cons
  exact ⟨_, prints_plain h, isSolid_singleton (by simp [hcons]) hclose hopen hdoc⟩

/-- A plain text introduces what follows it: it closes no block and documents nothing. -/
theorem introduces_plain {text : String} (h : IsPlain text) :
    Introduces layout (text ++ "\n") (line layout text) := by
  obtain ⟨c, cs, hcons⟩ := h.exists_cons
  exact ⟨_, prints_plain h, fun rest hrest => hrest.cons (by simp [hcons]) h.not_layout.2.1⟩

/-- The white space before a plain line is dropped. -/
theorem fills_indented {text : String} (h : IsPlain text) :
    Fills layout ("    " ++ text ++ "\n") (line layout text) := by
  obtain ⟨hopen, hclose, -⟩ := h.not_layout
  obtain ⟨c, cs, hcons⟩ := h.exists_cons
  have hne : text.toList ≠ [] := by simp [hcons]
  refine ⟨[text.toList], prints_line ?_ ?_ hne hopen hclose, wellParted_singleton hne⟩
  · rw [String.toList_append, Text.isUnbroken_append_iff]
    exact ⟨by decide, h.isQuiet.isUnbroken⟩
  · have hblanks : "    ".toList.all Text.isBlank = true := by decide
    rw [String.toList_append, segments_blanks_append (List.all_eq_true.mp hblanks), h.segments_eq]

/-! ## Blocks -/

/-- **A block stands**, below a plain header and between what introduces it and its tail. -/
theorem stands_block {lead header body tail : String} {printed bodyPrinted : Printed}
    (hlead : Introduces layout lead printed) (hheader : IsPlain header)
    (hbody : Fills layout body bodyPrinted) (htail : IsTail tail) :
    Stands layout (Render.block (lead ++ header) body ++ tail ++ "\n")
      fun depth => printed depth ++ block layout header tail bodyPrinted depth := by
  obtain ⟨lines, hlines, hparted⟩ := hbody
  have hbraces : Stands layout _ _ :=
    ⟨_, hlines.block htail, isSolid_block hparted tail.toList⟩
  have hall := hlead.stands ((introduces_plain hheader).stands hbraces)
  -- the template puts the same characters together in another order of appends
  have hpiece : Render.block (lead ++ header) body ++ tail ++ "\n"
      = lead ++ (header ++ "\n" ++ ("\x7b\n" ++ body ++ ("\x7d" ++ tail ++ "\n"))) := by
    simp [Render.block, ← String.toList_inj]
  rw [hpiece]
  simpa [block, String.append_assoc] using hall

/-! ## Pieces in a row -/

theorem inOrder_nil : inOrder [] = fun _ => "" := rfl

/-- The first part is printed before the rest, at the same depth. -/
theorem inOrder_cons (part : Printed) (rest : List Printed) :
    inOrder (part :: rest) = fun depth => part depth ++ inOrder rest depth := by
  funext depth
  rw [inOrder, List.map_cons, String.join_cons, inOrder]

/-- What holds of each piece holds of all of them in a row, if it holds of no piece at all and of
two pieces side by side. -/
theorem inOrder_induction {motive : String → Printed → Prop} (hnil : motive "" fun _ => "")
    (happend : ∀ first second printed more, motive first printed → motive second more →
      motive (first ++ second) fun depth => printed depth ++ more depth)
    {α : Type} {items : List α} {piece : α → String} {printed : α → Printed}
    (h : ∀ item ∈ items, motive (piece item) (printed item)) :
    motive (String.join (items.map piece)) (inOrder (items.map printed)) := by
  induction items with
  | nil => exact hnil
  | cons item rest ih =>
    rw [List.map_cons, String.join_cons, List.map_cons, inOrder_cons]
    exact happend _ _ _ _ (h item (by simp)) (ih fun other hother => h other (by simp [hother]))

theorem introduces_inOrder {α : Type} {items : List α} {piece : α → String} {printed : α → Printed}
    (h : ∀ item ∈ items, Introduces layout (piece item) (printed item)) :
    Introduces layout (String.join (items.map piece)) (inOrder (items.map printed)) :=
  inOrder_induction introduces_nil (fun _ _ _ _ hfirst hsecond => hfirst.append hsecond) h

theorem fills_inOrder {α : Type} {items : List α} {piece : α → String} {printed : α → Printed}
    (h : ∀ item ∈ items, Fills layout (piece item) (printed item)) :
    Fills layout (String.join (items.map piece)) (inOrder (items.map printed)) :=
  inOrder_induction fills_nil (fun _ _ _ _ hfirst hsecond => hfirst.append hsecond) h

/-- Pieces that stand do so one after the other, if there are any. -/
theorem stands_inOrder {α : Type} {items : List α} {piece : α → String} {printed : α → Printed}
    (h : ∀ item ∈ items, Stands layout (piece item) (printed item)) (hne : items ≠ []) :
    Stands layout (String.join (items.map piece)) (inOrder (items.map printed)) := by
  induction items with
  | nil => exact absurd rfl hne
  | cons item rest ih =>
    rw [List.map_cons, String.join_cons, List.map_cons, inOrder_cons]
    by_cases hrest : rest = []
    · subst hrest
      simpa [inOrder_nil] using h item (by simp)
    · exact (h item (by simp)).append (ih (fun other hother => h other (by simp [hother])) hrest)

/-- Members without empty lines between fill braces. -/
theorem fills_members {sources : List String} {printed : List Printed}
    (h : List.Forall₂ (fun source => Stands layout (source ++ "\n")) sources printed) :
    Fills layout (Render.blockBody "" sources) (inOrder printed) := by
  induction h with
  | nil => exact fills_nil
  | @cons source first sources rest hfirst hrest ih =>
    -- each member ends its own line
    rw [Render.blockBody_cons, inOrder_cons]
    exact hfirst.fills.append ih

/-- Members with empty lines between stand together. Induction on the members. -/
theorem stands_members_apart {sources : List String} {printed : List Printed}
    (h : List.Forall₂ (fun source => Stands layout (source ++ "\n")) sources printed)
    (hne : sources ≠ []) :
    Stands layout (Render.blockBody Render.memberGap sources) (apart layout printed) := by
  induction h with
  | nil => exact absurd rfl hne
  | @cons source first sources rest hfirst hrest ih =>
    cases hrest with
    | nil =>
      have hprinted : apart layout [first] = first := by
        funext depth
        simp [apart]
      rw [hprinted]
      simpa [Render.blockBody] using hfirst
    -- a blank line parts two members; on its own it would be dropped next to a brace
    | @cons next second sources rest hsecond hrest =>
      have hprinted : apart layout (first :: second :: rest)
          = fun depth => first depth ++ layout.newline.text ++ apart layout (second :: rest) depth := by
        funext depth
        rw [apart, List.map_cons, List.map_cons, String.intercalate_cons_cons, apart, List.map_cons]
      have hbody : Render.blockBody Render.memberGap (source :: next :: sources)
          = source ++ "\n" ++ "\n" ++ Render.blockBody Render.memberGap (next :: sources) := by
        rw [Render.blockBody, List.map_cons, List.map_cons, String.intercalate_cons_cons,
          Render.blockBody, List.map_cons, Render.memberGap]
      rw [hprinted, hbody]
      exact hfirst.append_gap (ih (by simp))

/-- Members with empty lines between fill braces. -/
theorem fills_members_apart {sources : List String} {printed : List Printed}
    (h : List.Forall₂ (fun source => Stands layout (source ++ "\n")) sources printed) :
    Fills layout (Render.blockBody Render.memberGap sources) (apart layout printed) := by
  cases h with
  | nil => exact fills_nil
  | cons hfirst hrest => exact (stands_members_apart (.cons hfirst hrest) (by simp)).fills

/-! ## Documentation -/

/-- A line of documentation loses the white space at its end, and introduces others. -/
theorem introduces_docLine {cs : List Char} (h : Text.IsUnbroken cs) :
    Introduces layout (Render.docLine cs ++ "\n")
      (line layout (String.ofList (Text.trimEnd (Render.docLine cs).toList))) := by
  have hlist : (Render.docLine cs).toList = '/' :: '/' :: '/' :: ' ' :: cs := by
    simp [Render.docLine]
  have htrim : Text.trimEnd (Render.docLine cs).toList
      = '/' :: '/' :: '/' :: Text.trimEnd (' ' :: cs) := by
    rw [hlist, Text.trimEnd_cons (by decide), Text.trimEnd_cons (by decide),
      Text.trimEnd_cons (by decide)]
  -- the whole line is one comment
  have hsegments : segments (Render.docLine cs).toList
      = [Text.trimEnd (Render.docLine cs).toList] :=
    segments_comment (by rw [hlist]; rfl)
  have hunbroken : Text.IsUnbroken (Render.docLine cs).toList := by
    rw [hlist]
    exact (@Text.isUnbroken_append_iff ['/', '/', '/', ' '] cs).mpr ⟨by decide, h⟩
  have htext : (String.ofList (Text.trimEnd (Render.docLine cs).toList)).toList
      = '/' :: '/' :: '/' :: Text.trimEnd (' ' :: cs) := by
    rw [String.toList_ofList, htrim]
  refine ⟨_, prints_line hunbroken (by rw [String.toList_ofList]; exact hsegments) ?_ ?_ ?_,
    fun rest hrest => hrest.cons ?_ ?_⟩
  all_goals
    rw [htext]
    simp [openBrace, closeBrace]

/-- A line of a summary holds no line end, if the summary has no carriage return alone. -/
theorem isUnbroken_of_mem_summaryLines {summary : String}
    (h : '\r' ∉ Text.dropPairedReturns summary.toList) {cs : List Char}
    (hcs : cs ∈ Render.summaryLines summary) : Text.IsUnbroken cs := by
  refine Text.isUnbroken_of_forall_mem fun c hc => ?_
  obtain ⟨hfeed, hmem⟩ := Text.forall_mem_of_mem_splitOn hcs c hc
  refine ⟨hfeed, ?_⟩
  intro hreturn
  rw [hreturn] at hmem
  exact h hmem

/-- Texts joined by a separator and followed by one have it behind each. -/
theorem intercalate_append {parts : List String} (hne : parts ≠ []) (separator : String) :
    separator.intercalate parts ++ separator = String.join (parts.map (· ++ separator)) := by
  rw [← String.toList_inj, String.toList_append, String.toList_intercalate, String.toList_join,
    ← Text.flatMap_append_eq_intercalate (by simpa using hne), List.flatMap_map, List.flatMap_map]
  simp

/-- **Documentation introduces what it documents.** -/
theorem introduces_documentation {summary : Option String} (h : HasPairedReturns summary) :
    Introduces layout (Render.docBlock summary) (documentation layout summary) := by
  rw [Render.docBlock]
  unfold documentation
  split
  next => exact introduces_nil
  next hgiven =>
    obtain ⟨text, rfl, -⟩ := (Text.isMissing_eq_false_iff summary).mp (by simpa using hgiven)
    have hopen : Introduces layout "/// <summary>\n" (line layout "/// <summary>") :=
      @introduces_docLine layout "<summary>".toList (by decide)
    have hclose : Introduces layout "/// </summary>\n" (line layout "/// </summary>") :=
      @introduces_docLine layout "</summary>".toList (by decide)
    have hlines := @introduces_inOrder layout _ (Render.summaryLines text) _ _ fun cs hcs =>
      introduces_docLine (isUnbroken_of_mem_summaryLines (h text rfl) hcs)
    -- the lines between the tags, each with its line end behind it
    have hpiece : "/// <summary>\n"
          ++ "\n".intercalate ((Render.summaryLines text).map Render.docLine)
          ++ "\n/// </summary>\n"
        = "/// <summary>\n"
          ++ String.join ((Render.summaryLines text).map fun cs => Render.docLine cs ++ "\n")
          ++ "/// </summary>\n" := by
      have hne : (Render.summaryLines text).map Render.docLine ≠ [] := by
        simp [Render.summaryLines]
      have hjoin := intercalate_append hne "\n"
      rw [List.map_map] at hjoin
      have hend : "\n/// </summary>\n" = "\n" ++ "/// </summary>\n" := by decide
      rw [hend, ← String.append_assoc, @String.append_assoc "/// <summary>\n", hjoin]
      rfl
    rw [Option.getD_some, hpiece]
    exact (hopen.append hlines).append hclose

/-! ## What layout makes of a piece -/

/-- A piece that is printed holds no carriage return. -/
theorem Prints.return_not_mem {piece : String} {lines : List Line} {printed : Printed}
    (h : Prints layout piece lines printed) : '\r' ∉ piece.toList := by
  obtain ⟨raws, hraws, hpiece, -⟩ := h.cut
  rw [hpiece]
  intro hmem
  obtain ⟨raw, hraw, hc⟩ := List.mem_flatMap.mp hmem
  rcases List.mem_append.mp hc with h | h
  · exact (hraws raw hraw).2 h
  · exact absurd h (by decide)

/-- The lines of a source that is a piece without its last line feed. -/
theorem Prints.flatMap_segments {source : String} {lines : List Line} {printed : Printed}
    (h : Prints layout (source ++ "\n") lines printed) :
    (Text.lines source.toList).flatMap segments = lines := by
  obtain ⟨raws, hraws, hpiece, hlines⟩ := h.cut
  have hreturn := h.return_not_mem
  rw [String.toList_append, List.mem_append, not_or] at hreturn
  -- the source is cut like the piece, which ends with one more line end
  have hsource : source.toList ++ ['\n'] = raws.flatMap (· ++ ['\n']) := by
    rw [← hpiece, String.toList_append]
    rfl
  have hcut : Text.lines source.toList ++ [[]] = raws ++ [[]] := by
    rw [← Text.lines_nil, ← Text.lines_append_newline .lf hreturn.1, Text.lines_nil,
      List.append_nil, ← Text.lines_flatMap_newline .lf hraws]
    exact congrArg Text.lines hsource
  rw [List.append_cancel_right hcut, hlines]

/-- **Layout turns a source that stands into what is printed for it.** -/
theorem Stands.format_eq {source : String} {printed : Printed}
    (h : Stands layout (source ++ "\n") printed) : format layout source = printed 0 := by
  obtain ⟨lines, hprints, hsolid⟩ := h
  rw [format, formatChars, layoutLines, hprints.flatMap_segments,
    tidy_of_wellParted hsolid.wellParted, printLines, hprints.indentFrom_eq, String.ofList_toList]

/-- A source that stands has no line feeds at its ends. -/
theorem Stands.fragment_eq {source : String} {printed : Printed}
    (h : Stands layout (source ++ "\n") printed) : Render.fragment source = source := by
  obtain ⟨lines, hprints, hsolid⟩ := h
  have hlines := hprints.flatMap_segments
  have hreturn := hprints.return_not_mem
  rw [String.toList_append, List.mem_append, not_or] at hreturn
  rw [Render.fragment, Text.trimLineFeeds_eq_self, String.ofList_toList]
  · intro hhead
    -- the line before the line feed would be blank, and the first one
    obtain ⟨rest, hrest⟩ := List.head?_eq_some_iff.mp hhead
    have hcut : Text.lines source.toList = [] :: Text.lines rest := by
      rw [hrest]
      exact @Text.lines_append_newline .lf [] (by simp) rest
    rw [hcut, List.flatMap_cons, segments_nil] at hlines
    exact hsolid.wellParted.head_ne (by rw [← hlines]; rfl)
  · intro hlast
    -- the line behind the line feed would be blank, and the last one
    obtain ⟨init, hinit⟩ := List.getLast?_eq_some_iff.mp hlast
    have hcut : Text.lines source.toList = Text.lines init ++ [[]] := by
      rw [hinit]
      refine Text.lines_append_newline .lf (fun hmem => hreturn.1 ?_) []
      rw [hinit]
      exact List.mem_append_left _ hmem
    rw [hcut, List.flatMap_append, List.flatMap_singleton, segments_nil] at hlines
    exact hsolid.wellParted.getLast_ne (by rw [← hlines, List.getLast?_concat])

end Scaffold.Printer
