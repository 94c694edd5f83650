import Scaffold.Proofs.Layout.Documentation
import Scaffold.Proofs.Render.Anatomy
import Scaffold.Proofs.Render.Piece

/-!
# Summaries and the comments that hold them

A summary is put before a declaration as lines of documentation. Rendering ends such a line at a
line feed, and layout at a lone carriage return as well. So what stands behind a lone one is
laid out as source, and whether a summary stays inside its comment depends on it.

* **`source_withSummary`**: rendering puts a summary before a source that does not depend on it.
* **`StaysInside`**: what is asked of the text behind a lone carriage return.
* **`summary_stays_inside_iff`**: a summary adds documentation to the output and nothing else just
  when it stays inside.
-/

namespace Scaffold

open Layout Render

/-! ## Declarations with summaries -/

/-- The summary of a declaration, if its kind has one at all. -/
def Declaration.summary? : Declaration → Option (Option String)
  | .field value => some value.summary
  | .property value => some value.summary
  | .constructor value => some value.summary
  | .enumMember value => some value.summary
  | .enumeration value => some value.summary
  | .class value => some value.summary
  | .struct value => some value.summary
  | .interface value => some value.summary
  | .accessor _ | .parameter _ | .namespace _ => none

/-- The declaration with another summary. -/
def Declaration.withSummary (summary : Option String) : Declaration → Declaration
  | .field value => .field { value with summary }
  | .property value => .property { value with summary }
  | .constructor value => .constructor { value with summary }
  | .enumMember value => .enumMember { value with summary }
  | .enumeration value => .enumeration { value with summary }
  | .class value => .class { value with summary }
  | .struct value => .struct { value with summary }
  | .interface value => .interface { value with summary }
  | declaration => declaration

theorem Declaration.withSummary_self {declaration : Declaration} {summary : Option String}
    (h : declaration.summary? = some summary) : declaration.withSummary summary = declaration := by
  cases declaration with
  | accessor | parameter | «namespace» => exact absurd h (by simp [Declaration.summary?])
  | _ => rw [← Option.some.inj h]; rfl

/-! ## Sources with summaries -/

/-- What is done to every result can be done at the end. -/
theorem bind_eq_map {α β γ : Type} {outcome : Except Error α} {next : α → Except Error γ}
    {rest : α → Except Error β} {f : β → γ} (h : ∀ value, next value = (rest value).map f) :
    (outcome >>= next) = (outcome >>= rest).map f := by
  cases outcome with
  | error error => rfl
  | ok value => exact h value

theorem docBlock_none : docBlock none = "" := rfl

theorem block_append (first header body : String) :
    block (first ++ header) body = first ++ block header body := by
  simp only [block, String.append_assoc]

/-- The source of a declaration with each summary: the same source behind the documentation. -/
def Documents (render : Option String → Except Error String) : Prop :=
  ∃ outcome : Except Error String,
    ∀ summary, render summary = outcome.map fun rest => fragment (docBlock summary ++ rest)

/-- The summary of a field stands before a text that does not show it. -/
theorem documents_field (value : Field) :
    Documents fun summary => Render.field { value with summary } := by
  refine ⟨do
    let type ← require "field" "type" value.type
    let name ← require "field" "name" value.name
    return fieldText { value with summary := none } type name, fun summary => ?_⟩
  refine bind_eq_map fun type => bind_eq_map fun name => congrArg (Except.ok <| fragment ·) ?_
  simp [fieldText, docBlock_none, String.append_assoc]

/-- The summary of a property stands before a text that does not show it, whether or not the
property has accessors. -/
theorem documents_property (value : Property) :
    Documents fun summary => Render.property { value with summary } := by
  refine ⟨do
    let type ← require "property" "type" value.type
    let name ← require "property" "name" value.name
    return propertyText { value with summary := none } type name, fun summary => ?_⟩
  refine bind_eq_map fun type => bind_eq_map fun name => congrArg (Except.ok <| fragment ·) ?_
  have hheader : propertyHeader { value with summary } type name
      = docBlock summary ++ propertyHeader { value with summary := none } type name := by
    simp [propertyHeader, docBlock_none]
  -- whether there are accessors does not depend on the summary
  by_cases haccessors : value.hasAccessors = true
  · have htext (other : Option String) : propertyText { value with summary := other } type name
        = block (propertyHeader { value with summary := other } type name) (accessorBlock value)
          ++ initializer value.defaultValue := if_pos haccessors
    rw [htext, htext, hheader, block_append, String.append_assoc]
  · have htext (other : Option String) : propertyText { value with summary := other } type name
        = propertyHeader { value with summary := other } type name
          ++ if value.defaultValue = none then ";" else initializer value.defaultValue :=
      if_neg haccessors
    rw [htext, htext, hheader, String.append_assoc]

theorem documents_constructor (value : Constructor) :
    Documents fun summary => Render.constructor { value with summary } := by
  refine ⟨do
    let className ← require "constructor" "class name" value.className
    return constructorText { value with summary := none } className, fun summary => ?_⟩
  refine bind_eq_map fun className => congrArg (Except.ok <| fragment ·) ?_
  simp [constructorText, constructorHeader, docBlock_none, block, String.append_assoc]

theorem documents_enumMember (value : EnumMember) :
    Documents fun summary => Render.enumMember { value with summary } := by
  refine ⟨do
    let name ← require "enum member" "name" value.name
    return enumMemberText { value with summary := none } name, fun summary => ?_⟩
  refine bind_eq_map fun name => congrArg (Except.ok <| fragment ·) ?_
  simp [enumMemberText, docBlock_none, String.append_assoc]

/-- The summary of an enumeration stands before its attribute. -/
theorem documents_enumeration (settings : RenderSettings) (value : Enumeration) :
    Documents fun summary => Render.enumeration settings { value with summary } := by
  refine ⟨do
    let name ← require "enum" "name" value.name
    let members ← value.members.mapM enumMember
    return block (enumHeader settings { value with summary := none } name) (blockBody "" members),
    fun summary => ?_⟩
  refine bind_eq_map fun name => bind_eq_map fun members => congrArg (Except.ok <| fragment ·) ?_
  simp [enumHeader, docBlock_none, block, String.append_assoc]

/-- The summary of a class stands before its header; what it extends does not show it. -/
theorem documents_class (value : Class) :
    Documents fun summary => Render.class { value with summary } := by
  refine ⟨do
    let name ← require "class" "name" value.name
    let members ← typeMembers value.fields value.constructors value.properties
    return block (classHeader { value with summary := none } name) (blockBody memberGap members),
    fun summary => ?_⟩
  refine bind_eq_map fun name => bind_eq_map fun members => congrArg (Except.ok <| fragment ·) ?_
  simp [classHeader, Class.inheritance, docBlock_none, block, String.append_assoc]

theorem documents_struct (value : Struct) :
    Documents fun summary => Render.struct { value with summary } := by
  refine ⟨do
    let name ← require "struct" "name" value.name
    let members ← typeMembers value.fields value.constructors value.properties
    return block (structHeader { value with summary := none } name) (blockBody memberGap members),
    fun summary => ?_⟩
  refine bind_eq_map fun name => bind_eq_map fun members => congrArg (Except.ok <| fragment ·) ?_
  simp [structHeader, docBlock_none, block, String.append_assoc]

theorem documents_interface (value : Interface) :
    Documents fun summary => Render.interface { value with summary } := by
  refine ⟨do
    let name ← require "interface" "name" value.name
    let members ← value.properties.mapM property
    return block (interfaceHeader { value with summary := none } name)
      (blockBody memberGap members), fun summary => ?_⟩
  refine bind_eq_map fun name => bind_eq_map fun members => congrArg (Except.ok <| fragment ·) ?_
  simp [interfaceHeader, docBlock_none, block, String.append_assoc]

/-- **Rendering puts a summary before a source** that does not depend on it. -/
theorem source_withSummary (settings : RenderSettings) {declaration : Declaration}
    {given : Option String} (h : declaration.summary? = some given) :
    Documents fun summary => source settings (declaration.withSummary summary) := by
  cases declaration with
  | field value => exact documents_field value
  | property value => exact documents_property value
  | constructor value => exact documents_constructor value
  | enumMember value => exact documents_enumMember value
  | enumeration value => exact documents_enumeration settings value
  | «class» value => exact documents_class value
  | struct value => exact documents_struct value
  | interface value => exact documents_interface value
  | accessor | parameter | «namespace» => exact absurd h (by simp [Declaration.summary?])

/-! ## The lines of documentation -/

/-- What stands behind a lone carriage return, up to the next one, is blank or documentation by
itself. -/
def StaysInside (summary : String) : Prop :=
  ∀ line ∈ summaryLines summary, ∀ piece ∈ (Text.lines line).tail, IsInert piece
deriving Decidable

/-- The documentation block without its last line feed. -/
def docText (summary : String) : String :=
  "/// <summary>\n" ++ "\n".intercalate ((summaryLines summary).map docLine) ++ "\n/// </summary>"

/-- A summary that is not blank is written. -/
theorem docBlock_some {summary : String} (h : Text.isBlankText summary = false) :
    docBlock (some summary) = docText summary ++ "\n" := by
  rw [docBlock, Text.isMissing_some, h, Option.getD_some, docText]
  simp [← String.toList_inj]

/-- The first line of a documented line is documentation, and the others are as they are. -/
theorem strays_docLine (line : List Char) :
    strays (cutLines (docLine line).toList) = []
      ↔ ∀ piece ∈ (Text.lines line).tail, IsInert piece := by
  obtain ⟨first, rest, hlines⟩ := List.exists_cons_of_ne_nil (Text.lines_ne_nil line)
  have hlist : (docLine line).toList = "/// ".toList ++ line := by simp [docLine]
  have hdoc : IsInert ("/// ".toList ++ first) := Or.inr rfl
  rw [strays_cutLines_eq_nil_iff, hlist, Text.lines_append_of_isUnbroken (by decide), hlines,
    List.modifyHead_cons, List.forall_mem_cons, List.tail_cons]
  exact and_iff_right hdoc

/-- Lines joined with line feeds hold the strays of each. Induction along them. -/
theorem strays_intercalate (parts : List String) :
    strays (cutLines ("\n".intercalate parts).toList)
      = parts.flatMap fun part => strays (cutLines part.toList) := by
  induction parts with
  | nil =>
    show strays (cutLines []) = []
    rw [cutLines_of_isUnbroken Text.isUnbroken_nil, segments_nil]
    rfl
  | cons part rest ih =>
    cases rest with
    | nil => simp
    | cons next others =>
      -- between two parts stands a line feed, and so no line belongs to both
      have hlist : ("\n".intercalate (part :: next :: others)).toList
          = part.toList ++ '\n' :: ("\n".intercalate (next :: others)).toList := by
        simp [String.intercalate_cons_cons]
      rw [hlist, strays_cutLines_append_feed, ih]
      rfl

/-- **The documentation of a summary holds strays** just when the summary does not stay inside. -/
theorem strays_docText_eq_nil_iff (summary : String) :
    strays (cutLines (docText summary).toList) = [] ↔ StaysInside summary := by
  have hlist : (docText summary).toList = "/// <summary>".toList ++ '\n' ::
      (("\n".intercalate ((summaryLines summary).map docLine)).toList
        ++ '\n' :: "/// </summary>".toList) := by
    simp [docText]
  -- the tags are documentation themselves, so only the lines of the summary can stray
  have htag (tag : List Char) (htag : Text.IsUnbroken tag ∧ IsInert tag) :
      strays (cutLines tag) = [] := by
    rw [strays_cutLines_eq_nil_iff, Text.lines_of_isUnbroken htag.1]
    simpa using htag.2
  have hopen := htag "/// <summary>".toList (by decide)
  have hclose := htag "/// </summary>".toList (by decide)
  rw [hlist, strays_cutLines_append_feed, strays_cutLines_append_feed, hopen, hclose,
    List.nil_append, List.append_nil, strays_intercalate, List.flatMap_map, List.flatMap_eq_nil_iff]
  exact forall₂_congr fun line _ => strays_docLine line

/-- A summary in which every carriage return stands before a line feed stays inside. -/
theorem staysInside_of_hasPairedReturns {summary : String} (h : HasPairedReturns (some summary)) :
    StaysInside summary := by
  intro line hline piece hpiece
  have hunbroken := Printer.isUnbroken_of_mem_summaryLines (h summary rfl) hline
  rw [Text.lines_of_isUnbroken hunbroken] at hpiece
  exact absurd hpiece (by simp)

/-- Documentation ends with its closing tag, not with a blank line. -/
theorem getLast?_cutLines_docText (summary : String) :
    (cutLines (docText summary).toList).getLast? ≠ some [] := by
  have hlist : (docText summary).toList
      = ("/// <summary>\n" ++ "\n".intercalate ((summaryLines summary).map docLine)).toList
        ++ '\n' :: "/// </summary>".toList := by
    simp [docText]
  have hend : cutLines "/// </summary>".toList = ["/// </summary>".toList] := by
    rw [cutLines_of_isUnbroken (by decide), segments_comment (by decide)]
    decide
  rw [hlist]
  rcases cutLines_append_feed_cases _ "/// </summary>".toList with hall | ⟨others, -, hall⟩ <;>
    rw [hall, hend, List.getLast?_concat] <;> decide

/-! ## Summaries in the output -/

/-- Line feeds at the ends of a source make no difference to its output. -/
theorem outputLines_format_fragment (settings : LayoutSettings) (text : String) :
    outputLines (format settings (fragment text)) = outputLines (format settings text) := by
  rw [outputLines_format, outputLines_format, fragment, String.toList_ofList,
    layoutLines_trimLineFeeds]

/-- **A summary adds documentation to the output and nothing else** just when it stays inside its
comment: then the lines of the output are lines that start with three slashes, and behind them the
lines of the declaration without a summary. -/
theorem summary_stays_inside_iff {settings : Settings} {declaration : Declaration}
    {given : Option String} (h : declaration.summary? = some given) {text : String}
    (hsource : source settings.render declaration = .ok text) {summary : String}
    (hshows : Text.isBlankText summary = false) :
    ∃ documented plain,
      formatted settings (declaration.withSummary (some summary)) = .ok documented
        ∧ formatted settings (declaration.withSummary none) = .ok plain
        ∧ ((∃ docs, (∀ line ∈ docs, isDocLine line = true)
              ∧ outputLines documented = docs ++ outputLines plain)
            ↔ StaysInside summary) := by
  obtain ⟨outcome, houtcome⟩ := source_withSummary settings.render h
  obtain ⟨rest, rfl⟩ : ∃ rest, outcome = .ok rest := by
    have hself : source settings.render (declaration.withSummary given) = outcome.map _ :=
      houtcome given
    rw [Declaration.withSummary_self h, hsource] at hself
    cases outcome with
    | error error => exact absurd hself (by simp [Except.map])
    | ok rest => exact ⟨rest, rfl⟩
  -- the rest renders without the summary as well, which makes the two outputs comparable
  have hdocumented := formatted_of_source (houtcome (some summary))
  have hplain := formatted_of_source (houtcome none)
  refine ⟨_, _, hdocumented, hplain, ?_⟩
  rw [outputLines_format_fragment, outputLines_format_fragment, docBlock_some hshows, docBlock_none,
    String.empty_append, outputLines_docs_append_iff settings.layout (getLast?_cutLines_docText _),
    strays_docText_eq_nil_iff]

/-- A field without a summary. -/
def counter : Declaration :=
  .field { type := some "int", name := some "count" }

/-- A summary of two lines stays inside. -/
theorem summary_of_counter_stays :
    counter.summary? = some none ∧ Text.isBlankText "First.\r\nSecond." = false
      ∧ StaysInside "First.\r\nSecond."
      ∧ ∃ documented plain,
        formatted {} (counter.withSummary (some "First.\r\nSecond.")) = .ok documented
          ∧ formatted {} (counter.withSummary none) = .ok plain
          ∧ ∃ docs, (∀ line ∈ docs, isDocLine line = true)
            ∧ outputLines documented = docs ++ outputLines plain := by
  have hshows : Text.isBlankText "First.\r\nSecond." = false := by decide
  have hstays : StaysInside "First.\r\nSecond." := by decide +kernel
  obtain ⟨documented, plain, hdocumented, hplain, hiff⟩ :=
    @summary_stays_inside_iff {} counter none rfl _ rfl _ hshows
  exact ⟨rfl, hshows, hstays, documented, plain, hdocumented, hplain, hiff.mpr hstays⟩

/-- What stands behind a lone carriage return is laid out as source. -/
theorem summary_of_counter_leaks :
    ∃ documented plain,
      formatted {} (counter.withSummary (some "First.\rint second;")) = .ok documented
        ∧ formatted {} (counter.withSummary none) = .ok plain
        ∧ documented
          = "/// <summary>\n/// First.\nint second;\n/// </summary>\nprivate int count;\n"
        ∧ ¬∃ docs, (∀ line ∈ docs, isDocLine line = true)
            ∧ outputLines documented = docs ++ outputLines plain := by
  have hdocumented : formatted {} (counter.withSummary (some "First.\rint second;"))
      = .ok "/// <summary>\n/// First.\nint second;\n/// </summary>\nprivate int count;\n" :=
    congrArg Except.ok (by decide +kernel)
  have hplain : formatted {} (counter.withSummary none) = .ok "private int count;\n" :=
    congrArg Except.ok (by decide +kernel)
  refine ⟨_, _, hdocumented, hplain, rfl, ?_⟩
  rintro ⟨docs, hdocs, heq⟩
  -- the second half of the summary is in the output, but neither documentation nor in the plain
  -- output
  have hstray : "int second;".toList ∈ docs ++ outputLines "private int count;\n" := by
    rw [← heq]
    decide +kernel
  rcases List.mem_append.mp hstray with hdoc | hline
  · exact absurd (hdocs _ hdoc) (by decide)
  · exact absurd hline (by decide +kernel)

end Scaffold
