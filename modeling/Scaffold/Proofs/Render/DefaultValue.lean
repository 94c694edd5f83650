import Scaffold.Draft.Source
import Scaffold.Proofs.Draft.Violation
import Scaffold.Proofs.Layout.Literal
import Scaffold.Proofs.Render.Anatomy

/-!
# Default values that are string literals

A property with a default value ends with a line on which the value is assigned, behind the closing
brace of its accessors or behind its name. A string literal stands there as it is given, and layout
looks at that line alone. So the literal reaches the output, unless it spans several lines itself.

* **`exists_assignment`**: the last line of a property with a string literal.
* **`source_of_build`**: a property that has been built is rendered.
* **`literal_reaches_output_iff`**: a literal reaches the output under all settings just when it
  holds no line end.
-/

namespace Scaffold

open Layout Render

/-! ## Words -/

/-- Unmarked words are unmarked with single spaces between. Induction along the words. -/
theorem isUnmarked_words {parts : List String} (h : ∀ part ∈ parts, IsUnmarked part.toList) :
    IsUnmarked (words parts).toList := by
  -- words that are empty are left out before the others are joined
  have hjoined (kept : List String) (hkept : ∀ part ∈ kept, IsUnmarked part.toList) :
      IsUnmarked (" ".intercalate kept).toList := by
    induction kept with
    | nil => exact isUnmarked_nil
    | cons part rest ih =>
      have hpart := hkept part List.mem_cons_self
      cases rest with
      | nil => simpa using hpart
      | cons next others =>
        have hrest := ih fun other hother => hkept other (List.mem_cons_of_mem part hother)
        have hlist : (" ".intercalate (part :: next :: others)).toList
            = part.toList ++ ' ' :: (" ".intercalate (next :: others)).toList := by
          simp [String.intercalate_cons_cons]
        rw [hlist]
        exact hpart.spaced hrest
  exact hjoined _ fun part hpart => h part (List.mem_filter.mp hpart).1

theorem isUnmarked_keyword (access : Access) : IsUnmarked access.keyword.toList := by
  cases access with
  | listed level => cases level <;> decide
  | unlisted | unset => exact (by decide : IsUnmarked "private".toList)

/-- A word that leaves the reader in code may be left out. -/
theorem isUnmarked_optionalWord (condition : Bool) {word : String} (h : IsUnmarked word.toList) :
    IsUnmarked (optionalWord condition word).toList := by
  cases condition with
  | true => exact h
  | false => exact isUnmarked_nil

/-! ## The line of a default value -/

/-- A string literal gets an equals sign and a semicolon, as it has none of its own. -/
theorem initializer_literal {literal : String} (h : IsStringLiteral literal.toList) :
    initializer (some literal) = " = " ++ literal ++ ";" := by
  have hhead : literal.toList.head? ≠ some '=' := by
    rcases h.head? with hhead | hhead <;> rw [hhead] <;> decide
  have hlast : literal.toList.getLast? ≠ some ';' := by
    rw [h.getLast?]
    decide
  rw [initializer, assignment, if_neg hhead, if_neg hlast]
  simp [← String.toList_inj]

/-- The text is empty, or ends with a line feed. -/
def EndsLine (text : String) : Prop :=
  text = "" ∨ ∃ front, text = front ++ "\n"

/-- Documentation is left out or ends its last line. -/
theorem endsLine_docBlock (summary : Option String) : EndsLine (docBlock summary) := by
  unfold docBlock
  split
  next => exact Or.inl rfl
  next =>
    refine Or.inr ⟨"/// <summary>\n" ++ "\n".intercalate ((summaryLines (summary.getD "")).map
      docLine) ++ "\n/// </summary>", ?_⟩
    simp [← String.toList_inj]

/-- An accessor ends its line, if it has a text. -/
theorem endsLine_accessorLine (text : String) : EndsLine (accessorLine text) := by
  unfold accessorLine
  split
  next => exact Or.inl rfl
  next => exact Or.inr ⟨_, rfl⟩

theorem EndsLine.append {first second : String} (hfirst : EndsLine first)
    (hsecond : EndsLine second) : EndsLine (first ++ second) := by
  rcases hsecond with rfl | ⟨front, rfl⟩
  · rwa [String.append_empty]
  · exact Or.inr ⟨first ++ front, by rw [String.append_assoc]⟩

/-- **The last line of a property** assigns its default value behind an unmarked text. -/
theorem exists_assignment {property : Property} {literal : String}
    (hdefault : property.defaultValue = some literal) (h : IsStringLiteral literal.toList)
    {type name : String} (htype : IsUnmarked type.toList) (hname : IsUnmarked name.toList) :
    ∃ front first line : List Char, IsUnmarked first
      ∧ line = first ++ ' ' :: '=' :: ' ' :: (literal.toList ++ [';'])
      ∧ ((propertyText property type name).toList = line
        ∨ (propertyText property type name).toList = front ++ '\n' :: line) := by
  have hassign : (initializer property.defaultValue).toList
      = ' ' :: '=' :: ' ' :: (literal.toList ++ [';']) := by
    rw [hdefault, initializer_literal h]
    simp
  unfold propertyText
  split
  next =>
    -- the braces of the accessors: the closing one starts the line
    have hends : EndsLine ("\n\x7b\n" ++ accessorBlock property) := by
      have hopen : EndsLine "\n\x7b\n" := Or.inr ⟨"\n\x7b", rfl⟩
      exact hopen.append ((endsLine_accessorLine _).append (endsLine_accessorLine _))
    rcases hends with hnone | ⟨front, hfront⟩
    · have hlist := congrArg String.toList hnone
      exact absurd hlist (by simp)
    · refine ⟨(propertyHeader property type name ++ front).toList, [closeBrace], _, by decide, rfl,
        Or.inr ?_⟩
      rw [block, @String.append_assoc (propertyHeader property type name), hfront,
        String.toList_append, hassign]
      simp [closeBrace]
  next =>
    have hwords : IsUnmarked (words [property.access.keyword,
        optionalWord property.isStatic "static", type, name]).toList := by
      refine isUnmarked_words ?_
      simpa [htype, hname] using ⟨isUnmarked_keyword property.access,
        isUnmarked_optionalWord property.isStatic (by decide)⟩
    rw [if_neg (by rw [hdefault]; simp), propertyHeader, String.toList_append, hassign]
    rcases endsLine_docBlock property.summary with hnone | ⟨front, hfront⟩
    · exact ⟨[], _, _, hwords, rfl, Or.inl (by rw [hnone, String.empty_append])⟩
    · refine ⟨front.toList, _, _, hwords, rfl, Or.inr ?_⟩
      rw [hfront]
      simp

/-! ## Properties that have been built -/

/-- A property that has been built is rendered. -/
theorem source_of_build {workspace : Workspace} {ref : Ref .property} {property : Property}
    (h : (workspace.build ref).1 = .ok property) (settings : RenderSettings) :
    ∃ type ∈ property.type, ∃ name ∈ property.name,
      source settings (.property property) = .ok (fragment (propertyText property type name)) := by
  have hcheck : Property.check (workspace.get ref) = .ok property := by
    rw [← h]
    exact (yields_property ref workspace (Workspace.Agrees.refl workspace)).1.symm
  -- a built property is the one described, and has both of its required texts
  obtain ⟨rfl, hname, htype⟩ := Property.check_eq_ok hcheck
  obtain ⟨name, hsomeName, -⟩ := (Text.isMissing_eq_false_iff _).mp hname
  obtain ⟨type, hsomeType, -⟩ := (Text.isMissing_eq_false_iff _).mp htype
  have hrequireType := (@require_eq_ok_iff "property" "type" _ _).mpr ⟨hsomeType, htype⟩
  have hrequireName := (@require_eq_ok_iff "property" "name" _ _).mpr ⟨hsomeName, hname⟩
  refine ⟨type, hsomeType, name, hsomeName, ?_⟩
  show Render.property _ = _
  rw [Render.property, hrequireType, hrequireName]
  rfl

/-- The source of a draft that is built is the formatted source of what it is built into. -/
theorem source_of_formatted {workspace : Workspace} {ref : Ref .property} {property : Property}
    (h : (workspace.build ref).1 = .ok property) {env : Environment} {settings : Settings}
    (henv : env.settings = .ok settings) {out : String}
    (hout : formatted settings (.property property) = .ok out) :
    (workspace.source env true ref).1 = .ok out := by
  unfold Workspace.source
  cases hbuild : workspace.build ref with
  | mk outcome after =>
    rw [hbuild] at h
    subst h
    show env.source true (.property property) = .ok out
    rw [Environment.source, henv]
    show (formatted settings (.property property)).mapError Failure.error = .ok out
    rw [hout]
    rfl

/-! ## Literals in the output -/

/-- **A literal on one line reaches the output** of its property. -/
theorem literal_infix_formatChars (settings : LayoutSettings) {property : Property}
    {literal : String} (hdefault : property.defaultValue = some literal)
    (hliteral : IsStringLiteral literal.toList) {type name : String}
    (htype : IsUnmarked type.toList) (hname : IsUnmarked name.toList)
    (hunbroken : Text.IsUnbroken literal.toList) :
    literal.toList
      <:+: formatChars settings (fragment (propertyText property type name)).toList := by
  obtain ⟨front, first, line, hfirst, hline, hlast⟩ :=
    exists_assignment hdefault hliteral htype hname
  obtain ⟨segment, hmem, hheld⟩ := exists_segment_of_literal hfirst hliteral
  -- the literal lies in one segment, which is laid out as one line since it is not blank
  have hne : segment ≠ [] := by
    rintro rfl
    exact hliteral.ne_nil (List.infix_nil.mp hheld)
  have hlineUnbroken : Text.IsUnbroken line := by
    have hvalue := Text.isUnbroken_append_iff.mpr ⟨hunbroken, (by decide : Text.IsUnbroken [';'])⟩
    have hassigned := @Text.isUnbroken_append_iff [' ', '=', ' '] (literal.toList ++ [';'])
    rw [hline]
    exact Text.isUnbroken_append_iff.mpr ⟨hfirst.isUnbroken, hassigned.mpr ⟨by decide, hvalue⟩⟩
  have hlayout : segment ∈ layoutLines (propertyText property type name).toList :=
    mem_layoutLines_of_segments hlast hlineUnbroken (hline ▸ hmem) hne
  rw [fragment, String.toList_ofList]
  refine hheld.trans (infix_formatChars_of_mem settings ?_)
  rw [layoutLines_trimLineFeeds]
  exact hlayout

/-- **A string literal reaches the output under all settings just when it holds no line end.** The
property that holds it is built from a draft, and no literal or comment starts in its type and its
name. -/
theorem literal_reaches_output_iff (workspace : Workspace) (ref : Ref .property)
    {property : Property} (hbuild : (workspace.build ref).1 = .ok property) {literal : String}
    (hdefault : property.defaultValue = some literal) (hliteral : IsStringLiteral literal.toList)
    (htype : ∀ type ∈ property.type, IsUnmarked type.toList)
    (hname : ∀ name ∈ property.name, IsUnmarked name.toList) :
    (∀ settings, ∃ out, formatted settings (.property property) = .ok out
        ∧ (∀ env : Environment, env.settings = .ok settings →
            (workspace.source env true ref).1 = .ok out)
        ∧ literal.toList <:+: out.toList)
      ↔ Text.IsUnbroken literal.toList := by
  constructor
  · intro h
    obtain ⟨type, htype, name, hname, hsource⟩ := source_of_build hbuild {}
    -- a line end in the literal would be written as the settings say, so one of the newlines breaks
    -- it
    have hreaches (layout : LayoutSettings) :
        literal.toList
          <:+: formatChars layout (fragment (propertyText property type name)).toList := by
      obtain ⟨out, hout, -, hheld⟩ := h { layout }
      rw [formatted_of_source hsource] at hout
      rw [← Except.ok.inj hout] at hheld
      simpa [format] using hheld
    refine isUnbroken_of_infix ?_ hreaches
    rcases hliteral.head? with hhead | hhead <;> rw [hhead] <;> decide
  · intro hunbroken settings
    obtain ⟨type, hsomeType, name, hsomeName, hsource⟩ := source_of_build hbuild settings.render
    have hout := @formatted_of_source settings (.property property) _ hsource
    refine ⟨_, hout, fun env henv => source_of_formatted hbuild henv hout, ?_⟩
    rw [format, String.toList_ofList]
    exact literal_infix_formatChars settings.layout hdefault hliteral (htype type hsomeType)
      (hname name hsomeName) hunbroken

/-- A property with a default value, as a declaration and as a draft. -/
def quotation (literal : String) : Property :=
  { type := some "string", name := some "Text", defaultValue := some literal }

def quoting (literal : String) : Ref .property × Workspace :=
  @Workspace.add Workspace.empty .property (quotation literal)

/-- A verbatim literal on one line, with doubled quotes, a brace, slashes and spaces in a row. -/
def crowdedLiteral : String := "@\"\"\"\x7b  // \""

/-- A literal with quotes, a brace and slashes in it reaches the output, although each would mean
something outside. -/
theorem crowdedLiteral_reaches_output :
    IsStringLiteral crowdedLiteral.toList ∧ Text.IsUnbroken crowdedLiteral.toList
      ∧ ∀ settings, ∃ out, formatted settings (.property (quotation crowdedLiteral)) = .ok out
        ∧ (∀ env : Environment, env.settings = .ok settings →
            ((quoting crowdedLiteral).2.source env true (quoting crowdedLiteral).1).1 = .ok out)
        ∧ crowdedLiteral.toList <:+: out.toList := by
  have hliteral : IsStringLiteral crowdedLiteral.toList := by
    have hbody : IsVerbatimBody "\"\"\x7b  // \"".toList :=
      .doubled (.char (by decide) (.char (by decide) (.char (by decide) (.char (by decide)
        (.char (by decide) (.char (by decide) .close))))))
    exact .verbatim hbody
  have hunbroken : Text.IsUnbroken crowdedLiteral.toList := by decide
  have htype : ∀ type ∈ (quotation crowdedLiteral).type, IsUnmarked type.toList := by
    rintro type ⟨⟩
    decide
  have hname : ∀ name ∈ (quotation crowdedLiteral).name, IsUnmarked name.toList := by
    rintro name ⟨⟩
    decide
  refine ⟨hliteral, hunbroken, ?_⟩
  exact (literal_reaches_output_iff (quoting _).2 (quoting _).1 rfl rfl hliteral htype hname).mpr
    hunbroken

/-- A verbatim literal that spans two lines. -/
def brokenLiteral : String := "@\"a\n  b\""

/-- The second line of the literal loses the spaces that it starts with. -/
theorem brokenLiteral_is_changed :
    IsStringLiteral brokenLiteral.toList
      ∧ ((quoting brokenLiteral).2.build (quoting brokenLiteral).1).1
        = .ok (quotation brokenLiteral)
      ∧ formatted {} (.property (quotation brokenLiteral))
        = .ok "public string Text\n\x7b\n    get;\n    set;\n\x7d = @\"a\nb\";\n"
      ∧ ¬brokenLiteral.toList
        <:+: "public string Text\n\x7b\n    get;\n    set;\n\x7d = @\"a\nb\";\n".toList := by
  have hliteral : IsStringLiteral brokenLiteral.toList := by
    have hbody : IsVerbatimBody "a\n  b\"".toList :=
      .char (by decide) (.char (by decide) (.char (by decide) (.char (by decide)
        (.char (by decide) .close))))
    exact .verbatim hbody
  exact ⟨hliteral, rfl, congrArg Except.ok (by decide +kernel), by decide +kernel⟩

end Scaffold
