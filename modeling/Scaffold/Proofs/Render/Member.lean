import Scaffold.Proofs.Render.Piece

/-!
# Members as they are printed

Rendering a member with plain texts succeeds, and layout turns its source into what the printer
prints (`Renders`). Each member is an introduction by its documentation, and then a plain line or a
block below a plain header.
-/

namespace Scaffold.Printer

open Render

variable {layout : LayoutSettings}

/-! ## Outcomes of rendering -/

/-- Rendering succeeds with a source that is printed as given. -/
def Renders (layout : LayoutSettings) (outcome : Except Error String) (printed : Printed) : Prop :=
  ∃ source, outcome = .ok source ∧ Stands layout (source ++ "\n") printed

/-- Rendering succeeds with sources of which each is printed as given. -/
def RendersAll (layout : LayoutSettings) (outcome : Except Error (List String))
    (printed : List Printed) : Prop :=
  ∃ sources, outcome = .ok sources
    ∧ List.Forall₂ (fun source => Stands layout (source ++ "\n")) sources printed

/-- A source that stands is a fragment as it is. -/
theorem renders_fragment {source : String} {printed : Printed}
    (h : Stands layout (source ++ "\n") printed) :
    Renders layout (.ok (fragment source)) printed :=
  ⟨source, by rw [h.fragment_eq], h⟩

/-- Rendering a list succeeds where rendering each member does. -/
theorem rendersAll_mapM {α : Type} {items : List α} {render : α → Except Error String}
    {printed : α → Printed} (h : ∀ item ∈ items, Renders layout (render item) (printed item)) :
    RendersAll layout (items.mapM render) (items.map printed) := by
  induction items with
  | nil => exact ⟨[], rfl, .nil⟩
  | cons item rest ih =>
    obtain ⟨source, hsource, hstands⟩ := h item (by simp)
    obtain ⟨sources, hsources, hall⟩ := ih fun other hother => h other (by simp [hother])
    refine ⟨source :: sources, ?_, .cons hstands hall⟩
    rw [List.mapM_cons, hsource, hsources]
    rfl

/-- A piece stands below its documentation. -/
theorem stands_documented {summary : Option String} (h : HasPairedReturns summary)
    {piece rest : String} {printed : Printed} (hrest : Stands layout rest printed)
    (hpiece : piece = docBlock summary ++ rest) :
    Stands layout piece fun depth => documentation layout summary depth ++ printed depth := by
  rw [hpiece]
  exact (introduces_documentation h).stands hrest

/-! ## Fields and members of enumerations -/

/-- **A field is rendered as it is printed.** -/
theorem renders_field {value : Field} (h : value.HasPlainTexts) :
    Renders layout (Render.field value) (field layout value) := by
  obtain ⟨htype, hname, hsummary⟩ := h
  have hwords : IsPlain (words [value.access.keyword, optionalWord value.isReadonly "readonly",
      value.type.getD "", value.name.getD ""]) := by
    refine isPlain_words ?_ (List.mem_of_getLast? rfl) hname.isPlain_getD.ne_empty
    simpa using ⟨isPlain_keyword value.access, isPlain_optionalWord value.isReadonly (by decide),
      Or.inr htype.isPlain_getD, Or.inr hname.isPlain_getD⟩
  rw [Render.field, htype.require_eq, hname.require_eq]
  have hline : IsPlain _ := hwords.append_mark ";" (by decide)
  refine renders_fragment (stands_documented hsummary (stands_plain hline) ?_)
  simp only [fieldText, String.append_assoc]

/-- **A member of an enumeration is rendered as it is printed.** -/
theorem renders_enumMember {value : EnumMember} (h : value.HasPlainTexts) :
    Renders layout (Render.enumMember value) (enumMember layout value) := by
  obtain ⟨hname, hsummary⟩ := h
  have hvalue : IsPlain (value.name.getD "" ++ enumValue value.value) := by
    cases value.value with
    | none => simpa [enumValue] using hname.isPlain_getD
    | some number =>
      rw [enumValue, ← String.append_assoc]
      exact hname.isPlain_getD.between (isPlain_toString number) " = " "=" (by decide)
  rw [Render.enumMember, hname.require_eq]
  have hline : IsPlain _ := hvalue.append_mark "," (by decide)
  refine renders_fragment (stands_documented hsummary (stands_plain hline) ?_)
  simp only [enumMemberText, String.append_assoc]

/-! ## Properties -/

/-- A plain default value is assigned by a plain text that starts with an equals sign. -/
theorem isPlain_assignment {value : String} (h : IsPlain value) :
    IsPlain (assignment value) ∧ (assignment value).toList.head? = some '=' := by
  -- the sign is there afterwards, whether it was before or not
  have hfirst : IsPlain ((if value.toList.head? = some '=' then "" else "= ") ++ value)
      ∧ ((if value.toList.head? = some '=' then "" else "= ") ++ value).toList.head? = some '=' := by
    split
    next heq => simpa using ⟨h, heq⟩
    next =>
      have hsign : "= " = "=" ++ " " := by decide
      rw [hsign]
      exact ⟨(by decide : IsPlain "=").spaced h, by simp⟩
  rw [assignment]
  generalize (if value.toList.head? = some '=' then "" else "= ") ++ value = first at hfirst
  split
  next => simpa using hfirst
  next =>
    obtain ⟨c, cs, hcons⟩ := hfirst.1.exists_cons
    refine ⟨hfirst.1.append_mark ";" (by decide), ?_⟩
    rw [String.toList_append, hcons]
    rw [hcons] at hfirst
    exact hfirst.2

/-- What stands behind a property may stand behind a brace. -/
theorem isTail_initializer {value? : Option String} (h : ∀ value ∈ value?, IsPlain value) :
    IsTail (initializer value?) := by
  cases value? with
  | none => exact Or.inl rfl
  | some value =>
    obtain ⟨hplain, hhead⟩ := isPlain_assignment (h value rfl)
    exact Or.inr ⟨_, hplain, hhead, rfl⟩

/-- An accessor fills braces, as one line or as nothing. -/
theorem fills_accessor {keyword : String} (hkeyword : IsPlain keyword) {value : Accessor}
    (h : value.HasPlainTexts) :
    Fills layout (accessorLine (Render.accessor keyword value)) (accessor layout keyword value) := by
  have hline (text : String) (htext : IsPlain text) :
      Fills layout (accessorLine text) (line layout text) := by
    rw [accessorLine, if_neg htext.ne_empty]
    exact fills_indented htext
  -- the kinds that are not rendered are not printed either
  rw [Render.accessor, accessor]
  cases hkind : value.kind with
  | unconfigured | absent => exact fills_nil
  | automatic => exact hline _ (hkeyword.append_mark ";" (by decide))
  | custom =>
    obtain ⟨expression, hsome, hplain⟩ := h hkind
    rw [Option.mem_def.mp hsome, Option.getD_some]
    -- a plain expression is no block
    have hbrace : expression.toList.head? ≠ some '\x7b' := by
      intro hhead
      exact (hplain.isQuiet.no_brace _ (List.mem_of_mem_head? hhead)).1 rfl
    rw [customAccessor, if_neg hbrace]
    exact hline _ ((hkeyword.between hplain " => " "=>" (by decide)).append_mark ";" (by decide))

/-- The accessors that are rendered are those of the property, or automatic, or absent. -/
theorem hasPlainTexts_effective {value : Property} (h : value.HasPlainTexts) :
    value.effectiveGetter.HasPlainTexts ∧ value.effectiveSetter.HasPlainTexts := by
  obtain ⟨-, -, -, -, hgetter, hsetter⟩ := h
  constructor
  · rw [Property.effectiveGetter]
    split
    next => exact nofun
    next => exact nofun
    next => exact hgetter
  · rw [Property.effectiveSetter]
    split
    next => exact nofun
    next => exact nofun
    next => exact hsetter

/-- The accessors of a property fill braces. -/
theorem fills_accessorBlock {value : Property} (h : value.HasPlainTexts) :
    Fills layout (accessorBlock value)
      (inOrder [accessor layout "get" value.effectiveGetter,
        accessor layout "set" value.effectiveSetter]) := by
  obtain ⟨hgetter, hsetter⟩ := hasPlainTexts_effective h
  rw [accessorBlock, inOrder_cons, inOrder_cons, inOrder_nil]
  simpa using (fills_accessor (by decide) hgetter).append (fills_accessor (by decide) hsetter)

/-- **A property is rendered as it is printed.** -/
theorem renders_property {value : Property} (h : value.HasPlainTexts) :
    Renders layout (Render.property value) (property layout value) := by
  have hbody : Fills layout _ _ := fills_accessorBlock h
  obtain ⟨htype, hname, hsummary, hdefault, -, -⟩ := h
  have hwords : IsPlain (words [value.access.keyword, optionalWord value.isStatic "static",
      value.type.getD "", value.name.getD ""]) := by
    refine isPlain_words ?_ (List.mem_of_getLast? rfl) hname.isPlain_getD.ne_empty
    simpa using ⟨isPlain_keyword value.access, isPlain_optionalWord value.isStatic (by decide),
      Or.inr htype.isPlain_getD, Or.inr hname.isPlain_getD⟩
  rw [Render.property, htype.require_eq, hname.require_eq]
  refine renders_fragment ?_
  unfold property propertyText
  cases value.hasAccessors with
  | true =>
    exact stands_block (introduces_documentation hsummary) hwords hbody
      (isTail_initializer hdefault)
  | false =>
    -- one line, which ends with a semicolon or with the default value
    cases hvalue : value.defaultValue with
    | none =>
      have hline : IsPlain _ := hwords.append_mark ";" (by decide)
      refine stands_documented hsummary (stands_plain hline) ?_
      simp [propertyHeader, String.append_assoc]
    | some text =>
      have hline := hwords.spaced (isPlain_assignment (hdefault text hvalue)).1
      rw [String.append_assoc] at hline
      refine stands_documented hsummary (stands_plain hline) ?_
      simp [propertyHeader, initializer, String.append_assoc]

/-! ## Constructors -/

/-- A plain text with plain arguments in parentheses is plain. -/
theorem isPlain_arguments {text : String} (h : IsPlain text) {arguments : List String}
    (harguments : ∀ argument ∈ arguments, IsPlain argument) :
    IsPlain (text ++ "(" ++ ", ".intercalate arguments ++ ")") := by
  have hopen : IsPlain (text ++ "(") := h.append_mark "(" (by decide)
  by_cases hnil : arguments = []
  · simpa [hnil] using hopen.append_mark ")" (by decide)
  · -- a parenthesis is no slash, so no comment starts behind it
    refine (hopen.append (isPlain_commas harguments hnil) (Or.inl ?_)).append_mark ")" (by decide)
    simp [List.getLast?_append]

/-- A plain header with the call of the base class behind it, if there is one, is plain. -/
theorem isPlain_baseCall {header : String} (h : IsPlain header) {arguments? : Option (List String)}
    (harguments : ∀ arguments ∈ arguments?, ∀ argument ∈ arguments, IsPlain argument) :
    IsPlain (header ++ baseCall arguments?) := by
  cases arguments? with
  | none => simpa [baseCall] using h
  | some arguments =>
    have hcall := isPlain_arguments (by decide : IsPlain "base") (harguments arguments rfl)
    have hassoc : header ++ baseCall (some arguments)
        = header ++ " : " ++ ("base" ++ "(" ++ ", ".intercalate arguments ++ ")") := by
      simp [baseCall, ← String.toList_inj]
    rw [hassoc]
    exact h.between hcall " : " ":" (by decide)

/-- A parameter is stored on a line of its own, or not at all. -/
theorem fills_storing {parameter : Parameter} (h : parameter.HasPlainTexts) :
    Fills layout (Render.storing parameter) (storing layout parameter) := by
  obtain ⟨-, hname, hmember⟩ := h
  rw [Render.storing, storing]
  cases hgiven : Text.given? parameter.receivingMember with
  | none => exact fills_nil
  | some member =>
    have hassign : IsPlain (member ++ " = " ++ parameter.name) :=
      (hmember member hgiven).between hname " = " "=" (by decide)
    simpa [String.append_assoc] using fills_indented (hassign.append_mark ";" (by decide))

/-- **A constructor is rendered as it is printed.** -/
theorem renders_constructor {value : Constructor} (h : value.HasPlainTexts) :
    Renders layout (Render.constructor value) (constructor layout value) := by
  obtain ⟨hname, hsummary, hparameters, harguments⟩ := h
  have hwords : IsPlain (words [optionalWord (!value.isStatic) value.access.keyword,
      optionalWord value.isStatic "static", value.className.getD ""]) := by
    refine isPlain_words ?_ (List.mem_of_getLast? rfl) hname.isPlain_getD.ne_empty
    simpa using ⟨isPlain_optionalWord _ (isPlain_keyword value.access),
      isPlain_optionalWord value.isStatic (by decide), Or.inr hname.isPlain_getD⟩
  -- the parameters are in parentheses behind the words, and the call of the base class follows
  have hlist : IsPlain (words [optionalWord (!value.isStatic) value.access.keyword,
      optionalWord value.isStatic "static", value.className.getD ""]
      ++ "(" ++ parameterList value.parameters ++ ")") := by
    refine isPlain_arguments hwords fun argument hargument => ?_
    obtain ⟨parameter, hmem, rfl⟩ := List.mem_map.mp hargument
    obtain ⟨htype, hparameter, -⟩ := hparameters parameter hmem
    exact htype.spaced hparameter
  have hbody : Fills layout _ _ :=
    fills_inOrder fun parameter hmem => fills_storing (hparameters parameter hmem)
  have hblock : Stands layout _ _ :=
    stands_block (introduces_documentation hsummary) (isPlain_baseCall hlist harguments) hbody
      (Or.inl rfl)
  rw [Render.constructor, hname.require_eq]
  refine renders_fragment ?_
  unfold constructor constructorText constructorHeader
  simpa [String.append_assoc] using hblock

end Scaffold.Printer
