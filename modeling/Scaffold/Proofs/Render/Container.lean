import Scaffold.Proofs.Render.Member

/-!
# Declarations as they are printed

Rendering a type or a namespace with plain texts succeeds, and layout turns its source into what
the printer prints, given that it does so for the members. With the members this is every
declaration: **`formatted_eq_print`** says that rendering with layout is printing in one pass.
-/

namespace Scaffold.Printer

open Render

variable {layout : LayoutSettings}

/-! ## Enumerations -/

/-- The attribute of a flags enumeration has a line of its own before the header. -/
theorem introduces_flagsLine {settings : RenderSettings} {isFlags : Bool}
    (h : isFlags = true → IsPlain settings.flagsAttribute) :
    Introduces layout (flagsLine settings isFlags) fun depth =>
      if isFlags then line layout ("[" ++ settings.flagsAttribute ++ "]") depth else "" := by
  cases isFlags with
  | false => exact introduces_nil
  | true =>
    have hplain : IsPlain ("[" ++ settings.flagsAttribute ++ "]") :=
      ((h rfl).mark_append "[" (by decide)).append_mark "]" (by decide)
    simpa [flagsLine, String.append_assoc] using introduces_plain hplain

/-- **An enumeration is rendered as it is printed.** -/
theorem renders_enumeration {settings : RenderSettings} {value : Enumeration}
    (h : value.HasPlainTexts settings) :
    Renders layout (Render.enumeration settings value) (enumeration layout settings value) := by
  obtain ⟨hname, hsummary, hflags, hmembers⟩ := h
  have hwords : IsPlain (words [value.access.keyword, "enum", value.name.getD ""]) := by
    refine isPlain_words ?_ (List.mem_of_getLast? rfl) hname.isPlain_getD.ne_empty
    simpa using ⟨isPlain_keyword value.access, (by decide : IsPlain "enum"),
      Or.inr hname.isPlain_getD⟩
  obtain ⟨sources, hsources, hall⟩ : RendersAll layout (value.members.mapM Render.enumMember) _ :=
    rendersAll_mapM fun member hmem => renders_enumMember (hmembers member hmem)
  -- documentation and attribute stand before the header, and the members fill the block
  have hblock : Stands layout _ _ :=
    stands_block ((introduces_documentation hsummary).append (introduces_flagsLine hflags)) hwords
      (fills_members hall) (Or.inl rfl)
  rw [Render.enumeration, hname.require_eq, hsources]
  refine renders_fragment ?_
  unfold enumeration enumHeader
  simpa [String.append_assoc] using hblock

/-! ## Classes, structs and interfaces -/

/-- A plain header with what it extends behind it is plain. -/
theorem isPlain_extending {header : String} (h : IsPlain header) {names : List String}
    (hnames : ∀ name ∈ names, IsPlain name) : IsPlain (header ++ extending names) := by
  rw [extending]
  split
  next => simpa using h
  next hne =>
    rw [← String.append_assoc]
    exact h.between (isPlain_commas hnames hne) " : " ":" (by decide)

/-- A base class and interfaces are plain names. -/
theorem isPlain_of_mem_inheritance {value : Class} (h : value.HasPlainTexts) {name : String}
    (hname : name ∈ value.inheritance) : IsPlain name := by
  obtain ⟨-, -, hbase, hinterfaces, -⟩ := h
  -- the inherited class comes first, unless it is missing or blank
  rw [Class.inheritance] at hname
  split at hname
  next => exact hinterfaces name hname
  next base hsome =>
    split at hname
    next => exact hinterfaces name hname
    next hne =>
      rcases List.mem_cons.mp hname with rfl | hmem
      · exact hbase name (by simp [hsome, Text.given?, hne])
      · exact hinterfaces name hmem

/-- The members of a class or struct are rendered as they are printed. -/
theorem rendersAll_typeMembers {fields : List Field} {constructors : List Constructor}
    {properties : List Property} (hfields : ∀ value ∈ fields, value.HasPlainTexts)
    (hconstructors : ∀ value ∈ constructors, value.HasPlainTexts)
    (hproperties : ∀ value ∈ properties, value.HasPlainTexts) :
    RendersAll layout (Render.typeMembers fields constructors properties)
      (fields.map (field layout) ++ constructors.map (constructor layout)
        ++ properties.map (property layout)) := by
  -- each kind of member renders on its own, so that all of them do so in order
  obtain ⟨first, hfirst, hfirstAll⟩ : RendersAll layout (fields.mapM Render.field) _ :=
    rendersAll_mapM fun value hmem => renders_field (hfields value hmem)
  obtain ⟨second, hsecond, hsecondAll⟩ :
      RendersAll layout (constructors.mapM Render.constructor) _ :=
    rendersAll_mapM fun value hmem => renders_constructor (hconstructors value hmem)
  obtain ⟨third, hthird, hthirdAll⟩ : RendersAll layout (properties.mapM Render.property) _ :=
    rendersAll_mapM fun value hmem => renders_property (hproperties value hmem)
  refine ⟨first ++ second ++ third, ?_, ?_⟩
  · rw [Render.typeMembers, hfirst, hsecond, hthird]
    rfl
  · exact List.rel_append (List.rel_append hfirstAll hsecondAll) hthirdAll

/-- A type stands, below its documentation and a plain header, with empty lines between its
members. -/
theorem stands_type {summary : Option String} (hsummary : HasPairedReturns summary)
    {header : String} (hheader : IsPlain header) {sources : List String} {printed : List Printed}
    (hall : List.Forall₂ (fun source => Stands layout (source ++ "\n")) sources printed) :
    Stands layout
      (Render.block (docBlock summary ++ header) (blockBody memberGap sources) ++ "\n")
      fun depth => documentation layout summary depth
        ++ block layout header "" (apart layout printed) depth := by
  have hblock : Stands layout _ _ :=
    stands_block (introduces_documentation hsummary) hheader (fills_members_apart hall)
      (Or.inl rfl)
  rwa [String.append_empty] at hblock

/-- **A class is rendered as it is printed.** -/
theorem renders_class {value : Class} (h : value.HasPlainTexts) :
    Renders layout (Render.class value) («class» layout value) := by
  have hnames : ∀ name ∈ value.inheritance, IsPlain name :=
    fun name hmem => isPlain_of_mem_inheritance h hmem
  obtain ⟨hname, hsummary, -, -, hfields, hconstructors, hproperties⟩ := h
  have hwords : IsPlain (words [value.access.keyword, optionalWord value.isStatic "static", "class",
      value.name.getD ""]) := by
    refine isPlain_words ?_ (List.mem_of_getLast? rfl) hname.isPlain_getD.ne_empty
    simpa using ⟨isPlain_keyword value.access, isPlain_optionalWord value.isStatic (by decide),
      (by decide : IsPlain "class"), Or.inr hname.isPlain_getD⟩
  obtain ⟨sources, hsources, hall⟩ : RendersAll layout _ _ :=
    rendersAll_typeMembers hfields hconstructors hproperties
  rw [Render.class, hname.require_eq, hsources]
  refine renders_fragment ?_
  have hblock := stands_type hsummary (isPlain_extending hwords hnames) hall
  rwa [← String.append_assoc] at hblock

/-- **A struct is rendered as it is printed.** -/
theorem renders_struct {value : Struct} (h : value.HasPlainTexts) :
    Renders layout (Render.struct value) (struct layout value) := by
  obtain ⟨hname, hsummary, hnames, hfields, hconstructors, hproperties⟩ := h
  have hwords : IsPlain (words [value.access.keyword, "struct", value.name.getD ""]) := by
    refine isPlain_words ?_ (List.mem_of_getLast? rfl) hname.isPlain_getD.ne_empty
    simpa using ⟨isPlain_keyword value.access, (by decide : IsPlain "struct"),
      Or.inr hname.isPlain_getD⟩
  obtain ⟨sources, hsources, hall⟩ : RendersAll layout _ _ :=
    rendersAll_typeMembers hfields hconstructors hproperties
  rw [Render.struct, hname.require_eq, hsources]
  refine renders_fragment ?_
  have hblock := stands_type hsummary (isPlain_extending hwords hnames) hall
  rwa [← String.append_assoc] at hblock

/-- **An interface is rendered as it is printed.** -/
theorem renders_interface {value : Interface} (h : value.HasPlainTexts) :
    Renders layout (Render.interface value) (interface layout value) := by
  obtain ⟨hname, hsummary, hnames, hproperties⟩ := h
  have hwords : IsPlain (words [value.access.keyword, "interface", value.name.getD ""]) := by
    refine isPlain_words ?_ (List.mem_of_getLast? rfl) hname.isPlain_getD.ne_empty
    simpa using ⟨isPlain_keyword value.access, (by decide : IsPlain "interface"),
      Or.inr hname.isPlain_getD⟩
  obtain ⟨sources, hsources, hall⟩ : RendersAll layout (value.properties.mapM Render.property) _ :=
    rendersAll_mapM fun property hmem => renders_property (hproperties property hmem)
  rw [Render.interface, hname.require_eq, hsources]
  refine renders_fragment ?_
  have hblock := stands_type hsummary (isPlain_extending hwords hnames) hall
  rwa [← String.append_assoc] at hblock

/-! ## Namespaces -/

/-- The namespaces in use introduce the one that uses them. -/
theorem introduces_usingLines {usings : List String} (h : ∀ name ∈ usings, IsPlain name) :
    Introduces layout (usingLines usings) fun depth =>
      inOrder (usings.map fun name => line layout ("using " ++ name ++ ";")) depth
        ++ if usings = [] then "" else layout.newline.text := by
  by_cases hnil : usings = []
  · subst hnil
    exact introduces_nil
  · -- each line stands, and the empty line behind the last of them makes them an introduction
    have hline (name : String) (hmem : name ∈ usings) :
        Stands layout ("using " ++ name ++ ";\n") (line layout ("using " ++ name ++ ";")) := by
      have hplain : IsPlain ("using" ++ " " ++ name ++ ";") :=
        ((by decide : IsPlain "using").spaced (h name hmem)).append_mark ";" (by decide)
      simpa [String.append_assoc] using stands_plain hplain
    simpa [usingLines, hnil, optionalWord] using (stands_inOrder hline hnil).introduces_gap

/-- The types in a namespace are rendered as they are printed. -/
theorem rendersAll_namespaceMembers {settings : RenderSettings} {value : Namespace}
    (h : value.HasPlainTexts settings) :
    RendersAll layout (namespaceMembers settings value)
      (value.enums.map (enumeration layout settings) ++ value.interfaces.map (interface layout)
        ++ value.classes.map («class» layout) ++ value.structs.map (struct layout)) := by
  obtain ⟨-, -, henums, hinterfaces, hclasses, hstructs⟩ := h
  obtain ⟨first, hfirst, hfirstAll⟩ :
      RendersAll layout (value.enums.mapM (Render.enumeration settings)) _ :=
    rendersAll_mapM fun type hmem => renders_enumeration (henums type hmem)
  obtain ⟨second, hsecond, hsecondAll⟩ :
      RendersAll layout (value.interfaces.mapM Render.interface) _ :=
    rendersAll_mapM fun type hmem => renders_interface (hinterfaces type hmem)
  obtain ⟨third, hthird, hthirdAll⟩ : RendersAll layout (value.classes.mapM Render.class) _ :=
    rendersAll_mapM fun type hmem => renders_class (hclasses type hmem)
  obtain ⟨fourth, hfourth, hfourthAll⟩ : RendersAll layout (value.structs.mapM Render.struct) _ :=
    rendersAll_mapM fun type hmem => renders_struct (hstructs type hmem)
  refine ⟨first ++ second ++ third ++ fourth, ?_, ?_⟩
  · rw [namespaceMembers, hfirst, hsecond, hthird, hfourth]
    rfl
  · exact List.rel_append (List.rel_append (List.rel_append hfirstAll hsecondAll) hthirdAll)
      hfourthAll

/-- **A namespace is rendered as it is printed.** -/
theorem renders_namespace {settings : RenderSettings} {value : Namespace}
    (h : value.HasPlainTexts settings) :
    Renders layout (Render.namespace settings value) («namespace» layout settings value) := by
  obtain ⟨sources, hsources, hall⟩ : RendersAll layout _ _ := rendersAll_namespaceMembers h
  obtain ⟨hname, husings, -⟩ := h
  have hheader : IsPlain ("namespace" ++ " " ++ value.name.getD "") :=
    (by decide : IsPlain "namespace").spaced hname.isPlain_getD
  have hblock : Stands layout _ _ :=
    stands_block (introduces_usingLines husings) hheader (fills_members_apart hall) (Or.inl rfl)
  rw [Render.namespace, hname.require_eq, hsources]
  refine renders_fragment ?_
  unfold «namespace» namespaceHeader
  simpa [String.append_assoc] using hblock

/-! ## Declarations -/

/-- A declaration with plain texts is rendered as it is printed. -/
theorem renders_source {settings : Settings} {declaration : Declaration}
    (h : declaration.HasPlainTexts settings.render) :
    Renders settings.layout (source settings.render declaration) (print settings declaration) := by
  cases declaration with
  -- accessors and parameters are rendered only as parts of others
  | accessor value => exact absurd h id
  | parameter value => exact absurd h id
  | field value => exact renders_field h
  | property value => exact renders_property h
  | constructor value => exact renders_constructor h
  | enumMember value => exact renders_enumMember h
  | enumeration value => exact renders_enumeration h
  | «class» value => exact renders_class h
  | struct value => exact renders_struct h
  | interface value => exact renders_interface h
  | «namespace» value => exact renders_namespace h

/-- **Rendering with layout is printing in one pass**, for every declaration with plain texts and
all settings of layout. -/
theorem formatted_eq_print (settings : Settings) (declaration : Declaration)
    (h : declaration.HasPlainTexts settings.render) :
    formatted settings declaration = .ok (print settings declaration 0) := by
  obtain ⟨text, hsource, hstands⟩ := renders_source h
  rw [formatted, sourceWith, hsource, ← hstands.format_eq]
  rfl

/-- A namespace with an enumeration of flags and a class. -/
def shop : Declaration :=
  .namespace
    { name := some "Shop"
      usings := ["System"]
      enums := [{ name := some "Sizes", isFlags := true
                  members := [{ name := some "Small", value := some 1 }] }]
      classes :=
        [{ name := some "Cart", summary := some "Holds items. \r\n", inheritedClass := some "Store"
           constructors := [{ className := some "Cart", baseCallArguments := some ["id"]
                              parameters := [{ type := "int", name := "id" }] }]
           properties := [{ type := some "int", name := some "Count", defaultValue := some "0" }] }] }

/-- The source of `shop`. -/
theorem formatted_shop :
    shop.HasPlainTexts ({} : Settings).render
      ∧ formatted {} shop = .ok ("\n".intercalate
        ["using System;", "", "namespace Shop", "\x7b", "    [System.Flags]",
          "    public enum Sizes", "    \x7b", "        Small = 1,", "    \x7d", "",
          "    /// <summary>", "    /// Holds items.", "    ///", "    /// </summary>",
          "    public class Cart : Store", "    \x7b", "        public Cart(int id) : base(id)",
          "        \x7b", "        \x7d", "", "        public int Count", "        \x7b",
          "            get;", "            set;", "        \x7d = 0;", "    \x7d", "\x7d", ""]) := by
  have hplain : shop.HasPlainTexts ({} : Settings).render := by decide +kernel
  refine ⟨hplain, ?_⟩
  rw [formatted_eq_print {} shop hplain]
  exact congrArg Except.ok (by decide +kernel)

end Scaffold.Printer
