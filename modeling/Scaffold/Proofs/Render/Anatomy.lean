import Scaffold.Proofs.Error.Report
import Scaffold.Proofs.Text.Trim
import Scaffold.Render

/-!
# What the source of a container is put together from

A container is an enumeration, a class, a struct, an interface or a namespace. Its source is a
header, a block, and the sources of its members within, and nothing is trimmed off where these are
put together.

* **`Declaration.container?`**: the parts of a container.
* **`startsLine_header`**: a header starts with something that no trimming drops.
* **`source_container`**: the source of a container is the block of its parts.
-/

namespace Scaffold

open Render

/-! ## Containers -/

/-- What the source of a container is put together from. -/
structure Container where
  /-- The declaration up to its block. -/
  header : String
  /-- Empty lines stand between the members. -/
  isApart : Bool
  /-- The members in the order in which they are written. -/
  members : List Declaration

/-- A type with a block of fields, constructors and properties. -/
def Container.ofType (header : String) (fields : List Field) (constructors : List Constructor)
    (properties : List Property) : Container where
  header := header
  isApart := true
  members := fields.map .field ++ constructors.map .constructor ++ properties.map .property

/-- What stands between the sources of two members. -/
def Container.gap (container : Container) : String :=
  optionalWord container.isApart memberGap

/-- The parts of an enumeration, class, struct, interface or namespace. -/
def Declaration.container? (settings : RenderSettings) : Declaration → Option Container
  | .enumeration value => some
    { header := enumHeader settings value (value.name.getD "")
      isApart := false
      members := value.members.map .enumMember }
  | .class value => some <| .ofType (classHeader value (value.name.getD ""))
      value.fields value.constructors value.properties
  | .struct value => some <| .ofType (structHeader value (value.name.getD ""))
      value.fields value.constructors value.properties
  | .interface value => some
    { header := interfaceHeader value (value.name.getD "")
      isApart := true
      members := value.properties.map .property }
  | .namespace value => some
    { header := namespaceHeader value (value.name.getD "")
      isApart := true
      members := value.enums.map .enumeration ++ value.interfaces.map .interface
        ++ value.classes.map .class ++ value.structs.map .struct }
  | _ => none

/-! ## Headers -/

/-- The text starts with something else than a line feed. -/
def StartsLine (text : String) : Prop :=
  ∃ c cs, text.toList = c :: cs ∧ c ≠ '\n'

/-- What follows does not change how a text starts. -/
theorem StartsLine.append {first : String} (h : StartsLine first) (second : String) :
    StartsLine (first ++ second) := by
  obtain ⟨c, cs, hcons, hc⟩ := h
  exact ⟨c, cs ++ second.toList, by rw [String.toList_append, hcons, List.cons_append], hc⟩

/-- What may be left out does not change how the text behind it starts. -/
theorem StartsLine.append_left {first second : String} (hfirst : first = "" ∨ StartsLine first)
    (hsecond : StartsLine second) : StartsLine (first ++ second) := by
  rcases hfirst with rfl | hstarts
  · simpa using hsecond
  · exact hstarts.append second

/-- Documentation is left out or starts with its opening tag. -/
theorem startsLine_docBlock (summary : Option String) :
    docBlock summary = "" ∨ StartsLine (docBlock summary) := by
  unfold docBlock
  split
  next => exact Or.inl rfl
  next =>
    have hopen : StartsLine "/// <summary>\n" := ⟨'/', _, rfl, by decide⟩
    exact Or.inr ((hopen.append _).append _)

/-- Joined words start with the first of them, if that is not left out. -/
theorem startsLine_words {word : String} (hword : StartsLine word) (rest : List String) :
    StartsLine (words (word :: rest)) := by
  have hne : word ≠ "" := by
    rintro rfl
    obtain ⟨c, cs, hcons, -⟩ := hword
    exact absurd hcons (by simp)
  unfold words
  rw [List.filter_cons_of_pos (by simpa using hne)]
  cases rest.filter (· != "") with
  | nil => simpa using hword
  | cons next others =>
    rw [String.intercalate_cons_cons, String.append_assoc]
    exact hword.append _

/-- Words that may be left out stand before one that may not. -/
theorem startsLine_words_cons {word : String} (hword : word = "" ∨ StartsLine word)
    {rest : List String} (hrest : StartsLine (words rest)) : StartsLine (words (word :: rest)) := by
  rcases hword with rfl | hstarts
  · exact hrest
  · exact startsLine_words hstarts rest

/-- The keyword of an access is left out or starts with a letter. -/
theorem startsLine_keyword (access : Access) :
    access.keyword = "" ∨ StartsLine access.keyword := by
  cases access with
  | listed level =>
    cases level with
    | unspecified => exact Or.inl rfl
    | _ => exact Or.inr ⟨_, _, rfl, by decide⟩
  | unlisted | unset =>
    have hprivate : StartsLine "private" := ⟨'p', _, rfl, by decide⟩
    exact Or.inr hprivate

/-- A word that a condition leaves out, or that starts as it does otherwise. -/
theorem startsLine_optionalWord (condition : Bool) {word : String} (h : StartsLine word) :
    optionalWord condition word = "" ∨ StartsLine (optionalWord condition word) := by
  cases condition with
  | true => exact Or.inr h
  | false => exact Or.inl rfl

/-- The attribute of an enumeration is left out or starts with its bracket. -/
theorem startsLine_flagsLine (settings : RenderSettings) (isFlags : Bool) :
    flagsLine settings isFlags = "" ∨ StartsLine (flagsLine settings isFlags) := by
  cases isFlags with
  | true =>
    have hbracket : StartsLine "[" := ⟨'[', [], rfl, by decide⟩
    exact Or.inr ((hbracket.append _).append _)
  | false => exact Or.inl rfl

/-- The namespaces in use are left out if there are none, or start with the first of them. -/
theorem startsLine_usingLines (usings : List String) :
    usingLines usings = "" ∨ StartsLine (usingLines usings) := by
  cases usings with
  | nil => exact Or.inl rfl
  | cons name rest =>
    have husing : StartsLine "using " := ⟨'u', _, rfl, by decide⟩
    refine Or.inr (StartsLine.append ?_ _)
    rw [List.map_cons, String.join_cons]
    exact ((husing.append name).append _).append _

/-- Documentation and access may be left out, the words behind them may not. -/
theorem startsLine_documented (summary : Option String) (access : Access) {rest : List String}
    (h : StartsLine (words rest)) :
    StartsLine (docBlock summary ++ words (access.keyword :: rest)) :=
  .append_left (startsLine_docBlock summary) (startsLine_words_cons (startsLine_keyword access) h)

/-- **A header never starts with a line feed.** -/
theorem startsLine_header {settings : RenderSettings} {declaration : Declaration}
    {container : Container} (h : declaration.container? settings = some container) :
    StartsLine container.header := by
  -- the keyword of a container is never left out, whatever may stand before it
  cases declaration with
  | enumeration value =>
    obtain rfl := Option.some.inj h
    have hwords := startsLine_words_cons (startsLine_keyword value.access)
      (@startsLine_words "enum" ⟨_, _, rfl, by decide⟩ [value.name.getD ""])
    have hflags := startsLine_flagsLine settings value.isFlags
    show StartsLine (docBlock value.summary ++ flagsLine settings value.isFlags ++ _)
    rw [String.append_assoc]
    exact .append_left (startsLine_docBlock _) (.append_left hflags hwords)
  | «class» value =>
    obtain rfl := Option.some.inj h
    have hstatic := @startsLine_optionalWord value.isStatic "static" ⟨_, _, rfl, by decide⟩
    have hwords := startsLine_words_cons hstatic
      (@startsLine_words "class" ⟨_, _, rfl, by decide⟩ [value.name.getD ""])
    exact (startsLine_documented value.summary value.access hwords).append _
  | struct value =>
    obtain rfl := Option.some.inj h
    have hwords := @startsLine_words "struct" ⟨_, _, rfl, by decide⟩ [value.name.getD ""]
    exact (startsLine_documented value.summary value.access hwords).append _
  | interface value =>
    obtain rfl := Option.some.inj h
    have hwords := @startsLine_words "interface" ⟨_, _, rfl, by decide⟩ [value.name.getD ""]
    exact (startsLine_documented value.summary value.access hwords).append _
  | «namespace» value =>
    obtain rfl := Option.some.inj h
    have hnamespace : StartsLine "namespace " := ⟨'n', _, rfl, by decide⟩
    show StartsLine (usingLines value.usings ++ "namespace " ++ _)
    rw [String.append_assoc]
    exact .append_left (startsLine_usingLines value.usings) (hnamespace.append _)
  | accessor | field | property | parameter | constructor | enumMember =>
    exact absurd h (by simp [Declaration.container?])

/-! ## What a source is put together from -/

/-- A declaration with a source has that source laid out. -/
theorem formatted_of_source {settings : Settings} {declaration : Declaration} {text : String}
    (h : source settings.render declaration = .ok text) :
    formatted settings declaration = .ok (Layout.format settings.layout text) := by
  rw [formatted, sourceWith, h]
  rfl

/-- A text without line feeds at its ends is a fragment as it is. -/
theorem fragment_eq_self {text : String} (h : StartsLine text)
    (hlast : text.toList.getLast? ≠ some '\n') : fragment text = text := by
  obtain ⟨c, cs, hcons, hc⟩ := h
  have hhead : text.toList.head? ≠ some '\n' := by simpa [hcons] using hc
  rw [fragment, Text.trimLineFeeds_eq_self hhead hlast, String.ofList_toList]

/-- Trimming takes nothing from a block: it starts with its header and ends with its brace. -/
theorem fragment_block {header : String} (h : StartsLine header) (body : String) :
    fragment (block header body) = block header body := by
  refine fragment_eq_self (((h.append _).append _).append _) ?_
  simp [block, List.getLast?_cons]

/-- A container that is rendered has a name, and its members are rendered. -/
theorem exists_members_of_block {entity gap text : String} {name? : Option String}
    {header : String → String} {outcome : Except Error (List String)}
    (h : (do
      let name ← require entity "name" name?
      let members ← outcome
      return fragment (block (header name) (blockBody gap members))) = Except.ok text) :
    ∃ members, outcome = .ok members
      ∧ text = fragment (block (header (name?.getD "")) (blockBody gap members)) := by
  obtain ⟨name, hname, hrest⟩ := bind_eq_ok_iff.mp h
  obtain ⟨members, hmembers, htext⟩ := bind_eq_ok_iff.mp hrest
  obtain ⟨rfl, -⟩ := require_eq_ok_iff.mp hname
  exact ⟨members, hmembers, (Except.ok.inj htext).symm⟩

/-- The members of a class or struct are rendered kind by kind. -/
theorem mapM_ofType (settings : RenderSettings) (header : String) (fields : List Field)
    (constructors : List Constructor) (properties : List Property) :
    (Container.ofType header fields constructors properties).members.mapM (source settings)
      = typeMembers fields constructors properties := by
  show (fields.map _ ++ constructors.map _ ++ properties.map _).mapM (source settings) = _
  rw [List.mapM_append, List.mapM_append, List.mapM_map, List.mapM_map, List.mapM_map]
  simp only [bind_assoc, pure_bind]
  rfl

theorem mapM_namespace (settings : RenderSettings) (record : Namespace) :
    (record.enums.map Declaration.enumeration ++ record.interfaces.map Declaration.interface
        ++ record.classes.map Declaration.class
        ++ record.structs.map Declaration.struct).mapM (source settings)
      = namespaceMembers settings record := by
  rw [List.mapM_append, List.mapM_append, List.mapM_append, List.mapM_map, List.mapM_map,
    List.mapM_map, List.mapM_map]
  simp only [bind_assoc, pure_bind]
  rfl

/-- **The source of a container** is its header and a block of the sources of its members. -/
theorem source_container {settings : RenderSettings} {declaration : Declaration}
    {container : Container} (h : declaration.container? settings = some container) {text : String}
    (hsource : source settings declaration = .ok text) :
    ∃ members, container.members.mapM (source settings) = .ok members
      ∧ text = block container.header (blockBody container.gap members) := by
  have hstarts : StartsLine container.header := startsLine_header h
  suffices hparts : ∃ members, container.members.mapM (source settings) = .ok members
      ∧ text = fragment (block container.header (blockBody container.gap members)) by
    obtain ⟨members, hmembers, rfl⟩ := hparts
    exact ⟨members, hmembers, fragment_block hstarts _⟩
  -- each kind of container has a word of its own and renders its name before its members
  cases declaration with
  | enumeration value =>
    obtain rfl := Option.some.inj h
    obtain ⟨members, hmembers, htext⟩ :=
      @exists_members_of_block "enum" _ _ _ (enumHeader settings value) _ hsource
    exact ⟨members, by rw [← hmembers, List.mapM_map]; rfl, htext⟩
  | «class» value =>
    obtain rfl := Option.some.inj h
    obtain ⟨members, hmembers, htext⟩ :=
      @exists_members_of_block "class" _ _ _ (classHeader value) _ hsource
    exact ⟨members, by rw [mapM_ofType, hmembers], htext⟩
  | struct value =>
    obtain rfl := Option.some.inj h
    obtain ⟨members, hmembers, htext⟩ :=
      @exists_members_of_block "struct" _ _ _ (structHeader value) _ hsource
    exact ⟨members, by rw [mapM_ofType, hmembers], htext⟩
  | interface value =>
    obtain rfl := Option.some.inj h
    obtain ⟨members, hmembers, htext⟩ :=
      @exists_members_of_block "interface" _ _ _ (interfaceHeader value) _ hsource
    exact ⟨members, by rw [← hmembers, List.mapM_map]; rfl, htext⟩
  | «namespace» value =>
    obtain rfl := Option.some.inj h
    obtain ⟨members, hmembers, htext⟩ :=
      @exists_members_of_block "namespace" _ _ _ (namespaceHeader value) _ hsource
    exact ⟨members, by rw [mapM_namespace, hmembers], htext⟩
  | accessor | field | property | parameter | constructor | enumMember =>
    exact absurd h (by simp [Declaration.container?])

end Scaffold
