import Scaffold.Proofs.Layout.Composition
import Scaffold.Proofs.Layout.Depth
import Scaffold.Proofs.Layout.Solid
import Scaffold.Proofs.Render.Anatomy

/-!
# Members are laid out as they are on their own

Layout runs once over the source of a container. A member whose braces match cannot tell: it is laid
out as it would be alone, one level deeper.

* **`MayNest`**: what is asked of a member. Its braces match, and no blank line stands at its ends.
* **`layoutLines_block`**: the lines of a block are those of its header and its members.
* **`indentFrom_body`**: the members are indented one level deeper.
* **`formatted_container`**: so formatting commutes with nesting.
-/

namespace Scaffold

open Layout Render

variable {settings : LayoutSettings}

/-! ## Sources that may nest -/

/-- A header that is laid out apart from the block below it. -/
structure MayHead (header : String) : Prop where
  isSelfContained : IsSelfContained header
  last : ∀ line ∈ (Text.lines header.toList).getLast?, Shows line

/-- A member that is laid out apart from what stands around it. -/
structure MayNest (settings : LayoutSettings) (member : String) : Prop where
  isSelfContained : IsSelfContained member
  first : ∀ line ∈ (Text.lines member.toList).head?, Shows line
  last : ∀ line ∈ (Text.lines member.toList).getLast?, Shows line
  not_doc : ∀ line ∈ (outputLines (format settings member)).getLast?, isDocLine line = false

/-- Lines that a blank line may precede and follow. -/
structure IsBordered (lines : List Line) : Prop where
  ne_nil : lines ≠ []
  head : ∀ first ∈ lines.head?, MayFollow [] first
  last : ∀ last ∈ lines.getLast?, MayFollow last []

theorem IsBordered.head?_ne {lines : List Line} (h : IsBordered lines) : lines.head? ≠ some [] :=
  fun hnil => ((h.head [] hnil).1 rfl).1 rfl

theorem IsBordered.getLast?_ne {lines : List Line} (h : IsBordered lines) :
    lines.getLast? ≠ some [] :=
  fun hnil => ((h.last [] hnil).1 rfl).1 rfl

/-- Documentation at the end of the laid-out member would be seen in its output. -/
theorem MayNest.not_doc_of_mem {member : String} (h : MayNest settings member) {last : Line}
    (hlast : last ∈ (cutLines member.toList).getLast?) : isDocLine last = false := by
  have hne : last ≠ [] := by
    rintro rfl
    exact getLast?_cutLines_ne h.last hlast
  obtain ⟨front, hcut⟩ := List.getLast?_eq_some_iff.mp hlast
  have hlayout : (layoutLines member.toList).getLast? = some last := by
    show (tidy (cutLines member.toList)).getLast? = some last
    rw [hcut]
    exact getLast?_tidy_concat front hne
  obtain ⟨lines, hlines⟩ := List.getLast?_eq_some_iff.mp hlayout
  have hzero := (h.isSelfContained.indentFrom_succ settings.unit).1
  by_contra hdoc
  obtain ⟨rest, rfl⟩ := isDocLine_iff.mp (by simpa using hdoc)
  -- documentation changes no depth, so it stands at the top and is seen as it is
  have hdepth : lines.foldl depthAfter 0 = 0 := by
    rw [hlines, List.foldl_append, List.foldl_cons, List.foldl_nil] at hzero
    exact hzero
  have hprinted : (outputLines (format settings member)).getLast?
      = some (['/', '/', '/'] ++ rest) := by
    rw [outputLines_format, hlines, indentFrom_append, hdepth]
    exact List.getLast?_concat
  exact absurd (h.not_doc _ hprinted) (by simp [isDocLine])

/-- **The lines of a member** may have blank lines around them. -/
theorem MayNest.isBordered {member : String} (h : MayNest settings member) :
    IsBordered (cutLines member.toList) where
  ne_nil := cutLines_ne_nil member.toList
  head first hfirst := by
    have hne : first ≠ [] := by
      rintro rfl
      exact head?_cutLines_ne h.first hfirst
    -- the first line closes nothing that the member has not opened
    have hclose := h.isSelfContained.head?_ne hfirst
    exact ⟨fun _ => ⟨hne, hclose⟩, fun hnil => absurd hnil hne⟩
  last last hlast := by
    have hne : last ≠ [] := by
      rintro rfl
      exact getLast?_cutLines_ne h.last hlast
    have hopen := h.isSelfContained.getLast?_ne hlast
    have hdoc : ¬['/', '/', '/'] <+: last := by
      rw [← isDocLine_iff, h.not_doc_of_mem hlast]
      decide
    exact ⟨fun hnil => absurd hnil hne, fun _ => ⟨hopen, hdoc⟩⟩

/-! ## The lines of a block -/

/-- The blank lines between two members. -/
def partingLines (isApart : Bool) : List Line :=
  if isApart then [[]] else []

/-- The lines of a member and of what follows it, before they are tidied. -/
theorem cutLines_member {member : String} (h : IsBordered (cutLines member.toList)) (isApart : Bool)
    (rest : String) :
    cutLines (member ++ "\n" ++ optionalWord isApart memberGap ++ rest).toList
      = cutLines member.toList ++ (partingLines isApart ++ cutLines rest.toList) := by
  cases isApart with
  | true =>
    have hlist : (member ++ "\n" ++ optionalWord true memberGap ++ rest).toList
        = member.toList ++ '\n' :: '\n' :: rest.toList := by
      simp [optionalWord, memberGap]
    rw [hlist, cutLines_append_feed h.getLast?_ne, cutLines_feed_cons]
    rfl
  | false =>
    have hlist : (member ++ "\n" ++ optionalWord false memberGap ++ rest).toList
        = member.toList ++ '\n' :: rest.toList := by
      simp [optionalWord]
    rw [hlist, cutLines_append_feed h.getLast?_ne]
    rfl

/-- What is joined starts with its first part. -/
theorem exists_intercalate_cons (separator part : List Line) (rest : List (List Line)) :
    ∃ more, separator.intercalate (part :: rest) = part ++ more := by
  cases rest with
  | nil => exact ⟨[], by rw [List.intercalate_singleton, List.append_nil]⟩
  | cons next others =>
    exact ⟨separator ++ separator.intercalate (next :: others),
      by rw [List.intercalate_cons_cons, List.append_assoc]⟩

/-- The first of several parts stands before a separator, the others and what ends them. -/
theorem intercalate_cons_cons_append (separator part next : List Line) (others : List (List Line))
    (tail : List Line) :
    separator.intercalate (part :: next :: others) ++ tail
      = part ++ (separator ++ (separator.intercalate (next :: others) ++ tail)) := by
  rw [List.intercalate_cons_cons, List.append_assoc, List.append_assoc]

/-- The lines of the members of a block and of its closing brace, before they are tidied. Induction
along the members. -/
theorem cutLines_blockBody (isApart : Bool) {members : List String}
    (h : ∀ member ∈ members, IsBordered (cutLines member.toList)) :
    cutLines (blockBody (optionalWord isApart memberGap) members ++ "\x7d").toList
      = (partingLines isApart).intercalate (members.map fun member => cutLines member.toList)
        ++ [[closeBrace]] := by
  have hclose : cutLines "\x7d".toList = [[closeBrace]] := by
    rw [cutLines_of_isUnbroken (by decide)]
    exact segments_closing
  induction members with
  -- what is left behind the last member is the brace of the block
  | nil => exact hclose
  | cons member rest ih =>
    have hmember := h member List.mem_cons_self
    cases rest with
    | nil =>
      have hbody : blockBody (optionalWord isApart memberGap) [member] ++ "\x7d"
          = member ++ "\n" ++ optionalWord false memberGap ++ "\x7d" := by
        simp [blockBody, optionalWord]
      rw [hbody, cutLines_member hmember, hclose, List.map_singleton, List.intercalate_singleton]
      rfl
    | cons next others =>
      have hbody : blockBody (optionalWord isApart memberGap) (member :: next :: others) ++ "\x7d"
          = member ++ "\n" ++ optionalWord isApart memberGap
            ++ (blockBody (optionalWord isApart memberGap) (next :: others) ++ "\x7d") := by
        simp [blockBody, String.intercalate_cons_cons, String.append_assoc]
      rw [hbody, cutLines_member hmember,
        ih fun other hother => h other (List.mem_cons_of_mem member hother)]
      simp only [List.map_cons, intercalate_cons_cons_append]

/-- Lines that blank ones may border are tidied apart from what follows them. -/
theorem IsBordered.tidy_append {first : List Line} (hfirst : IsBordered first) (isApart : Bool)
    {second : List Line} (hne : second ≠ []) (hsecond : ∀ next ∈ second.head?, MayFollow [] next) :
    tidy (first ++ (partingLines isApart ++ second))
      = tidy first ++ (partingLines isApart ++ tidy second) := by
  cases isApart with
  | true => exact tidy_append_gap hfirst.ne_nil hne hfirst.last hsecond
  | false =>
    refine Layout.tidy_append hfirst.getLast?_ne fun hnil => ?_
    exact ((hsecond [] hnil).1 rfl).1 rfl

/-- **Members are tidied apart.** Induction along the members. -/
theorem tidy_body (isApart : Bool) {parts : List (List Line)}
    (h : ∀ part ∈ parts, IsBordered part) :
    tidy ((partingLines isApart).intercalate parts ++ [[closeBrace]])
      = (partingLines isApart).intercalate (parts.map tidy) ++ [[closeBrace]] := by
  induction parts with
  | nil => rfl
  | cons part rest ih =>
    have hpart := h part List.mem_cons_self
    cases rest with
    | nil =>
      rw [List.map_singleton, List.intercalate_singleton, List.intercalate_singleton,
        Layout.tidy_append hpart.getLast?_ne (by simp)]
      rfl
    | cons next others =>
      have hnext := h next (by simp)
      have hrest := ih fun other hother => h other (List.mem_cons_of_mem part hother)
      obtain ⟨more, hmore⟩ := exists_intercalate_cons (partingLines isApart) next others
      -- the lines behind a part start with those of the next one
      have hhead : ∀ first ∈ ((partingLines isApart).intercalate (next :: others)
          ++ [[closeBrace]]).head?, MayFollow [] first := by
        intro first hfirst
        rw [hmore, List.append_assoc] at hfirst
        exact hnext.head first (mem_head?_append hnext.ne_nil hfirst)
      rw [intercalate_cons_cons_append, hpart.tidy_append isApart (by simp) hhead, hrest]
      simp only [List.map_cons, intercalate_cons_cons_append]

/-- **The lines of a block** are those of its header, and between braces those of its members. -/
theorem layoutLines_block (isApart : Bool) {header : String} (hheader : MayHead header)
    {members : List String} (h : ∀ member ∈ members, MayNest settings member) :
    layoutLines (block header (blockBody (optionalWord isApart memberGap) members)).toList
      = layoutLines header.toList ++ [openBrace] ::
          ((partingLines isApart).intercalate (members.map fun member => layoutLines member.toList)
            ++ [[closeBrace]]) := by
  have hbordered : ∀ member ∈ members, IsBordered (cutLines member.toList) :=
    fun member hmember => (h member hmember).isBordered
  have hopen : cutLines [openBrace] = [[openBrace]] := by
    rw [cutLines_of_isUnbroken (by decide), segments_opening]
  have hbody := cutLines_blockBody isApart hbordered
  generalize hlines : (partingLines isApart).intercalate
    (members.map fun member => cutLines member.toList) ++ [[closeBrace]] = lines at hbody
  have hhead : lines.head? ≠ some [] := by
    rw [← hlines]
    cases members with
    | nil => exact fun hnil => absurd hnil (by simp)
    | cons member rest =>
      have hfirst := hbordered member List.mem_cons_self
      obtain ⟨more, hmore⟩ := exists_intercalate_cons (partingLines isApart)
        (cutLines member.toList) (rest.map fun member => cutLines member.toList)
      rw [List.map_cons, hmore, List.append_assoc]
      exact fun hnil => hfirst.head?_ne (mem_head?_append hfirst.ne_nil hnil)
  have hcut : cutLines (block header (blockBody (optionalWord isApart memberGap) members)).toList
      = cutLines header.toList ++ ([[openBrace]] ++ lines) := by
    have hlist : (block header (blockBody (optionalWord isApart memberGap) members)).toList
        = header.toList ++ '\n' :: ([openBrace] ++ '\n' ::
            (blockBody (optionalWord isApart memberGap) members ++ "\x7d").toList) := by
      simp [block, openBrace]
    rw [hlist, cutLines_append_feed (getLast?_cutLines_ne hheader.last),
      cutLines_append_feed (by rw [hopen]; simp), hopen, hbody]
  -- no line of one member changes how those of another are tidied
  have htidy : tidy lines = (partingLines isApart).intercalate
      (members.map fun member => layoutLines member.toList) ++ [[closeBrace]] := by
    rw [← hlines, tidy_body isApart fun part hpart => ?_, List.map_map]
    · rfl
    · obtain ⟨member, hmember, rfl⟩ := List.mem_map.mp hpart
      exact hbordered member hmember
  show tidy (cutLines _) = tidy (cutLines header.toList) ++ _
  rw [hcut, Layout.tidy_append (getLast?_cutLines_ne hheader.last) (by simp),
    Layout.tidy_append (by simp) hhead, htidy]
  rfl

/-! ## Indented members -/

/-- **Members are indented one level deeper** than they are on their own. Induction along the
members, each of which leaves the depth as it found it. -/
theorem indentFrom_body (unit : List Char) (isApart : Bool) {members : List String}
    (h : ∀ member ∈ members, IsSelfContained member) :
    indentFrom unit 1 ((partingLines isApart).intercalate
        (members.map fun member => layoutLines member.toList) ++ [[closeBrace]])
      = (partingLines isApart).intercalate (members.map fun member =>
          (indentFrom unit 0 (layoutLines member.toList)).map (indentLine unit 1))
        ++ [[closeBrace]] := by
  have hparting (lines : List Line) : indentFrom unit 1 (partingLines isApart ++ lines)
      = partingLines isApart ++ indentFrom unit 1 lines := by
    cases isApart <;> rfl
  induction members with
  | nil => rfl
  | cons member rest ih =>
    -- a member closes what it opens, so the next one starts at the same depth
    obtain ⟨-, hdepth, hindent⟩ := (h member List.mem_cons_self).indentFrom_succ unit
    cases rest with
    | nil =>
      rw [List.map_singleton, List.map_singleton, List.intercalate_singleton,
        List.intercalate_singleton, indentFrom_append, hdepth, hindent]
      rfl
    | cons next others =>
      have hrest := ih fun other hother => h other (List.mem_cons_of_mem member hother)
      simp only [List.map_cons] at hrest ⊢
      rw [intercalate_cons_cons_append, intercalate_cons_cons_append, indentFrom_append, hdepth,
        hindent, hparting, hrest]

/-! ## Formatted containers -/

/-- **Formatting commutes with nesting.** A container that is rendered is a block of the sources of
its members below its header. Where these may nest, its lines are those of the header, an opening
brace, the lines of each member one level deeper, with one empty line between two members unless
they are those of an enumeration, and a closing brace. -/
theorem formatted_container {settings : Settings} {declaration : Declaration}
    {container : Container} (h : declaration.container? settings.render = some container)
    {text : String} (hsource : source settings.render declaration = .ok text) :
    ∃ members out, container.members.mapM (source settings.render) = .ok members
      ∧ text = block container.header (blockBody container.gap members)
      ∧ formatted settings declaration = .ok out
      ∧ (MayHead container.header → (∀ member ∈ members, MayNest settings.layout member) →
        outputLines out
          = outputLines (format settings.layout container.header) ++ [openBrace] ::
            ((partingLines container.isApart).intercalate (members.map fun member =>
                (outputLines (format settings.layout member)).map
                  (indentLine settings.layout.unit 1))
              ++ [[closeBrace]])) := by
  obtain ⟨members, hmembers, htext⟩ := source_container h hsource
  refine ⟨members, _, hmembers, htext, formatted_of_source hsource, fun hheader hnest => ?_⟩
  have hlines := layoutLines_block container.isApart hheader hnest
  have hbody := indentFrom_body settings.layout.unit container.isApart fun member hmember =>
    (hnest member hmember).isSelfContained
  obtain ⟨hdepth, -, -⟩ := hheader.isSelfContained.indentFrom_succ settings.layout.unit
  simp only [outputLines_format]
  rw [htext, Container.gap, hlines, indentFrom_append, hdepth, indentFrom_opening, hbody]
  rfl

/-- A class with a field and a property that starts with a brace in quotes. -/
def ledger : Declaration :=
  .class
    { name := some "Ledger", summary := some "Keeps count."
      fields := [{ type := some "int", name := some "total" }]
      properties :=
        [{ type := some "string", name := some "Mark", defaultValue := some "\"\x7b\"" }] }

/-- The sources of the members of `ledger`. -/
def ledgerMembers : List String :=
  ["private int total;", "public string Mark\n\x7b\n    get;\n    set;\n\x7d = \"\x7b\";"]

/-- The theorem on a documented class with a field and a property, whose initial value is a brace in
quotes. -/
theorem formatted_ledger :
    ∃ container text out, ledger.container? ({} : Settings).render = some container
      ∧ source ({} : Settings).render ledger = .ok text
      ∧ MayHead container.header ∧ (∀ member ∈ ledgerMembers, MayNest {} member)
      ∧ formatted {} ledger = .ok out
      ∧ outputLines out = ["/// <summary>", "/// Keeps count.", "/// </summary>",
          "public class Ledger", "\x7b", "    private int total;", "", "    public string Mark",
          "    \x7b", "        get;", "        set;", "    \x7d = \"\x7b\";", "\x7d"].map
            String.toList := by
  have hheader : MayHead "/// <summary>\n/// Keeps count.\n/// </summary>\npublic class Ledger" :=
    ⟨by decide +kernel, by decide +kernel⟩
  have hnest : ∀ member ∈ ledgerMembers, MayNest {} member := by
    have hall : ∀ member ∈ ledgerMembers, IsSelfContained member
        ∧ (∀ line ∈ (Text.lines member.toList).head?, Shows line)
        ∧ (∀ line ∈ (Text.lines member.toList).getLast?, Shows line)
        ∧ ∀ line ∈ (outputLines (format {} member)).getLast?, isDocLine line = false := by
      decide +kernel
    intro member hmember
    obtain ⟨hself, hfirst, hlast, hdoc⟩ := hall member hmember
    exact ⟨hself, hfirst, hlast, hdoc⟩
  obtain ⟨members, out, hmembers, -, hout, hlines⟩ :=
    @formatted_container {} ledger _ rfl _ rfl
  obtain rfl : ledgerMembers = members := Except.ok.inj (Eq.trans rfl hmembers)
  have hlines := hlines hheader hnest
  refine ⟨_, _, out, rfl, rfl, hheader, hnest, hout, ?_⟩
  rw [hlines]
  decide +kernel

end Scaffold
