import Scaffold.Proofs.Number.Decimal
import Scaffold.Proofs.Render.Anatomy
import Scaffold.Proofs.Text.Lines

/-!
# Sources that tell enumerations apart

The source of an enumeration tells all of it, as far as a summary can be told from its lines: a
blank one leaves none, and a carriage return before a line feed is not seen
(`Enumeration.asWritten`). Its parts are told one after another, from what each may start with and
where it ends:

* **`docBlock_append_inj`**: a line of documentation starts with slashes, and nothing else does.
* **`reveals_writeEnumMember`**: a member is its documentation, its name, its number and a comma.
* **`introduction_append_inj`**: no access keyword starts another one with the word behind it.
* **`source_enumeration_eq_iff`**: the whole.
-/

namespace Scaffold

open Render

/-! ## What a source can tell -/

/-- A summary as its lines tell it: a blank one is none, and pairs of a carriage return and a line
feed are line feeds. -/
def summaryAsWritten (summary : Option String) : Option String :=
  if Text.isMissing summary then none
  else summary.map fun text => String.ofList (Text.dropPairedReturns text.toList)

def EnumMember.asWritten (member : EnumMember) : EnumMember :=
  { member with summary := summaryAsWritten member.summary }

/-- The enumeration as its source tells it. -/
def Enumeration.asWritten (enumeration : Enumeration) : Enumeration :=
  { enumeration with
    summary := summaryAsWritten enumeration.summary
    members := enumeration.members.map EnumMember.asWritten }

/-! ## Names -/

/-- A letter, a digit or an underscore. Beyond the first 128 characters, all that are not blank are
let through. -/
def isNameChar (c : Char) : Bool :=
  if c.toNat < 0x80 then c.isAlphanum || c == '_' else !Text.isBlank c

/-- A name is there, and holds letters, digits and underscores only. -/
def IsName (text? : Option String) : Prop :=
  ∃ text ∈ text?, text ≠ "" ∧ text.toList.all isNameChar = true
deriving Decidable

/-- The access is one of the levels of the language, and all names are names. -/
structure Enumeration.HasNames (enumeration : Enumeration) : Prop where
  access : ∃ level, enumeration.access = .listed level
  name : IsName enumeration.name
  members : ∀ member ∈ enumeration.members, IsName member.name

theorem isBlank_of_isNameChar {c : Char} (h : isNameChar c = true) : Text.isBlank c = false := by
  have hascii : ∀ n < 0x80,
      isNameChar (Char.ofNat n) = true → Text.isBlank (Char.ofNat n) = false := by
    decide +kernel
  by_cases hsmall : c.toNat < 0x80
  · have hc := hascii c.toNat hsmall
    rw [Char.ofNat_toNat] at hc
    exact hc h
  · rw [isNameChar, if_neg hsmall] at h
    simpa using h

/-- A name has a first character, which is one of those that a name is made of. -/
theorem IsName.exists_cons {text? : Option String} (h : IsName text?) :
    ∃ c cs, (text?.getD "").toList = c :: cs ∧ isNameChar c = true := by
  obtain ⟨text, rfl, hne, hall⟩ := h
  obtain ⟨c, cs, hcons⟩ := List.exists_cons_of_ne_nil (by simpa using hne : text.toList ≠ [])
  exact ⟨c, cs, hcons, List.all_eq_true.mp hall c (by simp [hcons])⟩

/-- A name is not missing where one is required. -/
theorem IsName.require_eq {text? : Option String} (h : IsName text?) (entity setting : String) :
    require entity setting text? = .ok (text?.getD "") := by
  obtain ⟨c, cs, hcons, hc⟩ := h.exists_cons
  obtain ⟨text, rfl, hne, hall⟩ := h
  rw [require_eq_ok_iff]
  refine ⟨rfl, ?_⟩
  rw [Text.isMissing_some, Text.isBlankText, show text.toList = c :: cs from hcons, List.all_cons,
    isBlank_of_isNameChar hc, Bool.false_and]

/-- Two names are equal if they stand before other characters in the same text. -/
theorem IsName.append_inj {name? other? : Option String} (hname : IsName name?)
    (hother : IsName other?) {rest after : List Char}
    (hrest : ∀ c ∈ rest.head?, isNameChar c = false)
    (hafter : ∀ c ∈ after.head?, isNameChar c = false)
    (h : (name?.getD "").toList ++ rest = (other?.getD "").toList ++ after) :
    name? = other? ∧ rest = after := by
  obtain ⟨name, rfl, -, hall⟩ := hname
  obtain ⟨other, rfl, -, hallOther⟩ := hother
  obtain ⟨hchars, hrest⟩ := Text.append_inj_of_stop (List.all_eq_true.mp hall)
    (List.all_eq_true.mp hallOther) hrest hafter h
  exact ⟨congrArg some (String.toList_inj.mp hchars), hrest⟩

/-! ## Documentation -/

/-- The lines of documentation with the tags around them; there are none for a missing summary. -/
def docLines (summary : Option String) : List (List Char) :=
  if Text.isMissing summary then []
  else "<summary>".toList :: (summaryLines (summary.getD "") ++ ["</summary>".toList])

/-- A line of documentation and its line feed. -/
def writeDocLine (line : List Char) : List Char :=
  "/// ".toList ++ (line ++ ['\n'])

/-- Documentation is written line by line. -/
theorem toList_docBlock (summary : Option String) :
    (docBlock summary).toList = (docLines summary).flatMap writeDocLine := by
  unfold docBlock docLines
  split
  next => rfl
  next =>
    -- each line between the tags has a line feed behind it
    have hbody : ("\n".intercalate ((summaryLines (summary.getD "")).map docLine)).toList ++ ['\n']
        = (summaryLines (summary.getD "")).flatMap writeDocLine := by
      rw [String.toList_intercalate, List.map_map]
      show ['\n'].intercalate _ ++ _ = _
      rw [← Text.flatMap_append_eq_intercalate (by simp [summaryLines]), List.flatMap_map]
      refine List.flatMap_congr fun line _ => ?_
      simp [writeDocLine, docLine]
    rw [List.flatMap_cons, List.flatMap_append, ← hbody]
    simp [writeDocLine]

/-- No line of documentation holds a line feed. -/
theorem feed_not_mem_docLines {summary : Option String} {line : List Char}
    (h : line ∈ docLines summary) : '\n' ∉ line := by
  unfold docLines at h
  split at h
  next => cases h
  next =>
    rcases List.mem_cons.mp h with rfl | h
    · decide
    · rcases List.mem_append.mp h with hline | htag
      · exact fun hmem => (Text.forall_mem_of_mem_splitOn hline '\n' hmem).1 rfl
      · rw [List.mem_singleton.mp htag]
        decide

/-- Summaries have the same lines just when they are equal up to the spelling of line ends. -/
theorem summaryLines_eq_iff {text other : String} :
    summaryLines text = summaryLines other
      ↔ Text.dropPairedReturns text.toList = Text.dropPairedReturns other.toList := by
  unfold summaryLines
  refine ⟨fun h => ?_, fun h => by rw [h]⟩
  have hjoin := congrArg (['\n'].intercalate ·) h
  simpa only [List.intercalate_splitOn] using hjoin

/-- The lines tell the summary. -/
theorem docLines_eq_iff {first second : Option String} :
    docLines first = docLines second ↔ summaryAsWritten first = summaryAsWritten second := by
  unfold docLines summaryAsWritten
  -- a summary that is written has lines, and one that is missing has none
  cases hfirst : Text.isMissing first with
  | true =>
    cases hsecond : Text.isMissing second with
    | true => simp
    | false =>
      obtain ⟨other, rfl, -⟩ := (Text.isMissing_eq_false_iff second).mp hsecond
      simp
  | false =>
    obtain ⟨text, rfl, -⟩ := (Text.isMissing_eq_false_iff first).mp hfirst
    cases hsecond : Text.isMissing second with
    | true => simp
    | false =>
      obtain ⟨other, rfl, -⟩ := (Text.isMissing_eq_false_iff second).mp hsecond
      simp [summaryLines_eq_iff, String.ofList_inj]

/-- Documentation shows no more of a summary than `summaryAsWritten`. -/
theorem docBlock_congr {first second : Option String}
    (h : summaryAsWritten first = summaryAsWritten second) : docBlock first = docBlock second := by
  rw [← String.toList_inj, toList_docBlock, toList_docBlock, docLines_eq_iff.mpr h]

/-- A line of documentation can be told from what follows it by its line feed. -/
theorem reveals_writeDocLine : Text.Reveals ('\n' ∉ ·) writeDocLine id := by
  intro first second hfirst hsecond rest after h
  simp only [writeDocLine, List.append_assoc, List.append_cancel_left_eq] at h
  exact Text.append_cons_inj hfirst hsecond h

/-- **Documentation tells its summary** and ends where a line does not start with a slash. -/
theorem docBlock_append_inj {first second : Option String} {rest after : List Char}
    (hrest : rest.head? ≠ some '/') (hafter : after.head? ≠ some '/')
    (h : (docBlock first).toList ++ rest = (docBlock second).toList ++ after) :
    summaryAsWritten first = summaryAsWritten second ∧ rest = after := by
  have hslash {tail : List Char} (htail : tail.head? ≠ some '/') (line : List Char)
      (_ : '\n' ∉ line) (more : List Char) : writeDocLine line ++ more ≠ tail := by
    rintro rfl
    exact htail rfl
  rw [toList_docBlock, toList_docBlock] at h
  obtain ⟨hlines, hrest⟩ := reveals_writeDocLine.flatMap (fun _ => feed_not_mem_docLines)
    (fun _ => feed_not_mem_docLines) (hslash hrest) (hslash hafter) h
  rw [List.map_id, List.map_id, docLines_eq_iff] at hlines
  exact ⟨hlines, hrest⟩

/-! ## Members -/

/-- A number ends where its comma stands. -/
theorem enumValue_append_inj {first second : Option Int} {rest after : List Char}
    (h : (enumValue first).toList ++ ',' :: rest = (enumValue second).toList ++ ',' :: after) :
    first = second ∧ rest = after := by
  -- the digits of a number stop at the comma behind the value
  have hcomma (value : Int) : ',' ∉ (toString value).toList :=
    Number.not_mem_toString (by decide) (by decide) value
  cases first with
  | none =>
    cases second with
    | none => exact ⟨rfl, (List.cons.inj h).2⟩
    | some value => exact absurd (congrArg List.head? h) (by simp [enumValue])
  | some value =>
    cases second with
    | none => exact absurd (congrArg List.head? h) (by simp [enumValue])
    | some other =>
      simp only [enumValue, String.toList_append, List.append_assoc,
        List.append_cancel_left_eq] at h
      obtain ⟨htext, hrest⟩ := Text.append_cons_inj (hcomma value) (hcomma other) h
      obtain rfl := Number.toString_injective (String.toList_inj.mp htext)
      exact ⟨rfl, hrest⟩

/-- A member on lines of its own. -/
def writeEnumMember (member : EnumMember) : List Char :=
  (docBlock member.summary).toList ++ ((member.name.getD "").toList
    ++ ((enumValue member.value).toList ++ [',', '\n']))

/-- The text of a member shows no more of it than `EnumMember.asWritten`. -/
theorem writeEnumMember_congr (first second : EnumMember) (h : first.asWritten = second.asWritten) :
    writeEnumMember first = writeEnumMember second := by
  obtain ⟨hname, hvalue, hsummary⟩ := EnumMember.mk.inj h
  unfold writeEnumMember
  rw [docBlock_congr hsummary, hname, hvalue]

/-- A member never looks like the end of its enumeration. -/
theorem writeEnumMember_append_ne {member : EnumMember} (h : IsName member.name)
    (more : List Char) : writeEnumMember member ++ more ≠ ['\x7d'] := by
  intro heq
  obtain ⟨c, cs, hcons, hc⟩ := h.exists_cons
  rw [writeEnumMember, toList_docBlock, hcons] at heq
  cases hlines : docLines member.summary with
  | nil =>
    rw [hlines] at heq
    obtain ⟨rfl, -⟩ := List.cons.inj heq
    exact absurd hc (by decide)
  | cons line lines =>
    rw [hlines] at heq
    exact absurd (List.cons.inj heq).1 (by decide)

/-- **A member on its lines tells all of it.** -/
theorem reveals_writeEnumMember :
    Text.Reveals (fun member : EnumMember => IsName member.name) writeEnumMember
      EnumMember.asWritten := by
  intro first second hfirst hsecond rest after h
  have hstart {name? : Option String} (hname : IsName name?) (more : List Char) :
      ((name?.getD "").toList ++ more).head? ≠ some '/' := by
    obtain ⟨c, cs, hcons, hc⟩ := hname.exists_cons
    rw [hcons]
    rintro ⟨⟩
    exact absurd hc (by decide)
  have hstop (value : Option Int) (more : List Char) :
      ∀ c ∈ ((enumValue value).toList ++ ',' :: more).head?, isNameChar c = false := by
    cases value with
    | none =>
      rintro c ⟨⟩
      decide
    | some value =>
      intro c hc
      obtain rfl : ' ' = c := by simpa [enumValue] using hc
      decide
  simp only [writeEnumMember, List.append_assoc] at h
  obtain ⟨hsummary, hbehind⟩ := docBlock_append_inj (hstart hfirst _) (hstart hsecond _) h
  obtain ⟨hname, hbehind⟩ := hfirst.append_inj hsecond (hstop _ _) (hstop _ _) hbehind
  obtain ⟨hvalue, hend⟩ := enumValue_append_inj hbehind
  refine ⟨?_, (List.cons.inj hend).2⟩
  unfold EnumMember.asWritten
  rw [hname, hvalue, hsummary]

/-! ## Headers -/

/-- What stands before the name of an enumeration with a given access level. -/
def introduction (level : AccessLevel) : String :=
  if level.keyword = "" then "enum " else level.keyword ++ " enum "

/-- The words of a header are its access, the keyword and the name. -/
theorem words_enum (level : AccessLevel) {name : String} (h : name ≠ "") :
    words [level.keyword, "enum", name] = introduction level ++ name := by
  by_cases hkeyword : level.keyword = "" <;>
    simp [words, introduction, hkeyword, h, ← String.toList_inj]

/-- **What stands before the name tells the access level**: none of these texts starts another. -/
theorem introduction_append_inj {first second : AccessLevel} {rest after : List Char}
    (h : (introduction first).toList ++ rest = (introduction second).toList ++ after) :
    first = second ∧ rest = after := by
  have hfree : ∀ first ∈ AccessLevel.all, ∀ second ∈ AccessLevel.all,
      (introduction first).toList.isPrefixOf (introduction second).toList = true
        → first = second := by
    decide +kernel
  have heq : first = second := by
    rcases List.prefix_or_prefix_of_prefix (List.prefix_append _ rest)
      (h ▸ List.prefix_append _ after) with hprefix | hprefix
    · exact hfree _ first.mem_all _ second.mem_all (List.isPrefixOf_iff_prefix.mpr hprefix)
    · exact (hfree _ second.mem_all _ first.mem_all (List.isPrefixOf_iff_prefix.mpr hprefix)).symm
  subst heq
  exact ⟨rfl, List.append_cancel_left h⟩

/-- A header starts neither with an attribute nor with documentation. -/
theorem introduction_head? (level : AccessLevel) (rest : List Char) :
    ((introduction level).toList ++ rest).head? ≠ some '['
      ∧ ((introduction level).toList ++ rest).head? ≠ some '/' := by
  cases level <;> exact ⟨by rintro ⟨⟩, by rintro ⟨⟩⟩

/-- Whatever the attribute is, its line starts with a bracket, and what follows it does not. -/
theorem flagsLine_append_inj {settings : RenderSettings} {first second : Bool}
    {rest after : List Char} (hrest : rest.head? ≠ some '[') (hafter : after.head? ≠ some '[')
    (h : (flagsLine settings first).toList ++ rest = (flagsLine settings second).toList ++ after) :
    first = second ∧ rest = after := by
  -- only the attribute starts with a bracket, so one text alone having it is a contradiction
  cases first with
  | true =>
    cases second with
    | true => exact ⟨rfl, List.append_cancel_left h⟩
    | false =>
      have hhead : after.head? = some '[' := by simpa [flagsLine] using (congrArg List.head? h).symm
      exact absurd hhead hafter
  | false =>
    cases second with
    | true =>
      have hhead : rest.head? = some '[' := by simpa [flagsLine] using congrArg List.head? h
      exact absurd hhead hrest
    | false => exact ⟨rfl, h⟩

/-! ## Enumerations -/

/-- The source of an enumeration with a given access level. -/
def writeEnumeration (settings : RenderSettings) (level : AccessLevel) (enumeration : Enumeration) :
    List Char :=
  (docBlock enumeration.summary).toList ++ ((flagsLine settings enumeration.isFlags).toList
    ++ ((introduction level).toList ++ ((enumeration.name.getD "").toList
      ++ '\n' :: '\x7b' :: '\n' :: (enumeration.members.flatMap writeEnumMember ++ ['\x7d']))))

theorem enumMember_eq_ok {member : EnumMember} (h : IsName member.name) :
    enumMember member = .ok (enumMemberText member (member.name.getD "")) := by
  have hstarts : StartsLine (enumMemberText member (member.name.getD "")) := by
    obtain ⟨c, cs, hcons, hc⟩ := h.exists_cons
    have hname : StartsLine (member.name.getD "") := by
      refine ⟨c, cs, hcons, ?_⟩
      rintro rfl
      exact absurd hc (by decide)
    unfold enumMemberText
    exact ((StartsLine.append_left (startsLine_docBlock _) hname).append _).append _
  have hfragment := fragment_eq_self hstarts (by simp [enumMemberText])
  rw [enumMember, h.require_eq, ← hfragment]
  rfl

/-- The body of an enumeration is the text of its members, one behind the other. -/
theorem toList_blockBody (members : List EnumMember) :
    (blockBody "" (members.map fun member => enumMemberText member (member.name.getD ""))).toList
      = members.flatMap writeEnumMember := by
  induction members with
  | nil => rfl
  | cons member rest ih =>
    rw [List.map_cons, blockBody_cons, String.toList_append, ih, List.flatMap_cons]
    simp [writeEnumMember, enumMemberText]

/-- An enumeration with names is rendered, as the one text that `writeEnumeration` gives. -/
theorem source_enumeration {settings : RenderSettings} {enumeration : Enumeration}
    (h : enumeration.HasNames) {level : AccessLevel} (hlevel : enumeration.access = .listed level) :
    source settings (.enumeration enumeration)
      = .ok (String.ofList (writeEnumeration settings level enumeration)) := by
  have hname : enumeration.name.getD "" ≠ "" := by
    obtain ⟨c, cs, hcons, -⟩ := h.name.exists_cons
    intro hempty
    rw [hempty] at hcons
    cases hcons
  have hmembers := mapM_eq_ok_map fun member hmem => enumMember_eq_ok (h.members member hmem)
  -- the header is not empty, so trimming takes nothing off
  have hfragment := fragment_block
    (@startsLine_header settings (.enumeration enumeration) _ rfl)
  show Render.enumeration settings enumeration = _
  rw [Render.enumeration, h.name.require_eq, hmembers]
  refine congrArg Except.ok ((hfragment _).trans ?_)
  have hwords : words [enumeration.access.keyword, "enum", enumeration.name.getD ""]
      = introduction level ++ enumeration.name.getD "" := by
    rw [hlevel]
    exact words_enum level hname
  simp only [← String.toList_inj, enumHeader, hwords]
  simp [block, writeEnumeration, toList_blockBody]

/-- **The written enumeration tells all of it.** -/
theorem writeEnumeration_inj {settings : RenderSettings} {first second : Enumeration}
    (hfirst : first.HasNames) (hsecond : second.HasNames) {level other : AccessLevel}
    (hlevel : first.access = .listed level) (hother : second.access = .listed other)
    (h : writeEnumeration settings level first = writeEnumeration settings other second) :
    first.asWritten = second.asWritten := by
  have hslash (isFlags : Bool) (level : AccessLevel) (rest : List Char) :
      ((flagsLine settings isFlags).toList
        ++ ((introduction level).toList ++ rest)).head? ≠ some '/' := by
    cases isFlags with
    | true => simp [flagsLine]
    | false => exact (introduction_head? level rest).2
  have hbreak (rest : List Char) : ∀ c ∈ ('\n' :: rest).head?, isNameChar c = false := by
    rintro c ⟨⟩
    decide
  obtain ⟨hsummary, hdeclaration⟩ := docBlock_append_inj (hslash _ _ _) (hslash _ _ _) h
  -- the parts are read off from the front: attribute, access, name, and then the members
  obtain ⟨hflags, hwords⟩ :=
    flagsLine_append_inj (introduction_head? _ _).1 (introduction_head? _ _).1 hdeclaration
  obtain ⟨haccess, hrest⟩ := introduction_append_inj hwords
  obtain ⟨hname, hblock⟩ := hfirst.name.append_inj hsecond.name (hbreak _) (hbreak _) hrest
  obtain ⟨hmembers, -⟩ := reveals_writeEnumMember.flatMap hfirst.members hsecond.members
    (fun _ => writeEnumMember_append_ne) (fun _ => writeEnumMember_append_ne)
    (by simpa using hblock)
  unfold Enumeration.asWritten
  rw [hsummary, hflags, hname, hmembers, hlevel, hother, haccess]

/-- **The source of an enumeration tells all of it.** Enumerations with listed access levels and
proper names have the same source just when they are the same as written. -/
theorem source_enumeration_eq_iff (settings : RenderSettings) {first second : Enumeration}
    (hfirst : first.HasNames) (hsecond : second.HasNames) :
    ∃ text, source settings (.enumeration first) = .ok text
      ∧ (source settings (.enumeration second) = .ok text
        ↔ first.asWritten = second.asWritten) := by
  obtain ⟨level, hlevel⟩ := hfirst.access
  obtain ⟨other, hother⟩ := hsecond.access
  refine ⟨_, source_enumeration hfirst hlevel, ?_⟩
  -- both are rendered, so it is the written texts that are compared
  rw [source_enumeration hsecond hother, Except.ok.injEq, String.ofList_inj, eq_comm]
  refine ⟨writeEnumeration_inj hfirst hsecond hlevel hother, fun h => ?_⟩
  obtain ⟨haccess, hname, hsummary, hflags, hmembers⟩ := Enumeration.mk.inj h
  obtain rfl : level = other := by
    rw [hlevel, hother] at haccess
    exact Access.listed.inj haccess
  unfold writeEnumeration
  rw [docBlock_congr hsummary, hflags, hname,
    Text.flatMap_eq_of_map_eq writeEnumMember_congr hmembers]

/-- An enumeration with documentation that looks like source, written with some line end. -/
def palette (lineEnd : String) : Enumeration where
  access := .listed .protectedInternal
  name := some "Palette_2"
  summary := some ("Tints." ++ lineEnd ++ "</summary>")
  isFlags := true
  members :=
    [{ name := some "Red", value := some 0 },
     { name := some "Größe", value := some (-3), summary := some ("Red," ++ lineEnd ++ "\x7d") },
     { name := some "enum", summary := some lineEnd }]

theorem source_palette_eq :
    (palette "\n").HasNames ∧ (palette "\r\n").HasNames
      ∧ ∃ text, source {} (.enumeration (palette "\n")) = .ok text
        ∧ source {} (.enumeration (palette "\r\n")) = .ok text := by
  have hfeed : (palette "\n").HasNames := ⟨⟨_, rfl⟩, by decide +kernel, by decide +kernel⟩
  have hpair : (palette "\r\n").HasNames := ⟨⟨_, rfl⟩, by decide +kernel, by decide +kernel⟩
  obtain ⟨text, htext, hiff⟩ := source_enumeration_eq_iff {} hfeed hpair
  exact ⟨hfeed, hpair, text, htext, hiff.mpr (by decide +kernel)⟩

end Scaffold
