import Mathlib.Data.List.Forall2
import Scaffold.Settings.Environment
import Scaffold.Proofs.Number.Decimal
import Scaffold.Proofs.Settings.File

/-!
# Settings spelled out in the environment

All settings can be spelled out in an environment, and they are read back from it
(`Environment.settings_of_spells`). `Environment.spelling` gives each setting a variable of its own.
`Environment.Spells` also allows words in any mixture of upper and lower case, and leaves out
variables of settings that are at their default. The argument is the same for every variable
(`Environment.settles_of_tells`): either it gives rise to a member that is read as the setting, or
to none.
-/

namespace Scaffold

/-! ## Words in mixed case -/

namespace Text

/-- The text is the word with some of its letters in upper case. -/
def IsMixedCase (word text : String) : Prop :=
  List.Forall₂ (fun c d => d = c ∨ d = c.toUpper) word.toList text.toList

/-- In mixed case a word is empty only if it is empty as it stands. -/
theorem IsMixedCase.ne_empty {word text : String} (h : IsMixedCase word text) (hword : word ≠ "") :
    text ≠ "" := by
  rintro rfl
  exact hword (String.toList_inj.mp (List.forall₂_nil_right_iff.mp h))

/-- Lower case undoes any choice between a character and its upper case, if it does so for each. -/
theorem map_toLower_eq {cs ds : List Char}
    (h : List.Forall₂ (fun c d => d = c ∨ d = c.toUpper) cs ds)
    (hcs : ∀ c ∈ cs, c.toLower = c ∧ c.toUpper.toLower = c) : ds.map Char.toLower = cs := by
  induction h with
  | nil => rfl
  | @cons c d cs ds hcase _ ih =>
    obtain ⟨hc, hupper⟩ := hcs c List.mem_cons_self
    have hd : d.toLower = c := by
      rcases hcase with rfl | rfl
      · exact hc
      · exact hupper
    rw [List.map_cons, hd, ih fun e he => hcs e (List.mem_cons_of_mem c he)]

/-- Lower case undoes the mixture. -/
theorem IsMixedCase.lowerAscii_eq {word text : String} (h : IsMixedCase word text)
    (hword : word.toList.all fun c => c.toLower = c ∧ c.toUpper.toLower = c) :
    lowerAscii text = word := by
  have hcs : ∀ c ∈ word.toList, c.toLower = c ∧ c.toUpper.toLower = c := by
    simpa [List.all_eq_true] using hword
  exact String.toList_inj.mp ((toList_lowerAscii text).trans (map_toLower_eq h hcs))

end Text

namespace Environment

/-! ## Spelling settings out -/

/-- The word for whether tabs are used. -/
def tabWord (useTabs : Bool) : String :=
  if useTabs then "true" else "false"

def newlineName : Newline → String
  | .lf => "lf"
  | .crlf => "crlf"

/-- The environment with a variable for each setting; no directory has none. -/
def spelling (settings : Settings) : Environment where
  indentSize := some (toString settings.layout.indentSize.width)
  useTabs := some (tabWord settings.layout.useTabs)
  newline := some (newlineName settings.layout.newline)
  flagsAttribute := some settings.render.flagsAttribute
  templateDir := settings.render.templateDir.map PosixPath.toString

/-- A variable that is unset or empty. -/
def IsLeftOut (given : Option String) : Prop :=
  given = none ∨ given = some ""

/-- A variable holds one of the texts for a setting, or it is left out and the setting is at its
default. -/
def Tells (given : Option String) (isText : String → Prop) (isDefault : Prop) : Prop :=
  (∃ text, given = some text ∧ isText text) ∨ IsLeftOut given ∧ isDefault

/-- The environment spells the settings out. -/
structure Spells (env : Environment) (settings : Settings) : Prop where
  indentSize : Tells env.indentSize (· = toString settings.layout.indentSize.width)
    (settings.layout.indentSize = LayoutSettings.indentSize {})
  useTabs : Tells env.useTabs (Text.IsMixedCase (tabWord settings.layout.useTabs))
    (settings.layout.useTabs = LayoutSettings.useTabs {})
  newline : Tells env.newline (Text.IsMixedCase (newlineName settings.layout.newline))
    (settings.layout.newline = LayoutSettings.newline {})
  flagsAttribute : Tells env.flagsAttribute (· = settings.render.flagsAttribute)
    (settings.render.flagsAttribute = RenderSettings.flagsAttribute {})
  templateDir : Tells env.templateDir
    (fun text => ∃ path, settings.render.templateDir = some path ∧ text = path.toString)
    (settings.render.templateDir = RenderSettings.templateDir {})

theorem isMixedCase_refl (word : String) : Text.IsMixedCase word word :=
  List.forall₂_same.mpr fun _ _ => .inl rfl

/-- The environment with a variable for each setting spells the settings out. -/
theorem spells_spelling (settings : Settings) : (spelling settings).Spells settings where
  indentSize := .inl ⟨_, rfl, rfl⟩
  useTabs := .inl ⟨_, rfl, isMixedCase_refl _⟩
  newline := .inl ⟨_, rfl, isMixedCase_refl _⟩
  flagsAttribute := .inl ⟨_, rfl, rfl⟩
  templateDir := by
    unfold spelling
    cases settings.render.templateDir with
    | none => exact .inr ⟨.inl rfl, rfl⟩
    | some path => exact .inl ⟨_, rfl, path, rfl, rfl⟩

/-! ## Members of the environment -/

theorem given?_of_isLeftOut {given : Option String} (h : IsLeftOut given) :
    Text.given? given = none := by
  rcases h with rfl | rfl <;> rfl

/-- Of members with one key, the last one counts. -/
theorem member?_append (key : String) (first second : List (String × Raw)) :
    Raw.member? key (first ++ second) = (Raw.member? key second).or (Raw.member? key first) := by
  unfold Raw.member?
  rw [List.reverse_append, List.lookup_append]

theorem member_of_isLeftOut {given : Option String} (h : IsLeftOut given) (key : String)
    (raw : String → Raw) : member key raw given = [] := by
  rw [member, given?_of_isLeftOut h]

theorem member_some {text : String} (h : text ≠ "") (key : String) (raw : String → Raw) :
    member key raw (some text) = [(key, raw text)] := by
  rw [member, Text.given?_some h]

/-- A variable is met under its own key only, and not when it is left out. -/
theorem member?_member (key other : String) (raw : String → Raw) (given : Option String) :
    Raw.member? key (member other raw given)
      = if key = other then (Text.given? given).map raw else none := by
  unfold member
  split
  next hnone => simp [hnone, Raw.member?]
  next text hsome =>
    show List.lookup key [(other, raw text)] = _
    rw [hsome, List.lookup_cons]
    by_cases hkey : key = other
    · simp [hkey]
    · simp [hkey, beq_false_of_ne hkey]

/-- A variable that tells a setting settles the slot of the setting. -/
theorem settles_of_tells {α : Type} [Record α] [RecordReader α] {record : α}
    {slot : Record.Slot α} {members : List (String × Raw)} {given : Option String}
    {isText : String → Prop} {isDefault : Prop} (raw : String → Raw)
    (hmember : Raw.member? (Record.key slot) members = (Text.given? given).map raw)
    (htells : Tells given isText isDefault)
    (hread : ∀ text, isText text → text ≠ ""
      ∧ RecordReader.readSlot slot (raw text) = .ok (Record.get record slot))
    (hrequired : RecordReader.isRequired slot = false)
    (hdefault : isDefault → Record.get (RecordReader.fresh : α) slot = Record.get record slot) :
    RecordReader.Settles members record slot := by
  rcases htells with ⟨text, rfl, htext⟩ | ⟨hout, hfresh⟩
  · obtain ⟨hne, hok⟩ := hread text htext
    rw [Text.given?_some hne] at hmember
    exact .inl ⟨raw text, hmember, hok⟩
  -- the slot keeps its default where the variable is left out
  · rw [given?_of_isLeftOut hout] at hmember
    exact .inr ⟨hmember, hrequired, hdefault hfresh⟩

/-! ## Reading the environment -/

/-- The name of a newline is read in any case. -/
theorem newlineText_of_isMixedCase {newline : Newline} {text : String}
    (h : Text.IsMixedCase (newlineName newline) text) : newlineText text = newline.text := by
  cases newline with
  | lf =>
    have hlower : Text.lowerAscii text = "lf" := h.lowerAscii_eq (by decide)
    simp only [newlineText, hlower]
    rfl
  | crlf =>
    have hlower : Text.lowerAscii text = "crlf" := h.lowerAscii_eq (by decide)
    simp only [newlineText, hlower]
    rfl

/-- The word for tabs is read in any case, and that for spaces is none of the words for tabs. -/
theorem tabWords_contains_of_isMixedCase {useTabs : Bool} {text : String}
    (h : Text.IsMixedCase (tabWord useTabs) text) :
    tabWords.contains (Text.lowerAscii text) = useTabs := by
  cases useTabs with
  | false =>
    rw [h.lowerAscii_eq (by decide)]
    decide
  | true =>
    rw [h.lowerAscii_eq (by decide)]
    decide

theorem toString_ne_empty (n : Nat) : toString n ≠ "" := by
  intro h
  have hdigits : Nat.toDigits 10 n = [] := by
    rw [← Nat.toList_repr, show n.repr = "" from h]
    rfl
  exact Nat.toDigits_ne_nil hdigits

/-- The width is read back from its digits, if a number may have so many. -/
theorem indentMember_toString {n : Nat} (h : (Nat.toDigits 10 n).length ≤ Number.maxDigits) :
    indentMember (toString n) = .ok (.integer n) := by
  have hread : Number.read (toString n).toList = .ok (n : Int) := by
    show Number.read n.repr.toList = _
    rw [Nat.toList_repr, Number.read_toDigits h]
  unfold indentMember
  rw [hread]

variable {env : Environment} {settings : Settings}

/-- The members that an environment gives for layout, a width among them being read as a number. -/
theorem layoutMembers_of_spells (h : env.Spells settings)
    (hdigits : (Nat.toDigits 10 settings.layout.indentSize.width).length ≤ Number.maxDigits) :
    env.layoutMembers = .ok
      (member (LayoutSlot.key .indentSize)
          (fun _ => .integer settings.layout.indentSize.width) env.indentSize
        ++ member (LayoutSlot.key .useTabs)
          (fun text => .bool (tabWords.contains (Text.lowerAscii text))) env.useTabs
        ++ member (LayoutSlot.key .newline)
          (fun text => .text (newlineText text)) env.newline) := by
  -- the width alone is read as a number here, so it alone can make the members fail
  unfold layoutMembers
  rcases h.indentSize with ⟨text, hgiven, rfl⟩ | ⟨hout, -⟩
  · rw [hgiven, member_some (toString_ne_empty _), Text.given?_some (toString_ne_empty _)]
    simp only [indentMember_toString hdigits]
    rfl
  · rw [member_of_isLeftOut hout, given?_of_isLeftOut hout]
    rfl

/-- **The settings for layout are read back from the environment.** -/
theorem read_layoutMembers (h : env.Spells settings)
    (hdigits : (Nat.toDigits 10 settings.layout.indentSize.width).length ≤ Number.maxDigits) :
    ∃ members, env.layoutMembers = .ok members
      ∧ (Readable.read (.object members) : Checked LayoutSettings) = .ok settings.layout := by
  refine ⟨_, layoutMembers_of_spells h hdigits, RecordReader.readMembers_of_settles fun slot => ?_⟩
  -- the keys of the members are distinct, so that each slot meets the member of its own variable
  cases slot with
  | indentSize =>
    refine settles_of_tells (fun _ => .integer settings.layout.indentSize.width) ?_ h.indentSize ?_
      rfl fun hdefault => hdefault.symm
    · simp [member?_append, member?_member, Record.key, LayoutSlot.key]
    · rintro text rfl
      exact ⟨toString_ne_empty _, Settings.read_indentSize settings.layout.indentSize⟩
  | useTabs =>
    refine settles_of_tells (fun text => .bool (tabWords.contains (Text.lowerAscii text))) ?_
      h.useTabs ?_ rfl fun hdefault => hdefault.symm
    · simp [member?_append, member?_member, Record.key, LayoutSlot.key]
    · intro text htext
      refine ⟨htext.ne_empty ?_, ?_⟩
      · cases settings.layout.useTabs <;> decide
      · rw [tabWords_contains_of_isMixedCase htext]
        rfl
  | newline =>
    refine settles_of_tells (fun text => .text (newlineText text)) ?_ h.newline ?_ rfl
      fun hdefault => hdefault.symm
    · simp [member?_append, member?_member, Record.key, LayoutSlot.key]
    · intro text htext
      refine ⟨htext.ne_empty ?_, ?_⟩
      · cases settings.layout.newline <;> decide
      · rw [newlineText_of_isMixedCase htext]
        exact Settings.read_newline settings.layout.newline

/-- **The settings for rendering are read back from the environment.** -/
theorem read_renderMembers (h : env.Spells settings)
    (hattribute : settings.render.flagsAttribute ≠ "") :
    (Readable.read (.object env.renderMembers) : Checked RenderSettings) = .ok settings.render := by
  refine RecordReader.readMembers_of_settles fun slot => ?_
  unfold renderMembers
  cases slot with
  | flagsAttribute =>
    refine settles_of_tells Raw.text ?_ h.flagsAttribute ?_ rfl fun hdefault => hdefault.symm
    · simp [member?_append, member?_member, Record.key, RenderSlot.key]
    · rintro text rfl
      exact ⟨hattribute, rfl⟩
  | templateDir =>
    refine settles_of_tells Raw.text ?_ h.templateDir ?_ rfl fun hdefault => hdefault.symm
    · simp [member?_append, member?_member, Record.key, RenderSlot.key]
    · rintro text ⟨path, hpath, rfl⟩
      refine ⟨path.toString_ne_empty, ?_⟩
      show _ = Except.ok settings.render.templateDir
      -- only a directory that is set can have been spelled
      rw [hpath]
      exact Settings.read_path (some path)

/-- **Settings spelled out in the environment are read back.** An attribute must not be empty, since
an empty variable counts as unset, and the width of the indentation can have no more digits than a
number may. Then the environment with a variable for each setting gives the settings, and so does
every one in which words are in mixed case and variables of settings at their default are left
out. -/
theorem settings_of_spells (settings : Settings) (hattribute : settings.render.flagsAttribute ≠ "")
    (hdigits : (Nat.toDigits 10 settings.layout.indentSize.width).length ≤ Number.maxDigits) :
    (spelling settings).settings = .ok settings
      ∧ ∀ env : Environment, env.Spells settings → env.settings = .ok settings := by
  -- the layout is read first; both parts succeed, so neither hides an error of the other
  have hread (env : Environment) (h : env.Spells settings) : env.settings = .ok settings := by
    obtain ⟨members, hmembers, hlayout⟩ := read_layoutMembers h hdigits
    unfold Environment.settings
    rw [hmembers, read_renderMembers h hattribute]
    show Checked.orFail (Readable.read (.object members) : Checked LayoutSettings) >>= _ = _
    rw [hlayout]
    rfl
  exact ⟨hread _ (spells_spelling settings), hread⟩

/-- Settings of which only the attribute is at its default. -/
def roomy : Settings where
  layout := { indentSize := ⟨16, by decide⟩, useTabs := true, newline := .crlf }
  render := { templateDir := some (.ofString "//etc/.//..") }

/-- They are spelled out with an empty variable for the attribute. -/
def roomyEnvironment : Environment where
  indentSize := some "16"
  useTabs := some "TrUe"
  newline := some "cRLf"
  flagsAttribute := some ""
  templateDir := some "//etc/.."

theorem settings_of_roomyEnvironment :
    roomy.render.flagsAttribute ≠ ""
      ∧ (Nat.toDigits 10 roomy.layout.indentSize.width).length ≤ Number.maxDigits
      ∧ roomyEnvironment.Spells roomy
      ∧ (spelling roomy).settings = .ok roomy
      ∧ roomyEnvironment.settings = .ok roomy := by
  have hattribute : roomy.render.flagsAttribute ≠ "" := by decide
  have hdigits : (Nat.toDigits 10 roomy.layout.indentSize.width).length ≤ Number.maxDigits := by
    decide
  have hspells : roomyEnvironment.Spells roomy :=
    { indentSize := .inl ⟨_, rfl, by decide⟩
      useTabs := .inl ⟨_, rfl, by
        unfold Text.IsMixedCase
        decide⟩
      newline := .inl ⟨_, rfl, by
        unfold Text.IsMixedCase
        decide⟩
      flagsAttribute := .inr ⟨.inr rfl, rfl⟩
      templateDir := .inl ⟨_, rfl, _, rfl, by decide⟩ }
  obtain ⟨hspelling, hread⟩ := settings_of_spells roomy hattribute hdigits
  exact ⟨hattribute, hdigits, hspells, hspelling, hread _ hspells⟩

end Environment

end Scaffold
