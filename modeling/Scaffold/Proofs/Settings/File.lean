import Mathlib.Data.List.Forall2
import Scaffold.Settings.File
import Scaffold.Proofs.Json.Reading
import Scaffold.Proofs.PosixPath
import Scaffold.Proofs.Raw.Record

/-!
# Settings files lose nothing

Settings are read back from the text that they are saved as (`load_save`). The text denotes the
settings as a raw value (`denotes_saveChars`), since an object that `writeObject` writes denotes
the object of what its members denote (`denotes_writeObject`); and the settings are what this raw
value describes (`read_raw`).
-/

namespace Scaffold

open Json (Denotes IsEnd Expected Frame Reader)

namespace Settings

/-! ## Objects -/

/-- A written member is the key and what the value denotes. -/
def MemberDenotes (depth : Nat) (written : String × List Char) (member : String × Raw) : Prop :=
  written.1 = member.1 ∧ Denotes depth written.2 member.2

/-- A member is taken wherever its key may stand. -/
theorem readRest_writeMember {level depth : Nat} {written : String × List Char}
    {member : String × Raw} (h : MemberDenotes depth written member) {frames : List Frame}
    (hdepth : frames.length + 1 + depth ≤ Json.maxDepth) {members : List (String × Raw)}
    {expected : Expected}
    (hkey : ∀ text, Reader.step ⟨.object members :: frames, expected⟩ (.text text)
      = some ⟨.member (String.ofList text) members :: frames, .colon⟩)
    {rest : List Char} (hrest : IsEnd rest) :
    Reader.readRest ⟨.object members :: frames, expected⟩ (writeMember level written ++ rest)
      = Reader.readRest ⟨.object (member :: members) :: frames, .separator⟩ rest := by
  obtain ⟨key, cs⟩ := written
  obtain ⟨_, value⟩ := member
  obtain ⟨rfl, hvalue⟩ := h
  have htext : writeMember level (key, cs) ++ rest
      = List.replicate (2 * level) ' '
        ++ (Json.quote key.toList ++ ':' :: ' ' :: (cs ++ rest)) := by
    simp [writeMember, padding]
  -- padding, key, colon and value are read in turn
  rw [htext, Reader.readRest_spaces, Reader.readRest_quote, hkey, Option.bind_some,
    Reader.readRest_mark rfl, String.ofList_toList]
  show Reader.readRest ⟨.member key members :: frames, .value⟩ (' ' :: (cs ++ rest)) = _
  rw [Reader.readRest_space rfl, hvalue (.member key members :: frames) rest hdepth hrest]
  rfl

/-- The members up to the line break behind the last. Induction as the members are written: the
last one without a comma. -/
theorem readRest_writeMembers {level depth : Nat} {written : List (String × List Char)}
    {values : List (String × Raw)} (h : List.Forall₂ (MemberDenotes depth) written values)
    (hne : written ≠ []) {frames : List Frame}
    (hdepth : frames.length + 1 + depth ≤ Json.maxDepth) {members : List (String × Raw)}
    {expected : Expected}
    (hkey : ∀ text, Reader.step ⟨.object members :: frames, expected⟩ (.text text)
      = some ⟨.member (String.ofList text) members :: frames, .colon⟩)
    (rest : List Char) :
    Reader.readRest ⟨.object members :: frames, expected⟩
        (writeMembers level written ++ '\n' :: rest)
      = Reader.readRest ⟨.object (values.reverse ++ members) :: frames, .separator⟩ rest := by
  induction h generalizing members expected with
  | nil => exact absurd rfl hne
  | @cons member value more values hmember hmore ih =>
    cases hmore with
    | nil =>
      rw [writeMembers, readRest_writeMember hmember hdepth hkey (by simp [IsEnd, Json.isSpace]),
        Reader.readRest_space rfl]
      rfl
    -- between two members stands a comma, behind which only a key may follow
    | @cons next nextValue more' values' hnext hmore' =>
      have htext : writeMembers level (member :: next :: more') ++ '\n' :: rest
          = writeMember level member
            ++ ',' :: '\n' :: (writeMembers level (next :: more') ++ '\n' :: rest) := by
        simp [writeMembers]
      rw [htext, readRest_writeMember hmember hdepth hkey (by simp [IsEnd, Json.mark?]),
        Reader.readRest_mark rfl]
      show Reader.readRest ⟨.object (value :: members) :: frames, .key⟩ _ = _
      rw [Reader.readRest_space rfl, ih (by simp) fun _ => rfl]
      simp

/-- **A written object denotes the object of what its members denote.** -/
theorem denotes_writeObject {level depth : Nat} {written : List (String × List Char)}
    {values : List (String × Raw)} (h : List.Forall₂ (MemberDenotes depth) written values)
    (hne : written ≠ []) : Denotes (depth + 1) (writeObject level written) (.object values) := by
  intro frames rest hdepth _
  have htext : writeObject level written ++ rest
      = '\x7b' :: '\n' :: (writeMembers level written
        ++ '\n' :: (List.replicate (2 * (level - 1)) ' ' ++ '\x7d' :: rest)) := by
    simp [writeObject, padding]
  -- the object does not stand too deep to have members
  have hroom : Reader.isTooDeep ⟨.object [] :: frames, .member⟩ = false := by
    simp only [Reader.isTooDeep, decide_eq_false_iff_not, List.length_cons]
    omega
  have hkey (text : List Char) : Reader.step ⟨.object [] :: frames, .member⟩ (.text text)
      = some ⟨.member (String.ofList text) [] :: frames, .colon⟩ := by
    show (if Reader.isTooDeep _ then none else _) = _
    rw [hroom]
    rfl
  rw [htext, Reader.readRest_mark rfl]
  show Reader.readRest ⟨.object [] :: frames, .member⟩ _ = _
  rw [Reader.readRest_space rfl, readRest_writeMembers h hne (by omega) hkey,
    Reader.readRest_spaces, Reader.readRest_mark rfl, List.append_nil]
  show (Reader.deliver (.object values.reverse.reverse) frames).bind _ = _
  rw [List.reverse_reverse]

/-! ## Settings as raw values -/

/-- A path as a raw value, or nothing. -/
def rawPath : Option PosixPath → Raw
  | none => .null
  | some path => .text path.toString

def rawLayout (settings : LayoutSettings) : Raw :=
  .object
    [(LayoutSlot.key .indentSize, .integer settings.indentSize.width),
     (LayoutSlot.key .useTabs, .bool settings.useTabs),
     (LayoutSlot.key .newline, .text settings.newline.text)]

def rawRender (settings : RenderSettings) : Raw :=
  .object
    [(RenderSlot.key .flagsAttribute, .text settings.flagsAttribute),
     (RenderSlot.key .templateDir, rawPath settings.templateDir)]

/-- The settings as a raw value. -/
def raw (settings : Settings) : Raw :=
  .object
    [(SettingsSlot.key .layout, rawLayout settings.layout),
     (SettingsSlot.key .render, rawRender settings.render)]

theorem denotes_writeBool (depth : Nat) (value : Bool) :
    Denotes depth (writeBool value) (.bool value) := by
  cases value with
  | false => exact Json.denotes_false depth
  | true => exact Json.denotes_true depth

/-- What is written for a directory, or for none, denotes it. -/
theorem denotes_writePath (depth : Nat) (path : Option PosixPath) :
    Denotes depth (writePath path) (rawPath path) := by
  cases path with
  | none => exact Json.denotes_null depth
  | some path => exact Json.denotes_quote depth path.chars

/-- What is written for the layout denotes it, if the width has no more digits than a number may. -/
theorem denotes_writeLayout {settings : LayoutSettings}
    (h : (Nat.toDigits 10 settings.indentSize.width).length ≤ Number.maxDigits) :
    Denotes 1 (writeLayout settings) (rawLayout settings) := by
  have hsize := Json.denotes_toDigits 0 settings.indentSize.pos h
  have htabs := denotes_writeBool 0 settings.useTabs
  have hnewline := Json.denotes_quote 0 settings.newline.chars
  exact denotes_writeObject
    (.cons (And.intro rfl hsize)
      (.cons (And.intro rfl htabs) (.cons (And.intro rfl hnewline) .nil)))
    (List.cons_ne_nil _ _)

theorem denotes_writeRender (settings : RenderSettings) :
    Denotes 1 (writeRender settings) (rawRender settings) := by
  have hattribute := Json.denotes_quote 0 settings.flagsAttribute.toList
  rw [String.ofList_toList] at hattribute
  have hdirectory := denotes_writePath 0 settings.templateDir
  exact denotes_writeObject
    (.cons (And.intro rfl hattribute) (.cons (And.intro rfl hdirectory) .nil))
    (List.cons_ne_nil _ _)

/-- **The text of a settings file denotes the settings.** -/
theorem denotes_saveChars {settings : Settings}
    (h : (Nat.toDigits 10 settings.layout.indentSize.width).length ≤ Number.maxDigits) :
    Denotes 2 settings.saveChars settings.raw :=
  denotes_writeObject
    (.cons (And.intro rfl (denotes_writeLayout h))
      (.cons (And.intro rfl (denotes_writeRender settings.render)) .nil))
    (List.cons_ne_nil _ _)

/-! ## Reading settings back -/

theorem read_indentSize (size : IndentSize) :
    (Readable.read (.integer size.width) : Checked IndentSize) = .ok size :=
  dif_pos size.pos

theorem read_newline (newline : Newline) :
    (Readable.read (.text newline.text) : Checked Newline) = .ok newline := by
  cases newline <;> rfl

/-- A directory is read back from the text of its path, and none from null. -/
theorem read_path (path : Option PosixPath) :
    (Readable.read (rawPath path) : Checked (Option PosixPath)) = .ok path := by
  cases path with
  | none => rfl
  | some path => exact congrArg (fun path => Except.ok (some path)) path.ofString_chars

/-- The layout is read back from its members. -/
theorem read_rawLayout (settings : LayoutSettings) :
    (Readable.read (rawLayout settings) : Checked LayoutSettings) = .ok settings := by
  refine RecordReader.readMembers_eq_ok fun slot => ?_
  cases slot with
  | indentSize => exact ⟨_, rfl, read_indentSize settings.indentSize⟩
  | useTabs => exact ⟨_, rfl, rfl⟩
  | newline => exact ⟨_, rfl, read_newline settings.newline⟩

theorem read_rawRender (settings : RenderSettings) :
    (Readable.read (rawRender settings) : Checked RenderSettings) = .ok settings := by
  refine RecordReader.readMembers_eq_ok fun slot => ?_
  cases slot with
  | flagsAttribute => exact ⟨_, rfl, rfl⟩
  | templateDir => exact ⟨_, rfl, read_path settings.templateDir⟩

/-- **The raw value of settings describes these settings.** -/
theorem read_raw (settings : Settings) : read settings.raw = .ok settings := by
  refine RecordReader.readMembers_eq_ok fun slot => ?_
  cases slot with
  | layout => exact ⟨_, rfl, read_rawLayout settings.layout⟩
  | render => exact ⟨_, rfl, read_rawRender settings.render⟩

/-- **Saving loses no setting.** The text that settings are saved as is read back as equal
settings, if the width of the indentation has no more digits than a number may. -/
theorem load_save (settings : Settings)
    (h : (Nat.toDigits 10 settings.layout.indentSize.width).length ≤ Number.maxDigits) :
    load settings.save = .ok settings := by
  have hread : Json.read settings.saveChars = some settings.raw :=
    (denotes_saveChars h).read (by decide)
  unfold load save
  rw [String.toList_ofList, hread]
  exact read_raw settings

/-- Settings whose text needs escapes of every kind, and a path that starts with two slashes. -/
def intricate : Settings where
  layout := { indentSize := ⟨12, by decide⟩, useTabs := true, newline := .crlf }
  render :=
    { flagsAttribute := "\"\\\t\x01\x7f/\u2028𝄞"
      templateDir := some (.ofString "//etc/.//..") }

theorem load_save_intricate :
    (Nat.toDigits 10 intricate.layout.indentSize.width).length ≤ Number.maxDigits
      ∧ load intricate.save = .ok intricate :=
  ⟨by decide, load_save intricate (by decide)⟩

end Settings

end Scaffold
