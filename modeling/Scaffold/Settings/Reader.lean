import Scaffold.Settings
import Scaffold.Raw.Record

/-!
# Reading settings

Settings are records of records. `Settings.read` reads them from a raw value.
-/

namespace Scaffold

/-- A width is an integer from one on. -/
instance : Readable IndentSize where
  read raw :=
    match (Readable.read raw : Checked Int) with
    | .error issues => .error issues
    | .ok value => if h : 0 < value.toNat then .ok ⟨value.toNat, h⟩ else Checked.fail .tooSmall

/-- The line separator that a text is. -/
def Newline.ofText? (text : String) : Option Newline :=
  [Newline.lf, Newline.crlf].find? fun newline => newline.text == text

/-- Only a line separator itself is read as one. -/
instance : Readable Newline where
  read
    | .text text =>
      match Newline.ofText? text with
      | some newline => .ok newline
      | none => Checked.fail .notLiteral
    | _ => Checked.fail .notLiteral

/-- A path is read from a text. -/
instance : Readable PosixPath where
  read
    | .text text => .ok (.ofString text)
    | _ => Checked.fail .notPath

/-! ## Layout -/

inductive LayoutSlot where
  | indentSize
  | useTabs
  | newline
deriving DecidableEq

def LayoutSlot.key : LayoutSlot → String
  | .indentSize => "indent_size"
  | .useTabs => "use_tabs"
  | .newline => "newline"

instance : Record LayoutSettings where
  label := "LayoutSettings"
  Slot := LayoutSlot
  decEq := inferInstance
  slots := [.indentSize, .useTabs, .newline]
  key := LayoutSlot.key
  Value
    | .indentSize => IndentSize
    | .useTabs => Bool
    | .newline => Newline
  get record
    | .indentSize => record.indentSize
    | .useTabs => record.useTabs
    | .newline => record.newline
  set record
    | .indentSize, value => { record with indentSize := value }
    | .useTabs, value => { record with useTabs := value }
    | .newline, value => { record with newline := value }
  mem_slots slot := by cases slot <;> simp
  get_set_self record slot value := by cases slot <;> rfl
  get_set_ne record slot value other h := by
    cases slot <;> cases other <;> first | rfl | exact absurd rfl h
  ext_get first second h := by
    have hIndentSize := h .indentSize
    have hUseTabs := h .useTabs
    have hNewline := h .newline
    cases first
    cases second
    simp_all

instance : RecordReader LayoutSettings where
  fresh := {}
  isRequired _ := false
  readSlot
    | .indentSize => Readable.read (α := IndentSize)
    | .useTabs => Readable.read (α := Bool)
    | .newline => Readable.read (α := Newline)

/-! ## Rendering -/

inductive RenderSlot where
  | flagsAttribute
  | templateDir
deriving DecidableEq

def RenderSlot.key : RenderSlot → String
  | .flagsAttribute => "flags_attribute"
  | .templateDir => "template_dir"

instance : Record RenderSettings where
  label := "RenderSettings"
  Slot := RenderSlot
  decEq := inferInstance
  slots := [.flagsAttribute, .templateDir]
  key := RenderSlot.key
  Value
    | .flagsAttribute => String
    | .templateDir => Option PosixPath
  get record
    | .flagsAttribute => record.flagsAttribute
    | .templateDir => record.templateDir
  set record
    | .flagsAttribute, value => { record with flagsAttribute := value }
    | .templateDir, value => { record with templateDir := value }
  mem_slots slot := by cases slot <;> simp
  get_set_self record slot value := by cases slot <;> rfl
  get_set_ne record slot value other h := by
    cases slot <;> cases other <;> first | rfl | exact absurd rfl h
  ext_get first second h := by
    have hFlagsAttribute := h .flagsAttribute
    have hTemplateDir := h .templateDir
    cases first
    cases second
    simp_all

instance : RecordReader RenderSettings where
  fresh := {}
  isRequired _ := false
  readSlot
    | .flagsAttribute => Readable.read (α := String)
    | .templateDir => Readable.read (α := Option PosixPath)

/-! ## All settings -/

inductive SettingsSlot where
  | layout
  | render
deriving DecidableEq

def SettingsSlot.key : SettingsSlot → String
  | .layout => "formatter"
  | .render => "render"

instance : Record Settings where
  label := "Settings"
  Slot := SettingsSlot
  decEq := inferInstance
  slots := [.layout, .render]
  key := SettingsSlot.key
  Value
    | .layout => LayoutSettings
    | .render => RenderSettings
  get record
    | .layout => record.layout
    | .render => record.render
  set record
    | .layout, value => { record with layout := value }
    | .render, value => { record with render := value }
  mem_slots slot := by cases slot <;> simp
  get_set_self record slot value := by cases slot <;> rfl
  get_set_ne record slot value other h := by
    cases slot <;> cases other <;> first | rfl | exact absurd rfl h
  ext_get first second h := by
    have hLayout := h .layout
    have hRender := h .render
    cases first
    cases second
    simp_all

instance : RecordReader Settings where
  fresh := {}
  isRequired _ := false
  readSlot
    | .layout => Readable.read (α := LayoutSettings)
    | .render => Readable.read (α := RenderSettings)

/-- The settings that a raw value describes. -/
def Settings.read (raw : Raw) : Checked Settings :=
  Readable.read raw

end Scaffold
