import Scaffold.Declaration.Access
import Scaffold.Declaration.EnumMember

/-!
# Enumerations

An enumeration is a list of named numbers, possibly of flags that can be combined.
-/

namespace Scaffold

structure Enumeration where
  access : Access := .listed .public
  name : Option String := none
  /-- Documentation; a blank text is none. -/
  summary : Option String := none
  /-- The members are flags. -/
  isFlags : Bool := false
  members : List EnumMember := []
deriving DecidableEq

/-! ## Slots -/

inductive EnumerationSlot where
  | access
  | name
  | summary
  | isFlags
  | members
deriving DecidableEq

instance : Record Enumeration where
  label := "Enumeration"
  Slot := EnumerationSlot
  decEq := inferInstance
  slots := [.access, .name, .summary, .isFlags, .members]
  key
    | .access => "access_modifier"
    | .name => "name"
    | .summary => "summary"
    | .isFlags => "is_flags"
    | .members => "members"
  Value
    | .access => Access
    | .name => Option String
    | .summary => Option String
    | .isFlags => Bool
    | .members => List EnumMember
  get record
    | .access => record.access
    | .name => record.name
    | .summary => record.summary
    | .isFlags => record.isFlags
    | .members => record.members
  set record
    | .access, value => { record with access := value }
    | .name, value => { record with name := value }
    | .summary, value => { record with summary := value }
    | .isFlags, value => { record with isFlags := value }
    | .members, value => { record with members := value }
  mem_slots slot := by cases slot <;> simp
  get_set_self record slot value := by cases slot <;> rfl
  get_set_ne record slot value other h := by
    cases slot <;> cases other <;> first | rfl | exact absurd rfl h
  ext_get first second h := by
    have hAccess := h .access
    have hName := h .name
    have hSummary := h .summary
    have hIsFlags := h .isFlags
    have hMembers := h .members
    cases first
    cases second
    simp_all

instance : RecordReader Enumeration where
  fresh := {}
  isRequired _ := false
  readSlot
    | .access => Readable.read (α := Access)
    | .name => Readable.read (α := Option String)
    | .summary => Readable.read (α := Option String)
    | .isFlags => Readable.read (α := Bool)
    | .members => Readable.read (α := List EnumMember)

end Scaffold
