import Scaffold.Raw.Checked

/-!
# Access levels

Who may use a declaration. A declaration under construction may also carry a text that is no
level, or nothing at all; both read as the most restrictive keyword when it is rendered.
-/

namespace Scaffold

/-- The access levels of the language. -/
inductive AccessLevel where
  /-- No keyword. -/
  | unspecified
  | «private»
  | internal
  | «protected»
  | «public»
  | privateProtected
  | protectedInternal
deriving DecidableEq

namespace AccessLevel

def all : List AccessLevel :=
  [.unspecified, .private, .internal, .protected, .public, .privateProtected, .protectedInternal]

def name : AccessLevel → String
  | .unspecified => "none"
  | .private => "private"
  | .internal => "internal"
  | .protected => "protected"
  | .public => "public"
  | .privateProtected => "private protected"
  | .protectedInternal => "protected internal"

/-- The keyword that stands for a level in source. -/
def keyword : AccessLevel → String
  | .unspecified => ""
  | level => level.name

def ofName? (name : String) : Option AccessLevel :=
  all.find? fun level => level.name == name

theorem mem_all (level : AccessLevel) : level ∈ all := by
  cases level <;> decide

/-- Each level is known by its own name. -/
theorem ofName?_name (level : AccessLevel) : ofName? level.name = some level := by
  cases level <;> decide +kernel

end AccessLevel

/-- What a declaration holds as its access level. -/
inductive Access where
  /-- One of the levels of the language. -/
  | listed (level : AccessLevel)
  /-- A text that is the name of no level. -/
  | unlisted (text : String)
  | unset
deriving DecidableEq

namespace Access

/-- The access that a text stands for. -/
def ofText (text : String) : Access :=
  match AccessLevel.ofName? text with
  | some level => .listed level
  | none => .unlisted text

/-- The access that an optional text stands for. -/
def ofText? : Option String → Access
  | some text => ofText text
  | none => .unset

/-- The text of an access, if there is one. -/
def text? : Access → Option String
  | .listed level => some level.name
  | .unlisted text => some text
  | .unset => none

/-- An access keeps the text that it was given as. -/
theorem text?_ofText (text : String) : (ofText text).text? = some text := by
  unfold ofText
  split
  next level hlevel =>
    have hname := List.find?_some hlevel
    exact congrArg some (beq_iff_eq.mp hname)
  next => rfl

/-- Just the names of levels are listed. -/
theorem ofText_eq_listed_iff {text : String} {level : AccessLevel} :
    ofText text = .listed level ↔ text = level.name := by
  constructor
  · intro h
    have htext := text?_ofText text
    rw [h] at htext
    exact (Option.some.inj htext).symm
  · rintro rfl
    rw [ofText, AccessLevel.ofName?_name]

/-- The keyword in source; whatever is no level is private. -/
def keyword : Access → String
  | .listed level => level.keyword
  | .unlisted _ => AccessLevel.private.keyword
  | .unset => AccessLevel.private.keyword

/-- Only the name of a level is read as an access. -/
def read : Raw → Checked Access
  | .text text =>
    match AccessLevel.ofName? text with
    | some level => .ok (.listed level)
    | none => Checked.fail .notListed
  | _ => Checked.fail .notListed

instance : Readable Access := ⟨read⟩

end Access

end Scaffold
