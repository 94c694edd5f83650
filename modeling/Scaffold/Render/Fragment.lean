import Scaffold.Error
import Scaffold.Text.Blank
import Scaffold.Text.Lines

/-!
# Fragments of source

Source is put together from fragments: runs of words, documentation, and blocks of members. A
fragment never starts or ends with a line feed.
-/

namespace Scaffold.Render

/-- A piece of source without the line feeds at its ends. -/
def fragment (source : String) : String :=
  String.ofList (Text.trimLineFeeds source.toList)

/-- The words that are not empty, with single spaces between. -/
def words (parts : List String) : String :=
  " ".intercalate (parts.filter (· != ""))

/-- A word that is written only if a condition holds. -/
def optionalWord (condition : Bool) (word : String) : String :=
  if condition then word else ""

/-! ## Documentation -/

/-- The lines of a documentation text; a lone carriage return ends none. -/
def summaryLines (summary : String) : List (List Char) :=
  (Text.dropPairedReturns summary.toList).splitOn '\n'

/-- One line of documentation. -/
def docLine (line : List Char) : String :=
  "/// " ++ String.ofList line

/-- The documentation block of a summary, up to and with its last line feed; nothing for a summary
that is missing. -/
def docBlock (summary : Option String) : String :=
  if Text.isMissing summary then ""
  else
    "/// <summary>\n" ++ "\n".intercalate ((summaryLines (summary.getD "")).map docLine)
      ++ "\n/// </summary>\n"

/-! ## Lists and blocks -/

/-- What a type is declared to extend. -/
def extending (names : List String) : String :=
  if names = [] then "" else " : " ++ ", ".intercalate names

/-- The members of a block, each on lines of its own and with `gap` between each two. -/
def blockBody (gap : String) (members : List String) : String :=
  gap.intercalate (members.map (· ++ "\n"))

theorem blockBody_cons (member : String) (members : List String) :
    blockBody "" (member :: members) = member ++ "\n" ++ blockBody "" members := by
  cases members with
  | nil => simp [blockBody]
  | cons next members => simp [blockBody, String.intercalate_cons_cons]

/-- A block in braces below its header. -/
def block (header body : String) : String :=
  header ++ "\n\x7b\n" ++ body ++ "\x7d"

/-! ## Required texts -/

/-- The text of a setting that the source cannot do without. -/
def require (entity setting : String) : Option String → Except Error String
  | none => .error (.missingSetting entity setting)
  | some text =>
    if Text.isBlankText text then .error (.missingSetting entity setting) else .ok text

/-- A required text is given back just if it is there and not blank. -/
theorem require_eq_ok_iff {entity setting : String} {text? : Option String} {text : String} :
    require entity setting text? = .ok text ↔ text? = some text ∧ Text.isMissing text? = false := by
  cases text? with
  | none => simp [require]
  | some given =>
    simp only [require, Text.isMissing_some]
    split <;> simp_all

/-- A required text that is missing is reported under its setting. -/
theorem require_of_isMissing {entity setting : String} {text? : Option String}
    (h : Text.isMissing text? = true) :
    require entity setting text? = .error (.missingSetting entity setting) := by
  cases text? with
  | none => rfl
  | some given =>
    rw [Text.isMissing_some] at h
    simp [require, h]

end Scaffold.Render
