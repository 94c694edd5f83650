import Scaffold.Settings.Reader
import Scaffold.Error

/-!
# Settings from the environment

Each setting may come from an environment variable. A variable that is empty counts as unset, and
a setting without a variable keeps its default.
-/

namespace Scaffold

/-- The variables that settings are read from. -/
structure Environment where
  indentSize : Option String := none
  useTabs : Option String := none
  newline : Option String := none
  flagsAttribute : Option String := none
  templateDir : Option String := none

namespace Environment

/-- The words that switch tabs on, in lower case; every other word switches them off. -/
def tabWords : List String := ["1", "true", "yes"]

/-- The separator that a name stands for; other texts stand for themselves. -/
def newlineText (name : String) : String :=
  match Text.lowerAscii name with
  | "lf" => "\n"
  | "crlf" => "\r\n"
  | other => other

/-- The width that a variable gives. -/
def indentMember (text : String) : Except Failure Raw :=
  match Number.read text.toList with
  | .ok value => .ok (.integer value)
  | .error fault => .error (.notANumber text fault)

/-- The member that a variable gives rise to, if it is set. -/
def member (key : String) (raw : String → Raw) (value : Option String) :
    List (String × Raw) :=
  match Text.given? value with
  | none => []
  | some text => [(key, raw text)]

/-- The members for layout that the environment gives. -/
def layoutMembers (env : Environment) : Except Failure (List (String × Raw)) := do
  let indent ← match Text.given? env.indentSize with
    | none => .ok []
    | some text => (indentMember text).map fun raw => [(LayoutSlot.key .indentSize, raw)]
  return indent
    ++ member (LayoutSlot.key .useTabs)
      (fun text => .bool (tabWords.contains (Text.lowerAscii text))) env.useTabs
    ++ member (LayoutSlot.key .newline) (fun text => .text (newlineText text)) env.newline

/-- The members for rendering that the environment gives. -/
def renderMembers (env : Environment) : List (String × Raw) :=
  member (RenderSlot.key .flagsAttribute) .text env.flagsAttribute
    ++ member (RenderSlot.key .templateDir) .text env.templateDir

/-- The settings that the environment gives. A width that is no number is reported before anything
else, and issues of layout before issues of rendering. -/
def settings (env : Environment) : Except Failure Settings := do
  let layout ← Checked.orFail (Readable.read (.object (← env.layoutMembers)))
  let render ← Checked.orFail (Readable.read (.object env.renderMembers))
  return { layout, render }

end Environment

end Scaffold
