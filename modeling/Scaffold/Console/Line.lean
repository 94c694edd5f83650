import Scaffold.Console.Markup
import Scaffold.Error

/-!
# Status lines

A status line is a message in a style and on a line of its own.
-/

namespace Scaffold.Console

/-- A character that consoles obey instead of showing it: bell, backspace, vertical tab, form feed
and carriage return. It is never printed. -/
def isObeyed (c : Char) : Bool :=
  c == '\x07' || c == '\x08' || c == '\x0b' || c == '\x0c' || c == '\r'

/-- What is left of a text when it is printed. -/
def printed (cs : List Char) : List Char :=
  cs.filter fun c => !isObeyed c

/-- A message in the given style, on a line of its own. -/
def styledLine (style message : String) : String :=
  String.ofList (printed (Markup.shown (Markup.styled style.toList message.toList)) ++ ['\n'])

/-- A message that tells of success. -/
def successLine (message : String) : String :=
  styledLine "bold green" message

/-- A message that tells of failure. -/
def failureLine (message : String) : String :=
  styledLine "bold red" message

/-- An error on a line of its own. -/
def errorLine (error : Error) : String :=
  failureLine error.described

end Scaffold.Console
