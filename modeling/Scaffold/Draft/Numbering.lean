import Scaffold.Draft.Check

/-!
# Members of built enumerations

The members of an enumeration of flags are numbered if none of them has a number: zero, then the
powers of two. No two members of an enumeration may have one name.
-/

namespace Scaffold

namespace EnumMember

/-- The number of the flag at a position. -/
def flagValue : Nat → Int
  | 0 => 0
  | position + 1 => (1 <<< position : Nat)

/-- The members with the numbers of flags, from the given position on. -/
def numberFrom (position : Nat) : List EnumMember → List EnumMember
  | [] => []
  | member :: members =>
    { member with value := some (flagValue position) } :: numberFrom (position + 1) members

end EnumMember

namespace Enumeration

/-- The members of an enumeration as they are built. -/
def numbered (enumeration : Enumeration) (members : List EnumMember) : List EnumMember :=
  if enumeration.isFlags && members.all (·.value.isNone) then EnumMember.numberFrom 0 members
  else members

/-- The first of some names that occurs again later. -/
def repeated? : List (Option String) → Option (Option String)
  | [] => none
  | name :: names => if name ∈ names then some name else repeated? names

/-- The enumeration with the given members, whose names must differ. -/
def withMembers (enumeration : Enumeration) (members : List EnumMember) :
    Except Error Enumeration :=
  match repeated? (members.map (·.name)) with
  | some name => .error (.duplicateMember (enumeration.name.getD "") (name.getD ""))
  | none => .ok { enumeration with members := enumeration.numbered members }

end Enumeration

end Scaffold
