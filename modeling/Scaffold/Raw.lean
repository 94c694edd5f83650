import Scaffold.Number.Binary64

/-!
# Raw values

A raw value is data that nothing has been checked of yet: what a settings file or a caller hands
over before it becomes a setting or a declaration.
-/

namespace Scaffold

/-- Unchecked data. -/
inductive Raw where
  | null
  | bool (value : Bool)
  | integer (value : Int)
  | decimal (value : Number.Binary64)
  | text (value : String)
  | array (elements : List Raw)
  /-- Members in the order in which they were written; a key may occur more than once. -/
  | object (members : List (String × Raw))

/-- The value that stands for none. -/
def Raw.isNull : Raw → Bool
  | .null => true
  | _ => false

/-- The last member with the given key. -/
def Raw.member? (key : String) (members : List (String × Raw)) : Option Raw :=
  members.reverse.lookup key

end Scaffold
