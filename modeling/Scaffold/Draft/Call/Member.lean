import Scaffold.Draft.Argument
import Scaffold.Declaration.Property
import Scaffold.Declaration.Field
import Scaffold.Declaration.EnumMember

/-!
# Configuring members

The calls that configure fields, properties and members of enumerations. Each replaces one slot of
the value that a draft holds, or fails and replaces nothing.
-/

namespace Scaffold

/-! ## Fields -/

inductive FieldCall where
  | access (text? : Option String)
  | type (text? : Option String)
  | name (text? : Option String)
  | readonly (flag : Bool)
  | summary (text? : Option String)

def FieldCall.apply (field : Field) : FieldCall → Except Error Field
  | .access text? => do
    return { field with access := .ofText (← requireArgument "access_modifier" text?) }
  | .type text? => do return { field with type := some (← requireArgument "type" text?) }
  | .name text? => do return { field with name := some (← requireArgument "name" text?) }
  | .readonly flag => .ok { field with isReadonly := flag }
  | .summary text? => do return { field with summary := some (← requireArgument "summary" text?) }

/-! ## Properties -/

/-- A call that configures a property. An accessor without an expression is generated. -/
inductive PropertyCall where
  | access (text? : Option String)
  | type (text? : Option String)
  | name (text? : Option String)
  | getter (expression? : Option String)
  | noGetter
  | setter (expression? : Option String)
  | noSetter
  | defaultValue (text? : Option String)
  | static (flag : Bool)
  | summary (text? : Option String)

def PropertyCall.apply (property : Property) : PropertyCall → Except Error Property
  | .access text? => do
    return { property with access := .ofText (← requireArgument "access_modifier" text?) }
  | .type text? => do return { property with type := some (← requireArgument "type" text?) }
  | .name text? => do return { property with name := some (← requireArgument "name" text?) }
  | .getter expression? => .ok { property with getter := .custom expression? }
  | .noGetter => .ok { property with getter := .absent }
  | .setter expression? => .ok { property with setter := .custom expression? }
  | .noSetter => .ok { property with setter := .absent }
  | .defaultValue text? => do
    return { property with defaultValue := some (← requireArgument "default_value" text?) }
  | .static flag => .ok { property with isStatic := flag }
  | .summary text? => do
    return { property with summary := some (← requireArgument "summary" text?) }

/-! ## Members of enumerations -/

inductive EnumMemberCall where
  | name (text? : Option String)
  | value (raw : Raw)
  | summary (text? : Option String)

/-- The integer that a number is given as; nothing else stands for one here. -/
def requireInteger : Raw → Except Error Int
  | .integer value => .ok value
  | _ => .error .valueNotInteger

/-- Nothing but an integer stands for one. -/
theorem requireInteger_eq_ok_iff {raw : Raw} {value : Int} :
    requireInteger raw = .ok value ↔ raw = .integer value := by
  cases raw <;> simp [requireInteger]

def EnumMemberCall.apply (member : EnumMember) : EnumMemberCall → Except Error EnumMember
  | .name text? => do return { member with name := some (← requireArgument "name" text?) }
  | .value raw => do return { member with value := some (← requireInteger raw) }
  | .summary text? => do return { member with summary := some (← requireArgument "summary" text?) }

end Scaffold
