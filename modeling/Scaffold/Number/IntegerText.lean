import Scaffold.Text.Blank
import Scaffold.Number.Digit

/-!
# Integers as text

An integer is written as an optional sign and decimal digits of any script, with single
underscores between digits if one likes, and white space around it. `read` is the reader.
-/

namespace Scaffold.Number

/-- The most digits that an integer may be written with. -/
def maxDigits : Nat := 4300

/-- Why a text is not an integer. -/
inductive IntegerFault where
  /-- The text breaks the grammar. -/
  | malformed
  /-- The text has more than `maxDigits` digits. -/
  | tooManyDigits (count : Nat)
deriving DecidableEq

/-- Drops an underscore that a digit follows. -/
def dropJoint : List Char → List Char
  | '_' :: c :: cs => if (digitValue? c).isSome then c :: cs else '_' :: c :: cs
  | cs => cs

theorem dropJoint_length (cs : List Char) : (dropJoint cs).length ≤ cs.length := by
  fun_cases dropJoint cs <;> simp

/-- The digits at the start of a text, with single underscores between, and what follows them. -/
def takeDigits : List Char → List Nat × List Char
  | [] => ([], [])
  | c :: cs =>
    match digitValue? c with
    | none => ([], c :: cs)
    | some digit =>
      let more := takeDigits (dropJoint cs)
      (digit :: more.1, more.2)
termination_by cs => cs.length
decreasing_by
  exact Nat.lt_succ_of_le (dropJoint_length _)

/-- The sign at the start of a text, negative or not, and what follows it. -/
def takeSign : List Char → Bool × List Char
  | '-' :: cs => (true, cs)
  | '+' :: cs => (false, cs)
  | cs => (false, cs)

def signed (negative : Bool) (magnitude : Nat) : Int :=
  if negative then -magnitude else magnitude

/-- The number that the digits stand for, if there are some and not too many. -/
def ofSignedDigits (negative : Bool) (digits : List Nat) : Except IntegerFault Int :=
  if digits.length = 0 then .error .malformed
  else if maxDigits < digits.length then .error (.tooManyDigits digits.length)
  else .ok (signed negative (ofDigits digits))

/-- Reads an integer written in the digits of any script. Too many digits are reported before
anything that follows them, an underscore out of place before that. -/
def read (cs : List Char) : Except IntegerFault Int :=
  let (negative, unsigned) := takeSign (cs.dropWhile Text.isNumberPadding)
  let (digits, rest) := takeDigits unsigned
  if rest.head? = some '_' then .error .malformed
  else do
    let value ← ofSignedDigits negative digits
    if rest.all Text.isNumberPadding then .ok value else .error .malformed

end Scaffold.Number
