import Scaffold.Number.IntegerText

/-!
# Integers in plain form

The plain form of an integer is an optional minus and the digits `0` to `9`, of which a zero comes
first only if it is alone. `readPlain` reads this form and no other.

`readTidied` also reads what becomes plain once it is tidied: without the white space around it, a
plus, the zeros and underscores in front, a fraction of zeros behind, and single underscores
within. Tidying looks at the digits, so a minus may also stand behind the zeros in front.
-/

namespace Scaffold.Number

/-- A digit from `0` to `9`. -/
def isDigit (c : Char) : Bool :=
  '0' ≤ c && c ≤ '9'

/-- The value of the digits in a text. -/
def digitsValue (cs : List Char) : Nat :=
  ofDigits (cs.filterMap asciiDigit?)

/-- The digits of a plain number and what follows them: one zero alone, or digits that do not
start with one. -/
def takeWhole : List Char → Option (List Char × List Char)
  | [] => none
  | c :: cs =>
    if c = '0' then some (['0'], cs)
    else if isDigit c then some (c :: cs.takeWhile isDigit, cs.dropWhile isDigit)
    else none

/-- The minus at the start of a text, if there is one, and what follows it. -/
def takeMinus : List Char → Bool × List Char
  | '-' :: cs => (true, cs)
  | cs => (false, cs)

/-- Reads an integer in plain form. Too many digits are reported before anything that follows
them. -/
def readPlain (cs : List Char) : Except IntegerFault Int :=
  let (negative, unsigned) := takeMinus cs
  match takeWhole unsigned with
  | none => .error .malformed
  | some (digits, rest) =>
    if maxDigits < digits.length then .error (.tooManyDigits digits.length)
    else if rest = [] then .ok (signed negative (digitsValue digits))
    else .error .malformed

/-! ## Tidying -/

/-- Drops zeros and underscores up to the first other digit or minus. If there is none, or a point
comes first, the last of them stays. -/
def dropZerosAfter (last : Char) : List Char → Option (List Char)
  | [] => some [last]
  | c :: cs =>
    if c = '0' ∨ c = '_' then dropZerosAfter c cs
    else if isDigit c ∨ c = '-' then some (c :: cs)
    else if c = '.' then some (last :: c :: cs)
    else none

/-- Drops the zeros in front of a number, which must start with a digit. -/
def dropZeros : List Char → Option (List Char)
  | [] => none
  | c :: cs =>
    if c = '0' then dropZerosAfter c cs
    else if isDigit c then some (c :: cs)
    else none

/-- Drops a point and the zeros behind it, if nothing else stands behind the first point. -/
def dropZeroFraction (cs : List Char) : List Char :=
  match cs.dropWhile (· != '.') with
  | '.' :: '0' :: zeros => if zeros.all (· == '0') then cs.takeWhile (· != '.') else cs
  | _ => cs

def hasDoubleJoint : List Char → Bool
  | '_' :: '_' :: _ => true
  | _ :: cs => hasDoubleJoint cs
  | [] => false

/-- Drops underscores that stand alone between other characters; if one does not, all stay. -/
def dropJoints (cs : List Char) : List Char :=
  if cs.head? = some '_' ∨ cs.getLast? = some '_' ∨ hasDoubleJoint cs = true then cs
  else cs.filter (· != '_')

/-- A text without the white space around it. -/
def dropPadding (cs : List Char) : List Char :=
  ((cs.dropWhile Text.isNumberPadding).reverse.dropWhile Text.isNumberPadding).reverse

/-- A number in tidied form, if it starts with a digit behind its padding and sign. -/
def tidied (cs : List Char) : Option (List Char) :=
  let (negative, unsigned) := takeSign (dropPadding cs)
  (dropZeros unsigned).map fun digits =>
    (if negative then ['-'] else []) ++ dropJoints (dropZeroFraction digits)

/-- Reads an integer that is plain as it stands or once it is tidied. Digits are counted in the text
as it stands alone: too many of them that only tidying brings out are malformed. -/
def readTidied (text : List Char) : Except IntegerFault Int :=
  match readPlain text with
  | .ok value => .ok value
  | .error (.tooManyDigits count) => .error (.tooManyDigits count)
  | .error .malformed =>
    match (tidied text).map readPlain with
    | some (.ok value) => .ok value
    | _ => .error .malformed

end Scaffold.Number
