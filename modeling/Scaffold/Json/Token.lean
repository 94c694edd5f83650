import Scaffold.Raw
import Scaffold.Number.PlainInteger
import Scaffold.Json.Quoted

/-!
# The tokens of JSON text

A token is one of the six marks of structure or a value that is not built from others. Besides
the literals of the standard, the three numbers that are not finite have names.
-/

namespace Scaffold.Json

inductive Token where
  | openArray
  | closeArray
  | openObject
  | closeObject
  | comma
  | colon
  /-- A text, which may also be a key. -/
  | text (chars : List Char)
  /-- Any other value that is not built from others. -/
  | scalar (value : Raw)

/-- White space between tokens. -/
def isSpace (c : Char) : Bool :=
  c == ' ' || c == '\n' || c == '\r' || c == '\t'

/-! ## Numbers -/

/-- A run of at least one digit. -/
def takeRun (cs : List Char) : Option (List Char × List Char) :=
  if cs.takeWhile Number.isDigit = [] then none
  else some (cs.takeWhile Number.isDigit, cs.dropWhile Number.isDigit)

/-- The digits after the point, or none if there is no point. -/
def takeFraction : List Char → Option (Option (List Char) × List Char)
  | '.' :: cs => (takeRun cs).map fun parts => (some parts.1, parts.2)
  | cs => some (none, cs)

/-- The exponent, or none if there is no `e`. -/
def takeExponent : List Char → Option (Option Int × List Char)
  | [] => some (none, [])
  | c :: cs =>
    if c = 'e' ∨ c = 'E' then
      let (negative, unsigned) := Number.takeSign cs
      (takeRun unsigned).map fun parts =>
        (some (Number.signed negative (Number.digitsValue parts.1)), parts.2)
    else some (none, c :: cs)

/-- The number that its parts stand for: an integer if it has neither a point nor an exponent. -/
def numberOf (negative : Bool) (whole : List Char) : Option (List Char) → Option Int → Raw
  | none, none => .integer (Number.signed negative (Number.digitsValue whole))
  | fraction, exponent =>
    let places := fraction.getD []
    .decimal (.ofDecimal negative (Number.digitsValue (whole ++ places))
      (exponent.getD 0 - places.length))

/-- The number after its sign, and what follows it. Too many digits before the point are refused,
whatever follows them. -/
def takeNumber (negative : Bool) (cs : List Char) : Option (Raw × List Char) := do
  let (whole, rest) ← Number.takeWhole cs
  guard (whole.length ≤ Number.maxDigits)
  let (fraction, rest) ← takeFraction rest
  let (exponent, rest) ← takeExponent rest
  some (numberOf negative whole fraction exponent, rest)

/-! ## Names -/

/-- The values that are written as names. -/
def names : List (List Char × Raw) :=
  [("null".toList, .null), ("true".toList, .bool true), ("false".toList, .bool false),
   ("NaN".toList, .decimal .nan), ("Infinity".toList, .decimal (.infinite false)),
   ("-Infinity".toList, .decimal (.infinite true))]

/-- The name at the start of a text, and what follows it. -/
def takeName (cs : List Char) : Option (Raw × List Char) :=
  (names.find? fun entry => entry.1.isPrefixOf cs).map fun entry =>
    (entry.2, cs.drop entry.1.length)

/-! ## The reader of tokens -/

/-- The mark that a character is. -/
def mark? : Char → Option Token
  | '[' => some .openArray
  | ']' => some .closeArray
  | '\x7b' => some .openObject
  | '\x7d' => some .closeObject
  | ',' => some .comma
  | ':' => some .colon
  | _ => none

/-- The value at the start of a text that is neither a text nor built from others. -/
def takeScalar (cs : List Char) : Option (Raw × List Char) :=
  match takeName cs with
  | some found => some found
  | none =>
    match cs with
    | '-' :: cs => takeNumber true cs
    | cs => takeNumber false cs

/-- The token at the start of a text that starts with the given character. -/
def takeToken (c : Char) (cs : List Char) : Option (Token × List Char) :=
  match mark? c with
  | some mark => some (mark, cs)
  | none =>
    if c = '"' then (takeQuoted cs).map fun parts => (.text parts.1, parts.2)
    else (takeScalar (c :: cs)).map fun parts => (.scalar parts.1, parts.2)

/-! ## Each token leaves less to read -/

theorem length_dropWhile_le (p : Char → Bool) (cs : List Char) :
    (cs.dropWhile p).length ≤ cs.length := by
  induction cs with
  | nil => simp
  | cons c cs ih =>
    rw [List.dropWhile_cons]
    split
    · exact Nat.le_succ_of_le ih
    · exact Nat.le_refl _

/-- A number has at least one digit before its point. -/
theorem takeWhole_length {cs whole rest : List Char}
    (h : Number.takeWhole cs = some (whole, rest)) : rest.length < cs.length := by
  cases cs with
  | nil => simp [Number.takeWhole] at h
  | cons c cs =>
    rw [Number.takeWhole] at h
    split at h
    · simp at h
      simp [h.2]
    · split at h <;> simp at h
      rw [← h.2]
      exact Nat.lt_succ_of_le (length_dropWhile_le _ _)

theorem takeRun_length {cs run rest : List Char} (h : takeRun cs = some (run, rest)) :
    rest.length ≤ cs.length := by
  unfold takeRun at h
  split at h <;> simp at h
  rw [← h.2]
  exact length_dropWhile_le _ _

theorem takeFraction_length {cs rest : List Char} {fraction : Option (List Char)}
    (h : takeFraction cs = some (fraction, rest)) : rest.length ≤ cs.length := by
  unfold takeFraction at h
  split at h
  · simp only [Option.map_eq_some_iff, Prod.mk.injEq] at h
    obtain ⟨parts, hparts, _, rfl⟩ := h
    exact Nat.le_succ_of_le (takeRun_length hparts)
  · simp at h
    simp [h.2]

theorem takeSign_length (cs : List Char) : (Number.takeSign cs).2.length ≤ cs.length := by
  unfold Number.takeSign
  split <;> simp

theorem takeExponent_length {cs rest : List Char} {exponent : Option Int}
    (h : takeExponent cs = some (exponent, rest)) : rest.length ≤ cs.length := by
  unfold takeExponent at h
  split at h
  · simp at h
    simp [h.2]
  · split at h
    · simp only [Option.map_eq_some_iff, Prod.mk.injEq] at h
      obtain ⟨parts, hparts, _, rfl⟩ := h
      have hrun := takeRun_length hparts
      have hsign := takeSign_length ‹List Char›
      simp
      omega
    · simp at h
      simp [← h.2]

/-- A number takes the digits of its whole part at least. -/
theorem takeNumber_length {negative : Bool} {cs rest : List Char} {value : Raw}
    (h : takeNumber negative cs = some (value, rest)) : rest.length < cs.length := by
  obtain ⟨⟨whole, afterWhole⟩, hwhole, h⟩ := Option.bind_eq_some_iff.mp h
  obtain ⟨-, -, h⟩ := Option.bind_eq_some_iff.mp h
  obtain ⟨⟨fraction, afterFraction⟩, hfraction, h⟩ := Option.bind_eq_some_iff.mp h
  obtain ⟨⟨exponent, afterExponent⟩, hexponent, h⟩ := Option.bind_eq_some_iff.mp h
  obtain ⟨-, rfl⟩ := Prod.mk.inj (Option.some.inj h)
  have := takeWhole_length hwhole
  have := takeFraction_length hfraction
  have := takeExponent_length hexponent
  omega

theorem takeName_length {cs rest : List Char} {value : Raw}
    (h : takeName cs = some (value, rest)) : rest.length < cs.length := by
  simp only [takeName, Option.map_eq_some_iff, Prod.mk.injEq] at h
  obtain ⟨entry, hfind, _, rfl⟩ := h
  have hmem := List.mem_of_find?_eq_some hfind
  have hpre : entry.1 <+: cs := by
    simpa using List.find?_some hfind
  have hlen := hpre.length_le
  have hpos : 0 < entry.1.length := by
    simp only [names, List.mem_cons, List.not_mem_nil, or_false] at hmem
    rcases hmem with rfl | rfl | rfl | rfl | rfl | rfl <;> decide
  rw [List.length_drop]
  omega

theorem takeScalar_length {cs rest : List Char} {value : Raw}
    (h : takeScalar cs = some (value, rest)) : rest.length < cs.length := by
  unfold takeScalar at h
  split at h
  · rename_i found hname
    simp only [Option.some.injEq] at h
    exact takeName_length (h ▸ hname)
  · split at h
    · exact Nat.lt_succ_of_lt (takeNumber_length h)
    · exact takeNumber_length h

/-- A token takes at least its first character: a text has no more tokens than characters. -/
theorem takeToken_length {c : Char} {cs rest : List Char} {token : Token}
    (h : takeToken c cs = some (token, rest)) : rest.length < (c :: cs).length := by
  unfold takeToken at h
  split at h
  · simp at h
    simp [h.2]
  · split at h
    · simp only [Option.map_eq_some_iff, Prod.mk.injEq] at h
      obtain ⟨parts, hparts, _, rfl⟩ := h
      exact Nat.lt_succ_of_lt (takeQuoted_length hparts)
    · simp only [Option.map_eq_some_iff, Prod.mk.injEq] at h
      obtain ⟨parts, hparts, _, rfl⟩ := h
      exact takeScalar_length hparts

def tokens? : List Char → Option (List Token)
  | [] => some []
  | c :: cs =>
    if isSpace c then tokens? cs
    else
      match _h : takeToken c cs with
      | none => none
      | some (token, rest) => (tokens? rest).map (token :: ·)
termination_by cs => cs.length
decreasing_by
  · simp
  · exact takeToken_length ‹_›

end Scaffold.Json
