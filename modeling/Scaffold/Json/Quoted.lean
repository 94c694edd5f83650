/-!
# Quoted text

A text stands between double quotes. A backslash introduces the two characters that cannot stand
for themselves, the control characters, and code units of 16 bits in hexadecimal.

`quote` writes the fewest escapes: short ones where there are, `\u` for the other control
characters, and everything from the space on as it is. `takeQuoted` reads every spelling.
-/

namespace Scaffold.Json

/-! ## Writing -/

def hexDigit (value : Nat) : Char :=
  if value < 10 then Char.ofNat ('0'.toNat + value) else Char.ofNat ('a'.toNat + (value - 10))

/-- One character between quotes. -/
def escapeChar (c : Char) : List Char :=
  if c = '"' then ['\\', '"']
  else if c = '\\' then ['\\', '\\']
  else if c = '\x08' then ['\\', 'b']
  else if c = '\t' then ['\\', 't']
  else if c = '\n' then ['\\', 'n']
  else if c = '\x0c' then ['\\', 'f']
  else if c = '\r' then ['\\', 'r']
  else if c.toNat < 0x20 then
    ['\\', 'u', '0', '0', hexDigit (c.toNat / 16), hexDigit (c.toNat % 16)]
  else [c]

/-- The text between double quotes. -/
def quote (cs : List Char) : List Char :=
  '"' :: (cs.flatMap escapeChar ++ ['"'])

/-! ## Reading -/

/-- The value of a hexadecimal digit in either case. -/
def hexValue? (c : Char) : Option Nat :=
  if '0' ≤ c ∧ c ≤ '9' then some (c.toNat - '0'.toNat)
  else if 'a' ≤ c ∧ c ≤ 'f' then some (c.toNat - 'a'.toNat + 10)
  else if 'A' ≤ c ∧ c ≤ 'F' then some (c.toNat - 'A'.toNat + 10)
  else none

/-- Four hexadecimal digits at the start of a text, and what follows them. -/
def takeUnit : List Char → Option (Nat × List Char)
  | a :: b :: c :: d :: cs => do
    let a ← hexValue? a
    let b ← hexValue? b
    let c ← hexValue? c
    let d ← hexValue? d
    some (((a * 16 + b) * 16 + c) * 16 + d, cs)
  | _ => none

/-- The code unit starts a pair that stands for one character. -/
def isHighSurrogate (unit : Nat) : Bool :=
  0xD800 ≤ unit && unit < 0xDC00

/-- The code unit ends a pair that stands for one character. -/
def isLowSurrogate (unit : Nat) : Bool :=
  0xDC00 ≤ unit && unit < 0xE000

/-- The character that a pair of code units stands for. -/
def ofSurrogates (high low : Nat) : Char :=
  Char.ofNat (0x10000 + (high - 0xD800) * 0x400 + (low - 0xDC00))

/-- The character that the code units after a backslash and a `u` stand for. A unit that is half
of a pair has to stand in one. -/
def takeUnits (cs : List Char) : Option (Char × List Char) :=
  match takeUnit cs with
  | none => none
  | some (unit, rest) =>
    if isHighSurrogate unit then
      match rest with
      | '\\' :: 'u' :: more =>
        match takeUnit more with
        | some (low, rest) =>
          if isLowSurrogate low then some (ofSurrogates unit low, rest) else none
        | none => none
      | _ => none
    else if isLowSurrogate unit then none
    else some (Char.ofNat unit, rest)

/-- The character that a backslash and the given one stand for. -/
def shortEscape? : Char → Option Char
  | '"' => some '"'
  | '\\' => some '\\'
  | '/' => some '/'
  | 'b' => some '\x08'
  | 'f' => some '\x0c'
  | 'n' => some '\n'
  | 'r' => some '\r'
  | 't' => some '\t'
  | _ => none

/-- The character that the text after a backslash starts with. -/
def takeEscape : List Char → Option (Char × List Char)
  | [] => none
  | 'u' :: cs => takeUnits cs
  | c :: cs => (shortEscape? c).map (·, cs)

/-- Four digits of a code unit are taken, or none. -/
theorem takeUnit_length {cs rest : List Char} {unit : Nat} (h : takeUnit cs = some (unit, rest)) :
    rest.length < cs.length := by
  unfold takeUnit at h
  split at h
  · simp only [Option.bind_eq_bind, Option.bind_eq_some_iff, Option.some.injEq, Prod.mk.injEq] at h
    obtain ⟨_, _, _, _, _, _, _, _, _, rfl⟩ := h
    simp
    omega
  · simp at h

/-- A character is taken as one code unit or as a pair of surrogates. -/
theorem takeUnits_length {cs rest : List Char} {c : Char} (h : takeUnits cs = some (c, rest)) :
    rest.length < cs.length := by
  unfold takeUnits at h
  split at h
  · simp at h
  · rename_i unit after hunit
    have hlen := takeUnit_length hunit
    split at h
    · split at h
      · rename_i more
        split at h
        · rename_i low last hlow
          have hlast := takeUnit_length hlow
          split at h <;> simp at h
          obtain ⟨_, rfl⟩ := h
          simp at hlen
          omega
        · simp at h
      · simp at h
    · split at h <;> simp at h
      obtain ⟨_, rfl⟩ := h
      exact hlen

/-- An escape takes at least the character that names it. -/
theorem takeEscape_length {cs rest : List Char} {c : Char} (h : takeEscape cs = some (c, rest)) :
    rest.length < cs.length := by
  unfold takeEscape at h
  split at h
  · simp at h
  · exact Nat.lt_succ_of_lt (takeUnits_length h)
  · simp only [Option.map_eq_some_iff, Prod.mk.injEq] at h
    obtain ⟨_, _, _, rfl⟩ := h
    simp

/-- The text up to the closing quote, and what follows it. -/
def takeQuoted : List Char → Option (List Char × List Char)
  | [] => none
  | c :: cs =>
    if c = '"' then some ([], cs)
    else if c = '\\' then
      match _h : takeEscape cs with
      | none => none
      | some (escaped, rest) => (takeQuoted rest).map fun parts => (escaped :: parts.1, parts.2)
    else if c.toNat < 0x20 then none
    else (takeQuoted cs).map fun parts => (c :: parts.1, parts.2)
termination_by cs => cs.length
decreasing_by
  · exact Nat.lt_succ_of_lt (takeEscape_length ‹_›)
  · simp

/-- The closing quote is taken with the text, so that reading goes on in less. -/
theorem takeQuoted_length {cs rest text : List Char} (h : takeQuoted cs = some (text, rest)) :
    rest.length < cs.length := by
  fun_induction takeQuoted cs generalizing text rest with
  | case1 => simp at h
  | case2 => simp at h; simp [h.2]
  | case3 => simp at h
  | case4 cs escaped after hescape _ ih =>
    simp only [Option.map_eq_some_iff, Prod.mk.injEq] at h
    obtain ⟨parts, hparts, _, rfl⟩ := h
    have hafter := takeEscape_length hescape
    have hrest := ih hparts
    simp
    omega
  | case5 => simp at h
  | case6 c cs _ _ _ ih =>
    simp only [Option.map_eq_some_iff, Prod.mk.injEq] at h
    obtain ⟨parts, hparts, _, rfl⟩ := h
    exact Nat.lt_succ_of_lt (ih hparts)

end Scaffold.Json
