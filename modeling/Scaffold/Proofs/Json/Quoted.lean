import Scaffold.Json.Quoted

/-!
# Quoted text, written and read

`takeQuoted` undoes `quote`, whatever the text and whatever follows it. The argument is about one
character: what `escapeChar` writes for it is read as that character, in each of the four ways in
which it may be written.
-/

namespace Scaffold.Json

theorem hexValue?_hexDigit {value : Nat} (h : value < 16) :
    hexValue? (hexDigit value) = some value := by
  have hall : ∀ value < 16, hexValue? (hexDigit value) = some value := by decide
  exact hall value h

/-- Four digits, of which the first two are zeros, stand for a control character. -/
theorem takeUnits_control {c : Char} (h : c.toNat < 0x20) (rest : List Char) :
    takeUnits ('0' :: '0' :: hexDigit (c.toNat / 16) :: hexDigit (c.toNat % 16) :: rest)
      = some (c, rest) := by
  have hunit : takeUnit ('0' :: '0' :: hexDigit (c.toNat / 16) :: hexDigit (c.toNat % 16) :: rest)
      = some (c.toNat, rest) := by
    have hvalue : ((0 * 16 + 0) * 16 + c.toNat / 16) * 16 + c.toNat % 16 = c.toNat := by omega
    have hzero : hexValue? '0' = some 0 := by decide
    rw [takeUnit, hzero, hexValue?_hexDigit (by omega), hexValue?_hexDigit (by omega)]
    show some (((0 * 16 + 0) * 16 + c.toNat / 16) * 16 + c.toNat % 16, rest) = _
    rw [hvalue]
  -- a control character is below all surrogates, so one unit is all it takes
  have hhigh : isHighSurrogate c.toNat = false := by
    simp only [isHighSurrogate, Bool.and_eq_false_iff, decide_eq_false_iff_not]
    omega
  have hlow : isLowSurrogate c.toNat = false := by
    simp only [isLowSurrogate, Bool.and_eq_false_iff, decide_eq_false_iff_not]
    omega
  rw [takeUnits, hunit]
  simp only [hhigh, hlow, Char.ofNat_toNat, Bool.false_eq_true, if_false]

/-- What follows a backslash stands for a character, which the text starts with. -/
theorem takeQuoted_escape {cs rest : List Char} {c : Char} (h : takeEscape cs = some (c, rest)) :
    takeQuoted ('\\' :: cs) = (takeQuoted rest).map fun parts => (c :: parts.1, parts.2) := by
  rw [takeQuoted, if_neg (by decide), if_pos rfl]
  split
  next hnone =>
    rw [h] at hnone
    cases hnone
  next escaped after hsome =>
    rw [h] at hsome
    obtain ⟨rfl, rfl⟩ := Prod.mk.inj (Option.some.inj hsome)
    rfl

/-- **What is written for a character is read as that character.** -/
theorem takeQuoted_escapeChar (c : Char) (rest : List Char) :
    takeQuoted (escapeChar c ++ rest)
      = (takeQuoted rest).map fun parts => (c :: parts.1, parts.2) := by
  unfold escapeChar
  split
  next h => rw [h]; exact takeQuoted_escape rfl
  next hquote =>
  split
  next h => rw [h]; exact takeQuoted_escape rfl
  next hbackslash =>
  split
  next h => rw [h]; exact takeQuoted_escape rfl
  next =>
  split
  next h => rw [h]; exact takeQuoted_escape rfl
  next =>
  split
  next h => rw [h]; exact takeQuoted_escape rfl
  next =>
  split
  next h => rw [h]; exact takeQuoted_escape rfl
  next =>
  split
  next h => rw [h]; exact takeQuoted_escape rfl
  next =>
  split
  next hcontrol => exact takeQuoted_escape (takeUnits_control hcontrol rest)
  next hcontrol =>
    -- everything else stands for itself
    rw [List.singleton_append, takeQuoted, if_neg hquote, if_neg hbackslash, if_neg hcontrol]

/-- **Quoted text is read back**, whatever follows it. Induction along the text. -/
theorem takeQuoted_quote (cs rest : List Char) :
    takeQuoted (cs.flatMap escapeChar ++ '"' :: rest) = some (cs, rest) := by
  induction cs with
  | nil => rw [List.flatMap_nil, List.nil_append, takeQuoted, if_pos rfl]
  | cons c cs ih =>
    rw [List.flatMap_cons, List.append_assoc, takeQuoted_escapeChar, ih]
    rfl

end Scaffold.Json
