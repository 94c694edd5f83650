import Mathlib.Tactic.IntervalCases
import Scaffold.Number.PlainInteger
import Scaffold.Proofs.Text.Reveal

/-!
# Decimal digits, written and read

A natural number is written with the library's `Nat.toDigits`. Reading the digits gives the number
back (`digitsValue_toDigits`), and they are where a plain number ends (`takeWhole_toDigits`): only
zero is written with a leading zero, and no digit follows. So the text of an integer tells which one
it is (`toString_injective`). The reader that takes the digits of all scripts, with a sign and
padding, reads the digits of a number as the same number (`read_toDigits`).
-/

namespace Scaffold.Number

theorem isDigit_eq (c : Char) : isDigit c = c.isDigit := by
  unfold isDigit Char.isDigit
  rfl

theorem isDigit_of_mem_toDigits {n : Nat} {c : Char} (h : c ∈ Nat.toDigits 10 n) :
    isDigit c = true := by
  rw [isDigit_eq]
  exact Nat.isDigit_of_mem_toDigits (by decide) (by decide) h

/-- Only zero is written with a leading zero. Induction on the number without its last digit. -/
theorem head?_toDigits_ne {n : Nat} (h : 0 < n) : (Nat.toDigits 10 n).head? ≠ some '0' := by
  induction n using Nat.strongRecOn with
  | ind n ih =>
    by_cases hsmall : n < 10
    · rw [Nat.toDigits_of_lt_base hsmall]
      interval_cases n <;> decide
    · have hrest : 0 < n / 10 := by omega
      obtain ⟨c, cs, hdigits⟩ := List.exists_cons_of_ne_nil (@Nat.toDigits_ne_nil (n / 10) 10)
      have hhead := ih (n / 10) (by omega) hrest
      rw [Nat.toDigits_of_base_le (by decide) (by omega), hdigits]
      rw [hdigits] at hhead
      exact hhead

theorem asciiDigit?_of_isDigit {c : Char} (h : isDigit c = true) :
    asciiDigit? c = some (c.toNat - '0'.toNat) :=
  if_pos (by simpa [isDigit] using h)

/-- The value of a run of digits is the number that they write in base ten. -/
theorem digitsValue_of_isDigit {cs : List Char} (h : ∀ c ∈ cs, isDigit c = true) :
    digitsValue cs = ofDigits (cs.map fun c => c.toNat - '0'.toNat) := by
  unfold digitsValue
  rw [List.filterMap_eq_map_iff_forall_eq_some.mpr fun c hc => asciiDigit?_of_isDigit (h c hc)]

/-- **Reading the digits of a number gives the number back.** -/
theorem digitsValue_toDigits (n : Nat) : digitsValue (Nat.toDigits 10 n) = n := by
  rw [digitsValue_of_isDigit fun c hc => isDigit_of_mem_toDigits hc]
  unfold ofDigits
  rw [List.foldl_map]
  exact Nat.ofDigitChars_toDigits (by decide) (by decide)

/-- **The digits of a number end where no other digit follows.** -/
theorem takeWhole_toDigits {n : Nat} (h : 0 < n) {rest : List Char}
    (hrest : ∀ c ∈ rest.head?, isDigit c = false) :
    takeWhole (Nat.toDigits 10 n ++ rest) = some (Nat.toDigits 10 n, rest) := by
  have hdigits : ∀ c ∈ Nat.toDigits 10 n, isDigit c = true := fun c hc => isDigit_of_mem_toDigits hc
  have hzero := head?_toDigits_ne h
  obtain ⟨c, cs, hcons⟩ := List.exists_cons_of_ne_nil (@Nat.toDigits_ne_nil n 10)
  rw [hcons] at hdigits hzero ⊢
  have hcs : ∀ d ∈ cs, isDigit d = true := fun d hd => hdigits d (List.mem_cons_of_mem c hd)
  obtain ⟨htake, hdrop⟩ := Text.span_append_of_stop hcs hrest
  rw [List.cons_append, takeWhole, if_neg (by simpa using hzero),
    if_pos (hdigits c List.mem_cons_self), htake, hdrop]

/-! ## Digits among those of all scripts -/

theorem toNat_of_isDigit {c : Char} (h : isDigit c = true) : 0x30 ≤ c.toNat ∧ c.toNat ≤ 0x39 := by
  have hrange : '0' ≤ c ∧ c ≤ '9' := by simpa [isDigit] using h
  exact ⟨hrange.1, hrange.2⟩

theorem isBlank_of_isDigit {c : Char} (h : isDigit c = true) : Text.isBlank c = false := by
  have hrange := toNat_of_isDigit h
  simp [Text.isBlank, Text.blankRanges]
  omega

/-- The digits `0` to `9` are those of the first script. -/
theorem digitValue?_of_isDigit {c : Char} (h : isDigit c = true) :
    digitValue? c = some (c.toNat - '0'.toNat) := by
  have hfirst : digitZeros.find? (fun first => first ≤ c.toNat && c.toNat ≤ first + 9)
      = some 0x30 :=
    List.find?_cons_of_pos (by simpa using toNat_of_isDigit h)
  unfold digitValue?
  rw [hfirst]
  rfl

/-- No digit is an underscore, so nothing between the digits is dropped. -/
theorem takeDigits_of_isDigit {cs : List Char} (h : ∀ c ∈ cs, isDigit c = true) :
    takeDigits cs = (cs.map fun c => c.toNat - '0'.toNat, []) := by
  induction cs with
  | nil => rw [takeDigits, List.map_nil]
  | cons c cs ih =>
    have hcs : ∀ d ∈ cs, isDigit d = true := fun d hd => h d (List.mem_cons_of_mem c hd)
    have hjoint : dropJoint cs = cs := by
      unfold dropJoint
      split
      next => exact absurd (hcs '_' List.mem_cons_self) (by decide)
      next => rfl
    rw [takeDigits, digitValue?_of_isDigit (h c List.mem_cons_self)]
    simp only [hjoint, ih hcs, List.map_cons]

/-- Digits have neither padding nor a sign in front. -/
theorem takeSign_dropWhile_of_isDigit {cs : List Char} (h : ∀ c ∈ cs, isDigit c = true) :
    takeSign (cs.dropWhile Text.isNumberPadding) = (false, cs) := by
  cases cs with
  | nil => rfl
  | cons c cs =>
    have hc : isDigit c = true := h c List.mem_cons_self
    have hpadding : ¬ Text.isNumberPadding c = true := by
      simp [Text.isNumberPadding, isBlank_of_isDigit hc]
    rw [List.dropWhile_cons_of_neg hpadding]
    -- a digit is neither of the signs, so only the last branch is left
    unfold takeSign
    split
    next heq =>
      obtain ⟨rfl, -⟩ := List.cons.inj heq
      exact absurd hc (by decide)
    next heq =>
      obtain ⟨rfl, -⟩ := List.cons.inj heq
      exact absurd hc (by decide)
    next => rfl

/-- **The digits of a number are read as the number**, if they are not too many. -/
theorem read_toDigits {n : Nat} (h : (Nat.toDigits 10 n).length ≤ maxDigits) :
    read (Nat.toDigits 10 n) = .ok n := by
  have hdigits : ∀ c ∈ Nat.toDigits 10 n, isDigit c = true := fun c hc => isDigit_of_mem_toDigits hc
  have hlength : 0 < (Nat.toDigits 10 n).length := List.length_pos_of_ne_nil Nat.toDigits_ne_nil
  unfold read ofSignedDigits
  rw [takeSign_dropWhile_of_isDigit hdigits]
  simp only [takeDigits_of_isDigit hdigits, List.length_map]
  rw [if_neg (by simp), if_neg (by omega), if_neg (by omega), ← digitsValue_of_isDigit hdigits,
    digitsValue_toDigits]
  rfl

/-! ## Integers as text -/

/-- No two natural numbers are written alike. -/
theorem repr_injective : Function.Injective Nat.repr := by
  intro first second h
  have hdigits : Nat.toDigits 10 first = Nat.toDigits 10 second := by
    rw [← Nat.toList_repr, ← Nat.toList_repr, h]
  rw [← digitsValue_toDigits first, hdigits, digitsValue_toDigits]

theorem isDigit_of_mem_repr {n : Nat} {c : Char} (h : c ∈ n.repr.toList) : isDigit c = true := by
  rw [Nat.toList_repr] at h
  exact isDigit_of_mem_toDigits h

/-- The text of an integer holds nothing but digits and a minus. -/
theorem not_mem_toString {c : Char} (hdigit : isDigit c = false) (hminus : c ≠ '-') (value : Int) :
    c ∉ (toString value).toList := by
  have hrepr (n : Nat) : c ∉ n.repr.toList := by
    intro hmem
    rw [isDigit_of_mem_repr hmem] at hdigit
    cases hdigit
  rw [Int.toString_eq_repr, Int.repr_eq_if]
  split
  next => exact hrepr _
  next =>
    rw [String.toList_append, List.mem_append, not_or]
    exact ⟨by simpa using hminus, hrepr _⟩

/-- **Two integers never have the same text.** -/
theorem toString_injective : Function.Injective (toString : Int → String) := by
  -- the sign tells the negative numbers from the others
  have hminus (n m : Nat) : n.repr ≠ "-" ++ m.repr := by
    intro heq
    have hmem : '-' ∈ n.repr.toList := by simp [heq]
    exact absurd (isDigit_of_mem_repr hmem) (by decide)
  intro first second h
  rw [Int.toString_eq_repr, Int.toString_eq_repr, Int.repr_eq_if, Int.repr_eq_if] at h
  split at h <;> split at h
  next =>
    have hnat := repr_injective h
    omega
  next => exact absurd h (hminus _ _)
  next => exact absurd h.symm (hminus _ _)
  next =>
    have hnat := repr_injective ((String.append_right_inj _).mp h)
    omega

end Scaffold.Number
