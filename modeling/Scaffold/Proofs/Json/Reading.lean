import Scaffold.Json.Reader
import Scaffold.Proofs.Json.Quoted
import Scaffold.Proofs.Number.Decimal

/-!
# What a text denotes

A text *denotes* a value if a reader that expects a value takes the text as this value, whatever
else is open around it and whatever follows, as long as the text ends where a token may end
(`Denotes`). The lemmas go through a text from left to right: white space is skipped
(`readRest_space`), a mark or quoted text is one token (`readRest_mark`, `readRest_quote`), and so
is a number or a name. `Denotes.read` says that a text that denotes a value is read as this value.
-/

namespace Scaffold.Json

/-- No token goes on here: nothing follows, or white space, or a mark. -/
def IsEnd (cs : List Char) : Prop :=
  ∀ c ∈ cs.head?, isSpace c = true ∨ (mark? c).isSome = true

/-- The value that a reader comes to with the tokens of a text. -/
def Reader.readRest (reader : Reader) (cs : List Char) : Option Raw := do
  let tokens ← tokens? cs
  let reader ← tokens.foldlM Reader.step reader
  reader.result?

/-- The text is the value, in any place with room for `depth` more arrays and objects. -/
def Denotes (depth : Nat) (cs : List Char) (value : Raw) : Prop :=
  ∀ frames rest, frames.length + depth ≤ maxDepth → IsEnd rest →
    Reader.readRest ⟨frames, .value⟩ (cs ++ rest)
      = (Reader.deliver value frames).bind fun reader => reader.readRest rest

/-! ## From left to right -/

namespace Reader

/-- Space between tokens is passed over. -/
theorem readRest_space {c : Char} (h : isSpace c = true) (reader : Reader) (cs : List Char) :
    reader.readRest (c :: cs) = reader.readRest cs := by
  unfold readRest
  rw [tokens?, if_pos h]

theorem readRest_spaces (count : Nat) (reader : Reader) (cs : List Char) :
    reader.readRest (List.replicate count ' ' ++ cs) = reader.readRest cs := by
  induction count with
  | zero => rfl
  | succ count ih => exact (readRest_space rfl reader _).trans ih

/-- The token in front is taken first. -/
theorem readRest_token {c : Char} {cs rest : List Char} {token : Token}
    (hspace : isSpace c = false) (h : takeToken c cs = some (token, rest)) (reader : Reader) :
    reader.readRest (c :: cs) = (reader.step token).bind fun reader => reader.readRest rest := by
  have htokens : tokens? (c :: cs) = (tokens? rest).map (token :: ·) := by
    rw [tokens?, if_neg (by simp [hspace])]
    split
    next hnone =>
      rw [h] at hnone
      cases hnone
    next taken after hsome =>
      rw [h] at hsome
      obtain ⟨rfl, rfl⟩ := Prod.mk.inj (Option.some.inj hsome)
      rfl
  unfold readRest
  rw [htokens]
  -- if the rest has no tokens, neither side reads anything
  cases tokens? rest with
  | none => cases reader.step token <;> rfl
  | some tokens =>
    show ((token :: tokens).foldlM step reader).bind result? = _
    rw [List.foldlM_cons]
    cases reader.step token <;> rfl

/-- A mark is a token by itself. -/
theorem readRest_mark {c : Char} {token : Token} (h : mark? c = some token) (reader : Reader)
    (cs : List Char) :
    reader.readRest (c :: cs) = (reader.step token).bind fun reader => reader.readRest cs := by
  have hspace : isSpace c = false := by
    unfold mark? at h
    split at h <;> first | rfl | cases h
  refine readRest_token hspace ?_ reader
  unfold takeToken
  rw [h]

/-- A quoted text is read as one token, whatever stands behind it. -/
theorem readRest_quote (text cs : List Char) (reader : Reader) :
    reader.readRest (quote text ++ cs)
      = (reader.step (.text text)).bind fun reader => reader.readRest cs := by
  have hcs : quote text ++ cs = '"' :: (text.flatMap escapeChar ++ '"' :: cs) := by
    simp [quote]
  rw [hcs]
  refine readRest_token rfl ?_ reader
  show (takeQuoted (text.flatMap escapeChar ++ '"' :: cs)).map _ = _
  rw [takeQuoted_quote]
  rfl

/-- What starts with neither space, mark nor quotation mark is a number or a name. -/
theorem readRest_scalar {c : Char} {cs rest : List Char} {value : Raw}
    (hspace : isSpace c = false) (hmark : mark? c = none) (hquote : c ≠ '"')
    (h : takeScalar (c :: cs) = some (value, rest)) (reader : Reader) :
    reader.readRest (c :: cs)
      = (reader.step (.scalar value)).bind fun reader => reader.readRest rest := by
  refine readRest_token hspace ?_ reader
  unfold takeToken
  rw [hmark, h]
  exact if_neg hquote

end Reader

/-! ## Values that are not built from others -/

/-- A quoted text denotes the text. -/
theorem denotes_quote (depth : Nat) (text : List Char) :
    Denotes depth (quote text) (.text (String.ofList text)) :=
  fun frames rest _ _ => Reader.readRest_quote text rest ⟨frames, .value⟩

theorem denotes_null (depth : Nat) : Denotes depth "null".toList .null :=
  fun frames _ _ _ => Reader.readRest_scalar rfl rfl (by decide) rfl ⟨frames, .value⟩

theorem denotes_true (depth : Nat) : Denotes depth "true".toList (.bool true) :=
  fun frames _ _ _ => Reader.readRest_scalar rfl rfl (by decide) rfl ⟨frames, .value⟩

theorem denotes_false (depth : Nat) : Denotes depth "false".toList (.bool false) :=
  fun frames _ _ _ => Reader.readRest_scalar rfl rfl (by decide) rfl ⟨frames, .value⟩

/-- A number does not go on where a token may end. -/
theorem IsEnd.not_number {cs : List Char} (h : IsEnd cs) {c : Char} (hc : c ∈ cs.head?) :
    Number.isDigit c = false ∧ c ≠ '.' ∧ c ≠ 'e' ∧ c ≠ 'E' := by
  rcases h c hc with hspace | hmark
  · have hlist : c = ' ' ∨ c = '\n' ∨ c = '\r' ∨ c = '\t' := by
      simpa [isSpace, or_assoc] using hspace
    rcases hlist with rfl | rfl | rfl | rfl <;> decide
  · unfold mark? at hmark
    split at hmark <;> first | decide | cases hmark

/-- No name starts with a digit. -/
theorem takeName_digit {c : Char} (h : Number.isDigit c = true) (cs : List Char) :
    takeName (c :: cs) = none := by
  -- no name starts with a digit, which is seen name by name
  have hnames : ∀ entry ∈ names, (entry.1.head?.any fun d => !Number.isDigit d) = true := by decide
  unfold takeName
  rw [List.find?_eq_none.mpr, Option.map_none]
  intro entry hentry hprefix
  have hfirst := hnames entry hentry
  cases hname : entry.1 with
  | nil =>
    rw [hname] at hfirst
    cases hfirst
  | cons d ds =>
    rw [hname] at hfirst hprefix
    have heq : d = c := (List.cons_prefix_cons.mp (List.isPrefixOf_iff_prefix.mp hprefix)).1
    subst heq
    simp [h] at hfirst

/-- The digits of a number are read as this number, if they are not too many. -/
theorem takeNumber_toDigits {n : Nat} (hpos : 0 < n)
    (hlength : (Nat.toDigits 10 n).length ≤ Number.maxDigits) {rest : List Char} (h : IsEnd rest) :
    takeNumber false (Nat.toDigits 10 n ++ rest) = some (.integer n, rest) := by
  -- what may follow a number neither starts a fraction nor an exponent
  have hfraction : takeFraction rest = some (none, rest) := by
    unfold takeFraction
    split
    next cs => exact absurd rfl (h.not_number rfl).2.1
    next => rfl
  have hexponent : takeExponent rest = some (none, rest) := by
    cases rest with
    | nil => rfl
    | cons c cs =>
      obtain ⟨-, -, hlower, hupper⟩ := h.not_number rfl
      rw [takeExponent, if_neg (by simp [hlower, hupper])]
  have hvalue : numberOf false (Nat.toDigits 10 n) none none = .integer n := by
    rw [numberOf, Number.digitsValue_toDigits]
    rfl
  unfold takeNumber
  rw [Number.takeWhole_toDigits hpos fun c hc => (h.not_number hc).1]
  simp only [Option.bind_eq_bind, Option.bind_some, guard, hlength, if_true, hfraction, hexponent,
    hvalue]
  rfl

/-- **Digits denote their number**, if they are not too many. -/
theorem denotes_toDigits (depth : Nat) {n : Nat} (hpos : 0 < n)
    (hlength : (Nat.toDigits 10 n).length ≤ Number.maxDigits) :
    Denotes depth (Nat.toDigits 10 n) (.integer n) := by
  intro frames rest _ hrest
  have hnumber := takeNumber_toDigits hpos hlength hrest
  obtain ⟨c, cs, hcons⟩ := List.exists_cons_of_ne_nil (@Nat.toDigits_ne_nil n 10)
  have hc : Number.isDigit c = true :=
    Number.isDigit_of_mem_toDigits (hcons ▸ List.mem_cons_self : c ∈ Nat.toDigits 10 n)
  rw [hcons] at hnumber ⊢
  -- a digit starts none of the other tokens
  have hmark : mark? c = none := by
    unfold mark?
    split <;> first | rfl | exact absurd hc (by decide)
  have hspace : isSpace c = false := by
    rw [Bool.eq_false_iff]
    intro hspace
    have hend : IsEnd (c :: cs) := fun d hd => .inl (Option.mem_some.mp hd ▸ hspace)
    rw [(hend.not_number rfl).1] at hc
    cases hc
  have hquote : c ≠ '"' := fun heq => absurd hc (by rw [heq]; decide)
  have hminus : c ≠ '-' := fun heq => absurd hc (by rw [heq]; decide)
  have hscalar : takeScalar (c :: (cs ++ rest)) = some (.integer n, rest) := by
    unfold takeScalar
    rw [takeName_digit hc]
    split
    next hsome => cases hsome
    next =>
      split
      next ds heq => exact absurd (List.cons.inj heq).1 hminus
      next => exact hnumber
  exact Reader.readRest_scalar hspace hmark hquote hscalar ⟨frames, .value⟩

/-! ## Whole texts -/

/-- **A text that denotes a value is read as this value.** -/
theorem Denotes.read {depth : Nat} {cs : List Char} {value : Raw} (h : Denotes depth cs value)
    (hdepth : depth ≤ maxDepth) : read cs = some value := by
  have hwhole := h [] [] (by simpa using hdepth) (by simp [IsEnd])
  rw [List.append_nil] at hwhole
  show Reader.readRest Reader.start cs = some value
  rw [Reader.start, hwhole]
  show Reader.readRest ⟨[], .nothing value⟩ [] = some value
  unfold Reader.readRest
  rw [tokens?]
  rfl

end Scaffold.Json
