import Scaffold.Proofs.Layout.Composition
import Scaffold.Proofs.Layout.NormalForm

/-!
# Depth

Indentation reads depths off lines, and takes a closing brace too many for none. The depth that a
source asks for is that of its braces, which are tokens. The two agree where no brace closes what
has not been opened:

* **`depth?`**: the depth behind tokens, if every brace that closes has one to close.
* **`depth_of_line`**: one line, read by its tokens.
* **`indentFrom_succ`**: so lines whose braces match are indented inside a block as they are
  outside of it, each a level deeper.
-/

namespace Scaffold.Layout

/-! ## Depths by tokens -/

/-- The depth behind a token, unless that closes what has not been opened. -/
def Token.depth? (depth : Nat) : Token → Option Nat
  | .opening => some (depth + 1)
  | .closing => if depth = 0 then none else some (depth - 1)
  | _ => some depth

/-- The depth behind tokens. -/
def depth? (depth : Nat) (tokens : List Token) : Option Nat :=
  tokens.foldlM Token.depth? depth

/-- Outside of literals and comments, every brace of the source has its counterpart in it. -/
def IsSelfContained (source : String) : Prop :=
  depth? 0 (tokens source.toList) = some 0
deriving Decidable

theorem depth?_nil (depth : Nat) : depth? depth [] = some depth := rfl

theorem depth?_opening (depth : Nat) (rest : List Token) :
    depth? depth (.opening :: rest) = depth? (depth + 1) rest := rfl

/-- The depth behind two runs of tokens is that behind the second, from where the first has led. -/
theorem depth?_append (depth : Nat) (first second : List Token) :
    depth? depth (first ++ second)
      = (depth? depth first).bind fun between => depth? between second :=
  List.foldlM_append

/-- A closing brace leads one level up, and there must be one to leave. -/
theorem depth?_closing {depth after : Nat} {rest : List Token}
    (h : depth? depth (.closing :: rest) = some after) :
    0 < depth ∧ depth? (depth - 1) rest = some after := by
  unfold depth? at h ⊢
  rw [List.foldlM_cons, Token.depth?] at h
  split at h
  next => exact absurd h (by simp)
  next hdepth => exact ⟨Nat.pos_of_ne_zero hdepth, h⟩

/-- Tokens without braces leave the depth as it is. -/
theorem depth?_of_not_isBrace {toks : List Token} (h : ∀ token ∈ toks, token.isBrace = false)
    (depth : Nat) : depth? depth toks = some depth := by
  induction toks with
  | nil => rfl
  | cons token rest ih =>
    have hstep : token.depth? depth = some depth := by
      cases htoken : token with
      | opening | closing =>
        exact absurd (h token List.mem_cons_self) (by simp [htoken, Token.isBrace])
      | literal | comment | word => rfl
    have hrest := ih fun other hother => h other (List.mem_cons_of_mem token hother)
    show (token.depth? depth).bind (fun between => depth? between rest) = some depth
    rw [hstep, Option.bind_some, hrest]

/-! ## Depths by lines -/

/-- A line whose first token is no brace starts with no brace. -/
theorem head?_ne_of_lex {line : Line} {token : Token} {rest : List Lexeme}
    (hlex : lex line = ⟨false, token⟩ :: rest) (htoken : token.isBrace = false) :
    line.head? ≠ some openBrace ∧ line.head? ≠ some closeBrace := by
  constructor
  · intro hopening
    obtain ⟨cs, rfl⟩ := List.head?_eq_some_iff.mp hopening
    rw [lex, lexFrom_opening] at hlex
    rw [← token_eq_of_cons_eq hlex] at htoken
    exact absurd htoken (by decide)
  · intro hclosing
    obtain ⟨cs, rfl⟩ := List.head?_eq_some_iff.mp hclosing
    rw [lex, lexFrom_closing] at hlex
    rw [← token_eq_of_cons_eq hlex] at htoken
    exact absurd htoken (by decide)

/-- A line of laid-out source is blank, a brace that opens, a brace that closes with what is
attached to it, or a text without braces. -/
theorem tokens_cases {line : Line} (h : IsSettled line) :
    line = [] ∨ line = [openBrace]
      ∨ (∃ cs rest, line = closeBrace :: cs ∧ tokensOf (lex line) = .closing :: rest
          ∧ ∀ token ∈ rest, token.isBrace = false)
      ∨ (line ≠ [openBrace] ∧ line.head? ≠ some closeBrace
          ∧ ∀ token ∈ tokensOf (lex line), token.isBrace = false) := by
  by_cases hnil : line = []
  · exact Or.inl hnil
  obtain ⟨hspell, hgroup⟩ := ((segments_eq_singleton_iff hnil).mp h.segments_eq).isGroup_lex hnil
  -- a settled line is one group of tokens, and what its first token is decides the case
  rcases hgroup with hopening | ⟨hne, hopen⟩
  · rw [hopening] at hspell
    exact Or.inr (Or.inl hspell.symm)
  obtain ⟨⟨spaced, token⟩, rest, hlex⟩ := List.exists_cons_of_ne_nil hne
  have htokens : tokensOf (lex line) = token :: tokensOf rest := by rw [hlex, tokensOf_cons]
  rw [hlex] at hspell hopen
  obtain rfl : spaced = false := hopen.spaced_head _ rfl
  have hrest : ∀ other ∈ tokensOf rest, other.isBrace = false := by
    intro other hother
    obtain ⟨lexeme, hmem, rfl⟩ := List.mem_map.mp hother
    exact hopen.isBrace_tail lexeme hmem
  cases htoken : token.isBrace with
  | true =>
    obtain rfl : token = .closing := by
      cases token with
      | opening => exact absurd rfl (hopen.head_ne _ rfl)
      | closing => rfl
      | literal | comment | word => exact absurd htoken (by simp [Token.isBrace])
    exact Or.inr (Or.inr (Or.inl ⟨spell rest, tokensOf rest, hspell.symm, htokens, hrest⟩))
  | false =>
    obtain ⟨hopening, hclosing⟩ := head?_ne_of_lex hlex htoken
    refine Or.inr (Or.inr (Or.inr ⟨?_, hclosing, ?_⟩))
    · rintro rfl
      exact hopening rfl
    · rw [htokens]
      exact List.forall_mem_cons.mpr ⟨htoken, hrest⟩

/-- **A line changes the depth as its tokens do**, at any level of nesting. -/
theorem depth_of_line {line : Line} (hline : IsSettled line) {depth after : Nat}
    (h : depth? depth (tokensOf (lex line)) = some after) :
    depthAfter depth line = after ∧ depthAfter (depth + 1) line = after + 1
      ∧ depthAt (depth + 1) line = depthAt depth line + 1 := by
  -- of a blank line, an opening brace, a line that starts with a closing one, and any other
  rcases tokens_cases hline with rfl | rfl | ⟨cs, rest, rfl, htokens, hrest⟩ | ⟨hopen, hclose, hrest⟩
  · rw [tokensOf_lex_nil, depth?_nil, Option.some.injEq] at h
    subst h
    exact ⟨rfl, rfl, rfl⟩
  · have htokens : tokensOf (lex [openBrace]) = [.opening] := by
      rw [lex, lexFrom_opening, lexFrom_nil]
      rfl
    rw [htokens, depth?_opening, depth?_nil, Option.some.injEq] at h
    subst h
    exact ⟨rfl, rfl, rfl⟩
  · rw [htokens] at h
    obtain ⟨hpos, hafter⟩ := depth?_closing h
    rw [depth?_of_not_isBrace hrest, Option.some.injEq] at hafter
    rw [depthAfter_closing, depthAfter_closing, depthAt_closing, depthAt_closing]
    omega
  · rw [depth?_of_not_isBrace hrest, Option.some.injEq] at h
    subst h
    rw [depthAfter_other hopen hclose, depthAfter_other hopen hclose, depthAt_other hclose,
      depthAt_other hclose]
    exact ⟨rfl, rfl, rfl⟩

/-- One level deeper a line stands one unit further in. -/
theorem indentLine_succ (unit : List Char) (depth : Nat) (line : Line) :
    indentLine unit (depth + 1) line = indentLine unit 1 (indentLine unit depth line) := by
  by_cases hline : line = []
  · rw [hline]
    rfl
  · have hdeep : (List.replicate depth unit).flatten ++ line ≠ [] := by simp [hline]
    simp [indentLine, hline, hdeep, List.replicate_succ]

/-- **Lines whose braces match are indented inside a block as they are outside of it**, each a level
deeper. Induction along the lines; the depth stays that of the tokens. -/
theorem indentFrom_succ (unit : List Char) {lines : List Line}
    (hlines : ∀ line ∈ lines, IsSettled line) {depth after : Nat}
    (h : depth? depth (lines.flatMap fun line => tokensOf (lex line)) = some after) :
    lines.foldl depthAfter depth = after ∧ lines.foldl depthAfter (depth + 1) = after + 1
      ∧ indentFrom unit (depth + 1) lines
        = (indentFrom unit depth lines).map (indentLine unit 1) := by
  induction lines generalizing depth with
  | nil =>
    obtain rfl : depth = after := Option.some.inj h
    exact ⟨rfl, rfl, rfl⟩
  | cons line rest ih =>
    rw [List.flatMap_cons, depth?_append] at h
    -- the depth between the first line and the rest is never below zero, so one more carries over
    obtain ⟨between, hfirst, hrest⟩ := Option.bind_eq_some_iff.mp h
    obtain ⟨hafter, hsucc, hat⟩ := depth_of_line (hlines line List.mem_cons_self) hfirst
    obtain ⟨hfold, hfoldSucc, hindent⟩ :=
      ih (fun other hother => hlines other (List.mem_cons_of_mem line hother)) hrest
    rw [List.foldl_cons, List.foldl_cons, hafter, hsucc, indentFrom, indentFrom, hat, hafter, hsucc,
      List.map_cons, hindent, indentLine_succ]
    exact ⟨hfold, hfoldSucc, rfl⟩

/-! ## Sources whose braces match -/

/-- The first line of a source whose braces match closes no block. -/
theorem IsSelfContained.head?_ne {source : String} (h : IsSelfContained source) {first : Line}
    (hfirst : first ∈ (cutLines source.toList).head?) : first.head? ≠ some closeBrace := by
  intro hclose
  obtain ⟨cs, rfl⟩ := List.head?_eq_some_iff.mp hclose
  obtain ⟨rest, hcut⟩ := List.head?_eq_some_iff.mp hfirst
  have htokens : tokens source.toList
      = .closing :: (tokensOf (lexFrom [] false cs)
          ++ rest.flatMap fun line => tokensOf (lex line)) := by
    rw [← flatMap_tokens_cutLines, hcut, List.flatMap_cons, lex, lexFrom_closing, tokensOf_cons,
      List.cons_append]
  unfold IsSelfContained at h
  rw [htokens] at h
  exact absurd (depth?_closing h).1 (Nat.lt_irrefl 0)

/-- The last line of a source whose braces match opens no block. -/
theorem IsSelfContained.getLast?_ne {source : String} (h : IsSelfContained source) {last : Line}
    (hlast : last ∈ (cutLines source.toList).getLast?) : last ≠ [openBrace] := by
  rintro rfl
  obtain ⟨front, hcut⟩ := List.getLast?_eq_some_iff.mp hlast
  have htokens : tokens source.toList
      = (front.flatMap fun line => tokensOf (lex line)) ++ [.opening] := by
    rw [← flatMap_tokens_cutLines, hcut, List.flatMap_append, List.flatMap_singleton, lex,
      lexFrom_opening, lexFrom_nil]
    rfl
  -- an opening brace at the end would leave a level open
  unfold IsSelfContained at h
  rw [htokens, depth?_append] at h
  obtain ⟨between, -, hopening⟩ := Option.bind_eq_some_iff.mp h
  rw [depth?_opening, depth?_nil, Option.some.injEq] at hopening
  omega

/-- A source whose braces match leaves the depth where it is, at the top and in a block. -/
theorem IsSelfContained.indentFrom_succ {source : String} (h : IsSelfContained source)
    (unit : List Char) :
    (layoutLines source.toList).foldl depthAfter 0 = 0
      ∧ (layoutLines source.toList).foldl depthAfter 1 = 1
      ∧ indentFrom unit 1 (layoutLines source.toList)
          = (indentFrom unit 0 (layoutLines source.toList)).map (indentLine unit 1) := by
  refine Scaffold.Layout.indentFrom_succ unit (fun _ hline => isSettled_of_mem_layoutLines hline) ?_
  rw [flatMap_tokens_layoutLines]
  exact h

end Scaffold.Layout
