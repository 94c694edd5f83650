import Scaffold.Proofs.Layout.NormalText
import Scaffold.Proofs.Number.Decimal
import Scaffold.Render.Container

/-!
# Plain texts

A plain text has nothing that layout looks at but single spaces: it is trimmed, and holds no
braces, no quotes and no comment. What is put together from plain texts stays plain, and layout
leaves it alone as a line:

* **`IsPlain.append`**, **`IsPlain.spaced`**: plain texts side by side, and with a space between,
  are plain.
* **`IsPlain.isNormalText`**, **`IsTail.isNormalText`**: a plain text is a normal text, and so is
  a closing brace with a plain assignment behind it.
-/

namespace Scaffold

open Layout

/-! ## Quiet characters -/

/-- Characters without white space but single spaces, without braces and quotes, and without two
slashes in a row. -/
structure IsQuiet (cs : List Char) : Prop where
  eq_space : ∀ c ∈ cs, Text.isBlank c = true → c = ' '
  no_brace : ∀ c ∈ cs, c ≠ openBrace ∧ c ≠ closeBrace
  no_quote : ∀ c ∈ cs, isQuote c = false
  isChain : cs.IsChain fun first second =>
    (first = ' ' → second ≠ ' ') ∧ (first = '/' → second ≠ '/')

-- Decided by looking at the characters one by one, and two by two: a bounded quantifier over
-- characters must not be taken for one over the finite type of all of them.
instance (cs : List Char) : Decidable (IsQuiet cs) :=
  decidable_of_iff
    (cs.all (fun c => (!Text.isBlank c || c == ' ') && c != openBrace && c != closeBrace
        && !isQuote c) = true
      ∧ cs.IsChain fun first second =>
        (first = ' ' → second ≠ ' ') ∧ (first = '/' → second ≠ '/')) <| by
    simp only [List.all_eq_true, Bool.and_eq_true, Bool.or_eq_true, Bool.not_eq_true',
      bne_iff_ne, beq_iff_eq]
    constructor
    · rintro ⟨hall, hchain⟩
      refine ⟨fun c hc hblank => ?_, fun c hc => ⟨(hall c hc).1.1.2, (hall c hc).1.2⟩,
        fun c hc => (hall c hc).2, hchain⟩
      exact (hall c hc).1.1.1.resolve_left (by simp [hblank])
    · rintro ⟨hspace, hbrace, hquote, hchain⟩
      refine ⟨fun c hc => ⟨⟨⟨?_, (hbrace c hc).1⟩, (hbrace c hc).2⟩, hquote c hc⟩, hchain⟩
      cases hblank : Text.isBlank c with
      | true => exact Or.inr (hspace c hc hblank)
      | false => exact Or.inl rfl

/-- Quiet characters side by side are quiet if no two spaces and no two slashes meet. -/
theorem IsQuiet.append {first second : List Char} (hfirst : IsQuiet first)
    (hsecond : IsQuiet second)
    (hseam : ∀ c ∈ first.getLast?, ∀ d ∈ second.head?,
      (c = ' ' → d ≠ ' ') ∧ (c = '/' → d ≠ '/')) : IsQuiet (first ++ second) where
  eq_space c hc := (List.mem_append.mp hc).elim (hfirst.eq_space c) (hsecond.eq_space c)
  no_brace c hc := (List.mem_append.mp hc).elim (hfirst.no_brace c) (hsecond.no_brace c)
  no_quote c hc := (List.mem_append.mp hc).elim (hfirst.no_quote c) (hsecond.no_quote c)
  isChain := List.isChain_append.mpr ⟨hfirst.isChain, hsecond.isChain, hseam⟩

theorem IsQuiet.isSpaced {cs : List Char} (h : IsQuiet cs) : IsSpaced cs :=
  ⟨h.eq_space, h.isChain.imp fun _ _ h => h.1⟩

theorem IsQuiet.code_eq {cs : List Char} (h : IsQuiet cs) : code cs = cs :=
  codeFrom_eq_self [] h.no_quote (h.isChain.imp fun _ _ h => h.2)

/-! ## Plain texts -/

/-- A text that shows, is trimmed and is quiet. -/
structure IsPlain (text : String) : Prop where
  isBlankText_eq : Text.isBlankText text = false
  head : ∀ c ∈ text.toList.head?, Text.isBlank c = false
  last : ∀ c ∈ text.toList.getLast?, Text.isBlank c = false
  isQuiet : IsQuiet text.toList

instance (text : String) : Decidable (IsPlain text) :=
  decidable_of_iff
    (Text.isBlankText text = false ∧ text.toList.head?.all (!Text.isBlank ·) = true
      ∧ text.toList.getLast?.all (!Text.isBlank ·) = true ∧ IsQuiet text.toList) <| by
    simp only [Option.all_eq_true, Bool.not_eq_true']
    constructor
    · rintro ⟨hblank, hhead, hlast, hquiet⟩
      exact ⟨hblank, hhead, hlast, hquiet⟩
    · rintro ⟨hblank, hhead, hlast, hquiet⟩
      exact ⟨hblank, hhead, hlast, hquiet⟩

theorem IsPlain.exists_cons {text : String} (h : IsPlain text) : ∃ c cs, text.toList = c :: cs := by
  refine List.exists_cons_of_ne_nil fun hnil => ?_
  have := h.isBlankText_eq
  rw [Text.isBlankText, hnil] at this
  exact absurd this (by decide)

theorem IsPlain.ne_empty {text : String} (h : IsPlain text) : text ≠ "" := by
  intro heq
  subst heq
  obtain ⟨c, cs, hnil⟩ := h.exists_cons
  exact absurd hnil (by simp)

/-- A text is plain if plain texts stand at its two ends, and it is quiet. -/
theorem IsPlain.of_append {text first second : String} (hfirst : IsPlain first)
    (hsecond : IsPlain second) (middle : List Char)
    (htext : text.toList = first.toList ++ (middle ++ second.toList))
    (hquiet : IsQuiet text.toList) : IsPlain text := by
  obtain ⟨c, cs, hcons⟩ := hfirst.exists_cons
  refine ⟨?_, ?_, ?_, hquiet⟩
  · have := hfirst.isBlankText_eq
    rw [Text.isBlankText] at this
    rw [Text.isBlankText, htext, List.all_append, this, Bool.false_and]
  · rw [htext, hcons]
    exact fun d hd => hfirst.head d (by rw [hcons]; exact hd)
  · rw [htext, ← List.append_assoc]
    intro d hd
    -- the last part is not empty, so the last character is in it
    obtain ⟨e, es, hcons⟩ := hsecond.exists_cons
    refine hsecond.last d ?_
    rw [List.getLast?_append, hcons, List.getLast?_cons, Option.some_or] at hd
    rw [hcons, List.getLast?_cons]
    exact hd

/-- **Plain texts side by side are plain**, unless slashes meet. -/
theorem IsPlain.append {first second : String} (hfirst : IsPlain first) (hsecond : IsPlain second)
    (hseam : first.toList.getLast? ≠ some '/' ∨ second.toList.head? ≠ some '/') :
    IsPlain (first ++ second) := by
  refine hfirst.of_append hsecond [] (by simp) ?_
  rw [String.toList_append]
  -- no space stands at the seam, as plain texts are trimmed
  refine hfirst.isQuiet.append hsecond.isQuiet fun c hc d hd => ⟨?_, ?_⟩
  · intro heq
    subst heq
    exact absurd (hfirst.last ' ' hc) (by decide)
  · rintro rfl rfl
    exact hseam.elim (fun h => h hc) fun h => h hd

/-- **Plain texts with a space between are plain.** -/
theorem IsPlain.spaced {first second : String} (hfirst : IsPlain first) (hsecond : IsPlain second) :
    IsPlain (first ++ " " ++ second) := by
  have hlist : (first ++ " " ++ second).toList = first.toList ++ ([' '] ++ second.toList) := by simp
  refine hfirst.of_append hsecond [' '] hlist ?_
  rw [hlist]
  -- the space has no other one before or behind it
  refine hfirst.isQuiet.append (IsQuiet.append (by decide) hsecond.isQuiet ?_) ?_
  · rintro c ⟨⟩ d hd
    refine ⟨?_, fun h => absurd h (by decide)⟩
    rintro - rfl
    exact absurd (hsecond.head ' ' hd) (by decide)
  · rintro c hc d ⟨⟩
    refine ⟨?_, fun _ => by decide⟩
    intro heq
    subst heq
    exact absurd (hfirst.last ' ' hc) (by decide)

/-- A plain text stays plain with a plain mark behind it that starts with no slash. -/
theorem IsPlain.append_mark {text : String} (h : IsPlain text) (mark : String)
    (hmark : IsPlain mark ∧ mark.toList.head? ≠ some '/') : IsPlain (text ++ mark) :=
  h.append hmark.1 (Or.inr hmark.2)

/-- A plain text stays plain with a plain mark before it that ends with no slash. -/
theorem IsPlain.mark_append {text : String} (h : IsPlain text) (mark : String)
    (hmark : IsPlain mark ∧ mark.toList.getLast? ≠ some '/') :
    IsPlain (mark ++ text) :=
  hmark.1.append h (Or.inl hmark.2)

/-- Plain texts on both sides of a mark with spaces around it are plain. -/
theorem IsPlain.between {first second : String} (hfirst : IsPlain first) (hsecond : IsPlain second)
    (separator mark : String)
    (hmark : separator = " " ++ mark ++ " " ∧ IsPlain mark) :
    IsPlain (first ++ separator ++ second) := by
  have hassoc : first ++ separator ++ second = first ++ " " ++ mark ++ " " ++ second := by
    rw [hmark.1, ← String.append_assoc, ← String.append_assoc]
  rw [hassoc]
  exact (hfirst.spaced hmark.2).spaced hsecond

/-! ## Lists of plain texts -/

/-- Plain texts are plain when they are joined by what keeps two of them plain. -/
theorem isPlain_intercalate {separator : String}
    (hseparator : ∀ first second, IsPlain first → IsPlain second →
      IsPlain (first ++ separator ++ second))
    {parts : List String} (h : ∀ part ∈ parts, IsPlain part) (hne : parts ≠ []) :
    IsPlain (separator.intercalate parts) := by
  induction parts with
  | nil => exact absurd rfl hne
  | cons part rest ih =>
    cases rest with
    | nil =>
      rw [String.intercalate_singleton]
      exact h part (by simp)
    -- a separator stands between two parts only, never at an end
    | cons next rest =>
      rw [String.intercalate_cons_cons]
      refine hseparator _ _ (h part (by simp)) (ih (fun other hother => ?_) (by simp))
      exact h other (List.mem_cons_of_mem part hother)

/-- Plain texts with commas between are plain. -/
theorem isPlain_commas {parts : List String} (h : ∀ part ∈ parts, IsPlain part)
    (hne : parts ≠ []) : IsPlain (", ".intercalate parts) := by
  refine isPlain_intercalate (fun first second hfirst hsecond => ?_) h hne
  have hcomma : ", " = "," ++ " " := by decide
  rw [hcomma, ← String.append_assoc]
  exact (hfirst.append_mark "," (by decide)).spaced hsecond

/-- Words of which each is plain or left out, and not all are left out, are plain together. -/
theorem isPlain_words {parts : List String} (h : ∀ part ∈ parts, part = "" ∨ IsPlain part)
    {part : String} (hpart : part ∈ parts) (hne : part ≠ "") : IsPlain (Render.words parts) := by
  refine isPlain_intercalate (fun _ _ hfirst hsecond => hfirst.spaced hsecond) ?_ ?_
  · intro word hword
    obtain ⟨hmem, hword⟩ := List.mem_filter.mp hword
    exact (h word hmem).resolve_left (by simpa using hword)
  · exact List.ne_nil_of_mem (List.mem_filter.mpr ⟨hpart, by simpa using hne⟩)

/-- A keyword of access is plain or left out. -/
theorem isPlain_keyword (access : Access) : access.keyword = "" ∨ IsPlain access.keyword := by
  cases access with
  | listed level => cases level <;> decide
  | unlisted | unset => exact Or.inr (by decide : IsPlain "private")

/-- A plain word that may be left out is plain or left out. -/
theorem isPlain_optionalWord (condition : Bool) {word : String} (h : word = "" ∨ IsPlain word) :
    Render.optionalWord condition word = "" ∨ IsPlain (Render.optionalWord condition word) := by
  cases condition with
  | true => exact h
  | false => exact Or.inl rfl

/-! ## Numbers -/

/-- A digit is none of the characters that mean something to the layout. -/
theorem isQuiet_char_of_isDigit {c : Char} (h : c.isDigit = true) :
    Text.isBlank c = false ∧ c ≠ openBrace ∧ c ≠ closeBrace ∧ isQuote c = false ∧ c ≠ '/' := by
  have hne (d : Char) (hd : d.isDigit = false) : c ≠ d := by
    intro heq
    subst heq
    rw [h] at hd
    exact absurd hd (by decide)
  refine ⟨Number.isBlank_of_isDigit (by rw [Number.isDigit_eq, h]), hne _ (by decide),
    hne _ (by decide), ?_, hne _ (by decide)⟩
  · rw [← Bool.not_eq_true, isQuote_iff]
    rintro (rfl | rfl) <;> exact absurd h (by decide)

/-- A number is plain. -/
theorem isPlain_repr (n : Nat) : IsPlain n.repr := by
  -- every condition on a plain text is met by digits, one by one
  have hdigit (c : Char) (hc : c ∈ n.repr.toList) :
      Text.isBlank c = false ∧ c ≠ openBrace ∧ c ≠ closeBrace ∧ isQuote c = false ∧ c ≠ '/' := by
    rw [Nat.toList_repr] at hc
    exact isQuiet_char_of_isDigit (Nat.isDigit_of_mem_toDigits (by decide) (by decide) hc)
  obtain ⟨c, cs, hcons⟩ : ∃ c cs, n.repr.toList = c :: cs := by
    rw [Nat.toList_repr]
    exact List.exists_cons_of_ne_nil Nat.toDigits_ne_nil
  refine ⟨?_, fun d hd => ?_, fun d hd => ?_, ⟨fun d hd hblank => ?_, fun d hd => ?_, fun d hd => ?_,
    List.Pairwise.isChain (List.pairwise_of_forall_mem_list fun d hd e _ => ⟨?_, ?_⟩)⟩⟩
  · rw [Text.isBlankText, hcons, List.all_cons, (hdigit c (by simp [hcons])).1, Bool.false_and]
  · exact (hdigit d (List.mem_of_mem_head? hd)).1
  · exact (hdigit d (List.mem_of_getLast? hd)).1
  · rw [(hdigit d hd).1] at hblank
    exact absurd hblank (by decide)
  · exact ⟨(hdigit d hd).2.1, (hdigit d hd).2.2.1⟩
  · exact (hdigit d hd).2.2.2.1
  · intro heq
    subst heq
    exact absurd (hdigit ' ' hd).1 (by decide)
  · exact fun hslash => absurd hslash (hdigit d hd).2.2.2.2

/-- A whole number is plain. -/
theorem isPlain_toString (value : Int) : IsPlain (toString value) := by
  rw [Int.toString_eq_repr, Int.repr_eq_if]
  split
  next => exact isPlain_repr _
  next => exact (isPlain_repr _).mark_append "-" (by decide)

/-! ## Plain lines -/

/-- **A plain text is a normal text**, so layout leaves it alone as a line. -/
theorem IsPlain.isNormalText {text : String} (h : IsPlain text) : IsNormalText text.toList where
  head := h.head
  last := h.last
  isSpaced := by
    rw [h.isQuiet.code_eq]
    exact h.isQuiet.isSpaced
  braces := by
    rw [h.isQuiet.code_eq]
    refine Or.inr ⟨fun hmem => (h.isQuiet.no_brace _ hmem).1 rfl, fun hmem => ?_, fun rest hrest => ?_⟩
    · exact (h.isQuiet.no_brace _ (List.mem_of_mem_tail hmem)).2 rfl
    · exact absurd rfl (h.isQuiet.no_brace closeBrace (by simp [hrest])).2

/-- Layout leaves a plain text alone. -/
theorem IsPlain.segments_eq {text : String} (h : IsPlain text) :
    segments text.toList = [text.toList] := by
  obtain ⟨c, cs, hcons⟩ := h.exists_cons
  exact (segments_eq_singleton_iff (by simp [hcons])).mpr h.isNormalText

/-- Quiet characters end no line. -/
theorem IsQuiet.isUnbroken {cs : List Char} (h : IsQuiet cs) : Text.IsUnbroken cs := by
  refine Text.isUnbroken_of_forall_mem fun c hc => ⟨?_, ?_⟩
  · intro heq
    subst heq
    exact absurd (h.eq_space _ hc (by decide)) (by decide)
  · intro heq
    subst heq
    exact absurd (h.eq_space _ hc (by decide)) (by decide)

/-- A plain text is no brace, closes no block and documents nothing. -/
theorem IsPlain.not_layout {text : String} (h : IsPlain text) :
    text.toList ≠ [openBrace] ∧ text.toList.head? ≠ some closeBrace
      ∧ ¬['/', '/', '/'] <+: text.toList := by
  refine ⟨fun hopen => ?_, fun hclose => ?_, fun hdoc => ?_⟩
  · exact (h.isQuiet.no_brace openBrace (by simp [hopen])).1 rfl
  · exact (h.isQuiet.no_brace closeBrace (List.mem_of_mem_head? hclose)).2 rfl
  · -- documentation starts with slashes in a row
    obtain ⟨rest, hrest⟩ := hdoc
    have hchain := h.isQuiet.isChain
    rw [← hrest] at hchain
    exact absurd rfl ((List.isChain_cons_cons.mp hchain).1.2 rfl)

/-- What may stand behind the closing brace of a block: nothing, or a plain assignment. -/
def IsTail (tail : String) : Prop :=
  tail = "" ∨ ∃ text, IsPlain text ∧ text.toList.head? = some '=' ∧ tail = " " ++ text

/-- **A closing brace with a plain assignment behind it is a normal text.** -/
theorem IsTail.isNormalText {tail : String} (h : IsTail tail) :
    IsNormalText (closeBrace :: tail.toList) := by
  rcases h with rfl | ⟨text, hplain, hhead, rfl⟩
  · -- the brace is the whole line
    have hcode : code [closeBrace] = [closeBrace] := by
      rw [code, codeFrom_other (by decide) (by decide), codeFrom_nil]
    refine ⟨?_, ?_, ?_, Or.inr ⟨?_, ?_, fun rest hrest => ?_⟩⟩
    · intro c hc
      cases hc
      decide
    · intro c hc
      cases hc
      decide
    · rw [String.toList_empty, hcode]
      exact isSpaced_nil.cons (by decide)
    · rw [String.toList_empty, hcode]
      decide
    · rw [String.toList_empty, hcode]
      decide
    · exact Or.inl (List.cons.inj hrest).2.symm
  · -- an assignment is attached to the brace, and quiet
    have hlist : (" " ++ text).toList = ' ' :: text.toList := by simp
    have hcode : code (closeBrace :: ' ' :: text.toList) = closeBrace :: ' ' :: text.toList := by
      have htext : codeFrom [] text.toList = text.toList := hplain.isQuiet.code_eq
      rw [code, codeFrom_other (by decide) (by decide), codeFrom_blank (by decide), htext]
    rw [hlist]
    refine ⟨?_, ?_, ?_, Or.inr ⟨?_, ?_, ?_⟩⟩
    · intro c hc
      cases hc
      decide
    · obtain ⟨c, cs, hcons⟩ := hplain.exists_cons
      rw [hcons, List.getLast?_cons_cons, List.getLast?_cons_cons, ← hcons]
      exact hplain.last
    · rw [hcode]
      exact (hplain.isQuiet.isSpaced.gap_append hplain.head true).cons (by decide)
    · rw [hcode, List.mem_cons, List.mem_cons, not_or, not_or]
      exact ⟨by decide, by decide, fun hmem => (hplain.isQuiet.no_brace _ hmem).1 rfl⟩
    · rw [hcode, List.tail_cons, List.mem_cons, not_or]
      exact ⟨by decide, fun hmem => (hplain.isQuiet.no_brace _ hmem).2 rfl⟩
    · intro rest hrest
      obtain ⟨cs, hcons⟩ := List.head?_eq_some_iff.mp hhead
      refine Or.inr ⟨true, '=', cs, ?_, by decide⟩
      rw [← (List.cons.inj hrest).2, hcons]
      rfl

theorem IsTail.isUnbroken {tail : String} (h : IsTail tail) : Text.IsUnbroken tail.toList := by
  rcases h with rfl | ⟨text, hplain, -, rfl⟩
  · exact Text.isUnbroken_nil
  · rw [String.toList_append, Text.isUnbroken_append_iff]
    exact ⟨by decide, hplain.isQuiet.isUnbroken⟩

end Scaffold
