import Mathlib.Data.Finset.Fold
import Mathlib.Data.Nat.Bitwise
import Scaffold.Proofs.Draft.Violation

/-!
# Numbers of flags

The members of an enumeration of flags are numbered all or not at all. Where they are, the numbers
form a bit mask, however many members there are:

* **`Flag.IsSeries`**: zero and then flags, each with one bit, the next one up. Different choices
  of flags make different numbers.
* **`isSeries_cons`**: the last of this follows from the bits, since a choice of flags can be read
  off the number that they make (`mem_iff_testBit_union`).
* **`Enumeration.map_numbered`**: numbering changes numbers and nothing else.
* **`build_numbers_flags`**: the members of a built enumeration against those that are attached.
-/

namespace Scaffold

/-! ## Bit masks -/

namespace Flag

/-- The number that the chosen ones of some flags make together. -/
def union (flags : List Nat) (chosen : Finset (Fin flags.length)) : Nat :=
  chosen.fold (· ||| ·) 0 fun position => flags[position]

/-- The numbers for a choice of nothing and then for one flag each. -/
structure IsSeries (numbers : List Nat) : Prop where
  zero : ∀ first ∈ numbers.head?, first = 0
  /-- Each flag has one bit: the first flag the lowest, any other the one above that of the flag
  before it. -/
  testBit_iff : ∀ (position : Fin numbers.tail.length) (bit : Nat),
    numbers.tail[position].testBit bit = true ↔ bit = position
  /-- Different choices of flags make different numbers. -/
  union_injective : Function.Injective (union numbers.tail)

variable {flags : List Nat}

/-- A bit of the number is a bit of one of the chosen flags. Induction on the choice. -/
theorem testBit_union (chosen : Finset (Fin flags.length)) (bit : Nat) :
    (union flags chosen).testBit bit = true
      ↔ ∃ position ∈ chosen, flags[position].testBit bit = true := by
  induction chosen using Finset.induction_on with
  | empty => simp [union]
  | insert position rest hnew ih =>
    rw [union, Finset.fold_insert hnew, Nat.testBit_or, Bool.or_eq_true]
    show _ ∨ (union flags rest).testBit bit = true ↔ _
    rw [ih, Finset.exists_mem_insert]

/-- **The chosen flags are read off the bits** of the number that they make. -/
theorem mem_iff_testBit_union
    (h : ∀ (position : Fin flags.length) (bit : Nat),
      flags[position].testBit bit = true ↔ bit = position)
    (chosen : Finset (Fin flags.length)) (position : Fin flags.length) :
    position ∈ chosen ↔ (union flags chosen).testBit position = true := by
  rw [testBit_union]
  constructor
  · intro hmem
    exact ⟨position, hmem, (h position position).mpr rfl⟩
  · rintro ⟨other, hmem, hbit⟩
    obtain rfl : position = other := Fin.ext ((h other position).mp hbit)
    exact hmem

/-- So different choices make different numbers. -/
theorem union_injective_of_testBit
    (h : ∀ (position : Fin flags.length) (bit : Nat),
      flags[position].testBit bit = true ↔ bit = position) :
    Function.Injective (union flags) := by
  intro first second hunion
  refine Finset.ext fun position => ?_
  rw [mem_iff_testBit_union h, mem_iff_testBit_union h, hunion]

theorem isSeries_nil : IsSeries [] where
  zero := nofun
  testBit_iff position := position.elim0
  union_injective := union_injective_of_testBit fun position => position.elim0

/-- The first number has no bit, and each other has just the bit of its position. -/
theorem isSeries_cons
    (h : ∀ (position : Fin flags.length) (bit : Nat),
      flags[position].testBit bit = true ↔ bit = position) : IsSeries (0 :: flags) where
  zero _ hfirst := (Option.mem_some.mp hfirst).symm
  testBit_iff := h
  union_injective := union_injective_of_testBit h

end Flag

/-! ## Numbered members -/

namespace EnumMember

/-- Behind the first position the numbers are the powers of two. Induction along the members. -/
theorem map_value_numberFrom (members : List EnumMember) (position : Nat) :
    (numberFrom (position + 1) members).map EnumMember.value
      = (List.range' position members.length).map fun bit => some ((2 ^ bit : Nat) : Int) := by
  induction members generalizing position with
  | nil => rfl
  | cons member rest ih =>
    rw [numberFrom, List.map_cons, ih, List.length_cons, List.range'_succ, List.map_cons, flagValue,
      Nat.one_shiftLeft]

/-- **Numbered members have numbers for flags.** -/
theorem exists_isSeries_numberFrom (members : List EnumMember) :
    ∃ numbers : List Nat, Flag.IsSeries numbers
      ∧ (numberFrom 0 members).map EnumMember.value
        = numbers.map fun (number : Nat) => some (number : Int) := by
  cases members with
  | nil => exact ⟨[], Flag.isSeries_nil, rfl⟩
  | cons member rest =>
    refine ⟨0 :: (List.range' 0 rest.length).map (2 ^ ·), Flag.isSeries_cons ?_, ?_⟩
    · intro position bit
      simp [Nat.testBit_two_pow, eq_comm]
    · rw [numberFrom, List.map_cons, map_value_numberFrom, List.map_cons, List.map_map]
      rfl

end EnumMember

namespace Enumeration

/-- **Numbering changes numbers and nothing else.** -/
theorem map_numbered {α : Type} {read : EnumMember → α}
    (hread : ∀ (member : EnumMember) (value : Option Int),
      read { member with value := value } = read member)
    (enumeration : Enumeration) (members : List EnumMember) :
    (enumeration.numbered members).map read = members.map read := by
  -- numbering replaces the number alone, whatever position it starts at
  have hfrom (position : Nat) :
      (EnumMember.numberFrom position members).map read = members.map read := by
    induction members generalizing position with
    | nil => rfl
    | cons member rest ih =>
      rw [EnumMember.numberFrom, List.map_cons, hread, ih, List.map_cons]
  unfold numbered
  split
  · exact hfrom 0
  · rfl

/-- Flags are numbered when no member has a number of its own. -/
theorem numbered_of_forall_none {enumeration : Enumeration} {members : List EnumMember}
    (hflags : enumeration.isFlags = true) (h : ∀ member ∈ members, member.value = none) :
    enumeration.numbered members = EnumMember.numberFrom 0 members := by
  rw [numbered, hflags, if_pos]
  simpa using h

/-- One number anywhere is enough for no member to be numbered. -/
theorem numbered_of_not {enumeration : Enumeration} {members : List EnumMember}
    (h : ¬ (enumeration.isFlags = true ∧ ∀ member ∈ members, member.value = none)) :
    enumeration.numbered members = members := by
  rw [numbered, if_neg]
  simpa using h

/-- No name occurs again just if the names differ. Induction along the names. -/
theorem repeated?_eq_none_iff (names : List (Option String)) :
    repeated? names = none ↔ names.Nodup := by
  induction names with
  | nil => simp [repeated?]
  | cons name rest ih =>
    unfold repeated?
    rw [List.nodup_cons]
    split
    next hagain => simp [hagain]
    next honce => simp [honce, ih]

/-- An enumeration that is built has the members that it was checked with, numbered, and their
names differ. -/
theorem eq_of_check {enumeration built : Enumeration} (h : enumeration.check = .ok built) :
    built = { enumeration with members := enumeration.numbered enumeration.members }
      ∧ (enumeration.members.map EnumMember.name).Nodup := by
  unfold check at h
  obtain ⟨-, -, h⟩ := bind_eq_ok_iff.mp h
  obtain ⟨members, hmembers, h⟩ := bind_eq_ok_iff.mp h
  obtain ⟨rfl, -⟩ := EnumMember.mapM_check_eq_ok hmembers
  unfold withMembers at h
  split at h
  next => cases h
  next hnone =>
    exact ⟨(Except.ok.inj h).symm, (repeated?_eq_none_iff _).mp hnone⟩

end Enumeration

namespace Workspace

/-- **Flags are numbered all or not at all, and the numbers form a bit mask.** The members of a
built enumeration are those attached, in order, with their names, which differ, and documentation.
In an enumeration of flags of which none has a number of its own they have numbers for flags; in
any other they have the numbers of their own, and none where they have none. -/
theorem build_numbers_flags (workspace : Workspace) (ref : Ref .enumeration) {built : Enumeration}
    (h : (workspace.build ref).1 = .ok built) :
    let draft : EnumerationDraft := workspace.get ref
    let attached : List EnumMember := draft.members.map workspace.get
    let isNumbered := draft.held.isFlags = true ∧ ∀ member ∈ attached, member.value = none
    built = { draft.held with members := built.members }
      ∧ built.members.map EnumMember.name = attached.map EnumMember.name
      ∧ built.members.map EnumMember.summary = attached.map EnumMember.summary
      ∧ (built.members.map EnumMember.name).Nodup
      ∧ (isNumbered → ∃ numbers : List Nat, Flag.IsSeries numbers
          ∧ built.members.map EnumMember.value
            = numbers.map fun (number : Nat) => some (number : Int))
      ∧ (¬ isNumbered → built.members = attached) := by
  intro draft attached isNumbered
  have hcheck : (workspace.unfoldEnumeration ref).check = .ok built := by
    rw [← h, build_fst]
    rfl
  obtain ⟨rfl, hdiffer⟩ := Enumeration.eq_of_check hcheck
  -- numbers are given last, after the names have been compared
  have hnames : (Enumeration.numbered _ attached).map EnumMember.name
      = attached.map EnumMember.name :=
    Enumeration.map_numbered (fun _ _ => rfl) (workspace.unfoldEnumeration ref) attached
  refine ⟨rfl, hnames, ?_, ?_, ?_, ?_⟩
  · exact Enumeration.map_numbered (fun _ _ => rfl) (workspace.unfoldEnumeration ref) attached
  · show ((Enumeration.numbered _ attached).map EnumMember.name).Nodup
    rw [hnames]
    exact hdiffer
  · rintro ⟨hflags, hnone⟩
    obtain ⟨numbers, hseries, hvalues⟩ := EnumMember.exists_isSeries_numberFrom attached
    refine ⟨numbers, hseries, ?_⟩
    show (Enumeration.numbered (workspace.unfoldEnumeration ref) attached).map EnumMember.value = _
    have hnumbered := @Enumeration.numbered_of_forall_none (workspace.unfoldEnumeration ref)
    rw [hnumbered hflags hnone, hvalues]
  · intro hother
    exact Enumeration.numbered_of_not hother

/-- An enumeration of three flags, of which one may have a number of its own. -/
def permissions (value : Option Int) : Ref .enumeration × Workspace :=
  let (nothing, workspace) := @add empty .enumMember ({ name := some "Nothing" } : EnumMember)
  let (write, workspace) := @add workspace .enumMember
    ({ name := some "Write", value := value } : EnumMember)
  let (read, workspace) := @add workspace .enumMember
    ({ name := some "Read", summary := some "Looks only." } : EnumMember)
  @add workspace .enumeration
    { held := { name := some "Permissions", isFlags := true }, members := [nothing, read, write] }

/-- A zero given to one of the flags leaves the others without a number. -/
theorem build_permissions :
    let built (first second third : Option Int) : Enumeration :=
      { name := some "Permissions"
        isFlags := true
        members := [{ name := some "Nothing", value := first },
          { name := some "Read", value := second, summary := some "Looks only." },
          { name := some "Write", value := third }] }
    ((permissions none).2.build (permissions none).1).1 = .ok (built (some 0) (some 1) (some 2))
      ∧ (∃ numbers : List Nat, Flag.IsSeries numbers
          ∧ [some 0, some 1, some 2] = numbers.map fun (number : Nat) => some (number : Int))
      ∧ ((permissions (some 0)).2.build (permissions (some 0)).1).1
          = .ok (built none none (some 0))
      ∧ (built none none (some 0)).members
        = (EnumerationDraft.members ((permissions (some 0)).2.get (permissions (some 0)).1)).map
            (permissions (some 0)).2.get := by
  intro built
  have hnumbered : ((permissions none).2.build (permissions none).1).1
      = .ok (built (some 0) (some 1) (some 2)) := rfl
  have hgiven : ((permissions (some 0)).2.build (permissions (some 0)).1).1
      = .ok (built none none (some 0)) := rfl
  obtain ⟨-, -, -, -, hseries, -⟩ := build_numbers_flags _ _ hnumbered
  obtain ⟨-, -, -, -, -, hkept⟩ := build_numbers_flags _ _ hgiven
  refine ⟨hnumbered, hseries ?_, hgiven, hkept ?_⟩
  · decide
  · decide

end Workspace

end Scaffold
