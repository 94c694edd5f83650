import Scaffold.Proofs.Render.DefaultValue

/-!
# Accessors that take effect

A property is checked with its accessors as they are configured, and rendered with those that take
effect. The two go together:

* **`check_resolve`**, **`property_resolve`**: a property with its accessors resolved is checked as
  before and has the same source. An accessor that has been configured takes effect as it is, so
  there is nothing left to resolve.
* **`source_eq_sourceAround_iff`**: the source of a property has a block just if an accessor takes
  effect, and its lines are those of the accessors.
* **`accepted_accessors_are_legal`**: what takes effect in a property that is built.
-/

namespace Scaffold

open Render

namespace Property

/-! ## Resolving -/

variable (property : Property)

/-- A getter that has been configured is the effective one. -/
theorem effectiveGetter_of_kind_ne {property : Property}
    (h : property.getter.kind ≠ .unconfigured) :
    property.effectiveGetter = property.getter := by
  unfold effectiveGetter
  split
  next hgetter _ => exact absurd hgetter h
  next hgetter _ => exact absurd hgetter h
  next => rfl

theorem effectiveSetter_of_kind_ne {property : Property}
    (h : property.setter.kind ≠ .unconfigured) :
    property.effectiveSetter = property.setter := by
  unfold effectiveSetter
  split
  next hsetter _ => exact absurd hsetter h
  next hsetter _ => exact absurd hsetter h
  next => rfl

/-- A getter that was never configured takes effect as a generated one or not at all. -/
theorem kind_effectiveGetter_ne : property.effectiveGetter.kind ≠ .unconfigured := by
  by_cases h : property.getter.kind = .unconfigured
  · unfold effectiveGetter
    rw [h]
    cases property.setter.kind <;> exact nofun
  · rw [effectiveGetter_of_kind_ne h]
    exact h

theorem kind_effectiveSetter_ne : property.effectiveSetter.kind ≠ .unconfigured := by
  by_cases h : property.setter.kind = .unconfigured
  · unfold effectiveSetter
    rw [h]
    cases property.effectiveGetter.kind <;> exact nofun
  · rw [effectiveSetter_of_kind_ne h]
    exact h

theorem effectiveGetter_resolve : property.resolve.effectiveGetter = property.effectiveGetter :=
  effectiveGetter_of_kind_ne property.kind_effectiveGetter_ne

theorem effectiveSetter_resolve : property.resolve.effectiveSetter = property.effectiveSetter :=
  effectiveSetter_of_kind_ne property.kind_effectiveSetter_ne

/-- Only code that was given takes effect as code. -/
theorem kind_effectiveGetter_eq_custom_iff :
    property.effectiveGetter.kind = .custom ↔ property.getter.kind = .custom := by
  by_cases h : property.getter.kind = .unconfigured
  · unfold effectiveGetter
    rw [h]
    cases property.setter.kind <;> exact iff_of_false nofun nofun
  · rw [effectiveGetter_of_kind_ne h]

theorem kind_effectiveSetter_eq_custom_iff :
    property.effectiveSetter.kind = .custom ↔ property.setter.kind = .custom := by
  by_cases h : property.setter.kind = .unconfigured
  · unfold effectiveSetter
    rw [h]
    cases property.effectiveGetter.kind <;> exact iff_of_false nofun nofun
  · rw [effectiveSetter_of_kind_ne h]

/-- A setter that was never configured is generated beside a generated getter alone, so a setter
that is generated beside another getter was configured so, and the getter too. -/
theorem effective_kinds_iff {kind : AccessorKind} (h : kind = .absent ∨ kind = .custom) :
    property.effectiveSetter.kind = .automatic ∧ property.effectiveGetter.kind = kind
      ↔ property.setter.kind = .automatic ∧ property.getter.kind = kind := by
  rcases h with rfl | rfl <;>
    cases hgetter : property.getter.kind <;> cases hsetter : property.setter.kind <;>
      simp [effectiveSetter, effectiveGetter, hgetter, hsetter, Accessor.automatic, Accessor.absent]

/-! ## Checks -/

/-- **A property with its accessors resolved is checked just as before.** -/
theorem check_resolve : property.resolve.check = property.check.map resolve := by
  -- the three conditions of the check are the same for configured and for effective accessors
  have habsent : (property.effectiveSetter.kind == .automatic
      && property.effectiveGetter.kind == .absent)
        = (property.setter.kind == .automatic && property.getter.kind == .absent) := by
    rw [Bool.eq_iff_iff]
    simpa using property.effective_kinds_iff (.inl rfl)
  have hcustom : (property.effectiveSetter.kind == .automatic
      && property.effectiveGetter.kind == .custom)
        = (property.setter.kind == .automatic && property.getter.kind == .custom) := by
    rw [Bool.eq_iff_iff]
    simpa using property.effective_kinds_iff (.inr rfl)
  have hdefault : (property.effectiveGetter.kind == .custom
      || property.effectiveSetter.kind == .custom)
        = (property.getter.kind == .custom || property.setter.kind == .custom) := by
    rw [Bool.eq_iff_iff]
    simp [kind_effectiveGetter_eq_custom_iff, kind_effectiveSetter_eq_custom_iff]
  show _ = resolve <$> property.check
  simp only [check, resolve, map_bind, map_pure]
  rw [habsent, hcustom, hdefault]

/-- The accessors that take effect go together as the language asks for. -/
structure HasLegalAccessors : Prop where
  getter_ne : property.effectiveGetter.kind ≠ .unconfigured
  setter_ne : property.effectiveSetter.kind ≠ .unconfigured
  getter_of_setter :
    property.effectiveSetter.kind = .automatic → property.effectiveGetter.kind = .automatic
  ne_of_default : property.defaultValue ≠ none →
    property.effectiveGetter.kind ≠ .custom ∧ property.effectiveSetter.kind ≠ .custom

/-- **A property that passes its check has legal accessors.** The check sees them as they are
configured, so what it excludes is carried over to what takes effect. -/
theorem hasLegalAccessors_of_check {property built : Property} (h : property.check = .ok built) :
    property.HasLegalAccessors := by
  have hviolations := (reports_property property).exists_ok_iff.mp ⟨built, h⟩
  simp only [violations, List.append_eq_nil_iff, errorIf_eq_nil_iff] at hviolations
  -- a passed check has no violation, so each of the conditions is false
  obtain ⟨⟨⟨-, habsent⟩, hcustom⟩, hdefault⟩ := hviolations
  have hexcluded {kind : AccessorKind} (hkind : kind = .absent ∨ kind = .custom) :
      ¬ (property.effectiveSetter.kind = .automatic ∧ property.effectiveGetter.kind = kind) := by
    rw [property.effective_kinds_iff hkind]
    rintro ⟨hsetter, hgetter⟩
    rcases hkind with rfl | rfl
    · simp [hsetter, hgetter] at habsent
    · simp [hsetter, hgetter] at hcustom
  refine ⟨property.kind_effectiveGetter_ne, property.kind_effectiveSetter_ne, ?_, ?_⟩
  · intro hsetter
    cases hgetter : property.effectiveGetter.kind with
    | unconfigured => exact absurd hgetter property.kind_effectiveGetter_ne
    | absent => exact absurd ⟨hsetter, hgetter⟩ (hexcluded (.inl rfl))
    | automatic => rfl
    | custom => exact absurd ⟨hsetter, hgetter⟩ (hexcluded (.inr rfl))
  · intro hgiven
    rw [Option.isSome_iff_ne_none.mpr hgiven, Bool.true_and, Bool.or_eq_false_iff] at hdefault
    rw [ne_eq, ne_eq, kind_effectiveGetter_eq_custom_iff, kind_effectiveSetter_eq_custom_iff]
    simpa using hdefault

/-- **A property with its accessors resolved has the same source.** -/
theorem property_resolve : Render.property property.resolve = Render.property property := by
  have hblock : accessorBlock property.resolve = accessorBlock property := by
    unfold accessorBlock
    rw [effectiveGetter_resolve, effectiveSetter_resolve]
  have hpresent : property.resolve.hasAccessors = property.hasAccessors := by
    unfold hasAccessors
    rw [effectiveGetter_resolve, effectiveSetter_resolve]
  have htext (type name : String) :
      propertyText property.resolve type name = propertyText property type name := by
    unfold propertyText
    rw [hblock, hpresent]
    rfl
  unfold Render.property
  simp only [htext]
  rfl

end Property

/-! ## Where a header ends -/

theorem mem_intercalate_of_mem {parts : List String} {part : String} (hpart : part ∈ parts)
    (separator : String) {c : Char} (hc : c ∈ part.toList) :
    c ∈ (separator.intercalate parts).toList := by
  induction parts with
  | nil => cases hpart
  | cons first rest ih =>
    cases rest with
    | nil =>
      obtain rfl := List.mem_singleton.mp hpart
      simpa using hc
    | cons next others =>
      rw [String.intercalate_cons_cons, String.toList_append, String.toList_append]
      rcases List.mem_cons.mp hpart with rfl | hrest
      · exact List.mem_append_left _ (List.mem_append_left _ hc)
      · exact List.mem_append_right _ (ih hrest)

/-- The name of a property keeps its header from being trimmed away. -/
theorem exists_mem_propertyHeader (property : Property) (type : String) {name : String}
    (h : Text.isBlankText name = false) :
    ∃ c ∈ (propertyHeader property type name).toList, c ≠ '\n' := by
  obtain ⟨c, hc, hshows⟩ := List.all_eq_false.mp h
  have hne : name ≠ "" := by
    rintro rfl
    cases hc
  refine ⟨c, ?_, ?_⟩
  · unfold propertyHeader words
    rw [String.toList_append]
    exact List.mem_append_right _ (mem_intercalate_of_mem (by simp [hne]) " " hc)
  · rintro rfl
    exact hshows (by decide)

/-- Nothing is trimmed off behind a header. -/
theorem toList_fragment_append {front back : String} (hfront : ∃ c ∈ front.toList, c ≠ '\n')
    (hback : ∃ c ∈ back.toList.getLast?, c ≠ '\n') :
    (fragment (front ++ back)).toList = front.toList.dropWhile (· == '\n') ++ back.toList := by
  obtain ⟨c, hc, hshows⟩ := hfront
  obtain ⟨last, hlast, hkept⟩ := hback
  have hdrop : (front.toList.dropWhile (· == '\n')).isEmpty = false := by
    rw [List.isEmpty_eq_false_iff, ne_eq, List.dropWhile_eq_nil_iff]
    intro hall
    exact hshows (beq_iff_eq.mp (hall c hc))
  rw [fragment, String.toList_ofList, Text.trimLineFeeds, String.toList_append,
    List.dropWhile_append, if_neg (by simp [hdrop])]
  -- the last character is that of `back`, which stays
  show List.rdropWhile _ _ = _
  rw [List.rdropWhile_eq_self_iff]
  intro hne hfeed
  have hend : (front.toList.dropWhile (· == '\n') ++ back.toList).getLast? = some last := by
    rw [List.getLast?_append, Option.mem_def.mp hlast, Option.some_or]
  rw [List.getLast?_eq_some_getLast hne, Option.some.injEq] at hend
  rw [beq_iff_eq, hend] at hfeed
  exact hkept hfeed

/-- What stands behind a header is known from the source. -/
theorem fragment_append_inj {front first second : String} (hfront : ∃ c ∈ front.toList, c ≠ '\n')
    (hfirst : ∃ c ∈ first.toList.getLast?, c ≠ '\n')
    (hsecond : ∃ c ∈ second.toList.getLast?, c ≠ '\n')
    (h : fragment (front ++ first) = fragment (front ++ second)) : first = second := by
  have hlist := congrArg String.toList h
  rw [toList_fragment_append hfront hfirst, toList_fragment_append hfront hsecond] at hlist
  exact String.toList_inj.mp (List.append_cancel_left hlist)

/-- A default value ends with a semicolon. -/
theorem getLast?_initializer (value : String) :
    (initializer (some value)).toList.getLast? = some ';' := by
  unfold initializer assignment
  by_cases hlast : value.toList.getLast? = some ';'
  · simp [hlast, List.getLast?_append, List.getLast?_cons]
  · simp [hlast, List.getLast?_append, List.getLast?_cons]

/-- With or without an initial value, a text that ends in something visible still does so. -/
theorem exists_getLast?_append_initializer {front : String}
    (h : ∃ c ∈ front.toList.getLast?, c ≠ '\n') (value? : Option String) :
    ∃ c ∈ (front ++ initializer value?).toList.getLast?, c ≠ '\n' := by
  cases value? with
  | none => simpa [initializer] using h
  | some value =>
    refine ⟨';', ?_, by decide⟩
    rw [String.toList_append, List.getLast?_append, getLast?_initializer]
    rfl

/-- What a property without a block ends with stands on the line of its name. -/
theorem ends_statement (value? : Option String) :
    (∃ c ∈ (if value? = none then ";" else initializer value?).toList.getLast?, c ≠ '\n')
      ∧ (if value? = none then ";" else initializer value?).toList.head? ≠ some '\n' := by
  cases value? with
  | none => exact ⟨⟨';', rfl, by decide⟩, by decide⟩
  | some value =>
    refine ⟨⟨';', getLast?_initializer value, by decide⟩, ?_⟩
    show (" " ++ assignment value).toList.head? ≠ some '\n'
    simp

/-! ## Blocks of accessors -/

/-- The source of a property that has the given lines in braces behind its type and name. -/
def Property.sourceAround (property : Property) (lines : String) : String :=
  fragment (block (propertyHeader property (property.type.getD "") (property.name.getD "")) lines
    ++ initializer property.defaultValue)

/-- **The source of a property has a block just if an accessor takes effect**, and the lines of the
block are those of the accessors. -/
theorem source_eq_sourceAround_iff {property : Property} {type name : String}
    (htype : type ∈ property.type) (hname : name ∈ property.name)
    (hshows : Text.isBlankText name = false) (lines : String) :
    fragment (propertyText property type name) = property.sourceAround lines
      ↔ property.hasAccessors = true ∧ lines = accessorBlock property := by
  have hheader := exists_mem_propertyHeader property type hshows
  -- what stands behind the header, with and without a block
  have hblock (body : String) : block (propertyHeader property type name) body
      ++ initializer property.defaultValue
        = propertyHeader property type name
          ++ ("\n\x7b\n" ++ body ++ "\x7d" ++ initializer property.defaultValue) := by
    simp [block, String.append_assoc]
  have hends (body : String) : ∃ c ∈ ("\n\x7b\n" ++ body ++ "\x7d"
      ++ initializer property.defaultValue).toList.getLast?, c ≠ '\n' :=
    exists_getLast?_append_initializer ⟨'\x7d', by simp [List.getLast?_cons], by decide⟩ _
  unfold Property.sourceAround propertyText
  rw [Option.mem_def.mp htype, Option.mem_def.mp hname, Option.getD_some, Option.getD_some,
    hblock lines]
  cases hpresent : property.hasAccessors with
  | true =>
    rw [if_pos rfl, hblock (accessorBlock property)]
    constructor
    · intro h
      have hback := congrArg String.toList (fragment_append_inj hheader (hends _) (hends _) h)
      refine ⟨rfl, String.toList_inj.mp ?_⟩
      simpa using hback.symm
    · rintro ⟨-, rfl⟩
      rfl
  | false =>
    rw [if_neg Bool.false_ne_true]
    refine iff_of_false (fun h => ?_) fun h => Bool.false_ne_true h.1
    -- a block starts on a new line, which nothing else does
    obtain ⟨hlast, hhead⟩ := ends_statement property.defaultValue
    have hback := fragment_append_inj hheader hlast (hends lines) h
    rw [hback] at hhead
    exact hhead (by simp)

/-! ## Lines of accessors -/

/-- An accessor that is present has a text: it starts with its keyword. -/
theorem accessor_ne_empty {keyword : String} (hkeyword : keyword ≠ "") {accessor : Accessor}
    (hkind : accessor.kind ≠ .unconfigured) (hpresent : accessor.isPresent = true) :
    Render.accessor keyword accessor ≠ "" := by
  have hlong (rest : String) : keyword ++ rest ≠ "" := by
    intro h
    have hlist := congrArg String.toList h
    rw [String.toList_append] at hlist
    exact hkeyword (String.toList_inj.mp (List.append_eq_nil_iff.mp hlist).1)
  unfold Render.accessor
  split
  next => exact hlong _
  next =>
    unfold customAccessor
    split
    next => exact hlong _
    next =>
      rw [String.append_assoc, String.append_assoc]
      exact hlong _
  next hautomatic hcustom =>
    -- the kinds without a text are those that the hypotheses rule out
    cases hcase : accessor.kind with
    | unconfigured => exact absurd hcase hkind
    | absent => simp [Accessor.isPresent, hcase] at hpresent
    | automatic => exact absurd hcase hautomatic
    | custom => exact absurd hcase hcustom

/-- A text that is not empty stands in its line. -/
theorem infix_accessorLine {text : String} (h : text ≠ "") :
    text.toList <:+: (accessorLine text).toList := by
  refine ⟨"    ".toList, "\n".toList, ?_⟩
  rw [accessorLine, if_neg h, String.toList_append, String.toList_append]

/-- A block of accessors holds the text of one that takes effect. -/
theorem exists_infix_accessorBlock {property : Property} (h : property.hasAccessors = true) :
    ∃ text ∈ [Render.accessor "get" property.effectiveGetter,
        Render.accessor "set" property.effectiveSetter],
      text ≠ "" ∧ text.toList <:+: (accessorBlock property).toList := by
  unfold accessorBlock
  rw [String.toList_append]
  rcases Bool.or_eq_true_iff.mp h with hgetter | hsetter
  · have hne := accessor_ne_empty (by decide : "get" ≠ "") property.kind_effectiveGetter_ne hgetter
    refine ⟨_, List.mem_cons_self, hne, ?_⟩
    exact (infix_accessorLine hne).trans (List.prefix_append _ _).isInfix
  · have hne := accessor_ne_empty (by decide : "set" ≠ "") property.kind_effectiveSetter_ne hsetter
    refine ⟨_, List.mem_cons_of_mem _ List.mem_cons_self, hne, ?_⟩
    exact (infix_accessorLine hne).trans (List.suffix_append _ _).isInfix

/-! ## Properties that are built -/

/-- **Accepted properties have legal accessors, and resolving accessors changes nothing.** Whatever
calls have led to the draft: if it is built, the accessors that take effect go together, and its
source has a block of accessors just if one of them is present, with the text of one at least. Any
property, accepted or not, can be replaced by the one with its accessors resolved: building fails
with the same error or gives the resolved property, and the source is the same. -/
theorem accepted_accessors_are_legal (workspace : Workspace) (ref : Ref .property)
    (settings : Settings) :
    (∀ property, (workspace.build ref).1 = .ok property →
        property.HasLegalAccessors
          ∧ ∃ out, source settings.render (.property property) = .ok out
            ∧ ((∃ lines, out = property.sourceAround lines)
              ↔ property.effectiveGetter.isPresent = true
                ∨ property.effectiveSetter.isPresent = true)
            ∧ ∀ lines, out = property.sourceAround lines →
                ∃ text ∈ [Render.accessor "get" property.effectiveGetter,
                    Render.accessor "set" property.effectiveSetter],
                  text ≠ "" ∧ text.toList <:+: lines.toList)
      ∧ ∀ property : Property,
          ((workspace.set ref property.resolve).build ref).1
              = ((workspace.set ref property).build ref).1.map Property.resolve
            ∧ source settings.render (.property property.resolve)
              = source settings.render (.property property)
            ∧ formatted settings (.property property.resolve)
              = formatted settings (.property property) := by
  refine ⟨fun property hbuild => ?_, fun property => ?_⟩
  · have hcheck : Property.check (workspace.get ref) = .ok property :=
      (workspace.build_fst ref).symm.trans hbuild
    obtain ⟨hself, hname, -⟩ := Property.check_eq_ok hcheck
    rw [hself] at hcheck hname
    obtain ⟨type, htype, name, hmem, hsource⟩ := source_of_build hbuild settings.render
    rw [Option.mem_def.mp hmem, Text.isMissing_some] at hname
    have hiff (lines : String) := source_eq_sourceAround_iff htype hmem hname lines
    refine ⟨Property.hasLegalAccessors_of_check hcheck, _, hsource, ?_, ?_⟩
    · simp only [hiff, exists_and_left, exists_eq, and_true]
      exact Bool.or_eq_true_iff
    · intro lines hlines
      obtain ⟨hpresent, rfl⟩ := (hiff lines).mp hlines
      exact exists_infix_accessorBlock hpresent
  -- resolving changes neither what is checked nor what is written
  · have hsource : source settings.render (.property property.resolve)
        = source settings.render (.property property) := property.property_resolve
    refine ⟨?_, hsource, ?_⟩
    · rw [Workspace.build_fst, Workspace.build_fst]
      show Property.check ((workspace.set ref _).get ref)
        = (Property.check ((workspace.set ref _).get ref)).map Property.resolve
      rw [Workspace.get_set_self, Workspace.get_set_self]
      exact property.check_resolve
    · unfold formatted sourceWith
      rw [hsource]

/-- A property that is written but never read: its getter is left open. -/
def writeOnly : Property where
  type := some "int"
  name := some "Total"
  setter := .custom (some "total = value")

theorem writeOnly_has_setter_alone :
    let ref : Ref .property := ⟨0⟩
    let workspace := Workspace.empty.set ref writeOnly
    (workspace.build ref).1 = .ok writeOnly
      ∧ writeOnly.HasLegalAccessors
      ∧ (∃ lines, source {} (.property writeOnly) = .ok (writeOnly.sourceAround lines))
      ∧ writeOnly.resolve.getter = .absent
      ∧ source {} (.property writeOnly.resolve) = source {} (.property writeOnly) := by
  intro ref workspace
  obtain ⟨haccepted, hresolve⟩ := accepted_accessors_are_legal workspace ref {}
  have hbuild : (workspace.build ref).1 = .ok writeOnly := rfl
  obtain ⟨hlegal, out, hsource, hblock, -⟩ := haccepted writeOnly hbuild
  obtain ⟨lines, rfl⟩ := hblock.mpr (.inr rfl)
  exact ⟨hbuild, hlegal, ⟨lines, hsource⟩, rfl, (hresolve writeOnly).2.1⟩

end Scaffold
