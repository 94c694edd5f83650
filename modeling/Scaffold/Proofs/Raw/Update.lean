import Mathlib.Data.List.Nodup
import Mathlib.Logic.Function.Basic
import Scaffold.Raw.Record

/-!
# Changing records by key

Changes that are passed by key form a `ChangeMap`: each key stands once, and a key is unknown only
if it names no slot. `FollowsChanges` says what such changes come to.

* **`Record.updateByKey_overriddenBy`**: changes that are made after others win over them
  (`Record.update_append_eq`), as they do in one map of changes.
* **`Record.reports_least_iff`**: of the unknown keys the least is reported
  (`Record.least?_eq_some_iff`), unless a change is under the key of the record itself.
* **`followsChanges_of_isKeyed`**: so it is for every type whose slots are told apart by their keys,
  whatever the slots hold; it may even be `Unchecked`.
-/

namespace Scaffold

namespace Record

variable {α : Type} [Record α]

/-! ## Changes of slots -/

/-- A slot that no change is for stays as it is. -/
theorem get_update_of_not_mem {changes : List (Change α)} {slot : Slot α}
    (h : slot ∉ changes.map Change.slot) (record : α) :
    get (update record changes) slot = get record slot := by
  induction changes generalizing record with
  | nil => rfl
  | cons first rest ih =>
    obtain ⟨hne, hrest⟩ : slot ≠ first.slot ∧ slot ∉ rest.map Change.slot := by
      simpa [not_or] using h
    show get (update (set record first.slot first.value) rest) slot = _
    rw [ih hrest, get_set_ne _ _ _ _ hne]

/-- If each slot is changed once, then every change shows. -/
theorem get_update_of_mem {changes : List (Change α)} (hnodup : (changes.map Change.slot).Nodup)
    {change : Change α} (h : change ∈ changes) (record : α) :
    get (update record changes) change.slot = change.value := by
  induction changes generalizing record with
  | nil => cases h
  | cons first rest ih =>
    obtain ⟨hfirst, hrest⟩ := List.nodup_cons.mp hnodup
    show get (update (set record first.slot first.value) rest) change.slot = _
    rcases List.mem_cons.mp h with rfl | hmem
    · rw [get_update_of_not_mem hfirst, get_set_self]
    · exact ih hrest hmem _

/-- The changes make just one record. -/
theorem eq_update {changes : List (Change α)} (hnodup : (changes.map Change.slot).Nodup)
    {record copy : α} (hchanged : ∀ change ∈ changes, get copy change.slot = change.value)
    (hkept : ∀ slot ∉ changes.map Change.slot, get copy slot = get record slot) :
    copy = update record changes := by
  refine ext_get _ _ fun slot => ?_
  by_cases hslot : slot ∈ changes.map Change.slot
  · obtain ⟨change, hchange, rfl⟩ := List.mem_map.mp hslot
    rw [hchanged change hchange, get_update_of_mem hnodup hchange]
  · rw [hkept slot hslot, get_update_of_not_mem hslot]

/-- Changes in another order make the same record. -/
theorem update_perm {first second : List (Change α)} (h : first.Perm second)
    (hnodup : (first.map Change.slot).Nodup) (record : α) :
    update record first = update record second := by
  have hslots : (first.map Change.slot).Perm (second.map Change.slot) := h.map Change.slot
  refine eq_update (hslots.nodup_iff.mp hnodup) (fun change hchange => ?_) fun slot hslot => ?_
  · exact get_update_of_mem hnodup (h.mem_iff.mpr hchange) record
  · exact get_update_of_not_mem (hslots.mem_iff.not.mpr hslot) record

/-- **Later changes win.** Of the changes that come first, those of slots that are changed again may
as well be left out. -/
theorem update_append_eq {first kept second : List (Change α)}
    (hfirst : (first.map Change.slot).Nodup) (hsecond : (second.map Change.slot).Nodup)
    (hkept : (kept.map Change.slot).Nodup)
    (h : ∀ change, change ∈ kept ↔ change ∈ first ∧ change.slot ∉ second.map Change.slot)
    (record : α) : update record (kept ++ second) = update (update record first) second := by
  have happend : update record (kept ++ second) = update (update record kept) second :=
    List.foldl_append
  rw [happend]
  refine eq_update hsecond (fun change hchange => get_update_of_mem hsecond hchange _)
    fun slot hslot => ?_
  rw [get_update_of_not_mem hslot]
  -- a slot that is not changed again is among those of the kept changes if it is changed at all
  by_cases hchanged : slot ∈ first.map Change.slot
  · obtain ⟨change, hchange, rfl⟩ := List.mem_map.mp hchanged
    rw [get_update_of_mem hfirst hchange, get_update_of_mem hkept ((h change).mpr ⟨hchange, hslot⟩)]
  · have hunkept : slot ∉ kept.map Change.slot := by
      intro hmem
      obtain ⟨change, hchange, rfl⟩ := List.mem_map.mp hmem
      exact hchanged (List.mem_map_of_mem ((h change).mp hchange).1)
    rw [get_update_of_not_mem hchanged, get_update_of_not_mem hunkept]

/-! ## The least key -/

theorem least?_eq_none_iff {keys : List String} : least? keys = none ↔ keys = [] := by
  cases keys with
  | nil => exact iff_of_true rfl rfl
  | cons key keys =>
    unfold least?
    cases least? keys <;> simp

theorem least_of_least? {keys : List String} {key : String} (h : least? keys = some key) :
    key ∈ keys ∧ ∀ other ∈ keys, key ≤ other := by
  induction keys generalizing key with
  | nil => cases h
  | cons first rest ih =>
    unfold least? at h
    split at h
    next hnone =>
      obtain rfl := Option.some.inj h
      obtain rfl := least?_eq_none_iff.mp hnone
      simp
    next least hleast =>
      obtain ⟨hmem, hle⟩ := ih hleast
      obtain rfl := Option.some.inj h
      -- the first key is kept unless one behind it is smaller
      by_cases hfirst : first ≤ least
      · simp only [if_pos hfirst, List.forall_mem_cons]
        exact ⟨List.mem_cons_self, String.le_refl _, fun other hother =>
          String.le_trans hfirst (hle other hother)⟩
      · simp only [if_neg hfirst, List.forall_mem_cons]
        exact ⟨List.mem_cons_of_mem _ hmem, (String.le_total _ _).resolve_left hfirst, hle⟩

/-- **The least key** is the one that is in front of all others. -/
theorem least?_eq_some_iff {keys : List String} {key : String} :
    least? keys = some key ↔ key ∈ keys ∧ ∀ other ∈ keys, key ≤ other := by
  refine ⟨least_of_least?, fun ⟨hmem, hle⟩ => ?_⟩
  cases hleast : least? keys with
  | none =>
    rw [least?_eq_none_iff.mp hleast] at hmem
    cases hmem
  | some other =>
    obtain ⟨hmem', hle'⟩ := least_of_least? hleast
    rw [String.le_antisymm (hle' key hmem) (hle other hmem')]

theorem least?_perm {first second : List String} (h : first.Perm second) :
    least? first = least? second := by
  refine Option.ext fun key => ?_
  simp only [least?_eq_some_iff, h.mem_iff]

/-! ## Changes by key -/

/-- The known changes are those that name a slot, as they are. -/
theorem mem_knownChanges {changes : List (KeyedChange α)} {change : Change α} :
    change ∈ knownChanges changes ↔ .known change ∈ changes := by
  unfold knownChanges
  rw [List.mem_filterMap]
  constructor
  · rintro ⟨known | unknown, hmem, heq⟩
    · obtain rfl := Option.some.inj heq
      exact hmem
    · cases heq
  · exact fun hmem => ⟨_, hmem, rfl⟩

/-- The unknown keys are those of the other changes. -/
theorem mem_unknownKeys {changes : List (KeyedChange α)} {key : String} :
    key ∈ unknownKeys changes ↔ .unknown key ∈ changes := by
  unfold unknownKeys
  rw [List.mem_filterMap]
  constructor
  · rintro ⟨known | unknown, hmem, heq⟩
    · cases heq
    · obtain rfl := Option.some.inj heq
      exact hmem
  · exact fun hmem => ⟨_, hmem, rfl⟩

/-- Distinct keys are keys of distinct slots. -/
theorem nodup_knownChanges {changes : List (KeyedChange α)}
    (h : (changes.map KeyedChange.key).Nodup) :
    ((knownChanges changes).map Change.slot).Nodup := by
  -- unknown keys drop out, so the keys of the slots are some of the keys, in their order
  have hsublist : (((knownChanges changes).map Change.slot).map key).Sublist
      (changes.map KeyedChange.key) := by
    induction changes with
    | nil => exact List.Sublist.slnil
    | cons first rest ih =>
      have hrest := ih (List.nodup_cons.mp h).2
      cases first with
      | known change => exact hrest.cons_cons _
      | unknown key => exact hrest.cons _
  exact (hsublist.nodup h).of_map key

theorem slot?_key_ne_none (slot : Slot α) : slot? (α := α) (key slot) ≠ none := by
  intro h
  have hmiss := List.find?_eq_none.mp h slot (mem_slots slot)
  simp at hmiss

/-- The slots of a type are told apart by their keys, and none has the key of the record itself. -/
structure IsKeyed (α : Type) [Record α] : Prop where
  key_injective : Function.Injective (key : Slot α → String)
  key_ne_selfKey : ∀ slot : Slot α, key slot ≠ selfKey

/-- That the keys tell the slots apart is checked on the list of slots. -/
theorem isKeyed_of_nodup (hnodup : ((slots : List (Slot α)).map key).Nodup)
    (hself : selfKey ∉ (slots : List (Slot α)).map key) : IsKeyed α where
  key_injective first second h :=
    List.inj_on_of_nodup_map hnodup (mem_slots first) (mem_slots second) h
  key_ne_selfKey slot h := hself (h ▸ List.mem_map_of_mem (mem_slots slot))

end Record

/-- Changes as they are passed by key: each key stands once, and only one that names no slot is
unknown. -/
structure ChangeMap (α : Type) [Record α] where
  entries : List (KeyedChange α)
  nodup_keys : (entries.map KeyedChange.key).Nodup
  slot?_eq_none : ∀ key, .unknown key ∈ entries → Record.slot? (α := α) key = none

namespace ChangeMap

variable {α : Type} [Record α]

def keys (changes : ChangeMap α) : List String :=
  changes.entries.map KeyedChange.key

/-- The keys that name no slot. -/
def unknownKeys (changes : ChangeMap α) : List String :=
  Record.unknownKeys changes.entries

theorem key_mem_keys {changes : ChangeMap α} {entry : KeyedChange α} (h : entry ∈ changes.entries) :
    entry.key ∈ changes.keys :=
  List.mem_map_of_mem h

/-- The key of a slot stands among the keys just if the slot is changed. -/
theorem key_mem_keys_iff (hkeyed : Record.IsKeyed α) {changes : ChangeMap α}
    {slot : Record.Slot α} : Record.key slot ∈ changes.keys
      ↔ slot ∈ (Record.knownChanges changes.entries).map Change.slot := by
  constructor
  · intro hmem
    obtain ⟨entry, hentry, hkey⟩ := List.mem_map.mp hmem
    cases entry with
    | known change =>
      obtain rfl := hkeyed.key_injective hkey
      exact List.mem_map_of_mem (Record.mem_knownChanges.mpr hentry)
    | unknown key =>
      obtain rfl : key = Record.key slot := hkey
      -- an unknown change under the key of a slot would have been a known one
      exact absurd (changes.slot?_eq_none _ hentry) (Record.slot?_key_ne_none slot)
  · intro hmem
    obtain ⟨change, hchange, rfl⟩ := List.mem_map.mp hmem
    exact key_mem_keys (Record.mem_knownChanges.mp hchange)

/-- A key that stands among the keys and names no slot is unknown. -/
theorem mem_unknownKeys_of_ne {changes : ChangeMap α} {key : String} (hmem : key ∈ changes.keys)
    (hne : ∀ slot : Record.Slot α, Record.key slot ≠ key) : key ∈ changes.unknownKeys := by
  obtain ⟨entry, hentry, rfl⟩ := List.mem_map.mp hmem
  cases entry with
  | known change => exact absurd rfl (hne change.slot)
  | unknown key => exact Record.mem_unknownKeys.mpr hentry

/-- The changes of both, where those of the second stand in for those of the first that are under
the same key. -/
def overriddenBy (first second : ChangeMap α) : ChangeMap α where
  entries := first.entries.filter (fun entry => entry.key ∉ second.keys) ++ second.entries
  nodup_keys := by
    rw [List.map_append]
    refine List.nodup_append'.mpr ⟨?_, second.nodup_keys, ?_⟩
    · exact (List.filter_sublist.map KeyedChange.key).nodup first.nodup_keys
    · intro key hfirst hsecond
      obtain ⟨entry, hentry, rfl⟩ := List.mem_map.mp hfirst
      exact of_decide_eq_true (List.mem_filter.mp hentry).2 hsecond
  slot?_eq_none key hmem := by
    rcases List.mem_append.mp hmem with hfirst | hsecond
    · exact first.slot?_eq_none key (List.mem_filter.mp hfirst).1
    · exact second.slot?_eq_none key hsecond

/-- A map of two that only name slots names only slots. -/
theorem unknownKeys_overriddenBy {first second : ChangeMap α} (hfirst : first.unknownKeys = [])
    (hsecond : second.unknownKeys = []) : (first.overriddenBy second).unknownKeys = [] := by
  refine List.eq_nil_iff_forall_not_mem.mpr fun key hmem => ?_
  rcases List.mem_append.mp (Record.mem_unknownKeys.mp hmem) with hold | hnew
  · have hunknown := Record.mem_unknownKeys.mpr (List.mem_filter.mp hold).1
    exact List.eq_nil_iff_forall_not_mem.mp hfirst key hunknown
  · exact List.eq_nil_iff_forall_not_mem.mp hsecond key (Record.mem_unknownKeys.mpr hnew)

/-- Of the slots that the first changes are for, those stay that the second are not for. -/
theorem mem_knownChanges_kept (hkeyed : Record.IsKeyed α) {first second : ChangeMap α}
    (change : Change α) :
    change ∈ Record.knownChanges (first.entries.filter fun entry => entry.key ∉ second.keys)
      ↔ change ∈ Record.knownChanges first.entries
        ∧ change.slot ∉ (Record.knownChanges second.entries).map Change.slot := by
  rw [Record.mem_knownChanges, Record.mem_knownChanges, List.mem_filter, decide_eq_true_eq]
  exact and_congr_right fun _ => (key_mem_keys_iff hkeyed).not

end ChangeMap

/-! ## What changes come to -/

namespace Record

variable {α : Type} [Record α] {changes : ChangeMap α}

/-- With the key of the record itself there is no call, whatever else is passed. -/
theorem updateByKey_of_selfKey (h : selfKey ∈ changes.keys) (record : α) :
    updateByKey record changes.entries = .error .wrongArity :=
  if_pos h

/-- The least of the unknown keys is reported. -/
theorem updateByKey_of_unknown (hself : selfKey ∉ changes.keys) {key : String}
    (h : least? changes.unknownKeys = some key) (record : α) :
    updateByKey record changes.entries = .error (.error (.unknownKey (label α) key)) := by
  have hleast : least? (unknownKeys changes.entries) = some key := h
  refine (if_neg hself).trans ?_
  rw [hleast]

/-- Without an unknown key, all the changes are made. -/
theorem updateByKey_of_known (hkeyed : IsKeyed α) (h : changes.unknownKeys = []) (record : α) :
    updateByKey record changes.entries = .ok (update record (knownChanges changes.entries)) := by
  have hself : selfKey ∉ changes.keys := by
    intro hmem
    have hunknown := ChangeMap.mem_unknownKeys_of_ne hmem hkeyed.key_ne_selfKey
    exact List.eq_nil_iff_forall_not_mem.mp h selfKey hunknown
  have hleast : least? (unknownKeys changes.entries) = none := least?_eq_none_iff.mpr h
  refine (if_neg hself).trans ?_
  rw [hleast]

/-- **Known changes give a copy**, which holds what they say and otherwise what the record holds. -/
theorem exists_updateByKey_eq_ok (hkeyed : IsKeyed α) (h : changes.unknownKeys = []) (record : α) :
    ∃ copy, updateByKey record changes.entries = .ok copy
      ∧ (∀ change, .known change ∈ changes.entries → get copy change.slot = change.value)
      ∧ ∀ slot, key slot ∉ changes.keys → get copy slot = get record slot := by
  have hnodup := nodup_knownChanges changes.nodup_keys
  refine ⟨_, updateByKey_of_known hkeyed h record, fun change hchange => ?_, fun slot hslot => ?_⟩
  · exact get_update_of_mem hnodup (mem_knownChanges.mpr hchange) record
  · exact get_update_of_not_mem ((ChangeMap.key_mem_keys_iff hkeyed).not.mp hslot) record

/-- **Changing a copy is overriding the changes that made it.** -/
theorem updateByKey_overriddenBy (hkeyed : IsKeyed α) {first second : ChangeMap α}
    (hfirst : first.unknownKeys = []) (hsecond : second.unknownKeys = []) {record copy : α}
    (h : updateByKey record first.entries = .ok copy) :
    updateByKey record (first.overriddenBy second).entries = updateByKey copy second.entries := by
  -- in one map the first changes come without those that the second override
  have hupdate := update_append_eq (nodup_knownChanges first.nodup_keys)
    (nodup_knownChanges second.nodup_keys)
    (nodup_knownChanges ((List.filter_sublist.map KeyedChange.key).nodup first.nodup_keys))
    (ChangeMap.mem_knownChanges_kept hkeyed) record
  have hentries : knownChanges (first.overriddenBy second).entries
      = knownChanges (first.entries.filter fun entry => entry.key ∉ second.keys)
        ++ knownChanges second.entries := List.filterMap_append
  rw [updateByKey_of_known hkeyed hfirst] at h
  obtain rfl := Except.ok.inj h
  rw [updateByKey_of_known hkeyed hsecond, ← hupdate, ← hentries,
    updateByKey_of_known hkeyed (ChangeMap.unknownKeys_overriddenBy hfirst hsecond)]

/-- **The least unknown key is reported** just if there is one, and no change is under the key of
the record itself. -/
theorem reports_least_iff (record : α) :
    (∃ key ∈ changes.unknownKeys, (∀ other ∈ changes.unknownKeys, key ≤ other)
        ∧ updateByKey record changes.entries = .error (.error (.unknownKey (label α) key)))
      ↔ changes.unknownKeys ≠ [] ∧ selfKey ∉ changes.keys := by
  constructor
  · rintro ⟨key, hmem, -, hupdate⟩
    refine ⟨List.ne_nil_of_mem hmem, fun hself => ?_⟩
    rw [updateByKey_of_selfKey hself] at hupdate
    cases hupdate
  · rintro ⟨hne, hself⟩
    obtain ⟨key, hleast⟩ := Option.ne_none_iff_exists'.mp (least?_eq_none_iff.not.mpr hne)
    obtain ⟨hmem, hle⟩ := least?_eq_some_iff.mp hleast
    exact ⟨key, hmem, hle, updateByKey_of_unknown hself hleast record⟩

/-- There is no call just with the key of the record itself. -/
theorem updateByKey_eq_wrongArity_iff (hkeyed : IsKeyed α) (record : α) :
    updateByKey record changes.entries = .error .wrongArity ↔ selfKey ∈ changes.keys := by
  refine ⟨fun hupdate => ?_, fun hself => updateByKey_of_selfKey hself record⟩
  by_contra hself
  cases hleast : least? changes.unknownKeys with
  | none =>
    rw [updateByKey_of_known hkeyed (least?_eq_none_iff.mp hleast)] at hupdate
    cases hupdate
  | some key =>
    rw [updateByKey_of_unknown hself hleast] at hupdate
    cases hupdate

/-- **The order of changes does not matter.** -/
theorem updateByKey_perm (hkeyed : IsKeyed α) {reordered : ChangeMap α}
    (h : changes.entries.Perm reordered.entries) (record : α) :
    updateByKey record changes.entries = updateByKey record reordered.entries := by
  have hkeys : selfKey ∈ changes.keys ↔ selfKey ∈ reordered.keys :=
    (h.map KeyedChange.key).mem_iff
  have hknown : (knownChanges changes.entries).Perm (knownChanges reordered.entries) :=
    h.filterMap _
  -- the unknown keys come in another order too, but the least of them is the same
  have hleast : least? changes.unknownKeys = least? reordered.unknownKeys :=
    least?_perm (h.filterMap _)
  by_cases hself : selfKey ∈ changes.keys
  · rw [updateByKey_of_selfKey hself, updateByKey_of_selfKey (hkeys.mp hself)]
  cases hkey : least? changes.unknownKeys with
  | none =>
    rw [updateByKey_of_known hkeyed (least?_eq_none_iff.mp hkey),
      updateByKey_of_known hkeyed (least?_eq_none_iff.mp (hleast ▸ hkey)),
      update_perm hknown (nodup_knownChanges changes.nodup_keys)]
  | some key =>
    rw [updateByKey_of_unknown hself hkey,
      updateByKey_of_unknown (hkeys.not.mp hself) (hleast ▸ hkey)]

end Record

/-- Changes by key make copies in which just the slots they name differ, or they are refused as a
whole; nothing checks the values that they bring. -/
structure FollowsChanges (α : Type) [Record α] : Prop where
  copies : ∀ (record : α) (changes : ChangeMap α), changes.unknownKeys = [] →
    ∃ copy, Record.updateByKey record changes.entries = .ok copy
      ∧ (∀ change, .known change ∈ changes.entries → Record.get copy change.slot = change.value)
      ∧ ∀ slot, Record.key slot ∉ changes.keys → Record.get copy slot = Record.get record slot
  overrides : ∀ (record : α) (first second : ChangeMap α),
    first.unknownKeys = [] → second.unknownKeys = [] →
    ∃ between after, Record.updateByKey record first.entries = .ok between
      ∧ Record.updateByKey between second.entries = .ok after
      ∧ Record.updateByKey record (first.overriddenBy second).entries = .ok after
      ∧ ∀ slot, Record.key slot ∉ first.keys → Record.key slot ∉ second.keys →
          Record.get after slot = Record.get record slot
  reports_least : ∀ (record : α) (changes : ChangeMap α),
    (∃ key ∈ changes.unknownKeys, (∀ other ∈ changes.unknownKeys, key ≤ other)
        ∧ Record.updateByKey record changes.entries
          = .error (.error (.unknownKey (Record.label α) key)))
      ↔ changes.unknownKeys ≠ [] ∧ Record.selfKey ∉ changes.keys
  takes_no_self : ∀ (record : α) (changes : ChangeMap α),
    Record.updateByKey record changes.entries = .error .wrongArity
      ↔ Record.selfKey ∈ changes.keys
  ignores_order : ∀ (record : α) (changes reordered : ChangeMap α),
    changes.entries.Perm reordered.entries →
    Record.updateByKey record changes.entries = Record.updateByKey record reordered.entries

/-- What changes by key come to follows from the keys telling the slots apart, and from nothing else
about the type. -/
theorem followsChanges_of_isKeyed {α : Type} [Record α] (h : Record.IsKeyed α) :
    FollowsChanges α where
  copies record _ hknown := Record.exists_updateByKey_eq_ok h hknown record
  overrides record first second hfirst hsecond := by
    obtain ⟨between, hbetween, -, hkept⟩ := Record.exists_updateByKey_eq_ok h hfirst record
    -- the second changes are made on the copy that the first gave
    obtain ⟨after, hafter, -, hkept'⟩ := Record.exists_updateByKey_eq_ok h hsecond between
    refine ⟨between, after, hbetween, hafter, ?_, fun slot hslot hslot' => ?_⟩
    · rw [Record.updateByKey_overriddenBy h hfirst hsecond hbetween, hafter]
    · rw [hkept' slot hslot', hkept slot hslot]
  reports_least record _ := Record.reports_least_iff record
  takes_no_self record _ := Record.updateByKey_eq_wrongArity_iff h record
  ignores_order record _ _ hperm := Record.updateByKey_perm h hperm record

/-! ## Unchecked contents -/

/-- Records with the slots of a type that may hold other contents than that type has them hold. -/
def Unchecked (α : Type) [Record α] (Content : Record.Slot α → Type) : Type :=
  (slot : Record.Slot α) → Content slot

instance {α : Type} [Record α] {Content : Record.Slot α → Type} : Record (Unchecked α Content) where
  label := Record.label α
  Slot := Record.Slot α
  decEq := inferInstance
  slots := Record.slots
  key := Record.key
  Value := Content
  get record := record
  set := Function.update
  mem_slots := Record.mem_slots
  get_set_self record slot value := Function.update_self slot value record
  get_set_ne record _ value _ h := Function.update_of_ne h value record
  ext_get _ _ h := funext h

/-- What slots may hold has no part in how they are told apart. -/
theorem isKeyed_unchecked {α : Type} [Record α] (h : Record.IsKeyed α)
    (Content : Record.Slot α → Type) : Record.IsKeyed (Unchecked α Content) :=
  ⟨h.key_injective, h.key_ne_selfKey⟩

end Scaffold
