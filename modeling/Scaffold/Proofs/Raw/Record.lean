import Scaffold.Raw.Record

/-!
# Reading a whole record

An object is read as a record if it settles every slot of it: by a member that is read as what the
slot holds, or by having none where the fresh record holds the same
(`RecordReader.readMembers_of_settles`). If every slot has such a member, then it does not matter
what the fresh record holds (`RecordReader.readMembers_eq_ok`).
-/

namespace Scaffold.RecordReader

variable {α : Type} [Record α]

/-- Overwrites the given slots of the first record with those of the second. -/
def copySlots (target source : α) (slots : List (Record.Slot α)) : α :=
  slots.foldl (fun target slot => Record.set target slot (Record.get source slot)) target

/-- A slot that is copied, or was the same before, is the same. -/
theorem get_copySlots {target source : α} {slots : List (Record.Slot α)} {slot : Record.Slot α}
    (h : slot ∈ slots ∨ Record.get target slot = Record.get source slot) :
    Record.get (copySlots target source slots) slot = Record.get source slot := by
  induction slots generalizing target with
  | nil => exact h.resolve_left List.not_mem_nil
  | cons first rest ih =>
    refine ih ?_
    by_cases heq : slot = first
    · subst heq
      exact .inr (Record.get_set_self target slot _)
    · rw [Record.get_set_ne target first _ slot heq]
      exact h.imp_left fun hmem => (List.mem_cons.mp hmem).resolve_left heq

variable [RecordReader α]

/-- The member of a slot is read as what the slot of the record holds. -/
def Gives (members : List (String × Raw)) (record : α) (slot : Record.Slot α) : Prop :=
  ∃ raw, Raw.member? (Record.key slot) members = some raw
    ∧ readSlot slot raw = .ok (Record.get record slot)

/-- The members leave the slot of the record as it is in the fresh one. -/
def Leaves (members : List (String × Raw)) (record : α) (slot : Record.Slot α) : Prop :=
  Raw.member? (Record.key slot) members = none ∧ isRequired slot = false
    ∧ Record.get (fresh : α) slot = Record.get record slot

/-- The members say that the slot is as in the record. -/
def Settles (members : List (String × Raw)) (record : α) (slot : Record.Slot α) : Prop :=
  Gives members record slot ∨ Leaves members record slot

/-- A member that is read as what the record holds sets the slot to that. -/
theorem readMember_of_gives {members : List (String × Raw)} {record : α} {slot : Record.Slot α}
    (h : Gives members record slot) :
    readMember members slot
      = .ok fun target : α => Record.set target slot (Record.get record slot) := by
  obtain ⟨raw, hmember, hread⟩ := h
  unfold readMember
  rw [hmember]
  show ((readSlot slot raw).below _).map _ = _
  rw [hread]
  rfl

/-- A slot without a member changes nothing. -/
theorem readMember_of_leaves {members : List (String × Raw)} {record : α} {slot : Record.Slot α}
    (h : Leaves members record slot) : (readMember members slot : Checked (α → α)) = .ok id := by
  obtain ⟨hmember, hrequired, -⟩ := h
  unfold readMember
  rw [hmember]
  exact if_neg (by simp [hrequired])

/-- Only the slots with a member are written. -/
theorem readSlots_of_settles {members : List (String × Raw)} {record : α}
    (h : ∀ slot, Settles members record slot) (slots : List (Record.Slot α)) (target : α) :
    readSlots members slots (.ok target)
      = .ok (copySlots target record
          (slots.filter fun slot => (Raw.member? (Record.key slot) members).isSome)) := by
  induction slots generalizing target with
  | nil => rfl
  | cons slot slots ih =>
    rw [readSlots]
    -- a slot with a member is copied, and one without is passed over
    rcases h slot with hgives | hleaves
    · obtain ⟨raw, hmember, -⟩ := id hgives
      rw [readMember_of_gives hgives, List.filter_cons_of_pos (by simp [hmember])]
      exact ih (Record.set target slot (Record.get record slot))
    · rw [readMember_of_leaves hleaves, List.filter_cons_of_neg (by simp [hleaves.1])]
      exact ih target

/-- **Members that settle every slot of a record are read as the record.** -/
theorem readMembers_of_settles {members : List (String × Raw)} {record : α}
    (h : ∀ slot, Settles members record slot) :
    (readMembers members : Checked α) = .ok record := by
  unfold readMembers
  rw [readSlots_of_settles h]
  refine congrArg Except.ok (Record.ext_get _ _ fun slot => get_copySlots ?_)
  rcases h slot with ⟨raw, hmember, -⟩ | ⟨-, -, hfresh⟩
  · exact .inl (List.mem_filter.mpr ⟨Record.mem_slots slot, by simp [hmember]⟩)
  · exact .inr hfresh

/-- **Members that give every slot of a record are read as the record.** -/
theorem readMembers_eq_ok {members : List (String × Raw)} {record : α}
    (h : ∀ slot, Gives members record slot) : (readMembers members : Checked α) = .ok record :=
  readMembers_of_settles fun slot => .inl (h slot)

end Scaffold.RecordReader
