import Scaffold.Error

/-!
# Records

A record has named slots, and is determined by what they hold. `Record` gives the slots of a type
in the order of their declaration, with the key that each is known by outside the program.

* `Record.update` overwrites some slots; `Record.updateByKey` does so by key and refuses a key
  that names no slot, or that the record itself is passed under.
* `RecordReader.read` reads a record from an object: a key that names no slot is ignored, and a
  slot without a key keeps what it holds in a fresh record.
-/

namespace Scaffold

/-- A type whose values are determined by what their slots hold. -/
class Record (α : Type) where
  /-- What the type is called. -/
  label : String
  /-- The names of the slots. -/
  Slot : Type
  /-- Two slots can be told apart. -/
  decEq : DecidableEq Slot
  /-- All slots, in the order of their declaration. -/
  slots : List Slot
  key : Slot → String
  /-- What a slot holds. -/
  Value : Slot → Type
  get : α → (slot : Slot) → Value slot
  set : α → (slot : Slot) → Value slot → α
  mem_slots : ∀ slot, slot ∈ slots
  get_set_self : ∀ record slot value, get (set record slot value) slot = value
  get_set_ne : ∀ record slot value other, other ≠ slot →
    get (set record slot value) other = get record other
  ext_get : ∀ first second, (∀ slot, get first slot = get second slot) → first = second

namespace Record

variable {α : Type} [Record α]

instance : DecidableEq (Slot α) := decEq

/-- The slot with the given key. -/
def slot? (key : String) : Option (Slot α) :=
  (slots (α := α)).find? fun slot => Record.key slot == key

end Record

/-- A slot and what it is to hold. -/
structure Change (α : Type) [Record α] where
  slot : Record.Slot α
  value : Record.Value slot

/-- A change named by a key, which may be the key of no slot. -/
inductive KeyedChange (α : Type) [Record α] where
  | known (change : Change α)
  | unknown (key : String)

/-- The key that a change is made under. -/
def KeyedChange.key {α : Type} [Record α] : KeyedChange α → String
  | .known change => Record.key change.slot
  | .unknown key => key

namespace Record

variable {α : Type} [Record α]

/-- The record after the changes, made in order. -/
def update (record : α) (changes : List (Change α)) : α :=
  changes.foldl (fun record change => set record change.slot change.value) record

/-- The changes whose key names a slot. -/
def knownChanges (changes : List (KeyedChange α)) : List (Change α) :=
  changes.filterMap fun
    | .known change => some change
    | .unknown _ => none

/-- The keys that name no slot. -/
def unknownKeys (changes : List (KeyedChange α)) : List String :=
  changes.filterMap fun
    | .known _ => none
    | .unknown key => some key

/-- The least of some texts, by code points. -/
def least? : List String → Option String
  | [] => none
  | key :: keys =>
    match least? keys with
    | none => some key
    | some other => some (if key ≤ other then key else other)

/-- The key that a record itself is passed under when it is to be changed. -/
def selfKey : String := "self"

/-- The record after the changes, unless a key among them names no slot; the least such key is
reported. A change under `selfKey` would pass the record twice, which no call takes. -/
def updateByKey (record : α) (changes : List (KeyedChange α)) : Except Failure α :=
  if selfKey ∈ changes.map KeyedChange.key then .error .wrongArity
  else
    match least? (unknownKeys changes) with
    | some key => .error (.error (.unknownKey (label α) key))
    | none => .ok (update record (knownChanges changes))

end Record

/-- How a record is read from an object. -/
class RecordReader (α : Type) [Record α] where
  /-- The record with every slot at its default. -/
  fresh : α
  /-- The slot has no default. -/
  isRequired : Record.Slot α → Bool
  readSlot : (slot : Record.Slot α) → Raw → Checked (Record.Value slot)

namespace RecordReader

variable {α : Type} [Record α] [RecordReader α]

/-- What the members of an object say about a slot. -/
def readMember (members : List (String × Raw)) (slot : Record.Slot α) : Checked (α → α) :=
  match Raw.member? (Record.key slot) members with
  | some raw =>
    (readSlot slot raw).below (.key (Record.key slot)) |>.map fun value record =>
      Record.set record slot value
  | none =>
    if isRequired slot then (Checked.fail .missing).below (.key (Record.key slot)) else .ok id

/-- What the members of an object say about the given slots, on top of a record. -/
def readSlots (members : List (String × Raw)) :
    List (Record.Slot α) → Checked α → Checked α
  | [], record => record
  | slot :: slots, record =>
    readSlots members slots (Checked.both (fun record change => change record) record
      (readMember members slot))

/-- The record that the members of an object describe. -/
def readMembers (members : List (String × Raw)) : Checked α :=
  readSlots members Record.slots (.ok fresh)

/-- The record that a raw value describes. -/
def read : Raw → Checked α
  | .object members => readMembers members
  | _ => Checked.fail .notObject

end RecordReader

/-- A record is read from an object. -/
instance {α : Type} [Record α] [RecordReader α] : Readable α := ⟨RecordReader.read⟩

end Scaffold
