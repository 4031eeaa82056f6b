/-! # Arenas

An `Arena` stores items in slots and hands out keys. A key carries the generation of its slot, a
number that is never used twice, so that the key of a removed item finds nothing even after its
slot has been filled again.
-/

namespace Adventure

/-- A slot number with the generation that was current when the slot was filled. -/
structure Arena.Key where
  index : Nat
  generation : Nat
  deriving DecidableEq, Repr

/-- A place for one item. -/
structure Arena.Slot (α : Type) where
  generation : Nat
  item : Option α
  deriving DecidableEq, Repr

/-- Slot storage with generation-checked keys. -/
structure Arena (α : Type) where
  slots : List (Arena.Slot α)
  /-- Empty slots, the next one to fill first. -/
  free : List Nat
  /-- The generation given out last. -/
  generation : Nat
  /-- The number of live items, counted along. -/
  size : Nat
  deriving DecidableEq, Repr

namespace Arena

variable {α : Type}

def empty : Arena α := ⟨[], [], 0, 0⟩

instance : EmptyCollection (Arena α) := ⟨empty⟩
instance : Inhabited (Arena α) := ⟨empty⟩

/-- The item stored under `key`. -/
def get? (a : Arena α) (key : Key) : Option α :=
  match a.slots[key.index]? with
  | some slot => if slot.generation = key.generation then slot.item else none
  | none => none

def contains (a : Arena α) (key : Key) : Bool := (a.get? key).isSome

/-- Stores `item` in the slot freed last, or in a new one. -/
def insert (a : Arena α) (item : α) : Key × Arena α :=
  let generation := a.generation + 1
  match a.free with
  | index :: free =>
    (⟨index, generation⟩,
      ⟨a.slots.set index ⟨generation, some item⟩, free, generation, a.size + 1⟩)
  | [] =>
    (⟨a.slots.length, generation⟩,
      ⟨a.slots ++ [⟨generation, some item⟩], [], generation, a.size + 1⟩)

/-- Replaces the item under `key`; a stale key changes nothing. -/
def set (a : Arena α) (key : Key) (item : α) : Arena α :=
  if a.contains key then
    { a with slots := a.slots.set key.index ⟨key.generation, some item⟩ }
  else a

/-- Empties the slot of `key`; a stale key changes nothing. -/
def erase (a : Arena α) (key : Key) : Arena α :=
  if a.contains key then
    { a with
      slots := a.slots.set key.index ⟨key.generation, none⟩
      free := key.index :: a.free
      size := a.size - 1 }
  else a

/-- Removes the item under `key` and hands it out. -/
def take (a : Arena α) (key : Key) : Option α × Arena α :=
  match a.get? key with
  | some item =>
    (some item,
      { a with
        slots := a.slots.set key.index ⟨key.generation, none⟩
        free := key.index :: a.free
        size := a.size - 1 })
  | none => (none, a)

/-- Live items with their keys, in the order of the slots. -/
def toList (a : Arena α) : List (Key × α) :=
  (a.slots.mapIdx fun index slot => slot.item.map ((⟨index, slot.generation⟩, ·))).filterMap id

def isEmpty (a : Arena α) : Bool := a.size == 0

/-- Empties every slot. The highest one is filled again first. -/
def clear (a : Arena α) : Arena α :=
  { a with
    slots := a.slots.map fun slot => { slot with item := none }
    free := (a.toList.map (·.1.index)).reverse ++ a.free
    size := 0 }

end Arena

end Adventure
