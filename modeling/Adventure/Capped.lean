/-! # Lists with a limit

A `Capped n α` is a list of at most `n` items. What does not fit is refused; nothing is dropped.
-/

namespace Adventure

/-- A list of at most `n` items. -/
structure Capped (n : Nat) (α : Type) where
  toList : List α
  length_le : toList.length ≤ n
  deriving DecidableEq

namespace Capped

variable {n : Nat} {α : Type}

@[ext] theorem ext {c d : Capped n α} (h : c.toList = d.toList) : c = d := by
  cases c; cases d; cases h; rfl

def empty : Capped n α := ⟨[], Nat.zero_le n⟩

instance : EmptyCollection (Capped n α) := ⟨empty⟩
instance : Inhabited (Capped n α) := ⟨empty⟩

/-- The items as a capped list, if there are not too many. -/
def ofList? (items : List α) : Option (Capped n α) :=
  if h : items.length ≤ n then some ⟨items, h⟩ else none

def length (c : Capped n α) : Nat := c.toList.length

def isFull (c : Capped n α) : Bool := n ≤ c.length

/-- Appends an item; a full list refuses it. -/
def push? (c : Capped n α) (a : α) : Option (Capped n α) :=
  if h : c.length < n then some ⟨c.toList ++ [a], by simp [length] at h ⊢; omega⟩ else none

/-- Keeps the first `len` items. -/
def truncate (c : Capped n α) (len : Nat) : Capped n α :=
  ⟨c.toList.take len, by have := c.length_le; simp; omega⟩

/-- Cuts or fills with `a` up to `len` items; a length above the limit is refused. -/
def resize? (c : Capped n α) (len : Nat) (a : α) : Option (Capped n α) :=
  if h : len ≤ n then
    some ⟨c.toList.take len ++ List.replicate (len - c.length) a, by simp [length]; omega⟩
  else none

def get? (c : Capped n α) (i : Nat) : Option α := c.toList[i]?

/-- Replaces the item at `i`, if there is one. -/
def set (c : Capped n α) (i : Nat) (a : α) : Capped n α :=
  ⟨c.toList.set i a, by simpa using c.length_le⟩

/-- Changes every item. -/
def map {β : Type} (f : α → β) (c : Capped n α) : Capped n β :=
  ⟨c.toList.map f, by simpa using c.length_le⟩

/-- Changes every item of a list, up to the first that cannot be. -/
def mapItems {β ε : Type} (f : α → Except ε β) :
    (items : List α) → Except ε { changed : List β // changed.length = items.length }
  | [] => .ok ⟨[], rfl⟩
  | a :: rest => do
    let b ← f a
    let others ← mapItems f rest
    return ⟨b :: others.1, congrArg (· + 1) others.2⟩

/-- Changes every item, up to the first that cannot be. -/
def mapM {β ε : Type} (f : α → Except ε β) (c : Capped n α) : Except ε (Capped n β) := do
  let changed ← mapItems f c.toList
  return ⟨changed.1, Nat.le_trans (Nat.le_of_eq changed.2) c.length_le⟩

theorem map_id (c : Capped n α) : c.map id = c := ext (List.map_id c.toList)

end Capped

end Adventure
