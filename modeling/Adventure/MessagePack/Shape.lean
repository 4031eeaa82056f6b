import Adventure.MessagePack.Value

/-! # Shapes of MessagePack values

A `Shape α` says how values of type `α` stand in MessagePack. Reading takes the number of levels of
records, lists and skipped values that may stand one within another; the map of a choice is no
level.

* Names of fields and cases are texts; a number without a sign stands for the name with that place.
* `fields?` — the fields of a record, from a map in any order or an array in order. Unknown names
  are skipped; missing and repeated ones are refused, and so are arrays of another length.
* `case?` — the case of a choice: its name alone, or a map of the name and the content.
-/

namespace Adventure.MessagePack

/-- How values of type `α` stand in MessagePack. -/
structure Shape (α : Type) where
  write : α → Value
  read? : (levels : Nat) → Value → Option α

/-- The text of bytes that are one. -/
def utf8? (bytes : Bytes) : Option String := String.fromUTF8? ⟨bytes.toArray⟩

namespace Shape

def bool : Shape Bool where
  write := .bool
  read?
    | _, .bool b => some b
    | _, _ => none

/-- Integers from `low` to below `high`. -/
def intWithin (low high : Int) : Shape Int where
  write := .int
  read? _ v :=
    let i? := match v with
      | .unsigned n => some (n : Int)
      | .signed i => some i
      | _ => none
    i?.filter fun i => low ≤ i && i < high

def int32 : Shape Int32 where
  write i := .int i.toInt
  read? levels v := ((intWithin (-2 ^ 31) (2 ^ 31)).read? levels v).map Int32.ofInt

/-- Natural numbers below `limit`. -/
def natBelow (limit : Nat) : Shape Nat where
  write n := .unsigned n
  read? levels v := ((intWithin 0 limit).read? levels v).map Int.toNat

def text : Shape String where
  write := .str
  read?
    | _, .text bytes => utf8? bytes
    | _, .binary bytes => utf8? bytes
    | _, _ => none

/-- Lists of records. No bytes at all are a list as well, the empty one. -/
def list {α : Type} (item : Shape α) : Shape (List α) where
  write items := .array (items.map item.write)
  read?
    | levels + 1, .array items => items.mapM (item.read? levels)
    | _, .binary [] => some []
    | _, _ => none

end Shape

/-! ## Names -/

/-- A key as the place of a name among `names`; `some none` is an unknown name. -/
def place? (names : List String) : Value → Option (Option Nat)
  | .unsigned n => some (if n < names.length then some n else none)
  | .text bytes | .binary bytes => some (names.findIdx? (Text.Utf8.encode · = bytes))
  | _ => none

/-- Puts the members of a map in the order of the places; members without one are skipped. -/
def placeMembers (names : List String) (levels : Nat) (members : List (Value × Value)) :
    Option (List (Option Value)) :=
  members.foldlM
    (fun found (key, v) => do
      match ← place? names key with
      | none => if v.isWithin levels then some found else none
      | some i => if (found.getD i none).isSome then none else return found.set i (some v))
    (List.replicate names.length none)

/-- The fields of a record, in the order of `names`, and the levels that are left for them. -/
def fields? (names : List String) : (levels : Nat) → Value → Option (Nat × List Value)
  | levels + 1, .array items => if items.length = names.length then some (levels, items) else none
  | levels + 1, .map members =>
    (placeMembers names levels members).bind fun found => (found.mapM id).map (levels, ·)
  | _, _ => none

/-- The case of a choice, and its content unless the name stands alone. -/
def case? (names : List String) : Value → Option (Nat × Option Value)
  | .map [(key, content)] => do return (← ← place? names key, some content)
  | .map _ => none
  | v => do return (← ← place? names v, none)

/-- A choice between cases without content. -/
def Shape.choice {α : Type} (nameOf : α → String) (cases : List α) : Shape α where
  write a := .str (nameOf a)
  read? _ v :=
    match case? (cases.map nameOf) v with
    | some (i, none) => cases[i]?
    | some (i, some .nil) => cases[i]?
    | _ => none

end Adventure.MessagePack
