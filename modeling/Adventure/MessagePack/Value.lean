import Adventure.Text.Utf8

/-! # MessagePack values

The tree of a MessagePack value. Numbers keep whether they were stored with a sign; texts keep their
bytes, which may be no UTF-8.
-/

namespace Adventure.MessagePack

/-- A MessagePack value. -/
inductive Value where
  | nil
  | bool (b : Bool)
  | unsigned (n : Nat)
  | signed (i : Int)
  | float (bits : Nat)
  | text (bytes : Bytes)
  | binary (bytes : Bytes)
  | array (items : List Value)
  | map (members : List (Value × Value))
  | extension (bytes : Bytes)
  deriving Inhabited

namespace Value

/-- A text. -/
def str (s : String) : Value := .text (Text.Utf8.encode s)

/-- An integer, stored with a sign only if it is negative. -/
def int (i : Int) : Value := if 0 ≤ i then .unsigned i.toNat else .signed i

/-- A map from texts. -/
def record (members : List (String × Value)) : Value :=
  .map (members.map fun (name, v) => (str name, v))

/-- Whether at most `levels` arrays, maps and extensions stand one within another. -/
def isWithin : (levels : Nat) → Value → Bool
  | 0, .array _ => false
  | 0, .map _ => false
  | 0, .extension _ => false
  | levels + 1, .array items => items.all (isWithin levels)
  | levels + 1, .map members =>
    members.all fun (key, v) => isWithin levels key && isWithin levels v
  | _, _ => true

end Value

end Adventure.MessagePack
