import Adventure.Json.Value
import Adventure.Number

/-! # Shapes of JSON values

A `Shape α` says how values of type `α` stand in JSON: how they are written and which JSON values
are read as one.

* `case?` — the case and the content of a value that is one of several cases.
* `int32`, `text`, `list`, `option`, `choice`, … — the shapes of the usual types.
* `Field ρ` — one named part of a record, with the shape of that part.
* `record` — an object of fields. A field that is missing keeps the value that the blank record
  has; unknown members are skipped; a field given twice is refused. A record may also be an array of
  its fields in order, cut off anywhere behind the required ones.
-/

namespace Adventure.Json

/-- How values of type `α` stand in JSON. -/
structure Shape (α : Type) where
  write : α → Value
  read? : Value → Option α

/-- The case that a value is of, by name, and its content: an object of both, or the name alone
where the content is `null`. -/
def case? : Value → Option (String × Value)
  | .str name => some (name, .null)
  | .obj [(name, content)] => some (name, content)
  | _ => none

/-- What is written is read back. -/
def Shape.Lawful {α : Type} (shape : Shape α) : Prop := ∀ a, shape.read? (shape.write a) = some a

namespace Shape

variable {α β : Type}

/-! ## Scalars -/

def bool : Shape Bool where
  write := .bool
  read?
    | .bool b => some b
    | _ => none

def text : Shape String where
  write := .str
  read?
    | .str s => some s
    | _ => none

def integer : Shape Int where
  write i := .int i
  read?
    | .int i => some i
    | _ => none

/-- Natural numbers below `limit`. -/
def natBelow (limit : Nat) : Shape Nat where
  write n := .nat n
  read?
    | .int i => if 0 ≤ i ∧ i < limit then some i.toNat else none
    | _ => none

/-- Indices and counts. -/
def index : Shape Nat := natBelow (2 ^ 64)

def uint8 : Shape UInt8 where
  write n := .nat n.toNat
  read? v := ((natBelow (2 ^ 8)).read? v).map UInt8.ofNat

def uint32 : Shape UInt32 where
  write n := .nat n.toNat
  read? v := ((natBelow (2 ^ 32)).read? v).map UInt32.ofNat

def int32 : Shape Int32 where
  write n := .int n.toInt
  read?
    | .int i => if -2 ^ 31 ≤ i ∧ i < 2 ^ 31 then some (Int32.ofInt i) else none
    | _ => none

/-! ## Compounds -/

def list (item : Shape α) : Shape (List α) where
  write items := .arr (items.map item.write)
  read?
    | .arr items => items.mapM item.read?
    | _ => none

/-- A value or `null`. -/
def option (value : Shape α) : Shape (Option α) where
  write
    | some a => value.write a
    | none => .null
  read?
    | .null => some none
    | v => (value.read? v).map some

/-- An array of exactly two. -/
def pair (first : Shape α) (second : Shape β) : Shape (α × β) where
  write p := .arr [first.write p.1, second.write p.2]
  read?
    | .arr [a, b] => do return (← first.read? a, ← second.read? b)
    | _ => none

/-- A value seen through another type. -/
def via (shape : Shape β) (view : α → β) (ofView : β → α) : Shape α where
  write a := shape.write (view a)
  read? v := (shape.read? v).map ofView

/-- A case without content, by name. -/
def choice (nameOf : α → String) (cases : List α) : Shape α where
  write a := .str (nameOf a)
  read? v :=
    match case? v with
    | some (name, .null) => cases.find? (nameOf · = name)
    | _ => none

end Shape

/-! ## Records -/

/-- A named part of a record. -/
structure Field (ρ : Type) where
  name : String
  required : Bool
  write : ρ → Value
  /-- Takes the part over into a record. -/
  read? : Value → ρ → Option ρ

/-- The field `name` of shape `shape`, which may be missing. -/
def field {ρ α : Type} (name : String) (shape : Shape α) (get : ρ → α) (set : α → ρ → ρ) :
    Field ρ where
  name
  required := false
  write r := shape.write (get r)
  read? v r := (shape.read? v).map (set · r)

/-- The field `name` of shape `shape`, which may not be missing. -/
def requiredField {ρ α : Type} (name : String) (shape : Shape α) (get : ρ → α)
    (set : α → ρ → ρ) : Field ρ :=
  { field name shape get set with required := true }

/-- Reads the fields in order; `given` says what was given for each. -/
def readFields {ρ : Type} (fields : List (Field ρ)) (given : List (Option Value)) (r : ρ) :
    Option ρ :=
  match fields, given with
  | f :: fields, some v :: given => (f.read? v r).bind (readFields fields given ·)
  | f :: fields, none :: given => if f.required then none else readFields fields given r
  | f :: fields, [] => if f.required then none else readFields fields [] r
  | [], [] => some r
  | [], _ :: _ => none

/-- What an object gives for `name`: nothing, one value, or too many. -/
def givenFor (members : List (String × Value)) (name : String) : Option (Option Value) :=
  match members.filter (·.1 = name) with
  | [] => some none
  | [(_, v)] => some (some v)
  | _ :: _ :: _ => none

/-- The record of the given fields; `blank` has what missing fields are read as. -/
def Shape.record {ρ : Type} (blank : ρ) (fields : List (Field ρ)) : Shape ρ where
  write r := .obj (fields.map fun f => (f.name, f.write r))
  read?
    | .obj members => do
      let given ← fields.mapM fun f => givenFor members f.name
      readFields fields given blank
    | .arr items => readFields fields (items.map some) blank
    | _ => none

end Adventure.Json
