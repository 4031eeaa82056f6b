import Adventure.InPlace
import Adventure.NameTable
import Adventure.Text.Blank
import Adventure.Text.Numeral

/-! # Custom properties

A game declares its custom properties once, in a `Schema`; entities then carry texts for them. A
value comes from one of three layers: what scripts have set, else what the author gave the entity,
else the default of the declaration.

* `Schema.resolve` — the declaration of a property, provided that it suits the accessor in use.
* `leadingInteger` — the number that a text starts with.
* `truncate` — the longest prefix that fits a buffer.
-/

namespace Adventure.Property

/-- Declared type of a property. -/
inductive Kind where
  | boolean
  | integer
  | string
  deriving DecidableEq, Repr

namespace Kind

def all : List Kind := [boolean, integer, string]

def name : Kind → String
  | boolean => "boolean"
  | integer => "integer"
  | string => "string"

/-- Booleans and integers share the numeric accessors. -/
def isText : Kind → Bool
  | string => true
  | boolean | integer => false

end Kind

/-- Declaration of one property. -/
structure Declaration where
  name : String
  kind : Kind
  description : String := ""
  default : String := ""
  deriving DecidableEq, Repr

/-- All declarations of a game. -/
abbrev Schema := NameTable Declaration Declaration.name

/-- What a script got wrong about a property. -/
inductive Fault where
  /-- No such property. -/
  | unknown (name : String)
  /-- The property is of the other accessor family than `wanted`. -/
  | mismatch (name : String) (wanted : Kind)
  /-- No such entity. -/
  | noEntity (what : String)
  deriving DecidableEq, Repr

/-- The wording of a fault. -/
def Fault.message : Fault → String
  | .unknown name =>
    s!"Did not find property '{name}' in the schema. Make sure you are using the property's " ++
    "name, and not its description, when calling this command."
  | .mismatch name wanted =>
    if wanted.isText then
      s!"Property '{name}' isn't a text property.  " ++
      "Use GetProperty/SetProperty for non-text properties"
    else
      s!"Property '{name}' is a text property.  " ++
      "Use GetTextProperty/SetTextProperty for text properties"
  | .noEntity what => s!"{what} does not exist"

/-! ## Numbers in texts -/

/-- The digits in front. -/
def leadingDigits (radix : Nat) : List Char → List Nat
  | [] => []
  | c :: rest =>
    match Text.digit? radix c with
    | some d => d :: leadingDigits radix rest
    | none => []

/-- The radix that the first characters announce, and what follows the announcement: `0x` before a
digit announces 16, a `0` announces 8. -/
def radix : List Char → Nat × List Char
  | '0' :: x :: c :: rest =>
    if (x = 'x' ∨ x = 'X') ∧ (Text.digit? 16 c).isSome then (16, c :: rest)
    else (8, '0' :: x :: c :: rest)
  | '0' :: rest => (8, '0' :: rest)
  | text => (10, text)

/-- The largest magnitude that is told apart. -/
def magnitudeLimit : Nat := 2 ^ 63 - 1

/-- The number that digits denote, or the limit if that is less. The limit is applied at every step,
so that long runs of digits cost no more than short ones. -/
def boundedValue (radix : Nat) (digits : List Nat) : Nat :=
  digits.foldl (fun n d => min (min (n * radix) magnitudeLimit + d) magnitudeLimit) 0

/-- The nearest number that a field can hold. -/
def clampInt32 (i : Int) : Int32 := Int32.ofInt (max (-2 ^ 31) (min i (2 ^ 31 - 1)))

/-- The sign in front, and the rest. -/
def sign : List Char → Bool × List Char
  | '-' :: rest => (true, rest)
  | '+' :: rest => (false, rest)
  | text => (false, text)

/-- The number that a text starts with: white space, a sign, a radix, then as many digits as there
are. What follows is ignored; no digits stand for 0; what is out of range becomes the nearest number
within. -/
def leadingInteger (text : String) : Int32 :=
  let (negative, rest) := sign (Text.trimStart text.toList)
  let (base, rest) := radix rest
  let magnitude := boundedValue base (leadingDigits base rest)
  clampInt32 (if negative then -(magnitude : Int) else magnitude)

/-! ## Texts in buffers -/

/-- The longest prefix of at most `limit` bytes. -/
def takeBytes (limit : Nat) : List Char → List Char
  | [] => []
  | c :: rest => if c.utf8Size ≤ limit then c :: takeBytes (limit - c.utf8Size) rest else []

/-- What of `text` fits a buffer of `capacity` bytes, one of which ends the text. -/
def truncate (text : String) (capacity : Nat) : String :=
  String.ofList (takeBytes (capacity - 1) text.toList)

/-! ## Layers -/

/-- The declaration of `name`, if its type belongs to the family of `wanted`. -/
def Schema.resolve (schema : Schema) (name : String) (wanted : Kind) : Except Fault Declaration :=
  match schema.get? name with
  | none => .error (.unknown name)
  | some d => if d.kind.isText = wanted.isText then .ok d else .error (.mismatch name wanted)

/-- The texts of one entity: what its author gave it and what scripts have set. -/
structure Layers where
  authored : PropertyMap := ∅
  overrides : PropertyMap := ∅

namespace Layers

/-- The text called `name` in the first layer that has it. -/
def value (l : Layers) (name default : String) : String :=
  ((l.overrides.text? name).or (l.authored.text? name)).getD default

/-- The text of a declared property. -/
def valueOf (l : Layers) (d : Declaration) : String := l.value d.name d.default

/-- The number of the numeric property `name`. -/
def int (l : Layers) (schema : Schema) (name : String) : Except Fault Int32 :=
  (schema.resolve name .integer).map fun d => leadingInteger (l.valueOf d)

/-- The text of the text property `name`. -/
def text (l : Layers) (schema : Schema) (name : String) : Except Fault String :=
  (schema.resolve name .string).map l.valueOf

/-- Sets a property of the family of `wanted` to a text. -/
def setInPlace (schema : Schema) (name : String) (wanted : Kind) (text : String) :
    InPlace Fault Layers Unit := do
  let d ← InPlace.ask fun _ => schema.resolve name wanted
  modify fun l => { l with overrides := l.overrides.set d.name text }

/-- Sets the numeric property `name`. -/
def setIntInPlace (schema : Schema) (name : String) (value : Int32) : InPlace Fault Layers Unit :=
  setInPlace schema name .integer (toString value.toInt)

/-- Sets the text property `name`. -/
def setTextInPlace (schema : Schema) (name value : String) : InPlace Fault Layers Unit :=
  setInPlace schema name .string value

/-- The layers with the numeric property `name` set. -/
def setInt (l : Layers) (schema : Schema) (name : String) (value : Int32) : Except Fault Layers :=
  ((setIntInPlace schema name value).result l).map (·.2)

/-- The layers with the text property `name` set. -/
def setText (l : Layers) (schema : Schema) (name value : String) : Except Fault Layers :=
  ((setTextInPlace schema name value).result l).map (·.2)

end Layers

end Adventure.Property
