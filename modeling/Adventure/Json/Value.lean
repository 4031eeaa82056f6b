/-! # JSON values

The tree of a JSON text, members in the order of the text, repeated keys included.
-/

namespace Adventure.Json

/-- A JSON value. -/
inductive Value where
  | null
  | bool (b : Bool)
  /-- A number written as a plain integer. -/
  | int (i : Int)
  /-- Any other number, as it was written: with a fraction, an exponent, or as `-0`. -/
  | real (literal : String)
  | str (s : String)
  | arr (items : List Value)
  | obj (members : List (String × Value))
  /-- Well-formed JSON that denotes no value: a string with a lone surrogate or with bytes that are
  no UTF-8, or an object with such a key. It may be skipped, and no reader accepts it. -/
  | meaningless
  deriving Inhabited

namespace Value

/-- The value of a natural number. -/
def nat (n : Nat) : Value := .int n

/-- The value of a list of texts. -/
def texts (items : List String) : Value := .arr (items.map .str)

end Value

end Adventure.Json
