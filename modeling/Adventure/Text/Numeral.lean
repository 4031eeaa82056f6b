import Adventure.Number

/-! # Numerals

Digits, and texts that denote a number of 32 bits: a sign, or none, and decimal digits.

* `parseInt32` — the number that a whole text denotes. The first character that is wrong, or that
  leaves the range, decides the fault.
-/

namespace Adventure.Text

/-- The value of a digit in `radix`. -/
def digit? (radix : Nat) (c : Char) : Option Nat :=
  let value? :=
    if '0' ≤ c ∧ c ≤ '9' then some (c.toNat - '0'.toNat)
    else if 'a' ≤ c ∧ c ≤ 'z' then some (c.toNat - 'a'.toNat + 10)
    else if 'A' ≤ c ∧ c ≤ 'Z' then some (c.toNat - 'A'.toNat + 10)
    else none
  value?.filter (· < radix)

/-- Why a text is no numeral. -/
inductive NumeralFault where
  | empty
  | invalidDigit
  | tooLarge
  | tooSmall
  deriving DecidableEq, Repr

/-- The wording of a fault. -/
def NumeralFault.message : NumeralFault → String
  | empty => "cannot parse integer from empty string"
  | invalidDigit => "invalid digit found in string"
  | tooLarge => "number too large to fit in target type"
  | tooSmall => "number too small to fit in target type"

/-- Appends decimal digits to `n`, up to `limit`. -/
def appendDigits (limit : Nat) (beyond : NumeralFault) (n : Nat) :
    List Char → Except NumeralFault Nat
  | [] => .ok n
  | c :: rest =>
    match digit? 10 c with
    | none => .error .invalidDigit
    | some d =>
      if 10 * n + d ≤ limit then appendDigits limit beyond (10 * n + d) rest
      else .error beyond

/-- The number that a text denotes. -/
def parseInt32 : List Char → Except NumeralFault Int32
  | [] => .error .empty
  | ['+'] | ['-'] => .error .invalidDigit
  | '-' :: digits =>
    (appendDigits (2 ^ 31) .tooSmall 0 digits).map fun n => Int32.ofInt (-(n : Int))
  | '+' :: digits => (appendDigits (2 ^ 31 - 1) .tooLarge 0 digits).map Int32.ofNat
  | digits => (appendDigits (2 ^ 31 - 1) .tooLarge 0 digits).map Int32.ofNat

end Adventure.Text
