import Adventure.Json.Value
import Adventure.Text.Utf8

/-! # Reading JSON

`Value.parse?` reads a JSON text from bytes. It is strict: no comments, no trailing commas, no byte
order mark, no control characters in strings, nothing but white space around the value.

* `literal?` — a string after its opening quote.
* `number?` — a number; leading zeros are refused.
* `value?` — a value; its fuel bounds the number of steps and is never used up, since every step
  consumes a byte.
-/

namespace Adventure.Json

/-- Without JSON's white space in front. -/
def skipBlank : Bytes → Bytes
  | b :: rest => if b == 0x20 || b == 0x0A || b == 0x0D || b == 0x09 then skipBlank rest
                 else b :: rest
  | [] => []

/-- The rest after `word`. -/
def expect? : (word : Bytes) → Bytes → Option Bytes
  | [], rest => some rest
  | w :: word, b :: rest => if w = b then expect? word rest else none
  | _ :: _, [] => none

/-! ## Strings -/

/-- The value of a hexadecimal digit. -/
def hexDigit? (b : UInt8) : Option Nat :=
  if 0x30 ≤ b && b ≤ 0x39 then some (b.toNat - 0x30)
  else if 0x61 ≤ b && b ≤ 0x66 then some (b.toNat - 0x61 + 10)
  else if 0x41 ≤ b && b ≤ 0x46 then some (b.toNat - 0x41 + 10)
  else none

/-- The value of four hexadecimal digits. -/
def hexUnit? (a b c d : UInt8) : Option Nat := do
  return (((← hexDigit? a) * 16 + (← hexDigit? b)) * 16 + (← hexDigit? c)) * 16 + (← hexDigit? d)

/-- What an escape of one letter stands for. -/
def shortEscape? (b : UInt8) : Option UInt8 :=
  if b == 0x22 || b == 0x5C || b == 0x2F then some b
  else if b == 0x62 then some 0x08
  else if b == 0x66 then some 0x0C
  else if b == 0x6E then some 0x0A
  else if b == 0x72 then some 0x0D
  else if b == 0x74 then some 0x09
  else none

/-- The bytes of a code point, last first. -/
def reversedUtf8 (n : Nat) : Bytes :=
  (Text.Utf8.encode (String.singleton (Char.ofNat n))).reverse

/-- The text of a string as far as it has been read. -/
structure Draft where
  /-- The bytes so far, last first; none once a surrogate has stayed alone. -/
  bytes : Option Bytes
  /-- A high surrogate that waits for its low one. -/
  high : Option Nat := none

/-- The bytes so far if no surrogate waits. -/
def Draft.settled (d : Draft) : Option Bytes := if d.high.isSome then none else d.bytes

/-- Adds a byte. -/
def Draft.push (d : Draft) (b : UInt8) : Draft := { bytes := d.settled.map (b :: ·) }

/-- Adds an escaped UTF-16 unit. -/
def Draft.pushUnit (d : Draft) (unit : Nat) : Draft :=
  if 0xDC00 ≤ unit && unit < 0xE000 then
    match d.high with
    | some high =>
      let n := 0x10000 + (high - 0xD800) * 0x400 + (unit - 0xDC00)
      { bytes := d.bytes.map (reversedUtf8 n ++ ·) }
    | none => { bytes := none }
  else if 0xD800 ≤ unit && unit < 0xDC00 then { bytes := d.settled, high := some unit }
  else { bytes := d.settled.map (reversedUtf8 unit ++ ·) }

/-- The text, if the bytes are one. -/
def Draft.text? (d : Draft) : Option String :=
  d.settled.bind fun bytes => String.fromUTF8? ⟨bytes.reverse.toArray⟩

/-- Reads a string after its opening quote. The answer is `none` for what is no string, and holds
no text for a string that denotes none. -/
def literal? (draft : Draft) : Bytes → Option (Option String × Bytes)
  | [] => none
  | 0x22 :: rest => some (draft.text?, rest)
  | 0x5C :: 0x75 :: a :: b :: c :: d :: rest =>
    match hexUnit? a b c d with
    | some unit => literal? (draft.pushUnit unit) rest
    | none => none
  | 0x5C :: e :: rest =>
    match shortEscape? e with
    | some b => literal? (draft.push b) rest
    | none => none
  | b :: rest => if b < 0x20 || b == 0x5C then none else literal? (draft.push b) rest

/-! ## Numbers -/

def isDigit (b : UInt8) : Bool := 0x30 ≤ b && b ≤ 0x39

/-- The digits in front, and the rest. -/
def digits (bytes : Bytes) : Bytes × Bytes := (bytes.takeWhile isDigit, bytes.dropWhile isDigit)

/-- The digits in front, at least one, and the rest. -/
def digits? (bytes : Bytes) : Option (Bytes × Bytes) :=
  match digits bytes with
  | ([], _) => none
  | found => some found

/-- The fraction in front, empty if there is none. -/
def fraction? : Bytes → Option (Bytes × Bytes)
  | 0x2E :: rest => (digits? rest).map fun (found, rest) => (0x2E :: found, rest)
  | bytes => some ([], bytes)

/-- The exponent in front, empty if there is none. -/
def exponent? : Bytes → Option (Bytes × Bytes)
  | e :: rest =>
    if e == 0x65 || e == 0x45 then
      match rest with
      | s :: after =>
        if s == 0x2B || s == 0x2D then
          (digits? after).map fun (found, rest) => (e :: s :: found, rest)
        else (digits? rest).map fun (found, rest) => (e :: found, rest)
      | [] => none
    else some ([], e :: rest)
  | [] => some ([], [])

/-- The number that digits denote. -/
def digitsValue (bytes : Bytes) : Nat := bytes.foldl (fun n b => n * 10 + (b.toNat - 0x30)) 0

/-- Reads a number without its sign. -/
def magnitude? (negative : Bool) (bytes : Bytes) : Option (Value × Bytes) := do
  let (whole, rest) ← digits? bytes
  if whole.head? == some 0x30 && 1 < whole.length then none
  let (frac, rest) ← fraction? rest
  let (exp, rest) ← exponent? rest
  let value := digitsValue whole
  if frac.isEmpty && exp.isEmpty && !(negative && value == 0) then
    return (.int (if negative then -(value : Int) else value), rest)
  else
    let text := (if negative then [0x2D] else []) ++ whole ++ frac ++ exp
    return (.real (Text.Utf8.decodeLossy text), rest)

/-- Reads a number. -/
def number? : Bytes → Option (Value × Bytes)
  | 0x2D :: rest => magnitude? true rest
  | bytes => magnitude? false bytes

/-! ## Values -/

/-- A member whose key may denote no text. -/
abbrev RawMember := Option String × Value

/-- The object of members in reverse order; meaningless if a key is. -/
def objectOf (reversed : List RawMember) : Value :=
  match reversed.reverse.mapM fun (key, value) => key.map (·, value) with
  | some members => .obj members
  | none => .meaningless

mutual

/-- Reads a value and what follows it. -/
def value? : (fuel : Nat) → Bytes → Option (Value × Bytes)
  | 0, _ => none
  | fuel + 1, bytes =>
    match skipBlank bytes with
    | [] => none
    | b :: rest =>
      if b == 0x22 then
        (literal? ⟨some [], none⟩ rest).map fun (s, rest) => (s.elim .meaningless .str, rest)
      else if b == 0x5B then
        match skipBlank rest with
        | 0x5D :: rest => some (.arr [], rest)
        | rest => items? fuel [] rest
      else if b == 0x7B then
        match skipBlank rest with
        | 0x7D :: rest => some (.obj [], rest)
        | rest => members? fuel [] rest
      else if b == 0x6E then (expect? [0x75, 0x6C, 0x6C] rest).map (.null, ·)
      else if b == 0x74 then (expect? [0x72, 0x75, 0x65] rest).map (.bool true, ·)
      else if b == 0x66 then (expect? [0x61, 0x6C, 0x73, 0x65] rest).map (.bool false, ·)
      else number? (b :: rest)

/-- Reads the items of an array from the first on; `found` holds those before, last first. -/
def items? : (fuel : Nat) → (found : List Value) → Bytes → Option (Value × Bytes)
  | 0, _, _ => none
  | fuel + 1, found, bytes =>
    match value? fuel bytes with
    | none => none
    | some (value, rest) =>
      match skipBlank rest with
      | 0x2C :: rest => items? fuel (value :: found) rest
      | 0x5D :: rest => some (.arr (value :: found).reverse, rest)
      | _ => none

/-- Reads the members of an object from the first on; `found` holds those before, last first. -/
def members? : (fuel : Nat) → (found : List RawMember) → Bytes → Option (Value × Bytes)
  | 0, _, _ => none
  | fuel + 1, found, bytes =>
    match skipBlank bytes with
    | 0x22 :: rest =>
      match literal? ⟨some [], none⟩ rest with
      | none => none
      | some (key, rest) =>
        match skipBlank rest with
        | 0x3A :: rest =>
          match value? fuel rest with
          | none => none
          | some (value, rest) =>
            match skipBlank rest with
            | 0x2C :: rest => members? fuel ((key, value) :: found) rest
            | 0x7D :: rest => some (objectOf ((key, value) :: found), rest)
            | _ => none
        | _ => none
    | _ => none

end

/-- The value of a whole JSON text. -/
def Value.parse? (bytes : Bytes) : Option Value :=
  match value? (bytes.length + 1) bytes with
  | some (value, rest) => if skipBlank rest = [] then some value else none
  | none => none

end Adventure.Json
