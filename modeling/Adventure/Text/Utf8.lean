import Adventure.Bytes

/-! # UTF-8

Text as bytes and bytes as text.

* `encode`, `decode` — the strict pair; a failed `decode` says where the first ill-formed part is.
* `decodeLossy` — replaces each ill-formed part by U+FFFD.
* `firstPart` — the one rule behind both: the longest start of a byte list that is a character, or
  the longest that could have become one.
-/

namespace Adventure

namespace Text.Utf8

/-- The bytes of a text. -/
def encode (s : String) : Bytes := s.toUTF8.data.toList

/-- Why bytes are no text. Positions count the bytes of the well-formed part in front. -/
inductive Fault where
  /-- `size` bytes at `index` start no character that could be completed. -/
  | invalid (size index : Nat)
  /-- The data ends inside a character that starts at `index`. -/
  | incomplete (index : Nat)
  deriving DecidableEq, Repr

/-- The wording of a fault. -/
def Fault.message : Fault → String
  | .invalid size index => s!"invalid utf-8 sequence of {size} bytes from index {index}"
  | .incomplete index => s!"incomplete utf-8 byte sequence from index {index}"

/-! ## Parts -/

/-- What a non-empty byte list starts with. Sizes count the bytes after the first. -/
inductive Part where
  | char (c : Char) (more : Nat)
  | invalid (more : Nat)
  | incomplete
  deriving DecidableEq, Repr

/-- For the first byte of a longer character: how many bytes follow it, and the range that the
next byte has to lie in. The narrower ranges exclude overlong forms, surrogates and what lies
above U+10FFFF. -/
def followers (lead : UInt8) : Option (Nat × UInt8 × UInt8) :=
  if lead < 0xC2 then none
  else if lead < 0xE0 then some (1, 0x80, 0xBF)
  else if lead = 0xE0 then some (2, 0xA0, 0xBF)
  else if lead = 0xED then some (2, 0x80, 0x9F)
  else if lead < 0xF0 then some (2, 0x80, 0xBF)
  else if lead = 0xF0 then some (3, 0x90, 0xBF)
  else if lead < 0xF4 then some (3, 0x80, 0xBF)
  else if lead = 0xF4 then some (3, 0x80, 0x8F)
  else none

/-- How many of the first `limit` bytes continue a character whose next byte has to lie between
`low` and `high`. -/
def countFollowers : (limit : Nat) → (low high : UInt8) → Bytes → Nat
  | 0, _, _, _ => 0
  | _, _, _, [] => 0
  | limit + 1, low, high, b :: rest =>
    if low ≤ b ∧ b ≤ high then countFollowers limit 0x80 0xBF rest + 1 else 0

/-- The code point of a lead byte with its `count` followers. -/
def scalarValue (lead : UInt8) (count : Nat) (tail : Bytes) : Nat :=
  (tail.take count).foldl (fun value b => value * 64 + b.toNat % 64)
    (lead.toNat % 2 ^ (6 - count))

/-- The first part of `lead :: rest`. -/
def firstPart (lead : UInt8) (rest : Bytes) : Part :=
  if lead < 0x80 then .char (Char.ofNat lead.toNat) 0
  else match followers lead with
    | none => .invalid 0
    | some (count, low, high) =>
      let found := countFollowers count low high rest
      if found = count then .char (Char.ofNat (scalarValue lead count rest)) count
      else if rest.length = found then .incomplete
      else .invalid found

/-- The first ill-formed part, looked for from `index` on. -/
def findFault (index : Nat) : Bytes → Option Fault
  | [] => none
  | lead :: rest =>
    match firstPart lead rest with
    | .char _ more => findFault (index + more + 1) (rest.drop more)
    | .invalid more => some (.invalid (more + 1) index)
    | .incomplete => some (.incomplete index)
termination_by bytes => bytes.length
decreasing_by simp only [List.length_drop, List.length_cons]; omega

/-- The characters of `bytes`, with U+FFFD for every ill-formed part. -/
def repair : Bytes → List Char
  | [] => []
  | lead :: rest =>
    match firstPart lead rest with
    | .char c more => c :: repair (rest.drop more)
    | .invalid more => '\uFFFD' :: repair (rest.drop more)
    | .incomplete => ['\uFFFD']
termination_by bytes => bytes.length
decreasing_by all_goals (simp only [List.length_drop, List.length_cons]; omega)

/-! ## Texts -/

/-- The text that `bytes` encode. -/
def decode (bytes : Bytes) : Except Fault String :=
  match String.fromUTF8? ⟨bytes.toArray⟩ with
  | some s => .ok s
  | none => .error ((findFault 0 bytes).getD (.incomplete bytes.length))

/-- The text that `bytes` encode, ill-formed parts replaced. -/
def decodeLossy (bytes : Bytes) : String :=
  match String.fromUTF8? ⟨bytes.toArray⟩ with
  | some s => s
  | none => String.ofList (repair bytes)

theorem decode_encode (s : String) : decode (encode s) = .ok s := by
  simp [decode, encode, String.fromUTF8?, s.isValidUTF8]
  rfl

theorem decodeLossy_encode (s : String) : decodeLossy (encode s) = s := by
  simp [decodeLossy, encode, String.fromUTF8?, s.isValidUTF8]
  rfl

end Text.Utf8

end Adventure
