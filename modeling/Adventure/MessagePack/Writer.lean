import Adventure.MessagePack.Value

/-! # Writing MessagePack

Every value is written in its shortest form.
-/

namespace Adventure.MessagePack

/-- The `size` lowest bytes of a number, the highest first. -/
def bigEndian (size : Nat) (n : Nat) : Bytes :=
  (List.range size).reverse.map fun i => UInt8.ofNat (n / 256 ^ i)

/-- A mark and a number of `size` bytes. -/
def marked (mark : UInt8) (size : Nat) (n : Nat) : Bytes := mark :: bigEndian size n

/-- The shortest form of a number without a sign. -/
def writeUnsigned (n : Nat) : Bytes :=
  if n < 2 ^ 7 then [UInt8.ofNat n]
  else if n < 2 ^ 8 then marked 0xCC 1 n
  else if n < 2 ^ 16 then marked 0xCD 2 n
  else if n < 2 ^ 32 then marked 0xCE 4 n
  else marked 0xCF 8 n

/-- The shortest form of a number with a sign. -/
def writeSigned (i : Int) : Bytes :=
  let bits (size : Nat) : Nat := (i % 256 ^ size).toNat
  if 0 ≤ i then writeUnsigned i.toNat
  else if -32 ≤ i then [UInt8.ofNat (bits 1)]
  else if -2 ^ 7 ≤ i then marked 0xD0 1 (bits 1)
  else if -2 ^ 15 ≤ i then marked 0xD1 2 (bits 2)
  else if -2 ^ 31 ≤ i then marked 0xD2 4 (bits 4)
  else marked 0xD3 8 (bits 8)

/-- The head of a text of `n` bytes. -/
def textHead (n : Nat) : Bytes :=
  if n < 32 then [UInt8.ofNat (0xA0 + n)]
  else if n < 2 ^ 8 then marked 0xD9 1 n
  else if n < 2 ^ 16 then marked 0xDA 2 n
  else marked 0xDB 4 n

/-- The head of binary data of `n` bytes. -/
def binaryHead (n : Nat) : Bytes :=
  if n < 2 ^ 8 then marked 0xC4 1 n
  else if n < 2 ^ 16 then marked 0xC5 2 n
  else marked 0xC6 4 n

/-- The head of an array of `n` items. -/
def arrayHead (n : Nat) : Bytes :=
  if n < 16 then [UInt8.ofNat (0x90 + n)]
  else if n < 2 ^ 16 then marked 0xDC 2 n
  else marked 0xDD 4 n

/-- The head of a map of `n` members. -/
def mapHead (n : Nat) : Bytes :=
  if n < 16 then [UInt8.ofNat (0x80 + n)]
  else if n < 2 ^ 16 then marked 0xDE 2 n
  else marked 0xDF 4 n

namespace Value

mutual

/-- The bytes of a value. -/
def write : Value → Bytes
  | nil => [0xC0]
  | bool false => [0xC2]
  | bool true => [0xC3]
  | unsigned n => writeUnsigned n
  | signed i => writeSigned i
  | float bits => marked 0xCB 8 bits
  | text bytes => textHead bytes.length ++ bytes
  | binary bytes => binaryHead bytes.length ++ bytes
  | array items => arrayHead items.length ++ writeItems items
  | map members => mapHead members.length ++ writeMembers members
  | extension bytes => marked 0xC9 4 (bytes.length - 1) ++ bytes

def writeItems : List Value → Bytes
  | [] => []
  | v :: rest => v.write ++ writeItems rest

def writeMembers : List (Value × Value) → Bytes
  | [] => []
  | (key, v) :: rest => key.write ++ v.write ++ writeMembers rest

end

end Value

end Adventure.MessagePack
