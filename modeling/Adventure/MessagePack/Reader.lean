import Adventure.MessagePack.Value

/-! # Reading MessagePack

`Value.read?` reads one value from the front of the data; heads of any width are accepted. Arrays,
maps and extensions may stand one within another up to a number of levels.
-/

namespace Adventure.MessagePack

/-- The number that bytes stand for, the highest first. -/
def ofBigEndian (bytes : Bytes) : Nat := bytes.foldl (fun n b => n * 256 + b.toNat) 0

/-- A number of `size` bytes. -/
def number? (size : Nat) (bytes : Bytes) : Option (Nat × Bytes) :=
  (bytes.split? size).map fun (found, rest) => (ofBigEndian found, rest)

/-- What a value starts with. -/
inductive Head where
  /-- A value without parts. -/
  | whole (v : Value)
  | text (size : Nat)
  | binary (size : Nat)
  | array (count : Nat)
  | map (count : Nat)
  /-- Data of `size` bytes after a byte for its kind. -/
  | extension (size : Nat)

/-- A number of `size` bytes with a sign. -/
def signed? (size : Nat) (bytes : Bytes) : Option (Head × Bytes) :=
  (number? size bytes).map fun (n, rest) => (.whole (.signed (Int.bmod n (256 ^ size))), rest)

/-- The head that a mark announces. -/
def head? (mark : UInt8) (rest : Bytes) : Option (Head × Bytes) :=
  let n := mark.toNat
  let sized (size : Nat) (head : Nat → Head) : Option (Head × Bytes) :=
    (number? size rest).map fun (n, rest) => (head n, rest)
  if n < 0x80 then some (.whole (.unsigned n), rest)
  else if n < 0x90 then some (.map (n - 0x80), rest)
  else if n < 0xA0 then some (.array (n - 0x90), rest)
  else if n < 0xC0 then some (.text (n - 0xA0), rest)
  else if 0xE0 ≤ n then some (.whole (.signed (Int.bmod n 256)), rest)
  else match n with
    | 0xC0 => some (.whole .nil, rest)
    | 0xC2 => some (.whole (.bool false), rest)
    | 0xC3 => some (.whole (.bool true), rest)
    | 0xC4 => sized 1 .binary
    | 0xC5 => sized 2 .binary
    | 0xC6 => sized 4 .binary
    | 0xC7 => sized 1 .extension
    | 0xC8 => sized 2 .extension
    | 0xC9 => sized 4 .extension
    | 0xCA => sized 4 (.whole ∘ .float)
    | 0xCB => sized 8 (.whole ∘ .float)
    | 0xCC => sized 1 (.whole ∘ .unsigned)
    | 0xCD => sized 2 (.whole ∘ .unsigned)
    | 0xCE => sized 4 (.whole ∘ .unsigned)
    | 0xCF => sized 8 (.whole ∘ .unsigned)
    | 0xD0 => signed? 1 rest
    | 0xD1 => signed? 2 rest
    | 0xD2 => signed? 4 rest
    | 0xD3 => signed? 8 rest
    | 0xD4 => some (.extension 1, rest)
    | 0xD5 => some (.extension 2, rest)
    | 0xD6 => some (.extension 4, rest)
    | 0xD7 => some (.extension 8, rest)
    | 0xD8 => some (.extension 16, rest)
    | 0xD9 => sized 1 .text
    | 0xDA => sized 2 .text
    | 0xDB => sized 4 .text
    | 0xDC => sized 2 .array
    | 0xDD => sized 4 .array
    | 0xDE => sized 2 .map
    | 0xDF => sized 4 .map
    | _ => none

/-- Reads `count` values one after another; `found` holds those before, last first. -/
def repeated? {α : Type} (one? : Bytes → Option (α × Bytes)) :
    (count : Nat) → (found : List α) → Bytes → Option (List α × Bytes)
  | 0, found, bytes => some (found.reverse, bytes)
  | count + 1, found, bytes =>
    match one? bytes with
    | none => none
    | some (v, rest) => repeated? one? count (v :: found) rest

/-- Reads two values one after another. -/
def pair? {α : Type} (one? : Bytes → Option (α × Bytes)) (bytes : Bytes) :
    Option ((α × α) × Bytes) := do
  let (key, rest) ← one? bytes
  let (v, rest) ← one? rest
  return ((key, v), rest)

/-- Reads a value with at most `levels` values one within another, and what follows it. -/
def value? : (levels : Nat) → Bytes → Option (Value × Bytes)
  | _, [] => none
  | levels, mark :: rest =>
    match head? mark rest, levels with
    | none, _ => none
    | some (.whole v, rest), _ => some (v, rest)
    | some (.text size, rest), _ =>
      (rest.split? size).map fun (found, rest) => (.text found, rest)
    | some (.binary size, rest), _ =>
      (rest.split? size).map fun (found, rest) => (.binary found, rest)
    | some (.extension size, rest), _ + 1 =>
      (rest.split? (size + 1)).map fun (found, rest) => (.extension found, rest)
    | some (.array count, rest), levels + 1 =>
      (repeated? (value? levels) count [] rest).map fun (items, rest) => (.array items, rest)
    | some (.map count, rest), levels + 1 =>
      (repeated? (pair? (value? levels)) count [] rest).map fun (members, rest) =>
        (.map members, rest)
    | some (_, _), 0 => none

/-- The value in front of the data, if at most `levels` values stand one within another; what
follows it is ignored. -/
def Value.read? (levels : Nat) (bytes : Bytes) : Option Value :=
  (value? levels bytes).map (·.1)

end Adventure.MessagePack
