import Adventure.Capped
import Adventure.Room.Fault

/-! # Binary codecs

A `Codec α` says how values of type `α` are stored: how they are written, and how one is read from
the front of the data.

* `byte`, `word`, `int32`, `text`, … — the codecs of scalars. Numbers are stored lowest byte first,
  texts with their length in front.
* `counted`, `capped`, `optional` — the codecs of compounds.
* `Part ρ` — one stored part of a record; `Codec.record` stores a record part by part and reads it
  by completing a blank one. A part that is not stored keeps what the blank record has.
-/

namespace Adventure.Room

/-- Reads something from the front of the data and gives the rest back. -/
abbrev Reader (α : Type) := StateT Bytes (Except Fault) α

/-- How values of type `α` are stored. -/
structure Codec (α : Type) where
  write : α → Except Fault Bytes
  read : Reader α

/-! ## Raw data -/

/-- The next `n` bytes; `short` if there are fewer. -/
def Reader.take (n : Nat) (short : Fault := .endOfData) : Reader Bytes := fun bytes =>
  match bytes.split? n with
  | some found => .ok found
  | none => .error short

/-- Places what goes wrong. -/
def Reader.within {α : Type} (place : Place) (reader : Reader α) : Reader α := fun bytes =>
  match reader bytes with
  | .ok found => .ok found
  | .error cause => .error (.within place cause)

/-- The number that bytes stand for, the lowest first. -/
def littleEndian : Bytes → Nat
  | [] => 0
  | b :: rest => b.toNat + 256 * littleEndian rest

/-- The `size` lowest bytes of a number, the lowest first. -/
def toLittleEndian : (size : Nat) → Nat → Bytes
  | 0, _ => []
  | size + 1, n => UInt8.ofNat n :: toLittleEndian size (n / 256)

namespace Codec

variable {α : Type}

/-! ## Scalars -/

/-- A value seen through another type. -/
def via {β : Type} (codec : Codec β) (view : α → β) (ofView : β → α) : Codec α where
  write a := codec.write (view a)
  read := do return ofView (← codec.read)

/-- Places what goes wrong in reading. -/
def within (place : Place) (codec : Codec α) : Codec α :=
  { codec with read := codec.read.within place }

/-- A number of `size` bytes. -/
def word (size : Nat) : Codec Nat where
  write n := .ok (toLittleEndian size n)
  read := do return littleEndian (← Reader.take size)

def byte : Codec UInt8 := (word 1).via (·.toNat) UInt8.ofNat

def uint32 : Codec UInt32 := (word 4).via (·.toNat) UInt32.ofNat

def int32 : Codec Int32 := uint32.via (·.toUInt32) (·.toInt32)

/-- A byte that is zero for `false`. -/
def flag : Codec Bool := byte.via (fun b => if b then 1 else 0) (· ≠ 0)

/-- A length. -/
def count : Codec Nat where
  write n := if n < 2 ^ 32 then (word 4).write n else .error .countTooLarge
  read := (word 4).read

/-- A text with its length in front. -/
def text : Codec String where
  write s := do
    let bytes := Text.Utf8.encode s
    return (← count.write bytes.length) ++ bytes
  read := do
    let size ← count.read
    let bytes ← Reader.take size (.textPastEnd size)
    match Text.Utf8.decode bytes with
    | .ok s => return s
    | .error fault => throw (.within .text (.badText fault))

/-- Reads up to a zero; `found` holds the bytes so far, last first, and `room` how many more are
accepted. -/
def readTerminated (limit : Nat) : (room : Nat) → (found : Bytes) → Reader Bytes
  | _, _, [] => .error (.within .legacyText .endOfData)
  | room, found, b :: rest =>
    if b = 0 then .ok (found.reverse, rest)
    else match room with
      | 0 => .error (.legacyTextTooLong limit)
      | room + 1 => readTerminated limit room (b :: found) rest

/-- A text with a zero behind it, as old rooms store their messages. Texts of `limit` bytes and more
are not written, nor are texts with a zero in them; `unstorable` is the fault then. -/
def legacyText (limit : Nat) (unstorable : Fault) : Codec String where
  write s :=
    let bytes := Text.Utf8.encode s
    if bytes.length < limit ∧ 0 ∉ bytes then .ok (bytes ++ [0]) else .error unstorable
  read := do return Text.Utf8.decodeLossy (← readTerminated limit limit [])

/-! ## Compounds -/

/-- Writes items one after the other. -/
def writeItems (item : Nat → Codec α) : (index : Nat) → List α → Except Fault Bytes
  | _, [] => .ok []
  | index, a :: rest => do
    return (← (item index).write a) ++ (← writeItems item (index + 1) rest)

/-- Reads `count` items. -/
def readItems (item : Nat → Codec α) : (index count : Nat) → Reader (List α)
  | _, 0 => pure []
  | index, count + 1 => do
    let a ← (item index).read
    let rest ← readItems item (index + 1) count
    return a :: rest

/-- A list with its length in front. -/
def list (item : Nat → Codec α) : Codec (List α) where
  write items := do return (← count.write items.length) ++ (← writeItems item 0 items)
  read := do readItems item 0 (← count.read)

/-- A list of at most `limit` items with its length in front. -/
def counted (limit : Nat) (what : Entry) (item : Nat → Codec α) : Codec (List α) where
  write := (list item).write
  read := do
    let count ← count.read
    unless count ≤ limit do throw (.countAboveLimit count limit what)
    readItems item 0 count

/-- Makes a list that was read a list of limited length. -/
def limited {n : Nat} (what : Entry) (items : List α) : Reader (Capped n α) :=
  match Capped.ofList? items with
  | some c => pure c
  | none => throw (.tooMany n what)

/-- A list of limited length; `limit` is the limit of the version. -/
def capped {n : Nat} (limit : Nat) (what : Entry) (item : Nat → Codec α) : Codec (Capped n α) where
  write items := (counted limit what item).write items.toList
  read := do limited what (← (counted limit what item).read)

/-- A value that may be absent: a byte that says so, then the value. -/
def optional (codec : Codec α) : Codec (Option α) where
  write
    | none => flag.write false
    | some a => do return (← flag.write true) ++ (← codec.write a)
  read := do
    if ← flag.read then return some (← codec.read) else return none

end Codec

/-! ## Records -/

/-- A stored part of a record. -/
structure Part (ρ : Type) where
  write : ρ → Except Fault Bytes
  /-- Takes the part over into a record. -/
  read : ρ → Reader ρ

variable {ρ α : Type}

/-- The part `get`, stored by `codec`. -/
def part (codec : Codec α) (get : ρ → α) (set : α → ρ → ρ) : Part ρ where
  write r := codec.write (get r)
  read r := do return set (← codec.read) r

/-- A part that is not stored and follows from what has been read before. -/
def derived (complete : ρ → ρ) : Part ρ where
  write _ := .ok []
  read r := pure (complete r)

/-- Writes a record part by part. -/
def writeParts (r : ρ) : List (Part ρ) → Except Fault Bytes
  | [] => .ok []
  | p :: rest => do return (← p.write r) ++ (← writeParts r rest)

/-- Completes a record part by part. -/
def readParts : List (Part ρ) → ρ → Reader ρ
  | [], r => pure r
  | p :: rest, r => do readParts rest (← p.read r)

/-- A record of parts; `blank` has what is not stored. -/
def Codec.record (blank : ρ) (parts : List (Part ρ)) : Codec ρ where
  write r := writeParts r parts
  read := readParts parts blank

end Adventure.Room
