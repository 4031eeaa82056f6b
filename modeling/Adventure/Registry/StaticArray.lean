import Adventure.World.Basic

/-! # Arrays of entities

A run of entities that scripts address as one array, by byte offset from its start. Elements may
lie further apart than they are large; the bytes between are not addressable.
-/

namespace Adventure

/-- `count` entities of a type from index `base` on, `stride` bytes apart. -/
structure StaticArray where
  symbol : String
  type : ScriptType
  base : Nat
  stride : Nat
  count : Nat
  deriving DecidableEq, Repr

namespace StaticArray

open Registry (Fault)

/-- The array, unless its elements would overlap. -/
def make (symbol : String) (type : ScriptType) (base stride count : Nat) :
    Except Fault StaticArray :=
  if type.naturalSize ≤ stride then .ok { symbol, type, base, stride, count }
  else .error (.invalidStride symbol stride type.naturalSize)

/-- The fault of an index without an element. -/
def outOfRange (a : StaticArray) (index : Int) : Fault := .indexOutOfRange a.symbol index a.count

/-- The element with index `index`. -/
def element (a : StaticArray) (index : Int) : Except Fault Entity :=
  if 0 ≤ index ∧ index < a.count then .ok ⟨a.type, a.base + index.toNat⟩
  else .error (a.outOfRange index)

/-- The stride as a signed number of 64 bits. -/
def signedStride (a : StaticArray) : Int := Int.bmod a.stride (2 ^ 64)

/-- Element and byte offset in the element of a byte offset from the start. Offsets are divided
downwards, so that those before the start belong to no element. -/
def locate (a : StaticArray) (offset : Int) : Except Fault (Entity × Int) := do
  let field := offset % a.signedStride
  let entity ← a.element (offset / a.signedStride)
  if field < a.type.naturalSize then return (entity, field)
  else throw (.invalidOffset a.type (Int.bmod field (2 ^ 32)))

/-- The fault of an offset whose element has no record. -/
def missing (a : StaticArray) (offset : Int) : Fault :=
  a.outOfRange (offset.tdiv a.signedStride)

/-- The word at a byte offset. -/
def read (a : StaticArray) (w : World) (offset : Int) : Except Fault Int32 := do
  let (entity, field) ← a.locate offset
  w.read (.static entity) (a.missing offset) field

/-- Stores a word at a byte offset. -/
def writeInPlace (a : StaticArray) (offset : Int) (v : Int32) : InPlace Fault World Unit := do
  let (entity, field) ← InPlace.ask fun _ => a.locate offset
  World.writeInPlace (.static entity) (a.missing offset) field v

/-- The world with the word at a byte offset replaced. -/
def write (a : StaticArray) (w : World) (offset : Int) (v : Int32) : Except Fault World :=
  ((a.writeInPlace offset v).result w).map (·.2)

end StaticArray

end Adventure
