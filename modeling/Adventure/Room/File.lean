import Adventure.Room.Area
import Adventure.Room.Layout
import Adventure.Storage

/-! # Room files

A room file is a mark, the number of a revision, and the room as that revision stores it.

* `decode` — refuses what is no room, what no supported revision is, and rooms that fail `validate`.
  What follows the room is ignored.
* `encode` — refuses rooms that the revision cannot hold.
* `load`, `save` — the same for rooms in a storage; faults name the path.
-/

namespace Adventure.Room

/-- The mark of room files: `AGSR`. -/
def magic : Bytes := [0x41, 0x47, 0x53, 0x52]

/-- Reads mark and revision. -/
def readVersion : Reader Version := do
  let found ← (Reader.take 4).within .magic
  unless found = magic do throw (.notARoom found)
  let version : Version := ⟨← (Codec.word 2).read⟩
  unless version.isSupported do throw (.unsupported version)
  return version

/-- The room that `bytes` hold. -/
def decode (bytes : Bytes) : Except Fault Room := do
  let (version, rest) ← readVersion bytes
  let (room, _) ← (roomCodec version).read rest
  room.validate
  return room

/-- Refuses rooms with more than a revision can hold. -/
def checkWritable (r : Room) (v : Version) : Except Fault Unit := do
  unless v.isSupported do throw (.unwritable v)
  unless r.hotspots.length ≤ v.maxHotspots do throw (.hotspotsAbove r.hotspots.length v)
  unless r.objects.length ≤ v.maxObjects do throw (.objectsAbove r.objects.length v)
  unless .v255a ≤ v ∨ r.frames.length = 1 do throw (.notOneFrame v)

/-- The room as revision `v` stores it. -/
def encode (r : Room) (v : Version) : Except Fault Bytes := do
  r.checkWritable v
  let body ← (roomCodec v).write r
  return magic ++ toLittleEndian 2 v.number ++ body

/-- What `read` gave for `path`, as a room. -/
def ofFile (path : String) : Except Storage.Fault Bytes → Except Fault Room
  | .error fault => .error (.within (.reading path) (.storage fault.message))
  | .ok bytes =>
    match decode bytes with
    | .ok room => .ok room
    | .error fault => .error (.within (.decoding path) fault)

/-- The room at `path`. -/
def load {m : Type → Type} [Monad m] (storage : Storage m) (path : String) :
    m (Except Fault Room) := do
  return ofFile path (← storage.read path)

/-- Puts a room in place. -/
def save {m : Type → Type} [Monad m] (storage : Storage m) (path : String) (r : Room)
    (v : Version) : m (Except Fault Unit) := do
  match r.encode v with
  | .error fault => return .error fault
  | .ok bytes =>
    match ← storage.write path bytes with
    | .ok _ => return .ok ()
    | .error fault => return .error (.within (.writing path) (.storage fault.message))

end Adventure.Room
