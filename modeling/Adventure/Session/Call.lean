import Adventure.Registry.Image
import Adventure.Session.Basic

/-! # Calls of scripts

What scripts do to a session: reading and setting custom properties, fields and array elements, and
counting references. Calls change the session in place; a call that fails queues the message of its
fault.

* `Owner` — an entity that has custom properties.
* `layers?`, `withOverrides` — the property texts of an owner.
* `report` — what becomes of a fault.
* `getProperty`, `setProperty`, … — the calls.
* `takeErrors` — the queued messages.
* `save`, `restore` — save images of the handle table.
-/

namespace Adventure.Session

/-- What a call gives, and the session after it. -/
abbrev Outcome (α : Type) := Except ScriptFault α × Session

/-! ## Owners of properties -/

/-- An entity that has custom properties. -/
inductive Owner where
  | character (index : Nat)
  | inventory (index : Nat)
  | hotspot (index : Nat)
  | object (index : Nat)
  | region (index : Nat)
  /-- The current room. -/
  | room
  deriving DecidableEq, Repr

/-- How faults call an owner. -/
def Owner.name : Owner → String
  | character i => s!"character {i}"
  | inventory i => s!"inventory item {i}"
  | hotspot i => s!"hotspot {i}"
  | object i => s!"object {i}"
  | region i => s!"region {i}"
  | room => "current room"

/-- The texts of the entity `i` among entities with the authored texts `authored`. -/
def layersAt (authored : Option PropertyMap) (overrides : List PropertyMap) (i : Nat) :
    Option Property.Layers := do
  return { authored := ← authored, overrides := ← overrides[i]? }

/-- The texts of an owner, if it exists. Characters and items that the author gave no texts have
none. -/
def layers? (s : Session) : Owner → Option Property.Layers
  | .character i =>
    if i < s.game.characters.length then
      layersAt (some (s.game.characterProperties[i]?.getD ∅)) s.runtime.characterProperties i
    else none
  | .inventory i =>
    layersAt (some (s.game.itemProperties[i]?.getD ∅)) s.runtime.itemProperties i
  | .hotspot i => do
    let room ← s.room
    layersAt ((room.data.hotspots.get? i).map (·.properties)) room.status.hotspots i
  | .object i => do
    let room ← s.room
    layersAt (room.data.objects[i]?.map (·.properties)) room.status.objects i
  | .region i => do
    let room ← s.room
    layersAt ((room.data.regions.get? i).map (·.properties)) room.status.regions i
  | .room => do
    let room ← s.room
    return { authored := room.data.properties, overrides := room.status.room }

/-- The texts of an owner. -/
def layers (s : Session) (o : Owner) : Except Property.Fault Property.Layers :=
  match s.layers? o with
  | some l => .ok l
  | none => .error (.noEntity o.name)

/-- Changes the status of the current room. -/
def modifyStatus (s : Session) (change : RoomStatus → RoomStatus) : Session :=
  { s with room := s.room.map fun room => { room with status := change room.status } }

/-- Replaces what scripts have set for an owner. -/
def withOverrides (s : Session) (m : PropertyMap) : Owner → Session
  | .character i =>
    { s with runtime := { s.runtime with
        characterProperties := s.runtime.characterProperties.set i m } }
  | .inventory i =>
    { s with runtime := { s.runtime with itemProperties := s.runtime.itemProperties.set i m } }
  | .hotspot i => s.modifyStatus fun t => { t with hotspots := t.hotspots.set i m }
  | .object i => s.modifyStatus fun t => { t with objects := t.objects.set i m }
  | .region i => s.modifyStatus fun t => { t with regions := t.regions.set i m }
  | .room => s.modifyStatus fun t => { t with room := m }

/-! ## Reporting -/

/-- The session after a fault: the message is queued, unless the program stops. -/
def queue (s : Session) (fault : ScriptFault) : Session :=
  if fault.isOverflow then s else { s with errors := s.errors ++ [fault.message] }

/-- Carries out a call. A fault is queued; what the call has changed by then stays changed. -/
def report {α : Type} (s : Session) (call : InPlace ScriptFault Session α) : Outcome α :=
  match call.on s with
  | (.ok a, after) => (.ok a, after)
  | (.error fault, after) => (.error fault, after.queue fault)

/-- The queued messages, oldest first, and the session without them. -/
def takeErrors (s : Session) : List String × Session := (s.errors, { s with errors := [] })

/-! ## Properties -/

/-- A call that concerns the property texts of an owner. -/
def onLayers {α : Type} (s : Session) (o : Owner)
    (call : InPlace Property.Fault Property.Layers α) : Outcome α :=
  s.report ((InPlace.onPart (·.layers o) (fun l s => s.withOverrides l.overrides o) call).mapFault
    .property)

/-- A call that asks for a property. -/
def askProperty {α : Type} (s : Session) (o : Owner)
    (ask : Property.Layers → Except Property.Fault α) : Outcome α :=
  s.onLayers o (InPlace.ask ask)

/-- The number of a property. -/
def getProperty (s : Session) (o : Owner) (name : String) : Outcome Int32 :=
  s.askProperty o (·.int s.game.schema name)

/-- The text of a property. -/
def getText (s : Session) (o : Owner) (name : String) : Outcome String :=
  s.askProperty o (·.text s.game.schema name)

/-- What of the text of a property fits a buffer. -/
def getTextWithin (s : Session) (o : Owner) (name : String) (capacity : Nat) : Outcome String :=
  s.askProperty o fun l => (l.text s.game.schema name).map (Property.truncate · capacity)

/-- Copies what of the text of a property fits to a buffer. On a fault the buffer keeps its text. -/
def copyText (s : Session) (o : Owner) (name buffer : String) (capacity : Nat) :
    Outcome Unit × String :=
  match s.getTextWithin o name capacity with
  | (.ok text, after) => ((.ok (), after), text)
  | (.error fault, after) => ((.error fault, after), buffer)

/-- Sets a property to a number. -/
def setProperty (s : Session) (o : Owner) (name : String) (value : Int32) : Outcome Unit :=
  s.onLayers o (Property.Layers.setIntInPlace s.game.schema name value)

/-- Sets a property to a text. -/
def setText (s : Session) (o : Owner) (name value : String) : Outcome Unit :=
  s.onLayers o (Property.Layers.setTextInPlace s.game.schema name value)

/-! ## Fields and arrays -/

/-- A call that asks the registry. -/
def askRegistry {α : Type} (s : Session) (answer : Except Registry.Fault α) : Outcome α :=
  s.report ((InPlace.ask fun _ => answer).mapFault .registry)

/-- A call that changes the world. -/
def changeWorld (s : Session) (change : InPlace Registry.Fault World Unit) : Outcome Unit :=
  let inWorld := InPlace.onPart (fun s => .ok s.world) (fun world s => { s with world }) change
  s.report (inWorld.mapFault .registry)

/-- The word at a byte offset behind a handle. -/
def readField (s : Session) (handle : Handle) (offset : Int) : Outcome Int32 :=
  s.askRegistry (s.registry.readField s.world handle offset)

/-- Stores a word at a byte offset behind a handle. -/
def writeField (s : Session) (handle : Handle) (offset : Int) (v : Int32) : Outcome Unit :=
  s.changeWorld (s.registry.writeFieldInPlace handle offset v)

/-- The word at a byte offset of an array. -/
def readArray (s : Session) (symbol : String) (offset : Int) : Outcome Int32 :=
  s.askRegistry do (← s.registry.symbols.array symbol).read s.world offset

/-- Stores a word at a byte offset of an array. -/
def writeArray (s : Session) (symbol : String) (offset : Int) (v : Int32) : Outcome Unit :=
  s.changeWorld do
    (← InPlace.ask fun _ => s.registry.symbols.array symbol).writeInPlace offset v

/-! ## References -/

/-- Counts one more reference and answers the count. -/
def addReference (s : Session) (handle : Handle) : Outcome Nat :=
  s.report ((InPlace.onPart (fun s => .ok s.registry) (fun registry s => { s with registry })
    (Registry.addReferenceInPlace handle)).mapFault .registry)

/-- The handle table, and the objects that it holds. -/
def table (s : Session) : Registry × Arena DynamicObject := (s.registry, s.world.dynamic)

/-- Replaces the handle table and the objects. -/
def withTable (s : Session) (table : Registry × Arena DynamicObject) : Session :=
  { s with registry := table.1, world := { s.world with dynamic := table.2 } }

/-- Counts one reference less and answers how the handle is doing. -/
def release (s : Session) (handle : Handle) : Outcome Registry.HandleState :=
  s.report ((InPlace.onPart (fun s => .ok s.table) (fun table s => s.withTable table)
    (Registry.releaseInPlace handle)).mapFault .registry)

/-! ## Saves -/

/-- The save image of the handle table. -/
def save (s : Session) : Bytes := (s.registry.snapshot s.world.dynamic).toImage

/-- Replaces the handle table by that of a snapshot. -/
def restoreSnapshot (s : Session) (snapshot : Registry.Snapshot) :
    Except Registry.Fault Session :=
  (s.registry.restore s.world.dynamic snapshot).map s.withTable

/-- Replaces the handle table by that of a save image, unless the image cannot be read. -/
def restore? (s : Session) (image : Bytes) : Option (Except Registry.Fault Session) :=
  (Registry.Snapshot.ofImage? image).map s.restoreSnapshot

end Adventure.Session
