import Adventure.Room.File
import Adventure.Session.Basic

/-! # Entering and leaving rooms

A session has at most one current room. While it is current, the named hotspots and objects of the
room are global symbols, its script is linked, and its objects have wrappers.

* `prepareEntry` — everything about an entry that can fail, tried without touching the session.
* `enterRoom` — on a fault the session stays as it was, and with it the room before.
* `leaveRoom` — takes back all that entering the room did.
-/

namespace Adventure.Session

/-! ## Leaving -/

/-- Frees names. -/
def unbindAll (r : Registry) (names : List String) : Registry := names.foldl .unbind r

/-- Leaves the current room, if there is one. -/
def leaveRoom (s : Session) : Session :=
  match s.room with
  | none => s
  | some room =>
    { s with
      registry := unbindAll s.registry room.boundNames
      scripts := s.scripts.withRoom none
      world := { s.world with objects := World.unboundSlots s.world.objects.length }
      room := none }

/-! ## Entering -/

/-- A global name for an entity of a room. -/
structure RoomName where
  name : String
  handle : Handle
  type : ScriptType
  deriving DecidableEq, Repr

/-- Hotspots and objects of a room with their script names, hotspots first. -/
def scriptNames (r : Room) : List (Entity × String) :=
  (r.hotspots.toList.mapIdx fun i (h : Room.Hotspot) => (⟨.hotspot, i⟩, h.scriptName))
    ++ r.objects.mapIdx fun i (o : Room.Object) => (⟨.object, i⟩, o.scriptName)

/-- Those that have a name. -/
def namedEntities (r : Room) : List (Entity × String) := (scriptNames r).filter (!·.2.isEmpty)

/-- The handle that an entity has had since the start of the game, with its name in the room. -/
def roomName (registry : Registry) (e : Entity) (name : String) :
    Except Registry.Fault RoomName :=
  match registry.handleFor (.static e) e.type with
  | some handle => .ok { name, handle, type := e.type }
  | none => .error (.unknownSymbol name)

/-- The names of a room with their handles. -/
def roomNames (registry : Registry) (r : Room) : Except Registry.Fault (List RoomName) :=
  (namedEntities r).mapM fun (e, name) => roomName registry e name

/-- The symbols as they would be in a room: without the names of the room before, with the new
ones. -/
def rehearse (symbols : SymbolTable) (old : List String) (new : List RoomName) :
    Except Registry.Fault SymbolTable :=
  new.foldlM (fun t n => t.bind n.name (.object n.handle n.type)) (old.foldl .unbind symbols)

/-- What has been found out about an entry before anything is touched. -/
structure Entry where
  room : Room
  names : List RoomName
  script : Option Script.Linked

/-- The names that the current room has bound. -/
def boundNames (s : Session) : List String := (s.room.map (·.boundNames)).getD []

/-- The room as the session will show it: demands met, of the right game, of the right size. -/
def fitRoom (s : Session) (r : Room) : Except EnterFault Room := do
  r.validate.mapError .badRoom
  if s.config.strictRoomGame && !r.acceptsGame s.game.uniqueId then
    throw (.wrongGame r.gameId s.game.uniqueId)
  let some hires := s.game.isHires? | throw .overflow
  let (r, _) ← (r.upscale hires).mapError .badRoom
  r.fixMasks.mapError .badRoom

/-- Links the script of a room, if it has one. -/
def linkRoomScript (s : Session) (symbols : SymbolTable) (r : Room) (number : Int32) :
    Except EnterFault (Option Script.Linked) :=
  match r.script with
  | none => .ok none
  | some m => ((s.scripts.linkRoom symbols m number).map some).mapError .unlinked

/-- Tries an entry. -/
def prepareEntry (s : Session) (number : Int32) (r : Room) : Except EnterFault Entry := do
  unless s.isReady do throw (.notReady number)
  let room ← s.fitRoom r
  let names ← (roomNames s.registry room).mapError .registration
  let symbols ← (rehearse s.registry.symbols s.boundNames names).mapError .registration
  let script ← s.linkRoomScript symbols room number
  return { room, names, script }

/-- Binds names to their handles, up to the first that cannot be. -/
def bindAll : List RoomName → Registry → Except Registry.Fault Unit × Registry
  | [], r => (.ok (), r)
  | n :: rest, r =>
    match r.bindHandle n.name n.handle with
    | .error fault => (.error fault, r)
    | .ok r => bindAll rest r

/-- The wrappers of room objects in a room with `count` of them. -/
def objectSlots (slots count : Nat) : List Wrapper :=
  (List.range slots).map fun i => if i < count then Wrapper.ofIndex i else Wrapper.unbound

/-- Puts the script, the wrappers and the room itself in place. -/
def settle (s : Session) (number : Int32) (e : Entry) : Session :=
  { s with
    scripts := s.scripts.withRoom e.script
    world :=
      { s.world with objects := objectSlots s.world.objects.length e.room.objects.length }
    room := some {
      number
      data := e.room
      status := .forRoom e.room
      boundNames := e.names.map (·.name) } }

/-- Makes a room the current one. -/
def enterRoom (s : Session) (number : Int32) (r : Room) : Except EnterFault Unit × Session :=
  match s.prepareEntry number r with
  | .error fault => (.error fault, s)
  | .ok entry =>
    let s := s.leaveRoom
    match bindAll entry.names s.registry with
    | (.error fault, registry) => (.error (.registration fault), { s with registry })
    | (.ok _, registry) => (.ok (), { s with registry }.settle number entry)

/-- Makes the room in a file the current one. `found` is what reading `path` gave. -/
def enterRoomFile (s : Session) (number : Int32) (path : String)
    (found : Except Storage.Fault Bytes) : Except EnterFault Unit × Session :=
  match Room.ofFile path found with
  | .error fault => (.error (.badRoom fault), s)
  | .ok room => s.enterRoom number room

end Adventure.Session
