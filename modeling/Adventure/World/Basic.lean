import Adventure.Room.Basic
import Adventure.World.Record

/-! # The world

All records that scripts can address: the authored data of the game, wrappers for what scripts know
by number, and the objects made while the game runs.

* `World.allocated` — the wrappers that a game gets at its start.
* `World.record?`, `World.put` — the record behind a target, and its replacement.
* `World.writeInPlace` — a word of a record stored.
-/

namespace Adventure

/-- The records of a running game. -/
structure World where
  game : Game := {}
  audioChannels : List Wrapper := []
  dialogs : List Wrapper := []
  guis : List Wrapper := []
  /-- Panel and number in the panel of every control, panel after panel. -/
  controls : List (Nat × Nat) := []
  inventory : List Wrapper := []
  hotspots : List Wrapper := []
  regions : List Wrapper := []
  /-- Slots for the objects of the current room. -/
  objects : List Wrapper := []
  rendering : DialogRendering := {}
  mouse : Mouse := {}
  dynamic : Arena DynamicObject := ∅

namespace World

/-- Wrappers for the entities 0 to `count - 1`. -/
def wrappers (count : Nat) : List Wrapper := (List.range count).map Wrapper.ofIndex

/-- Slots without entities. -/
def unboundSlots (count : Nat) : List Wrapper := List.replicate count Wrapper.unbound

/-- Panel and number of every control of `guis`. -/
def controlPlaces (guis : List Game.Gui) : List (Nat × Nat) :=
  (guis.mapIdx fun g gui => (List.range gui.controls.length).map (g, ·)).flatten

/-- The world with fresh wrappers for its game. Panels and room objects get theirs later. -/
def allocated (w : World) : World :=
  { w with
    audioChannels := wrappers (Game.soundChannels + 1)
    dialogs := wrappers w.game.dialogs.length
    guis := unboundSlots w.game.guis.length
    controls := controlPlaces w.game.guis
    inventory := wrappers Game.inventorySlots
    hotspots := wrappers Room.maxHotspots
    regions := wrappers Room.maxRegions
    objects := unboundSlots Room.maxObjects }

/-- The number of entities of a type. -/
def count (w : World) : ScriptType → Nat
  | .audioChannel => w.audioChannels.length
  | .audioClip => w.game.audioClips.length
  | .character => w.game.characters.length
  | .dialog => w.dialogs.length
  | .dialogRendering | .mouse => 1
  | .drawingSurface => 0
  | .gui => w.guis.length
  | .control => w.controls.length
  | .hotspot => w.hotspots.length
  | .inventory => w.inventory.length
  | .object => w.objects.length
  | .region => w.regions.length

/-- The index of a control among all controls. -/
def controlIndex? (w : World) (gui control : Nat) : Option Nat :=
  w.controls.findIdx? (· = (gui, control))

/-- The control with index `i` among all controls. -/
def control? (w : World) (i : Nat) : Option Game.Control := do
  let (g, c) ← w.controls[i]?
  (← w.game.guis[g]?).controls[c]?

/-- The record of an entity. -/
def entityRecord? (w : World) (e : Entity) : Option Record :=
  match e.type with
  | .audioChannel => w.audioChannels[e.index]?.map (.wrapper .audioChannel)
  | .audioClip => w.game.audioClips[e.index]?.map .clip
  | .character => w.game.characters[e.index]?.map .character
  | .dialog => w.dialogs[e.index]?.map (.wrapper .dialog)
  | .dialogRendering => if e.index = 0 then some (.rendering w.rendering) else none
  | .drawingSurface => none
  | .gui => w.guis[e.index]?.map (.wrapper .gui)
  | .control => (w.control? e.index).map .control
  | .hotspot => w.hotspots[e.index]?.map (.wrapper .hotspot)
  | .inventory => w.inventory[e.index]?.map (.wrapper .inventory)
  | .mouse => if e.index = 0 then some (.mouse w.mouse) else none
  | .object => w.objects[e.index]?.map (.wrapper .object)
  | .region => w.regions[e.index]?.map (.wrapper .region)

/-- The record behind a target, if it is there. -/
def record? (w : World) : Target → Option Record
  | .static e => w.entityRecord? e
  | .dynamic key => (w.dynamic.get? key).map .dynamic

/-- Replaces a control of a panel. -/
def setControl (guis : List Game.Gui) (place : Nat × Nat) (c : Game.Control) : List Game.Gui :=
  guis.modify place.1 fun g => { g with controls := g.controls.set place.2 c }

/-- Replaces the wrapper of an entity. -/
def putWrapper (w : World) (e : Entity) (x : Wrapper) : World :=
  match e.type with
  | .audioChannel => { w with audioChannels := w.audioChannels.set e.index x }
  | .dialog => { w with dialogs := w.dialogs.set e.index x }
  | .gui => { w with guis := w.guis.set e.index x }
  | .hotspot => { w with hotspots := w.hotspots.set e.index x }
  | .inventory => { w with inventory := w.inventory.set e.index x }
  | .object => { w with objects := w.objects.set e.index x }
  | .region => { w with regions := w.regions.set e.index x }
  | _ => w

/-- Replaces the record behind a target. -/
def put (w : World) : Target → Record → World
  | .static e, .wrapper _ x => w.putWrapper e x
  | .static e, .clip c =>
    { w with game := { w.game with audioClips := w.game.audioClips.set e.index c } }
  | .static e, .character c =>
    { w with game := { w.game with characters := w.game.characters.set e.index c } }
  | .static e, .control c =>
    match w.controls[e.index]? with
    | some place => { w with game := { w.game with guis := setControl w.game.guis place c } }
    | none => w
  | .static _, .rendering r => { w with rendering := r }
  | .static _, .mouse m => { w with mouse := m }
  | .static _, .dynamic _ => w
  | .dynamic key, .dynamic o => { w with dynamic := w.dynamic.set key o }
  | .dynamic _, _ => w

/-- The record behind a target; `missing` is the fault if there is none. -/
def record (w : World) (t : Target) (missing : Registry.Fault) : Except Registry.Fault Record :=
  match w.record? t with
  | some r => .ok r
  | none => .error missing

/-- Stores a word behind a target; `missing` is the fault if there is no record. -/
def writeInPlace (t : Target) (missing : Registry.Fault) (offset : Int) (v : Int32) :
    InPlace Registry.Fault World Unit :=
  InPlace.onPart (·.record t missing) (fun r w => w.put t r) (Record.writeInPlace offset v)

/-- The world with a word behind a target replaced. -/
def write (w : World) (t : Target) (missing : Registry.Fault) (offset : Int) (v : Int32) :
    Except Registry.Fault World :=
  ((writeInPlace t missing offset v).result w).map (·.2)

/-- The word behind a target; `missing` is the fault if there is no record. -/
def read (w : World) (t : Target) (missing : Registry.Fault) (offset : Int) :
    Except Registry.Fault Int32 :=
  match w.record? t with
  | some r => r.read offset
  | none => .error missing

end World

end Adventure
