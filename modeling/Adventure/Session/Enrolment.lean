import Adventure.Registry.Basic

/-! # Enrolment

Before a game runs, everything that its scripts can address is made known to the registry. What has
a script name becomes a global symbol; all else gets its handle only.

* `Enrolment` — one step.
* `takeAll` — takes steps up to the first that fails; what they did stays done.
* `ofGame` — the steps for a game. Their order decides who gets which handle.
* `engineExports` — the steps for what the engine itself offers.
-/

namespace Adventure

/-- A step of making things known. -/
inductive Enrolment where
  /-- Make records ready for the steps that follow. -/
  | prepare (change : World → World)
  /-- Register an entity, under a name unless that is empty. -/
  | entity (e : Entity) (name : String)
  /-- Make and register the surface that the options of a dialog are drawn on. -/
  | surface
  /-- Export the first entities of a type as an array. -/
  | array (symbol : String) (type : ScriptType) (count : Nat)
  /-- Bind a name to an entity that needs no handle. -/
  | nameOnly (symbol : String) (e : Entity)
  | function (symbol : String)

namespace Enrolment

open Registry (Fault)

/-! ## Steps -/

/-- Registers an entity, under a name unless that is empty. -/
def register (r : Registry) (e : Entity) (name : String) : Except Fault Registry :=
  if name.isEmpty then (r.register (.static e) e.type).map (·.2)
  else (r.registerAs name (.static e) e.type).map (·.2)

/-- Makes the surface of dialog options and holds a reference to it. -/
def makeSurface (w : World) (r : Registry) : Except Fault Unit × World × Registry :=
  let (key, objects) := w.dynamic.insert (.surface (.linked 0 0))
  let w := { w with dynamic := objects }
  match r.register (.dynamic key) .drawingSurface with
  | .error fault => (.error fault, w, r)
  | .ok (handle, r) =>
    match r.addReference handle with
    | .error fault => (.error fault, w, r)
    | .ok (_, r) =>
      (.ok (), { w with rendering := w.rendering.withSurface (Int32.ofInt handle) }, r)

/-- The outcome of a step that concerns the registry alone. -/
def ofRegistry (w : World) (r : Registry) :
    Except Fault Registry → Except Fault Unit × World × Registry
  | .ok changed => (.ok (), w, changed)
  | .error fault => (.error fault, w, r)

/-- Takes one step. -/
def take (w : World) (r : Registry) : Enrolment → Except Fault Unit × World × Registry
  | prepare change => (.ok (), change w, r)
  | entity e name => ofRegistry w r (register r e name)
  | surface => makeSurface w r
  | array symbol type count =>
    ofRegistry w r (r.exportArray symbol 0 type type.naturalSize count)
  | nameOnly symbol e => ofRegistry w r (r.bindEntity symbol e)
  | function symbol => ofRegistry w r (r.bindFunction symbol)

/-- Takes steps up to the first that fails. -/
def takeAll : List Enrolment → World → Registry → Except Fault Unit × World × Registry
  | [], w, r => (.ok (), w, r)
  | step :: rest, w, r =>
    match step.take w r with
    | (.error fault, w, r) => (.error fault, w, r)
    | (.ok _, w, r) => takeAll rest w r

/-! ## The entities of a game -/

/-- The first `count` entities of a type, without names. -/
def unnamed (type : ScriptType) (count : Nat) : List Enrolment :=
  (List.range count).map fun i => entity ⟨type, i⟩ ""

/-- Entities of a type with the names of their records. -/
def named {α : Type} (type : ScriptType) (records : List α) (name : α → String) : List Enrolment :=
  records.mapIdx fun i a => entity ⟨type, i⟩ (name a)

/-- Numbers a clip. -/
def numberClip (i : Nat) (w : World) : World :=
  { w with game := { w.game with
      audioClips := w.game.audioClips.modify i fun c => { c with id := Int32.ofNat i } } }

def clips (g : Game) : List Enrolment :=
  (g.audioClips.mapIdx fun i c =>
    [prepare (numberClip i), entity ⟨.audioClip, i⟩ c.scriptName]).flatten

/-- Makes a character stand still. -/
def resetCharacter (i : Nat) (w : World) : World :=
  { w with game := { w.game with characters := w.game.characters.modify i (·.reset i) } }

def characters (g : Game) : List Enrolment :=
  (g.characters.mapIdx fun i c =>
    [prepare (resetCharacter i), entity ⟨.character, i⟩ c.scriptName]).flatten

/-- Sorts the controls of a panel and shows or hides it. -/
def readyGui (g : Game.Gui) : Game.Gui :=
  { g.withDrawOrder with visible := g.initiallyVisible }

/-- Makes a panel ready. -/
def prepareGui (i : Nat) (w : World) : World :=
  { w with game := { w.game with guis := w.game.guis.modify i readyGui } }

/-- Gives a panel its wrapper. -/
def wrapGui (i : Nat) (w : World) : World := { w with guis := w.guis.set i (Wrapper.ofIndex i) }

/-- A panel after its controls. `first` is the index of the first of them among all controls. -/
def guiSteps (i first : Nat) (g : Game.Gui) : List Enrolment :=
  prepare (prepareGui i)
    :: g.controls.mapIdx (fun j c => entity ⟨.control, first + j⟩ c.name)
    ++ [prepare (wrapGui i), entity ⟨.gui, i⟩ g.name]

/-- The panels from number `i` on. -/
def guisFrom (i first : Nat) : List Game.Gui → List Enrolment
  | [] => []
  | g :: rest => guiSteps i first g ++ guisFrom (i + 1) (first + g.controls.length) rest

/-- The slots of inventory items. Those that the game uses have the names of their items. -/
def inventory (g : Game) : List Enrolment :=
  (List.range Game.inventorySlots).map fun i =>
    entity ⟨.inventory, i⟩ ((g.inventory[i]?.map (·.scriptName)).getD "")

def arrays (g : Game) : List Enrolment := [
  array "character" .character g.characters.length,
  array "object" .object Room.maxObjects,
  array "gui" .gui g.guis.length,
  array "hotspot" .hotspot Room.maxHotspots,
  array "region" .region Room.maxRegions,
  array "inventory" .inventory Game.inventorySlots,
  array "dialog" .dialog g.dialogs.length]

/-- The player's character under its own name, in games of the revisions that have it. -/
def player (g : Game) : List Enrolment :=
  if Game.playerSymbolVersion ≤ g.dataVersion && !g.characters.isEmpty then
    [nameOnly "player" ⟨.character, g.playerCharacter⟩]
  else []

/-- The steps for a game. -/
def ofGame (g : Game) : List Enrolment :=
  unnamed .audioChannel (Game.soundChannels + 1)
    ++ clips g
    ++ characters g
    ++ named .dialog g.dialogs (·.scriptName)
    ++ [entity ⟨.dialogRendering, 0⟩ "", surface]
    ++ guisFrom 0 0 g.guis
    ++ inventory g
    ++ unnamed .hotspot Room.maxHotspots
    ++ unnamed .region Room.maxRegions
    ++ unnamed .object Room.maxObjects
    ++ arrays g
    ++ player g

end Enrolment

/-! ## What the engine offers -/

/-- The functions that every script may import. -/
def engineFunctions : List String := [
  "Character::GetProperty^1", "Character::GetTextProperty^1",
  "Character::SetProperty^2", "Character::SetTextProperty^2",
  "Hotspot::GetProperty^1", "Hotspot::GetTextProperty^1",
  "Hotspot::SetProperty^2", "Hotspot::SetTextProperty^2",
  "InventoryItem::GetProperty^1", "InventoryItem::GetTextProperty^1",
  "InventoryItem::SetProperty^2", "InventoryItem::SetTextProperty^2",
  "Object::GetProperty^1", "Object::GetTextProperty^1",
  "Object::SetProperty^2", "Object::SetTextProperty^2",
  "Region::GetProperty^1", "Region::GetTextProperty^1",
  "Region::SetProperty^2", "Region::SetTextProperty^2",
  "Room::GetProperty^1", "Room::GetTextProperty^1",
  "Room::SetProperty^2", "Room::SetTextProperty^2",
  "Display", "Wait", "QuitGame"]

/-- The steps for what the engine itself offers: its functions, and the mouse. -/
def engineExports : List Enrolment :=
  engineFunctions.map .function ++ [.nameOnly "mouse" ⟨.mouse, 0⟩]

end Adventure
