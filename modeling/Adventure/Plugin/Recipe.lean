import Adventure.Json.Shape
import Adventure.Plugin.Basic

/-! # Plugins by recipe

A plugin that is described by data: what it demands, what it exports, what it changes, and where it
fails.
-/

namespace Adventure.Plugin

/-- What a plugin does. -/
structure Recipe where
  name : String
  /-- Demand data in the game. -/
  needsData : Bool := false
  /-- Fail on taking the data. -/
  acceptFault : Option String := none
  /-- Fail on starting. -/
  startFault : Option String := none
  /-- Functions to export. -/
  functions : List String := []
  /-- Where to put all characters. -/
  x : Option Int32 := none
  /-- Take any data. -/
  plain : Bool := false

namespace Recipe

def accept (r : Recipe) (data : Bytes) : Except (List String) Unit :=
  if r.plain then .ok ()
  else if r.needsData && data.isEmpty then .error ["missing settings blob"]
  else match r.acceptFault with
    | some reason => .error ["register", reason]
    | none => .ok ()

/-- Exports functions, up to the first whose name is taken. -/
def exportAll : List String → Registry → Except Registry.Fault Unit × Registry
  | [], r => (.ok (), r)
  | name :: rest, r =>
    match r.bindFunction name with
    | .error fault => (.error fault, r)
    | .ok r => exportAll rest r

/-- Puts all characters at `x`. -/
def moveCharacters (w : World) (x : Int32) : World :=
  { w with game := { w.game with characters := w.game.characters.map (·.set .x x) } }

def start (r : Recipe) (w : World) (registry : Registry) :
    Except (List String) Unit × World × Registry :=
  match exportAll r.functions registry with
  | (.error fault, registry) => (.error [fault.message], w, registry)
  | (.ok _, registry) =>
    let w := (r.x.map (moveCharacters w)).getD w
    match r.startFault with
    | some reason => (.error [reason], w, registry)
    | none => (.ok (), w, registry)

/-- The name is required. -/
def shape : Json.Shape Recipe :=
  .record { name := "" } [
    Json.requiredField "name" .text (·.name) (fun x r => { r with name := x }),
    Json.field "needs_data" .bool (·.needsData) (fun x r => { r with needsData := x }),
    Json.field "register_error" (.option .text) (·.acceptFault)
      (fun x r => { r with acceptFault := x }),
    Json.field "startup_error" (.option .text) (·.startFault)
      (fun x r => { r with startFault := x }),
    Json.field "functions" (.list .text) (·.functions) (fun x r => { r with functions := x }),
    Json.field "set_x" (.option .int32) (·.x) (fun x r => { r with x }),
    Json.field "plain" .bool (·.plain) (fun x r => { r with plain := x })]

/-- The plugin that does it. -/
def toPlugin (r : Recipe) : Plugin where
  name := r.name
  accept := r.accept
  start := r.start

end Recipe

end Adventure.Plugin
