import Adventure.Registry.Symbols
import Adventure.Script.Module

/-! # Linked scripts

Scripts are linked in order: auxiliary modules, the global script, the dialog script. Each may use
global symbols and what scripts before it export. The script of a room is linked last and comes and
goes with its room.

* `Linkage.bind` — links the scripts of a game. What was linked before a failure stays linked.
* `Linkage.link` — links one script.
* `Linkage.scriptsWith` — the scripts that a hook calls, in order.
-/

namespace Adventure.Script

open Std (ExtTreeMap)

/-- The part that a script plays. -/
inductive Kind where
  | global
  | dialog
  /-- The auxiliary module with this index. -/
  | auxiliary (index : Nat)
  /-- The script of the room with this number. -/
  | room (number : Int32)
  deriving DecidableEq, Repr

/-- A linked script. -/
structure Linked where
  name : String
  kind : Kind
  exports : List String
  deriving DecidableEq, Repr

/-- Whether the script provides `function`. -/
def Linked.implements (s : Linked) (function : String) : Bool := s.exports.contains function

/-- Why a script could not be linked. -/
structure LinkFault where
  symbol : String
  script : String
  deriving DecidableEq, Repr

/-- The wording of a fault. -/
def LinkFault.message (f : LinkFault) : String :=
  s!"unresolved import '{f.symbol}' in script '{f.script}'"

/-! ## Hooks -/

/-- Functions that the engine calls in every script that has them. -/
inductive Hook where
  | repeatedlyExecuteAlways
  | lateRepeatedlyExecuteAlways
  | dialogOptionsGetDimensions
  | dialogOptionsRender
  | dialogOptionsGetActive
  | dialogOptionsMouseClick
  | dialogOptionsKeyPress
  | dialogOptionsRepexec
  deriving DecidableEq, Repr

namespace Hook

def all : List Hook :=
  [repeatedlyExecuteAlways, lateRepeatedlyExecuteAlways, dialogOptionsGetDimensions,
    dialogOptionsRender, dialogOptionsGetActive, dialogOptionsMouseClick, dialogOptionsKeyPress,
    dialogOptionsRepexec]

def functionName : Hook → String
  | repeatedlyExecuteAlways => "repeatedly_execute_always"
  | lateRepeatedlyExecuteAlways => "late_repeatedly_execute_always"
  | dialogOptionsGetDimensions => "dialog_options_get_dimensions"
  | dialogOptionsRender => "dialog_options_render"
  | dialogOptionsGetActive => "dialog_options_get_active"
  | dialogOptionsMouseClick => "dialog_options_mouse_click"
  | dialogOptionsKeyPress => "dialog_options_key_press"
  | dialogOptionsRepexec => "dialog_options_repexec"

end Hook

/-- The function that the engine calls on every turn of the game loop. -/
def loopFunction : String := "repeatedly_execute"

/-! ## Linkage -/

/-- The linked scripts of a session. -/
structure Linkage where
  global : Option Linked := none
  dialog : Option Linked := none
  auxiliary : List Linked := []
  room : Option Linked := none
  /-- Loops that a script may run before it counts as hung. -/
  timeout : UInt32 := 0
  /-- For each hook, the places of the scripts that have it, as found when the game was bound. -/
  hookPlaces : Hook → List Nat := fun _ => []
  /-- Whether the script at each place takes part in the game loop, found likewise. -/
  loopFlags : List Bool := []
  /-- The script that provides each exported symbol; the first to export it. -/
  exported : ExtTreeMap String String := ∅

namespace Linkage

/-- The scripts that hooks reach, in the order of calls: auxiliary modules, then the global
script. -/
def hookOrder (l : Linkage) : List Linked := l.auxiliary ++ l.global.toList

/-- The first import that nothing provides. -/
def missingImport? (l : Linkage) (symbols : SymbolTable) (m : Module) : Option String :=
  m.imports.find? fun s => !symbols.contains s && !l.exported.contains s

/-- Links one script against global symbols and what has been linked. Nothing is stored. -/
def link (l : Linkage) (symbols : SymbolTable) (m : Module) (kind : Kind) :
    Except LinkFault Linked :=
  match l.missingImport? symbols m with
  | some symbol => .error { symbol, script := m.name }
  | none => .ok { name := m.name, kind, exports := m.exports }

/-- Makes the exports of a script known. What is known already stays with its first provider. -/
def publish (l : Linkage) (s : Linked) : Linkage :=
  let note (known : ExtTreeMap String String) (symbol : String) := known.insertIfNew symbol s.name
  { l with exported := s.exports.foldl note l.exported }

/-- Puts a script into its place. -/
def install (l : Linkage) (s : Linked) : Linkage :=
  match s.kind with
  | .global => { l with global := some s }
  | .dialog => { l with dialog := some s }
  | .auxiliary _ => { l with auxiliary := l.auxiliary ++ [s] }
  | .room _ => { l with room := some s }

/-- Links scripts one after the other, up to the first that cannot be. -/
def linkAll (l : Linkage) (symbols : SymbolTable) :
    List (Kind × Module) → Except LinkFault Unit × Linkage
  | [] => (.ok (), l)
  | (kind, m) :: rest =>
    match l.link symbols m kind with
    | .error fault => (.error fault, l)
    | .ok s => ((l.publish s).install s).linkAll symbols rest

/-- The order in which the scripts of a game are linked. -/
def linkOrder (global dialog : Option Module) (auxiliary : List Module) : List (Kind × Module) :=
  auxiliary.mapIdx (fun i m => (.auxiliary i, m))
    ++ global.toList.map (.global, ·) ++ dialog.toList.map (.dialog, ·)

/-- Without scripts. What has been found out about hooks stays. -/
def cleared (l : Linkage) : Linkage :=
  { l with global := none, dialog := none, auxiliary := [], room := none, exported := ∅ }

/-- The places of the scripts that have a function. -/
def placesOf (scripts : List Linked) (function : String) : List Nat :=
  (scripts.zipIdx.filter fun (s, _) => s.implements function).map (·.2)

/-- Finds out which scripts have which hooks. -/
def withHooks (l : Linkage) : Linkage :=
  { l with
    hookPlaces := fun hook => placesOf l.hookOrder hook.functionName
    loopFlags := l.hookOrder.map (·.implements loopFunction) }

/-- Links the scripts of a game in place of those before. -/
def bind (l : Linkage) (symbols : SymbolTable) (global dialog : Option Module)
    (auxiliary : List Module) : Except LinkFault Unit × Linkage :=
  match l.cleared.linkAll symbols (linkOrder global dialog auxiliary) with
  | (.error fault, l) => (.error fault, l)
  | (.ok _, l) => (.ok (), l.withHooks)

/-- Links the script of a room. Nothing is stored. -/
def linkRoom (l : Linkage) (symbols : SymbolTable) (m : Module) (number : Int32) :
    Except LinkFault Linked := l.link symbols m (.room number)

/-- Puts the script of a room, or none, into its place. -/
def withRoom (l : Linkage) (room : Option Linked) : Linkage := { l with room }

/-- The script that provides a symbol. -/
def exporter? (l : Linkage) (symbol : String) : Option String := l.exported[symbol]?

/-- The scripts that a hook calls, in order. -/
def scriptsWith (l : Linkage) (hook : Hook) : List Linked :=
  (l.hookPlaces hook).filterMap (l.hookOrder[·]?)

/-- The scripts that take part in the game loop, in order. -/
def loopScripts (l : Linkage) : List Linked :=
  ((l.hookOrder.zip l.loopFlags).filter (·.2)).map (·.1)

/-- The names of all linked scripts, in the order of linking. -/
def names (l : Linkage) : List String :=
  (l.auxiliary ++ l.global.toList ++ l.dialog.toList ++ l.room.toList).map (·.name)

end Linkage

end Adventure.Script
