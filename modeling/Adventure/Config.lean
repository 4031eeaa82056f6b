import Adventure.Json.Parser
import Adventure.Json.Shape

/-! # Engine settings

Settings of the engine that are no part of a game.
-/

namespace Adventure

open Json

/-- The settings. -/
structure Config where
  /-- Run games of low resolution at twice their size. -/
  overrideUpscale : Bool := false
  /-- Loops that a script may run before it counts as hung. -/
  scriptTimeout : UInt32 := 150000
  maxPlugins : Nat := 20
  /-- Refuse rooms that were compiled for a different game. -/
  strictRoomGame : Bool := true
  deriving DecidableEq, Repr

namespace Config

def shape : Shape Config :=
  .record {} [
    field "override_upscale" .bool (·.overrideUpscale) (fun x c => { c with overrideUpscale := x }),
    field "script_timeout_loops" .uint32 (·.scriptTimeout)
      (fun x c => { c with scriptTimeout := x }),
    field "max_plugins" .index (·.maxPlugins) (fun x c => { c with maxPlugins := x }),
    field "strict_room_game_id" .bool (·.strictRoomGame)
      (fun x c => { c with strictRoomGame := x })]

/-- The settings that a JSON text describes. -/
def parse? (bytes : Bytes) : Option Config := (Value.parse? bytes).bind shape.read?

end Config

end Adventure
