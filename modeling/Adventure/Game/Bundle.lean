import Adventure.Game.Basic
import Adventure.Json.Parser
import Adventure.Script.Module

/-! # Game bundles

A `Bundle` is all that a session is started from: the game with its scripts, plugins and the
material of old dialogs.
-/

namespace Adventure

open Json

/-- A plugin that the game asks for, with the data it left in the game. -/
structure Plugin.Info where
  name : String := ""
  data : Bytes := []
  deriving DecidableEq, Repr

def Plugin.Info.shape : Shape Plugin.Info :=
  .record {} [
    field "name" .text (·.name) (fun x i => { i with name := x }),
    field "data" (.list .uint8) (·.data) (fun x i => { i with data := x })]

/-- All that a session is started from. -/
structure Bundle where
  game : Game := {}
  globalScript : Option Script.Module := none
  dialogScript : Option Script.Module := none
  scriptModules : List Script.Module := []
  plugins : List Plugin.Info := []
  /-- Compiled dialogs of old games. -/
  oldDialogs : List Bytes := []
  oldSpeech : List String := []

namespace Bundle

def shape : Shape Bundle :=
  .record {} [
    field "game" Game.shape (·.game) (fun x b => { b with game := x }),
    field "global_script" (.option Script.Module.shape) (·.globalScript)
      (fun x b => { b with globalScript := x }),
    field "dialog_script" (.option Script.Module.shape) (·.dialogScript)
      (fun x b => { b with dialogScript := x }),
    field "script_modules" (.list Script.Module.shape) (·.scriptModules)
      (fun x b => { b with scriptModules := x }),
    field "plugin_infos" (.list Plugin.Info.shape) (·.plugins) (fun x b => { b with plugins := x }),
    field "old_dialog_scripts" (.list (.list .uint8)) (·.oldDialogs)
      (fun x b => { b with oldDialogs := x }),
    field "old_speech_lines" (.list .text) (·.oldSpeech) (fun x b => { b with oldSpeech := x })]

/-- The bundle that a JSON text describes. -/
def parse? (bytes : Bytes) : Option Bundle := (Value.parse? bytes).bind shape.read?

end Bundle

end Adventure
