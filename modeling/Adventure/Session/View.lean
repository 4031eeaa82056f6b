import Adventure.Json.Value
import Adventure.Session.Basic

/-! # Sessions in JSON

Views of the parts of a session for inspection: linked scripts and their hooks, the state of play,
and the state that runs parallel to the data of a game.
-/

namespace Adventure

open Json

namespace Script

/-- The part that a script plays: its name alone, or with a number. -/
def Kind.toJson : Kind → Value
  | .global => .str "global"
  | .dialog => .str "dialog"
  | .auxiliary i => .arr [.str "module", .nat i]
  | .room n => .arr [.str "room", .int n.toInt]

def Linked.toJson (s : Linked) : Value :=
  .obj [("name", .str s.name), ("kind", s.kind.toJson), ("exports", .texts s.exports)]

/-- The names of the scripts that each hook calls, by function. -/
def Linkage.hooksJson (l : Linkage) : Value :=
  let names (scripts : List Linked) : Value := .texts (scripts.map (·.name))
  .obj (Hook.all.map (fun hook => (hook.functionName, names (l.scriptsWith hook)))
    ++ [("repexec", names l.loopScripts)])

end Script

namespace Session

def Phase.name : Phase → String
  | .empty => "Empty"
  | .ready => "Ready"
  | .failed => "Failed"

def Play.toJson (p : Play) : Value :=
  .obj [
    ("game_paused", .bool p.paused),
    ("ifacepopped", .int p.popup.toInt),
    ("save_game_suffix", .str p.saveSuffix),
    ("score_sound", .int p.scoreSound.toInt),
    ("fade_effect", .int p.fadeEffect.toInt),
    ("gui_draw_order", .arr (p.guiDrawOrder.map .nat)),
    ("reserved_channel_count", .nat p.reservedChannels),
    ("player_character", .nat p.playerCharacter)]

def CharacterExtras.toJson (e : CharacterExtras) : Value :=
  .arr ([e.width, e.height, e.zoom, e.previousX, e.previousY, e.animationWait].map (.int ·.toInt)
    ++ [.bool e.processIdle])

/-- Names and texts as pairs. -/
def propertiesJson (m : PropertyMap) : Value :=
  .arr (m.toPairs.map fun (name, text) => .texts [name, text])

def Runtime.toJson (r : Runtime) : Value :=
  .obj [
    ("extras", .arr (r.extras.map (·.toJson))),
    ("cache", .nat r.pictureSlots),
    ("move_lists", .nat r.walkSlots),
    ("sprite_slots", .nat r.spriteSlots),
    ("char_props", .arr (r.characterProperties.map propertiesJson)),
    ("inv_props", .arr (r.itemProperties.map propertiesJson))]

end Session

end Adventure
