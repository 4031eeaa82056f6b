import Adventure.Proofs.Game.Shape

/-! # Bundles in JSON

A bundle that is written and read again is the same bundle but for the order in which panels draw
their controls, which is worked out anew. What is taken out of the JSON, of the bundle itself or of
its game, is read as it is declared for a new one (`json_roundTrip`).
-/

namespace Adventure

open Json Json.Shape

namespace Game

/-- A game as it is stored. -/
def stored (g : Game) : Game := { g with guis := g.guis.map Gui.stored }

/-- A game whose parts of the given names are those of a new game. -/
def without (names : List String) (g : Game) : Game :=
  let new : Game := {}
  { name := if "game_name" ∈ names then new.name else g.name
    uniqueId := if "unique_id" ∈ names then new.uniqueId else g.uniqueId
    dataVersion := if "data_version" ∈ names then new.dataVersion else g.dataVersion
    resolutionClass :=
      if "default_resolution" ∈ names then new.resolutionClass else g.resolutionClass
    customSize := if "custom_size" ∈ names then new.customSize else g.customSize
    options := if "options" ∈ names then new.options else g.options
    fonts := if "fonts" ∈ names then new.fonts else g.fonts
    audioClasses := if "audio_clip_types" ∈ names then new.audioClasses else g.audioClasses
    audioClips := if "audio_clips" ∈ names then new.audioClips else g.audioClips
    characters := if "characters" ∈ names then new.characters else g.characters
    dialogs := if "dialogs" ∈ names then new.dialogs else g.dialogs
    guis := if "guis" ∈ names then new.guis else g.guis
    inventory := if "inventory" ∈ names then new.inventory else g.inventory
    schema := if "prop_schema" ∈ names then new.schema else g.schema
    characterProperties :=
      if "char_props" ∈ names then new.characterProperties else g.characterProperties
    itemProperties := if "inv_props" ∈ names then new.itemProperties else g.itemProperties
    saveExtension := if "save_game_extension" ∈ names then new.saveExtension else g.saveExtension
    scoreClip := if "score_clip_id" ∈ names then new.scoreClip else g.scoreClip
    playerCharacter :=
      if "player_character" ∈ names then new.playerCharacter else g.playerCharacter }

theorem read_write_without (g : Game) (fits : g.playerCharacter < 2 ^ 64) (names : List String) :
    shape.read? ((shape.write g).without names) = some (g.stored.without names) := by
  have guis : (list Gui.shape).read? ((list Gui.shape).write g.guis) =
      some (g.guis.map Gui.stored) := list_read fun gui _ => Gui.read_write gui
  have player : index.read? (index.write g.playerCharacter) = some g.playerCharacter :=
    natBelow_read fits
  have size := (lawful_uint32.pair lawful_uint32).option (fun p => by simp [Shape.pair])
  refine (record_read {} ?distinct (·.write g) names).trans ?_
  case distinct => simp
  simp only [List.map_cons, List.map_nil, field_name, field_write]
  -- one step for each field, in the order of the record
  refine (readFields_unless (lawful_text _) fun _ => rfl).trans ?_
  refine (readFields_unless (lawful_int32 _) fun _ => rfl).trans ?_
  refine (readFields_unless (lawful_uint32 _) fun _ => rfl).trans ?_
  refine (readFields_unless (Resolution.lawful _) fun _ => rfl).trans ?_
  refine (readFields_unless (size _) fun _ => rfl).trans ?_
  refine (readFields_unless (Options.lawful _) fun _ => rfl).trans ?_
  refine (readFields_unless (Font.lawful.list _) fun _ => rfl).trans ?_
  refine (readFields_unless (AudioClass.lawful.list _) fun _ => rfl).trans ?_
  refine (readFields_unless (AudioClip.lawful.list _) fun _ => rfl).trans ?_
  refine (readFields_unless (Character.lawful.list _) fun _ => rfl).trans ?_
  refine (readFields_unless (Dialog.lawful.list _) fun _ => rfl).trans ?_
  refine (readFields_unless guis fun _ => rfl).trans ?_
  refine (readFields_unless (Item.lawful.list _) fun _ => rfl).trans ?_
  refine (readFields_unless (Property.Schema.lawful _) fun _ => rfl).trans ?_
  refine (readFields_unless (PropertyMap.lawful.list _) fun _ => rfl).trans ?_
  refine (readFields_unless (PropertyMap.lawful.list _) fun _ => rfl).trans ?_
  refine (readFields_unless (lawful_text _) fun _ => rfl).trans ?_
  refine (readFields_unless (lawful_int32 _) fun _ => rfl).trans ?_
  refine (readFields_unless player fun _ => rfl).trans ?_
  rfl

end Game

namespace Bundle

/-- A bundle as it is stored. -/
def stored (b : Bundle) : Bundle := { b with game := b.game.stored }

/-- A bundle whose parts of the names `outer`, and those of its game of the names `inner`, are
those of a new bundle. -/
def without (outer inner : List String) (b : Bundle) : Bundle :=
  let new : Bundle := {}
  { game := if "game" ∈ outer then new.game else b.game.without inner
    globalScript := if "global_script" ∈ outer then new.globalScript else b.globalScript
    dialogScript := if "dialog_script" ∈ outer then new.dialogScript else b.dialogScript
    scriptModules := if "script_modules" ∈ outer then new.scriptModules else b.scriptModules
    plugins := if "plugin_infos" ∈ outer then new.plugins else b.plugins
    oldDialogs := if "old_dialog_scripts" ∈ outer then new.oldDialogs else b.oldDialogs
    oldSpeech := if "old_speech_lines" ∈ outer then new.oldSpeech else b.oldSpeech }

theorem read_write_without (b : Bundle) (fits : b.game.playerCharacter < 2 ^ 64)
    (outer inner : List String) :
    shape.read? (((shape.write b).within "game" (·.without inner)).without outer) =
      some (b.stored.without outer inner) := by
  have script := Script.Module.lawful.option fun m => by simp [Script.Module.shape, Shape.record]
  rw [shape, record_write_within]
  refine (record_read _ ?distinct _ outer).trans ?_
  case distinct => simp
  simp only [List.map_cons, List.map_nil, field_name, field_write, String.reduceEq, reduceIte]
  refine (readFields_unless (b.game.read_write_without fits inner) fun _ => rfl).trans ?_
  refine (readFields_unless (script _) fun _ => rfl).trans ?_
  refine (readFields_unless (script _) fun _ => rfl).trans ?_
  refine (readFields_unless (Script.Module.lawful.list _) fun _ => rfl).trans ?_
  refine (readFields_unless (Plugin.Info.lawful.list _) fun _ => rfl).trans ?_
  refine (readFields_unless (lawful_uint8.list.list _) fun _ => rfl).trans ?_
  refine (readFields_unless (lawful_text.list _) fun _ => rfl).trans ?_
  rfl

/-- A bundle is given back by its JSON, but for the orders of drawing. Whatever members are taken
out of the JSON, the bundle has for them what a new bundle has, and all else as it was. The number
of the player's character is a machine word. -/
theorem json_roundTrip (b : Bundle) (fits : b.game.playerCharacter < 2 ^ 64) :
    shape.read? (shape.write b) = some b.stored ∧ ∀ outer inner : List String,
      shape.read? (((shape.write b).within "game" (·.without inner)).without outer) =
        some (b.stored.without outer inner) := by
  have parts := b.read_write_without fits
  refine ⟨?_, parts⟩
  have whole := parts [] []
  rwa [Value.without_nil, Value.within_self _ Value.without_nil] at whole

/-- One panel, drawn with its second control first, and one plugin. -/
def pinboard : Bundle where
  game :=
    { name := "Pinboard"
      dataVersion := 50
      guis := [{ name := "gBoard", controls := [{ zOrder := 2 }, {}], controlDrawOrder := [1, 0] }]
      characterProperties := [.ofPairs [("Weight", "3")]] }
  plugins := [⟨"agsnoise.dll", [1, 2]⟩]

theorem json_roundTrip_pinboard :
    pinboard.game.playerCharacter < 2 ^ 64 ∧
      shape.read? (shape.write pinboard) = some pinboard.stored ∧
      (shape.read? (((shape.write pinboard).within "game" (·.without ["data_version"])).without
        ["plugin_infos"])).map (fun b => (b.game.name, b.game.dataVersion, b.plugins)) =
          some ("Pinboard", 60, []) := by
  have fits : pinboard.game.playerCharacter < 2 ^ 64 := by decide
  obtain ⟨whole, parts⟩ := json_roundTrip pinboard fits
  refine ⟨fits, whole, ?_⟩
  rw [parts]
  rfl

end Bundle

end Adventure
