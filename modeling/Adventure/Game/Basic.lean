import Adventure.Game.Audio
import Adventure.Game.Character
import Adventure.Game.Gui
import Adventure.Property.Shape

/-! # Game data

A `Game` is what the author made apart from rooms and scripts.

* `Game.resolution`, `Game.isHires?` — the size of the screen.
* `Game.upscaled` — low resolution games made to run at twice their size.
* `Game.shape` — the game in JSON.
-/

namespace Adventure

open Json

namespace Game

/-- Most classes of clips. -/
def maxAudioClasses : Nat := 30

/-- Channels that clips play on; one more is kept for the engine. -/
def soundChannels : Nat := 8

/-- Slots for inventory items. -/
def inventorySlots : Nat := 301

/-- The size of the screen, as games declare it. -/
inductive Resolution where
  | undefined
  | standard
  | r320x200
  | r320x240
  | r640x400
  | r640x480
  | r800x600
  | r1024x768
  | r1280x720
  | custom
  deriving DecidableEq, Repr

namespace Resolution

def all : List Resolution :=
  [undefined, standard, r320x200, r320x240, r640x400, r640x480, r800x600, r1024x768, r1280x720,
    custom]

def name : Resolution → String
  | undefined => "undefined"
  | standard => "default"
  | r320x200 => "320x200"
  | r320x240 => "320x240"
  | r640x400 => "640x400"
  | r640x480 => "640x480"
  | r800x600 => "800x600"
  | r1024x768 => "1024x768"
  | r1280x720 => "1280x720"
  | custom => "custom"

def shape : Shape Resolution := .choice name all

/-- Width and height, where the declaration fixes them. -/
def size? : Resolution → Option (UInt32 × UInt32)
  | undefined | custom => none
  | standard | r320x200 => some (320, 200)
  | r320x240 => some (320, 240)
  | r640x400 => some (640, 400)
  | r640x480 => some (640, 480)
  | r800x600 => some (800, 600)
  | r1024x768 => some (1024, 768)
  | r1280x720 => some (1280, 720)

/-- Twice the size for the two low resolutions. -/
def upscaled : Resolution → Resolution
  | r320x200 => r640x400
  | r320x240 => r640x480
  | other => other

end Resolution

/-- Switches of a game. -/
structure Options where
  noScaleFonts : Bool := false
  fadeType : Int32 := 0
  noWalkMode : Bool := false
  legacyHiresSprites : Bool := false
  deriving DecidableEq, Repr

def Options.shape : Shape Options :=
  .record {} [
    field "no_scale_fonts" .bool (·.noScaleFonts) (fun x o => { o with noScaleFonts := x }),
    field "fade_type" .int32 (·.fadeType) (fun x o => { o with fadeType := x }),
    field "no_walk_mode" .bool (·.noWalkMode) (fun x o => { o with noWalkMode := x }),
    field "legacy_hires_sprites" .bool (·.legacyHiresSprites)
      (fun x o => { o with legacyHiresSprites := x })]

/-- A font slot. The six low bits of the flags are the authored point size. -/
structure Font where
  flags : UInt32 := 0
  outline : Int32 := 0
  deriving DecidableEq, Repr

def Font.shape : Shape Font :=
  .record {} [
    field "flags" .uint32 (·.flags) (fun x f => { f with flags := x }),
    field "outline" .int32 (·.outline) (fun x f => { f with outline := x })]

def Font.authoredSize (f : Font) : Nat := f.flags.toNat % 64

/-- The point size to load a font at, 8 if the author gave none. -/
def Font.loadSize (scales : Bool) (f : Font) : Nat :=
  let size := if f.authoredSize = 0 then 8 else f.authoredSize
  if scales then size * 2 else size

/-- A conversation. -/
structure Dialog where
  scriptName : String := ""
  options : List String := []
  topicFlags : Int32 := 0
  deriving DecidableEq, Repr

def Dialog.shape : Shape Dialog :=
  .record {} [
    field "script_name" .text (·.scriptName) (fun x d => { d with scriptName := x }),
    field "options" (.list .text) (·.options) (fun x d => { d with options := x }),
    field "topic_flags" .int32 (·.topicFlags) (fun x d => { d with topicFlags := x })]

/-- An inventory item. -/
structure Item where
  name : String := ""
  scriptName : String := ""
  picture : Int32 := 0
  cursorPicture : Int32 := 0
  hotX : Int32 := 0
  hotY : Int32 := 0
  flags : Int32 := 0
  deriving DecidableEq, Repr

def Item.shape : Shape Item :=
  .record {} [
    field "name" .text (·.name) (fun x i => { i with name := x }),
    field "script_name" .text (·.scriptName) (fun x i => { i with scriptName := x }),
    field "pic" .int32 (·.picture) (fun x i => { i with picture := x }),
    field "cursor_pic" .int32 (·.cursorPicture) (fun x i => { i with cursorPicture := x }),
    field "hotx" .int32 (·.hotX) (fun x i => { i with hotX := x }),
    field "hoty" .int32 (·.hotY) (fun x i => { i with hotY := x }),
    field "flags" .int32 (·.flags) (fun x i => { i with flags := x })]

end Game

/-- The authored data of a game. -/
structure Game where
  name : String := ""
  uniqueId : Int32 := 0
  /-- Revision of the format that the game was compiled in. -/
  dataVersion : UInt32 := 60
  resolutionClass : Game.Resolution := .r320x200
  customSize : Option (UInt32 × UInt32) := none
  options : Game.Options := {}
  fonts : List Game.Font := []
  audioClasses : List Game.AudioClass := []
  audioClips : List Game.AudioClip := []
  characters : List Game.Character := []
  dialogs : List Game.Dialog := []
  guis : List Game.Gui := []
  inventory : List Game.Item := []
  schema : Property.Schema := ∅
  /-- Authored property texts by character. -/
  characterProperties : List PropertyMap := []
  /-- Authored property texts by inventory item. -/
  itemProperties : List PropertyMap := []
  saveExtension : String := ""
  scoreClip : Int32 := -1
  playerCharacter : Nat := 0

namespace Game

/-- The revision from which scripts know the player's character as `player`. -/
def playerSymbolVersion : UInt32 := 37

/-- Width and height of the screen. -/
def resolution (g : Game) : UInt32 × UInt32 :=
  match g.resolutionClass with
  | .custom => g.customSize.getD (320, 200)
  | other => other.size?.getD (320, 200)

/-- Pixels on the screen, as far as 32 bits count them. -/
def pixelCount? (g : Game) : Option Nat :=
  let count := g.resolution.1.toNat * g.resolution.2.toNat
  if count < UInt32.size then some count else none

/-- A screen with more pixels than 320x240 is of high resolution. None for a screen whose pixels
cannot be counted: the question ends the program. -/
def isHires? (g : Game) : Option Bool := g.pixelCount?.map fun count => 320 * 240 < count

/-- The game at twice its size if it is one of low resolution and `wanted`. -/
def upscaled (g : Game) (wanted : Bool) : Game :=
  if wanted then { g with resolutionClass := g.resolutionClass.upscaled } else g

/-- Whether fonts are loaded at twice their size: on a screen of high resolution, unless the game
forbids it. A game that forbids it does not ask for the screen. -/
def scalesFonts? (g : Game) : Option Bool :=
  if g.options.noScaleFonts then some false else g.isHires?

def shape : Shape Game :=
  .record {} [
    field "game_name" .text (·.name) (fun x g => { g with name := x }),
    field "unique_id" .int32 (·.uniqueId) (fun x g => { g with uniqueId := x }),
    field "data_version" .uint32 (·.dataVersion) (fun x g => { g with dataVersion := x }),
    field "default_resolution" Resolution.shape (·.resolutionClass)
      (fun x g => { g with resolutionClass := x }),
    field "custom_size" (.option (.pair .uint32 .uint32)) (·.customSize)
      (fun x g => { g with customSize := x }),
    field "options" Options.shape (·.options) (fun x g => { g with options := x }),
    field "fonts" (.list Font.shape) (·.fonts) (fun x g => { g with fonts := x }),
    field "audio_clip_types" (.list AudioClass.shape) (·.audioClasses)
      (fun x g => { g with audioClasses := x }),
    field "audio_clips" (.list AudioClip.shape) (·.audioClips)
      (fun x g => { g with audioClips := x }),
    field "characters" (.list Character.shape) (·.characters)
      (fun x g => { g with characters := x }),
    field "dialogs" (.list Dialog.shape) (·.dialogs) (fun x g => { g with dialogs := x }),
    field "guis" (.list Gui.shape) (·.guis) (fun x g => { g with guis := x }),
    field "inventory" (.list Item.shape) (·.inventory) (fun x g => { g with inventory := x }),
    field "prop_schema" Property.Schema.shape (·.schema) (fun x g => { g with schema := x }),
    field "char_props" (.list PropertyMap.shape) (·.characterProperties)
      (fun x g => { g with characterProperties := x }),
    field "inv_props" (.list PropertyMap.shape) (·.itemProperties)
      (fun x g => { g with itemProperties := x }),
    field "save_game_extension" .text (·.saveExtension)
      (fun x g => { g with saveExtension := x }),
    field "score_clip_id" .int32 (·.scoreClip) (fun x g => { g with scoreClip := x }),
    field "player_character" .index (·.playerCharacter)
      (fun x g => { g with playerCharacter := x })]

end Game

end Adventure
