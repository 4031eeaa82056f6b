import Adventure.Config
import Adventure.Plugin.Basic
import Adventure.Room.Basic
import Adventure.Script.Linkage

/-! # Sessions

A `Session` is all that there is between the start of a game and its end: the world, the registry,
the linked scripts, the current room, and what scripts have changed.
-/

namespace Adventure

namespace Session

/-- How far a session has come. -/
inductive Phase where
  /-- No game has been started. -/
  | empty
  | ready
  /-- The start of the game failed part way. The session is of no further use. -/
  | failed
  deriving DecidableEq, Repr

/-- What a session keeps about a character next to its record. -/
structure CharacterExtras where
  width : Int32 := 0
  height : Int32 := 0
  zoom : Int32 := 100
  /-- Where the character was when it was drawn last. -/
  previousX : Int32 := Int32.minValue
  previousY : Int32 := Int32.minValue
  animationWait : Int32 := 0
  processIdle : Bool := false
  deriving DecidableEq, Repr

/-- State that runs parallel to the authored data of a game. -/
structure Runtime where
  extras : List CharacterExtras := []
  /-- Slots for the pictures of characters as they were drawn last. -/
  pictureSlots : Nat := 0
  /-- Slots for walks in progress. -/
  walkSlots : Nat := 0
  /-- Slots for prepared sprites. -/
  spriteSlots : Nat := 0
  /-- What scripts have set, by character. -/
  characterProperties : List PropertyMap := []
  /-- What scripts have set, by inventory item. -/
  itemProperties : List PropertyMap := []

/-- Slots for pictures beyond one for each character. -/
def sparePictureSlots : Nat := 5

/-- Fresh state for a game. Walks and sprites have a slot for each character and each room object,
and some for the engine itself. -/
def Runtime.forGame (g : Game) : Runtime :=
  let count := g.characters.length
  { extras := List.replicate count {}
    pictureSlots := count + sparePictureSlots
    walkSlots := count + Room.maxObjects + 1
    spriteSlots := count + Room.maxObjects + 2
    characterProperties := List.replicate count ∅
    itemProperties := List.replicate g.inventory.length ∅ }

/-- State of play that belongs to no entity. -/
structure Play where
  paused : Bool := false
  /-- The panel that has popped up, -1 for none. -/
  popup : Int32 := -1
  /-- The ending of the names of saved games. -/
  saveSuffix : String := ""
  /-- The clip that plays when the score rises, -1 for none. -/
  scoreSound : Int32 := -1
  fadeEffect : Int32 := 0
  /-- The panels in the order of drawing. -/
  guiDrawOrder : List Nat := []
  /-- Sound channels that are kept for certain classes of clips. -/
  reservedChannels : Nat := 0
  playerCharacter : Nat := 0
  deriving DecidableEq, Repr

/-- What scripts have set in a room. -/
structure RoomStatus where
  hotspots : List PropertyMap := []
  objects : List PropertyMap := []
  regions : List PropertyMap := []
  room : PropertyMap := ∅

/-- The status of a room that nobody has touched yet. -/
def RoomStatus.forRoom (r : Room) : RoomStatus where
  hotspots := List.replicate r.hotspots.length ∅
  objects := List.replicate r.objects.length ∅
  regions := List.replicate r.regions.length ∅

/-- The room that the player is in. -/
structure CurrentRoom where
  number : Int32
  data : Room
  status : RoomStatus
  /-- The global names of its hotspots and objects, hotspots first. -/
  boundNames : List String

end Session

open Session in
/-- All that there is between the start of a game and its end. -/
structure Session where
  config : Config := {}
  phase : Phase := .empty
  world : World := {}
  registry : Registry := {}
  runtime : Runtime := {}
  play : Play := {}
  scripts : Script.Linkage := {}
  plugins : Plugin.Host := {}
  /-- Compiled dialogs of old games. -/
  oldDialogs : List Bytes := []
  oldSpeech : List String := []
  room : Option CurrentRoom := none
  /-- The handle of the surface that scripts draw the options of a dialog on. -/
  dialogSurface : Handle := 0
  /-- Messages of failed script calls that nobody has taken yet. -/
  errors : List String := []

namespace Session

/-- A session before its game. -/
def new (config : Config) : Session :=
  { config, scripts := { timeout := config.scriptTimeout } }

def isReady (s : Session) : Bool := s.phase = .ready

def game (s : Session) : Game := s.world.game

end Session

end Adventure
