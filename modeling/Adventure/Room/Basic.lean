import Adventure.Bitmap
import Adventure.Capped
import Adventure.NameTable
import Adventure.Script.Module

/-! # Rooms

A `Room` is a scene as its author made it: backgrounds, area masks, and the hotspots, objects,
regions and walkable areas in it.
-/

namespace Adventure

namespace Room

/-- The game number of rooms that may run inside any game. -/
def anyGame : Int32 := 16325

/-- Near scaling of a walkable area that scales all over alike. -/
def notVectorScaled : Int32 := -10000

def maxFrames : Nat := 5
def maxHotspots : Nat := 50
def maxObjects : Nat := 256
def maxRegions : Nat := 16
def maxWalkAreas : Nat := 16
def maxWalkBehinds : Nat := 16
def maxMessages : Nat := 100

/-- Longest side of a room as stored. -/
def maxSide : Int := 8192

/-- Number of colours in a stored palette. -/
def paletteSize : Nat := 256

/-- How much louder or quieter than usual music plays. -/
inductive Volume where
  | quietest
  | quieter
  | quiet
  | normal
  | loud
  | louder
  | loudest
  /-- Beyond what authors can choose. -/
  | extra1
  | extra2
  deriving DecidableEq, Repr

namespace Volume

def all : List Volume :=
  [quietest, quieter, quiet, normal, loud, louder, loudest, extra1, extra2]

def toInt : Volume → Int
  | quietest => -3
  | quieter => -2
  | quiet => -1
  | normal => 0
  | loud => 1
  | louder => 2
  | loudest => 3
  | extra1 => 4
  | extra2 => 5

def ofInt? (i : Int) : Option Volume := all.find? (·.toInt = i)

def name : Volume → String
  | quietest => "Quietest"
  | quieter => "Quieter"
  | quiet => "Quiet"
  | normal => "Normal"
  | loud => "Loud"
  | louder => "Louder"
  | loudest => "Loudest"
  | extra1 => "Extra1"
  | extra2 => "Extra2"

end Volume

/-- The pixel density that a room was made for, by ascending density. -/
inductive Density where
  /-- Used as it is, whatever the game. -/
  | real
  | low
  | high
  | overHigh
  deriving DecidableEq, Repr

namespace Density

def all : List Density := [real, low, high, overHigh]

def toNat : Density → Nat
  | real => 0
  | low => 1
  | high => 2
  | overHigh => 3

def ofNat? (n : Nat) : Option Density := all.find? (·.toNat = n)

def name : Density → String
  | real => "Real"
  | low => "Low"
  | high => "High"
  | overHigh => "OverHigh"

end Density

/-- Settings of a room. -/
structure Options where
  startupMusic : Int32 := 0
  saveLoadDisabled : Bool := false
  playerCharacterOff : Bool := false
  playerView : Int32 := 0
  musicVolume : Volume := .normal
  flags : Int32 := 0
  deriving DecidableEq, Repr

structure Color where
  red : UInt8 := 0
  green : UInt8 := 0
  blue : UInt8 := 0
  deriving DecidableEq, Repr

def blackPalette : List Color := List.replicate paletteSize {}

/-- One background picture. -/
structure Frame where
  graphic : Option Bitmap := none
  palette : List Color := blackPalette
  paletteShared : Bool := false

/-- Lines that the player leaves the room by crossing. -/
structure Edges where
  left : Int32 := 0
  right : Int32 := 0
  top : Int32 := 0
  bottom : Int32 := 0
  deriving DecidableEq, Repr

structure Point where
  x : Int32 := 0
  y : Int32 := 0
  deriving DecidableEq, Repr

/-- Script functions bound to the events of a thing. -/
structure Events where
  scriptModule : String := ""
  handlers : List String := []
  deriving DecidableEq, Repr

/-- A command of the interaction editor. -/
structure Command where
  kind : Int32 := 0
  arguments : List Int32 := []
  deriving DecidableEq, Repr

/-- The commands for one event. -/
structure Reaction where
  event : Int32 := 0
  commands : List Command := []
  deriving DecidableEq, Repr

/-- What the interaction editor made, from which old rooms were run before they had scripts. No
revision of the format stores it. -/
structure Interaction where
  reactions : List Reaction := []
  deriving DecidableEq, Repr

/-- A variable of the interaction editor. -/
structure LocalVariable where
  name : String := ""
  type : UInt8 := 0
  value : Int32 := 0
  deriving DecidableEq, Repr

structure Hotspot where
  name : String := ""
  /-- Empty when scripts do not see the hotspot. -/
  scriptName : String := ""
  properties : PropertyMap := ∅
  interaction : Interaction := {}
  events : Events := {}
  /-- Where the player walks to before interacting. -/
  walkTo : Point := {}

structure Object where
  room : Int32 := -1
  x : Int32 := 0
  y : Int32 := 0
  sprite : Int32 := 0
  isOn : Bool := false
  baseline : Int32 := 255
  flags : Int32 := 0
  name : String := ""
  /-- Empty when scripts do not see the object. -/
  scriptName : String := ""
  properties : PropertyMap := ∅
  interaction : Interaction := {}
  events : Events := {}

structure Region where
  /-- Light level, or luminance of the tint where there is one. -/
  light : Int32 := 0
  /-- Packed tint, zero for none. -/
  tint : Int32 := 0
  properties : PropertyMap := ∅
  interaction : Interaction := {}
  events : Events := {}

structure WalkArea where
  characterView : Int32 := 0
  scalingFar : Int32 := 0
  scalingNear : Int32 := notVectorScaled
  playerView : Int32 := 0
  top : Int32 := -1
  bottom : Int32 := -1
  deriving DecidableEq, Repr

structure WalkBehind where
  baseline : Int32 := 0
  deriving DecidableEq, Repr

/-- A numbered message of old rooms. -/
structure Message where
  text : String := ""
  /-- Zero for the standard window, else one more than the character that speaks. -/
  displayAs : UInt8 := 0
  flags : UInt8 := 0
  deriving DecidableEq, Repr

/-- The frames of a room that nothing has been drawn for. -/
def unpainted : Capped maxFrames Frame := ⟨[{}], by decide⟩

end Room

open Room in
/-- A scene as its author made it. -/
structure Room where
  gameId : Int32 := anyGame
  dataVersion : Nat := 0
  /-- A mask has one pixel for a square of this many room pixels. -/
  maskResolution : Int32 := 1
  width : Int32 := 320
  height : Int32 := 200
  palette : List Color := blackPalette
  options : Options := {}
  backgroundDepth : UInt8 := 1
  frames : Capped maxFrames Frame := unpainted
  animationSpeed : Int32 := 5
  edges : Edges := {}
  hotspotMask : Option Bitmap := none
  regionMask : Option Bitmap := none
  walkAreaMask : Option Bitmap := none
  walkBehindMask : Option Bitmap := none
  hotspots : Capped maxHotspots Hotspot := ∅
  objects : List Object := []
  regions : Capped maxRegions Region := ∅
  walkAreas : Capped maxWalkAreas WalkArea := ∅
  walkBehinds : Capped maxWalkBehinds WalkBehind := ∅
  messages : Capped maxMessages Message := ∅
  properties : PropertyMap := ∅
  localVariables : List LocalVariable := []
  interaction : Interaction := {}
  events : Events := {}
  script : Option Script.Module := none
  /-- Options by name that no revision of the format stores. -/
  textOptions : Std.ExtTreeMap String String := ∅
  density : Density := .real
  /-- Whether the room has been doubled in size since it was read. -/
  upscaled : Bool := false

namespace Room

/-- The room without bitmaps, contents, messages and script. -/
def freed (r : Room) : Room :=
  { r with
    frames := r.frames.map fun f => { f with graphic := none }
    hotspotMask := none
    regionMask := none
    walkAreaMask := none
    walkBehindMask := none
    hotspots := ∅
    objects := []
    regions := ∅
    walkAreas := ∅
    walkBehinds := ∅
    messages := ∅
    properties := ∅
    localVariables := []
    interaction := {}
    events := {}
    script := none
    textOptions := ∅ }

/-- The picture of the first frame. -/
def primaryBackground (r : Room) : Option Bitmap := r.frames.toList.head?.bind (·.graphic)

/-- Whether the room was made for a certain density. -/
def isRelative (r : Room) : Bool := r.density ≠ .real

/-- Whether the room may run inside the game numbered `game`. -/
def acceptsGame (r : Room) (game : Int32) : Bool := r.gameId = anyGame || r.gameId = game

/-! ## Light of regions -/

def hasLightLevel (r : Room) (id : Nat) : Bool := (r.regions.get? id).any (·.tint = 0)

def hasTint (r : Room) (id : Nat) : Bool := (r.regions.get? id).any (·.tint ≠ 0)

/-- The light level of a region without tint, else zero. -/
def lightLevel (r : Room) (id : Nat) : Int32 :=
  match r.regions.get? id with
  | some region => if region.tint = 0 then region.light else 0
  | none => 0

/-- The luminance of a region's tint in hundredths, zero without tint. There is none if ten times
the light does not fit its bits: the program stops. -/
def tintLuminance? (r : Room) (id : Nat) : Option Int32 :=
  match r.regions.get? id with
  | some region =>
    let tenfold := region.light.toInt * 10
    if region.tint = 0 then some 0
    else if Int32.minValue.toInt ≤ tenfold ∧ tenfold ≤ Int32.maxValue.toInt then
      some (region.light * 10 / 25)
    else none
  | none => some 0

end Room

end Adventure
