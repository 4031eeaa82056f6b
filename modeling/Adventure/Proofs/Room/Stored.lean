import Adventure.Room.Area
import Adventure.Room.Version

/-! # What a revision keeps of a room

`Room.asStored v r` is the room that a file of revision `v` holds when `r` has been saved to it. It
is said from the history of the format alone: each later part of a record is there from its first
revision on, and before that stands its historical default.

Nothing is stored of what the interaction editor made, of text options, and of whether a room has
been doubled.
-/

namespace Adventure.Room

/-- `a` from revision `first` on, and `default` in the revisions before. -/
def kept {α : Type} (first v : Version) (a default : α) : α := if first ≤ v then a else default

/-- The speed nearest to `speed` that a byte can hold. -/
def storedSpeed (speed : Int32) : Int32 := Int32.ofInt (max 0 (min speed.toInt 255))

/-- A palette cut, or filled up with black, to the number of colours that files hold. -/
def storedPalette (palette : List Color) : List Color :=
  palette.take paletteSize ++ List.replicate (paletteSize - palette.length) ⟨0, 0, 0⟩

def Hotspot.asStored (v : Version) (h : Hotspot) : Hotspot where
  name := h.name
  scriptName := kept .v270 v h.scriptName ""
  properties := kept .v255b v h.properties ∅
  interaction := {}
  events := kept .v300a v h.events {}
  walkTo := h.walkTo

def Object.asStored (v : Version) (o : Object) : Object where
  room := o.room
  x := o.x
  y := o.y
  sprite := o.sprite
  isOn := o.isOn
  baseline := o.baseline
  flags := o.flags
  name := o.name
  scriptName := kept .v270 v o.scriptName ""
  properties := kept .v255b v o.properties ∅
  interaction := {}
  events := kept .v300a v o.events {}

def Region.asStored (v : Version) (r : Region) : Region where
  light := r.light
  tint := r.tint
  properties := kept .v255b v r.properties ∅
  interaction := {}
  events := kept .v300a v r.events {}

def WalkArea.asStored (v : Version) (a : WalkArea) : WalkArea :=
  { a with scalingNear := kept .v251 v a.scalingNear notVectorScaled }

def Frame.asStored (v : Version) (f : Frame) : Frame where
  graphic := f.graphic
  palette := storedPalette f.palette
  paletteShared := kept .v255a v f.paletteShared false

/-- The palette that a room shows: that of its first frame. -/
def firstPalette {n : Nat} (frames : Capped n Frame) : List Color :=
  (frames.toList.head?.map (·.palette)).getD blackPalette

/-- The room that a file of revision `v` holds after `r` has been saved to it. -/
def asStored (v : Version) (r : Room) : Room :=
  let density := kept .v240 v r.density .low
  let frames := r.frames.map (Frame.asStored v)
  { gameId := kept .v250b v r.gameId anyGame
    dataVersion := v.number
    -- before it was stored, very old rooms of high density had masks of half their size
    maskResolution := kept .v3508 v r.maskResolution
      (if v < .v303b ∧ density = .high then 2 else 1)
    width := r.width
    height := r.height
    palette := firstPalette frames
    options := r.options
    backgroundDepth := r.backgroundDepth
    frames
    animationSpeed := kept .v255a v (storedSpeed r.animationSpeed) 5
    edges := r.edges
    hotspotMask := r.hotspotMask
    regionMask := r.regionMask
    walkAreaMask := r.walkAreaMask
    walkBehindMask := r.walkBehindMask
    hotspots := r.hotspots.map (Hotspot.asStored v)
    objects := r.objects.map (Object.asStored v)
    regions := r.regions.map (Region.asStored v)
    walkAreas := r.walkAreas.map (WalkArea.asStored v)
    walkBehinds := r.walkBehinds
    messages := r.messages
    properties := kept .v255b v r.properties ∅
    localVariables := []
    interaction := {}
    events := kept .v300a v r.events {}
    script := r.script
    textOptions := ∅
    density
    upscaled := false }

end Adventure.Room
