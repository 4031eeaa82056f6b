import Adventure.Room.Basic
import Adventure.Room.Codec

/-! # Layout of room files

What each revision of the room format stores, in the order of the file. A part that a revision
lacks stands in no list of parts and keeps its historical default.

* `hotspotCodec`, `objectCodec`, `regionCodec`, … — the records in a room.
* `roomParts` — the room.
-/

namespace Adventure.Room

/-- Longest message of rooms before revision 2.61, and one byte more than is written. -/
def maxLegacyMessage : Nat := 3000

/-- The parts `parts`, if the revision stores them. -/
def since {ρ : Type} (first v : Version) (parts : List (Part ρ)) : List (Part ρ) :=
  if first ≤ v then parts else []

/-! ## Parts of many records -/

/-- Texts by name: their number, then names and texts. -/
def propertiesCodec : Codec PropertyMap :=
  (Codec.list fun _ => Codec.record ("", "") [
    part .text (·.1) (fun x p => (x, p.2)),
    part .text (·.2) (fun x p => (p.1, x))]).via (·.toPairs) PropertyMap.ofPairs

/-- The module, then the functions. -/
def eventsCodec : Codec Events :=
  .record {} [
    part .text (·.scriptModule) (fun x e => { e with scriptModule := x }),
    part (.list fun _ => .text) (·.handlers) (fun x e => { e with handlers := x })]

def pointCodec : Codec Point :=
  .record {} [
    part .int32 (·.x) (fun x p => { p with x }),
    part .int32 (·.y) (fun x p => { p with y := x })]

/-- Size, depth and pixels. The number of bytes is computed in a machine word, before it is compared
with the data that is left. -/
def plainBitmapCodec : Codec Bitmap where
  write b := do
    return (← Codec.uint32.write b.width) ++ (← Codec.uint32.write b.height)
      ++ (← Codec.byte.write b.depth) ++ b.pixels.toList
  read := do
    let width ← Codec.uint32.read
    let height ← Codec.uint32.read
    let depth ← Codec.byte.read
    let size := Bitmap.byteCount width height depth
    unless size < 2 ^ 64 do throw (.badBitmap .overflow)
    let pixels ← Reader.take size (.bitmapPastEnd width height depth)
    match Bitmap.ofPixels width height depth pixels.toArray with
    | .ok b => return b
    | .error fault => throw (.badBitmap fault)

def bitmapCodec : Codec (Option Bitmap) := .optional plainBitmapCodec

/-- The colours that bytes stand for, three for each. -/
def colorsOf : Bytes → List Color
  | red :: green :: blue :: rest => ⟨red, green, blue⟩ :: colorsOf rest
  | _ => []

/-- 256 colours: the palette cut, or filled up with black. -/
def paletteCodec : Codec (List Color) where
  write palette :=
    let colors := palette.take paletteSize ++ List.replicate (paletteSize - palette.length) {}
    .ok (colors.flatMap fun c => [c.red, c.green, c.blue])
  read := do return colorsOf (← (Reader.take (3 * paletteSize)).within .palette)

/-! ## Records -/

def walkBehindCodec : Codec WalkBehind :=
  .record {} [part .int32 (·.baseline) (fun x w => { w with baseline := x })]

def hotspotCodec (v : Version) : Codec Hotspot :=
  .record {} <|
    [part pointCodec (·.walkTo) (fun x h => { h with walkTo := x }),
      part .text (·.name) (fun x h => { h with name := x })]
    ++ since .v270 v [part .text (·.scriptName) (fun x h => { h with scriptName := x })]
    ++ since .v255b v [part propertiesCodec (·.properties) (fun x h => { h with properties := x })]
    ++ since .v300a v [part eventsCodec (·.events) (fun x h => { h with events := x })]

def objectCodec (v : Version) : Codec Object :=
  .record {} <|
    [part .int32 (·.sprite) (fun x o => { o with sprite := x }),
      part .int32 (·.x) (fun x o => { o with x }),
      part .int32 (·.y) (fun x o => { o with y := x }),
      part .int32 (·.room) (fun x o => { o with room := x }),
      part .flag (·.isOn) (fun x o => { o with isOn := x }),
      part .int32 (·.baseline) (fun x o => { o with baseline := x }),
      part .int32 (·.flags) (fun x o => { o with flags := x }),
      part .text (·.name) (fun x o => { o with name := x })]
    ++ since .v270 v [part .text (·.scriptName) (fun x o => { o with scriptName := x })]
    ++ since .v255b v [part propertiesCodec (·.properties) (fun x o => { o with properties := x })]
    ++ since .v300a v [part eventsCodec (·.events) (fun x o => { o with events := x })]

def regionCodec (v : Version) : Codec Region :=
  .record {} <|
    [part .int32 (·.light) (fun x r => { r with light := x }),
      part .int32 (·.tint) (fun x r => { r with tint := x })]
    ++ since .v255b v [part propertiesCodec (·.properties) (fun x r => { r with properties := x })]
    ++ since .v300a v [part eventsCodec (·.events) (fun x r => { r with events := x })]

def walkAreaCodec (v : Version) : Codec WalkArea :=
  .record {} <|
    [part .int32 (·.characterView) (fun x a => { a with characterView := x }),
      part .int32 (·.scalingFar) (fun x a => { a with scalingFar := x })]
    ++ since .v251 v [part .int32 (·.scalingNear) (fun x a => { a with scalingNear := x })]
    ++ [part .int32 (·.playerView) (fun x a => { a with playerView := x }),
      part .int32 (·.top) (fun x a => { a with top := x }),
      part .int32 (·.bottom) (fun x a => { a with bottom := x })]

def edgesCodec : Codec Edges :=
  .record {} [
    part .int32 (·.left) (fun x e => { e with left := x }),
    part .int32 (·.right) (fun x e => { e with right := x }),
    part .int32 (·.top) (fun x e => { e with top := x }),
    part .int32 (·.bottom) (fun x e => { e with bottom := x })]

/-- The volume as a byte with a sign. -/
def volumeCodec : Codec Volume where
  write v := Codec.byte.write (UInt8.ofInt v.toInt)
  read := do
    let raw := (← Codec.byte.read).toInt8.toInt
    match Volume.ofInt? raw with
    | some v => return v
    | none => throw (.badVolume raw)

def optionsCodec : Codec Options :=
  .record {} [
    part .int32 (·.startupMusic) (fun x o => { o with startupMusic := x }),
    part .flag (·.saveLoadDisabled) (fun x o => { o with saveLoadDisabled := x }),
    part .flag (·.playerCharacterOff) (fun x o => { o with playerCharacterOff := x }),
    part .int32 (·.playerView) (fun x o => { o with playerView := x }),
    part volumeCodec (·.musicVolume) (fun x o => { o with musicVolume := x }),
    part .int32 (·.flags) (fun x o => { o with flags := x })]

def messageCodec (v : Version) (index : Nat) : Codec Message :=
  .record {} [
    part .byte (·.displayAs) (fun x m => { m with displayAs := x }),
    part .byte (·.flags) (fun x m => { m with flags := x }),
    part (if v < .v261 then .legacyText maxLegacyMessage (.unstorableMessage index v) else .text)
      (·.text) (fun x m => { m with text := x })]

def densityCodec : Codec Density where
  write d := Codec.byte.write (UInt8.ofNat d.toNat)
  read := do
    let raw := (← Codec.byte.read).toNat
    match Density.ofNat? raw with
    | some d => return d
    | none => throw (.badDensity raw)

def frameCodec (v : Version) (index : Nat) : Codec Frame :=
  .record {} <|
    since .v255a v [part .flag (·.paletteShared) (fun x f => { f with paletteShared := x })]
    ++ [part paletteCodec (·.palette) (fun x f => { f with palette := x }),
      part (bitmapCodec.within (.frame index)) (·.graphic) (fun x f => { f with graphic := x })]

def scriptCodec : Codec Script.Module :=
  .record { name := "" } [
    part .text (·.name) (fun x m => { m with name := x }),
    part (.list fun _ => .text) (·.exports) (fun x m => { m with exports := x }),
    part (.list fun _ => .text) (·.imports) (fun x m => { m with imports := x })]

/-! ## The room -/

/-- The nearest speed that a byte can hold. -/
def speedByte (speed : Int32) : UInt8 := UInt8.ofInt (max 0 (min speed.toInt 255))

/-- The mask resolution of rooms that store none: very old rooms of high density have masks of half
their size. -/
def inferredMaskResolution (v : Version) (d : Density) : Int32 :=
  if v < .v303b ∧ d = .high then 2 else 1

/-- The number of frames and the speed of their animation. Before revision 2.55 nothing is stored of
them: there is one frame. -/
def frameHeadCodec (v : Version) : Codec (Nat × Nat) where
  write head :=
    if .v255a ≤ v then do
      return (← Codec.byte.write (UInt8.ofNat head.1)) ++ (← Codec.byte.write (UInt8.ofNat head.2))
    else .ok []
  read :=
    if .v255a ≤ v then do return ((← Codec.byte.read).toNat, (← Codec.byte.read).toNat)
    else pure (1, 5)

/-- The room with these frames. Its own palette is that of the first frame. -/
def withFrames (r : Room) (frames : Capped maxFrames Frame) (speed : Int32) : Room :=
  { r with
    frames
    animationSpeed := speed
    palette := (frames.toList.head?.map (·.palette)).getD r.palette }

/-- The frames, their number and the speed of the animation in front. -/
def framesPart (v : Version) : Part Room where
  write r := do
    return (← (frameHeadCodec v).write (r.frames.length, (speedByte r.animationSpeed).toNat))
      ++ (← Codec.writeItems (frameCodec v) 0 r.frames.toList)
  read r := do
    let (count, speed) ← (frameHeadCodec v).read
    unless 1 ≤ count ∧ count ≤ maxFrames do throw (.badFrameCount count maxFrames)
    let frames ← Codec.limited .frame (← Codec.readItems (frameCodec v) 0 count)
    return r.withFrames frames (Int32.ofNat speed)

/-- What revision `v` stores of a room. -/
def roomParts (v : Version) : List (Part Room) :=
  [part .byte (·.backgroundDepth) (fun x r => { r with backgroundDepth := x }),
    part (.capped maxWalkBehinds .walkBehind fun _ => walkBehindCodec) (·.walkBehinds)
      (fun x r => { r with walkBehinds := x }),
    part (.capped v.maxHotspots .hotspot fun _ => hotspotCodec v) (·.hotspots)
      (fun x r => { r with hotspots := x }),
    part (.counted v.maxObjects .object fun _ => objectCodec v) (·.objects)
      (fun x r => { r with objects := x }),
    part (.capped maxRegions .region fun _ => regionCodec v) (·.regions)
      (fun x r => { r with regions := x }),
    part (.capped maxWalkAreas .walkArea fun _ => walkAreaCodec v) (·.walkAreas)
      (fun x r => { r with walkAreas := x }),
    part edgesCodec (·.edges) (fun x r => { r with edges := x }),
    part optionsCodec (·.options) (fun x r => { r with options := x }),
    part (.capped maxMessages .message (messageCodec v)) (·.messages)
      (fun x r => { r with messages := x })]
  ++ since .v250b v [part .int32 (·.gameId) (fun x r => { r with gameId := x })]
  ++ (if .v240 ≤ v then [part densityCodec (·.density) (fun x r => { r with density := x })]
    else [derived fun r => { r with density := .low }])
  ++ (if .v3508 ≤ v then
      [part .int32 (·.maskResolution) (fun x r => { r with maskResolution := x })]
    else [derived fun r => { r with maskResolution := inferredMaskResolution v r.density }])
  ++ [part .int32 (·.width) (fun x r => { r with width := x }),
    part .int32 (·.height) (fun x r => { r with height := x }),
    framesPart v,
    part (bitmapCodec.within .walkBehindMask) (·.walkBehindMask)
      (fun x r => { r with walkBehindMask := x }),
    part (bitmapCodec.within .hotspotMask) (·.hotspotMask)
      (fun x r => { r with hotspotMask := x }),
    part (bitmapCodec.within .walkAreaMask) (·.walkAreaMask)
      (fun x r => { r with walkAreaMask := x }),
    part (bitmapCodec.within .regionMask) (·.regionMask)
      (fun x r => { r with regionMask := x })]
  ++ since .v255b v [part propertiesCodec (·.properties) (fun x r => { r with properties := x })]
  ++ since .v300a v [part eventsCodec (·.events) (fun x r => { r with events := x })]
  ++ [part (.optional scriptCodec) (·.script) (fun x r => { r with script := x })]

/-- How revision `v` stores a room. -/
def roomCodec (v : Version) : Codec Room := .record { dataVersion := v.number } (roomParts v)

end Adventure.Room
