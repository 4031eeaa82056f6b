import Adventure.InPlace
import Adventure.Room.Basic
import Adventure.Room.Fault

/-! # Sizes of rooms and their masks

* `validate` — the demands that every room has to meet before it is used.
* `fixMasks` — masks made to agree with the first background.
* `upscaleInPlace` — rooms made for low density, doubled once for games of high resolution.
* `upscale` — the same as a function of the room.
-/

namespace Adventure.Room

/-! ## Demands -/

/-- Refuses rooms that no session can run. -/
def validate (r : Room) : Except Fault Unit := do
  unless 1 ≤ r.maskResolution do throw (.badMaskResolution r.maskResolution)
  unless r.objects.length ≤ maxObjects do
    throw (.tooManyObjects r.objects.length maxObjects)
  unless 0 < r.width ∧ 0 < r.height do throw (.emptySize r.width r.height)
  unless r.width.toInt ≤ maxSide ∧ r.height.toInt ≤ maxSide do
    throw (.sizeAboveLimit r.width r.height maxSide)
  match r.primaryBackground with
  | some b =>
    unless (b.width.toNat : Int) = r.width.toInt ∧ (b.height.toNat : Int) = r.height.toInt do
      throw (.backgroundMismatch r.width r.height b.width b.height)
  | none => pure ()

/-! ## Masks -/

/-- The masks of a room. -/
inductive AreaKind where
  | none
  | hotspot
  | walkBehind
  | walkArea
  | region
  deriving DecidableEq, Repr

/-- A mask of a room. -/
def mask (r : Room) : AreaKind → Option Bitmap
  | .none => .none
  | .hotspot => r.hotspotMask
  | .walkBehind => r.walkBehindMask
  | .walkArea => r.walkAreaMask
  | .region => r.regionMask

/-- The scale of a mask relative to the background. -/
def maskScale (r : Room) : AreaKind → Float32
  | .none => 0
  | .walkBehind => 1
  | .hotspot | .walkArea | .region => 1 / (max r.maskResolution 1).toFloat32

/-- A picture or mask, if there is one, made to have a size. -/
def fitBitmap (width height : UInt32) : Option Bitmap → Except Fault (Option Bitmap)
  | none => .ok none
  | some b => ((b.fitted width height).map some).mapError .badBitmap

/-- Makes the masks agree with the first background: walk-behinds have its size, the other masks
one pixel for each square of the mask resolution. -/
def fixMasks (r : Room) : Except Fault Room :=
  match r.primaryBackground with
  | some b =>
    if 1 ≤ r.maskResolution then do
      let resolution := r.maskResolution.toUInt32
      let low := fitBitmap (b.width / resolution) (b.height / resolution)
      let walkBehindMask ← fitBitmap b.width b.height r.walkBehindMask
      let walkAreaMask ← low r.walkAreaMask
      let hotspotMask ← low r.hotspotMask
      let regionMask ← low r.regionMask
      return { r with walkBehindMask, walkAreaMask, hotspotMask, regionMask }
    else .ok r
  | none => .ok r

/-! ## Doubling -/

/-- Whether `i` fits a 32 bit field. -/
def fits (i : Int) : Prop := -2 ^ 31 ≤ i ∧ i < 2 ^ 31

instance (i : Int) : Decidable (fits i) := inferInstanceAs (Decidable (_ ∧ _))

/-- A background frame made to have a size. -/
def fitFrame (width height : UInt32) (f : Frame) : Except Fault Frame := do
  return { f with graphic := ← fitBitmap width height f.graphic }

/-- Gives a room its new size, its pictures and masks of that size, and the mark of a doubled room,
one after the other. -/
def enlargeInPlace (width height : Int) : InPlace Fault Room Unit := do
  modify fun r => { r with width := Int32.ofInt width }
  modify fun r => { r with height := Int32.ofInt height }
  let fit := fitFrame (UInt32.ofNat width.toNat) (UInt32.ofNat height.toNat)
  InPlace.attempt fun r => do return { r with frames := ← r.frames.mapM fit }
  InPlace.attempt fixMasks
  modify fun r => { r with upscaled := true }

/-- Doubles backgrounds and masks of a room that was made for low density, if the game is of high
resolution, and answers whether anything was doubled. A room is doubled once; coordinates of its
contents stay. What has been changed would stay so if the request were refused later on. -/
def upscaleInPlace (hires : Bool) : InPlace Fault Room Bool := do
  let r ← get
  if r.upscaled || !hires || r.density ≠ .low then return false
  else
    let width := 2 * r.width.toInt
    let height := 2 * r.height.toInt
    if ¬ (fits width ∧ fits height) then throw (.tooLargeToUpscale r.width r.height)
    else if ¬ (0 < width ∧ 0 < height) then throw (.emptyToUpscale r.width r.height)
    else
      enlargeInPlace width height
      return true

/-- The doubled room, and whether anything was doubled. -/
def upscale (r : Room) (hires : Bool) : Except Fault (Room × Bool) :=
  ((upscaleInPlace hires).result r).map fun (doubled, r) => (r, doubled)

end Adventure.Room
