import Adventure.Proofs.Room.Area
import Adventure.Proofs.Room.Upgrade

/-! # What gets past the reader of room files

Whatever bytes a room was read from, it meets every demand that a session makes of a room: counts
within the limits of its revision, a size that can be shown, pictures with as many bytes as their
size asks for, and nothing but the historical default where its revision stores nothing.

How many bytes a picture asks for is computed in a machine word, before they are compared with the
data that is left. A picture whose sides have a larger product is not refused as one with too little
data: the reader ends with an overflow.

* `Defaulted` — the parts that a revision does not store.
* `WellFormed` — all that is known of a room that was read.
* `decode_wellFormed` — every room that is read is well formed.
* `decode_boundlessFile` — a file that is neither read nor refused.
-/

namespace Adventure.Room

variable {v : Version} {bytes : Bytes} {r : Room} {α : Type}

/-! ## Parts that are not stored -/

theorem eq_default_of_kept {first : Version} {a b default : α} (same : kept first v a default = b)
    (early : v < first) : b = default := by
  have lacking : ¬ first ≤ v := Nat.not_le_of_lt early
  rw [← same, kept, if_neg lacking]

structure Hotspot.Defaulted (v : Version) (h : Hotspot) : Prop where
  scriptName : v < .v270 → h.scriptName = ""
  properties : v < .v255b → h.properties = ∅
  events : v < .v300a → h.events = {}
  interaction : h.interaction = {}

structure Object.Defaulted (v : Version) (o : Object) : Prop where
  scriptName : v < .v270 → o.scriptName = ""
  properties : v < .v255b → o.properties = ∅
  events : v < .v300a → o.events = {}
  interaction : o.interaction = {}

structure Region.Defaulted (v : Version) (r : Region) : Prop where
  properties : v < .v255b → r.properties = ∅
  events : v < .v300a → r.events = {}
  interaction : r.interaction = {}

/-- Where revision `v` stores nothing, the room has what rooms had before it could be stored. -/
structure Defaulted (v : Version) (r : Room) : Prop where
  gameId : v < .v250b → r.gameId = anyGame
  density : v < .v240 → r.density = .low
  maskResolution : v < .v3508 → r.maskResolution = inferredMaskResolution v r.density
  animationSpeed : v < .v255a → r.animationSpeed = 5
  properties : v < .v255b → r.properties = ∅
  events : v < .v300a → r.events = {}
  paletteShared : v < .v255a → ∀ f ∈ r.frames.toList, f.paletteShared = false
  scalingNear : v < .v251 → ∀ a ∈ r.walkAreas.toList, a.scalingNear = notVectorScaled
  hotspots : ∀ h ∈ r.hotspots.toList, h.Defaulted v
  objects : ∀ o ∈ r.objects, o.Defaulted v
  regions : ∀ region ∈ r.regions.toList, region.Defaulted v
  -- no revision stores these
  localVariables : r.localVariables = []
  interaction : r.interaction = {}
  textOptions : r.textOptions = ∅

theorem hotspot_defaulted {h : Hotspot} (stored : h.asStored v = h) : h.Defaulted v where
  scriptName := eq_default_of_kept (congrArg (·.scriptName) stored)
  properties := eq_default_of_kept (congrArg (·.properties) stored)
  events := eq_default_of_kept (congrArg (·.events) stored)
  interaction := congrArg (·.interaction) stored.symm

theorem object_defaulted {o : Object} (stored : o.asStored v = o) : o.Defaulted v where
  scriptName := eq_default_of_kept (congrArg (·.scriptName) stored)
  properties := eq_default_of_kept (congrArg (·.properties) stored)
  events := eq_default_of_kept (congrArg (·.events) stored)
  interaction := congrArg (·.interaction) stored.symm

theorem region_defaulted {region : Region} (stored : region.asStored v = region) :
    region.Defaulted v where
  properties := eq_default_of_kept (congrArg (·.properties) stored)
  events := eq_default_of_kept (congrArg (·.events) stored)
  interaction := congrArg (·.interaction) stored.symm

theorem forall_of_map_eq_self {f : α → α} {items : List α} (same : items.map f = items) :
    ∀ a ∈ items, f a = a := by
  refine List.map_inj_left.mp ?_
  rw [same]
  exact (List.map_id' items).symm

section Stored

variable (stored : r.asStored v = r)
include stored

theorem frames_asStored : ∀ f ∈ r.frames.toList, f.asStored v = f :=
  forall_of_map_eq_self (congrArg (·.frames.toList) stored)

theorem walkAreas_asStored : ∀ a ∈ r.walkAreas.toList, a.asStored v = a :=
  forall_of_map_eq_self (congrArg (·.walkAreas.toList) stored)

/-- A room that revision `v` stores as it is has nothing that `v` cannot store. -/
theorem defaulted_of_asStored : r.Defaulted v where
  gameId := eq_default_of_kept (congrArg (·.gameId) stored)
  density := eq_default_of_kept (congrArg (·.density) stored)
  maskResolution early := by
    -- the resolution follows from the density of the stored room, which is that of `r`
    have same : kept .v240 v r.density .low = r.density := congrArg (·.density) stored
    have resolution := eq_default_of_kept (congrArg (·.maskResolution) stored) early
    rwa [same] at resolution
  animationSpeed := eq_default_of_kept (congrArg (·.animationSpeed) stored)
  properties := eq_default_of_kept (congrArg (·.properties) stored)
  events := eq_default_of_kept (congrArg (·.events) stored)
  paletteShared early f listed :=
    eq_default_of_kept (congrArg (·.paletteShared) (frames_asStored stored f listed)) early
  scalingNear early a listed :=
    eq_default_of_kept (congrArg (·.scalingNear) (walkAreas_asStored stored a listed)) early
  hotspots h listed :=
    hotspot_defaulted (forall_of_map_eq_self (congrArg (·.hotspots.toList) stored) h listed)
  objects o listed :=
    object_defaulted (forall_of_map_eq_self (congrArg (·.objects) stored) o listed)
  regions region listed :=
    region_defaulted (forall_of_map_eq_self (congrArg (·.regions.toList) stored) region listed)
  localVariables := congrArg (·.localVariables) stored.symm
  interaction := congrArg (·.interaction) stored.symm
  textOptions := congrArg (·.textOptions) stored.symm

end Stored

/-! ## Speeds and palettes -/

theorem storedSpeed_bounds (speed : Int32) :
    0 ≤ (storedSpeed speed).toInt ∧ (storedSpeed speed).toInt ≤ 255 := by
  have small : max 0 (min speed.toInt 255) ≤ 255 := by omega
  have same : (storedSpeed speed).toInt = max 0 (min speed.toInt 255) :=
    Int32.toInt_ofInt_of_le (by omega) (by omega)
  omega

theorem keptSpeed_bounds (speed : Int32) :
    0 ≤ (kept .v255a v (storedSpeed speed) 5).toInt ∧
      (kept .v255a v (storedSpeed speed) 5).toInt ≤ 255 := by
  unfold kept
  split
  · exact storedSpeed_bounds speed
  · decide

theorem length_palette_of_asStored {f : Frame} (stored : f.asStored v = f) :
    f.palette.length = paletteSize := by
  rw [← stored]
  exact length_storedPalette f.palette

/-! ## Rooms that were read -/

/-- The pictures of a room: backgrounds and masks. -/
def bitmaps (r : Room) : List Bitmap :=
  r.frames.toList.filterMap (·.graphic) ++
    [r.hotspotMask, r.regionMask, r.walkAreaMask, r.walkBehindMask].filterMap id

/-- What is known of a room that revision `v` has read. -/
structure WellFormed (v : Version) (r : Room) : Prop where
  revision : r.dataVersion = v.number
  supported : 18 ≤ v.number ∧ v.number ≤ 40
  hotspots : r.hotspots.length ≤ v.maxHotspots
  objects : r.objects.length ≤ v.maxObjects
  regions : r.regions.length ≤ 16
  walkAreas : r.walkAreas.length ≤ 16
  walkBehinds : r.walkBehinds.length ≤ 16
  messages : r.messages.length ≤ 100
  frames : 1 ≤ r.frames.length ∧ r.frames.length ≤ 5
  singleFrame : v < .v255a → r.frames.length = 1
  valid : r.validate = .ok ()
  maskResolution : 1 ≤ r.maskResolution.toInt
  width : 0 < r.width.toInt ∧ r.width.toInt ≤ 8192
  height : 0 < r.height.toInt ∧ r.height.toInt ≤ 8192
  background : ∀ b, r.primaryBackground = some b →
    (b.width.toNat : Int) = r.width.toInt ∧ (b.height.toNat : Int) = r.height.toInt
  bitmaps : ∀ b ∈ r.bitmaps, (1 ≤ b.depth.toNat ∧ b.depth.toNat ≤ 4) ∧
    b.pixels.size = b.width.toNat * b.height.toNat * b.depth.toNat
  palettes : ∀ f ∈ r.frames.toList, f.palette.length = 256
  palette : r.frames.toList.head?.map (·.palette) = some r.palette
  animationSpeed : 0 ≤ r.animationSpeed.toInt ∧ r.animationSpeed.toInt ≤ 255
  notUpscaled : r.upscaled = false
  defaulted : r.Defaulted v

/-- Nothing malformed gets past the reader. -/
theorem decode_wellFormed (decoded : decode bytes = .ok r) :
    ∃ v body, readVersion bytes = .ok (v, body) ∧ r.WellFormed v := by
  obtain ⟨v, body, rest, marked, read, valid⟩ := decode_eq_ok_iff.mp decoded
  obtain ⟨-, -, supported, -⟩ := readVersion_yields _ _ _ marked
  obtain ⟨above, below⟩ : .v208 ≤ v ∧ v ≤ .current := by
    simpa [Version.isSupported] using supported
  obtain ⟨size, -, -, legible⟩ := decode_legible decoded marked below (by decide)
  obtain ⟨resolution, -, ⟨wide, high⟩, ⟨notWider, notHigher⟩, background⟩ :=
    validate_eq_ok_iff.mp valid
  have stored := legible.stored
  have framed : r.frames.toList.head?.map (·.palette) = some r.palette := by
    have palette : firstPalette (r.asStored v).frames = r.palette := congrArg (·.palette) stored
    rw [stored, firstPalette, List.head?_eq_some_head legible.framed] at palette
    rw [List.head?_eq_some_head legible.framed, ← palette]
    rfl
  refine ⟨v, body, marked, ?_⟩
  exact {
    revision := congrArg (·.dataVersion) stored.symm
    supported := ⟨above, below⟩
    hotspots := legible.hotspots
    objects := legible.objects
    regions := r.regions.length_le
    walkAreas := r.walkAreas.length_le
    walkBehinds := r.walkBehinds.length_le
    messages := r.messages.length_le
    frames := ⟨List.length_pos_iff.mpr legible.framed, r.frames.length_le⟩
    singleFrame := fun early => legible.single (Nat.not_le_of_lt early)
    valid
    maskResolution := Int32.le_iff_toInt_le.mp resolution
    width := ⟨Int32.lt_iff_toInt_lt.mp wide, notWider⟩
    height := ⟨Int32.lt_iff_toInt_lt.mp high, notHigher⟩
    background
    bitmaps := fun b _ => ⟨⟨b.one_le_depth, b.depth_le_four⟩, b.size_pixels⟩
    palettes := fun f listed => length_palette_of_asStored (frames_asStored stored f listed)
    palette := framed
    animationSpeed := by
      have speed : kept .v255a v (storedSpeed r.animationSpeed) 5 = r.animationSpeed :=
        congrArg (·.animationSpeed) stored
      rw [← speed]
      exact keptSpeed_bounds r.animationSpeed
    notUpscaled := congrArg (·.upscaled) stored.symm
    defaulted := defaulted_of_asStored stored }

/-- A file of the first revision, two pixels wide, with one hotspot. -/
def sketchFile : Bytes :=
  magic ++ [18, 0] ++ [1] ++ [0, 0, 0, 0]
  ++ [1, 0, 0, 0] ++ [3, 0, 0, 0, 4, 0, 0, 0] ++ [1, 0, 0, 0, 0x41]
  ++ List.replicate 28 0 ++ List.replicate 15 0 ++ [0, 0, 0, 0]
  ++ [2, 0, 0, 0, 1, 0, 0, 0] ++ List.replicate (3 * paletteSize) 7
  ++ [1, 2, 0, 0, 0, 1, 0, 0, 0, 1, 8, 9] ++ [0, 0, 0, 0] ++ [0]

def sketchRoom : Room :=
  let palette := List.replicate paletteSize ⟨7, 7, 7⟩
  let picture : Bitmap := .ofBytes 2 1 #[8, 9] (by decide)
  { dataVersion := 18
    width := 2
    height := 1
    palette
    frames := ⟨[{ graphic := some picture, palette }], by decide⟩
    hotspots := ⟨[{ name := "A", walkTo := ⟨3, 4⟩ }], by decide⟩
    density := .low }

set_option maxRecDepth 4000 in
theorem decode_sketchFile : decode sketchFile = .ok sketchRoom := rfl

theorem sketchRoom_wellFormed : decode sketchFile = .ok sketchRoom ∧
    ∃ v body, readVersion sketchFile = .ok (v, body) ∧ sketchRoom.WellFormed v :=
  ⟨decode_sketchFile, decode_wellFormed decode_sketchFile⟩

/-- A file of the first revision that has no pixels for a hotspot mask of 2^31 by 2^31, four bytes
each. -/
def boundlessFile : Bytes :=
  magic ++ [18, 0] ++ [1] ++ List.replicate 55 0 ++ [4, 0, 0, 0, 2, 0, 0, 0]
  ++ List.replicate (3 * paletteSize) 0 ++ [0] ++ [0]
  ++ [1, 0, 0, 0, 128, 0, 0, 0, 128, 4] ++ [0, 0, 0]

set_option maxRecDepth 4000 in
/-- The bytes of the mask are 2^64, of which a machine word keeps nothing: without a check for
overflow no byte is asked for, and the mask is accepted without pixels. -/
theorem decode_boundlessFile :
    decode boundlessFile = .error (.within .hotspotMask (.badBitmap .overflow)) ∧
      (2147483648 * 2147483648 * 4 : UInt64) = 0 := ⟨rfl, rfl⟩

end Adventure.Room
