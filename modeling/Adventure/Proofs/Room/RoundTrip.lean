import Adventure.Proofs.Bitmap
import Adventure.Proofs.NameTable
import Adventure.Proofs.Room.Codec
import Adventure.Proofs.Room.Stored
import Adventure.Room.File

/-! # Rooms come back from their files

Each record in a room is given back as its revision keeps it; from that the whole room is.
-/

namespace Adventure.Room

open Codec

variable {α ρ : Type}

/-! ## Versioned parts -/

/-- A part that is stored from revision `first` on. `setGet` says that putting a part where it
stands already changes nothing, which is what reading does in the revisions before. -/
theorem PartsGiveBack.since {first v : Version} {codec : Codec α} {get : ρ → α} {set : α → ρ → ρ}
    {r before : ρ} {a : α} (setGet : set (get before) before = before)
    (stored : codec.GivesBack (get r) a) :
    PartsGiveBack (since first v [part codec get set]) r before
      (set (kept first v a (get before)) before) := by
  unfold Room.since kept
  split
  · exact .cons (part_givesBack stored) (.nil r _)
  · rw [setGet]
    exact .nil r before

/-- A part that is derived in the revisions before `first`, as if `a` had been read there. -/
theorem PartsGiveBack.storedOrDerived {first v : Version} {codec : Codec α} {get : ρ → α}
    {set : α → ρ → ρ} {complete : ρ → ρ} {r before : ρ} {a default : α}
    (stored : codec.GivesBack (get r) a) (derives : complete before = set default before) :
    PartsGiveBack (if first ≤ v then [part codec get set] else [derived complete]) r before
      (set (kept first v a default) before) := by
  unfold kept
  split
  · exact .cons (part_givesBack stored) (.nil r _)
  · rw [← derives]
    exact .cons (derived_givesBack complete r before) (.nil r _)

/-! ## Parts of many records -/

theorem propertiesCodec_givesBack (m : PropertyMap) : propertiesCodec.GivesBack m m := by
  have pair (p : String × String) : (Codec.record ("", "") [
      part .text (·.1) (fun x p => (x, p.2)),
      part .text (·.2) (fun x p => (p.1, x))]).GivesBack p p :=
    record_givesBack <|
      .cons (part_givesBack (text_givesBack p.1)) <|
      .cons (part_givesBack (text_givesBack p.2)) <| .nil p _
  have stored : propertiesCodec.GivesBack m (.ofPairs m.toPairs) :=
    via_givesBack (list_givesBack_self m.toPairs fun _ p _ => pair p)
  rwa [PropertyMap.ofPairs_toPairs] at stored

theorem texts_givesBack (texts : List String) :
    (Codec.list fun _ => Codec.text).GivesBack texts texts :=
  list_givesBack_self texts fun _ s _ => text_givesBack s

theorem eventsCodec_givesBack (e : Events) : eventsCodec.GivesBack e e :=
  record_givesBack <|
    .cons (part_givesBack (text_givesBack e.scriptModule)) <|
    .cons (part_givesBack (texts_givesBack e.handlers)) <| .nil e _

theorem pointCodec_givesBack (p : Point) : pointCodec.GivesBack p p :=
  record_givesBack <|
    .cons (part_givesBack (int32_givesBack p.x)) <|
    .cons (part_givesBack (int32_givesBack p.y)) <| .nil p _

theorem edgesCodec_givesBack (e : Edges) : edgesCodec.GivesBack e e :=
  record_givesBack <|
    .cons (part_givesBack (int32_givesBack e.left)) <|
    .cons (part_givesBack (int32_givesBack e.right)) <|
    .cons (part_givesBack (int32_givesBack e.top)) <|
    .cons (part_givesBack (int32_givesBack e.bottom)) <| .nil e _

theorem walkBehindCodec_givesBack (w : WalkBehind) : walkBehindCodec.GivesBack w w :=
  record_givesBack <| .cons (part_givesBack (int32_givesBack w.baseline)) <| .nil w _

theorem scriptCodec_givesBack (m : Script.Module) : scriptCodec.GivesBack m m :=
  record_givesBack <|
    .cons (part_givesBack (text_givesBack m.name)) <|
    .cons (part_givesBack (texts_givesBack m.exports)) <|
    .cons (part_givesBack (texts_givesBack m.imports)) <| .nil m _

/-! ## Pictures -/

theorem plainBitmapCodec_givesBack (b : Bitmap) : plainBitmapCodec.GivesBack b b := by
  intro written wrote rest
  obtain ⟨width, wroteWidth, wrote⟩ := except_bind_eq_ok.mp wrote
  obtain ⟨height, wroteHeight, wrote⟩ := except_bind_eq_ok.mp wrote
  obtain ⟨depth, wroteDepth, wrote⟩ := except_bind_eq_ok.mp wrote
  obtain rfl := Except.ok.inj wrote
  have size : b.pixels.toList.length = b.width.toNat * b.height.toNat * b.depth.toNat := by
    rw [Array.length_toList, b.size_pixels]
  have pixels := take_append b.pixels.toList rest (.bitmapPastEnd b.width b.height b.depth)
  -- the reader checks what every bitmap carries with it
  have valid : Bitmap.ofPixels b.width b.height b.depth b.pixels.toList.toArray = .ok b :=
    b.ofPixels_self
  rw [size] at pixels
  simp only [List.append_assoc, plainBitmapCodec]
  rw [reader_bind_of_ok (uint32_givesBack _ _ wroteWidth _),
    reader_bind_of_ok (uint32_givesBack _ _ wroteHeight _),
    reader_bind_of_ok (byte_givesBack _ _ wroteDepth _), if_pos b.byteCount_lt_word]
  exact (reader_bind_of_ok pixels).trans (by rw [valid]; rfl)

theorem bitmapCodec_givesBack (o : Option Bitmap) : bitmapCodec.GivesBack o o :=
  optional_givesBack o plainBitmapCodec_givesBack

theorem length_colorBytes (colors : List Color) :
    (colors.flatMap fun c => [c.red, c.green, c.blue]).length = 3 * colors.length := by
  induction colors with
  | nil => rfl
  | cons c colors ih =>
    rw [List.flatMap_cons, List.length_append, ih, List.length_cons]
    simp
    omega

theorem colorsOf_colorBytes (colors : List Color) :
    colorsOf (colors.flatMap fun c => [c.red, c.green, c.blue]) = colors := by
  induction colors with
  | nil => rfl
  | cons c colors ih => simp [colorsOf, ih]

theorem length_storedPalette (palette : List Color) :
    (storedPalette palette).length = paletteSize := by
  simp [storedPalette]
  omega

theorem paletteCodec_givesBack (palette : List Color) :
    paletteCodec.GivesBack palette (storedPalette palette) := by
  intro written wrote rest
  obtain rfl : ((storedPalette palette).flatMap fun c => [c.red, c.green, c.blue]) = written :=
    Except.ok.inj wrote
  have bytes := take_append
    ((storedPalette palette).flatMap fun c => [c.red, c.green, c.blue]) rest .endOfData
  rw [length_colorBytes, length_storedPalette] at bytes
  simp only [paletteCodec]
  rw [reader_bind_of_ok (within_of_ok bytes), colorsOf_colorBytes]
  rfl

/-! ## Choices -/

theorem volume_ofInt?_toInt (v : Volume) :
    Volume.ofInt? ((UInt8.ofInt v.toInt).toInt8.toInt) = some v := by
  cases v <;> decide

theorem volumeCodec_givesBack (v : Volume) : volumeCodec.GivesBack v v := by
  intro written wrote rest
  have raw := byte_givesBack _ written wrote rest
  simp only [volumeCodec]
  rw [reader_bind_of_ok raw, volume_ofInt?_toInt]
  rfl

theorem density_ofNat?_toNat (d : Density) :
    Density.ofNat? (UInt8.ofNat d.toNat).toNat = some d := by
  cases d <;> decide

theorem densityCodec_givesBack (d : Density) : densityCodec.GivesBack d d := by
  intro written wrote rest
  have raw := byte_givesBack _ written wrote rest
  simp only [densityCodec]
  rw [reader_bind_of_ok raw, density_ofNat?_toNat]
  rfl

theorem optionsCodec_givesBack (o : Options) : optionsCodec.GivesBack o o :=
  record_givesBack <|
    .cons (part_givesBack (int32_givesBack o.startupMusic)) <|
    .cons (part_givesBack (flag_givesBack o.saveLoadDisabled)) <|
    .cons (part_givesBack (flag_givesBack o.playerCharacterOff)) <|
    .cons (part_givesBack (int32_givesBack o.playerView)) <|
    .cons (part_givesBack (volumeCodec_givesBack o.musicVolume)) <|
    .cons (part_givesBack (int32_givesBack o.flags)) <| .nil o _

/-! ## Records with a history -/

variable (v : Version)

theorem hotspotCodec_givesBack (h : Hotspot) : (hotspotCodec v).GivesBack h (h.asStored v) :=
  record_givesBack <|
    .append (.append (.append
      (.cons (part_givesBack (pointCodec_givesBack h.walkTo)) <|
        .cons (part_givesBack (text_givesBack h.name)) <| .nil h _)
      (.since rfl (text_givesBack h.scriptName)))
      (.since rfl (propertiesCodec_givesBack h.properties)))
      (.since rfl (eventsCodec_givesBack h.events))

theorem objectCodec_givesBack (o : Object) : (objectCodec v).GivesBack o (o.asStored v) :=
  record_givesBack <|
    .append (.append (.append
      (.cons (part_givesBack (int32_givesBack o.sprite)) <|
        .cons (part_givesBack (int32_givesBack o.x)) <|
        .cons (part_givesBack (int32_givesBack o.y)) <|
        .cons (part_givesBack (int32_givesBack o.room)) <|
        .cons (part_givesBack (flag_givesBack o.isOn)) <|
        .cons (part_givesBack (int32_givesBack o.baseline)) <|
        .cons (part_givesBack (int32_givesBack o.flags)) <|
        .cons (part_givesBack (text_givesBack o.name)) <| .nil o _)
      (.since rfl (text_givesBack o.scriptName)))
      (.since rfl (propertiesCodec_givesBack o.properties)))
      (.since rfl (eventsCodec_givesBack o.events))

theorem regionCodec_givesBack (r : Region) : (regionCodec v).GivesBack r (r.asStored v) :=
  record_givesBack <|
    .append (.append
      (.cons (part_givesBack (int32_givesBack r.light)) <|
        .cons (part_givesBack (int32_givesBack r.tint)) <| .nil r _)
      (.since rfl (propertiesCodec_givesBack r.properties)))
      (.since rfl (eventsCodec_givesBack r.events))

theorem walkAreaCodec_givesBack (a : WalkArea) : (walkAreaCodec v).GivesBack a (a.asStored v) :=
  record_givesBack <|
    .append (.append
      (.cons (part_givesBack (int32_givesBack a.characterView)) <|
        .cons (part_givesBack (int32_givesBack a.scalingFar)) <| .nil a _)
      (.since rfl (int32_givesBack a.scalingNear)))
      (.cons (part_givesBack (int32_givesBack a.playerView)) <|
        .cons (part_givesBack (int32_givesBack a.top)) <|
        .cons (part_givesBack (int32_givesBack a.bottom)) <| .nil a _)

/-- Old and new ways to store a message differ in what they refuse, not in what they give back. -/
theorem messageCodec_givesBack (index : Nat) (m : Message) :
    (messageCodec v index).GivesBack m m := by
  have words : (if v < .v261 then legacyText maxLegacyMessage (.unstorableMessage index v)
      else text).GivesBack m.text m.text := by
    split
    · exact legacyText_givesBack _ _ m.text
    · exact text_givesBack m.text
  exact record_givesBack <|
    .cons (part_givesBack (byte_givesBack m.displayAs)) <|
    .cons (part_givesBack (byte_givesBack m.flags)) <|
    .cons (part_givesBack words) <| .nil m _

theorem frameCodec_givesBack (index : Nat) (f : Frame) :
    (frameCodec v index).GivesBack f (f.asStored v) :=
  record_givesBack <|
    .append (.since rfl (flag_givesBack f.paletteShared))
      (.cons (part_givesBack (paletteCodec_givesBack f.palette)) <|
        .cons (part_givesBack (within_givesBack (bitmapCodec_givesBack f.graphic))) <| .nil f _)

/-! ## The frames -/

theorem int32_ofNat_speedByte (speed : Int32) :
    Int32.ofNat (speedByte speed).toNat = storedSpeed speed := by
  obtain ⟨n, clamped⟩ : ∃ n : Nat, max 0 (min speed.toInt 255) = n :=
    ⟨_, (Int.toNat_of_nonneg (by omega)).symm⟩
  have small : n < 2 ^ 8 := by omega
  rw [speedByte, storedSpeed, clamped, Int32.ofInt_eq_ofNat]
  congr 1
  simp [UInt8.ofInt]
  omega

/-- Frame counts and speeds are stored as bytes, which hold all that a room can have. -/
theorem frameHeadCodec_givesBack {count speed : Nat} (few : count < 2 ^ 8) (slow : speed < 2 ^ 8)
    (single : ¬ .v255a ≤ v → count = 1) :
    (frameHeadCodec v).GivesBack (count, speed) (count, kept .v255a v speed 5) := by
  have byteBack {n : Nat} (small : n < 2 ^ 8) : (UInt8.ofNat n).toNat = n := by simpa using small
  intro written wrote rest
  unfold kept
  split
  · next late =>
    simp only [frameHeadCodec, if_pos late] at wrote ⊢
    obtain ⟨first, wroteFirst, wrote⟩ := except_bind_eq_ok.mp wrote
    obtain ⟨second, wroteSecond, joined⟩ := except_bind_eq_ok.mp wrote
    obtain rfl := Except.ok.inj joined
    rw [List.append_assoc, reader_bind_of_ok (byte_givesBack _ _ wroteFirst _),
      reader_bind_of_ok (byte_givesBack _ _ wroteSecond _), byteBack few, byteBack slow]
    rfl
  · next early =>
    simp only [frameHeadCodec, if_neg early] at wrote ⊢
    obtain rfl := Except.ok.inj wrote
    rw [single early]
    rfl

theorem framesPart_givesBack {r : Room} (before : Room) (framed : r.frames.toList ≠ [])
    (single : ¬ .v255a ≤ v → r.frames.length = 1) :
    (framesPart v).GivesBack r before (before.withFrames (r.frames.map (Frame.asStored v))
      (kept .v255a v (storedSpeed r.animationSpeed) 5)) := by
  intro written wrote rest
  obtain ⟨front, wroteFront, wrote⟩ := except_bind_eq_ok.mp wrote
  obtain ⟨body, wroteBody, joined⟩ := except_bind_eq_ok.mp wrote
  obtain rfl := Except.ok.inj joined
  have limit : r.frames.length ≤ maxFrames := r.frames.length_le
  -- a reader takes from one frame to as many as a room can have
  have counted : 1 ≤ r.frames.length ∧ r.frames.length ≤ maxFrames :=
    ⟨List.length_pos_iff.mpr framed, limit⟩
  have head := frameHeadCodec_givesBack v (Nat.lt_of_le_of_lt limit (by decide))
    (speedByte r.animationSpeed).toNat_lt single front wroteFront (body ++ rest)
  have frames := readItems_of_writeItems (Frame.asStored v) r.frames.toList
    (fun index f _ => frameCodec_givesBack v index f) 0 body wroteBody rest
  have speed : Int32.ofNat (kept .v255a v (speedByte r.animationSpeed).toNat 5) =
      kept .v255a v (storedSpeed r.animationSpeed) 5 := by
    unfold kept
    split
    · exact int32_ofNat_speedByte r.animationSpeed
    · rfl
  simp only [framesPart]
  rw [List.append_assoc, reader_bind_of_ok head, if_pos counted]
  rw [Capped.length, reader_bind_of_ok frames, reader_bind_of_ok (limited_map _ r.frames rest),
    speed]
  rfl

/-! ## The room -/

theorem checkWritable_eq_ok_iff {r : Room} {v : Version} :
    r.checkWritable v = .ok () ↔ v.isSupported ∧ r.hotspots.length ≤ v.maxHotspots ∧
      r.objects.length ≤ v.maxObjects ∧ (.v255a ≤ v ∨ r.frames.length = 1) := by
  simp only [checkWritable, demand_eq_ok, lastDemand_eq_ok]

/-- What revision `v` writes of a room that it can hold is read as the room that it keeps. -/
theorem roomCodec_givesBack {r : Room} (writable : r.checkWritable v = .ok ())
    (framed : r.frames.toList ≠ []) : (roomCodec v).GivesBack r (r.asStored v) := by
  obtain ⟨-, hotspots, objects, single⟩ := checkWritable_eq_ok_iff.mp writable
  have single : ¬ .v255a ≤ v → r.frames.length = 1 := fun early => single.resolve_left early
  -- part by part, in the order of the layout
  exact record_givesBack <|
    .append (.append (.append (.append (.append (.append (.append
      (.cons (part_givesBack (byte_givesBack r.backgroundDepth)) <|
        .cons (part_givesBack (capped_givesBack_self r.walkBehinds.length_le
          fun _ w _ => walkBehindCodec_givesBack w)) <|
        .cons (part_givesBack (capped_givesBack _ hotspots
          fun _ h _ => hotspotCodec_givesBack v h)) <|
        .cons (part_givesBack (counted_givesBack _ objects
          fun _ o _ => objectCodec_givesBack v o)) <|
        .cons (part_givesBack (capped_givesBack _ r.regions.length_le
          fun _ region _ => regionCodec_givesBack v region)) <|
        .cons (part_givesBack (capped_givesBack _ r.walkAreas.length_le
          fun _ a _ => walkAreaCodec_givesBack v a)) <|
        .cons (part_givesBack (edgesCodec_givesBack r.edges)) <|
        .cons (part_givesBack (optionsCodec_givesBack r.options)) <|
        .cons (part_givesBack (capped_givesBack_self r.messages.length_le
          fun index m _ => messageCodec_givesBack v index m)) <| .nil r _)
      (.since rfl (int32_givesBack r.gameId)))
      (.storedOrDerived (densityCodec_givesBack r.density) rfl))
      (.storedOrDerived (int32_givesBack r.maskResolution) rfl))
      (.cons (part_givesBack (int32_givesBack r.width)) <|
        .cons (part_givesBack (int32_givesBack r.height)) <|
        .cons (framesPart_givesBack v _ framed single) <|
        .cons (part_givesBack (within_givesBack (bitmapCodec_givesBack r.walkBehindMask))) <|
        .cons (part_givesBack (within_givesBack (bitmapCodec_givesBack r.hotspotMask))) <|
        .cons (part_givesBack (within_givesBack (bitmapCodec_givesBack r.walkAreaMask))) <|
        .cons (part_givesBack (within_givesBack (bitmapCodec_givesBack r.regionMask))) <| .nil r _))
      (.since rfl (propertiesCodec_givesBack r.properties)))
      (.since rfl (eventsCodec_givesBack r.events)))
      (.cons (part_givesBack (optional_givesBack r.script scriptCodec_givesBack)) <| .nil r _)

theorem readVersion_append {v : Version} (supported : v.isSupported) (body : Bytes) :
    readVersion (magic ++ toLittleEndian 2 v.number ++ body) = .ok (v, body) := by
  have small : v.number ≤ 40 := by
    simp only [Version.isSupported, Bool.and_eq_true, decide_eq_true_eq] at supported
    exact supported.2
  have mark : Reader.take 4 .endOfData (magic ++ (toLittleEndian 2 v.number ++ body)) =
      .ok (magic, toLittleEndian 2 v.number ++ body) :=
    take_append magic (toLittleEndian 2 v.number ++ body) .endOfData
  have number := word_givesBack 2 v.number _ rfl body
  rw [Nat.mod_eq_of_lt (by omega)] at number
  simp only [readVersion]
  rw [List.append_assoc, reader_bind_of_ok (within_of_ok mark), if_pos rfl,
    reader_bind_of_ok number, if_pos supported]
  rfl

/-- A file gives back the room that was saved, as its revision keeps it, provided that the room has
a frame and that what is kept of it can be run. -/
theorem decode_encode_eq_asStored {r : Room} {v : Version} {bytes : Bytes}
    (saved : r.encode v = .ok bytes) (framed : r.frames.toList ≠ [])
    (valid : (r.asStored v).validate = .ok ()) : decode bytes = .ok (r.asStored v) := by
  obtain ⟨⟨⟩, writable, saved⟩ := except_bind_eq_ok.mp saved
  obtain ⟨body, wroteBody, joined⟩ := except_bind_eq_ok.mp saved
  obtain rfl := Except.ok.inj joined
  obtain ⟨supported, -⟩ := checkWritable_eq_ok_iff.mp writable
  -- the reader does not ask what follows the room, and nothing does
  have room := roomCodec_givesBack v writable framed body wroteBody []
  rw [List.append_nil] at room
  refine except_bind_eq_ok.mpr ⟨(v, body), readVersion_append supported body, ?_⟩
  refine except_bind_eq_ok.mpr ⟨(r.asStored v, []), room, ?_⟩
  exact except_bind_eq_ok.mpr ⟨(), valid, rfl⟩

/-- A dense room with more to it than the first revisions store. -/
def cellar : Room :=
  { gameId := 7
    density := .high
    animationSpeed := 900
    hotspots := ⟨[{ name := "door", scriptName := "hDoor" }], by decide⟩
    messages := ⟨[{ text := "It is dark." }], by decide⟩
    properties := PropertyMap.ofPairs [("Lit", "0")] }

theorem decode_encode_cellar :
    ∃ bytes, cellar.encode ⟨22⟩ = .ok bytes ∧ decode bytes = .ok (cellar.asStored ⟨22⟩) := by
  have saved : ∃ bytes, cellar.encode ⟨22⟩ = .ok bytes := ⟨_, rfl⟩
  obtain ⟨bytes, saved⟩ := saved
  exact ⟨bytes, saved, decode_encode_eq_asStored saved (by decide) rfl⟩

end Adventure.Room
