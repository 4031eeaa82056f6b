import Adventure.Proofs.Room.Rewrite

/-! # Rooms that are saved again

Whatever file a room was read from, the revisions from 2.61 on save it again.

* `decode_encode_of_decode` — the revision of the file gives the same room, in no more bytes.
* `decode_encode_upgraded` — the revisions from 3.5.0.8 on store as data what older files left out.
-/

namespace Adventure.Room

open Codec

variable {v u : Version} {bytes body : Bytes} {r : Room} {size : Nat}

/-! ## Limits -/

theorem maxHotspots_mono (older : v ≤ u) : v.maxHotspots ≤ u.maxHotspots := by
  have earlier (first : Version) : u < first → v < first := Nat.lt_of_le_of_lt older
  unfold Version.maxHotspots
  grind

theorem maxObjects_mono (older : v ≤ u) : v.maxObjects ≤ u.maxObjects := by
  have earlier : u < .v360 → v < .v360 := Nat.lt_of_le_of_lt older
  unfold Version.maxObjects
  grind

/-! ## Normal forms -/

theorem storedPalette_storedPalette (palette : List Color) :
    storedPalette (storedPalette palette) = storedPalette palette :=
  storedPalette_of_full (length_storedPalette palette)

theorem storedSpeed_storedSpeed (speed : Int32) :
    storedSpeed (storedSpeed speed) = storedSpeed speed := by
  rw [← int32_ofNat_speedByte speed]
  exact storedSpeed_ofNat (speedByte speed).toNat_lt

theorem kept_of_late {α : Type} {first : Version} {a default : α} (late : .v3508 ≤ u)
    (early : first ≤ .v3508) : kept first u a default = a :=
  if_pos (Nat.le_trans early late)

theorem hotspot_asStored_asStored (late : .v3508 ≤ u) (h : Hotspot) :
    (h.asStored v).asStored u = h.asStored v := by
  simp (disch := decide) only [Hotspot.asStored, kept_of_late late]

theorem object_asStored_asStored (late : .v3508 ≤ u) (o : Object) :
    (o.asStored v).asStored u = o.asStored v := by
  simp (disch := decide) only [Object.asStored, kept_of_late late]

theorem region_asStored_asStored (late : .v3508 ≤ u) (r : Region) :
    (r.asStored v).asStored u = r.asStored v := by
  simp (disch := decide) only [Region.asStored, kept_of_late late]

theorem walkArea_asStored_asStored (late : .v3508 ≤ u) (a : WalkArea) :
    (a.asStored v).asStored u = a.asStored v := by
  simp (disch := decide) only [WalkArea.asStored, kept_of_late late]

theorem frame_asStored_asStored (late : .v3508 ≤ u) (f : Frame) :
    (f.asStored v).asStored u = f.asStored v := by
  simp (disch := decide) only [Frame.asStored, kept_of_late late, storedPalette_storedPalette]

theorem storedSpeed_kept (speed : Int32) :
    storedSpeed (kept .v255a v (storedSpeed speed) 5) = kept .v255a v (storedSpeed speed) 5 := by
  unfold kept
  split
  · exact storedSpeed_storedSpeed speed
  · decide

theorem capped_map_map {α : Type} {n : Nat} {f g : α → α} (items : Capped n α)
    (normal : ∀ a, f (g a) = g a) : (items.map g).map f = items.map g :=
  capped_map_eq_self (List.forall_mem_map.mpr fun a _ => normal a)

theorem asStored_asStored (late : .v3508 ≤ u) (r : Room) :
    (r.asStored v).asStored u = { r.asStored v with dataVersion := u.number } := by
  simp (disch := decide) only [asStored, kept_of_late late, storedSpeed_kept,
    capped_map_map _ (frame_asStored_asStored late),
    capped_map_map _ (hotspot_asStored_asStored late),
    capped_map_map _ (region_asStored_asStored late),
    capped_map_map _ (walkArea_asStored_asStored late),
    map_eq_self (List.forall_mem_map.mpr fun a _ => object_asStored_asStored late a)]

/-! ## Files -/

theorem readVersion_yields : readVersion.Yields fun v size => v.isSupported ∧ size = 6 := by
  refine (((yields_take _ _).within _).bind) fun found n first => yields_demand fun _ => ?_
  refine (word_yields 2).bind fun number m second => yields_demand fun supported => ?_
  exact yields_pure ⟨supported, by omega⟩

theorem decode_eq_ok_iff : decode bytes = .ok r ↔
    ∃ v body rest, readVersion bytes = .ok (v, body) ∧ (roomCodec v).read body = .ok (r, rest) ∧
      r.validate = .ok () := by
  unfold decode
  constructor
  · intro decoded
    obtain ⟨⟨v, body⟩, marked, decoded⟩ := except_bind_eq_ok.mp decoded
    obtain ⟨⟨room, rest⟩, read, decoded⟩ := except_bind_eq_ok.mp decoded
    obtain ⟨⟨⟩, valid, same⟩ := except_bind_eq_ok.mp decoded
    obtain rfl := Except.ok.inj same
    exact ⟨v, body, rest, marked, read, valid⟩
  · rintro ⟨v, body, rest, marked, read, valid⟩
    refine except_bind_eq_ok.mpr ⟨(v, body), marked, ?_⟩
    refine except_bind_eq_ok.mpr ⟨(r, rest), read, ?_⟩
    exact except_bind_eq_ok.mpr ⟨(), valid, rfl⟩

/-- A reader gives back what the writer has made of a room that can be run. -/
theorem decode_of_write (writable : r.checkWritable v = .ok ()) (framed : r.frames.toList ≠ [])
    (wrote : (roomCodec v).write r = .ok body) (valid : (r.asStored v).validate = .ok ()) :
    decode (magic ++ toLittleEndian 2 v.number ++ body) = .ok (r.asStored v) := by
  obtain ⟨supported, -⟩ := checkWritable_eq_ok_iff.mp writable
  have read := roomCodec_givesBack v writable framed body wrote []
  rw [List.append_nil] at read
  exact decode_eq_ok_iff.mpr ⟨v, body, [], readVersion_append supported body, read, valid⟩

theorem decode_legible (decoded : decode bytes = .ok r)
    (marked : readVersion bytes = .ok (v, body)) (older : v ≤ u) (late : .v261 ≤ u) :
    ∃ size, size + 6 ≤ bytes.length ∧ r.validate = .ok () ∧ Legible v u r size := by
  obtain ⟨w, found, rest, also, read, valid⟩ := decode_eq_ok_iff.mp decoded
  obtain ⟨rfl, rfl⟩ := Prod.mk.inj (Except.ok.inj (also.symm.trans marked))
  obtain ⟨mark, marks, -, rfl⟩ := readVersion_yields _ _ _ marked
  obtain ⟨size, holds, legible⟩ := roomCodec_yields older late _ _ _ read
  exact ⟨size, by omega, valid, legible⟩

theorem decode_encode_of_legible (legible : Legible v u r size) (supported : u.isSupported)
    (older : v ≤ u) (late : .v261 ≤ u) (valid : (r.asStored u).validate = .ok ()) :
    ∃ stored, r.encode u = .ok stored ∧ decode stored = .ok (r.asStored u) ∧
      (u = v → stored.length ≤ size + 6) := by
  have writable : r.checkWritable u = .ok () :=
    checkWritable_eq_ok_iff.mpr ⟨supported,
      Nat.le_trans legible.hotspots (maxHotspots_mono older),
      Nat.le_trans legible.objects (maxObjects_mono older),
      .inl (Nat.le_trans (by decide) late)⟩
  obtain ⟨body, wrote, short⟩ := legible.written
  refine ⟨magic ++ toLittleEndian 2 u.number ++ body, ?_,
    decode_of_write writable legible.framed wrote valid, fun same => ?_⟩
  · rw [encode, writable, wrote]
    rfl
  · -- mark and revision are six bytes in every file
    have := short same
    rw [List.length_append, List.length_append, length_toLittleEndian]
    show 4 + 2 + body.length ≤ size + 6
    omega

/-! ## Saving again -/

/-- Whatever a reader has accepted, the revision that it was stored in writes in no more bytes, and
reads again as the same room. -/
theorem decode_encode_of_decode (decoded : decode bytes = .ok r)
    (marked : readVersion bytes = .ok (v, body)) (late : .v261 ≤ v) :
    ∃ again, r.encode v = .ok again ∧ decode again = .ok r ∧ again.length ≤ bytes.length := by
  have supported := (readVersion_yields _ _ _ marked).elim fun _ found => found.2.1
  obtain ⟨size, within, valid, legible⟩ := decode_legible decoded marked (Nat.le_refl _) late
  obtain ⟨again, saved, found, short⟩ := decode_encode_of_legible legible supported
    (Nat.le_refl _) late (by rwa [legible.stored])
  rw [legible.stored] at found
  exact ⟨again, saved, found, Nat.le_trans (short rfl) within⟩

/-- A file of revision 2.61 that no writer makes. -/
def wornFile : Bytes :=
  magic ++ [28, 0] ++ [1] ++ List.replicate 36 0
  -- the second option is set, by a 7
  ++ [0, 0, 0, 0, 7, 0, 0, 0, 0, 0, 0, 0, 0, 0, 0] ++ [0, 0, 0, 0]
  ++ [0xC5, 0x3F, 0, 0] ++ [0] ++ [64, 1, 0, 0, 200, 0, 0, 0]
  ++ [1, 5] ++ [0] ++ List.replicate (3 * paletteSize) 0 ++ [0] ++ [0, 0, 0, 0]
  -- a property is listed twice
  ++ [2, 0, 0, 0]
  ++ [3, 0, 0, 0, 0x4C, 0x69, 0x74, 1, 0, 0, 0, 0x30]
  ++ [3, 0, 0, 0, 0x4C, 0x49, 0x54, 1, 0, 0, 0, 0x31]
  -- a byte stands behind the room
  ++ [0] ++ [9]

def wornRoom : Room :=
  { dataVersion := 28
    options := { saveLoadDisabled := true }
    properties := PropertyMap.ofPairs [("Lit", "0"), ("LIT", "1")] }

set_option maxRecDepth 4000 in
theorem decode_wornFile : decode wornFile = .ok wornRoom := rfl

theorem decode_encode_wornFile : decode wornFile = .ok wornRoom ∧
    ∃ again, wornRoom.encode ⟨28⟩ = .ok again ∧ decode again = .ok wornRoom ∧
      again.length ≤ wornFile.length :=
  ⟨decode_wornFile, decode_encode_of_decode (v := ⟨28⟩) decode_wornFile rfl (by decide)⟩

/-- A later revision loses nothing of what an earlier one has stored, nor of what was put in place
of what that one did not store. -/
theorem decode_encode_upgraded (decoded : decode bytes = .ok r)
    (marked : readVersion bytes = .ok (v, body)) (supported : u.isSupported) (older : v ≤ u)
    (late : .v3508 ≤ u) :
    ∃ stored, r.encode u = .ok stored ∧ decode stored = .ok { r with dataVersion := u.number } := by
  have texts : .v261 ≤ u := Nat.le_trans (by decide) late
  obtain ⟨size, -, valid, legible⟩ := decode_legible decoded marked older texts
  have normal : r.asStored u = { r with dataVersion := u.number } := by
    have twice := asStored_asStored (v := v) late r
    rwa [legible.stored] at twice
  obtain ⟨stored, saved, found, -⟩ := decode_encode_of_legible legible supported older texts
    (by rwa [normal])
  rw [normal] at found
  exact ⟨stored, saved, found⟩

/-- A file of revision 22, with a message that is no text. There is nothing in it of the game, of
the resolution of the masks and of frames. -/
def yellowedFile : Bytes :=
  magic ++ [22, 0] ++ [1] ++ List.replicate 36 0
  ++ [0, 0, 0, 0, 0, 0, 0, 0, 0, 0, 0, 0, 0, 0, 0]
  ++ [1, 0, 0, 0] ++ [0, 0] ++ [0x48, 0xFF, 0x69, 0]
  ++ [2] ++ [64, 1, 0, 0, 200, 0, 0, 0]
  ++ List.replicate (3 * paletteSize) 0 ++ [0] ++ [0, 0, 0, 0] ++ [0]

def yellowedRoom : Room :=
  { dataVersion := 22
    maskResolution := 2
    messages := ⟨[{ text := Text.Utf8.decodeLossy [0x48, 0xFF, 0x69] }], by decide⟩
    density := .high }

set_option maxRecDepth 4000 in
theorem decode_yellowedFile : decode yellowedFile = .ok yellowedRoom := rfl

theorem decode_encode_yellowedFile : decode yellowedFile = .ok yellowedRoom ∧
    ∃ stored, yellowedRoom.encode .current = .ok stored ∧
      decode stored = .ok { yellowedRoom with dataVersion := 40 } :=
  ⟨decode_yellowedFile, decode_encode_upgraded (v := ⟨22⟩) (u := .current) decode_yellowedFile rfl
    (by decide) (by decide) (by decide)⟩

end Adventure.Room
