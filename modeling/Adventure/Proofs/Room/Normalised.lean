import Adventure.Proofs.Room.Area

/-! # Rooms as games show them

A game shows a room at the size that it was made for, or at twice that size if the room is of low
density and the game of high resolution. Masks are fitted to the background that comes of it.

* `growth` — how many times larger a room is shown than it was made.
* `shown` — the room as it is shown; `upscale` and `fixMasks` come to that.
* `Normalised` — what a shown room is like.
-/

namespace Adventure.Room

variable {r s : Room} {b : Bitmap} {hires : Bool}

/-! ## Growth -/

/-- How many times larger a game shows a room than it was made. -/
def growth (hires : Bool) (r : Room) : Nat :=
  if hires = true ∧ r.density = .low ∧ r.upscaled = false then 2 else 1

theorem growth_eq_two (due : r.Due hires) : r.growth hires = 2 := if_pos due

theorem growth_eq_one (idle : ¬ r.Due hires) : r.growth hires = 1 := if_neg idle

/-- The room at the size that a game shows it at, its masks still as they were. -/
def enlarged (hires : Bool) (r : Room) : Room := if r.growth hires = 2 then r.doubled else r

/-- The room as a game shows it. -/
def shown (hires : Bool) (r : Room) : Room :=
  { (r.enlarged hires).fixed with upscaled := r.upscaled || r.growth hires == 2 }

theorem growth_cases (hires : Bool) (r : Room) :
    r.growth hires = 1 ∧ r.enlarged hires = r ∨
      r.growth hires = 2 ∧ r.enlarged hires = r.doubled := by
  unfold enlarged growth
  split
  · exact .inr ⟨rfl, rfl⟩
  · exact .inl ⟨rfl, rfl⟩

/-- Masks of a valid room have their place in a buffer. -/
theorem fixMasks_of_valid (valid : r.validate = .ok ()) : r.fixMasks = .ok r.fixed := by
  obtain ⟨-, -, -, ⟨notWider, notHigher⟩, fits⟩ := validate_eq_ok_iff.mp valid
  unfold maxSide at notWider notHigher
  refine fixMasks_eq_ok_fixed fun b background => ?_
  obtain ⟨wide, high⟩ := fits b background
  omega

/-- Masks are fitted once more when they have been fitted with the room, which changes nothing. -/
theorem fixMasks_of_upscale (valid : r.validate = .ok ()) {result : Room × Bool}
    (upscaled : r.upscale hires = .ok result) : result.1.fixMasks = .ok (r.shown hires) := by
  rcases upscale_cases r hires with ⟨idle, kept, -⟩ | ⟨due, -⟩
  · have once := growth_eq_one idle
    obtain rfl := Except.ok.inj (kept.symm.trans upscaled)
    have same : r.shown hires = r.fixed := by
      rw [shown, enlarged, once]
      simp [fixed, mapMasks]
    rw [same]
    exact fixMasks_of_valid valid
  · have twice := growth_eq_two due
    obtain rfl := Except.ok.inj ((upscale_eq_twice valid due).symm.trans upscaled)
    have same : r.shown hires = r.twice := by
      rw [shown, enlarged, if_pos twice, twice, Room.twice]
      simp
    rw [same]
    exact fixMasks_again (holdable valid).masks true

/-- Showing a room changes its size, its pictures and its masks. -/
theorem shown_eq (hires : Bool) (r : Room) : r.shown hires = { r with
    width := (r.shown hires).width
    height := (r.shown hires).height
    frames := (r.shown hires).frames
    hotspotMask := (r.shown hires).hotspotMask
    regionMask := (r.shown hires).regionMask
    walkAreaMask := (r.shown hires).walkAreaMask
    walkBehindMask := (r.shown hires).walkBehindMask
    upscaled := (r.shown hires).upscaled } := by
  rw [shown]
  rcases growth_cases hires r with ⟨-, same⟩ | ⟨-, same⟩ <;> rw [same] <;> rfl

/-! ## What a shown room is like -/

/-- What becomes of a mask that has to be `w` by `h` pixels large: it stays if it is, and otherwise
is resampled as it was made. -/
inductive Suited (w h : Nat) : Option Bitmap → Option Bitmap → Prop where
  | absent : Suited w h none none
  | kept (a : Bitmap) : a.width.toNat = w → a.height.toNat = h → Suited w h (some a) (some a)
  | resampled (a c : Bitmap) (width height : UInt32) :
      width.toNat = w → height.toNat = h → ¬ (a.width.toNat = w ∧ a.height.toNat = h) →
      a.resized width height = .ok c → Suited w h (some a) (some c)

/-- A frame whose picture is resampled, if it has one. -/
def Frame.resized (width height : UInt32) (f : Frame) : Except Bitmap.Fault Frame := do
  return { f with graphic := ← f.graphic.mapM (·.resized width height) }

/-- What a game of high resolution, or another, makes of the room `r`. -/
structure Normalised (hires : Bool) (r s : Room) : Prop where
  width : s.width.toInt = r.growth hires * r.width.toInt
  height : s.height.toInt = r.growth hires * r.height.toInt
  background : ∀ b, s.primaryBackground = some b →
    (b.width.toNat : Int) = s.width.toInt ∧ (b.height.toNat : Int) = s.height.toInt
  -- walk-behinds have a pixel for each of the background, other masks one for a square of them
  walkBehinds : ∀ b, s.primaryBackground = some b →
    Suited b.width.toNat b.height.toNat r.walkBehindMask s.walkBehindMask
  squares : ∀ b, s.primaryBackground = some b → ∀ kind, kind ≠ .walkBehind →
    Suited (b.width.toNat / s.maskResolution.toInt.toNat)
      (b.height.toNat / s.maskResolution.toInt.toNat) (r.mask kind) (s.mask kind)
  bare : s.primaryBackground = none → ∀ kind, s.mask kind = r.mask kind
  kept : r.growth hires = 1 → s.frames = r.frames
  doubled : r.growth hires = 2 →
    r.frames.toList.mapM (Frame.resized s.width.toUInt32 s.height.toUInt32) = .ok s.frames.toList
  upscaled : s.upscaled = true ↔ r.upscaled = true ∨ r.growth hires = 2
  -- contents, edges, messages and whatever else there is in a room are those of `r`
  rest : s = { r with
    width := s.width
    height := s.height
    frames := s.frames
    hotspotMask := s.hotspotMask
    regionMask := s.regionMask
    walkAreaMask := s.walkAreaMask
    walkBehindMask := s.walkBehindMask
    upscaled := s.upscaled }

theorem suited_fit {width height : UInt32} (wide : width.toNat ≤ 16384)
    (high : height.toNat ≤ 16384) (a : Option Bitmap) :
    Suited width.toNat height.toNat a (a.map (·.fit width height)) := by
  cases a with
  | none => exact .absent
  | some a =>
    have made := Bitmap.fitted_eq_fit (Bitmap.byteCount_le_maxBytes wide high a)
    rw [Option.map_some]
    by_cases same : a.width = width ∧ a.height = height
    · obtain ⟨rfl, rfl⟩ := same
      rw [Bitmap.fit_eq (if_pos ⟨rfl, rfl⟩)]
      exact .kept a rfl rfl
    · rw [Bitmap.fitted, if_neg same] at made
      refine .resampled a _ width height rfl rfl ?_ made
      rwa [UInt32.toNat_inj, UInt32.toNat_inj]

/-- Twice the side of a valid room is far from the limits of a 32 bit field. -/
theorem toInt_double {side : Int32} (positive : 0 < side) (short : side.toInt ≤ maxSide) :
    (Int32.ofInt (2 * side.toInt)).toInt = 2 * side.toInt ∧
      (Int32.ofInt (2 * side.toInt)).toUInt32 = doubledSide side := by
  have positive : 0 < side.toInt := Int32.lt_iff_toInt_lt.mp positive
  unfold maxSide at short
  have exact' : (Int32.ofInt (2 * side.toInt)).toInt = 2 * side.toInt :=
    Int32.toInt_ofInt_of_le (by change -2147483648 ≤ _; omega) (by change _ < 2147483648; omega)
  have natural : (doubledSide side).toNat = (2 * side.toInt).toNat :=
    UInt32.toNat_ofNat_of_lt' (by change _ < 4294967296; omega)
  refine ⟨exact', toUInt32_of_toInt ?_⟩
  rw [exact', natural]
  omega

/-! ## The enlarged room -/

theorem enlarged_size (valid : r.validate = .ok ()) (hires : Bool) :
    (r.enlarged hires).width.toInt = r.growth hires * r.width.toInt ∧
      (r.enlarged hires).height.toInt = r.growth hires * r.height.toInt := by
  obtain ⟨-, -, ⟨wide, high⟩, ⟨notWider, notHigher⟩, -⟩ := validate_eq_ok_iff.mp valid
  rcases growth_cases hires r with ⟨once, same⟩ | ⟨twice, same⟩
  · rw [once, same]
    omega
  · rw [twice, same]
    exact ⟨(toInt_double wide notWider).1, (toInt_double high notHigher).1⟩

theorem enlarged_background (valid : r.validate = .ok ()) (hires : Bool) :
    ∀ b, (r.enlarged hires).primaryBackground = some b →
      (b.width.toNat : Int) = (r.enlarged hires).width.toInt ∧
        (b.height.toNat : Int) = (r.enlarged hires).height.toInt := by
  have size := enlarged_size valid hires
  obtain ⟨-, -, -, ⟨notWider, notHigher⟩, fits⟩ := validate_eq_ok_iff.mp valid
  intro b background
  rcases growth_cases hires r with ⟨once, same⟩ | ⟨twice, same⟩
  · rw [same] at background ⊢
    exact fits b background
  · rw [twice] at size
    rw [same, map_primaryBackground] at background
    obtain ⟨a, made, rfl⟩ := Option.map_eq_some_iff.mp background
    obtain ⟨sameWidth, sameHeight⟩ := fits a made
    obtain ⟨wide, high, -⟩ := Bitmap.sizes_fitted (fitted_doubled valid a)
    rw [size.1, size.2, wide, high,
      toNat_doubledSide sameWidth notWider, toNat_doubledSide sameHeight notHigher]
    omega

theorem enlarged_mask (hires : Bool) (r : Room) (kind : AreaKind) :
    (r.enlarged hires).mask kind = r.mask kind := by
  unfold enlarged
  split
  · cases kind <;> rfl
  · rfl

theorem enlarged_resolution (hires : Bool) (r : Room) :
    (r.enlarged hires).maskResolution = r.maskResolution := by
  unfold enlarged
  split <;> rfl

/-! ## Its masks -/

/-- Fitting the masks leaves size and pictures alone. -/
theorem shown_fields (hires : Bool) (r : Room) :
    (r.shown hires).width = (r.enlarged hires).width ∧
      (r.shown hires).height = (r.enlarged hires).height ∧
      (r.shown hires).frames = (r.enlarged hires).frames ∧
      (r.shown hires).primaryBackground = (r.enlarged hires).primaryBackground :=
  ⟨rfl, rfl, rfl, rfl⟩

theorem mask_shown (hires : Bool) (r : Room) (kind : AreaKind) :
    (r.shown hires).mask kind = (r.mask kind).map ((r.enlarged hires).fitMask kind) := by
  rw [← enlarged_mask hires r kind, ← mask_mapMasks]
  cases kind <;> rfl

/-- The background of a shown room is at most twice as large as the largest room. -/
theorem shown_background_le (valid : r.validate = .ok ())
    (background : (r.shown hires).primaryBackground = some b) :
    b.width.toNat ≤ 16384 ∧ b.height.toNat ≤ 16384 := by
  obtain ⟨-, -, -, same⟩ := shown_fields hires r
  rw [same] at background
  obtain ⟨-, -, -, ⟨notWider, notHigher⟩, -⟩ := validate_eq_ok_iff.mp valid
  obtain ⟨wide, high⟩ := enlarged_background valid hires b background
  obtain ⟨width, height⟩ := enlarged_size valid hires
  unfold maxSide at notWider notHigher
  rcases growth_cases hires r with ⟨times, -⟩ | ⟨times, -⟩
  · rw [times] at width height
    omega
  · rw [times] at width height
    omega

theorem suited_mask_shown (valid : r.validate = .ok ())
    (background : (r.shown hires).primaryBackground = some b) (kind : AreaKind) :
    Suited (b.width / kind.side r.maskResolution.toUInt32).toNat
      (b.height / kind.side r.maskResolution.toUInt32).toNat (r.mask kind)
      ((r.shown hires).mask kind) := by
  obtain ⟨wide, high⟩ := shown_background_le valid background
  have positive := (validate_eq_ok_iff.mp valid).1
  obtain ⟨-, -, -, same⟩ := shown_fields hires r
  rw [same] at background
  rw [← enlarged_resolution hires r] at positive ⊢
  rw [mask_shown, fitMask_eq_fit background positive]
  exact suited_fit (toNat_div_le wide) (toNat_div_le high) _

theorem doubled_frames (valid : r.validate = .ok ()) : r.frames.toList.mapM
    (Frame.resized r.doubled.width.toUInt32 r.doubled.height.toUInt32) =
      .ok r.doubled.frames.toList := by
  obtain ⟨-, -, ⟨wide, high⟩, ⟨notWider, notHigher⟩, -⟩ := validate_eq_ok_iff.mp valid
  have picture (f : Frame) : f.resized r.doubled.width.toUInt32 r.doubled.height.toUInt32 =
      pure (f.doubled r.width r.height) := by
    show f.resized (Int32.ofInt (2 * r.width.toInt)).toUInt32
      (Int32.ofInt (2 * r.height.toInt)).toUInt32 = _
    rw [(toInt_double wide notWider).2, (toInt_double high notHigher).2, Frame.resized,
      Frame.doubled]
    cases f.graphic with
    | none => rfl
    | some b =>
      have made := fitted_doubled valid b
      rw [Bitmap.fitted_eq_resized] at made
      rw [Option.mapM_some, made]
      rfl
  rw [funext picture]
  exact List.mapM_pure

/-- Showing a room puts it to its size, and fits each of its masks once. -/
theorem normalised_shown (valid : r.validate = .ok ()) (hires : Bool) :
    r.Normalised hires (r.shown hires) := by
  have size := enlarged_size valid hires
  have positive := (validate_eq_ok_iff.mp valid).1
  obtain ⟨width, height, frames, picture⟩ := shown_fields hires r
  have resolution : (r.shown hires).maskResolution = r.maskResolution := by rw [shown_eq]
  refine ⟨width ▸ size.1, height ▸ size.2, fun b found => ?_, fun b found => ?_,
    fun b found kind squares => ?_, fun none kind => ?_, fun once => ?_, fun twice => ?_, ?_,
    shown_eq hires r⟩
  · rw [width, height]
    exact enlarged_background valid hires b (picture ▸ found)
  · have suited := suited_mask_shown valid found .walkBehind
    rwa [AreaKind.side, UInt32.div_one, UInt32.div_one] at suited
  · have suited := suited_mask_shown valid found kind
    have low : kind.side r.maskResolution.toUInt32 = r.maskResolution.toUInt32 := by
      cases kind with
      | walkBehind => exact absurd rfl squares
      | none | hotspot | walkArea | region => rfl
    have side : r.maskResolution.toUInt32.toNat = r.maskResolution.toInt.toNat := by
      apply Int32.toNat_toUInt32_of_le
      rw [Int32.le_iff_toInt_le] at positive ⊢
      exact Int.le_trans (by decide) positive
    rwa [low, UInt32.toNat_div, UInt32.toNat_div, side, ← resolution] at suited
  · rw [picture] at none
    have kept : (r.enlarged hires).fitMask kind = id := by
      funext a
      rw [fitMask, none, id]
    rw [mask_shown, kept, Option.map_id, id]
  · rw [frames, enlarged, once]
    rfl
  · rw [frames, width, height, enlarged, if_pos twice]
    exact doubled_frames valid
  · rw [shown]
    simp

end Adventure.Room
