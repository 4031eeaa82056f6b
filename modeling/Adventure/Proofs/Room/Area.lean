import Adventure.Proofs.Bitmap
import Adventure.Proofs.Capped
import Adventure.Proofs.Except
import Adventure.Proofs.InPlace
import Adventure.Room.Area

/-! # Sizes of rooms, masks and backgrounds

A mask has one pixel for a square of room pixels. When a room is doubled, its masks are made anew
for the larger background, and each point of the doubled room has to lie in the same areas as the
point of the room that it came from.

* `validate_eq_ok_iff` — what `validate` demands.
* `fixed`, `fixMasks_cases` — the room with its masks fitted, which only a size that no buffer can
  hold keeps from being made.
* `upscale_eq_doubled` — rooms that meet the demands are doubled.
* `upscale_keeps_areas` — doubling moves no area and no picture.
-/

namespace Adventure.Room

variable {r s : Room} {b : Bitmap} {w h m x y : UInt32}

/-! ## Demands -/

theorem validate_eq_ok_iff : r.validate = .ok () ↔
    1 ≤ r.maskResolution ∧ r.objects.length ≤ maxObjects ∧ (0 < r.width ∧ 0 < r.height) ∧
      (r.width.toInt ≤ maxSide ∧ r.height.toInt ≤ maxSide) ∧
      ∀ b, r.primaryBackground = some b →
        (b.width.toNat : Int) = r.width.toInt ∧ (b.height.toNat : Int) = r.height.toInt := by
  unfold validate
  refine demand_eq_ok.trans <| and_congr_right fun _ => ?_
  refine demand_eq_ok.trans <| and_congr_right fun _ => ?_
  refine demand_eq_ok.trans <| and_congr_right fun _ => ?_
  refine demand_eq_ok.trans <| and_congr_right fun _ => ?_
  cases r.primaryBackground with
  | none => exact ⟨fun _ => nofun, fun _ => rfl⟩
  | some b =>
    refine lastDemand_eq_ok.trans ⟨fun same b' found => ?_, fun same => same b rfl⟩
    obtain rfl := Option.some.inj found
    exact same

/-- No demand takes a number that does not fit its bits. -/
theorem isOverflow_of_validate {fault : Fault} (refused : r.validate = .error fault) :
    fault.isOverflow = false := by
  unfold validate at refused
  rcases demand_eq_error refused with rfl | refused
  · rfl
  rcases demand_eq_error refused with rfl | refused
  · rfl
  rcases demand_eq_error refused with rfl | refused
  · rfl
  rcases demand_eq_error refused with rfl | refused
  · rfl
  split at refused
  · split at refused
    · cases refused
    · obtain rfl := Except.error.inj refused
      rfl
  · cases refused

/-! ## Masks -/

/-- The side of the square of room pixels that a pixel of a mask stands for. -/
def AreaKind.side (resolution : UInt32) : AreaKind → UInt32
  | .walkBehind => 1
  | _ => resolution

/-- The room with each mask changed by `f`. -/
def mapMasks (r : Room) (f : AreaKind → Bitmap → Bitmap) : Room :=
  { r with
    hotspotMask := r.hotspotMask.map (f .hotspot)
    regionMask := r.regionMask.map (f .region)
    walkAreaMask := r.walkAreaMask.map (f .walkArea)
    walkBehindMask := r.walkBehindMask.map (f .walkBehind) }

/-- What becomes of a mask that is fitted to the background. -/
def fitMask (r : Room) (kind : AreaKind) (a : Bitmap) : Bitmap :=
  match r.primaryBackground with
  | some b =>
    if 1 ≤ r.maskResolution then
      let side := kind.side r.maskResolution.toUInt32
      a.fit (b.width / side) (b.height / side)
    else a
  | none => a

/-- The room with its masks fitted to its background. -/
def fixed (r : Room) : Room := r.mapMasks r.fitMask

theorem fitMask_eq_fit (background : r.primaryBackground = some b)
    (positive : 1 ≤ r.maskResolution) (kind : AreaKind) : r.fitMask kind = fun a =>
      a.fit (b.width / kind.side r.maskResolution.toUInt32)
        (b.height / kind.side r.maskResolution.toUInt32) := by
  funext a
  rw [fitMask, background]
  exact if_pos positive

theorem mask_mapMasks (r : Room) (f : AreaKind → Bitmap → Bitmap) (kind : AreaKind) :
    (r.mapMasks f).mask kind = (r.mask kind).map (f kind) := by
  cases kind <;> rfl

theorem mask_fixed (background : r.primaryBackground = some b)
    (positive : 1 ≤ r.maskResolution) (kind : AreaKind) :
    r.fixed.mask kind = (r.mask kind).map fun a =>
      a.fit (b.width / kind.side r.maskResolution.toUInt32)
        (b.height / kind.side r.maskResolution.toUInt32) := by
  rw [fixed, mask_mapMasks, fitMask_eq_fit background positive]

/-- Without a background, or a side to the squares, nothing is fitted. -/
theorem fixed_eq_self (kept : ∀ kind, r.fitMask kind = id) : r.fixed = r := by
  simp [fixed, mapMasks, kept]

theorem fixed_eq_fit (background : r.primaryBackground = some b)
    (positive : 1 ≤ r.maskResolution) :
    let side := r.maskResolution.toUInt32
    r.fixed = { r with
      walkBehindMask := r.walkBehindMask.map (·.fit b.width b.height)
      walkAreaMask := r.walkAreaMask.map (·.fit (b.width / side) (b.height / side))
      hotspotMask := r.hotspotMask.map (·.fit (b.width / side) (b.height / side))
      regionMask := r.regionMask.map (·.fit (b.width / side) (b.height / side)) } := by
  simp [fixed, mapMasks, AreaKind.side, fitMask_eq_fit background positive]

/-! ## Fitting -/

theorem toNat_div_le {side m : UInt32} {limit : Nat} (short : side.toNat ≤ limit) :
    (side / m).toNat ≤ limit := by
  rw [UInt32.toNat_div]
  exact Nat.le_trans (Nat.div_le_self ..) short

section FitBitmap

variable {width height : UInt32} {o o' : Option Bitmap}

theorem fitBitmap_cases (width height : UInt32) (o : Option Bitmap) :
    fitBitmap width height o = .ok (o.map (·.fit width height)) ∨
      fitBitmap width height o = .error (.badBitmap .overflow) := by
  cases o with
  | none => exact .inl rfl
  | some b =>
    rcases Bitmap.fitted_cases b width height with made | large
    · rw [fitBitmap, made]
      exact .inl rfl
    · rw [fitBitmap, large]
      exact .inr rfl

theorem fitBitmap_eq_ok (wide : width.toNat ≤ 16384) (high : height.toNat ≤ 16384) :
    fitBitmap width height o = .ok (o.map (·.fit width height)) := by
  cases o with
  | none => rfl
  | some b =>
    rw [fitBitmap, Bitmap.fitted_eq_fit (Bitmap.byteCount_le_maxBytes wide high b)]
    rfl

/-- What has been fitted once fits. -/
theorem fitBitmap_again (made : fitBitmap width height o = .ok o') :
    fitBitmap width height o' = .ok o' := by
  cases o with
  | none =>
    obtain rfl := Except.ok.inj made
    rfl
  | some b =>
    obtain ⟨c, fitted, rfl⟩ := except_map_eq_ok.mp (except_mapError_eq_ok.mp made)
    rw [fitBitmap, Bitmap.fitted_fitted fitted]
    rfl

end FitBitmap

/-- Either all masks can be fitted, or one of them cannot be. -/
theorem fixMasks_cases (r : Room) :
    r.fixMasks = .ok r.fixed ∨ r.fixMasks = .error (.badBitmap .overflow) := by
  unfold fixMasks
  cases background : r.primaryBackground with
  | none =>
    have kept (kind : AreaKind) : r.fitMask kind = id := by
      funext a
      rw [fitMask, background, id]
    exact .inl (congrArg Except.ok (fixed_eq_self kept).symm)
  | some b =>
    dsimp only
    by_cases positive : 1 ≤ r.maskResolution
    · have same := fixed_eq_fit background positive
      rw [if_pos positive, same]
      -- the masks are fitted one after the other, up to the first that is too large
      exact except_bind_cases (fitBitmap_cases ..) <| except_bind_cases (fitBitmap_cases ..) <|
        except_bind_cases (fitBitmap_cases ..) <| except_bind_cases (fitBitmap_cases ..) <| .inl rfl
    · have kept (kind : AreaKind) : r.fitMask kind = id := by
        funext a
        rw [fitMask, background]
        exact if_neg positive
      rw [if_neg positive, fixed_eq_self kept]
      exact .inl rfl

theorem fixMasks_eq_ok_fixed (small : ∀ b, r.primaryBackground = some b →
    b.width.toNat ≤ 16384 ∧ b.height.toNat ≤ 16384) : r.fixMasks = .ok r.fixed := by
  rcases fixMasks_cases r with fitted | large
  · exact fitted
  · unfold fixMasks at large
    cases background : r.primaryBackground with
    | none =>
      rw [background] at large
      cases large
    | some b =>
      rw [background] at large
      dsimp only at large
      obtain ⟨wide, high⟩ := small b background
      have low (o : Option Bitmap) := fitBitmap_eq_ok (o := o)
        (toNat_div_le (m := r.maskResolution.toUInt32) wide)
        (toNat_div_le (m := r.maskResolution.toUInt32) high)
      rw [fitBitmap_eq_ok wide high, low, low, low] at large
      split at large <;> cases large

/-- Masks that have been fitted stay as they are. -/
theorem fixMasks_again (fitted : r.fixMasks = .ok s) (upscaled : Bool) :
    ({ s with upscaled } : Room).fixMasks = .ok { s with upscaled } := by
  unfold fixMasks at fitted
  cases background : r.primaryBackground with
  | none =>
    rw [background] at fitted
    obtain rfl := Except.ok.inj fitted
    have same : ({ r with upscaled } : Room).primaryBackground = none := background
    rw [fixMasks, same]
  | some b =>
    rw [background] at fitted
    dsimp only at fitted
    split at fitted
    · next positive =>
      obtain ⟨walkBehind, first, fitted⟩ := except_bind_eq_ok.mp fitted
      obtain ⟨walkArea, second, fitted⟩ := except_bind_eq_ok.mp fitted
      obtain ⟨hotspot, third, fitted⟩ := except_bind_eq_ok.mp fitted
      obtain ⟨region, fourth, fitted⟩ := except_bind_eq_ok.mp fitted
      obtain rfl := Except.ok.inj fitted
      have same : ({ r with
          walkBehindMask := walkBehind, walkAreaMask := walkArea, hotspotMask := hotspot,
          regionMask := region, upscaled } : Room).primaryBackground = some b := background
      rw [fixMasks, same]
      dsimp only
      rw [if_pos positive, fitBitmap_again first, fitBitmap_again second, fitBitmap_again third,
        fitBitmap_again fourth]
      rfl
    · next none =>
      obtain rfl := Except.ok.inj fitted
      have same : ({ r with upscaled } : Room).primaryBackground = some b := background
      rw [fixMasks, same]
      exact if_neg none

/-! ## Doubling -/

/-- Twice a side of a room, as a side of a bitmap. -/
def doubledSide (side : Int32) : UInt32 := UInt32.ofNat (2 * side.toInt).toNat

def Frame.doubled (width height : Int32) (f : Frame) : Frame :=
  { f with graphic := f.graphic.map (·.fit (doubledSide width) (doubledSide height)) }

/-- The room with backgrounds of twice its size, its masks still as they were. -/
def doubled (r : Room) : Room :=
  { r with
    width := Int32.ofInt (2 * r.width.toInt)
    height := Int32.ofInt (2 * r.height.toInt)
    frames := r.frames.map (Frame.doubled r.width r.height) }

/-- The doubled room as it is left. -/
def twice (r : Room) : Room := { r.doubled.fixed with upscaled := true }

/-- Whether a game of high resolution, or another, asks for the room at twice its size. -/
def Due (hires : Bool) (r : Room) : Prop :=
  hires = true ∧ r.density = .low ∧ r.upscaled = false

/-- The size that `upscale` accepts: it is not empty, and twice of it has fields of 32 bits. -/
structure Doublable (r : Room) : Prop where
  width : 0 < 2 * r.width.toInt ∧ fits (2 * r.width.toInt)
  height : 0 < 2 * r.height.toInt ∧ fits (2 * r.height.toInt)

theorem fitFrame_cases (width height : Int32) (f : Frame) :
    fitFrame (doubledSide width) (doubledSide height) f = .ok (f.doubled width height) ∨
      fitFrame (doubledSide width) (doubledSide height) f = .error (.badBitmap .overflow) :=
  except_bind_cases (fitBitmap_cases ..) (.inl rfl)

/-- All pictures and masks of the doubled room have their place in a buffer. -/
structure Holdable (r : Room) : Prop where
  pictures : r.frames.mapM (fitFrame (doubledSide r.width) (doubledSide r.height)) =
    .ok r.doubled.frames
  masks : r.doubled.fixMasks = .ok r.doubled.fixed

/-- A room that may be doubled is, or the program ends. -/
theorem enlargeInPlace_cases (r : Room) :
    let enlarging := enlargeInPlace (2 * r.width.toInt) (2 * r.height.toInt)
    r.Holdable ∧ enlarging.on r = (.ok (), r.twice) ∨
      ¬ r.Holdable ∧ ∃ s, enlarging.on r = (.error (.badBitmap .overflow), s) := by
  let sized : Room := { r with
    width := Int32.ofInt (2 * r.width.toInt), height := Int32.ofInt (2 * r.height.toInt) }
  let fit := fitFrame (doubledSide r.width) (doubledSide r.height)
  let pictures (r : Room) : Except Fault Room := do
    return { r with frames := ← r.frames.mapM fit }
  let others : InPlace Fault Room Unit := do
    InPlace.attempt fixMasks
    modify fun r => { r with upscaled := true }
  show (_ ∧ (InPlace.attempt pictures >>= fun _ => others).on sized = _) ∨
    _ ∧ ∃ s, (InPlace.attempt pictures >>= fun _ => others).on sized = _
  rcases Capped.mapM_cases (fitFrame_cases r.width r.height) r.frames with drawn | large
  · have pictured : pictures sized = .ok r.doubled := by
      show (r.frames.mapM fit >>= _) = _
      rw [drawn]
      rfl
    rw [InPlace.on_bind_ok (InPlace.on_attempt_ok pictured)]
    rcases fixMasks_cases r.doubled with fitted | large
    · exact .inl ⟨⟨drawn, fitted⟩, InPlace.on_bind_ok (InPlace.on_attempt_ok fitted)⟩
    · -- the pictures have their new size by now, and keep it
      refine .inr ⟨fun holdable => ?_, _, InPlace.on_bind_error (InPlace.on_attempt_error large)⟩
      cases large.symm.trans holdable.masks
  · have refused : pictures sized = .error (.badBitmap .overflow) := by
      show (r.frames.mapM fit >>= _) = _
      rw [large]
      rfl
    refine .inr ⟨fun holdable => ?_, _, InPlace.on_bind_error (InPlace.on_attempt_error refused)⟩
    cases large.symm.trans holdable.pictures

/-- All that a request to double a room can do: nothing; a refusal that changes nothing; the end of
the program; or the doubled room. What it does in place is what `upscale` answers. -/
theorem upscale_cases (r : Room) (hires : Bool) :
    (¬ r.Due hires ∧ r.upscale hires = .ok (r, false) ∧
      (upscaleInPlace hires).on r = (.ok false, r)) ∨
    r.Due hires ∧
      ((∃ fault, ¬ r.Doublable ∧ fault.isOverflow = false ∧ r.upscale hires = .error fault ∧
          (upscaleInPlace hires).on r = (.error fault, r)) ∨
        r.Doublable ∧
          ((¬ r.Holdable ∧ ∃ s, r.upscale hires = .error (.badBitmap .overflow) ∧
              (upscaleInPlace hires).on r = (.error (.badBitmap .overflow), s)) ∨
            r.Holdable ∧ r.upscale hires = .ok (r.twice, true) ∧
              (upscaleInPlace hires).on r = (.ok true, r.twice))) := by
  have inPlace : (upscaleInPlace hires).on r =
      (ite _ _ (ite _ _ (ite _ _ _)) : InPlace Fault Room Bool).on r := rfl
  unfold upscale InPlace.result
  rw [inPlace]
  -- nothing has been changed before the last of three tests is passed
  by_cases idle : (r.upscaled || !hires || r.density ≠ .low) = true
  · rw [if_pos idle]
    refine .inl ⟨?_, rfl, rfl⟩
    rintro ⟨rfl, low, fresh⟩
    simp [low, fresh] at idle
  · have due := idle
    simp only [Bool.or_eq_true, Bool.not_eq_true', decide_eq_true_eq, not_or, ne_eq,
      Decidable.not_not, Bool.not_eq_true, Bool.not_eq_false] at due
    rw [if_neg idle]
    refine .inr ⟨⟨due.1.2, due.2, due.1.1⟩, ?_⟩
    by_cases small : fits (2 * r.width.toInt) ∧ fits (2 * r.height.toInt)
    · rw [if_neg (not_not_intro small)]
      by_cases some : 0 < 2 * r.width.toInt ∧ 0 < 2 * r.height.toInt
      · rw [if_neg (not_not_intro some)]
        refine .inr ⟨⟨⟨some.1, small.1⟩, some.2, small.2⟩, ?_⟩
        rcases enlargeInPlace_cases r with ⟨holdable, enlarged⟩ | ⟨large, s, stopped⟩
        · rw [InPlace.on_bind_ok enlarged]
          exact .inr ⟨holdable, rfl, rfl⟩
        · rw [InPlace.on_bind_error stopped]
          exact .inl ⟨large, s, rfl, rfl⟩
      · rw [if_pos some]
        exact .inl ⟨_, fun doublable => some ⟨doublable.width.1, doublable.height.1⟩, rfl, rfl, rfl⟩
    · rw [if_pos small]
      exact .inl ⟨_, fun doublable => small ⟨doublable.width.2, doublable.height.2⟩, rfl, rfl, rfl⟩

/-- Sides of valid rooms are far from the limits of a 32 bit field. -/
theorem doublable_of_valid (valid : r.validate = .ok ()) : r.Doublable := by
  obtain ⟨-, -, ⟨wide, high⟩, ⟨notWider, notHigher⟩, -⟩ := validate_eq_ok_iff.mp valid
  have wide : 0 < r.width.toInt := Int32.lt_iff_toInt_lt.mp wide
  have high : 0 < r.height.toInt := Int32.lt_iff_toInt_lt.mp high
  unfold maxSide at notWider notHigher
  constructor
  · unfold fits
    omega
  · unfold fits
    omega

theorem doubledSide_le {side : Int32} (short : side.toInt ≤ maxSide) :
    (doubledSide side).toNat ≤ 16384 := by
  unfold maxSide at short
  have small : (2 * side.toInt).toNat ≤ 16384 := by omega
  rw [doubledSide, UInt32.toNat_ofNat_of_lt' (Nat.lt_of_le_of_lt small (by decide))]
  exact small

theorem map_primaryBackground (r : Room) : r.doubled.primaryBackground =
    r.primaryBackground.map (·.fit (doubledSide r.width) (doubledSide r.height)) := by
  unfold primaryBackground
  rw [doubled, Capped.map, List.head?_map]
  cases r.frames.toList.head? with
  | none => rfl
  | some f => rfl

theorem primaryBackground_doubled (background : r.primaryBackground = some b) :
    r.doubled.primaryBackground =
      some (b.fit (doubledSide r.width) (doubledSide r.height)) := by
  rw [map_primaryBackground, background]
  rfl

theorem toNat_doubledSide {side : UInt32} {length : Int32}
    (same : (side.toNat : Int) = length.toInt) (short : length.toInt ≤ maxSide) :
    (doubledSide length).toNat = 2 * side.toNat := by
  unfold maxSide at short
  have twice : (2 * length.toInt).toNat = 2 * side.toNat := by omega
  rw [doubledSide, twice]
  exact UInt32.toNat_ofNat_of_lt' (by change _ < 2 ^ 32; omega)

section Valid

variable (valid : r.validate = .ok ())
include valid

/-- A mask of twice the size of a valid room, with one pixel for a square of them, has its place in
a buffer. -/
theorem fitted_squares (b : Bitmap) (m : UInt32) :
    b.fitted (doubledSide r.width / m) (doubledSide r.height / m) =
      .ok (b.fit (doubledSide r.width / m) (doubledSide r.height / m)) := by
  obtain ⟨-, -, -, ⟨notWider, notHigher⟩, -⟩ := validate_eq_ok_iff.mp valid
  exact Bitmap.fitted_eq_fit <| Bitmap.byteCount_le_maxBytes
    (toNat_div_le (doubledSide_le notWider)) (toNat_div_le (doubledSide_le notHigher)) b

theorem fitted_doubled (b : Bitmap) : b.fitted (doubledSide r.width) (doubledSide r.height) =
    .ok (b.fit (doubledSide r.width) (doubledSide r.height)) := by
  have full := fitted_squares valid b 1
  rwa [UInt32.div_one, UInt32.div_one] at full

theorem holdable : r.Holdable := by
  obtain ⟨-, -, -, ⟨notWider, notHigher⟩, -⟩ := validate_eq_ok_iff.mp valid
  have wide := doubledSide_le notWider
  have high := doubledSide_le notHigher
  constructor
  · have drawn (f : Frame) : fitFrame (doubledSide r.width) (doubledSide r.height) f =
        .ok (f.doubled r.width r.height) := by
      rw [fitFrame, fitBitmap_eq_ok wide high]
      rfl
    exact Capped.mapM_eq_ok drawn r.frames
  · refine fixMasks_eq_ok_fixed fun b background => ?_
    rw [map_primaryBackground] at background
    obtain ⟨a, -, rfl⟩ := Option.map_eq_some_iff.mp background
    obtain ⟨sameWidth, sameHeight, -⟩ := Bitmap.sizes_fitted (fitted_doubled valid a)
    rw [sameWidth, sameHeight]
    exact ⟨wide, high⟩

theorem upscale_eq_twice {hires : Bool} (due : r.Due hires) :
    r.upscale hires = .ok (r.twice, true) := by
  rcases upscale_cases r hires with ⟨idle, -⟩ | ⟨-, ⟨fault, small, -⟩ | ⟨-, large | enlarged⟩⟩
  · exact absurd due idle
  · exact absurd (doublable_of_valid valid) small
  · exact absurd (holdable valid) large.1
  · exact enlarged.2.1

end Valid

/-- Rooms that meet the demands fit games of any resolution. -/
theorem exists_upscale (valid : r.validate = .ok ()) (hires : Bool) :
    ∃ result, r.upscale hires = .ok result := by
  rcases upscale_cases r hires with ⟨-, kept, -⟩ | ⟨due, -⟩
  · exact ⟨_, kept⟩
  · exact ⟨_, upscale_eq_twice valid due⟩

/-! ## What a doubled room shows -/

/-- Each pixel of `new` shows, for a square of `m` pixels of the doubled room, what `old` shows for
the square of the room that it came from. -/
def ShowsAlike (w h m : UInt32) (old new : Bitmap) : Prop :=
  ∀ x y : UInt32, x.toNat < 2 * w.toNat → y.toNat < 2 * h.toNat →
    ∃ value, new.pixel? (x / m) (y / m) = some value ∧
      old.pixel? (x / 2 / m) (y / 2 / m) = some value

/-- The masks of a room fit its background of `w` by `h` pixels: walk-behinds have its size, and the
other masks one pixel for each square of `m` pixels. -/
structure Aligned (r : Room) (w h m : UInt32) : Prop where
  background : ∃ b, r.primaryBackground = some b ∧ b.width = w ∧ b.height = h
  resolution : r.maskResolution.toInt = m.toNat
  divides : m.toNat ∣ w.toNat ∧ m.toNat ∣ h.toNat
  lowMasks : ∀ kind, kind ≠ .walkBehind → ∀ a, r.mask kind = some a →
    a.width = w / m ∧ a.height = h / m
  walkBehinds : ∀ a, r.walkBehindMask = some a → a.width = w ∧ a.height = h

theorem toUInt32_of_toInt {i : Int32} (same : i.toInt = m.toNat) : i.toUInt32 = m := by
  have nonneg : 0 ≤ i := by
    rw [Int32.le_iff_toInt_le, same]
    exact Int.natCast_nonneg m.toNat
  rw [← UInt32.toNat_inj, Int32.toNat_toUInt32_of_le nonneg]
  exact congrArg Int.toNat same

theorem uint32_div_div_comm (x m : UInt32) : x / m / 2 = x / 2 / m := by
  rw [← UInt32.toNat_inj]
  simp only [UInt32.toNat_div, Nat.div_div_eq_div_mul]
  rw [Nat.mul_comm]

/-- Squares of the doubled room and of the room correspond, since no square is cut by the border. -/
theorem showsAlike_fitted {a c : Bitmap} {width height : UInt32}
    (wide : width.toNat = 2 * w.toNat) (high : height.toNat = 2 * h.toNat)
    (divides : m.toNat ∣ w.toNat ∧ m.toNat ∣ h.toNat) (size : a.width = w / m ∧ a.height = h / m)
    (made : a.fitted (width / m) (height / m) = .ok c) : ShowsAlike w h m a c := by
  intro x y left above
  have twice {side half : UInt32} (double : side.toNat = 2 * half.toNat)
      (whole : m.toNat ∣ half.toNat) : (side / m).toNat = 2 * (half / m).toNat := by
    rw [UInt32.toNat_div, UInt32.toNat_div, double, Nat.mul_div_assoc 2 whole]
  have inside {i side half : UInt32} (double : side.toNat = 2 * half.toNat)
      (whole : m.toNat ∣ half.toNat) (within : i.toNat < 2 * half.toNat) : i / m < side / m := by
    rw [UInt32.lt_iff_toNat_lt, UInt32.toNat_div, UInt32.toNat_div, double]
    refine Nat.div_lt_of_lt_mul ?_
    rwa [Nat.mul_div_cancel' (Nat.dvd_mul_left_of_dvd whole 2)]
  have wider : (width / m).toNat = 2 * a.width.toNat := size.1 ▸ twice wide divides.1
  have higher : (height / m).toNat = 2 * a.height.toNat := size.2 ▸ twice high divides.2
  have shown := Bitmap.pixel?_fitted_double made wider higher (inside wide divides.1 left)
    (inside high divides.2 above)
  rwa [uint32_div_div_comm x m, uint32_div_div_comm y m] at shown

theorem showsAlike_fitted_full {a c : Bitmap} {width height : UInt32}
    (wide : width.toNat = 2 * w.toNat) (high : height.toNat = 2 * h.toNat)
    (size : a.width = w ∧ a.height = h) (made : a.fitted width height = .ok c) :
    ShowsAlike w h 1 a c := by
  have shown := showsAlike_fitted (m := 1) wide high ⟨Nat.one_dvd _, Nat.one_dvd _⟩
    (a := a) (c := c) (by simpa using size) (by simpa using made)
  simpa using shown

/-- Each point of a doubled room lies in the areas, and shows the pictures, of the point of the room
that it came from. -/
theorem upscale_keeps_areas (valid : r.validate = .ok ()) (low : r.density = .low)
    (fresh : r.upscaled = false) (aligned : r.Aligned w h m) :
    ∃ s, r.upscale true = .ok (s, true) ∧
      (∀ kind, kind ≠ .walkBehind → ∀ old, r.mask kind = some old →
        ∃ new, s.mask kind = some new ∧ ShowsAlike w h m old new) ∧
      (∀ old, r.walkBehindMask = some old →
        ∃ new, s.walkBehindMask = some new ∧ ShowsAlike w h 1 old new) ∧
      ∀ i f old, r.frames.get? i = some f → f.graphic = some old → old.width = w → old.height = h →
        ∃ f' new, s.frames.get? i = some f' ∧ f'.graphic = some new ∧ ShowsAlike w h 1 old new := by
  obtain ⟨positive, -, -, ⟨notWider, notHigher⟩, fits⟩ := validate_eq_ok_iff.mp valid
  obtain ⟨b, background, rfl, rfl⟩ := aligned.background
  have wide := toNat_doubledSide (fits b background).1 notWider
  have high := toNat_doubledSide (fits b background).2 notHigher
  have resolution : r.doubled.maskResolution.toUInt32 = m := toUInt32_of_toInt aligned.resolution
  obtain ⟨sameWidth, sameHeight, -⟩ := Bitmap.sizes_fitted (fitted_doubled valid b)
  have masks (kind : AreaKind) {old : Bitmap} (found : r.mask kind = some old) :
      r.twice.mask kind = some (old.fit (doubledSide r.width / kind.side m)
        (doubledSide r.height / kind.side m)) := by
    have same : r.twice.mask kind = r.doubled.fixed.mask kind := by cases kind <;> rfl
    have kept : r.doubled.mask kind = r.mask kind := by cases kind <;> rfl
    rw [same, mask_fixed (primaryBackground_doubled background) positive, kept, found, sameWidth,
      sameHeight, resolution]
    rfl
  refine ⟨_, upscale_eq_twice valid ⟨rfl, low, fresh⟩, fun kind squares old found => ?_,
    fun old found => ?_, fun i f old found graphic width height => ?_⟩
  · have side : kind.side m = m := by
      cases kind with
      | walkBehind => exact absurd rfl squares
      | none | hotspot | walkArea | region => rfl
    have size := aligned.lowMasks kind squares old found
    exact ⟨_, side ▸ masks kind found,
      showsAlike_fitted wide high aligned.divides size (fitted_squares valid old m)⟩
  · have shown := masks .walkBehind found
    simp only [AreaKind.side, UInt32.div_one] at shown
    exact ⟨_, shown, showsAlike_fitted_full wide high (aligned.walkBehinds old found)
      (fitted_doubled valid old)⟩
  · refine ⟨f.doubled r.width r.height, _, ?_, ?_,
      showsAlike_fitted_full wide high ⟨width, height⟩ (fitted_doubled valid old)⟩
    · refine (List.getElem?_map ..).trans ?_
      exact congrArg (Option.map (Frame.doubled r.width r.height)) found
    · rw [Frame.doubled, graphic]
      rfl

/-- A room of four by two pixels with one mask pixel for four of them. -/
def porch : Room :=
  let picture : Bitmap := .ofBytes 4 2 #[1, 2, 3, 4, 5, 6, 7, 8] (by decide)
  let hotspots : Bitmap := .ofBytes 2 1 #[0, 7] (by decide)
  { width := 4
    height := 2
    maskResolution := 2
    frames := ⟨[{ graphic := some picture }], by decide⟩
    hotspotMask := some hotspots
    walkBehindMask := some picture
    density := .low }

theorem porch_aligned : porch.Aligned 4 2 2 where
  background := ⟨_, rfl, rfl, rfl⟩
  resolution := rfl
  divides := by decide
  lowMasks kind squares a found := by
    cases kind with
    | hotspot =>
      obtain rfl := Option.some.inj found
      exact ⟨rfl, rfl⟩
    | walkBehind => exact absurd rfl squares
    | none | walkArea | region => cases found
  walkBehinds a found := by
    obtain rfl := Option.some.inj found
    exact ⟨rfl, rfl⟩

theorem porch_keeps_areas : ∃ s, porch.upscale true = .ok (s, true) ∧
    (∀ kind, kind ≠ .walkBehind → ∀ old, porch.mask kind = some old →
      ∃ new, s.mask kind = some new ∧ ShowsAlike 4 2 2 old new) ∧
    (∀ old, porch.walkBehindMask = some old →
      ∃ new, s.walkBehindMask = some new ∧ ShowsAlike 4 2 1 old new) ∧
    ∀ i f old, porch.frames.get? i = some f → f.graphic = some old → old.width = 4 →
      old.height = 2 →
      ∃ f' new, s.frames.get? i = some f' ∧ f'.graphic = some new ∧ ShowsAlike 4 2 1 old new :=
  upscale_keeps_areas rfl rfl rfl porch_aligned

end Adventure.Room
