import Adventure.Proofs.Bitmap.Resample
import Adventure.Proofs.Except

/-! # Bitmaps as grids

Seen from outside a bitmap is a picture: a size, and a number at each place within it. Whatever is
drawn on it, the picture changes as the drawing says, and the bytes say nothing more than the
picture.

* `getD_storeAt`, `valueAt_of_bytes` — the bytes that a value is stored in, and what they stand for.
* `Stroke`, `draw` — what can be drawn.
* `Picture`, `Picture.draw` — a bitmap without its bytes, and drawing on it.
* `picture_draw` — one stroke on the bytes is one stroke on the picture.
* `grid_strokes` — all strokes, one after the other.
-/

namespace Adventure.Bitmap

variable {b after : Bitmap} {width height x y i j value : UInt32}

/-! ## Stored values -/

theorem getD_storeAt (pixels : Array UInt8) (start : Nat) (value : UInt32) (count k : Nat)
    (fits : start + count ≤ pixels.size) : (storeAt pixels start value count).getD k 0 =
      if start ≤ k ∧ k < start + count then byteOf value (k - start) else pixels.getD k 0 := by
  induction count with
  | zero =>
    rw [if_neg (by omega)]
    rfl
  | succ n hyp =>
    have size := size_storeAt pixels start value n
    have step : storeAt pixels start value (n + 1) =
      (storeAt pixels start value n).setIfInBounds (start + n) (byteOf value n) := Nat.fold_succ ..
    rw [step, Array.getD_eq_getD_getElem?, Array.getElem?_setIfInBounds]
    by_cases last : start + n = k
    · subst last
      rw [if_pos rfl, if_pos (by omega), if_pos (by omega), Nat.add_sub_cancel_left]
      rfl
    · rw [if_neg last, ← Array.getD_eq_getD_getElem?, hyp (by omega)]
      -- all other bytes are before the last one or were not to be stored at all
      by_cases early : start ≤ k ∧ k < start + n
      · rw [if_pos early, if_pos (by omega)]
      · rw [if_neg early, if_neg (by omega)]

/-- Bytes that are those of a number, the lowest first, stand for it as far as they go. -/
theorem valueAt_of_bytes {pixels : Array UInt8} {start count n : Nat}
    (bytes : ∀ k < count, pixels.getD (start + k) 0 = UInt8.ofNat (n / 256 ^ k)) :
    valueAt pixels start count = n % 256 ^ count := by
  induction count generalizing start n with
  | zero => rw [Nat.pow_zero, Nat.mod_one, valueAt]
  | succ count hyp =>
    have head : (pixels.getD start 0).toNat = n % 256 := by
      have first := bytes 0 (Nat.succ_pos count)
      rw [Nat.pow_zero, Nat.div_one, Nat.add_zero] at first
      rw [first]
      exact UInt8.toNat_ofNat
    have tail : valueAt pixels (start + 1) count = n / 256 % 256 ^ count := by
      refine hyp fun k within => ?_
      have next := bytes (k + 1) (Nat.succ_lt_succ within)
      rw [Nat.pow_succ', ← Nat.div_div_eq_div_mul] at next
      rwa [Nat.add_assoc, Nat.add_comm 1]
    rw [valueAt, head, tail, Nat.pow_succ', Nat.mod_mul]

/-- What bytes stand for tells the bytes. -/
theorem getD_of_valueAt {first second : Array UInt8} {start offset count : Nat}
    (same : valueAt first start count = valueAt second offset count) :
    ∀ k < count, first.getD (start + k) 0 = second.getD (offset + k) 0 := by
  induction count generalizing start offset with
  | zero => exact fun k none => absurd none (Nat.not_lt_zero k)
  | succ count hyp =>
    have low := (first.getD start 0).toNat_lt
    have low' := (second.getD offset 0).toNat_lt
    rw [valueAt, valueAt] at same
    intro k within
    cases k with
    | zero =>
      apply UInt8.toNat_inj.mp
      rw [Nat.add_zero, Nat.add_zero]
      omega
    | succ k =>
      have rest : first.getD (start + 1 + k) 0 = second.getD (offset + 1 + k) 0 :=
        hyp (by omega) k (by omega)
      rwa [Nat.add_assoc, Nat.add_comm 1, Nat.add_assoc, Nat.add_comm 1] at rest

/-! ## Pixels -/

theorem offset?_of_lt (left : x < b.width) (above : y < b.height) :
    b.offset? x y = some ((y.toNat * b.width.toNat + x.toNat) * b.depth.toNat) :=
  if_pos ⟨left, above⟩

theorem pixel?_eq_none (outside : ¬ (x < b.width ∧ y < b.height)) : b.pixel? x y = none := by
  rw [pixel?, offset?, if_neg outside]
  rfl

theorem pixel?_isSome_iff : (b.pixel? x y).isSome ↔ x < b.width ∧ y < b.height := by
  unfold pixel? offset?
  split <;> simp [*]

theorem put?_eq_none (outside : ¬ (x < b.width ∧ y < b.height)) (value : UInt32) :
    b.put? x y value = none := by
  rw [put?, offset?, if_neg outside]
  rfl

theorem exists_put? (left : x < b.width) (above : y < b.height) (value : UInt32) :
    ∃ after, b.put? x y value = some after := by
  rw [put?, offset?_of_lt left above]
  exact ⟨_, rfl⟩

/-- The bytes of a pixel are within the buffer. -/
theorem position_le (left : x < b.width) (above : y < b.height) :
    (y.toNat * b.width.toNat + x.toNat) * b.depth.toNat + b.depth.toNat ≤ b.pixels.size := by
  have last : b.depth.toNat - 1 < b.depth.toNat := by
    have deep := b.one_le_depth
    omega
  rw [UInt32.lt_iff_toNat_lt] at left above
  have inside := position_lt left above last
  rw [b.size_pixels]
  omega

/-- Different pixels have different bytes. -/
theorem position_inj {w d row row' column column' k k' : Nat} (left : column < w)
    (left' : column' < w) (byte : k < d) (byte' : k' < d)
    (same : (row * w + column) * d + k = (row' * w + column') * d + k') :
    row = row' ∧ column = column' := by
  obtain ⟨pixel, -⟩ := div_mod_block (row * w + column) byte
  obtain ⟨pixel', -⟩ := div_mod_block (row' * w + column') byte'
  obtain ⟨line, rest⟩ := div_mod_block row left
  obtain ⟨line', rest'⟩ := div_mod_block row' left'
  rw [same, pixel'] at pixel
  rw [← pixel] at line rest
  exact ⟨line.symm.trans line', rest.symm.trans rest'⟩

theorem sizes_put? (put : b.put? x y value = some after) :
    after.width = b.width ∧ after.height = b.height ∧ after.depth = b.depth := by
  obtain ⟨start, -, rfl⟩ := Option.map_eq_some_iff.mp put
  exact ⟨rfl, rfl, rfl⟩

theorem inside_of_put? (put : b.put? x y value = some after) : x < b.width ∧ y < b.height := by
  obtain ⟨start, there, -⟩ := Option.map_eq_some_iff.mp put
  unfold offset? at there
  split at there
  · assumption
  · cases there

theorem getD_put? (put : b.put? x y value = some after) (k : Nat) : after.pixels.getD k 0 =
    let start := (y.toNat * b.width.toNat + x.toNat) * b.depth.toNat
    if start ≤ k ∧ k < start + b.depth.toNat then byteOf value (k - start)
    else b.pixels.getD k 0 := by
  obtain ⟨left, above⟩ := inside_of_put? put
  rw [put?, offset?_of_lt left above] at put
  obtain rfl := Option.some.inj put
  exact getD_storeAt _ _ _ _ _ (position_le left above)

theorem pow_bytes (n : Nat) : 256 ^ n = 2 ^ (8 * n) := (Nat.pow_mul 2 8 n).symm

theorem pixel?_put? (put : b.put? x y value = some after) (i j : UInt32) : after.pixel? i j =
    if i = x ∧ j = y then some (value.toNat % 2 ^ (8 * b.depth.toNat)) else b.pixel? i j := by
  obtain ⟨width, height, depth⟩ := sizes_put? put
  have inside := inside_of_put? put
  have bytes := getD_put? put
  by_cases within : i < b.width ∧ j < b.height
  · rw [pixel?_of_lt (width ▸ within.1) (height ▸ within.2), pixel?_of_lt within.1 within.2, width,
      depth]
    split
    · next here =>
      obtain ⟨rfl, rfl⟩ := here
      rw [← pow_bytes]
      refine congrArg some (valueAt_of_bytes fun k byte => ?_)
      rw [bytes, if_pos ⟨Nat.le_add_right _ _, Nat.add_lt_add_left byte _⟩, Nat.add_sub_cancel_left]
      rfl
    · next apart =>
      refine congrArg some (valueAt_congr fun k byte => ?_)
      rw [bytes, if_neg]
      -- a byte that both pixels have would make them one
      rintro ⟨low, high⟩
      obtain ⟨k', same⟩ := Nat.exists_eq_add_of_le low
      obtain ⟨row, column⟩ := position_inj (UInt32.lt_iff_toNat_lt.mp within.1)
        (UInt32.lt_iff_toNat_lt.mp inside.1) byte (by omega) same
      exact apart ⟨UInt32.toNat_inj.mp column, UInt32.toNat_inj.mp row⟩
  · rw [pixel?_eq_none (width ▸ height ▸ within), pixel?_eq_none within, if_neg]
    rintro ⟨rfl, rfl⟩
    exact within inside

theorem getD_fill {k : Nat} (within : k < b.width.toNat * b.height.toNat * b.depth.toNat) :
    (b.fill value).pixels.getD k 0 = byteOf value (k % b.depth.toNat) := by
  simp [fill, byteCount, Array.getD_eq_getD_getElem?, within]

theorem pixel?_fill (left : x < b.width) (above : y < b.height) (value : UInt32) :
    (b.fill value).pixel? x y = some (value.toNat % 2 ^ (8 * b.depth.toNat)) := by
  rw [pixel?_of_lt (b := b.fill value) left above, ← pow_bytes]
  rw [UInt32.lt_iff_toNat_lt] at left above
  refine congrArg some (valueAt_of_bytes fun k byte => ?_)
  have inPixel : k < b.depth.toNat := byte
  refine (getD_fill (position_lt left above inPixel)).trans ?_
  rw [(div_mod_block _ inPixel).2]
  rfl

theorem pixel?_blank {depth : UInt8} (made : blank width height depth = .ok b) (left : x < width)
    (above : y < height) : b.pixel? x y = some 0 := by
  obtain ⟨⟨rfl, rfl, -⟩, zero⟩ := blank_eq_ok made
  rw [pixel?_of_lt left above]
  refine congrArg some ((valueAt_of_bytes fun k _ => ?_).trans (Nat.zero_mod _))
  rw [zero, Nat.zero_div]
  rfl

/-! ## Pictures -/

/-- A bitmap without its bytes: a size, and a number at each place within it. -/
@[ext]
structure Picture where
  width : UInt32
  height : UInt32
  depth : UInt8
  value? : UInt32 → UInt32 → Option Nat

def picture (b : Bitmap) : Picture := ⟨b.width, b.height, b.depth, b.pixel?⟩

/-- A picture says all that there is to say about a bitmap. -/
theorem picture_injective {c : Bitmap} (same : b.picture = c.picture) : b = c := by
  obtain ⟨width, height, depth, values⟩ := Picture.mk.inj same
  refine ext_getD width height depth fun i within => ?_
  obtain ⟨row, above, column, left, byte, inPixel, rfl⟩ := exists_position within
  have column_eq : (UInt32.ofNat column).toNat = column :=
    UInt32.toNat_ofNat_of_lt' (Nat.lt_trans left c.width.toNat_lt)
  have row_eq : (UInt32.ofNat row).toNat = row :=
    UInt32.toNat_ofNat_of_lt' (Nat.lt_trans above c.height.toNat_lt)
  have left' : UInt32.ofNat column < c.width := by rwa [UInt32.lt_iff_toNat_lt, column_eq]
  have above' : UInt32.ofNat row < c.height := by rwa [UInt32.lt_iff_toNat_lt, row_eq]
  have value := congrFun (congrFun values (UInt32.ofNat column)) (UInt32.ofNat row)
  rw [pixel?_of_lt (width ▸ left') (height ▸ above'), pixel?_of_lt left' above', width, depth,
    column_eq, row_eq] at value
  exact getD_of_valueAt (Option.some.inj value) byte inPixel

/-! ## Drawing -/

/-- What can be drawn on a bitmap, or made of it. -/
inductive Stroke where
  | put (x y value : UInt32)
  | fill (value : UInt32)
  | resize (width height : UInt32)

/-- The bitmap after a stroke. What is put outside of it changes nothing. -/
def draw (b : Bitmap) : Stroke → Except Fault Bitmap
  | .put x y value => .ok ((b.put? x y value).getD b)
  | .fill value => .ok (b.fill value)
  | .resize width height => b.resized width height

namespace Picture

/-- What a pixel becomes that is given `value`. -/
def kept (p : Picture) (value : UInt32) : Nat := value.toNat % 2 ^ (8 * p.depth.toNat)

/-- The picture with a pixel changed, if it has that pixel. -/
def put (p : Picture) (x y value : UInt32) : Picture :=
  { p with value? := fun i j =>
      if i = x ∧ j = y ∧ x < p.width ∧ y < p.height then some (p.kept value) else p.value? i j }

/-- The picture with all pixels changed. -/
def fill (p : Picture) (value : UInt32) : Picture :=
  { p with value? := fun i j =>
      if i < p.width ∧ j < p.height then some (p.kept value) else none }

/-- The picture of another size. What was empty is black. -/
def resized (p : Picture) (width height : UInt32) : Picture :=
  { p with
    width, height
    value? := fun i j =>
      if i < width ∧ j < height then
        if p.width = 0 ∨ p.height = 0 then some 0
        else p.value? (source p.width width i) (source p.height height j)
      else none }

/-- The picture after a stroke. Only a size that no buffer can hold has none. -/
def draw (p : Picture) : Stroke → Except Fault Picture
  | .put x y value => .ok (p.put x y value)
  | .fill value => .ok (p.fill value)
  | .resize width height =>
    if byteCount width height p.depth ≤ maxBytes then .ok (p.resized width height)
    else .error .overflow

end Picture

theorem picture_put (b : Bitmap) (x y value : UInt32) :
    ((b.put? x y value).getD b).picture = b.picture.put x y value := by
  cases drawn : b.put? x y value with
  | none =>
    have outside : ¬ (x < b.width ∧ y < b.height) := by
      rintro ⟨left, above⟩
      obtain ⟨after, put⟩ := exists_put? left above value
      rw [drawn] at put
      cases put
    refine Picture.ext rfl rfl rfl (funext fun i => funext fun j => (if_neg ?_).symm)
    exact fun inside => outside inside.2.2
  | some after =>
    obtain ⟨width, height, depth⟩ := sizes_put? drawn
    refine Picture.ext width height depth (funext fun i => funext fun j => ?_)
    refine (pixel?_put? drawn i j).trans ?_
    simp only [Picture.put, picture, inside_of_put? drawn, and_self, and_true]
    rfl

theorem picture_fill (b : Bitmap) (value : UInt32) :
    (b.fill value).picture = b.picture.fill value := by
  refine Picture.ext rfl rfl rfl (funext fun i => funext fun j => ?_)
  show (b.fill value).pixel? i j = if i < b.width ∧ j < b.height then _ else _
  split
  · next inside => exact pixel?_fill inside.1 inside.2 value
  · next outside => exact pixel?_eq_none (b := b.fill value) outside

theorem picture_resized (made : b.resized width height = .ok after) :
    after.picture = b.picture.resized width height := by
  obtain ⟨sameWidth, sameHeight, depth⟩ := sizes_resized made
  refine Picture.ext sameWidth sameHeight depth (funext fun i => funext fun j => ?_)
  show after.pixel? i j =
    if i < width ∧ j < height then if b.width = 0 ∨ b.height = 0 then _ else _ else _
  split
  · next inside =>
    split
    · next empty =>
      rw [resized_empty (or_assoc.mp (.inl empty))] at made
      exact pixel?_blank made inside.1 inside.2
    · next some =>
      rw [not_or, ← ne_eq, ← ne_eq, ← UInt32.pos_iff_ne_zero, ← UInt32.pos_iff_ne_zero] at some
      exact pixel?_resized made some.1 some.2 inside.1 inside.2
  · next outside => exact pixel?_eq_none (sameWidth ▸ sameHeight ▸ outside)

/-- One stroke on the bytes is one stroke on the picture. -/
theorem picture_draw (b : Bitmap) (s : Stroke) : (b.draw s).map picture = b.picture.draw s := by
  cases s with
  | put x y value => exact congrArg Except.ok (picture_put b x y value)
  | fill value => exact congrArg Except.ok (picture_fill b value)
  | resize width height =>
    show (b.resized width height).map picture =
      if byteCount width height b.depth ≤ maxBytes then _ else _
    split
    · next fits =>
      obtain ⟨after, made⟩ := exists_resized_iff.mpr fits
      rw [made]
      exact congrArg Except.ok (picture_resized made)
    · next large =>
      rw [resized_eq_overflow (Nat.lt_of_not_le large)]
      rfl

theorem picture_strokes (b : Bitmap) (strokes : List Stroke) :
    (strokes.foldlM draw b).map picture = strokes.foldlM Picture.draw b.picture := by
  induction strokes generalizing b with
  | nil => rfl
  | cons s rest hyp =>
    rw [List.foldlM_cons, List.foldlM_cons, ← picture_draw]
    cases b.draw s with
    | error fault => rfl
    | ok after => exact hyp after

/-! ## All promises -/

theorem depth_draw {s : Stroke} (drawn : b.draw s = .ok after) : after.depth = b.depth := by
  cases s with
  | put x y value =>
    obtain rfl := Except.ok.inj drawn
    exact congrArg Picture.depth (picture_put b x y value)
  | fill value =>
    obtain rfl := Except.ok.inj drawn
    rfl
  | resize width height => exact (sizes_resized drawn).2.2

/-- What makes a bitmap a grid of pixels that take numbers of `depth` bytes. -/
structure Grid (b : Bitmap) : Prop where
  /-- It is the bitmap of its bytes, and these are as many as the pixels have. -/
  made : ofPixels b.width b.height b.depth b.pixels = .ok b
  bytes : b.pixels.size = b.width.toNat * b.height.toNat * b.depth.toNat ∧
    1 ≤ b.depth.toNat ∧ b.depth.toNat ≤ 4
  inside : ∀ x y, (b.pixel? x y).isSome ↔ x < b.width ∧ y < b.height
  put : ∀ x y value, x < b.width → y < b.height → ∃ after, b.put? x y value = some after ∧
    (after.width = b.width ∧ after.height = b.height ∧ after.depth = b.depth) ∧
      ∀ i j, after.pixel? i j =
        if i = x ∧ j = y then some (value.toNat % 2 ^ (8 * b.depth.toNat)) else b.pixel? i j
  outside : ∀ x y value, ¬ (x < b.width ∧ y < b.height) →
    b.put? x y value = none ∧ b.draw (.put x y value) = .ok b
  fill : ∀ value, ((b.fill value).width = b.width ∧ (b.fill value).height = b.height ∧
      (b.fill value).depth = b.depth) ∧
    ∀ x y, x < b.width → y < b.height →
      (b.fill value).pixel? x y = some (value.toNat % 2 ^ (8 * b.depth.toNat))

theorem grid (b : Bitmap) : b.Grid where
  made := ofPixels_self b
  bytes := ⟨b.size_pixels, b.one_le_depth, b.depth_le_four⟩
  inside _ _ := pixel?_isSome_iff
  put x y value left above := by
    obtain ⟨after, put⟩ := exists_put? left above value
    exact ⟨after, put, sizes_put? put, pixel?_put? put⟩
  outside x y value beyond := by
    have none := put?_eq_none beyond value
    exact ⟨none, by rw [draw, none, Option.getD_none]⟩
  fill value := ⟨⟨rfl, rfl, rfl⟩, fun _ _ left above => pixel?_fill left above value⟩

theorem depth_strokes {start : Bitmap} {strokes : List Stroke}
    (drawn : strokes.foldlM draw start = .ok b) : b.depth = start.depth := by
  induction strokes generalizing start with
  | nil =>
    obtain rfl := Except.ok.inj drawn
    rfl
  | cons s rest hyp =>
    rw [List.foldlM_cons] at drawn
    obtain ⟨next, first, others⟩ := except_bind_eq_ok.mp drawn
    exact (hyp others).trans (depth_draw first)

/-- A drawing comes to its end unless it asks for a size that no buffer can hold. -/
theorem exists_strokes_iff (start : Bitmap) (strokes : List Stroke) :
    (∃ b, strokes.foldlM draw start = .ok b) ↔
      ∀ width height, .resize width height ∈ strokes →
        byteCount width height start.depth ≤ maxBytes := by
  induction strokes generalizing start with
  | nil => exact ⟨fun _ _ _ => nofun, fun _ => ⟨start, rfl⟩⟩
  | cons s rest hyp =>
    -- the depth stays, so that the bound on later sizes does not depend on what is drawn first
    have goesOn {next : Bitmap} (first : start.draw s = .ok next) :
        (∃ b, (s :: rest).foldlM draw start = .ok b) ↔ ∀ width height,
          .resize width height ∈ rest → byteCount width height start.depth ≤ maxBytes := by
      rw [List.foldlM_cons, first, ← depth_draw first]
      exact hyp next
    cases s with
    | put x y value =>
      rw [goesOn rfl]
      simp
    | fill value =>
      rw [goesOn rfl]
      simp
    | resize width height =>
      rcases resized_cases start width height with ⟨next, made⟩ | large
      · have fits := exists_resized_iff.mp ⟨next, made⟩
        rw [goesOn made]
        simp only [List.mem_cons, Stroke.resize.injEq]
        refine ⟨?_, fun all width height later => all width height (.inr later)⟩
        rintro all width' height' (⟨rfl, rfl⟩ | later)
        · exact fits
        · exact all width' height' later
      · have stops : ¬ ∃ b, (Stroke.resize width height :: rest).foldlM draw start = .ok b := by
          rintro ⟨b, drawn⟩
          rw [List.foldlM_cons] at drawn
          obtain ⟨next, made, -⟩ := except_bind_eq_ok.mp drawn
          cases large.symm.trans made
        refine ⟨fun ends => absurd ends stops, fun all => ?_⟩
        have fits := exists_resized_iff.mpr (all width height List.mem_cons_self)
        rw [large] at fits
        obtain ⟨b, made⟩ := fits
        cases made

/-- Whatever is drawn on a bitmap and made of it, as long as each size asked for has its place in a
buffer, it stays a grid of pixels as deep as before, and it shows what the strokes make of the
picture. -/
theorem grid_strokes (start : Bitmap) (strokes : List Stroke) :
    ((∃ b, strokes.foldlM draw start = .ok b) ↔ ∀ width height, .resize width height ∈ strokes →
      byteCount width height start.depth ≤ maxBytes) ∧
    (∀ b, strokes.foldlM draw start = .ok b → b.Grid ∧ b.depth = start.depth) ∧
    (strokes.foldlM draw start).map picture = strokes.foldlM Picture.draw start.picture :=
  ⟨exists_strokes_iff start strokes, fun b drawn => ⟨grid b, depth_strokes drawn⟩,
    picture_strokes start strokes⟩

/-- No bitmap of 2^31 by 2^30 pixels of four bytes comes of a drawing. -/
theorem not_exists_drawn_dot :
    ¬ ∃ b, [Stroke.put 0 0 7, .resize 2147483648 1073741824].foldlM draw dot = .ok b := by
  intro drawn
  have fits := (exists_strokes_iff dot _).mp drawn 2147483648 1073741824
    (List.mem_cons_of_mem _ List.mem_cons_self)
  exact absurd fits (by decide)

/-- Of a number that is too large for two bytes the low ones are kept. -/
example : ((blank 3 1 2).bind (·.draw (.put 2 0 0x1F81F))).map (·.pixel? 2 0) =
    .ok (some 0xF81F) := by rfl

end Adventure.Bitmap
