import Adventure.Bitmap

/-! # Pixels of resized bitmaps

A resample copies whole pixels. Which one is said by coordinates, one for each direction, and no
longer by bytes.

* `source` — the coordinate that a coordinate of a resample is copied from.
* `exists_resized_iff` — which sizes can be asked for.
* `pixel?_fitted` — the pixels of a resample.
* `pixel?_fitted_double` — twice the size shows each pixel in a square of four.
-/

namespace Adventure.Bitmap

variable {b c : Bitmap} {width height x y : UInt32}

/-! ## Pixels by their bytes -/

theorem pixel?_of_lt (left : x < b.width) (above : y < b.height) :
    b.pixel? x y = some (valueAt b.pixels
      ((y.toNat * b.width.toNat + x.toNat) * b.depth.toNat) b.depth.toNat) := by
  rw [pixel?, offset?, if_pos ⟨left, above⟩]
  rfl

theorem valueAt_congr {first second : Array UInt8} {start offset count : Nat}
    (same : ∀ j < count, first.getD (start + j) 0 = second.getD (offset + j) 0) :
    valueAt first start count = valueAt second offset count := by
  induction count generalizing start offset with
  | zero => rfl
  | succ count hyp =>
    have head : first.getD start 0 = second.getD offset 0 := same 0 (Nat.succ_pos count)
    have tail : valueAt first (start + 1) count = valueAt second (offset + 1) count := by
      refine hyp fun j within => ?_
      have next := same (j + 1) (Nat.succ_lt_succ within)
      rwa [Nat.add_comm j, ← Nat.add_assoc, ← Nat.add_assoc] at next
    rw [valueAt, valueAt, head, tail]

theorem div_mod_block {size k : Nat} (block : Nat) (within : k < size) :
    (block * size + k) / size = block ∧ (block * size + k) % size = k := by
  have positive : 0 < size := Nat.zero_lt_of_lt within
  rw [Nat.mul_comm]
  constructor
  · rw [Nat.mul_add_div positive, Nat.div_eq_of_lt within, Nat.add_zero]
  · rw [Nat.mul_add_mod, Nat.mod_eq_of_lt within]

/-- Rows follow one another, and each holds its pixels from left to right. -/
theorem position_lt {w h d i j k : Nat} (left : i < w) (above : j < h) (byte : k < d) :
    (j * w + i) * d + k < w * h * d :=
  calc (j * w + i) * d + k
      < (j * w + i + 1) * d := by rw [Nat.succ_mul]; omega
    _ ≤ (j + 1) * w * d := Nat.mul_le_mul_right d (by rw [Nat.succ_mul]; omega)
    _ ≤ h * w * d := Nat.mul_le_mul_right d (Nat.mul_le_mul_right w above)
    _ = w * h * d := by rw [Nat.mul_comm h w]

/-! ## Resampling -/

/-- Of `old` pixels in a row, the one that pixel `i` of `new` pixels is copied from. -/
def source (old new i : UInt32) : UInt32 := UInt32.ofNat (i.toNat * old.toNat / new.toNat)

section Source

variable {old new i : UInt32}

theorem source_lt_nat (some : 0 < old) (within : i < new) :
    i.toNat * old.toNat / new.toNat < old.toNat := by
  rw [UInt32.lt_iff_toNat_lt] at some within
  refine Nat.div_lt_of_lt_mul ?_
  exact Nat.mul_lt_mul_of_pos_right within some

theorem toNat_source (some : 0 < old) (within : i < new) :
    (source old new i).toNat = i.toNat * old.toNat / new.toNat :=
  UInt32.toNat_ofNat_of_lt' (Nat.lt_trans (source_lt_nat some within) old.toNat_lt)

theorem source_lt (some : 0 < old) (within : i < new) : source old new i < old := by
  rw [UInt32.lt_iff_toNat_lt, toNat_source some within]
  exact source_lt_nat some within

theorem source_double (double : new.toNat = 2 * old.toNat) (within : i < new) :
    source old new i = i / 2 := by
  have positive : 0 < old.toNat := by
    rw [UInt32.lt_iff_toNat_lt] at within
    omega
  rw [← UInt32.toNat_inj, UInt32.toNat_div, toNat_source positive within, double]
  exact Nat.mul_div_mul_right i.toNat 2 positive

end Source

theorem sourceByte_position {i j k : Nat} {w h : Nat} (left : i < w) (byte : k < b.depth.toNat) :
    b.sourceByte w h ((j * w + i) * b.depth.toNat + k) =
      (j * b.height.toNat / h * b.width.toNat + i * b.width.toNat / w) * b.depth.toNat + k := by
  obtain ⟨pixel, rest⟩ := div_mod_block (j * w + i) byte
  obtain ⟨row, column⟩ := div_mod_block j left
  simp only [sourceByte, pixel, rest, row, column]

/-- A resample is made where a buffer can hold it. -/
theorem exists_resized_iff :
    (∃ c, b.resized width height = .ok c) ↔ byteCount width height b.depth ≤ maxBytes := by
  unfold resized
  split
  · next fits => exact ⟨fun _ => fits, fun _ => ⟨_, rfl⟩⟩
  · next large => exact ⟨nofun, fun fits => absurd fits large⟩

theorem resized_eq_overflow (large : maxBytes < byteCount width height b.depth) :
    b.resized width height = .error .overflow :=
  dif_neg (Nat.not_le_of_lt large)

theorem resized_cases (b : Bitmap) (width height : UInt32) :
    (∃ c, b.resized width height = .ok c) ∨ b.resized width height = .error .overflow := by
  rcases Nat.lt_or_ge maxBytes (byteCount width height b.depth) with large | fits
  · exact .inr (resized_eq_overflow large)
  · exact .inl (exists_resized_iff.mpr fits)

/-- No side above 2^14 is near the limit of a buffer. -/
theorem byteCount_le_maxBytes (wide : width.toNat ≤ 16384) (high : height.toNat ≤ 16384)
    (b : Bitmap) : byteCount width height b.depth ≤ maxBytes := by
  have area : width.toNat * height.toNat ≤ 16384 * 16384 := Nat.mul_le_mul wide high
  have bytes : byteCount width height b.depth ≤ 16384 * 16384 * 4 :=
    Nat.mul_le_mul area b.depth_le_four
  exact Nat.le_trans bytes (by decide)

section Resized

variable (made : b.resized width height = .ok c)
include made

theorem sizes_resized : c.width = width ∧ c.height = height ∧ c.depth = b.depth := by
  unfold resized at made
  split at made
  · obtain rfl := Except.ok.inj made
    exact ⟨rfl, rfl, rfl⟩
  · cases made

theorem getD_resized {i : Nat} (within : i < width.toNat * height.toNat * b.depth.toNat) :
    c.pixels.getD i 0 = b.pixels.getD (b.sourceByte width.toNat height.toNat i) 0 := by
  unfold resized at made
  split at made
  · obtain rfl := Except.ok.inj made
    simp [byteCount, Array.getD_eq_getD_getElem?, within]
  · cases made

/-- Each byte of a pixel is copied from the byte of the pixel that it is copied from. -/
theorem getD_resized_position {j k byte : Nat} (left : k < width.toNat) (above : j < height.toNat)
    (inPixel : byte < b.depth.toNat) :
    c.pixels.getD ((j * width.toNat + k) * b.depth.toNat + byte) 0 =
      b.pixels.getD ((j * b.height.toNat / height.toNat * b.width.toNat +
        k * b.width.toNat / width.toNat) * b.depth.toNat + byte) 0 := by
  rw [getD_resized made (position_lt left above inPixel), sourceByte_position left inPixel]

theorem pixel?_resized (wide : 0 < b.width) (high : 0 < b.height) (left : x < width)
    (above : y < height) : c.pixel? x y =
      b.pixel? (source b.width width x) (source b.height height y) := by
  obtain ⟨sameWidth, sameHeight, depth⟩ := sizes_resized made
  rw [pixel?_of_lt (sameWidth ▸ left) (sameHeight ▸ above),
    pixel?_of_lt (source_lt wide left) (source_lt high above), toNat_source wide left,
    toNat_source high above, sameWidth, depth]
  rw [UInt32.lt_iff_toNat_lt] at left above
  exact congrArg some (valueAt_congr fun k byte => getD_resized_position made left above byte)

end Resized

/-! ## Equal bitmaps -/

/-- Bitmaps of one size are equal if they have the same bytes. -/
theorem ext_getD (width : b.width = c.width) (height : b.height = c.height)
    (depth : b.depth = c.depth)
    (bytes : ∀ i < c.width.toNat * c.height.toNat * c.depth.toNat,
      b.pixels.getD i 0 = c.pixels.getD i 0) : b = c := by
  have size : b.pixels.size = c.pixels.size := by
    rw [b.size_pixels, c.size_pixels, width, height, depth]
  refine Bitmap.ext width height depth (Array.ext size fun i inside inside' => ?_)
  rw [Array.getElem_eq_getD 0, Array.getElem_eq_getD 0]
  exact bytes i (c.size_pixels ▸ inside')

/-- Each byte of a resample of the same size is copied from its own place. -/
theorem sourceByte_self {i : Nat}
    (within : i < b.width.toNat * b.height.toNat * b.depth.toNat) :
    b.sourceByte b.width.toNat b.height.toNat i = i := by
  have pixel : i / b.depth.toNat < b.width.toNat * b.height.toNat :=
    Nat.div_lt_of_lt_mul (by rwa [Nat.mul_comm])
  have wide : 0 < b.width.toNat := Nat.pos_of_mul_pos_right (Nat.zero_lt_of_lt pixel)
  have high : 0 < b.height.toNat := Nat.pos_of_mul_pos_left (Nat.zero_lt_of_lt pixel)
  simp only [sourceByte, Nat.mul_div_cancel _ wide, Nat.mul_div_cancel _ high]
  rw [Nat.div_add_mod', Nat.div_add_mod']

/-- What is there has its place in a buffer. -/
theorem byteCount_self (b : Bitmap) : byteCount b.width b.height b.depth ≤ maxBytes :=
  Nat.le_trans (Nat.le_of_eq b.size_pixels.symm) b.size_le

theorem byteCount_lt_word (b : Bitmap) : byteCount b.width b.height b.depth < 2 ^ 64 :=
  Nat.lt_of_le_of_lt b.byteCount_self (by decide)

/-- A bitmap is the bitmap of its pixels. -/
theorem ofPixels_self (b : Bitmap) : ofPixels b.width b.height b.depth b.pixels = .ok b := by
  rw [ofPixels, dif_pos ⟨b.one_le_depth, b.depth_le_four⟩,
    if_neg (Nat.not_le_of_lt b.byteCount_lt_word), dif_pos ⟨b.size_pixels, b.size_le⟩]

theorem ofPixels_eq_ok {depth : UInt8} {pixels : Array UInt8}
    (made : ofPixels width height depth pixels = .ok b) :
    b.width = width ∧ b.height = height ∧ b.depth = depth ∧ b.pixels = pixels := by
  unfold ofPixels at made
  split at made
  · split at made
    · cases made
    · split at made
      · obtain rfl := Except.ok.inj made
        exact ⟨rfl, rfl, rfl, rfl⟩
      · cases made
  · cases made

theorem resized_self (b : Bitmap) : b.resized b.width b.height = .ok b := by
  obtain ⟨c, made⟩ := exists_resized_iff.mpr b.byteCount_self
  obtain ⟨width, height, depth⟩ := sizes_resized made
  rw [made]
  refine congrArg Except.ok (ext_getD width height depth fun i inside => ?_)
  rw [getD_resized made inside, sourceByte_self inside]

/-! ## Fitting -/

theorem fitted_eq_resized (b : Bitmap) (width height : UInt32) :
    b.fitted width height = b.resized width height := by
  unfold fitted
  split
  · next same =>
    obtain ⟨rfl, rfl⟩ := same
    exact b.resized_self.symm
  · rfl

theorem exists_fitted_iff :
    (∃ c, b.fitted width height = .ok c) ↔ byteCount width height b.depth ≤ maxBytes := by
  rw [fitted_eq_resized]
  exact exists_resized_iff

section Fitted

variable (made : b.fitted width height = .ok c)
include made

theorem sizes_fitted : c.width = width ∧ c.height = height ∧ c.depth = b.depth :=
  sizes_resized (fitted_eq_resized b width height ▸ made)

/-- What has been fitted once fits. -/
theorem fitted_fitted : c.fitted width height = .ok c :=
  if_pos ⟨(sizes_fitted made).1, (sizes_fitted made).2.1⟩

theorem pixel?_fitted (wide : 0 < b.width) (high : 0 < b.height) (left : x < width)
    (above : y < height) : c.pixel? x y =
      b.pixel? (source b.width width x) (source b.height height y) :=
  pixel?_resized (fitted_eq_resized b width height ▸ made) wide high left above

theorem pixel?_fitted_double (wide : width.toNat = 2 * b.width.toNat)
    (high : height.toNat = 2 * b.height.toNat) (left : x < width) (above : y < height) :
    ∃ value, c.pixel? x y = some value ∧ b.pixel? (x / 2) (y / 2) = some value := by
  have positive : 0 < b.width ∧ 0 < b.height := by
    simp only [UInt32.lt_iff_toNat_lt] at left above ⊢
    change 0 < b.width.toNat ∧ 0 < b.height.toNat
    omega
  have same := pixel?_fitted made positive.1 positive.2 left above
  have found := pixel?_of_lt (source_lt positive.1 left) (source_lt positive.2 above)
  rw [source_double wide left, source_double high above] at same found
  exact ⟨_, same.trans found, found⟩

end Fitted

/-- The bitmap made to have a size, where there is such a bitmap. -/
def fit (b : Bitmap) (width height : UInt32) : Bitmap :=
  match b.fitted width height with
  | .ok c => c
  | .error _ => b

theorem fit_eq (made : b.fitted width height = .ok c) : b.fit width height = c := by
  rw [fit, made]

theorem fitted_cases (b : Bitmap) (width height : UInt32) :
    b.fitted width height = .ok (b.fit width height) ∨
      b.fitted width height = .error .overflow := by
  rw [fit, fitted_eq_resized]
  rcases resized_cases b width height with ⟨c, made⟩ | large
  · rw [made]
    exact .inl rfl
  · exact .inr large

theorem fitted_eq_fit (fits : byteCount width height b.depth ≤ maxBytes) :
    b.fitted width height = .ok (b.fit width height) := by
  obtain ⟨c, made⟩ := exists_fitted_iff.mpr fits
  rw [made, fit_eq made]

/-! ## Masks -/

/-- The bitmap of one byte a pixel. -/
def ofBytes (width height : UInt32) (pixels : Array UInt8)
    (full : pixels.size = width.toNat * height.toNat * 1 ∧ pixels.size ≤ maxBytes) : Bitmap :=
  ⟨width, height, 1, pixels, by decide, by decide, full.1, full.2⟩

end Adventure.Bitmap
