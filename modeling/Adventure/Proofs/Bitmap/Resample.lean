import Adventure.Proofs.Bitmap

/-! # What resampling promises

A resample invents nothing: each of its pixels is one of the bitmap, and which one depends on the
two sizes alone. A bitmap that is enlarged by whole factors is therefore not damaged. A size that no
buffer can hold is not made at all.

* `exists_position` — each byte belongs to a pixel.
* `resized_resized` — a bitmap is given back by what it was enlarged to.
* `resized_empty` — where one of the sizes is empty there is nothing to copy.
* `resamples` — the promises together.
-/

namespace Adventure.Bitmap

variable {b c : Bitmap} {width height x y : UInt32}

/-! ## Bytes and pixels -/

/-- Every byte is one of the bytes of a pixel. -/
theorem exists_position {w h d i : Nat} (within : i < w * h * d) :
    ∃ j < h, ∃ k < w, ∃ byte < d, i = (j * w + k) * d + byte := by
  have pixel : i / d < w * h := Nat.div_lt_of_lt_mul (by rwa [Nat.mul_comm])
  have row : i / d / w < h := Nat.div_lt_of_lt_mul pixel
  have wide : 0 < w := Nat.pos_of_mul_pos_right (Nat.zero_lt_of_lt pixel)
  have deep : 0 < d := Nat.pos_of_mul_pos_left (Nat.zero_lt_of_lt within)
  refine ⟨i / d / w, row, i / d % w, Nat.mod_lt _ wide, i % d, Nat.mod_lt _ deep, ?_⟩
  rw [Nat.div_add_mod', Nat.div_add_mod']

/-! ## There and back -/

/-- Of a row that is stretched by a whole factor, each place is found again in what it was stretched
to. -/
theorem stretched_source {old factor i : Nat} (positive : 1 ≤ factor) (within : i < old) :
    let there := i * (factor * old) / old
    there < factor * old ∧ there * old / (factor * old) = i := by
  have some : 0 < old := Nat.zero_lt_of_lt within
  have there : i * (factor * old) / old = factor * i := by
    rw [← Nat.mul_assoc, Nat.mul_div_cancel _ some, Nat.mul_comm]
  rw [there]
  constructor
  · exact Nat.mul_lt_mul_of_pos_left within positive
  · rw [Nat.mul_assoc, Nat.mul_div_mul_left _ _ positive, Nat.mul_div_cancel _ some]

/-- A bitmap that is enlarged by whole factors, one across and one down, is given back by resampling
to its own size. -/
theorem resized_resized {across down : Nat} (wider : 1 ≤ across) (higher : 1 ≤ down)
    (wide : width.toNat = across * b.width.toNat) (high : height.toNat = down * b.height.toNat)
    (enlarged : b.resized width height = .ok c) : c.resized b.width b.height = .ok b := by
  obtain ⟨sameWidth, sameHeight, depth⟩ := sizes_resized enlarged
  obtain ⟨a, made⟩ : ∃ a, c.resized b.width b.height = .ok a := by
    refine exists_resized_iff.mpr ?_
    rw [depth]
    exact b.byteCount_self
  obtain ⟨asWide, asHigh, asDeep⟩ := sizes_resized made
  rw [made]
  refine congrArg Except.ok (ext_getD asWide asHigh (asDeep.trans depth) fun i within => ?_)
  obtain ⟨j, above, k, left, byte, inPixel, rfl⟩ := exists_position within
  obtain ⟨column, sameColumn⟩ := stretched_source wider left
  obtain ⟨row, sameRow⟩ := stretched_source higher above
  rw [← wide] at column sameColumn
  rw [← high] at row sameRow
  -- the byte comes from the enlarged bitmap, and there from where it stands in this one
  have first := getD_resized_position made left above (depth ▸ inPixel)
  rw [depth, sameWidth, sameHeight] at first
  rw [first, getD_resized_position enlarged column row inPixel, sameRow, sameColumn]

/-! ## Empty sizes -/

theorem pixels_eq_empty (none : b.width = 0 ∨ b.height = 0) : b.pixels = #[] := by
  refine Array.eq_empty_of_size_eq_zero ?_
  rw [b.size_pixels]
  rcases none with narrow | flat
  · simp [narrow]
  · simp [flat]

theorem clampDepth_depth (b : Bitmap) : (clampDepth b.depth).1 = b.depth := by
  unfold clampDepth
  rw [dif_pos ⟨b.one_le_depth, b.depth_le_four⟩]

section Blank

variable {depth : UInt8} (made : blank width height depth = .ok c)
include made

theorem blank_eq_ok : (c.width = width ∧ c.height = height ∧ c.depth = (clampDepth depth).1) ∧
    ∀ i, c.pixels.getD i 0 = 0 := by
  unfold blank at made
  dsimp only at made
  split at made
  · obtain rfl := Except.ok.inj made
    refine ⟨⟨rfl, rfl, rfl⟩, fun i => ?_⟩
    rw [Array.getD_eq_getD_getElem?, Array.getElem?_replicate]
    split <;> rfl
  · cases made

end Blank

theorem resized_empty (none : b.width = 0 ∨ b.height = 0 ∨ width = 0 ∨ height = 0) :
    b.resized width height = blank width height b.depth := by
  rcases resized_cases b width height with ⟨c, made⟩ | large
  · obtain ⟨a, black⟩ : ∃ a, blank width height b.depth = .ok a := by
      refine ⟨_, dif_pos ?_⟩
      rw [clampDepth_depth]
      exact exists_resized_iff.mp ⟨c, made⟩
    obtain ⟨asWide, asHigh, asDeep⟩ := sizes_resized made
    obtain ⟨⟨width', height', depth'⟩, zero⟩ := blank_eq_ok black
    rw [clampDepth_depth] at depth'
    rw [made, black]
    refine congrArg Except.ok (ext_getD (asWide.trans width'.symm) (asHigh.trans height'.symm)
      (asDeep.trans depth'.symm) fun i within => ?_)
    rw [width', height', depth'] at within
    rw [getD_resized made within, zero]
    -- either there is no byte to copy, or no byte to copy it to
    rcases none with narrow | flat | none
    · rw [pixels_eq_empty (.inl narrow)]
      rfl
    · rw [pixels_eq_empty (.inr flat)]
      rfl
    · rcases none with rfl | rfl <;> simp at within
  · have beyond : ¬ byteCount width height b.depth ≤ maxBytes := by
      rw [← exists_resized_iff, large]
      rintro ⟨c, made⟩
      cases made
    rw [large, blank, dif_neg (by rwa [clampDepth_depth])]

/-! ## All promises -/

/-- What resampling a bitmap promises. The sizes that can be asked for are those that have their
place in a buffer. -/
structure Resamples (b : Bitmap) : Prop where
  made : ∀ width height, byteCount width height b.depth ≤ maxBytes →
    ∃ c, b.resized width height = .ok c
  stops : ∀ width height, maxBytes < byteCount width height b.depth →
    b.resized width height = .error .overflow
  size : ∀ width height c, b.resized width height = .ok c →
    c.width = width ∧ c.height = height ∧ c.depth = b.depth
  /-- Each pixel is a pixel of the bitmap, at the place in proportion, rounded down. -/
  pixel : ∀ width height c, b.resized width height = .ok c →
    ∀ x y, 0 < b.width → 0 < b.height → x < width → y < height →
      ∃ sx sy : UInt32, (sx < b.width ∧ sy < b.height) ∧
        sx.toNat = x.toNat * b.width.toNat / width.toNat ∧
        sy.toNat = y.toNat * b.height.toNat / height.toNat ∧
        ∃ value, c.pixel? x y = some value ∧ b.pixel? sx sy = some value
  own : b.resized b.width b.height = .ok b
  back : ∀ across down width height c, 1 ≤ across → 1 ≤ down →
    width.toNat = across * b.width.toNat → height.toNat = down * b.height.toNat →
    b.resized width height = .ok c → c.resized b.width b.height = .ok b
  empty : ∀ width height, b.width = 0 ∨ b.height = 0 ∨ width = 0 ∨ height = 0 →
    b.resized width height = blank width height b.depth
  black : ∀ width height c, blank width height b.depth = .ok c →
    (c.width = width ∧ c.height = height ∧ c.depth = b.depth) ∧ ∀ i, c.pixels.getD i 0 = 0

theorem resamples (b : Bitmap) : b.Resamples where
  made _ _ fits := exists_resized_iff.mpr fits
  stops _ _ large := resized_eq_overflow large
  size _ _ _ made := sizes_resized made
  pixel width height c made x y wide high left above := by
    have sx := source_lt wide left
    have sy := source_lt high above
    refine ⟨source b.width width x, source b.height height y, ⟨sx, sy⟩, toNat_source wide left,
      toNat_source high above, ?_⟩
    have found := pixel?_of_lt sx sy
    exact ⟨_, (pixel?_resized made wide high left above).trans found, found⟩
  own := b.resized_self
  back _ _ _ _ _ wider higher wide high made := resized_resized wider higher wide high made
  empty _ _ none := resized_empty none
  black _ _ _ made := by
    have zero := blank_eq_ok made
    rwa [clampDepth_depth] at zero

/-- One black pixel of four bytes. -/
def dot : Bitmap := ⟨1, 1, 4, #[0, 0, 0, 0], by decide, by decide, by decide, by decide⟩

/-- A resample of 2^31 by 2^30 pixels of four bytes would have one byte more than a buffer. -/
theorem not_exists_resized_dot : ofPixels 1 1 4 #[0, 0, 0, 0] = .ok dot ∧
    ¬ ∃ c, dot.resized 2147483648 1073741824 = .ok c :=
  ⟨rfl, fun made => absurd (exists_resized_iff.mp made) (by decide)⟩

/-- Two pixels, each shown in a square of four. -/
example : (ofBytes 2 1 #[7, 9] (by decide)).resized 4 2 =
    .ok (ofBytes 4 2 #[7, 7, 9, 9, 7, 7, 9, 9] (by decide)) := by
  refine congrArg Except.ok (Bitmap.ext rfl rfl rfl ?_)
  decide

end Adventure.Bitmap
