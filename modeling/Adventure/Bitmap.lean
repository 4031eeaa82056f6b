import Adventure.Text.Utf8

/-! # Bitmaps

A `Bitmap` is a grid of pixels, one to four bytes each, the lowest byte first, row after row.
Area masks are bitmaps of one byte per pixel whose values are area numbers.

* `pixel?`, `put?`, `fill` — the grid read and written by position.
* `resized` — the nearest-neighbour resample: pixels are copied, never mixed.

A size may ask for more bytes than a buffer can have, or than a machine word can count. Nothing is
made then: the fault `overflow` stands for the end of the program.
-/

namespace Adventure

namespace Bitmap

/-- The most bytes that a buffer can have. -/
def maxBytes : Nat := 2 ^ 63 - 1

/-- The bytes of the pixels of a bitmap. -/
def byteCount (width height : UInt32) (depth : UInt8) : Nat :=
  width.toNat * height.toNat * depth.toNat

end Bitmap

/-- A packed pixel buffer. -/
structure Bitmap where
  width : UInt32
  height : UInt32
  /-- Bytes per pixel. -/
  depth : UInt8
  pixels : Array UInt8
  one_le_depth : 1 ≤ depth.toNat
  depth_le_four : depth.toNat ≤ 4
  size_pixels : pixels.size = width.toNat * height.toNat * depth.toNat
  size_le : pixels.size ≤ Bitmap.maxBytes

namespace Bitmap

/-- Why there is no such bitmap. -/
inductive Fault where
  | badDepth (depth : UInt8)
  | badLength (width height : UInt32) (depth : UInt8) (got : Nat)
  /-- The size has too many bytes. The program stops, and no one gets an answer. -/
  | overflow
  deriving DecidableEq, Repr

/-- The wording of a fault. -/
def Fault.message : Fault → String
  | .badDepth depth => s!"unsupported bytes-per-pixel value {depth.toNat}"
  | .badLength width height depth got =>
    let expected := byteCount width height depth
    s!"bitmap {width.toNat}x{height.toNat}x{depth.toNat} expects {expected} bytes, got {got}"
  | .overflow => "capacity overflow"

@[ext] theorem ext {a b : Bitmap} (width : a.width = b.width) (height : a.height = b.height)
    (depth : a.depth = b.depth) (pixels : a.pixels = b.pixels) : a = b := by
  cases a; cases b; cases width; cases height; cases depth; cases pixels; rfl

/-! ## Making bitmaps -/

/-- The bitmap of given pixels. Their number is compared with a product in a machine word. -/
def ofPixels (width height : UInt32) (depth : UInt8) (pixels : Array UInt8) :
    Except Fault Bitmap :=
  if hd : 1 ≤ depth.toNat ∧ depth.toNat ≤ 4 then
    if 2 ^ 64 ≤ byteCount width height depth then .error .overflow
    else if hs : pixels.size = byteCount width height depth ∧ pixels.size ≤ maxBytes then
      .ok ⟨width, height, depth, pixels, hd.1, hd.2, hs.1, hs.2⟩
    else .error (.badLength width height depth pixels.size)
  else .error (.badDepth depth)

/-- The depth nearest to `d` that a bitmap can have. -/
def clampDepth (d : UInt8) : { d : UInt8 // 1 ≤ d.toNat ∧ d.toNat ≤ 4 } :=
  if h : 1 ≤ d.toNat ∧ d.toNat ≤ 4 then ⟨d, h⟩
  else if d.toNat = 0 then ⟨1, by decide⟩ else ⟨4, by decide⟩

/-- The bitmap of zeros. -/
def blank (width height : UInt32) (depth : UInt8) : Except Fault Bitmap :=
  let d := clampDepth depth
  if fits : byteCount width height d.1 ≤ maxBytes then
    .ok {
      width, height, depth := d.1
      pixels := Array.replicate (byteCount width height d.1) 0
      one_le_depth := d.2.1
      depth_le_four := d.2.2
      size_pixels := Array.size_replicate ..
      size_le := Nat.le_trans (Nat.le_of_eq (Array.size_replicate ..)) fits }
  else .error .overflow

/-! ## Pixels -/

/-- Where the pixel at `(x, y)` starts, if the grid has it. -/
def offset? (b : Bitmap) (x y : UInt32) : Option Nat :=
  if x < b.width ∧ y < b.height then
    some ((y.toNat * b.width.toNat + x.toNat) * b.depth.toNat)
  else none

/-- The number that `count` bytes from `start` on stand for, the lowest first. -/
def valueAt (pixels : Array UInt8) (start : Nat) : (count : Nat) → Nat
  | 0 => 0
  | count + 1 => (pixels.getD start 0).toNat + 256 * valueAt pixels (start + 1) count

/-- The value of the pixel at `(x, y)`. -/
def pixel? (b : Bitmap) (x y : UInt32) : Option Nat :=
  (b.offset? x y).map fun start => valueAt b.pixels start b.depth.toNat

/-- Byte `i` of a value, the lowest first. -/
def byteOf (value : UInt32) (i : Nat) : UInt8 := UInt8.ofNat (value.toNat / 256 ^ i)

/-- Writes the `count` low bytes of `value` from `start` on. -/
def storeAt (pixels : Array UInt8) (start : Nat) (value : UInt32) (count : Nat) : Array UInt8 :=
  count.fold (fun i _ out => out.setIfInBounds (start + i) (byteOf value i)) pixels

theorem size_storeAt (pixels : Array UInt8) (start : Nat) (value : UInt32) (count : Nat) :
    (storeAt pixels start value count).size = pixels.size := by
  induction count with
  | zero => rfl
  | succ n ih => simpa [storeAt, Nat.fold_succ] using ih

/-- Sets the pixel at `(x, y)` to the low bytes of `value`; `none` outside the grid. -/
def put? (b : Bitmap) (x y value : UInt32) : Option Bitmap :=
  (b.offset? x y).map fun start =>
    { b with
      pixels := storeAt b.pixels start value b.depth.toNat
      size_pixels := by rw [size_storeAt]; exact b.size_pixels
      size_le := by rw [size_storeAt]; exact b.size_le }

/-- Sets every pixel to the low bytes of `value`. -/
def fill (b : Bitmap) (value : UInt32) : Bitmap :=
  { b with
    pixels := Array.ofFn fun i : Fin (byteCount b.width b.height b.depth) =>
      byteOf value (i % b.depth.toNat)
    size_pixels := Array.size_ofFn
    size_le := by rw [Array.size_ofFn, byteCount, ← b.size_pixels]; exact b.size_le }

/-! ## Resizing -/

/-- The byte of `b` that byte `i` of a `width` by `height` resample copies: pixel `(dx, dy)` copies
pixel `(dx * b.width / width, dy * b.height / height)`. -/
def sourceByte (b : Bitmap) (width height : Nat) (i : Nat) : Nat :=
  let depth := b.depth.toNat
  let dx := i / depth % width
  let dy := i / depth / width
  let sx := dx * b.width.toNat / width
  let sy := dy * b.height.toNat / height
  (sy * b.width.toNat + sx) * depth + i % depth

/-- The nearest-neighbour resample; all zero if either size is empty. -/
def resized (b : Bitmap) (width height : UInt32) : Except Fault Bitmap :=
  if fits : byteCount width height b.depth ≤ maxBytes then
    .ok {
      width, height, depth := b.depth
      pixels := Array.ofFn fun i : Fin (byteCount width height b.depth) =>
        b.pixels.getD (b.sourceByte width.toNat height.toNat i) 0
      one_le_depth := b.one_le_depth
      depth_le_four := b.depth_le_four
      size_pixels := Array.size_ofFn
      size_le := Nat.le_trans (Nat.le_of_eq Array.size_ofFn) fits }
  else .error .overflow

/-- `b` itself if it has the size already, else its resample. -/
def fitted (b : Bitmap) (width height : UInt32) : Except Fault Bitmap :=
  if b.width = width ∧ b.height = height then .ok b else b.resized width height

end Bitmap

end Adventure
