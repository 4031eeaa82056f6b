import Adventure.Proofs.Text.Utf8

/-! # Where characters begin

The bytes of a text show where its characters begin, since the bytes behind the lead byte of a
character are like no lead byte. So a walk back from any byte stops in front of a character.

* `isBoundary` — the test of one byte; `isBoundary_encode_iff` says that it finds the characters.
* `lastBoundary?` — the walk; `lastBoundary?_eq` says where it stops.
* `cut?` — the bytes in front of a character.
-/

namespace Adventure.Text.Utf8

variable {bytes : Bytes} {i limit : Nat}

/-- Whether a byte stands inside a character. -/
def continues (b : UInt8) : Bool := 0x80 ≤ b && b < 0xC0

/-- Whether bytes can be cut in two at `i`: at both ends, and in front of a lead byte. -/
def isBoundary (bytes : Bytes) (i : Nat) : Bool :=
  i == 0 || i == bytes.length || bytes[i]?.any (!continues ·)

/-- The boundary that a walk back from a byte comes to, or none if it would leave the bytes. -/
def lastBoundary? (bytes : Bytes) : Nat → Option Nat
  | 0 => if isBoundary bytes 0 then some 0 else none
  | i + 1 => if isBoundary bytes (i + 1) then some (i + 1) else lastBoundary? bytes i

/-- The first `i` bytes, unless that would split a character. -/
def cut? (bytes : Bytes) (i : Nat) : Option Bytes :=
  if isBoundary bytes i then some (bytes.take i) else none

/-! ## The test -/

/-- No byte of a text announces more than three others. -/
theorem mem_utf8EncodeChar_lt {c : Char} {b : UInt8} (listed : b ∈ String.utf8EncodeChar c) :
    b.toNat < 0xF8 := by
  have byte {n : Nat} (few : n < 0xF8) : (UInt8.ofNat n).toNat < 0xF8 :=
    Nat.lt_of_le_of_lt (Nat.mod_le n _) few
  unfold String.utf8EncodeChar at listed
  grind

theorem mem_encode_lt {text : String} {b : UInt8} (listed : b ∈ encode text) : b.toNat < 0xF8 := by
  rw [← String.ofList_toList (s := text), encode_ofList, List.mem_flatMap] at listed
  obtain ⟨c, -, listed⟩ := listed
  exact mem_utf8EncodeChar_lt listed

theorem continues_eq_false_iff {b : UInt8} (low : b.toNat < 0xF8) :
    continues b = false ↔ b.IsUTF8FirstByte := by
  have every : ∀ n < 0xF8,
      continues (UInt8.ofNat n) = false ↔ (UInt8.ofNat n).IsUTF8FirstByte := by decide +kernel
  have here := every b.toNat low
  rwa [UInt8.ofNat_toNat] at here

/-- The bytes in front of which a text can be cut are those in front of its characters. -/
theorem isBoundary_encode_iff (text : String) (i : Nat) :
    isBoundary (encode text) i = true ↔ (⟨i⟩ : String.Pos.Raw).IsValid text := by
  -- at the ends no byte is looked at, and between them there is one to look at
  rcases Nat.eq_zero_or_pos i with rfl | behind
  · exact iff_of_true rfl String.Pos.Raw.isValid_zero
  simp only [isBoundary, length_encode, Bool.or_eq_true, beq_iff_eq, behind.ne', false_or]
  rcases Nat.lt_trichotomy i text.utf8ByteSize with inside | rfl | beyond
  · have low : i < (encode text).length := by rwa [length_encode]
    have here : (encode text)[i]? = some (text.getUTF8Byte ⟨i⟩ inside) :=
      List.getElem?_eq_some_iff.mpr ⟨low, rfl⟩
    have test := continues_eq_false_iff (mem_encode_lt (List.mem_of_getElem? here))
    rw [here, Option.any_some, Bool.not_eq_true', test,
      String.Pos.Raw.isValid_iff_isUTF8FirstByte]
    constructor
    · rintro (same | first)
      · exact absurd same inside.ne
      · exact .inr ⟨inside, first⟩
    · rintro (same | ⟨_, first⟩)
      · exact .inl (congrArg String.Pos.Raw.byteIdx same)
      · exact .inr first
  · exact iff_of_true (.inl rfl) String.Pos.Raw.isValid_rawEndPos
  · rw [List.getElem?_eq_none (by rw [length_encode]; exact beyond.le)]
    refine iff_of_false (by simp [beyond.ne']) fun valid => ?_
    exact absurd valid.le_utf8ByteSize (Nat.not_le_of_lt beyond)

/-! ## The walk -/

/-- A walk back comes to the last boundary that it can come to. -/
theorem lastBoundary?_eq (boundary : isBoundary bytes i = true) (within : i ≤ limit)
    (last : ∀ j ≤ limit, isBoundary bytes j = true → j ≤ i) :
    lastBoundary? bytes limit = some i := by
  -- on the byte where the walk begins: it stops there or goes on from the byte in front
  induction limit with
  | zero =>
    obtain rfl := Nat.le_zero.mp within
    exact if_pos boundary
  | succ limit hyp =>
    rw [lastBoundary?]
    split
    · next here => rw [Nat.le_antisymm (last _ (Nat.le_refl _) here) within]
    · next inside =>
      have before : i ≠ limit + 1 := fun same => inside (same ▸ boundary)
      exact hyp (by omega) fun j below => last j (Nat.le_succ_of_le below)

end Adventure.Text.Utf8
