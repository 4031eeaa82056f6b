import Mathlib.Data.String.Basic
import Adventure.Text.Utf8

/-! # What becomes of bytes as texts

A text that has been decoded strictly is encoded as the bytes that it came from. One that has been
repaired can be longer than those, since a single byte may have been replaced by a whole character.

* `length_encode_decodeLossy_le` — how long it can be.
* `zero_notMem_encode_decodeLossy` — repairing brings no zero in.
* `encode_lt` — texts have the order of their bytes.
-/

namespace Adventure.Text.Utf8

theorem length_encode (s : String) : (encode s).length = s.utf8ByteSize := by
  rw [encode, Array.length_toList]
  rfl

theorem encode_append (s t : String) : encode (s ++ t) = encode s ++ encode t := by
  rw [encode, String.toUTF8, String.toByteArray_append, ByteArray.data_append, Array.toList_append]
  rfl

theorem encode_of_fromUTF8? {bytes : Bytes} {s : String}
    (valid : String.fromUTF8? ⟨bytes.toArray⟩ = some s) : encode s = bytes := by
  unfold String.fromUTF8? at valid
  split at valid
  · obtain rfl := Option.some.inj valid
    rfl
  · cases valid

theorem encode_of_decode {bytes : Bytes} {s : String} (decoded : decode bytes = .ok s) :
    encode s = bytes := by
  unfold decode at decoded
  split at decoded
  · next found valid =>
    obtain rfl := Except.ok.inj decoded
    exact encode_of_fromUTF8? valid
  · cases decoded

theorem utf8Len_le (chars : List Char) : String.utf8Len chars ≤ 4 * chars.length := by
  induction chars with
  | nil => exact Nat.le_refl 0
  | cons c rest hyp =>
    have size := c.utf8Size_le_four
    simp only [String.utf8Len, List.length_cons] at *
    omega

/-- Every character of a repaired text stands for a byte at least. -/
theorem length_repair_le (bytes : Bytes) : (repair bytes).length ≤ bytes.length := by
  fun_induction repair bytes with
  | case1 => exact Nat.le_refl 0
  | case2 lead rest c more _ hyp | case3 lead rest more _ hyp =>
    simp only [List.length_cons, List.length_drop] at *
    omega
  | case4 => simp

theorem length_encode_decodeLossy_le (bytes : Bytes) :
    (encode (decodeLossy bytes)).length ≤ 4 * bytes.length := by
  unfold decodeLossy
  split
  · next s valid =>
    rw [encode_of_fromUTF8? valid]
    omega
  · rw [length_encode, String.utf8ByteSize_ofList]
    exact Nat.le_trans (utf8Len_le _) (Nat.mul_le_mul_left 4 (length_repair_le bytes))

/-! ## Zeros

What is repaired keeps the characters that are there, and none of them is the zero that ends texts
of old files. -/

variable {lead low high : UInt8} {count : Nat} {bytes rest : Bytes} {c : Char}

theorem countFollowers_full {limit : Nat}
    (full : countFollowers (limit + 1) low high bytes = limit + 1) :
    ∃ b rest, bytes = b :: rest ∧ low.toNat ≤ b.toNat ∧ b.toNat ≤ high.toNat ∧
      countFollowers limit 0x80 0xBF rest = limit := by
  cases bytes with
  | nil => cases full
  | cons b rest =>
    rw [countFollowers] at full
    split at full
    · next within => exact ⟨b, rest, rfl, within.1, within.2, Nat.succ.inj full⟩
    · cases full

/-- The ranges of lead bytes, with what is special about the byte behind them. -/
theorem followers_ranges (leads : followers lead = some (count, low, high)) :
    0x80 ≤ low.toNat ∧ high.toNat ≤ 0xBF ∧
      (count = 1 ∧ 0xC2 ≤ lead.toNat ∧ lead.toNat < 0xE0 ∨
        count = 2 ∧ (lead.toNat = 0xE0 ∧ 0xA0 ≤ low.toNat ∨ lead.toNat = 0xED ∧ high.toNat ≤ 0x9F ∨
          0xE0 < lead.toNat ∧ lead.toNat < 0xF0 ∧ lead.toNat ≠ 0xED) ∨
        count = 3 ∧ (lead.toNat = 0xF0 ∧ 0x90 ≤ low.toNat ∨ lead.toNat = 0xF4 ∧ high.toNat ≤ 0x8F ∨
          0xF0 < lead.toNat ∧ lead.toNat < 0xF4)) := by
  unfold followers at leads
  simp only [UInt8.lt_iff_toNat_lt, ← UInt8.toNat_inj, UInt8.reduceToNat] at leads
  repeat' split at leads
  all_goals cases leads
  all_goals simp
  all_goals omega

theorem ofNat_ne_zero {n : Nat} (valid : n.isValidChar) (some : n ≠ 0) :
    Char.ofNat n ≠ '\x00' := by
  intro same
  have value : (Char.ofNat n).toNat = n := by
    rw [Char.ofNat, dif_pos valid]
    rfl
  rw [same] at value
  exact some value.symm

/-- A lead byte and followers in their ranges give a code point, and never that of zero. -/
theorem scalarValue_valid (leads : followers lead = some (count, low, high))
    (full : countFollowers count low high rest = count) :
    (scalarValue lead count rest).isValidChar ∧ scalarValue lead count rest ≠ 0 := by
  obtain ⟨lowest, highest, ⟨rfl, ranges⟩ | ⟨rfl, ranges⟩ | ⟨rfl, ranges⟩⟩ := followers_ranges leads
  · obtain ⟨b, rest, rfl, above, below, -⟩ := countFollowers_full full
    simp only [scalarValue, List.take_succ_cons, List.take_zero, List.foldl_cons, List.foldl_nil]
    omega
  · obtain ⟨b, rest, rfl, above, below, full⟩ := countFollowers_full full
    obtain ⟨c, rest, rfl, -⟩ := countFollowers_full full
    simp only [scalarValue, List.take_succ_cons, List.take_zero, List.foldl_cons, List.foldl_nil]
    omega
  · obtain ⟨b, rest, rfl, above, below, full⟩ := countFollowers_full full
    obtain ⟨c, rest, rfl, -, -, full⟩ := countFollowers_full full
    obtain ⟨d, rest, rfl, -⟩ := countFollowers_full full
    simp only [scalarValue, List.take_succ_cons, List.take_zero, List.foldl_cons, List.foldl_nil]
    omega

theorem firstPart_char_ne {more : Nat} (visible : lead ≠ 0)
    (first : firstPart lead rest = .char c more) : c ≠ '\x00' := by
  have some : lead.toNat ≠ 0 := fun none => visible (UInt8.toNat_inj.mp none)
  unfold firstPart at first
  split at first
  · next low =>
    obtain ⟨rfl, -⟩ := Part.char.inj first
    rw [UInt8.lt_iff_toNat_lt] at low
    exact ofNat_ne_zero (.inl (Nat.lt_trans low (by decide))) some
  · split at first
    · cases first
    · next count low high leads =>
      simp only at first
      split at first
      · next full =>
        obtain ⟨rfl, -⟩ := Part.char.inj first
        obtain ⟨valid, some⟩ := scalarValue_valid leads full
        exact ofNat_ne_zero valid some
      · split at first <;> cases first

theorem zero_notMem_repair (plain : 0 ∉ bytes) : '\x00' ∉ repair bytes := by
  fun_induction repair bytes with
  | case1 => exact List.not_mem_nil
  | case2 lead rest c more first hyp =>
    obtain ⟨visible, plain⟩ := List.ne_and_not_mem_of_not_mem_cons plain
    apply List.not_mem_cons_of_ne_of_not_mem (firstPart_char_ne visible.symm first).symm
    exact hyp fun listed => plain (List.mem_of_mem_drop listed)
  | case3 lead rest more first hyp =>
    obtain ⟨-, plain⟩ := List.ne_and_not_mem_of_not_mem_cons plain
    apply List.not_mem_cons_of_ne_of_not_mem (by decide)
    exact hyp fun listed => plain (List.mem_of_mem_drop listed)
  | case4 => decide

theorem encode_ofList (chars : List Char) :
    encode (String.ofList chars) = chars.flatMap String.utf8EncodeChar := by
  rw [encode, String.toUTF8, String.toByteArray_ofList, List.utf8Encode]
  simp

theorem encode_replicate (n : Nat) :
    encode (String.ofList (List.replicate n 'A')) = List.replicate n 0x41 := by
  rw [encode_ofList, List.flatMap_replicate]
  exact List.flatten_replicate_singleton

theorem zero_notMem_utf8EncodeChar (visible : c ≠ '\x00') : 0 ∉ String.utf8EncodeChar c := by
  have positive : c.val.toNat ≠ 0 := fun none => visible (Char.ext (UInt32.toNat_inj.mp none))
  have byte {n : Nat} (few : n < 256) (some : n ≠ 0) : (0 : UInt8) ≠ UInt8.ofNat n := by
    intro same
    have value := congrArg UInt8.toNat same
    rw [UInt8.toNat_ofNat_of_lt' few] at value
    exact some value.symm
  unfold String.utf8EncodeChar
  grind

/-- No text is repaired to one with a zero in it. -/
theorem zero_notMem_encode_decodeLossy (plain : 0 ∉ bytes) : 0 ∉ encode (decodeLossy bytes) := by
  unfold decodeLossy
  split
  · next s valid => rwa [encode_of_fromUTF8? valid]
  · rw [encode_ofList, List.mem_flatMap]
    rintro ⟨c, listed, zero⟩
    apply zero_notMem_utf8EncodeChar _ zero
    rintro rfl
    exact zero_notMem_repair plain listed

/-! ## Order

Texts have the order of their bytes. The lesser of two characters has a lead byte for fewer bytes,
or the lesser digit to the base 64 where the two differ first. -/

theorem div_lt_cases {v w : Nat} (unit : Nat) (less : v / unit < w / unit) :
    v / (unit * 64) < w / (unit * 64) ∨
      v / (unit * 64) = w / (unit * 64) ∧ v / unit % 64 < w / unit % 64 := by
  rw [← Nat.div_div_eq_div_mul, ← Nat.div_div_eq_div_mul]
  omega

theorem utf8EncodeChar_lt {d : Char} (less : c < d) (r t : Bytes) :
    String.utf8EncodeChar c ++ r < String.utf8EncodeChar d ++ t := by
  have low : c.val.toNat < d.val.toNat := less
  have top : d.val.toNat < 0x110000 := by
    rcases d.valid with early | late
    · omega
    · omega
  simp only [String.utf8EncodeChar]
  generalize c.val.toNat = v at *
  generalize d.val.toNat = w at *
  have fourth := div_lt_cases (v := v) (w := w) 1
  have third := div_lt_cases (v := v) (w := w) 64
  have second := div_lt_cases (v := v) (w := w) 4096
  simp only [Nat.div_one, Nat.one_mul, Nat.reduceMul] at fourth third second
  -- each has from one to four bytes, and the lead byte says how many
  repeat' split
  all_goals
    simp only [List.cons_append, List.nil_append, List.cons_lt_cons_iff, UInt8.lt_iff_toNat_lt,
      ← UInt8.toNat_inj, UInt8.toNat_ofNat']
    simp (disch := omega) only [Nat.mod_eq_of_lt]
    omega

theorem encode_lt {s t : String} (less : s < t) : encode s < encode t := by
  rw [String.lt_iff_toList_lt] at less
  rw [← String.ofList_toList (s := s), ← String.ofList_toList (s := t), encode_ofList,
    encode_ofList]
  generalize s.toList = left at *
  generalize t.toList = right at *
  induction left generalizing right with
  | nil =>
    cases right with
    | nil => cases less
    | cons d right =>
      obtain ⟨lead, more, bytes⟩ :=
        List.exists_cons_of_ne_nil (String.utf8EncodeChar_ne_nil (c := d))
      rw [List.flatMap_cons, bytes]
      exact List.nil_lt_cons _ _
  | cons c left hyp =>
    cases right with
    | nil => cases less
    | cons d right =>
      rw [List.flatMap_cons, List.flatMap_cons]
      rcases List.cons_lt_cons_iff.mp less with here | ⟨rfl, later⟩
      · exact utf8EncodeChar_lt here _ _
      · exact List.append_left_lt (hyp _ later)

end Adventure.Text.Utf8
