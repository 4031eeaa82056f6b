import Adventure.Proofs.Session.Layers
import Adventure.Proofs.Text.Boundary

/-! # Texts in buffers

A buffer takes as much of a text as leaves room for the byte that ends it, and no part of a
character. What it takes is found character by character here; a walk back over the bytes from the
first one that has no room comes to the same end.

* `LongestWithin` — what is to be found.
* `truncateBytes?` — the walk.
* `copyText_truncates` — what calls copy to the buffers of scripts.
-/

namespace Adventure

namespace Property

open Text.Utf8

variable {text start : String} {limit capacity : Nat}

/-- Whether `start` is the longest start of a text that ends between two characters, or with the
text, and has at most `limit` bytes. -/
structure LongestWithin (text : String) (limit : Nat) (start : String) : Prop where
  starts : ∃ rest, text = start ++ rest
  fits : start.utf8ByteSize ≤ limit
  longest : ∀ i ≤ limit, (⟨i⟩ : String.Pos.Raw).IsValid text → i ≤ start.utf8ByteSize

theorem LongestWithin.boundary (cut : LongestWithin text limit start) :
    start.rawEndPos.IsValid text := by
  obtain ⟨rest, split⟩ := cut.starts
  exact String.Pos.Raw.isValid_iff_exists_append.mpr ⟨start, rest, split, rfl⟩

theorem LongestWithin.eq_self_iff (cut : LongestWithin text limit start) :
    start = text ↔ text.utf8ByteSize ≤ limit := by
  constructor
  · rintro rfl
    exact cut.fits
  · intro fits
    obtain ⟨rest, rfl⟩ := cut.starts
    have whole := cut.longest _ fits String.Pos.Raw.isValid_rawEndPos
    have none : rest.utf8ByteSize = 0 := by
      rw [String.utf8ByteSize_append] at whole
      omega
    rw [String.utf8ByteSize_eq_zero_iff.mp none, String.append_empty]

/-! ## Characters -/

theorem utf8Len_takeBytes_le (limit : Nat) (text : List Char) :
    String.utf8Len (takeBytes limit text) ≤ limit := by
  fun_induction takeBytes limit text with
  | case1 | case3 => exact Nat.zero_le _
  | case2 limit c rest fits hyp =>
    rw [String.utf8Len]
    omega

theorem takeBytes_prefix (limit : Nat) (text : List Char) : takeBytes limit text <+: text := by
  fun_induction takeBytes limit text with
  | case1 | case3 => exact List.nil_prefix
  | case2 limit c rest fits hyp => exact (List.prefix_cons_inj c).mpr hyp

/-- All characters that fit are taken. -/
theorem takeBytes_append {front : List Char} (fits : String.utf8Len front ≤ limit)
    (back : List Char) : takeBytes limit (front ++ back) =
      front ++ takeBytes (limit - String.utf8Len front) back := by
  induction front generalizing limit with
  | nil => rfl
  | cons c front hyp =>
    rw [String.utf8Len] at fits ⊢
    have here : c.utf8Size ≤ limit := by omega
    have later : String.utf8Len front ≤ limit - c.utf8Size := by omega
    rw [List.cons_append, takeBytes, if_pos here, hyp later, Nat.sub_sub, Nat.add_comm]
    rfl

theorem longestWithin_truncate (text : String) (capacity : Nat) :
    LongestWithin text (capacity - 1) (truncate text capacity) where
  starts := by
    obtain ⟨rest, whole⟩ := takeBytes_prefix (capacity - 1) text.toList
    refine ⟨String.ofList rest, ?_⟩
    rw [truncate, ← String.ofList_append, whole, String.ofList_toList]
  fits := by
    rw [truncate, String.utf8ByteSize_ofList]
    exact utf8Len_takeBytes_le _ _
  longest := by
    intro i within valid
    -- a boundary has characters in front of it, and if these fit they are all taken
    obtain ⟨front, back, rfl, ends⟩ := String.Pos.Raw.isValid_iff_exists_append.mp valid
    obtain rfl : i = front.utf8ByteSize := congrArg String.Pos.Raw.byteIdx ends
    rw [← String.ofList_toList (s := front), String.utf8ByteSize_ofList] at within ⊢
    rw [String.ofList_toList, truncate, String.toList_append, takeBytes_append within,
      String.utf8ByteSize_ofList, String.utf8Len_append]
    exact Nat.le_add_right _ _

example : truncate "héllo world" 6 = "héll" ∧ truncate "héllo world" 3 = "h" := by decide

/-! ## Bytes -/

/-- What of a text in bytes fits a buffer, as a walk back over the bytes finds it. There is none if
the walk leaves the text or ends within a character. -/
def truncateBytes? (bytes : Bytes) (capacity : Nat) : Option Bytes :=
  if bytes.length ≤ capacity - 1 then some bytes
  else (lastBoundary? bytes (capacity - 1)).bind (cut? bytes)

theorem LongestWithin.truncateBytes? (cut : LongestWithin text (capacity - 1) start) :
    truncateBytes? (encode text) capacity = some (encode start) := by
  have boundary := (isBoundary_encode_iff text start.utf8ByteSize).mpr cut.boundary
  unfold Property.truncateBytes?
  rw [length_encode]
  split
  · next fits => rw [cut.eq_self_iff.mpr fits]
  -- the walk ends where `start` does, since no boundary that has room lies behind
  · rw [lastBoundary?_eq boundary cut.fits fun j within there =>
      cut.longest j within ((isBoundary_encode_iff text j).mp there), Option.bind_some, cut?,
      if_pos boundary]
    obtain ⟨rest, rfl⟩ := cut.starts
    rw [encode_append, ← length_encode, List.take_left]

end Property

/-! ## Calls -/

namespace Session

open Property Text.Utf8

/-- What a call leaves in a buffer when it copies the answer of another call. -/
def copied (buffer : String) (capacity : Nat) : Outcome String → Outcome Unit × String
  | (.ok text, after) => ((.ok (), after), truncate text capacity)
  | (.error fault, after) => ((.error fault, after), buffer)

theorem copyText_eq (s : Session) (owner : Owner) (name buffer : String) (capacity : Nat) :
    s.copyText owner name buffer capacity = copied buffer capacity (s.getText owner name) := by
  unfold copyText getTextWithin getText
  rw [askProperty_eq, askProperty_eq]
  cases s.layers owner with
  | error fault => rfl
  | ok l =>
    simp only [Except.bind]
    cases l.text s.game.schema name with
    | error fault => rfl
    | ok text => rfl

/-- A text is cut to the longest start that leaves room for its end in the buffer, to all of it if
and only if it fits, and the walk back over its bytes never leaves it. Copying a property to a
buffer leaves there what this makes of the text that asking for the property gives, and fails where
asking fails. -/
theorem copyText_truncates :
    (∀ text capacity, LongestWithin text (max capacity 1 - 1) (truncate text capacity) ∧
      (truncate text capacity = text ↔ text.utf8ByteSize ≤ max capacity 1 - 1) ∧
      truncateBytes? (encode text) capacity = some (encode (truncate text capacity))) ∧
    ∀ (s : Session) owner name buffer capacity,
      s.copyText owner name buffer capacity = copied buffer capacity (s.getText owner name) := by
  refine ⟨fun text capacity => ?_, copyText_eq⟩
  have cut := longestWithin_truncate text capacity
  have limit : max capacity 1 - 1 = capacity - 1 := by omega
  rw [limit]
  exact ⟨cut, cut.eq_self_iff, cut.truncateBytes?⟩

end Session

end Adventure
