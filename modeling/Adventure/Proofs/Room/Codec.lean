import Adventure.Proofs.Except
import Adventure.Room.Codec

/-! # What codecs give back

A codec that stores `a` need not read `a` back: a palette is cut, a number loses its high bytes.
`Codec.GivesBack a b` says that what is written for `a` is read as `b`, and that nothing behind it
is touched, so that the law of a compound follows from the laws of what it is made of.

* `word_givesBack`, `int32_givesBack`, `text_givesBack`, … — the scalars.
* `list_givesBack`, `capped_givesBack`, `optional_givesBack` — the compounds.
* `PartsGiveBack` — the same for a record that is completed part by part.
-/

namespace Adventure.Room

variable {α β ρ : Type}

/-! ## Readers -/

theorem reader_bind_of_ok {x : Reader α} {f : α → Reader β} {bytes rest : Bytes} {a : α}
    (first : x bytes = .ok (a, rest)) : (x >>= f) bytes = f a rest := by
  simp only [bind, StateT.bind, first, Except.bind]

theorem take_append (front rest : Bytes) (short : Fault) :
    Reader.take front.length short (front ++ rest) = .ok (front, rest) := by
  simp [Reader.take, Bytes.split?_append]

theorem within_of_ok {reader : Reader α} {place : Place} {bytes rest : Bytes} {a : α}
    (inside : reader bytes = .ok (a, rest)) : reader.within place bytes = .ok (a, rest) := by
  simp [Reader.within, inside]

/-! ## Little-endian numbers -/

@[simp] theorem length_toLittleEndian (size n : Nat) : (toLittleEndian size n).length = size := by
  induction size generalizing n with
  | zero => rfl
  | succ size ih => simp [toLittleEndian, ih]

theorem littleEndian_toLittleEndian (size n : Nat) :
    littleEndian (toLittleEndian size n) = n % 256 ^ size := by
  induction size generalizing n with
  | zero => simp [toLittleEndian, littleEndian, Nat.mod_one]
  | succ size ih =>
    have lowest : (UInt8.ofNat n).toNat = n % 256 := by simp
    rw [toLittleEndian, littleEndian, ih, lowest, Nat.pow_succ', Nat.mod_mul]

namespace Codec

/-! ## The law -/

/-- What `codec` writes for `a` is read as `b`, whatever follows. -/
def GivesBack (codec : Codec α) (a b : α) : Prop :=
  ∀ written, codec.write a = .ok written →
    ∀ rest, codec.read (written ++ rest) = .ok (b, rest)

theorem via_givesBack {codec : Codec β} {view : α → β} {ofView : β → α} {a : α} {b : β}
    (inner : codec.GivesBack (view a) b) : (codec.via view ofView).GivesBack a (ofView b) := by
  intro written wrote rest
  exact reader_bind_of_ok (inner written wrote rest)

theorem within_givesBack {codec : Codec α} {place : Place} {a b : α}
    (inner : codec.GivesBack a b) : (codec.within place).GivesBack a b :=
  fun written wrote rest => within_of_ok (inner written wrote rest)

/-! ## Scalars -/

theorem word_givesBack (size n : Nat) : (word size).GivesBack n (n % 256 ^ size) := by
  intro written wrote rest
  obtain rfl : toLittleEndian size n = written := Except.ok.inj wrote
  have taken := take_append (toLittleEndian size n) rest .endOfData
  rw [length_toLittleEndian] at taken
  rw [← littleEndian_toLittleEndian]
  exact reader_bind_of_ok taken

theorem byte_givesBack (b : UInt8) : byte.GivesBack b b := by
  have stored : byte.GivesBack b (UInt8.ofNat (b.toNat % 256 ^ 1)) :=
    via_givesBack (word_givesBack 1 b.toNat)
  have same : UInt8.ofNat (b.toNat % 256 ^ 1) = b := by
    rw [Nat.pow_one, Nat.mod_eq_of_lt b.toNat_lt, UInt8.ofNat_toNat]
  rwa [same] at stored

theorem uint32_givesBack (n : UInt32) : uint32.GivesBack n n := by
  have stored : uint32.GivesBack n (UInt32.ofNat (n.toNat % 256 ^ 4)) :=
    via_givesBack (word_givesBack 4 n.toNat)
  have same : UInt32.ofNat (n.toNat % 256 ^ 4) = n := by
    rw [Nat.mod_eq_of_lt (by simpa using n.toNat_lt), UInt32.ofNat_toNat]
  rwa [same] at stored

theorem int32_givesBack (i : Int32) : int32.GivesBack i i := by
  have stored : int32.GivesBack i i.toUInt32.toInt32 := via_givesBack (uint32_givesBack i.toUInt32)
  rwa [Int32.toInt32_toUInt32] at stored

theorem flag_givesBack (b : Bool) : flag.GivesBack b b := by
  have stored : flag.GivesBack b ((if b then 1 else 0 : UInt8) ≠ 0 : Bool) :=
    via_givesBack (byte_givesBack _)
  cases b <;> exact stored

theorem count_givesBack (n : Nat) : count.GivesBack n n := by
  intro written wrote rest
  simp only [count] at wrote
  split at wrote
  · next small =>
    have stored := word_givesBack 4 n written wrote rest
    rwa [Nat.mod_eq_of_lt (by simpa using small)] at stored
  · simp at wrote

theorem text_givesBack (s : String) : text.GivesBack s s := by
  intro written wrote rest
  obtain ⟨head, wroteHead, rest', rfl⟩ := except_bind_eq_ok.mp wrote
  rw [List.append_assoc]
  have size := count_givesBack _ head wroteHead (Text.Utf8.encode s ++ rest)
  have bytes := take_append (Text.Utf8.encode s) rest
    (.textPastEnd (Text.Utf8.encode s).length)
  simp only [text]
  rw [reader_bind_of_ok size, reader_bind_of_ok bytes, Text.Utf8.decode_encode]
  rfl

/-- Bytes without a zero are read up to the zero behind them. -/
theorem readTerminated_append {limit room : Nat} {found bytes : Bytes} (rest : Bytes)
    (fits : bytes.length ≤ room) (plain : 0 ∉ bytes) :
    readTerminated limit room found (bytes ++ 0 :: rest) = .ok (found.reverse ++ bytes, rest) := by
  induction bytes generalizing room found with
  | nil => cases room <;> simp [readTerminated]
  | cons b bytes ih =>
    obtain ⟨notZero, plain⟩ := List.ne_and_not_mem_of_not_mem_cons plain
    cases room with
    | zero => simp at fits
    | succ room =>
      rw [List.cons_append, readTerminated, if_neg (Ne.symm notZero)]
      rw [ih (Nat.le_of_succ_le_succ fits) plain]
      simp

theorem legacyText_givesBack (limit : Nat) (unstorable : Fault) (s : String) :
    (legacyText limit unstorable).GivesBack s s := by
  intro written wrote rest
  simp only [legacyText] at wrote
  split at wrote
  · next storable =>
    -- the writer refuses texts with a zero in them and those above the limit of the reader
    obtain ⟨short, plain⟩ := storable
    obtain rfl := Except.ok.inj wrote
    have terminated : readTerminated limit limit [] (Text.Utf8.encode s ++ 0 :: rest) =
        .ok (Text.Utf8.encode s, rest) :=
      readTerminated_append rest (Nat.le_of_lt short) plain
    rw [List.append_assoc, List.singleton_append]
    simp only [legacyText]
    rw [reader_bind_of_ok terminated, Text.Utf8.decodeLossy_encode]
    rfl
  · simp at wrote

/-! ## Compounds -/

variable {item : Nat → Codec α} (normal : α → α)

theorem readItems_of_writeItems (items : List α)
    (each : ∀ index, ∀ a ∈ items, (item index).GivesBack a (normal a)) :
    ∀ index written, writeItems item index items = .ok written →
      ∀ rest, readItems item index items.length (written ++ rest) =
        .ok (items.map normal, rest) := by
  induction items with
  | nil =>
    intro index written wrote rest
    obtain rfl := Except.ok.inj wrote
    rfl
  | cons a items ih =>
    intro index written wrote rest
    obtain ⟨first, wroteFirst, afterFirst⟩ := except_bind_eq_ok.mp wrote
    obtain ⟨others, wroteOthers, joined⟩ := except_bind_eq_ok.mp afterFirst
    obtain rfl := Except.ok.inj joined
    -- what the other items have written is only more of the rest for this one
    have headRead := each index a List.mem_cons_self first wroteFirst (others ++ rest)
    have tailRead := ih (fun index b member => each index b (List.mem_cons_of_mem a member))
      (index + 1) others wroteOthers rest
    rw [List.append_assoc, List.length_cons, readItems, reader_bind_of_ok headRead,
      reader_bind_of_ok tailRead]
    rfl

theorem list_givesBack (items : List α)
    (each : ∀ index, ∀ a ∈ items, (item index).GivesBack a (normal a)) :
    (list item).GivesBack items (items.map normal) := by
  intro written wrote rest
  obtain ⟨head, wroteHead, afterHead⟩ := except_bind_eq_ok.mp wrote
  obtain ⟨body, wroteBody, joined⟩ := except_bind_eq_ok.mp afterHead
  obtain rfl := Except.ok.inj joined
  have size := count_givesBack _ head wroteHead (body ++ rest)
  rw [List.append_assoc]
  simp only [list]
  rw [reader_bind_of_ok size]
  exact readItems_of_writeItems normal items each 0 body wroteBody rest

theorem list_givesBack_self (items : List α)
    (each : ∀ index, ∀ a ∈ items, (item index).GivesBack a a) :
    (list item).GivesBack items items := by
  have stored := list_givesBack id items each
  rwa [List.map_id] at stored

/-- The writer of a counted list does not look at the limit, so the list has to keep it. -/
theorem counted_givesBack {limit : Nat} {what : Entry} {items : List α}
    (few : items.length ≤ limit)
    (each : ∀ index, ∀ a ∈ items, (item index).GivesBack a (normal a)) :
    (counted limit what item).GivesBack items (items.map normal) := by
  intro written wrote rest
  obtain ⟨head, wroteHead, afterHead⟩ := except_bind_eq_ok.mp wrote
  obtain ⟨body, wroteBody, joined⟩ := except_bind_eq_ok.mp afterHead
  obtain rfl := Except.ok.inj joined
  have size := count_givesBack _ head wroteHead (body ++ rest)
  rw [List.append_assoc]
  simp only [counted]
  rw [reader_bind_of_ok size, if_pos few]
  exact readItems_of_writeItems normal items each 0 body wroteBody rest

theorem limited_map {n : Nat} {what : Entry} (items : Capped n α) (bytes : Bytes) :
    limited (n := n) what (items.toList.map normal) bytes = .ok (items.map normal, bytes) := by
  have few : (items.toList.map normal).length ≤ n := by simpa using items.length_le
  simp only [limited, Capped.ofList?, dif_pos few]
  rfl

theorem capped_givesBack {n limit : Nat} {what : Entry} {items : Capped n α}
    (few : items.length ≤ limit)
    (each : ∀ index, ∀ a ∈ items.toList, (item index).GivesBack a (normal a)) :
    (capped limit what item).GivesBack items (items.map normal) := by
  intro written wrote rest
  have inner : (counted limit what item).GivesBack items.toList (items.toList.map normal) :=
    counted_givesBack normal few each
  simp only [capped]
  rw [reader_bind_of_ok (inner written wrote rest)]
  exact limited_map normal items rest

theorem capped_givesBack_self {n limit : Nat} {what : Entry} {items : Capped n α}
    (few : items.length ≤ limit)
    (each : ∀ index, ∀ a ∈ items.toList, (item index).GivesBack a a) :
    (capped limit what item).GivesBack items items := by
  have stored : (capped limit what item).GivesBack items (items.map id) :=
    capped_givesBack id few each
  rwa [Capped.map_id] at stored

theorem optional_givesBack {codec : Codec α} (o : Option α) (each : ∀ a, codec.GivesBack a a) :
    (optional codec).GivesBack o o := by
  intro written wrote rest
  cases o with
  | none =>
    have absent := flag_givesBack false written wrote rest
    simp only [optional]
    rw [reader_bind_of_ok absent]
    rfl
  | some a =>
    obtain ⟨mark, wroteMark, afterMark⟩ := except_bind_eq_ok.mp wrote
    obtain ⟨body, wroteBody, joined⟩ := except_bind_eq_ok.mp afterMark
    obtain rfl := Except.ok.inj joined
    have present := flag_givesBack true mark wroteMark (body ++ rest)
    have stored := each a body wroteBody rest
    rw [List.append_assoc]
    simp only [optional]
    rw [reader_bind_of_ok present, if_pos rfl, reader_bind_of_ok stored]
    rfl

end Codec

/-! ## Records

A record is read by completing a blank one, so the law of a part speaks of three records: the one
that was written, the one read so far, and the one after the part. -/

/-- From what `p` writes of `r`, reading turns `before` into `after`. -/
def Part.GivesBack (p : Part ρ) (r before after : ρ) : Prop :=
  ∀ written, p.write r = .ok written →
    ∀ rest, p.read before (written ++ rest) = .ok (after, rest)

def PartsGiveBack (parts : List (Part ρ)) (r before after : ρ) : Prop :=
  ∀ written, writeParts r parts = .ok written →
    ∀ rest, readParts parts before (written ++ rest) = .ok (after, rest)

theorem part_givesBack {codec : Codec α} {get : ρ → α} {set : α → ρ → ρ} {r before : ρ} {a : α}
    (stored : codec.GivesBack (get r) a) :
    (part codec get set).GivesBack r before (set a before) := by
  intro written wrote rest
  exact reader_bind_of_ok (stored written wrote rest)

theorem derived_givesBack (complete : ρ → ρ) (r before : ρ) :
    (derived complete).GivesBack r before (complete before) := by
  intro written wrote rest
  obtain rfl := Except.ok.inj wrote
  rfl

theorem writeParts_append_eq_ok {parts others : List (Part ρ)} {r : ρ} {written : Bytes}
    (wrote : writeParts r (parts ++ others) = .ok written) :
    ∃ front back, writeParts r parts = .ok front ∧ writeParts r others = .ok back ∧
      written = front ++ back := by
  induction parts generalizing written with
  | nil => exact ⟨[], written, rfl, wrote, rfl⟩
  | cons p parts ih =>
    obtain ⟨head, wroteHead, afterHead⟩ := except_bind_eq_ok.mp wrote
    obtain ⟨body, wroteBody, joined⟩ := except_bind_eq_ok.mp afterHead
    obtain ⟨front, back, wroteFront, wroteBack, rfl⟩ := ih wroteBody
    obtain rfl := Except.ok.inj joined
    refine ⟨head ++ front, back, ?_, wroteBack, (List.append_assoc ..).symm⟩
    rw [writeParts, wroteHead, wroteFront]
    rfl

theorem readParts_append (parts others : List (Part ρ)) (before : ρ) :
    readParts (parts ++ others) before = readParts parts before >>= readParts others := by
  induction parts generalizing before with
  | nil => simp [readParts]
  | cons p parts ih => simp [readParts, ih]

namespace PartsGiveBack

theorem nil (r before : ρ) : PartsGiveBack [] r before before := by
  intro written wrote rest
  obtain rfl := Except.ok.inj wrote
  rfl

theorem cons {p : Part ρ} {parts : List (Part ρ)} {r before middle after : ρ}
    (first : p.GivesBack r before middle) (others : PartsGiveBack parts r middle after) :
    PartsGiveBack (p :: parts) r before after := by
  intro written wrote rest
  obtain ⟨head, wroteHead, afterHead⟩ := except_bind_eq_ok.mp wrote
  obtain ⟨body, wroteBody, joined⟩ := except_bind_eq_ok.mp afterHead
  obtain rfl := Except.ok.inj joined
  have headRead := first head wroteHead (body ++ rest)
  rw [List.append_assoc, readParts, reader_bind_of_ok headRead]
  exact others body wroteBody rest

theorem append {parts others : List (Part ρ)} {r before middle after : ρ}
    (first : PartsGiveBack parts r before middle) (second : PartsGiveBack others r middle after) :
    PartsGiveBack (parts ++ others) r before after := by
  intro written wrote rest
  obtain ⟨front, back, wroteFront, wroteBack, rfl⟩ := writeParts_append_eq_ok wrote
  rw [List.append_assoc, readParts_append, reader_bind_of_ok (first front wroteFront _)]
  exact second back wroteBack rest

end PartsGiveBack

theorem record_givesBack {blank r after : ρ} {parts : List (Part ρ)}
    (completed : PartsGiveBack parts r blank after) :
    (Codec.record blank parts).GivesBack r after := completed

end Adventure.Room
