import Adventure.Proofs.Room.Truncation

/-! # Old rooms that are saved again

Before revision 2.61 a message ends with a zero, and its length is limited. The reader counts the
bytes of a message as it finds them. The writer counts those of the text that has become of them,
and stops one byte earlier.

* `Codec.Writes` — whether a value is written.
* `roomCodec_writes_of_later` — what a later revision writes, an earlier one writes as well, apart
  from messages.
* `decode_encode_early` — an old room is saved again exactly if its messages are short enough.
-/

namespace Adventure.Room

open Codec

variable {α ρ : Type} {v u first : Version} {bytes body : Bytes} {r : Room}

/-! ## What is written -/

theorem exists_joined_iff {front back : Except Fault Bytes} :
    (∃ written, (do return (← front) ++ (← back) : Except Fault Bytes) = .ok written) ↔
      (∃ written, front = .ok written) ∧ ∃ written, back = .ok written := by
  cases front <;> cases back <;> simp [bind, Except.bind, pure, Except.pure]

namespace Codec

/-- Whether `codec` writes `a`. -/
def Writes (codec : Codec α) (a : α) : Prop := ∃ written, codec.write a = .ok written

variable {item : Nat → Codec α} {items : List α}

theorem exists_writeItems_iff {index : Nat} :
    (∃ written, writeItems item index items = .ok written) ↔
      ∀ i a, items[i]? = some a → (item (index + i)).Writes a := by
  induction items generalizing index with
  | nil => simp [writeItems]
  | cons a rest hyp =>
    rw [writeItems, exists_joined_iff, hyp]
    constructor
    · rintro ⟨written, others⟩ i b found
      cases i with
      | zero =>
        obtain rfl := Option.some.inj found
        exact written
      | succ i =>
        have written := others i b found
        rwa [Nat.add_assoc, Nat.add_comm 1] at written
    · intro each
      refine ⟨each 0 a rfl, fun i b found => ?_⟩
      rw [Nat.add_assoc, Nat.add_comm 1]
      exact each (i + 1) b found

theorem list_writes_iff : (list item).Writes items ↔
    items.length < 2 ^ 32 ∧ ∀ i a, items[i]? = some a → (item i).Writes a := by
  rw [Writes, list, exists_joined_iff, exists_writeItems_iff]
  simp only [Nat.zero_add]
  refine and_congr_left fun _ => ?_
  unfold count
  simp only
  split
  · next few => simp [word, few]
  · next many => simp [many]

end Codec

theorem record_writes_iff {blank r : ρ} {parts : List (Part ρ)} :
    (Codec.record blank parts).Writes r ↔ ∀ p ∈ parts, ∃ written, p.write r = .ok written := by
  change (∃ written, writeParts r parts = .ok written) ↔ _
  induction parts with
  | nil => simp [writeParts]
  | cons p rest hyp => rw [writeParts, exists_joined_iff, hyp, List.forall_mem_cons]

/-! ## What earlier revisions write -/

theorem list_writes_mono {earlier later : Nat → Codec α} {items : List α}
    (each : ∀ i a, (later i).Writes a → (earlier i).Writes a)
    (written : (list later).Writes items) : (list earlier).Writes items := by
  rw [list_writes_iff] at written ⊢
  exact ⟨written.1, fun i a found => each i a (written.2 i a found)⟩

/-- An earlier revision has no part that a later one lacks. -/
theorem forall_mem_since_mono {P : Part ρ → Prop} {parts : List (Part ρ)} (older : v ≤ u)
    (later : ∀ p ∈ since first u parts, P p) : ∀ p ∈ since first v parts, P p := by
  unfold since at later ⊢
  split
  · next stored =>
    have also : first ≤ u := Nat.le_trans stored older
    rwa [if_pos also] at later
  · exact List.forall_mem_nil _

theorem hotspotCodec_writes_mono (older : v ≤ u) (h : Hotspot)
    (written : (hotspotCodec u).Writes h) : (hotspotCodec v).Writes h := by
  simp only [hotspotCodec, record_writes_iff, List.forall_mem_append] at written ⊢
  obtain ⟨⟨⟨front, scriptName⟩, properties⟩, events⟩ := written
  exact ⟨⟨⟨front, forall_mem_since_mono older scriptName⟩,
    forall_mem_since_mono older properties⟩, forall_mem_since_mono older events⟩

theorem objectCodec_writes_mono (older : v ≤ u) (o : Object)
    (written : (objectCodec u).Writes o) : (objectCodec v).Writes o := by
  simp only [objectCodec, record_writes_iff, List.forall_mem_append] at written ⊢
  obtain ⟨⟨⟨front, scriptName⟩, properties⟩, events⟩ := written
  exact ⟨⟨⟨front, forall_mem_since_mono older scriptName⟩,
    forall_mem_since_mono older properties⟩, forall_mem_since_mono older events⟩

theorem regionCodec_writes_mono (older : v ≤ u) (region : Region)
    (written : (regionCodec u).Writes region) : (regionCodec v).Writes region := by
  simp only [regionCodec, record_writes_iff, List.forall_mem_append] at written ⊢
  obtain ⟨⟨front, properties⟩, events⟩ := written
  exact ⟨⟨front, forall_mem_since_mono older properties⟩, forall_mem_since_mono older events⟩

theorem walkAreaCodec_writes_mono (older : v ≤ u) (a : WalkArea)
    (written : (walkAreaCodec u).Writes a) : (walkAreaCodec v).Writes a := by
  simp only [walkAreaCodec, record_writes_iff, List.forall_mem_append] at written ⊢
  obtain ⟨⟨front, scalingNear⟩, back⟩ := written
  exact ⟨⟨front, forall_mem_since_mono older scalingNear⟩, back⟩

theorem frameCodec_writes_mono (older : v ≤ u) (index : Nat) (f : Frame)
    (written : (frameCodec u index).Writes f) : (frameCodec v index).Writes f := by
  simp only [frameCodec, record_writes_iff, List.forall_mem_append] at written ⊢
  exact ⟨forall_mem_since_mono older written.1, written.2⟩

theorem framesPart_writes_mono (older : v ≤ u)
    (written : ∃ written, (framesPart u).write r = .ok written) :
    ∃ written, (framesPart v).write r = .ok written := by
  simp only [framesPart, exists_joined_iff, exists_writeItems_iff] at written ⊢
  refine ⟨?_, fun i f found => frameCodec_writes_mono older _ f (written.2 i f found)⟩
  -- number and speed are written whatever they are
  unfold frameHeadCodec
  split
  · exact ⟨_, rfl⟩
  · exact ⟨_, rfl⟩

/-- What a later revision writes, an earlier one writes as well if it writes the messages. -/
theorem roomCodec_writes_of_later (older : v ≤ u) (later : (roomCodec u).Writes r)
    (messages : (list (messageCodec v)).Writes r.messages.toList) :
    (roomCodec v).Writes r := by
  simp only [roomCodec, roomParts, record_writes_iff, List.forall_mem_append] at later ⊢
  obtain ⟨⟨⟨⟨⟨⟨⟨front, gameId⟩, density⟩, resolution⟩, middle⟩, properties⟩, events⟩, script⟩ :=
    later
  refine ⟨⟨⟨⟨⟨⟨⟨?_, forall_mem_since_mono older gameId⟩, ?_⟩, ?_⟩, ?_⟩,
    forall_mem_since_mono older properties⟩, forall_mem_since_mono older events⟩, script⟩
  · simp only [List.forall_mem_cons] at front ⊢
    obtain ⟨depth, walkBehinds, hotspots, objects, regions, walkAreas, edges, options, -⟩ := front
    exact ⟨depth, walkBehinds,
      list_writes_mono (fun _ => hotspotCodec_writes_mono older) hotspots,
      list_writes_mono (fun _ => objectCodec_writes_mono older) objects,
      list_writes_mono (fun _ => regionCodec_writes_mono older) regions,
      list_writes_mono (fun _ => walkAreaCodec_writes_mono older) walkAreas,
      edges, options, messages, List.forall_mem_nil _⟩
  · split
    · next stored => rwa [if_pos (show Version.v240 ≤ u from Nat.le_trans stored older)] at density
    · simp [derived]
  · split
    · next stored =>
      rwa [if_pos (show Version.v3508 ≤ u from Nat.le_trans stored older)] at resolution
    · simp [derived]
  · simp only [List.forall_mem_cons] at middle ⊢
    obtain ⟨width, height, frames, masks⟩ := middle
    exact ⟨width, height, framesPart_writes_mono older frames, masks⟩

/-! ## Messages -/

/-- Whether there is no zero in any message of a room. -/
def Unbroken (r : Room) : Prop := ∀ m ∈ r.messages.toList, 0 ∉ Text.Utf8.encode m.text

theorem messageCodec_writes_iff (early : v < .v261) (index : Nat) (m : Message) :
    (messageCodec v index).Writes m ↔
      m.text.utf8ByteSize < maxLegacyMessage ∧ 0 ∉ Text.Utf8.encode m.text := by
  have byte (b : UInt8) : ∃ written, Codec.byte.write b = .ok written := ⟨_, rfl⟩
  simp only [messageCodec, record_writes_iff, List.forall_mem_cons, part, byte, if_pos early,
    legacyText, Text.Utf8.length_encode]
  split
  · next storable => simp [storable]
  · next unstorable => simp [unstorable]

theorem messages_write_iff (early : v < .v261) (messages : Capped maxMessages Message) :
    (list (messageCodec v)).Writes messages.toList ↔ ∀ m ∈ messages.toList,
      m.text.utf8ByteSize < maxLegacyMessage ∧ 0 ∉ Text.Utf8.encode m.text := by
  have few : messages.toList.length < 2 ^ 32 := Nat.lt_of_le_of_lt messages.length_le (by decide)
  simp only [list_writes_iff, messageCodec_writes_iff early, few, true_and, List.mem_iff_getElem?]
  exact ⟨fun each m ⟨i, found⟩ => each i m found, fun each i m found => each m ⟨i, found⟩⟩

theorem messageCodec_takes (early : v < .v261) (index : Nat) : (messageCodec v index).read.Yields
    fun m _ => 0 ∉ Text.Utf8.encode m.text := by
  have text := legacyText_yields maxLegacyMessage (.unstorableMessage index v)
  unfold messageCodec
  rw [if_pos early]
  exact record_yields <|
    readParts_part byte_takes fun _ _ _ =>
    readParts_part byte_takes fun _ _ _ =>
    readParts_part text fun _ _ plain => readParts_nil plain.2

/-! ## Invariants of reading -/

/-- Whether a record that has `Inv` keeps it when `p` is read into it. -/
def Part.Keeps (Inv : ρ → Prop) (p : Part ρ) : Prop :=
  ∀ before bytes r rest, Inv before → p.read before bytes = .ok (r, rest) → Inv r

theorem part_keeps {Inv : ρ → Prop} {codec : Codec α} {get : ρ → α} {set : α → ρ → ρ}
    (kept : ∀ a r, Inv r → Inv (set a r)) : (part codec get set).Keeps Inv := by
  intro before bytes r rest holds read
  obtain ⟨a, middle, -, complete⟩ := reader_bind_eq_ok.mp read
  obtain ⟨rfl, -⟩ := Prod.mk.inj (Except.ok.inj complete)
  exact kept a before holds

theorem readParts_keeps {Inv : ρ → Prop} {parts : List (Part ρ)} (each : ∀ p ∈ parts, p.Keeps Inv)
    {before after : ρ} {rest : Bytes} (holds : Inv before)
    (read : readParts parts before bytes = .ok (after, rest)) : Inv after := by
  induction parts generalizing before bytes with
  | nil =>
    obtain ⟨rfl, -⟩ := Prod.mk.inj (Except.ok.inj read)
    exact holds
  | cons p others hyp =>
    obtain ⟨first, later⟩ := List.forall_mem_cons.mp each
    obtain ⟨next, middle, here, read⟩ := reader_bind_eq_ok.mp read
    exact hyp later (first before bytes next middle holds here) read

theorem derived_keeps {Inv : ρ → Prop} {complete : ρ → ρ} (kept : ∀ r, Inv r → Inv (complete r)) :
    (derived complete).Keeps Inv := by
  intro before bytes r rest holds read
  obtain ⟨rfl, -⟩ := Prod.mk.inj (Except.ok.inj read)
  exact kept before holds

/-- One part reads messages, and the others leave them alone. -/
theorem roomParts_keep (early : v < .v261) : ∀ p ∈ roomParts v, p.Keeps Unbroken := by
  have other {α : Type} (codec : Codec α) (get : Room → α) (set : α → Room → Room)
      (same : ∀ a r, (set a r).messages = r.messages) : (part codec get set).Keeps Unbroken :=
    part_keeps fun a r holds => by rwa [Unbroken, same]
  have gated {first : Version} {p : Part Room} (keeps : p.Keeps Unbroken) :
      ∀ q ∈ since first v [p], q.Keeps Unbroken := by
    unfold since
    split
    · exact List.forall_mem_singleton.mpr keeps
    · exact List.forall_mem_nil _
  have messages : (part (.capped maxMessages .message (messageCodec v)) (·.messages)
      (fun x r => { r with messages := x }) : Part Room).Keeps Unbroken := by
    intro before bytes r rest _ read
    obtain ⟨items, middle, found, complete⟩ := reader_bind_eq_ok.mp read
    obtain ⟨rfl, -⟩ := Prod.mk.inj (Except.ok.inj complete)
    obtain ⟨-, -, plain⟩ := capped_takes (messageCodec_takes early) _ _ _ found
    exact plain
  have frames : (framesPart v).Keeps Unbroken := by
    intro before bytes r rest holds read
    obtain ⟨-, -, frames, speed, rfl, -⟩ :=
      framesPart_yields (Nat.le_refl v.number) before bytes r rest read
    exact holds
  simp only [roomParts, List.forall_mem_append, List.forall_mem_cons]
  refine ⟨⟨⟨⟨⟨⟨⟨⟨?_, ?_, ?_, ?_, ?_, ?_, ?_, ?_, messages, List.forall_mem_nil _⟩, gated ?_⟩, ?_⟩,
    ?_⟩, ?_, ?_, frames, ?_, ?_, ?_, ?_, List.forall_mem_nil _⟩, gated ?_⟩, gated ?_⟩, ?_,
    List.forall_mem_nil _⟩
  case refine_10 | refine_11 =>
    split
    · exact List.forall_mem_singleton.mpr (other _ _ _ fun _ _ => rfl)
    · exact List.forall_mem_singleton.mpr (derived_keeps fun _ holds => holds)
  all_goals exact other _ _ _ fun _ _ => rfl

theorem unbroken_of_read (early : v < .v261) {rest : Bytes}
    (read : (roomCodec v).read body = .ok (r, rest)) : r.Unbroken := by
  refine readParts_keeps (roomParts_keep early) ?_ read
  intro m listed
  cases listed

/-! ## Files -/

theorem short_of_encode (early : v < .v261) (saved : r.encode v = .ok bytes) :
    ∀ m ∈ r.messages.toList, m.text.utf8ByteSize < maxLegacyMessage := by
  obtain ⟨body, -, wrote, -⟩ := encode_eq_ok saved
  have parts : ∀ p ∈ roomParts v, ∃ written, p.write r = .ok written :=
    record_writes_iff.mp ⟨body, wrote⟩
  simp only [roomParts, List.forall_mem_append, List.forall_mem_cons] at parts
  obtain ⟨⟨⟨⟨⟨⟨⟨⟨-, -, -, -, -, -, -, -, messages, -⟩, -⟩, -⟩, -⟩, -⟩, -⟩, -⟩, -⟩ := parts
  intro m listed
  exact ((messages_write_iff early r.messages).mp messages m listed).1

/-- A room from before revision 2.61 is written at its revision again exactly if its messages are
short, and what is read from the new file is the same room. -/
theorem decode_encode_early (decoded : decode bytes = .ok r)
    (marked : readVersion bytes = .ok (v, body)) (early : v < .v261) :
    ((∃ again, r.encode v = .ok again) ↔
        ∀ m ∈ r.messages.toList, m.text.utf8ByteSize < maxLegacyMessage) ∧
      ∀ again, r.encode v = .ok again → decode again = .ok r := by
  have older : v ≤ .v261 := Nat.le_of_lt early
  obtain ⟨size, -, valid, legible⟩ := decode_legible decoded marked older (Nat.le_refl _)
  obtain ⟨w, found, rest, also, read, -⟩ := decode_eq_ok_iff.mp decoded
  obtain ⟨rfl, rfl⟩ := Prod.mk.inj (Except.ok.inj (also.symm.trans marked))
  have supported := (readVersion_yields _ _ _ marked).elim fun _ found => found.2.1
  have writable : r.checkWritable w = .ok () :=
    checkWritable_eq_ok_iff.mpr ⟨supported, legible.hotspots, legible.objects,
      or_iff_not_imp_left.mpr legible.single⟩
  refine ⟨⟨fun ⟨again, saved⟩ => short_of_encode early saved, fun short => ?_⟩,
    fun again saved => ?_⟩
  · -- the first revision with lengths writes the room, so this one does if it writes the messages
    obtain ⟨later, wroteLater, -⟩ := legible.written
    have plain := unbroken_of_read early read
    have messages := (messages_write_iff early r.messages).mpr fun m listed =>
      ⟨short m listed, plain m listed⟩
    obtain ⟨written, wrote⟩ := roomCodec_writes_of_later older ⟨later, wroteLater⟩ messages
    exact ⟨_, by rw [encode, writable, wrote]; rfl⟩
  · obtain ⟨written, -, wrote, rfl⟩ := encode_eq_ok saved
    have again := decode_of_write writable legible.framed wrote (by rwa [legible.stored])
    rwa [legible.stored] at again

theorem decode_encode_early_yellowed : decode yellowedFile = .ok yellowedRoom ∧
    ((∃ again, yellowedRoom.encode ⟨22⟩ = .ok again) ↔
        ∀ m ∈ yellowedRoom.messages.toList, m.text.utf8ByteSize < maxLegacyMessage) ∧
      ∀ again, yellowedRoom.encode ⟨22⟩ = .ok again → decode again = .ok yellowedRoom :=
  ⟨decode_yellowedFile,
    decode_encode_early (v := ⟨22⟩) decode_yellowedFile rfl (by decide)⟩

/-! ## A long letter -/

theorem one_le_maxMessages : 1 ≤ maxMessages := by decide

/-- What follows the messages in `letterFile`. -/
def letterBack : Bytes :=
  [64, 1, 0, 0, 200, 0, 0, 0] ++ List.replicate (3 * paletteSize) 0 ++ List.replicate 6 0

/-- A file of revision 18 with a single message, and nothing else in it. -/
def letterFile (text : Bytes) : Bytes :=
  magic ++ [18, 0] ++ [1] ++ List.replicate 36 0 ++ List.replicate 15 0 ++ [1, 0, 0, 0, 0, 0]
    ++ (text ++ 0 :: letterBack)

def letter (text : String) : Room :=
  { dataVersion := 18
    density := .low
    messages := ⟨[{ text }], one_le_maxMessages⟩ }

variable {text : Bytes}

theorem messages_read_letter (fits : text.length ≤ maxLegacyMessage) (plain : 0 ∉ text) :
    (capped (n := maxMessages) maxMessages .message (messageCodec ⟨18⟩)).read
      (1 :: 0 :: 0 :: 0 :: 0 :: 0 :: (text ++ 0 :: letterBack)) =
      .ok (⟨[{ text := Text.Utf8.decodeLossy text }], one_le_maxMessages⟩, letterBack) := by
  let codec := legacyText maxLegacyMessage (.unstorableMessage 0 ⟨18⟩)
  have words : codec.read (text ++ 0 :: letterBack) =
      .ok (Text.Utf8.decodeLossy text, letterBack) :=
    reader_bind_of_ok (readTerminated_append letterBack fits plain)
  -- the two bytes in front of a message are read by evaluation
  have message : (messageCodec ⟨18⟩ 0).read (0 :: 0 :: (text ++ 0 :: letterBack)) =
      .ok ({ text := Text.Utf8.decodeLossy text }, letterBack) := by
    change ((part codec (·.text) (fun x m => { m with text := x }) : Part Message).read {} >>=
      pure) _ = _
    rw [reader_bind_of_ok (reader_bind_of_ok words)]
    rfl
  have items : readItems (messageCodec ⟨18⟩) 0 1 (0 :: 0 :: (text ++ 0 :: letterBack)) =
      .ok ([{ text := Text.Utf8.decodeLossy text }], letterBack) := by
    rw [readItems, reader_bind_of_ok message]
    rfl
  have count : count.read (1 :: 0 :: 0 :: 0 :: 0 :: 0 :: (text ++ 0 :: letterBack)) =
      .ok (1, 0 :: 0 :: (text ++ 0 :: letterBack)) := rfl
  have counted : (counted maxMessages .message (messageCodec ⟨18⟩)).read
      (1 :: 0 :: 0 :: 0 :: 0 :: 0 :: (text ++ 0 :: letterBack)) =
      .ok ([{ text := Text.Utf8.decodeLossy text }], letterBack) :=
    (reader_bind_of_ok count).trans items
  exact reader_bind_of_ok counted

set_option maxRecDepth 4000 in
theorem decode_letterFile (fits : text.length ≤ maxLegacyMessage) (plain : 0 ∉ text) :
    decode (letterFile text) = .ok (letter (Text.Utf8.decodeLossy text)) := by
  have split : roomParts ⟨18⟩ = (roomParts ⟨18⟩).take 8 ++
      part (.capped maxMessages .message (messageCodec ⟨18⟩)) (·.messages)
        (fun x r => { r with messages := x }) :: (roomParts ⟨18⟩).drop 9 := rfl
  have front (rest : Bytes) : readParts ((roomParts ⟨18⟩).take 8) { dataVersion := 18 }
      (1 :: List.replicate 36 0 ++ List.replicate 15 0 ++ rest) =
        .ok ({ dataVersion := 18 }, rest) := rfl
  have back (s : String) : readParts ((roomParts ⟨18⟩).drop 9)
      { dataVersion := 18, messages := ⟨[{ text := s }], one_le_maxMessages⟩ } letterBack =
        .ok (letter s, []) := rfl
  have room : (roomCodec ⟨18⟩).read (1 :: List.replicate 36 0 ++ List.replicate 15 0 ++
      (1 :: 0 :: 0 :: 0 :: 0 :: 0 :: (text ++ 0 :: letterBack))) =
      .ok (letter (Text.Utf8.decodeLossy text), []) := by
    change readParts (roomParts ⟨18⟩) { dataVersion := 18 } _ = _
    rw [split, readParts_append, reader_bind_of_ok (front _), readParts,
      reader_bind_of_ok (reader_bind_of_ok (messages_read_letter fits plain))]
    exact back _
  exact decode_eq_ok_iff.mpr ⟨⟨18⟩, _, [], rfl, room, rfl⟩

/-- A message of the greatest length that a reader takes. -/
def longText : String := String.ofList (List.replicate maxLegacyMessage 'A')

/-- A letter with a message of that length is read, and is not written again. -/
theorem encode_letter_longText :
    decode (letterFile (Text.Utf8.encode longText)) = .ok (letter longText) ∧
      (∃ body, readVersion (letterFile (Text.Utf8.encode longText)) = .ok (⟨18⟩, body)) ∧
      ∀ again, (letter longText).encode ⟨18⟩ ≠ .ok again := by
  have bytes : Text.Utf8.encode longText = List.replicate maxLegacyMessage 0x41 :=
    Text.Utf8.encode_replicate _
  have size : (Text.Utf8.encode longText).length = maxLegacyMessage := by
    rw [bytes, List.length_replicate]
  have plain : 0 ∉ Text.Utf8.encode longText := by
    rw [bytes, List.mem_replicate]
    exact fun zero => absurd zero.2 (by decide)
  have decoded := decode_letterFile (Nat.le_of_eq size) plain
  rw [Text.Utf8.decodeLossy_encode] at decoded
  refine ⟨decoded, ⟨_, rfl⟩, fun again saved => ?_⟩
  have short := short_of_encode (by decide) saved _ List.mem_cons_self
  rw [← Text.Utf8.length_encode] at short
  exact absurd size (Nat.ne_of_lt short)

end Adventure.Room
