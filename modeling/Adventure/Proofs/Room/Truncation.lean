import Adventure.Proofs.Room.Area
import Adventure.Proofs.Room.Upgrade

/-! # Files that are cut or go on

A reader takes what it needs from the front of the data and never looks at what is left over. So a
room that is read is read as well when more data follows, and as a room is read from all that was
written for it, nothing less will do. In the same way a reader that stops the program, for a picture
whose size no word can hold, does so whatever follows; as no such picture is ever written, a file
that has been cut is refused.

* `Reader.Local` — what is read does not depend on what follows. Closed under all ways to put
  readers together.
* `roomCodec_exhausts` — from what is written for a room, nothing is left over.
* `decode_whole` — every cut is noticed, and nothing behind a room matters.
-/

namespace Adventure.Room

variable {α β ρ : Type}

/-! ## Readers -/

/-- Whatever `reader` reads, it reads as well when more data follows, and leaves that over. Where it
stops the program, it does so as well when more data follows. -/
structure Reader.Local (reader : Reader α) : Prop where
  reads : ∀ bytes a rest, reader bytes = .ok (a, rest) →
    ∀ more, reader (bytes ++ more) = .ok (a, rest ++ more)
  stops : ∀ bytes fault, reader bytes = .error fault → fault.isOverflow = true →
    ∀ more, reader (bytes ++ more) = .error fault

variable {x next : Reader α} {f : α → Reader β}

theorem reader_bind_of_error {bytes : Bytes} {fault : Fault} (failed : x bytes = .error fault) :
    (x >>= f) bytes = .error fault := by
  simp only [bind, StateT.bind, failed, Except.bind]

theorem local_pure (a : α) : (pure a : Reader α).Local where
  reads := by
    intro bytes b rest read more
    obtain ⟨rfl, rfl⟩ := Prod.mk.inj (Except.ok.inj read)
    rfl
  stops := by
    intro bytes fault stopped
    cases stopped

theorem local_throw (fault : Fault) : (throw fault : Reader α).Local where
  reads := by
    intro bytes a rest read
    cases read
  stops := fun _ _ stopped _ _ => stopped

theorem Reader.Local.bind (first : x.Local) (later : ∀ a, (f a).Local) : (x >>= f).Local where
  reads := by
    intro bytes b rest read more
    obtain ⟨a, middle, readFirst, readLater⟩ := reader_bind_eq_ok.mp read
    -- what the first reader leaves over is what the next one starts from, with `more` behind it
    have firstMore := first.reads bytes a middle readFirst more
    have laterMore := (later a).reads middle b rest readLater more
    exact reader_bind_eq_ok.mpr ⟨a, middle ++ more, firstMore, laterMore⟩
  stops := by
    intro bytes fault stopped overflows more
    cases readFirst : x bytes with
    | error own =>
      rw [reader_bind_of_error readFirst] at stopped
      obtain rfl := Except.error.inj stopped
      exact reader_bind_of_error (first.stops bytes own readFirst overflows more)
    | ok found =>
      obtain ⟨a, middle⟩ := found
      rw [reader_bind_of_ok readFirst] at stopped
      rw [reader_bind_of_ok (first.reads bytes a middle readFirst more)]
      exact (later a).stops middle fault stopped overflows more

theorem Reader.Local.map (first : x.Local) (g : α → β) : (x >>= fun a => pure (g a)).Local :=
  first.bind fun a => local_pure (g a)

theorem local_demand {c : Prop} [Decidable c] {fault : Fault} (later : next.Local) :
    (if c then next else throw fault >>= fun _ : PUnit => next).Local := by
  split
  · exact later
  · exact (local_throw fault).bind fun _ => later

theorem take_of_le {n : Nat} {bytes : Bytes} (enough : n ≤ bytes.length) (short : Fault) :
    Reader.take n short bytes = .ok (bytes.take n, bytes.drop n) := by
  unfold Reader.take Bytes.split?
  rw [Bytes.hasAtLeast_eq, decide_eq_true enough]
  rfl

theorem take_of_lt {n : Nat} {bytes : Bytes} (less : bytes.length < n) (short : Fault) :
    Reader.take n short bytes = .error short := by
  unfold Reader.take Bytes.split?
  rw [Bytes.hasAtLeast_eq, decide_eq_false (Nat.not_le_of_lt less)]
  rfl

theorem local_take (n : Nat) {short : Fault} (plain : short.isOverflow = false) :
    (Reader.take n short).Local where
  reads := by
    intro bytes front rest read more
    rcases Nat.lt_or_ge bytes.length n with less | enough
    · rw [take_of_lt less] at read
      cases read
    · rw [take_of_le enough] at read
      obtain ⟨rfl, rfl⟩ := Prod.mk.inj (Except.ok.inj read)
      have still : n ≤ (bytes ++ more).length := by
        rw [List.length_append]
        omega
      rw [take_of_le still, List.take_append_of_le_length enough,
        List.drop_append_of_le_length enough]
  stops := by
    intro bytes fault stopped overflows
    rcases Nat.lt_or_ge bytes.length n with less | enough
    · rw [take_of_lt less] at stopped
      obtain rfl := Except.error.inj stopped
      rw [plain] at overflows
      cases overflows
    · rw [take_of_le enough] at stopped
      cases stopped

theorem within_of_error {place : Place} {bytes : Bytes} {cause : Fault}
    (inside : x bytes = .error cause) : x.within place bytes = .error (.within place cause) := by
  rw [Reader.within, inside]

theorem Reader.Local.within (inner : x.Local) (place : Place) : (x.within place).Local where
  reads := by
    intro bytes a rest read more
    cases inside : x bytes with
    | error cause =>
      rw [within_of_error inside] at read
      cases read
    | ok found =>
      obtain ⟨b, left⟩ := found
      rw [within_of_ok inside] at read
      obtain ⟨rfl, rfl⟩ := Prod.mk.inj (Except.ok.inj read)
      exact within_of_ok (inner.reads bytes b left inside more)
  stops := by
    intro bytes fault stopped overflows more
    cases inside : x bytes with
    | error cause =>
      rw [within_of_error inside] at stopped
      obtain rfl := Except.error.inj stopped
      exact within_of_error (inner.stops bytes cause inside overflows more)
    | ok found =>
      rw [within_of_ok inside] at stopped
      cases stopped

/-! ## Codecs -/

namespace Codec

theorem local_word (size : Nat) : (word size).read.Local :=
  (local_take size rfl).map littleEndian

theorem local_via {codec : Codec β} {view : α → β} {ofView : β → α} (inner : codec.read.Local) :
    (codec.via view ofView).read.Local :=
  inner.map ofView

theorem local_byte : byte.read.Local := local_via (local_word 1)

theorem local_uint32 : uint32.read.Local := local_via (local_word 4)

theorem local_int32 : int32.read.Local := local_via local_uint32

theorem local_flag : flag.read.Local := local_via local_byte

theorem local_count : count.read.Local := local_word 4

theorem local_text : text.read.Local := by
  refine local_count.bind fun size => (local_take size rfl).bind fun bytes => ?_
  cases Text.Utf8.decode bytes with
  | ok s => exact local_pure s
  | error fault => exact local_throw _

theorem readTerminated_of_ok {limit room : Nat} {found bytes front rest : Bytes}
    (read : readTerminated limit room found bytes = .ok (front, rest)) (more : Bytes) :
    readTerminated limit room found (bytes ++ more) = .ok (front, rest ++ more) := by
  -- the zero that ends the text stands in front of all that follows
  induction bytes generalizing room found with
  | nil => cases room <;> cases read
  | cons b after hyp =>
    rw [List.cons_append]
    by_cases ends : b = 0
    · rw [readTerminated.eq_def] at read ⊢
      simp only [if_pos ends] at read ⊢
      obtain ⟨rfl, rfl⟩ := Prod.mk.inj (Except.ok.inj read)
      rfl
    · cases room with
      | zero =>
        rw [readTerminated, if_neg ends] at read
        cases read
      | succ room =>
        rw [readTerminated, if_neg ends] at read ⊢
        exact hyp read

theorem isOverflow_of_readTerminated {limit room : Nat} {found bytes : Bytes} {fault : Fault}
    (refused : readTerminated limit room found bytes = .error fault) :
    fault.isOverflow = false := by
  induction bytes generalizing room found with
  | nil =>
    obtain rfl : Fault.within .legacyText .endOfData = fault := by
      cases room <;> exact Except.error.inj refused
    rfl
  | cons b after hyp =>
    by_cases ends : b = 0
    · rw [readTerminated.eq_def] at refused
      simp only [if_pos ends] at refused
      cases refused
    · cases room with
      | zero =>
        rw [readTerminated, if_neg ends] at refused
        obtain rfl := Except.error.inj refused
        rfl
      | succ room =>
        rw [readTerminated, if_neg ends] at refused
        exact hyp refused

theorem local_readTerminated (limit room : Nat) (found : Bytes) :
    (readTerminated limit room found).Local where
  reads := fun _ _ _ read more => readTerminated_of_ok read more
  stops := by
    intro bytes fault stopped overflows
    rw [isOverflow_of_readTerminated stopped] at overflows
    cases overflows

theorem local_legacyText (limit : Nat) (unstorable : Fault) :
    (legacyText limit unstorable).read.Local :=
  (local_readTerminated limit limit []).map Text.Utf8.decodeLossy

variable {item : Nat → Codec α}

theorem local_readItems (each : ∀ index, (item index).read.Local) (count : Nat) :
    ∀ index, (readItems item index count).Local := by
  induction count with
  | zero => exact fun index => local_pure []
  | succ count hyp =>
    exact fun index => (each index).bind fun a => (hyp (index + 1)).map (a :: ·)

theorem local_list (each : ∀ index, (item index).read.Local) : (list item).read.Local :=
  local_count.bind fun count => local_readItems each count 0

theorem local_counted {limit : Nat} {what : Entry} (each : ∀ index, (item index).read.Local) :
    (counted limit what item).read.Local :=
  local_count.bind fun count => local_demand (local_readItems each count 0)

theorem local_limited {n : Nat} (what : Entry) (items : List α) :
    (limited (n := n) what items).Local := by
  unfold limited
  split
  · exact local_pure _
  · exact local_throw _

theorem local_capped {n limit : Nat} {what : Entry} (each : ∀ index, (item index).read.Local) :
    (capped (n := n) limit what item).read.Local :=
  (local_counted each).bind (local_limited what)

theorem local_optional {codec : Codec α} (inner : codec.read.Local) :
    (optional codec).read.Local := by
  refine local_flag.bind fun present => ?_
  cases present with
  | false => exact local_pure none
  | true => exact inner.map some

end Codec

open Codec

/-! ## Records -/

/-- Whether completing a record by `parts` does not depend on what follows. -/
def PartsLocal (parts : List (Part ρ)) : Prop := ∀ before, (readParts parts before).Local

namespace PartsLocal

variable {parts others : List (Part ρ)} {codec : Codec α} {get : ρ → α} {set : α → ρ → ρ}

theorem nil : PartsLocal ([] : List (Part ρ)) := fun before => local_pure before

theorem cons {p : Part ρ} (first : ∀ before, (p.read before).Local) (rest : PartsLocal parts) :
    PartsLocal (p :: parts) :=
  fun before => (first before).bind rest

theorem part (first : codec.read.Local) (rest : PartsLocal parts) :
    PartsLocal (Room.part codec get set :: parts) :=
  cons (fun before => first.map fun a => set a before) rest

theorem append (first : PartsLocal parts) (second : PartsLocal others) :
    PartsLocal (parts ++ others) := by
  intro before
  rw [readParts_append]
  exact (first before).bind second

theorem gate {c : Prop} [Decidable c] (stored : PartsLocal parts) (lacking : PartsLocal others) :
    PartsLocal (if c then parts else others) := by
  split
  · exact stored
  · exact lacking

theorem since {first v : Version} (reads : codec.read.Local) :
    PartsLocal (Room.since first v [Room.part codec get set]) :=
  gate (part reads nil) nil

theorem derived (complete : ρ → ρ) : PartsLocal [Room.derived complete] :=
  cons (fun before => local_pure (complete before)) nil

end PartsLocal

theorem local_record {blank : ρ} {parts : List (Part ρ)} (each : PartsLocal parts) :
    (Codec.record blank parts).read.Local :=
  each blank

theorem local_texts : (Codec.list fun _ => Codec.text).read.Local :=
  local_list fun _ => local_text

theorem local_properties : propertiesCodec.read.Local :=
  local_via <| local_list fun _ => local_record <| .part local_text <| .part local_text .nil

theorem local_events : eventsCodec.read.Local :=
  local_record <| .part local_text <| .part local_texts .nil

theorem local_point : pointCodec.read.Local :=
  local_record <| .part local_int32 <| .part local_int32 .nil

theorem local_edges : edgesCodec.read.Local :=
  local_record <| .part local_int32 <| .part local_int32 <| .part local_int32 <|
    .part local_int32 .nil

theorem local_walkBehind : walkBehindCodec.read.Local :=
  local_record <| .part local_int32 .nil

theorem local_script : scriptCodec.read.Local :=
  local_record <| .part local_text <| .part local_texts <| .part local_texts .nil

theorem local_plainBitmap : plainBitmapCodec.read.Local := by
  refine local_uint32.bind fun width => local_uint32.bind fun height => ?_
  refine local_byte.bind fun depth => local_demand ?_
  refine (local_take _ rfl).bind fun pixels => ?_
  cases Bitmap.ofPixels width height depth pixels.toArray with
  | ok b => exact local_pure b
  | error fault => exact local_throw _

theorem local_bitmap : bitmapCodec.read.Local := local_optional local_plainBitmap

theorem local_palette : paletteCodec.read.Local :=
  ((local_take _ rfl).within .palette).map colorsOf

theorem local_volume : volumeCodec.read.Local := by
  refine local_byte.bind fun raw => ?_
  dsimp only
  cases Volume.ofInt? raw.toInt8.toInt with
  | some volume => exact local_pure volume
  | none => exact local_throw _

theorem local_density : densityCodec.read.Local := by
  refine local_byte.bind fun raw => ?_
  dsimp only
  cases Density.ofNat? raw.toNat with
  | some density => exact local_pure density
  | none => exact local_throw _

theorem local_options : optionsCodec.read.Local :=
  local_record <| .part local_int32 <| .part local_flag <| .part local_flag <|
    .part local_int32 <| .part local_volume <| .part local_int32 .nil

variable (v : Version)

theorem local_hotspot : (hotspotCodec v).read.Local :=
  local_record <|
    .append (.append (.append (.part local_point <| .part local_text .nil)
      (.since local_text)) (.since local_properties)) (.since local_events)

theorem local_object : (objectCodec v).read.Local :=
  local_record <|
    .append (.append (.append
      (.part local_int32 <| .part local_int32 <| .part local_int32 <| .part local_int32 <|
        .part local_flag <| .part local_int32 <| .part local_int32 <| .part local_text .nil)
      (.since local_text)) (.since local_properties)) (.since local_events)

theorem local_region : (regionCodec v).read.Local :=
  local_record <|
    .append (.append (.part local_int32 <| .part local_int32 .nil)
      (.since local_properties)) (.since local_events)

theorem local_walkArea : (walkAreaCodec v).read.Local :=
  local_record <|
    .append (.append (.part local_int32 <| .part local_int32 .nil) (.since local_int32))
      (.part local_int32 <| .part local_int32 <| .part local_int32 .nil)

theorem local_message (index : Nat) : (messageCodec v index).read.Local := by
  have words : (if v < .v261 then legacyText maxLegacyMessage (.unstorableMessage index v)
      else text).read.Local := by
    split
    · exact local_legacyText _ _
    · exact local_text
  exact local_record <| .part local_byte <| .part local_byte <| .part words .nil

theorem local_frame (index : Nat) : (frameCodec v index).read.Local :=
  local_record <|
    .append (.since local_flag)
      (.part local_palette <| .part (local_bitmap.within (.frame index)) .nil)

theorem local_frameHead : (frameHeadCodec v).read.Local := by
  unfold frameHeadCodec
  split
  · exact local_byte.bind fun count => local_byte.map fun speed => (count.toNat, speed.toNat)
  · exact local_pure (1, 5)

theorem local_framesPart (before : Room) : ((framesPart v).read before).Local := by
  refine (local_frameHead v).bind fun (count, speed) => local_demand ?_
  refine (local_readItems (local_frame v) count 0).bind fun items => ?_
  exact (local_limited .frame items).map fun frames => before.withFrames frames _

theorem local_roomCodec : (roomCodec v).read.Local := by
  refine local_record <|
    .append (.append (.append (.append (.append (.append (.append ?_ (.since local_int32))
      (.gate (.part local_density .nil) (.derived _)))
      (.gate (.part local_int32 .nil) (.derived _)))
      ?_) (.since local_properties)) (.since local_events)) ?_
  · exact .part local_byte <|
      .part (local_capped fun _ => local_walkBehind) <|
      .part (local_capped fun _ => local_hotspot v) <|
      .part (local_counted fun _ => local_object v) <|
      .part (local_capped fun _ => local_region v) <|
      .part (local_capped fun _ => local_walkArea v) <|
      .part local_edges <| .part local_options <| .part (local_capped (local_message v)) .nil
  · exact .part local_int32 <| .part local_int32 <| .cons (local_framesPart v) <|
      .part (local_bitmap.within _) <| .part (local_bitmap.within _) <|
      .part (local_bitmap.within _) <| .part (local_bitmap.within _) .nil
  · exact .part (local_optional local_script) .nil

theorem local_readVersion : readVersion.Local := by
  refine ((local_take 4 rfl).within .magic).bind fun found => local_demand ?_
  exact (local_word 2).bind fun number => local_demand (local_pure _)

/-! ## Rooms without a frame

Later revisions write a room without frames, and every reader refuses it. -/

/-- Whether the parts of a record are refused where they are read from what is written of `r`. -/
def PartsRefuse (parts : List (Part ρ)) (r before : ρ) : Prop :=
  ∀ written, writeParts r parts = .ok written → ∀ rest, ∃ fault, fault.isOverflow = false ∧
    readParts parts before (written ++ rest) = .error fault

namespace PartsRefuse

variable {parts others : List (Part ρ)} {p : Part ρ} {r before middle : ρ}

theorem here (refused : ∀ written, p.write r = .ok written → ∀ rest, ∃ fault,
      fault.isOverflow = false ∧ p.read before (written ++ rest) = .error fault) :
    PartsRefuse (p :: parts) r before := by
  intro written wrote rest
  obtain ⟨head, wroteHead, afterHead⟩ := except_bind_eq_ok.mp wrote
  obtain ⟨body, wroteBody, joined⟩ := except_bind_eq_ok.mp afterHead
  obtain rfl := Except.ok.inj joined
  obtain ⟨fault, plain, failed⟩ := refused head wroteHead (body ++ rest)
  refine ⟨fault, plain, ?_⟩
  rw [List.append_assoc, readParts]
  exact reader_bind_of_error failed

theorem later (first : p.GivesBack r before middle) (refused : PartsRefuse parts r middle) :
    PartsRefuse (p :: parts) r before := by
  intro written wrote rest
  obtain ⟨head, wroteHead, afterHead⟩ := except_bind_eq_ok.mp wrote
  obtain ⟨body, wroteBody, joined⟩ := except_bind_eq_ok.mp afterHead
  obtain rfl := Except.ok.inj joined
  obtain ⟨fault, plain, failed⟩ := refused body wroteBody rest
  refine ⟨fault, plain, ?_⟩
  rw [List.append_assoc, readParts, reader_bind_of_ok (first head wroteHead _)]
  exact failed

theorem front (refused : PartsRefuse parts r before) : PartsRefuse (parts ++ others) r before := by
  intro written wrote rest
  obtain ⟨front, back, wroteFront, wroteBack, rfl⟩ := writeParts_append_eq_ok wrote
  obtain ⟨fault, plain, failed⟩ := refused front wroteFront (back ++ rest)
  refine ⟨fault, plain, ?_⟩
  rw [List.append_assoc, readParts_append]
  exact reader_bind_of_error failed

theorem back (first : PartsGiveBack parts r before middle) (refused : PartsRefuse others r middle) :
    PartsRefuse (parts ++ others) r before := by
  intro written wrote rest
  obtain ⟨front, back, wroteFront, wroteBack, rfl⟩ := writeParts_append_eq_ok wrote
  obtain ⟨fault, plain, failed⟩ := refused back wroteBack rest
  refine ⟨fault, plain, ?_⟩
  rw [List.append_assoc, readParts_append, reader_bind_of_ok (first front wroteFront _)]
  exact failed

end PartsRefuse

variable {v} {r : Room}

theorem framesPart_refuses (before : Room) (late : .v255a ≤ v) (unframed : r.frames.toList = [])
    {written : Bytes} (wrote : (framesPart v).write r = .ok written) (rest : Bytes) :
    ∃ fault, fault.isOverflow = false ∧
      (framesPart v).read before (written ++ rest) = .error fault := by
  obtain ⟨head, wroteHead, wrote⟩ := except_bind_eq_ok.mp wrote
  obtain ⟨body, wroteBody, joined⟩ := except_bind_eq_ok.mp wrote
  obtain rfl := Except.ok.inj joined
  have empty : r.frames.length = 0 := by rw [Capped.length, unframed, List.length_nil]
  have read := frameHeadCodec_givesBack v (by decide : (0 : Nat) < 2 ^ 8)
    (speedByte r.animationSpeed).toNat_lt (absurd late) head (empty ▸ wroteHead) (body ++ rest)
  refine ⟨.badFrameCount 0 maxFrames, rfl, ?_⟩
  rw [List.append_assoc]
  simp only [framesPart]
  rw [reader_bind_of_ok read]
  rfl

/-- What is written of a room without frames is not read again. -/
theorem roomCodec_refuses (writable : r.checkWritable v = .ok ())
    (unframed : r.frames.toList = []) :
    PartsRefuse (roomParts v) r { dataVersion := v.number } := by
  obtain ⟨-, hotspots, objects, single⟩ := checkWritable_eq_ok_iff.mp writable
  have late : .v255a ≤ v := by
    refine single.resolve_right fun one => ?_
    rw [Capped.length, unframed] at one
    cases one
  -- everything in front of the frames is read as it was written
  refine .front <| .front <| .front <| .back (.append (.append (.append
      (.cons (part_givesBack (byte_givesBack r.backgroundDepth)) <|
        .cons (part_givesBack (capped_givesBack_self r.walkBehinds.length_le
          fun _ w _ => walkBehindCodec_givesBack w)) <|
        .cons (part_givesBack (capped_givesBack _ hotspots
          fun _ h _ => hotspotCodec_givesBack v h)) <|
        .cons (part_givesBack (counted_givesBack _ objects
          fun _ o _ => objectCodec_givesBack v o)) <|
        .cons (part_givesBack (capped_givesBack _ r.regions.length_le
          fun _ region _ => regionCodec_givesBack v region)) <|
        .cons (part_givesBack (capped_givesBack _ r.walkAreas.length_le
          fun _ a _ => walkAreaCodec_givesBack v a)) <|
        .cons (part_givesBack (edgesCodec_givesBack r.edges)) <|
        .cons (part_givesBack (optionsCodec_givesBack r.options)) <|
        .cons (part_givesBack (capped_givesBack_self r.messages.length_le
          fun index m _ => messageCodec_givesBack v index m)) <| .nil r _)
      (.since rfl (int32_givesBack r.gameId)))
      (.storedOrDerived (densityCodec_givesBack r.density) rfl))
      (.storedOrDerived (int32_givesBack r.maskResolution) rfl)) ?_
  refine .later (part_givesBack (int32_givesBack r.width)) <|
    .later (part_givesBack (int32_givesBack r.height)) <| .here fun written wrote rest => ?_
  exact framesPart_refuses _ late unframed wrote rest

/-- A reader that accepts what was written of a room leaves nothing of it. -/
theorem roomCodec_exhausts {s : Room} {body rest : Bytes} (writable : r.checkWritable v = .ok ())
    (wrote : (roomCodec v).write r = .ok body) (read : (roomCodec v).read body = .ok (s, rest)) :
    rest = [] := by
  by_cases unframed : r.frames.toList = []
  · obtain ⟨fault, -, failed⟩ := roomCodec_refuses writable unframed body wrote []
    rw [List.append_nil] at failed
    cases failed.symm.trans read
  · have again := roomCodec_givesBack v writable unframed body wrote []
    rw [List.append_nil] at again
    exact (Prod.mk.inj (Except.ok.inj (read.symm.trans again))).2

/-- No reader stops the program for what was written of a room. -/
theorem isOverflow_of_roomCodec {body : Bytes} {fault : Fault}
    (writable : r.checkWritable v = .ok ()) (wrote : (roomCodec v).write r = .ok body)
    (refused : (roomCodec v).read body = .error fault) : fault.isOverflow = false := by
  by_cases unframed : r.frames.toList = []
  · obtain ⟨own, plain, failed⟩ := roomCodec_refuses writable unframed body wrote []
    rw [List.append_nil] at failed
    obtain rfl := Except.error.inj (refused.symm.trans failed)
    exact plain
  · have again := roomCodec_givesBack v writable unframed body wrote []
    rw [List.append_nil] at again
    cases refused.symm.trans again

/-! ## Files -/

theorem encode_eq_ok {bytes : Bytes} (saved : r.encode v = .ok bytes) :
    ∃ body, r.checkWritable v = .ok () ∧ (roomCodec v).write r = .ok body ∧
      bytes = magic ++ toLittleEndian 2 v.number ++ body := by
  obtain ⟨⟨⟩, writable, saved⟩ := except_bind_eq_ok.mp saved
  obtain ⟨body, wrote, joined⟩ := except_bind_eq_ok.mp saved
  exact ⟨body, writable, wrote, (Except.ok.inj joined).symm⟩

theorem decode_append {bytes : Bytes} (decoded : decode bytes = .ok r) (more : Bytes) :
    decode (bytes ++ more) = .ok r := by
  obtain ⟨v, body, rest, marked, read, valid⟩ := decode_eq_ok_iff.mp decoded
  have markedMore := local_readVersion.reads _ _ _ marked more
  have readMore := (local_roomCodec v).reads _ _ _ read more
  exact decode_eq_ok_iff.mpr ⟨v, body ++ more, rest ++ more, markedMore, readMore, valid⟩

theorem eq_nil_of_decode_cut {s : Room} {front more : Bytes}
    (saved : r.encode v = .ok (front ++ more)) (decoded : decode front = .ok s) : more = [] := by
  obtain ⟨body, writable, wrote, joined⟩ := encode_eq_ok saved
  obtain ⟨supported, -⟩ := checkWritable_eq_ok_iff.mp writable
  obtain ⟨w, found, rest, marked, read, -⟩ := decode_eq_ok_iff.mp decoded
  -- the cut file and the whole one have the same mark and revision in front
  have markedWhole := local_readVersion.reads _ _ _ marked more
  rw [joined, readVersion_append supported body] at markedWhole
  obtain ⟨rfl, rfl⟩ := Prod.mk.inj (Except.ok.inj markedWhole)
  have readWhole := (local_roomCodec v).reads _ _ _ read more
  have nothing := roomCodec_exhausts writable wrote readWhole
  exact (List.append_eq_nil_iff.mp nothing).2

theorem decode_eq_error {bytes : Bytes} {fault : Fault} (refused : decode bytes = .error fault) :
    readVersion bytes = .error fault ∨ ∃ w body, readVersion bytes = .ok (w, body) ∧
      ((roomCodec w).read body = .error fault ∨ ∃ s : Room, s.validate = .error fault) := by
  rcases except_bind_eq_error.mp refused with stopped | ⟨⟨w, body⟩, marked, refused⟩
  · exact .inl stopped
  refine .inr ⟨w, body, marked, ?_⟩
  rcases except_bind_eq_error.mp refused with stopped | ⟨⟨s, rest⟩, -, refused⟩
  · exact .inl stopped
  rcases except_bind_eq_error.mp refused with invalid | ⟨_, -, refused⟩
  · exact .inr ⟨s, invalid⟩
  · cases refused

/-- What stops the program in a cut file would stop it in the whole one. -/
theorem isOverflow_of_decode_cut {front more : Bytes} {fault : Fault}
    (saved : r.encode v = .ok (front ++ more)) (refused : decode front = .error fault) :
    fault.isOverflow = false := by
  obtain ⟨body, writable, wrote, joined⟩ := encode_eq_ok saved
  obtain ⟨supported, -⟩ := checkWritable_eq_ok_iff.mp writable
  have whole := readVersion_append supported body
  rw [← joined] at whole
  rw [← Bool.not_eq_true]
  intro overflows
  rcases decode_eq_error refused with stopped | ⟨w, part, marked, stopped | ⟨s, invalid⟩⟩
  · cases (local_readVersion.stops front fault stopped overflows more).symm.trans whole
  · have markedWhole := local_readVersion.reads front w part marked more
    obtain ⟨rfl, rfl⟩ := Prod.mk.inj (Except.ok.inj (markedWhole.symm.trans whole))
    have stoppedWhole := (local_roomCodec w).stops part fault stopped overflows more
    rw [isOverflow_of_roomCodec writable wrote stoppedWhole] at overflows
    cases overflows
  · rw [isOverflow_of_validate invalid] at overflows
    cases overflows

/-- A file that has been cut anywhere is refused, whatever room and revision it was saved from, and
a file that is read is read as the same room with anything behind it. -/
theorem decode_whole :
    (∀ (r : Room) (v : Version) (bytes : Bytes), r.encode v = .ok bytes →
      ∀ front, front <+: bytes → front ≠ bytes →
        ∃ fault, decode front = .error fault ∧ fault.isOverflow = false) ∧
    (∀ (bytes : Bytes) (r : Room), decode bytes = .ok r →
      ∀ more, decode (bytes ++ more) = .ok r) := by
  refine ⟨?_, fun bytes r decoded more => decode_append decoded more⟩
  rintro r v bytes saved front ⟨more, rfl⟩ cut
  cases decoded : decode front with
  | error fault => exact ⟨fault, rfl, isOverflow_of_decode_cut saved decoded⟩
  | ok s =>
    obtain rfl := eq_nil_of_decode_cut saved decoded
    exact absurd (List.append_nil front).symm cut

theorem decode_cut_cellar :
    (∃ bytes, cellar.encode ⟨22⟩ = .ok bytes ∧
      ∃ fault, decode bytes.dropLast = .error fault ∧ fault.isOverflow = false) ∧
    decode wornFile = .ok wornRoom ∧ decode (wornFile ++ [7, 7]) = .ok wornRoom := by
  refine ⟨?_, decode_wornFile, decode_whole.2 wornFile wornRoom decode_wornFile [7, 7]⟩
  obtain ⟨bytes, saved⟩ : ∃ bytes, cellar.encode ⟨22⟩ = .ok bytes := ⟨_, rfl⟩
  refine ⟨bytes, saved, decode_whole.1 cellar ⟨22⟩ bytes saved _ (List.dropLast_prefix bytes) ?_⟩
  obtain ⟨body, -, -, rfl⟩ := encode_eq_ok saved
  intro same
  have shorter := congrArg List.length same
  simp [magic] at shorter

end Adventure.Room
