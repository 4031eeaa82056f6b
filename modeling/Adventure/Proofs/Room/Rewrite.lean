import Adventure.Proofs.Room.Reader
import Adventure.Proofs.Room.RoundTrip

/-! # Rooms that are read and written again

Every record that revision `v` reads is its own normal form, and every later revision `u` writes it.
If `u` is `v` itself, nothing that is written is longer than what was read.

* `Gated` — a part that is stored from some revision on.
* `hotspotCodec_yields`, `objectCodec_yields`, … — the records of a room.
* `roomCodec_yields` — the room.
-/

namespace Adventure.Room

open Codec

variable {α ρ : Type} {tight : Prop} {v u : Version}

/-! ## Parts with a history -/

/-- What is known of a part when revision `v` has read it: it is written again, or it is the default
of the revisions before `first`. -/
structure Gated (first v : Version) (tight : Prop) (codec : Codec α) (default a : α) (size : Nat) :
    Prop where
  stored : first ≤ v → codec.Rewrites tight a size
  absent : ¬ first ≤ v → a = default

variable {first : Version} {codec : Codec α} {get : ρ → α} {set : α → ρ → ρ} {before r : ρ}
  {lacking : List (Part ρ)} {S : ρ → Nat → Prop} {a default : α} {n : Nat}

theorem Gated.kept_eq (gated : Gated first v tight codec default a n) :
    kept first v a default = a := by
  unfold kept
  split
  · rfl
  · next early => exact (gated.absent early).symm

/-- Reading a part, or taking the default. -/
theorem readParts_gate (lacks : readParts lacking before = pure (set default before))
    (reads : codec.read.Yields (codec.Rewrites tight))
    (next : ∀ a n, Gated first v tight codec default a n → S (set a before) n) :
    (readParts (if first ≤ v then [part codec get set] else lacking) before).Yields S := by
  split
  · next late =>
    exact readParts_part reads fun a n written =>
      readParts_nil (next a n ⟨fun _ => written, fun early => absurd late early⟩)
  · next early =>
    rw [lacks]
    exact yields_pure (next default 0 ⟨fun late => absurd late early, fun _ => rfl⟩)

/-- Later revisions store what was read, or the default. -/
theorem rewrites_gate (older : v ≤ u) (nothing : writeParts r lacking = .ok [])
    (gated : Gated first v (u = v) codec default (get r) n)
    (blank : ∃ written, codec.write default = .ok written) :
    PartsRewrite (u = v) (if first ≤ u then [part codec get set] else lacking) r n := by
  split
  · next late =>
    by_cases stored : first ≤ v
    · exact .cons (gated.stored stored) .nil
    · -- revision `v` has read the default, and as `u` stores the part it is not `v`
      obtain ⟨written, wrote⟩ := blank
      refine .cons ⟨written, ?_, ?_⟩ .nil
      · exact (congrArg codec.write (gated.absent stored)).trans wrote
      · rintro rfl
        exact absurd late stored
  · exact ⟨[], nothing, fun _ => Nat.zero_le n⟩

theorem readParts_since (reads : codec.read.Yields (codec.Rewrites tight))
    (setGet : set (get before) before = before)
    (next : ∀ a n, Gated first v tight codec (get before) a n → S (set a before) n) :
    (readParts (since first v [part codec get set]) before).Yields S :=
  readParts_gate (by rw [setGet]; rfl) reads next

theorem rewrites_since (older : v ≤ u) (gated : Gated first v (u = v) codec default (get r) n)
    (blank : ∃ written, codec.write default = .ok written) :
    PartsRewrite (u = v) (since first u [part codec get set]) r n :=
  rewrites_gate older rfl gated blank

/-! ## Records of one layout -/

theorem pointCodec_yields : pointCodec.read.Yields (pointCodec.Rewrites tight) :=
  record_yields <|
    readParts_part int32_yields fun _ _ x =>
    readParts_part int32_yields fun _ _ y =>
    readParts_nil (PartsRewrite.cons x <| .cons y .nil)

theorem edgesCodec_yields : edgesCodec.read.Yields (edgesCodec.Rewrites tight) :=
  record_yields <|
    readParts_part int32_yields fun _ _ left =>
    readParts_part int32_yields fun _ _ right =>
    readParts_part int32_yields fun _ _ top =>
    readParts_part int32_yields fun _ _ bottom =>
    readParts_nil (PartsRewrite.cons left <| .cons right <| .cons top <| .cons bottom .nil)

theorem walkBehindCodec_yields :
    walkBehindCodec.read.Yields (walkBehindCodec.Rewrites tight) :=
  record_yields <|
    readParts_part int32_yields fun _ _ baseline =>
    readParts_nil (PartsRewrite.cons baseline .nil)

theorem texts_yields : (Codec.list fun _ => Codec.text).read.Yields
    ((Codec.list fun _ => Codec.text).Rewrites tight) :=
  (list_yields fun _ => text_yields.mono fun _ _ written => ⟨trivial, written⟩).mono
    fun _ _ read => read.2

theorem eventsCodec_yields : eventsCodec.read.Yields (eventsCodec.Rewrites tight) :=
  record_yields <|
    readParts_part text_yields fun _ _ scriptModule =>
    readParts_part texts_yields fun _ _ handlers =>
    readParts_nil (PartsRewrite.cons scriptModule <| .cons handlers .nil)

theorem scriptCodec_yields : scriptCodec.read.Yields (scriptCodec.Rewrites tight) :=
  record_yields <|
    readParts_part text_yields fun _ _ name =>
    readParts_part texts_yields fun _ _ exports =>
    readParts_part texts_yields fun _ _ imports =>
    readParts_nil (PartsRewrite.cons name <| .cons exports <| .cons imports .nil)

/-! ## Properties -/

/-- The bytes of a text, without its length in front. -/
def textSize (s : String) : Nat := (Text.Utf8.encode s).length

/-- A name and a text. -/
def pairCodec : Codec (String × String) :=
  .record ("", "") [
    part .text (·.1) (fun x p => (x, p.2)),
    part .text (·.2) (fun x p => (p.1, x))]

theorem pairCodec_takes : pairCodec.read.Yields fun p size =>
    (textSize p.1 < 2 ^ 32 ∧ textSize p.2 < 2 ^ 32) ∧ size = 8 + textSize p.1 + textSize p.2 :=
  record_yields <|
    readParts_part text_takes fun name n first =>
    readParts_part text_takes fun text m second =>
    readParts_nil ⟨⟨first.1, second.1⟩, by
      show n + (m + 0) = 8 + textSize name + textSize text
      rw [first.2, second.2, textSize, textSize]
      omega⟩

theorem readItems_pairs (count : Nat) : ∀ index,
    (readItems (fun _ => pairCodec) index count).Yields fun pairs size => pairs.length = count ∧
      (∀ p ∈ pairs, textSize p.1 < 2 ^ 32 ∧ textSize p.2 < 2 ^ 32) ∧
      size = PropertyMap.weightOf 8 textSize pairs := by
  induction count with
  | zero => exact fun index => yields_pure ⟨rfl, nofun, rfl⟩
  | succ count hyp =>
    intro index
    refine pairCodec_takes.bind fun p n first => ?_
    refine (hyp (index + 1)).bind fun pairs m others => yields_pure ?_
    obtain ⟨short, rfl⟩ := first
    obtain ⟨rfl, shortOthers, rfl⟩ := others
    exact ⟨rfl, List.forall_mem_cons.mpr ⟨short, shortOthers⟩, rfl⟩

theorem writeItems_pairs {pairs : List (String × String)}
    (short : ∀ p ∈ pairs, textSize p.1 < 2 ^ 32 ∧ textSize p.2 < 2 ^ 32) : ∀ index,
    ∃ written, writeItems (fun _ => pairCodec) index pairs = .ok written ∧
      (tight → written.length ≤ PropertyMap.weightOf 8 textSize pairs) := by
  induction pairs with
  | nil => exact fun index => ⟨[], rfl, fun _ => Nat.le_refl _⟩
  | cons p rest hyp =>
    intro index
    obtain ⟨⟨name, text⟩, later⟩ := List.forall_mem_cons.mp short
    obtain ⟨front, wroteFront, frontShort⟩ : pairCodec.Rewrites tight p
        (4 + textSize p.1 + (4 + textSize p.2 + 0)) :=
      PartsRewrite.cons (rewrites_text name) <| .cons (rewrites_text text) .nil
    obtain ⟨back, wroteBack, backShort⟩ := hyp later (index + 1)
    refine ⟨front ++ back, ?_, fun short => ?_⟩
    · rw [writeItems, wroteFront, wroteBack]
      rfl
    · have := frontShort short
      have := backShort short
      simp only [PropertyMap.weightOf, List.map_cons, List.sum_cons, List.length_append] at *
      omega

/-- Whatever a list of properties repeats, the map that it makes lists no more. -/
theorem propertiesCodec_yields : propertiesCodec.read.Yields (propertiesCodec.Rewrites tight) := by
  refine via_yields (S := fun pairs size => pairs.length < 2 ^ 32 ∧
    (∀ p ∈ pairs, textSize p.1 < 2 ^ 32 ∧ textSize p.2 < 2 ^ 32) ∧
    size = 4 + PropertyMap.weightOf 8 textSize pairs) ?_ ?_
  · refine count_yields.bind fun n taken counted => ?_
    refine (readItems_pairs n 0).mono fun pairs size read => ?_
    obtain ⟨rfl, short, rfl⟩ := read
    exact ⟨counted.1, short, by rw [counted.2]⟩
  · rintro pairs size ⟨few, short, rfl⟩
    -- a name that is listed again keeps its first spelling, so nothing new is written for it
    have fewer := Nat.lt_of_le_of_lt (PropertyMap.length_ofPairs_le pairs) few
    have lighter := PropertyMap.weightOf_ofPairs_le 8 textSize pairs
    have listed := PropertyMap.forall_mem_ofPairs (P := fun s => textSize s < 2 ^ 32) short
    obtain ⟨written, wrote, bounded⟩ : (Codec.list fun _ => pairCodec).Rewrites tight
        (PropertyMap.ofPairs pairs).toPairs _ := rewrites_list fewer (writeItems_pairs listed 0)
    exact ⟨written, wrote, fun short =>
      Nat.le_trans (bounded short) (Nat.add_le_add_left lighter 4)⟩

/-! ## Pictures -/

theorem plainBitmapCodec_yields :
    plainBitmapCodec.read.Yields (plainBitmapCodec.Rewrites tight) := by
  refine Reader.Yields.bind (P := uint32.Rewrites tight) uint32_yields fun width n wroteWidth => ?_
  refine Reader.Yields.bind (P := uint32.Rewrites tight) uint32_yields
    fun height m wroteHeight => ?_
  refine Reader.Yields.bind (P := byte.Rewrites tight) byte_yields fun depth k wroteDepth => ?_
  refine yields_demand fun _ => (yields_take _ _).bind fun pixels size taken => ?_
  cases made : Bitmap.ofPixels width height depth pixels.toArray with
  | error fault => exact yields_throw _
  | ok b =>
    obtain ⟨rfl, rfl, rfl, stored⟩ := Bitmap.ofPixels_eq_ok made
    obtain ⟨first, wroteFirst, firstShort⟩ := wroteWidth
    obtain ⟨second, wroteSecond, secondShort⟩ := wroteHeight
    obtain ⟨third, wroteThird, thirdShort⟩ := wroteDepth
    -- the pixels are written as they were read, since the bitmap has taken them over unchanged
    refine yields_pure ⟨first ++ second ++ third ++ pixels, ?_, ?_⟩
    · simp only [plainBitmapCodec, wroteFirst, wroteSecond, wroteThird, stored]
      rfl
    · intro short
      have := firstShort short
      have := secondShort short
      have := thirdShort short
      simp only [List.length_append]
      omega

theorem bitmapCodec_yields : bitmapCodec.read.Yields (bitmapCodec.Rewrites tight) :=
  optional_yields plainBitmapCodec_yields

theorem placedBitmap_yields (place : Place) :
    (bitmapCodec.within place).read.Yields ((bitmapCodec.within place).Rewrites tight) :=
  bitmapCodec_yields.within place

theorem length_colorsOf {n : Nat} {bytes : Bytes} (length : bytes.length = 3 * n) :
    (colorsOf bytes).length = n := by
  induction n generalizing bytes with
  | zero =>
    obtain rfl := List.length_eq_zero_iff.mp length
    rfl
  | succ n hyp =>
    match bytes, length with
    | red :: green :: blue :: rest, length =>
      have later : rest.length = 3 * n := by
        simp only [List.length_cons] at length
        omega
      rw [colorsOf, List.length_cons, hyp later]

theorem storedPalette_of_full {palette : List Color} (full : palette.length = paletteSize) :
    storedPalette palette = palette := by
  rw [storedPalette, full, List.take_of_length_le (Nat.le_of_eq full), Nat.sub_self,
    List.replicate_zero, List.append_nil]

/-- A palette of a file has as many colours as files hold. -/
theorem paletteCodec_yields : paletteCodec.read.Yields fun palette size =>
    storedPalette palette = palette ∧ paletteCodec.Rewrites tight palette size := by
  refine ((yields_take _ _).within _).map fun bytes size taken => ?_
  refine ⟨storedPalette_of_full (length_colorsOf taken.1), _, rfl, fun _ => ?_⟩
  show ((storedPalette (colorsOf bytes)).flatMap _).length ≤ size
  rw [length_colorBytes, length_storedPalette, taken.2]

/-! ## Choices -/

theorem volumeCodec_yields : volumeCodec.read.Yields (volumeCodec.Rewrites tight) := by
  refine byte_takes.bind fun raw size taken => ?_
  dsimp only
  cases Volume.ofInt? raw.toInt8.toInt with
  | none => exact yields_throw _
  | some volume => exact yields_pure (taken ▸ rewrites_word 1 _)

theorem densityCodec_yields : densityCodec.read.Yields (densityCodec.Rewrites tight) := by
  refine byte_takes.bind fun raw size taken => ?_
  dsimp only
  cases Density.ofNat? raw.toNat with
  | none => exact yields_throw _
  | some density => exact yields_pure (taken ▸ rewrites_word 1 _)

theorem optionsCodec_yields : optionsCodec.read.Yields (optionsCodec.Rewrites tight) :=
  record_yields <|
    readParts_part int32_yields fun _ _ startupMusic =>
    readParts_part flag_yields fun _ _ saveLoad =>
    readParts_part flag_yields fun _ _ playerCharacter =>
    readParts_part int32_yields fun _ _ playerView =>
    readParts_part volumeCodec_yields fun _ _ volume =>
    readParts_part int32_yields fun _ _ flags =>
    readParts_nil (PartsRewrite.cons startupMusic <| .cons saveLoad <| .cons playerCharacter <|
      .cons playerView <| .cons volume <| .cons flags .nil)

/-! ## Records with a history -/

theorem writes_noText : ∃ written, Codec.text.write "" = .ok written := ⟨_, rfl⟩

theorem writes_noProperties : ∃ written, propertiesCodec.write ∅ = .ok written := ⟨_, rfl⟩

theorem writes_noEvents : ∃ written, eventsCodec.write {} = .ok written := ⟨_, rfl⟩

theorem hotspotCodec_yields (older : v ≤ u) : (hotspotCodec v).read.Yields fun h size =>
    h.asStored v = h ∧ (hotspotCodec u).Rewrites (u = v) h size :=
  record_yields <|
    readParts_both <| readParts_both <| readParts_both <|
    readParts_part pointCodec_yields fun _ _ walkTo =>
    readParts_part text_yields fun _ _ name =>
    readParts_nil <|
    readParts_since text_yields rfl fun _ _ scriptName =>
    readParts_since propertiesCodec_yields rfl fun _ _ properties =>
    readParts_since eventsCodec_yields rfl fun _ _ events =>
    ⟨by simp only [Hotspot.asStored, scriptName.kept_eq, properties.kept_eq, events.kept_eq],
      PartsRewrite.append (.append (.append
        (.cons walkTo <| .cons name .nil)
        (rewrites_since older scriptName writes_noText))
        (rewrites_since older properties writes_noProperties))
        (rewrites_since older events writes_noEvents)⟩

theorem objectCodec_yields (older : v ≤ u) : (objectCodec v).read.Yields fun o size =>
    o.asStored v = o ∧ (objectCodec u).Rewrites (u = v) o size :=
  record_yields <|
    readParts_both <| readParts_both <| readParts_both <|
    readParts_part int32_yields fun _ _ sprite =>
    readParts_part int32_yields fun _ _ x =>
    readParts_part int32_yields fun _ _ y =>
    readParts_part int32_yields fun _ _ room =>
    readParts_part flag_yields fun _ _ isOn =>
    readParts_part int32_yields fun _ _ baseline =>
    readParts_part int32_yields fun _ _ flags =>
    readParts_part text_yields fun _ _ name =>
    readParts_nil <|
    readParts_since text_yields rfl fun _ _ scriptName =>
    readParts_since propertiesCodec_yields rfl fun _ _ properties =>
    readParts_since eventsCodec_yields rfl fun _ _ events =>
    ⟨by simp only [Object.asStored, scriptName.kept_eq, properties.kept_eq, events.kept_eq],
      PartsRewrite.append (.append (.append
        (.cons sprite <| .cons x <| .cons y <| .cons room <| .cons isOn <| .cons baseline <|
          .cons flags <| .cons name .nil)
        (rewrites_since older scriptName writes_noText))
        (rewrites_since older properties writes_noProperties))
        (rewrites_since older events writes_noEvents)⟩

theorem regionCodec_yields (older : v ≤ u) : (regionCodec v).read.Yields fun r size =>
    r.asStored v = r ∧ (regionCodec u).Rewrites (u = v) r size :=
  record_yields <|
    readParts_both <| readParts_both <|
    readParts_part int32_yields fun _ _ light =>
    readParts_part int32_yields fun _ _ tint =>
    readParts_nil <|
    readParts_since propertiesCodec_yields rfl fun _ _ properties =>
    readParts_since eventsCodec_yields rfl fun _ _ events =>
    ⟨by simp only [Region.asStored, properties.kept_eq, events.kept_eq],
      PartsRewrite.append (.append
        (.cons light <| .cons tint .nil)
        (rewrites_since older properties writes_noProperties))
        (rewrites_since older events writes_noEvents)⟩

theorem walkAreaCodec_yields (older : v ≤ u) : (walkAreaCodec v).read.Yields fun a size =>
    a.asStored v = a ∧ (walkAreaCodec u).Rewrites (u = v) a size :=
  record_yields <|
    readParts_both <| readParts_both <|
    readParts_part int32_yields fun _ _ characterView =>
    readParts_part int32_yields fun _ _ scalingFar =>
    readParts_nil <|
    readParts_since int32_yields rfl fun _ _ scalingNear =>
    readParts_part int32_yields fun _ _ playerView =>
    readParts_part int32_yields fun _ _ top =>
    readParts_part int32_yields fun _ _ bottom =>
    readParts_nil
    ⟨by simp only [WalkArea.asStored, scalingNear.kept_eq],
      PartsRewrite.append (.append
        (.cons characterView <| .cons scalingFar .nil)
        (rewrites_since older scalingNear ⟨_, rfl⟩))
        (.cons playerView <| .cons top <| .cons bottom .nil)⟩

theorem messageCodec_yields (older : v ≤ u) (late : .v261 ≤ u) (index : Nat) :
    (messageCodec v index).read.Yields ((messageCodec u index).Rewrites (u = v)) := by
  have words : (if v < .v261 then legacyText maxLegacyMessage (.unstorableMessage index v)
      else text).read.Yields ((if u < .v261 then
        legacyText maxLegacyMessage (.unstorableMessage index u) else text).Rewrites (u = v)) := by
    have new : ¬ u < .v261 := Nat.not_lt_of_le late
    rw [if_neg new]
    split
    · next early =>
      -- the length in front takes more room than the zero behind, so that `u = v` has to be false
      refine (legacyText_yields _ _).mono fun s size ⟨bounded, _⟩ => ?_
      have short : (Text.Utf8.encode s).length < 2 ^ 32 := Nat.lt_of_le_of_lt bounded (by decide)
      obtain ⟨written, wrote, -⟩ : Codec.text.Rewrites False s _ := rewrites_text short
      refine ⟨written, wrote, ?_⟩
      rintro rfl
      exact (new early).elim
    · exact text_yields
  exact record_yields <|
    readParts_part byte_yields fun _ _ displayAs =>
    readParts_part byte_yields fun _ _ flags =>
    readParts_part words fun _ _ text =>
    readParts_nil (PartsRewrite.cons displayAs <| .cons flags <| .cons text .nil)

theorem frameCodec_yields (older : v ≤ u) (index : Nat) : (frameCodec v index).read.Yields
    fun f size => f.asStored v = f ∧ (frameCodec u index).Rewrites (u = v) f size :=
  record_yields <|
    readParts_both <|
    readParts_since flag_yields rfl fun _ _ paletteShared =>
    readParts_part paletteCodec_yields fun _ _ palette =>
    readParts_part (placedBitmap_yields _) fun _ _ graphic =>
    readParts_nil
    ⟨by simp only [Frame.asStored, paletteShared.kept_eq, palette.1],
      PartsRewrite.append
        (rewrites_since older paletteShared ⟨_, rfl⟩)
        (.cons palette.2 <| .cons graphic .nil)⟩

/-! ## The frames -/

theorem storedSpeed_ofNat {n : Nat} (small : n < 2 ^ 8) :
    storedSpeed (Int32.ofNat n) = Int32.ofNat n := by
  have same : (Int32.ofNat n).toInt = n := Int32.toInt_ofNat_of_lt (by omega)
  rw [storedSpeed, same, ← Int32.ofInt_eq_ofNat]
  congr 1
  omega

theorem frameHeadCodec_yields (older : v ≤ u) : (frameHeadCodec v).read.Yields fun head size =>
    head.2 < 2 ^ 8 ∧ (¬ .v255a ≤ v → head = (1, 5)) ∧
      ∀ other, (frameHeadCodec u).Rewrites (u = v) other size := by
  have written (other : Nat × Nat) (size : Nat) (enough : .v255a ≤ v → size = 2) :
      (frameHeadCodec u).Rewrites (u = v) other size := by
    unfold Rewrites frameHeadCodec
    split
    · next late =>
      refine ⟨_, rfl, ?_⟩
      rintro rfl
      rw [enough late]
      exact Nat.le_refl _
    · exact ⟨[], rfl, fun _ => Nat.zero_le size⟩
  unfold frameHeadCodec
  split
  · next late =>
    refine byte_takes.bind fun count n first => byte_takes.bind fun speed m second => ?_
    exact yields_pure ⟨speed.toNat_lt, fun early => absurd late early,
      fun other => written other _ fun _ => by rw [first, second]⟩
  · next early =>
    exact yields_pure ⟨by decide, fun _ => rfl, fun other => written other _ fun late =>
      absurd late early⟩

theorem map_eq_self {f : α → α} {items : List α} (same : ∀ a ∈ items, f a = a) :
    items.map f = items :=
  (List.map_congr_left same).trans (List.map_id items)

theorem capped_map_eq_self {k : Nat} {f : α → α} {items : Capped k α}
    (same : ∀ a ∈ items.toList, f a = a) : items.map f = items :=
  Capped.ext (map_eq_self same)

/-- A room with frames has the palette of the first, whatever palette it had before. -/
theorem getD_palette {k : Nat} {frames : Capped k Frame} (framed : frames.toList ≠ [])
    (spare : List Color) :
    (frames.toList.head?.map (·.palette)).getD spare = firstPalette frames := by
  rw [firstPalette, List.head?_eq_some_head framed]
  rfl

/-- What is known of the frames that revision `v` has read, and of the speed of their animation. -/
structure FramesKept (v u : Version) (frames : Capped maxFrames Frame) (speed : Int32)
    (size : Nat) : Prop where
  framed : frames.toList ≠ []
  single : ¬ .v255a ≤ v → frames.length = 1
  normal : frames.map (Frame.asStored v) = frames
  slow : kept .v255a v (storedSpeed speed) 5 = speed
  written : ∀ r : Room, r.frames = frames →
    ∃ written, (framesPart u).write r = .ok written ∧ (u = v → written.length ≤ size)

theorem framesPart_yields (older : v ≤ u) (before : Room) :
    ((framesPart v).read before).Yields fun r size =>
      ∃ frames speed, r = before.withFrames frames speed ∧ FramesKept v u frames speed size := by
  refine (frameHeadCodec_yields older).bind fun (count, speed) n ⟨slow, single, head⟩ => ?_
  refine yields_demand fun counted => ?_
  refine (readItems_yields (fun index => frameCodec_yields older index) count 0).bind
    fun items m read => ?_
  refine (limited_yields .frame items).map fun frames k taken => ?_
  obtain ⟨length, kept, wrote⟩ := read
  obtain ⟨rfl, rfl⟩ := taken
  refine ⟨frames, Int32.ofNat speed, rfl, ?_, fun early => ?_, capped_map_eq_self kept, ?_, ?_⟩
  · rw [← List.length_pos_iff, length]
    exact counted.1
  · obtain ⟨rfl, -⟩ := Prod.mk.inj (single early)
    exact length
  · unfold Room.kept
    split
    · exact storedSpeed_ofNat slow
    · next early =>
      obtain ⟨-, rfl⟩ := Prod.mk.inj (single early)
      rfl
  · rintro r rfl
    obtain ⟨front, wroteFront, frontShort⟩ :=
      head (r.frames.length, (speedByte r.animationSpeed).toNat)
    obtain ⟨back, wroteBack, backShort⟩ := wrote
    refine ⟨front ++ back, ?_, fun short => ?_⟩
    · simp only [framesPart, wroteFront, wroteBack]
      rfl
    · have := frontShort short
      have := backShort short
      rw [List.length_append]
      omega

/-! ## The room -/

/-- What is known of a room that revision `v` has read: it is its own normal form, and revision `u`
can hold it. -/
structure Legible (v u : Version) (r : Room) (size : Nat) : Prop where
  stored : r.asStored v = r
  framed : r.frames.toList ≠ []
  single : ¬ .v255a ≤ v → r.frames.length = 1
  hotspots : r.hotspots.length ≤ v.maxHotspots
  objects : r.objects.length ≤ v.maxObjects
  written : (roomCodec u).Rewrites (u = v) r size

theorem roomCodec_yields (older : v ≤ u) (late : .v261 ≤ u) :
    (roomCodec v).read.Yields (Legible v u) := by
  -- all parts make one promise: no more bytes if the revision stays what it is
  have byte : byte.read.Yields (byte.Rewrites (u = v)) := byte_yields
  have int32 : int32.read.Yields (int32.Rewrites (u = v)) := int32_yields
  have edges : edgesCodec.read.Yields (edgesCodec.Rewrites (u = v)) := edgesCodec_yields
  have options : optionsCodec.read.Yields (optionsCodec.Rewrites (u = v)) := optionsCodec_yields
  have density : densityCodec.read.Yields (densityCodec.Rewrites (u = v)) := densityCodec_yields
  have mask (place : Place) : (bitmapCodec.within place).read.Yields
      ((bitmapCodec.within place).Rewrites (u = v)) := placedBitmap_yields place
  have properties : propertiesCodec.read.Yields (propertiesCodec.Rewrites (u = v)) :=
    propertiesCodec_yields
  have events : eventsCodec.read.Yields (eventsCodec.Rewrites (u = v)) := eventsCodec_yields
  have script : (optional scriptCodec).read.Yields ((optional scriptCodec).Rewrites (u = v)) :=
    optional_yields scriptCodec_yields
  have walkBehind : walkBehindCodec.read.Yields fun w size =>
      True ∧ walkBehindCodec.Rewrites (u = v) w size :=
    walkBehindCodec_yields.mono fun _ _ written => ⟨trivial, written⟩
  have message (index : Nat) : (messageCodec v index).read.Yields fun m size =>
      True ∧ (messageCodec u index).Rewrites (u = v) m size :=
    (messageCodec_yields older late index).mono fun _ _ written => ⟨trivial, written⟩
  -- part by part, in the order of the layout
  refine record_yields <|
    readParts_both <| readParts_both <| readParts_both <| readParts_both <| readParts_both <|
    readParts_both <| readParts_both <| ?_
  refine readParts_part byte fun _ _ backgroundDepth => ?_
  refine readParts_part (capped_yields fun _ => walkBehind) fun _ _ walkBehinds => ?_
  refine readParts_part (capped_yields fun _ => hotspotCodec_yields older) fun _ _ hotspots => ?_
  refine readParts_part (counted_yields fun _ => objectCodec_yields older) fun _ _ objects => ?_
  refine readParts_part (capped_yields fun _ => regionCodec_yields older) fun _ _ regions => ?_
  refine readParts_part (capped_yields fun _ => walkAreaCodec_yields older) fun _ _ walkAreas => ?_
  refine readParts_part edges fun _ _ edges => ?_
  refine readParts_part options fun _ _ options => ?_
  refine readParts_part (capped_yields message) fun _ _ messages => readParts_nil ?_
  refine readParts_since int32 rfl fun gameId _ storedGame => ?_
  refine readParts_gate rfl density fun density _ storedDensity => ?_
  refine readParts_gate rfl int32 fun maskResolution _ storedResolution => ?_
  refine readParts_part int32 fun _ _ width => ?_
  refine readParts_part int32 fun _ _ height => ?_
  refine readParts_cons ((framesPart_yields older _).mono ?_)
  rintro _ _ ⟨frames, speed, rfl, kept⟩
  refine readParts_part (mask _) fun _ _ walkBehindMask => ?_
  refine readParts_part (mask _) fun _ _ hotspotMask => ?_
  refine readParts_part (mask _) fun _ _ walkAreaMask => ?_
  refine readParts_part (mask _) fun _ _ regionMask => readParts_nil ?_
  refine readParts_since properties rfl fun properties _ storedProperties => ?_
  refine readParts_since events rfl fun events _ storedEvents => ?_
  refine readParts_part script fun _ _ script => readParts_nil ?_
  refine ⟨?_, kept.framed, kept.single, hotspots.1, objects.1, ?_⟩
  · -- the defaults stand in a record that is half read, and are known from there only by evaluation
    have resolution : Room.kept .v3508 v maskResolution
        (if v < .v303b ∧ density = .high then 2 else 1) = maskResolution :=
      storedResolution.kept_eq
    have texts : Room.kept .v255b v properties ∅ = properties := storedProperties.kept_eq
    have handlers : Room.kept .v300a v events {} = events := storedEvents.kept_eq
    simp only [asStored, withFrames, storedGame.kept_eq, storedDensity.kept_eq, kept.normal,
      kept.slow, resolution, texts, handlers, getD_palette kept.framed,
      capped_map_eq_self hotspots.2.1, map_eq_self objects.2.1,
      capped_map_eq_self regions.2.1, capped_map_eq_self walkAreas.2.1]
  · refine PartsRewrite.append (.append (.append (.append (.append (.append (.append
      (.cons backgroundDepth <| .cons walkBehinds.2.2 <| .cons hotspots.2.2 <|
        .cons objects.2.2 <| .cons regions.2.2 <| .cons walkAreas.2.2 <| .cons edges <|
        .cons options <| .cons messages.2.2 .nil)
      (rewrites_since older storedGame ⟨_, rfl⟩))
      (rewrites_gate older rfl storedDensity ⟨_, rfl⟩))
      (rewrites_gate older rfl storedResolution ⟨_, rfl⟩))
      (.cons width <| .cons height <| .consPart (kept.written _ rfl) <|
        .cons walkBehindMask <| .cons hotspotMask <| .cons walkAreaMask <| .cons regionMask .nil))
      (rewrites_since older storedProperties writes_noProperties))
      (rewrites_since older storedEvents writes_noEvents))
      (.cons script .nil)

end Adventure.Room
