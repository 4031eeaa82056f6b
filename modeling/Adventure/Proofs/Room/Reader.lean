import Adventure.Proofs.NameTable
import Adventure.Proofs.Room.Codec
import Adventure.Proofs.Text.Utf8

/-! # What readers take and writers give back

`Reader.Yields` says what is known of everything that a reader can read, and of the number of bytes
that it takes for it. `Codec.Rewrites` says that a value is written, and in how many bytes. Together
they follow data through a file that is read and written again, whatever bytes it was read from.

* `Yields.bind`, `yields_pure`, … — the rules for readers.
* `text_yields`, `list_yields`, … — what codecs read, they write in no more bytes.
* `PartsRewrite` — the same for the parts of a record.
-/

namespace Adventure.Room

variable {α β ρ : Type}

/-! ## Readers -/

/-- Whatever `reader` reads is as `P` says, together with the number of bytes that it takes. -/
def Reader.Yields (reader : Reader α) (P : α → Nat → Prop) : Prop :=
  ∀ bytes a rest, reader bytes = .ok (a, rest) →
    ∃ size, bytes.length = size + rest.length ∧ P a size

variable {x : Reader α} {f : α → Reader β} {P Q : α → Nat → Prop} {R : β → Nat → Prop}

theorem reader_bind_eq_ok {bytes rest : Bytes} {b : β} :
    (x >>= f) bytes = .ok (b, rest) ↔
      ∃ a middle, x bytes = .ok (a, middle) ∧ f a middle = .ok (b, rest) := by
  simp only [bind, StateT.bind, Except.bind]
  cases x bytes with
  | error fault => simp
  | ok found =>
    constructor
    · exact fun read => ⟨found.1, found.2, rfl, read⟩
    · rintro ⟨a, middle, same, read⟩
      obtain rfl := Except.ok.inj same
      exact read

theorem Reader.Yields.mono (yields : x.Yields P) (weaker : ∀ a size, P a size → Q a size) :
    x.Yields Q := by
  intro bytes a rest read
  obtain ⟨size, length, holds⟩ := yields bytes a rest read
  exact ⟨size, length, weaker a size holds⟩

theorem yields_pure {a : α} (holds : P a 0) : (pure a : Reader α).Yields P := by
  intro bytes b rest read
  obtain ⟨rfl, rfl⟩ := Prod.mk.inj (Except.ok.inj read)
  exact ⟨0, (Nat.zero_add _).symm, holds⟩

theorem yields_throw (fault : Fault) : (throw fault : Reader α).Yields P := by
  intro bytes a rest read
  cases read

/-- The bytes of one reader and the next add up. -/
theorem Reader.Yields.bind (first : x.Yields P)
    (next : ∀ a n, P a n → (f a).Yields fun b m => R b (n + m)) : (x >>= f).Yields R := by
  intro bytes b rest read
  obtain ⟨a, middle, readFirst, readNext⟩ := reader_bind_eq_ok.mp read
  -- what the first reader leaves is what the next one starts from
  obtain ⟨n, lengthFirst, holds⟩ := first bytes a middle readFirst
  obtain ⟨m, lengthNext, result⟩ := next a n holds middle b rest readNext
  exact ⟨n + m, by omega, result⟩

/-- What is made of what is read. -/
theorem Reader.Yields.map {g : α → β} (first : x.Yields P) (each : ∀ a n, P a n → R (g a) n) :
    (x >>= fun a => pure (g a)).Yields R :=
  first.bind fun a n holds => yields_pure (each a n holds)

/-- A demand in front of what comes next. -/
theorem yields_demand {c : Prop} [Decidable c] {fault : Fault} {next : Reader α}
    (yields : c → next.Yields P) :
    (if c then next else throw fault >>= fun _ : PUnit => next).Yields P := by
  split
  · next holds => exact yields holds
  · intro bytes a rest read
    cases read

theorem yields_take (n : Nat) (short : Fault) :
    (Reader.take n short).Yields fun bytes size => bytes.length = n ∧ size = n := by
  intro bytes front rest read
  unfold Reader.take Bytes.split? at read
  rw [Bytes.hasAtLeast_eq] at read
  by_cases enough : n ≤ bytes.length
  · simp only [enough, decide_true, if_true, Except.ok.injEq, Prod.mk.injEq] at read
    obtain ⟨rfl, rfl⟩ := read
    refine ⟨n, ?_, ?_, rfl⟩
    · rw [List.length_drop]
      omega
    · rw [List.length_take]
      omega
  · simp only [enough, decide_false, Bool.false_eq_true, if_false] at read
    cases read

theorem Reader.Yields.within (yields : x.Yields P) (place : Place) : (x.within place).Yields P := by
  intro bytes a rest read
  unfold Reader.within at read
  cases inner : x bytes with
  | error cause => rw [inner] at read; cases read
  | ok found =>
    rw [inner] at read
    obtain rfl := Except.ok.inj read
    exact yields bytes a rest inner

/-! ## Scalars -/

namespace Codec

/-- Whether `codec` writes `a`, and in no more than `size` bytes if that is asked for. -/
def Rewrites (tight : Prop) (codec : Codec α) (a : α) (size : Nat) : Prop :=
  ∃ written, codec.write a = .ok written ∧ (tight → written.length ≤ size)

variable {tight : Prop}

theorem littleEndian_lt (bytes : Bytes) : littleEndian bytes < 256 ^ bytes.length := by
  induction bytes with
  | nil => exact Nat.one_pos
  | cons b rest hyp =>
    have digit := b.toNat_lt
    rw [littleEndian, List.length_cons, Nat.pow_succ]
    omega

theorem word_yields (size : Nat) :
    (word size).read.Yields fun n taken => n < 256 ^ size ∧ taken = size :=
  (yields_take size .endOfData).map fun bytes _ taken =>
    ⟨taken.1 ▸ littleEndian_lt bytes, taken.2⟩

theorem rewrites_word (size n : Nat) : (word size).Rewrites tight n size :=
  ⟨_, rfl, fun _ => Nat.le_of_eq (length_toLittleEndian size n)⟩

theorem via_yields {codec : Codec β} {view : α → β} {ofView : β → α} {S : β → Nat → Prop}
    (inner : codec.read.Yields S) (each : ∀ b n, S b n → P (ofView b) n) :
    (codec.via view ofView).read.Yields P :=
  inner.map each

theorem byte_takes : byte.read.Yields fun _ size => size = 1 :=
  via_yields (word_yields 1) fun _ _ taken => taken.2

theorem uint32_takes : uint32.read.Yields fun _ size => size = 4 :=
  via_yields (word_yields 4) fun _ _ taken => taken.2

theorem byte_yields : byte.read.Yields (byte.Rewrites tight) :=
  byte_takes.mono fun b _ taken => taken ▸ rewrites_word 1 b.toNat

theorem uint32_yields : uint32.read.Yields (uint32.Rewrites tight) :=
  uint32_takes.mono fun n _ taken => taken ▸ rewrites_word 4 n.toNat

theorem int32_yields : int32.read.Yields (int32.Rewrites tight) :=
  via_yields uint32_takes fun n _ taken => taken ▸ rewrites_word 4 n.toInt32.toUInt32.toNat

/-- A flag is written as 0 or 1, whatever byte it was read from. -/
theorem flag_yields : flag.read.Yields (flag.Rewrites tight) :=
  via_yields byte_takes fun _ _ taken => taken ▸ rewrites_word 1 _

theorem count_yields : count.read.Yields fun n size => n < 2 ^ 32 ∧ size = 4 := word_yields 4

theorem rewrites_count {n : Nat} (small : n < 2 ^ 32) : count.Rewrites tight n 4 := by
  refine ⟨toLittleEndian 4 n, ?_, fun _ => Nat.le_of_eq (length_toLittleEndian 4 n)⟩
  rw [count]
  exact if_pos small

/-- Writing one thing after another. -/
theorem rewrites_append {codec : Codec α} {a : α} {first second : Except Fault Bytes} {n m : Nat}
    (front : ∃ written, first = .ok written ∧ (tight → written.length ≤ n))
    (back : ∃ written, second = .ok written ∧ (tight → written.length ≤ m))
    (joined : codec.write a = do return (← first) ++ (← second)) :
    codec.Rewrites tight a (n + m) := by
  obtain ⟨front, rfl, frontShort⟩ := front
  obtain ⟨back, rfl, backShort⟩ := back
  refine ⟨front ++ back, joined, fun short => ?_⟩
  rw [List.length_append]
  exact Nat.add_le_add (frontShort short) (backShort short)

/-! ## Texts -/

/-- A text of a file is short enough for a file. -/
theorem text_takes : text.read.Yields fun s size =>
    (Text.Utf8.encode s).length < 2 ^ 32 ∧ size = 4 + (Text.Utf8.encode s).length := by
  refine count_yields.bind fun n taken counted => ?_
  refine (yields_take n (.textPastEnd n)).bind fun bytes size found => ?_
  cases decoded : Text.Utf8.decode bytes with
  | error fault => exact yields_throw _
  | ok s =>
    refine yields_pure ?_
    rw [Text.Utf8.encode_of_decode decoded]
    omega

theorem rewrites_text {s : String} (short : (Text.Utf8.encode s).length < 2 ^ 32) :
    text.Rewrites tight s (4 + (Text.Utf8.encode s).length) :=
  rewrites_append (rewrites_count short) ⟨_, rfl, fun _ => Nat.le_refl _⟩ rfl

theorem text_yields : text.read.Yields (text.Rewrites tight) :=
  text_takes.mono fun _ _ taken => taken.2 ▸ rewrites_text taken.1

/-- As many bytes are read as there is room for, and the zero behind them is not one of them. -/
theorem readTerminated_yields (limit room : Nat) (found : Bytes) :
    (readTerminated limit room found).Yields fun bytes _ =>
      bytes.length ≤ room + found.length ∧ (0 ∉ found → 0 ∉ bytes) := by
  -- the reader goes by the data, so the induction is on the bytes and not on the room that is left
  intro bytes
  induction bytes generalizing room found with
  | nil =>
    intro front rest read
    cases room <;> cases read
  | cons b after hyp =>
    intro front rest read
    by_cases ends : b = 0
    · rw [readTerminated.eq_def] at read
      simp only [if_pos ends] at read
      obtain ⟨rfl, rfl⟩ := Prod.mk.inj (Except.ok.inj read)
      refine ⟨1, Nat.add_comm .., ?_, fun plain => ?_⟩
      · rw [List.length_reverse]
        exact Nat.le_add_left ..
      · rwa [List.mem_reverse]
    · cases room with
      | zero =>
        rw [readTerminated, if_neg ends] at read
        cases read
      | succ room =>
        rw [readTerminated, if_neg ends] at read
        obtain ⟨size, length, bounded, later⟩ := hyp room (b :: found) front rest read
        rw [List.length_cons] at bounded ⊢
        refine ⟨size + 1, by omega, by omega, fun plain => later ?_⟩
        exact List.not_mem_cons_of_ne_of_not_mem (Ne.symm ends) plain

/-- An old text, however it is repaired, is not much longer than its limit and has no zero in it. -/
theorem legacyText_yields (limit : Nat) (unstorable : Fault) :
    (legacyText limit unstorable).read.Yields fun s _ =>
      (Text.Utf8.encode s).length ≤ 4 * limit ∧ 0 ∉ Text.Utf8.encode s := by
  refine (readTerminated_yields limit limit []).map fun bytes _ ⟨few, plain⟩ => ⟨?_, ?_⟩
  · exact Nat.le_trans (Text.Utf8.length_encode_decodeLossy_le bytes) (Nat.mul_le_mul_left 4 few)
  · exact Text.Utf8.zero_notMem_encode_decodeLossy (plain List.not_mem_nil)

/-! ## Compounds -/

variable {old new : Nat → Codec α} {Kept : α → Prop}

theorem readItems_yields
    (each : ∀ index, (old index).read.Yields fun a size =>
      Kept a ∧ (new index).Rewrites tight a size) (count : Nat) :
    ∀ index, (readItems old index count).Yields fun items size =>
      items.length = count ∧ (∀ a ∈ items, Kept a) ∧
        ∃ written, writeItems new index items = .ok written ∧ (tight → written.length ≤ size) := by
  induction count with
  | zero => exact fun index => yields_pure ⟨rfl, nofun, [], rfl, fun _ => Nat.le_refl _⟩
  | succ count hyp =>
    intro index
    refine (each index).bind fun a n first => ?_
    refine (hyp (index + 1)).bind fun items m others => yields_pure ?_
    obtain ⟨kept, front, wroteFront, frontShort⟩ := first
    obtain ⟨length, keptOthers, back, wroteBack, backShort⟩ := others
    refine ⟨congrArg (· + 1) length, List.forall_mem_cons.mpr ⟨kept, keptOthers⟩,
      front ++ back, ?_, ?_⟩
    · rw [writeItems, wroteFront, wroteBack]
      rfl
    · intro short
      have := frontShort short
      have := backShort short
      rw [List.length_append]
      omega

theorem rewrites_list {items : List α} {size : Nat} (few : items.length < 2 ^ 32)
    (wrote : ∃ written, writeItems new 0 items = .ok written ∧ (tight → written.length ≤ size)) :
    (list new).Rewrites tight items (4 + size) :=
  rewrites_append (rewrites_count few) wrote rfl

theorem list_yields
    (each : ∀ index, (old index).read.Yields fun a size =>
      Kept a ∧ (new index).Rewrites tight a size) :
    (list old).read.Yields fun items size =>
      (∀ a ∈ items, Kept a) ∧ (list new).Rewrites tight items size := by
  refine count_yields.bind fun n taken counted => ?_
  refine (readItems_yields each n 0).mono fun items size ⟨length, kept, wrote⟩ => ⟨kept, ?_⟩
  exact counted.2 ▸ rewrites_list (length ▸ counted.1) wrote

/-- The limit of the reader holds. The writer asks for none. -/
theorem counted_yields {limit : Nat} {what : Entry}
    (each : ∀ index, (old index).read.Yields fun a size =>
      Kept a ∧ (new index).Rewrites tight a size) :
    (counted limit what old).read.Yields fun items size =>
      items.length ≤ limit ∧ (∀ a ∈ items, Kept a) ∧ (list new).Rewrites tight items size := by
  refine count_yields.bind fun n taken counted => yields_demand fun few => ?_
  refine (readItems_yields each n 0).mono fun items size ⟨length, kept, wrote⟩ =>
    ⟨length ▸ few, kept, ?_⟩
  exact counted.2 ▸ rewrites_list (length ▸ counted.1) wrote

theorem limited_yields {n : Nat} (what : Entry) (items : List α) :
    (limited (n := n) what items).Yields fun c size => c.toList = items ∧ size = 0 := by
  unfold limited Capped.ofList?
  split
  · next c found =>
    split at found
    · obtain rfl := Option.some.inj found
      exact yields_pure ⟨rfl, rfl⟩
    · cases found
  · exact yields_throw _

theorem capped_yields {n limit : Nat} {what : Entry}
    (each : ∀ index, (old index).read.Yields fun a size =>
      Kept a ∧ (new index).Rewrites tight a size) :
    (capped (n := n) limit what old).read.Yields fun items size =>
      items.length ≤ limit ∧ (∀ a ∈ items.toList, Kept a) ∧
        (list new).Rewrites tight items.toList size := by
  refine (counted_yields each).bind fun items size read => (limited_yields what items).mono ?_
  rintro c taken ⟨rfl, rfl⟩
  exact read

/-- What is known of each item, where nothing is asked of a writer. -/
theorem capped_takes {n limit : Nat} {what : Entry}
    (each : ∀ index, (old index).read.Yields fun a _ => Kept a) :
    (capped (n := n) limit what old).read.Yields fun items _ => ∀ a ∈ items.toList, Kept a := by
  -- any writer will do, such as one that writes nothing
  let nothing (_ : Nat) : Codec α := ⟨fun _ => .ok [], throw .endOfData⟩
  have written (index : Nat) : (old index).read.Yields fun a size =>
      Kept a ∧ (nothing index).Rewrites False a size :=
    (each index).mono fun a size kept => ⟨kept, [], rfl, fun _ => Nat.zero_le size⟩
  exact (capped_yields written).mono fun _ _ read => read.2.1

theorem optional_yields {codec : Codec α} (each : codec.read.Yields (codec.Rewrites tight)) :
    (optional codec).read.Yields ((optional codec).Rewrites tight) := by
  have mark : flag.read.Yields fun _ size => size = 1 :=
    via_yields byte_takes fun _ _ taken => taken
  refine mark.bind fun present taken counted => ?_
  cases present with
  | false => exact yields_pure (counted ▸ rewrites_word 1 0)
  | true =>
    refine each.map fun a size written => ?_
    exact counted ▸ rewrites_append (rewrites_word 1 1) written rfl

end Codec

/-! ## Records -/

/-- Whether the parts of a record are written, and in no more than `size` bytes if that is asked
for. -/
def PartsRewrite (tight : Prop) (parts : List (Part ρ)) (r : ρ) (size : Nat) : Prop :=
  ∃ written, writeParts r parts = .ok written ∧ (tight → written.length ≤ size)

variable {tight : Prop} {codec : Codec α} {get : ρ → α} {set : α → ρ → ρ} {before r : ρ}
  {parts others : List (Part ρ)} {S : ρ → Nat → Prop}

theorem record_yields {blank : ρ} (completed : (readParts parts blank).Yields S) :
    (Codec.record blank parts).read.Yields S := completed

theorem readParts_nil (holds : S before 0) : (readParts [] before).Yields S := yields_pure holds

theorem readParts_cons {p : Part ρ}
    (first : (p.read before).Yields fun r n =>
      (readParts parts r).Yields fun s m => S s (n + m)) :
    (readParts (p :: parts) before).Yields S :=
  first.bind fun _ _ later => later

theorem readParts_part (first : codec.read.Yields P)
    (next : ∀ a n, P a n → (readParts parts (set a before)).Yields fun r m => S r (n + m)) :
    (readParts (part codec get set :: parts) before).Yields S :=
  readParts_cons (first.map next)

theorem readParts_both
    (first : (readParts parts before).Yields fun r n =>
      (readParts others r).Yields fun s m => S s (n + m)) :
    (readParts (parts ++ others) before).Yields S := by
  rw [readParts_append]
  exact first.bind fun _ _ later => later

namespace PartsRewrite

theorem nil : PartsRewrite tight [] r 0 := ⟨[], rfl, fun _ => Nat.le_refl _⟩

theorem consPart {p : Part ρ} {n m : Nat}
    (first : ∃ written, p.write r = .ok written ∧ (tight → written.length ≤ n))
    (rest : PartsRewrite tight parts r m) : PartsRewrite tight (p :: parts) r (n + m) := by
  obtain ⟨front, wroteFront, frontShort⟩ := first
  obtain ⟨back, wroteBack, backShort⟩ := rest
  refine ⟨front ++ back, ?_, fun short => ?_⟩
  · rw [writeParts, wroteFront, wroteBack]
    rfl
  · rw [List.length_append]
    exact Nat.add_le_add (frontShort short) (backShort short)

theorem cons {n m : Nat} (first : codec.Rewrites tight (get r) n)
    (rest : PartsRewrite tight parts r m) :
    PartsRewrite tight (part codec get set :: parts) r (n + m) :=
  consPart first rest

theorem append {n m : Nat} (first : PartsRewrite tight parts r n)
    (second : PartsRewrite tight others r m) : PartsRewrite tight (parts ++ others) r (n + m) := by
  obtain ⟨front, wroteFront, frontShort⟩ := first
  obtain ⟨back, wroteBack, backShort⟩ := second
  refine ⟨front ++ back, ?_, fun short => ?_⟩
  · clear frontShort backShort
    induction parts generalizing front with
    | nil =>
      obtain rfl := Except.ok.inj wroteFront
      exact wroteBack
    | cons p rest hyp =>
      obtain ⟨head, wroteHead, afterHead⟩ := except_bind_eq_ok.mp wroteFront
      obtain ⟨body, wroteBody, joined⟩ := except_bind_eq_ok.mp afterHead
      obtain rfl := Except.ok.inj joined
      rw [List.cons_append, writeParts, wroteHead, hyp body wroteBody, List.append_assoc]
      rfl
  · rw [List.length_append]
    exact Nat.add_le_add (frontShort short) (backShort short)

end PartsRewrite

end Adventure.Room
