import Mathlib.Tactic.Ring
import Adventure.MessagePack.Reader
import Adventure.MessagePack.Writer

/-! # Written values are read back

`Value.Storable levels v` says which values the format can hold: numbers of at most 64 bits, lengths
below `2 ^ 32`, and at most `levels` values one within another. Such a value is read back from what
has been written of it, whatever follows.

* `Heads front head` — `front` is the start of a value and announces `head`.
* `value?_write` — the round trip.
-/

namespace Adventure.MessagePack

/-! ## Numbers -/

theorem bigEndian_succ (size n : Nat) :
    bigEndian (size + 1) n = UInt8.ofNat (n / 256 ^ size) :: bigEndian size n := by
  simp [bigEndian, List.range_succ]

theorem length_bigEndian (size n : Nat) : (bigEndian size n).length = size := by
  simp [bigEndian]

theorem foldl_bigEndian (size n start : Nat) :
    (bigEndian size n).foldl (fun n b => n * 256 + b.toNat) start =
      start * 256 ^ size + n % 256 ^ size := by
  induction size generalizing start with
  | zero => simp [bigEndian, Nat.mod_one]
  | succ size hyp =>
    -- the first byte is the highest digit
    have digits : n % 256 ^ (size + 1) = n % 256 ^ size + 256 ^ size * (n / 256 ^ size % 256) := by
      rw [Nat.pow_succ, Nat.mod_mul]
    have byte : (UInt8.ofNat (n / 256 ^ size)).toNat = n / 256 ^ size % 256 := UInt8.toNat_ofNat'
    rw [bigEndian_succ, List.foldl_cons, hyp, byte, digits]
    ring

theorem ofBigEndian_bigEndian {size n : Nat} (small : n < 256 ^ size) :
    ofBigEndian (bigEndian size n) = n := by
  rw [ofBigEndian, foldl_bigEndian, Nat.zero_mul, Nat.zero_add, Nat.mod_eq_of_lt small]

theorem number?_bigEndian {size n : Nat} (small : n < 256 ^ size) (rest : Bytes) :
    number? size (bigEndian size n ++ rest) = some (n, rest) := by
  have split := Bytes.split?_append (bigEndian size n) rest
  rw [length_bigEndian] at split
  simp only [number?, split, Option.map_some, ofBigEndian_bigEndian small]

/-! ## Heads -/

/-- `front` is the start of a value and announces `head`. -/
def Heads (front : Bytes) (head : Head) : Prop :=
  ∃ mark tail, front = mark :: tail ∧ ∀ rest, head? mark (tail ++ rest) = some (head, rest)

theorem heads_marked {mark : UInt8} {size n : Nat} (head : Nat → Head)
    (announces : ∀ rest, head? mark rest =
      (number? size rest).map fun (n, rest) => (head n, rest))
    (small : n < 256 ^ size) : Heads (marked mark size n) (head n) :=
  ⟨mark, bigEndian size n, rfl, fun rest => by
    rw [announces, number?_bigEndian small, Option.map_some]⟩

theorem heads_writeUnsigned {n : Nat} (small : n < 2 ^ 64) :
    Heads (writeUnsigned n) (.whole (.unsigned n)) := by
  unfold writeUnsigned
  split
  · next tiny =>
    -- a small number is its own mark
    refine ⟨UInt8.ofNat n, [], rfl, fun rest => ?_⟩
    have value : (UInt8.ofNat n).toNat = n := by simp; omega
    simp only [head?, value, List.nil_append]
    exact if_pos tiny
  split
  · exact heads_marked (.whole ∘ .unsigned) (fun _ => rfl) ‹_›
  split
  · exact heads_marked (.whole ∘ .unsigned) (fun _ => rfl) ‹_›
  split
  · exact heads_marked (.whole ∘ .unsigned) (fun _ => rfl) ‹_›
  · exact heads_marked (.whole ∘ .unsigned) (fun _ => rfl) small

/-- The low bytes of a number with a sign tell it, if it is small enough. -/
theorem bmod_toNat_emod {i : Int} {size : Nat} (low : -(256 ^ size) ≤ i * 2) (negative : i < 0) :
    Int.bmod (i % 256 ^ size).toNat (256 ^ size) = i := by
  have positive : (0 : Int) < 256 ^ size := Int.pow_pos (by decide)
  have bits : Int.bmod (i % (256 ^ size : Nat)) (256 ^ size) = Int.bmod i (256 ^ size) :=
    Int.emod_bmod i (256 ^ size)
  rw [Int.toNat_of_nonneg (Int.emod_nonneg _ (Int.ne_of_gt positive))]
  rw [Nat.cast_pow] at bits
  refine bits.trans (Int.bmod_eq_of_le_mul_two ?_ ?_)
  · simpa using low
  · exact Int.lt_of_lt_of_le (by omega) (Int.natCast_nonneg _)

theorem heads_signed {mark : UInt8} {size : Nat} {i : Int}
    (announces : ∀ rest, head? mark rest = signed? size rest)
    (low : -(256 ^ size) ≤ i * 2) (negative : i < 0) :
    Heads (marked mark size (i % 256 ^ size).toNat) (.whole (.signed i)) := by
  have positive : (0 : Int) < 256 ^ size := Int.pow_pos (by decide)
  have small : (i % 256 ^ size).toNat < 256 ^ size := by
    rw [Int.toNat_lt (Int.emod_nonneg _ (Int.ne_of_gt positive)), Nat.cast_pow]
    exact Int.emod_lt_of_pos i positive
  have head := heads_marked (fun n => .whole (.signed (Int.bmod n (256 ^ size)))) announces small
  rwa [bmod_toNat_emod low negative] at head

theorem heads_writeSigned {i : Int} (low : -2 ^ 63 ≤ i) (negative : i < 0) :
    Heads (writeSigned i) (.whole (.signed i)) := by
  unfold writeSigned
  rw [if_neg (by omega)]
  split
  · next tiny =>
    refine ⟨UInt8.ofNat (i % 256 ^ 1).toNat, [], rfl, fun rest => ?_⟩
    have value : (UInt8.ofNat (i % 256 ^ 1).toNat).toNat = (i + 256).toNat := by
      simp
      omega
    -- the mark is the number itself, taken from the top of the byte
    have bits : Int.bmod (i + 256).toNat 256 = i := by
      rw [Int.toNat_of_nonneg (by omega)]
      simp only [Int.bmod]
      omega
    simp only [head?, value, List.nil_append]
    rw [if_neg (by omega), if_neg (by omega), if_neg (by omega), if_neg (by omega),
      if_pos (by omega), bits]
  split
  · exact heads_signed (fun _ => rfl) (by omega) negative
  split
  · exact heads_signed (fun _ => rfl) (by omega) negative
  split
  · exact heads_signed (fun _ => rfl) (by omega) negative
  · exact heads_signed (fun _ => rfl) (by omega) negative

theorem heads_textHead {n : Nat} (small : n < 2 ^ 32) : Heads (textHead n) (.text n) := by
  unfold textHead
  split
  · next tiny =>
    refine ⟨UInt8.ofNat (0xA0 + n), [], rfl, fun rest => ?_⟩
    have value : (UInt8.ofNat (0xA0 + n)).toNat = 0xA0 + n := by simp; omega
    simp only [head?, value, List.nil_append]
    rw [if_neg (by omega), if_neg (by omega), if_neg (by omega), if_pos (by omega),
      Nat.add_sub_cancel_left]
  split
  · exact heads_marked .text (fun _ => rfl) ‹_›
  split
  · exact heads_marked .text (fun _ => rfl) ‹_›
  · exact heads_marked .text (fun _ => rfl) small

theorem heads_binaryHead {n : Nat} (small : n < 2 ^ 32) : Heads (binaryHead n) (.binary n) := by
  unfold binaryHead
  split
  · exact heads_marked .binary (fun _ => rfl) ‹_›
  split
  · exact heads_marked .binary (fun _ => rfl) ‹_›
  · exact heads_marked .binary (fun _ => rfl) small

theorem heads_arrayHead {n : Nat} (small : n < 2 ^ 32) : Heads (arrayHead n) (.array n) := by
  unfold arrayHead
  split
  · next tiny =>
    refine ⟨UInt8.ofNat (0x90 + n), [], rfl, fun rest => ?_⟩
    have value : (UInt8.ofNat (0x90 + n)).toNat = 0x90 + n := by simp; omega
    simp only [head?, value, List.nil_append]
    rw [if_neg (by omega), if_neg (by omega), if_pos (by omega), Nat.add_sub_cancel_left]
  split
  · exact heads_marked .array (fun _ => rfl) ‹_›
  · exact heads_marked .array (fun _ => rfl) small

theorem heads_mapHead {n : Nat} (small : n < 2 ^ 32) : Heads (mapHead n) (.map n) := by
  unfold mapHead
  split
  · next tiny =>
    refine ⟨UInt8.ofNat (0x80 + n), [], rfl, fun rest => ?_⟩
    have value : (UInt8.ofNat (0x80 + n)).toNat = 0x80 + n := by simp; omega
    simp only [head?, value, List.nil_append]
    rw [if_neg (by omega), if_pos (by omega), Nat.add_sub_cancel_left]
  split
  · exact heads_marked .map (fun _ => rfl) ‹_›
  · exact heads_marked .map (fun _ => rfl) small

/-! ## Values -/

/-- Whether the format can hold a value with at most `levels` values one within another. Numbers
with a sign are below zero; all others are told without one. -/
def Value.Storable : (levels : Nat) → Value → Prop
  | _, .nil => True
  | _, .bool _ => True
  | _, .unsigned n => n < 2 ^ 64
  | _, .signed i => -2 ^ 63 ≤ i ∧ i < 0
  | _, .float bits => bits < 2 ^ 64
  | _, .text bytes => bytes.length < 2 ^ 32
  | _, .binary bytes => bytes.length < 2 ^ 32
  | levels + 1, .array items => items.length < 2 ^ 32 ∧ ∀ v ∈ items, Storable levels v
  | levels + 1, .map members =>
    members.length < 2 ^ 32 ∧
      ∀ member ∈ members, Storable levels member.1 ∧ Storable levels member.2
  | _ + 1, .extension bytes => 1 ≤ bytes.length ∧ bytes.length ≤ 2 ^ 32
  | 0, .array _ => False
  | 0, .map _ => False
  | 0, .extension _ => False

theorem repeated?_writeItems {one? : Bytes → Option (Value × Bytes)} {items : List Value}
    (each : ∀ v ∈ items, ∀ rest, one? (v.write ++ rest) = some (v, rest)) (found : List Value)
    (rest : Bytes) :
    repeated? one? items.length found (Value.writeItems items ++ rest) =
      some (found.reverse ++ items, rest) := by
  induction items generalizing found with
  | nil => simp [repeated?, Value.writeItems]
  | cons v items hyp =>
    have first := each v List.mem_cons_self (Value.writeItems items ++ rest)
    have later := hyp (fun v member => each v (List.mem_cons_of_mem _ member)) (v :: found)
    simp only [List.length_cons, repeated?, Value.writeItems, List.append_assoc, first, later,
      List.reverse_cons, List.cons_append, List.nil_append]

theorem repeated?_writeMembers {one? : Bytes → Option (Value × Bytes)}
    {members : List (Value × Value)}
    (each : ∀ member ∈ members, (∀ rest, one? (member.1.write ++ rest) = some (member.1, rest)) ∧
      ∀ rest, one? (member.2.write ++ rest) = some (member.2, rest))
    (found : List (Value × Value)) (rest : Bytes) :
    repeated? (pair? one?) members.length found (Value.writeMembers members ++ rest) =
      some (found.reverse ++ members, rest) := by
  induction members generalizing found with
  | nil => simp [repeated?, Value.writeMembers]
  | cons member members hyp =>
    obtain ⟨key, v⟩ := member
    obtain ⟨readKey, readValue⟩ := each (key, v) List.mem_cons_self
    have pair : pair? one? (key.write ++ (v.write ++ (Value.writeMembers members ++ rest))) =
        some ((key, v), Value.writeMembers members ++ rest) := by
      simp only [pair?, readKey, readValue, Option.bind_eq_bind, Option.bind_some, Option.pure_def]
    have later := hyp (fun m member => each m (List.mem_cons_of_mem _ member)) ((key, v) :: found)
    simp only [List.length_cons, repeated?, Value.writeMembers, List.append_assoc, pair, later,
      List.reverse_cons, List.cons_append, List.nil_append]

theorem value?_whole {front : Bytes} {v : Value} (heads : Heads front (.whole v)) (levels : Nat)
    (rest : Bytes) : value? levels (front ++ rest) = some (v, rest) := by
  obtain ⟨mark, tail, rfl, head⟩ := heads
  rw [List.cons_append, value?.eq_def]
  simp only [head]

theorem value?_text {bytes : Bytes} (small : bytes.length < 2 ^ 32) (levels : Nat) (rest : Bytes) :
    value? levels (textHead bytes.length ++ (bytes ++ rest)) = some (.text bytes, rest) := by
  obtain ⟨mark, tail, front, head⟩ := heads_textHead small
  rw [front, List.cons_append, value?.eq_def]
  simp only [head, Bytes.split?_append, Option.map_some]

theorem value?_binary {bytes : Bytes} (small : bytes.length < 2 ^ 32) (levels : Nat)
    (rest : Bytes) :
    value? levels (binaryHead bytes.length ++ (bytes ++ rest)) = some (.binary bytes, rest) := by
  obtain ⟨mark, tail, front, head⟩ := heads_binaryHead small
  rw [front, List.cons_append, value?.eq_def]
  simp only [head, Bytes.split?_append, Option.map_some]

theorem value?_extension {bytes : Bytes} (present : 1 ≤ bytes.length)
    (small : bytes.length ≤ 2 ^ 32) (levels : Nat) (rest : Bytes) :
    value? (levels + 1) (marked 0xC9 4 (bytes.length - 1) ++ (bytes ++ rest)) =
      some (.extension bytes, rest) := by
  have heads : Heads (marked 0xC9 4 (bytes.length - 1)) (.extension (bytes.length - 1)) :=
    heads_marked .extension (fun _ => rfl) (by omega)
  obtain ⟨mark, tail, front, head⟩ := heads
  rw [front, List.cons_append, value?.eq_def]
  simp only [head, Nat.sub_add_cancel present, Bytes.split?_append, Option.map_some]

/-- A value is read back from what has been written of it, whatever follows. -/
theorem value?_write : ∀ {levels : Nat} {v : Value}, v.Storable levels → ∀ rest : Bytes,
    value? levels (v.write ++ rest) = some (v, rest)
  | levels, .nil, _, rest => by rw [Value.write, value?.eq_def]; rfl
  | levels, .bool b, _, rest => by cases b <;> rw [Value.write, value?.eq_def] <;> rfl
  | levels, .unsigned n, storable, rest => by
    rw [Value.write]
    exact value?_whole (heads_writeUnsigned (by simpa [Value.Storable] using storable)) levels rest
  | levels, .signed i, storable, rest => by
    rw [Value.Storable] at storable
    rw [Value.write]
    exact value?_whole (heads_writeSigned storable.1 storable.2) levels rest
  | levels, .float bits, storable, rest => by
    rw [Value.Storable] at storable
    rw [Value.write]
    exact value?_whole (heads_marked (.whole ∘ .float) (fun _ => rfl) (by omega)) levels rest
  | levels, .text bytes, storable, rest => by
    rw [Value.Storable] at storable
    rw [Value.write, List.append_assoc]
    exact value?_text storable levels rest
  | levels, .binary bytes, storable, rest => by
    rw [Value.Storable] at storable
    rw [Value.write, List.append_assoc]
    exact value?_binary storable levels rest
  | levels + 1, .extension bytes, storable, rest => by
    rw [Value.Storable] at storable
    rw [Value.write, List.append_assoc]
    exact value?_extension storable.1 storable.2 levels rest
  | levels + 1, .array items, storable, rest => by
    rw [Value.Storable] at storable
    obtain ⟨mark, tail, front, head⟩ := heads_arrayHead storable.1
    have read := repeated?_writeItems
      (fun v member rest => value?_write (storable.2 v member) rest) [] rest
    rw [Value.write, List.append_assoc, front, List.cons_append, value?.eq_def]
    simp only [head, read, Option.map_some, List.reverse_nil, List.nil_append]
  | levels + 1, .map members, storable, rest => by
    rw [Value.Storable] at storable
    obtain ⟨mark, tail, front, head⟩ := heads_mapHead storable.1
    have read := repeated?_writeMembers
      (fun m member => ⟨fun rest => value?_write (storable.2 m member).1 rest,
        fun rest => value?_write (storable.2 m member).2 rest⟩) [] rest
    rw [Value.write, List.append_assoc, front, List.cons_append, value?.eq_def]
    simp only [head, read, Option.map_some, List.reverse_nil, List.nil_append]

theorem read?_write {levels : Nat} {v : Value} (storable : v.Storable levels) :
    Value.read? levels v.write = some v := by
  have read := value?_write storable []
  rw [List.append_nil] at read
  rw [Value.read?, read, Option.map_some]

end Adventure.MessagePack
