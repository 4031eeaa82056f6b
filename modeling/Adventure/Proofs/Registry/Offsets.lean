import Adventure.Proofs.World.Memory
import Adventure.Registry.StaticArray

/-! # Offsets into arrays

The elements of an array lie one after the other from offset 0 on. An offset has an index and a
rest, and both are unique because the rest is always counted upwards, from the element that begins
at the offset or below it. What lies before the start has a negative index, and what lies between
two elements has a rest that is too large for a field.

* `Spaced` — arrays whose elements do not overlap.
* `Spaced.locate_eq` — what an offset is taken for.
* `offsets_decompose` — offsets and fields of elements are the same thing.
-/

namespace Adventure.StaticArray

open Registry (Fault)

variable {a : StaticArray} {symbol : String} {type : ScriptType} {base stride count : Nat}
  {offset other : Int}

theorem naturalSize_pos (type : ScriptType) : 0 < (type.naturalSize : Int) := by
  cases type <;> decide

theorem make_eq_ok_iff : make symbol type base stride count = .ok a ↔
    type.naturalSize ≤ stride ∧ a = ⟨symbol, type, base, stride, count⟩ := by
  unfold make
  split <;> simp [*, eq_comm]

/-- Whether the elements of an array lie apart, by a number of bytes that has a sign. -/
structure Spaced (a : StaticArray) : Prop where
  size_le : a.type.naturalSize ≤ a.stride
  stride_lt : a.stride < 2 ^ 63

theorem write_eq (a : StaticArray) (w : World) (offset : Int) (v : Int32) :
    a.write w offset v = (a.locate offset).bind fun place =>
      w.write (.static place.1) (a.missing offset) place.2 v := by
  unfold write writeInPlace
  rw [InPlace.result_ask_bind]
  cases a.locate offset with
  | error fault => rfl
  | ok place => rfl

theorem write_eq_ok_iff {w after : World} {v : Int32} : a.write w offset v = .ok after ↔
    ∃ place, a.locate offset = .ok place ∧
      w.write (.static place.1) (a.missing offset) place.2 v = .ok after := by
  rw [write_eq]
  exact except_bind_eq_ok

namespace Spaced

theorem stride_pos (spaced : a.Spaced) : 0 < (a.stride : Int) := by
  have size := naturalSize_pos a.type
  have fits := spaced.size_le
  omega

theorem signedStride_eq (spaced : a.Spaced) : a.signedStride = a.stride := by
  have small := spaced.stride_lt
  apply Int.bmod_eq_of_le <;> omega

theorem locate_eq (spaced : a.Spaced) (offset : Int) : a.locate offset =
    if 0 ≤ offset ∧ offset < a.count * a.stride then
      if offset % a.stride < a.type.naturalSize then
        .ok (⟨a.type, a.base + (offset / a.stride).toNat⟩, offset % a.stride)
      else .error (.invalidOffset a.type (Int.bmod (offset % a.stride) (2 ^ 32)))
    else .error (.indexOutOfRange a.symbol (offset / a.stride) a.count) := by
  have positive := spaced.stride_pos
  rw [locate, spaced.signedStride_eq, element]
  simp only [Int.ediv_nonneg_iff_of_pos positive, Int.ediv_lt_iff_lt_mul positive]
  split <;> rfl

/-- The rest and the index of an offset that is put together of both. -/
theorem parts_eq (spaced : a.Spaced) (index : Nat) {field : Int} (positive : 0 ≤ field)
    (below : field < a.stride) :
    (index * a.stride + field) / a.stride = index ∧
      (index * a.stride + field) % a.stride = field := by
  rw [Int.ediv_emod_unique spaced.stride_pos]
  exact ⟨by rw [Int.mul_comm, Int.add_comm], positive, below⟩

/-- An offset within an array has an index and a rest. -/
theorem exists_parts (spaced : a.Spaced) (within : 0 ≤ offset ∧ offset < a.count * a.stride) :
    ∃ index : Nat, index < a.count ∧ offset / a.stride = index ∧
      offset = index * a.stride + offset % a.stride := by
  have positive := spaced.stride_pos
  have start : 0 ≤ offset / a.stride := Int.ediv_nonneg within.1 (Int.le_of_lt positive)
  have stop : offset / a.stride < a.count := (Int.ediv_lt_iff_lt_mul positive).mpr within.2
  obtain ⟨index, same⟩ := Int.eq_ofNat_of_zero_le start
  refine ⟨index, by omega, same, ?_⟩
  rw [← same, Int.mul_comm]
  exact (Int.mul_ediv_add_emod offset a.stride).symm

theorem within_of_parts (spaced : a.Spaced) {index : Nat} {field : Int} (low : index < a.count)
    (positive : 0 ≤ field) (below : field < a.stride) :
    0 ≤ index * a.stride + field ∧ index * a.stride + field < a.count * a.stride := by
  obtain ⟨same, -⟩ := spaced.parts_eq index positive below
  have stride := spaced.stride_pos
  rw [← Int.ediv_nonneg_iff_of_pos stride, ← Int.ediv_lt_iff_lt_mul stride, same]
  omega

theorem locate_eq_ok_iff (spaced : a.Spaced) {entity : Entity} {field : Int} :
    a.locate offset = .ok (entity, field) ↔
      ∃ index : Nat, index < a.count ∧ 0 ≤ field ∧ field < a.type.naturalSize ∧
        offset = index * a.stride + field ∧ entity = ⟨a.type, a.base + index⟩ := by
  rw [spaced.locate_eq]
  constructor
  · intro located
    split at located
    · next within =>
      split at located
      · next small =>
        simp only [Except.ok.injEq, Prod.mk.injEq] at located
        obtain ⟨rfl, rfl⟩ := located
        obtain ⟨index, low, same, whole⟩ := spaced.exists_parts within
        refine ⟨index, low, ?_, small, whole, by rw [same, Int.toNat_natCast]⟩
        exact Int.emod_nonneg offset (Int.ne_of_gt spaced.stride_pos)
      · cases located
    · cases located
  · rintro ⟨index, low, positive, small, rfl, rfl⟩
    have below : field < a.stride := by
      have fits := spaced.size_le
      omega
    obtain ⟨quotient, rest⟩ := spaced.parts_eq index positive below
    rw [if_pos (spaced.within_of_parts low positive below), rest, quotient, if_pos small,
      Int.toNat_natCast]

theorem locate_eq_indexOutOfRange_iff (spaced : a.Spaced) :
    (∃ symbol index count, a.locate offset = .error (.indexOutOfRange symbol index count)) ↔
      offset < 0 ∨ a.count * a.stride ≤ offset := by
  rw [spaced.locate_eq]
  constructor
  · rintro ⟨symbol, index, count, refused⟩
    split at refused
    · split at refused <;> cases refused
    · omega
  · intro outside
    rw [if_neg (by omega)]
    exact ⟨_, _, _, rfl⟩

theorem locate_eq_invalidOffset_iff (spaced : a.Spaced) :
    (∃ type field, a.locate offset = .error (.invalidOffset type field)) ↔
      ∃ (index : Nat) (field : Int), index < a.count ∧ a.type.naturalSize ≤ field ∧
        field < a.stride ∧ offset = index * a.stride + field := by
  rw [spaced.locate_eq]
  constructor
  · rintro ⟨type, field, refused⟩
    split at refused
    · next within =>
      split at refused
      · cases refused
      · next large =>
        obtain ⟨index, low, -, whole⟩ := spaced.exists_parts within
        exact ⟨index, _, low, by omega, Int.emod_lt_of_pos offset spaced.stride_pos, whole⟩
    · cases refused
  · rintro ⟨index, field, low, large, below, rfl⟩
    have positive : 0 ≤ field := by
      have size := naturalSize_pos a.type
      omega
    rw [if_pos (spaced.within_of_parts low positive below),
      (spaced.parts_eq index positive below).2, if_neg (by omega)]
    exact ⟨_, _, rfl⟩

theorem locate_injective (spaced : a.Spaced) {place : Entity × Int}
    (here : a.locate offset = .ok place) (there : a.locate other = .ok place) : offset = other := by
  obtain ⟨i, -, -, -, rfl, entity⟩ := spaced.locate_eq_ok_iff.mp here
  obtain ⟨j, -, -, -, rfl, also⟩ := spaced.locate_eq_ok_iff.mp there
  obtain ⟨-, same⟩ := Entity.mk.inj (entity.symm.trans also)
  obtain rfl : i = j := by omega
  rfl

/-- A word that has been stored is not read at any other offset. -/
theorem read_write_of_ne (spaced : a.Spaced) {w after : World} {v : Int32}
    (distinct : w.controls.Nodup) (wrote : a.write w offset v = .ok after)
    (apart : other ≠ offset) : a.read after other = a.read w other := by
  obtain ⟨⟨entity, field⟩, located, wrote⟩ := write_eq_ok_iff.mp wrote
  unfold read
  cases found : a.locate other with
  | error fault => rfl
  | ok place =>
    obtain ⟨entity', field'⟩ := place
    show after.read _ _ _ = w.read _ _ _
    rw [World.read_write_all distinct wrote, if_neg]
    rintro ⟨entities, rfl⟩
    obtain rfl := Target.static.inj entities
    exact apart (spaced.locate_injective found located)

end Spaced

/-! ## All offsets -/

/-- What the byte offsets of an array are: each is that of one byte of one field of an element, or
it lies outside of the array, or between two elements. -/
structure Decomposes (a : StaticArray) : Prop where
  located : ∀ offset entity field, a.locate offset = .ok (entity, field) ↔
    ∃ index : Nat, index < a.count ∧ 0 ≤ field ∧ field < a.type.naturalSize ∧
      offset = index * a.stride + field ∧ entity = ⟨a.type, a.base + index⟩
  unique : ∀ (i j : Nat) (f g : Int), 0 ≤ f → f < a.type.naturalSize → 0 ≤ g →
    g < a.type.naturalSize → i * a.stride + f = j * a.stride + g → i = j ∧ f = g
  injective : ∀ offset other place,
    a.locate offset = .ok place → a.locate other = .ok place → offset = other
  /-- A word that is stored at one offset is not read at any other. -/
  apart : ∀ (w after : World) offset other v, w.controls.Nodup → a.write w offset v = .ok after →
    other ≠ offset → a.read after other = a.read w other
  outside : ∀ offset,
    (∃ symbol index count, a.locate offset = .error (.indexOutOfRange symbol index count)) ↔
      offset < 0 ∨ a.count * a.stride ≤ offset
  between : ∀ offset, (∃ type field, a.locate offset = .error (.invalidOffset type field)) ↔
    ∃ (index : Nat) (field : Int), index < a.count ∧ a.type.naturalSize ≤ field ∧
      field < a.stride ∧ offset = index * a.stride + field
  faults : ∀ offset fault, a.locate offset = .error fault →
    fault = .indexOutOfRange a.symbol (offset / a.stride) a.count ∨
      fault = .invalidOffset a.type (Int.bmod (offset % a.stride) (2 ^ 32))

/-- All arrays whose stride is a signed number of 64 bits are taken apart exactly. -/
theorem offsets_decompose (accepted : make symbol type base stride count = .ok a)
    (small : stride < 2 ^ 63) : a.Decomposes := by
  obtain ⟨fits, rfl⟩ := make_eq_ok_iff.mp accepted
  have spaced : Spaced ⟨symbol, type, base, stride, count⟩ := ⟨fits, small⟩
  exact {
    located offset entity field := spaced.locate_eq_ok_iff
    unique i j f g start stop start' stop' same := by
      obtain ⟨quotient, rest⟩ := spaced.parts_eq i start (by simp only at *; omega)
      obtain ⟨quotient', rest'⟩ := spaced.parts_eq j start' (by simp only at *; omega)
      rw [same] at quotient rest
      omega
    injective offset other place := spaced.locate_injective
    apart w after offset other v := spaced.read_write_of_ne
    outside offset := spaced.locate_eq_indexOutOfRange_iff
    between offset := spaced.locate_eq_invalidOffset_iff
    faults offset fault refused := by
      rw [spaced.locate_eq] at refused
      split at refused
      · split at refused
        · cases refused
        · exact .inr (Except.error.inj refused).symm
      · exact .inl (Except.error.inj refused).symm }

/-- Characters that lie 200 bytes apart, 44 of which are between them. -/
theorem offsets_decompose_padded :
    let a : StaticArray := ⟨"character", .character, 5, 200, 3⟩
    make "character" .character 5 200 3 = .ok a ∧
      a.locate 420 = .ok (⟨.character, 7⟩, 20) ∧
      (∃ type field, a.locate 356 = .error (.invalidOffset type field)) ∧
      ∃ symbol index count, a.locate (-4) = .error (.indexOutOfRange symbol index count) := by
  intro a
  have accepted : make "character" .character 5 200 3 = .ok a := by decide
  have decomposes := offsets_decompose accepted (by decide)
  refine ⟨accepted, (decomposes.located 420 _ _).mpr ⟨2, by decide⟩, ?_, ?_⟩
  · exact (decomposes.between 356).mpr ⟨1, 156, by decide⟩
  · exact (decomposes.outside (-4)).mpr (.inl (by decide))

end Adventure.StaticArray
