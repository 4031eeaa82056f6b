import Adventure.Proofs.Except
import Adventure.Proofs.InPlace
import Adventure.World.Record

/-! # Records as rows of words

A record is read and written by byte offsets. Seen so, it is a row of words: storing one replaces it
in the row and leaves the others alone.

* `words_setWord` — what storing makes of the row.
* `read_isOk_iff` — every aligned offset within the record can be read, and no other.
* `read_write` — a word that has been stored is read back, and no other is touched.
-/

namespace Adventure

theorem ScriptType.wordAt?_eq_some_iff {type : ScriptType} {offset : Int} {i : Nat} :
    type.wordAt? offset = some i ↔ offset = 4 * i ∧ i < type.wordCount := by
  unfold wordAt?
  split <;> simp <;> omega

namespace Record

variable {r after : Record} {offset : Int} {v : Int32}

/-- What is read at an offset after `v` has been stored there. The last three words of a control are
flags. -/
def stored (type : ScriptType) (offset : Int) (v : Int32) : Int32 :=
  if type = .control ∧ (offset = 20 ∨ offset = 24 ∨ offset = 28) then
    if v = 0 then 0 else 1
  else v

theorem flagWord_not_decide (v : Int32) :
    flagWord (!decide (v = 0)) = if v = 0 then 0 else 1 := by
  by_cases zero : v = 0 <;> simp [flagWord, zero]

theorem type_noteChange (r : Record) : r.noteChange.type = r.type := by
  cases r with
  | dynamic o => cases o; rfl
  | _ => rfl

theorem type_setField (i : Nat) (v : Int32) (r : Record) : (r.setField i v).type = r.type := by
  cases r with
  | dynamic o => cases o; rfl
  | _ => rfl

theorem type_setWord (i : Nat) (v : Int32) (r : Record) : (r.setWord i v).type = r.type :=
  (type_noteChange _).trans (type_setField i v r)

theorem exists_setWord_control (i : Nat) (v : Int32) (c : Game.Control) :
    ∃ d, (control c).setWord i v = control d := ⟨_, rfl⟩

theorem exists_setWord_surface (i : Nat) (v : Int32) (s : DrawingSurface) :
    ∃ x, (dynamic (.surface s)).setWord i v = dynamic (.surface x) := ⟨_, rfl⟩

/-- The mark of a surface is no word. -/
theorem words_noteChange (r : Record) : r.noteChange.words = r.words := by
  cases r with
  | dynamic o => cases o; rfl
  | _ => rfl

theorem words_setField (i : Nat) (v : Int32) (r : Record) :
    (r.setField i v).words = r.words.set i (stored r.type (4 * i) v) := by
  cases r with
  | wrapper type x =>
    match i with
    | 0 | 1 => simp [setField, words, stored]
    | n + 2 => simp [setField, words]
  | clip c =>
    match i with
    | 0 | 1 | 2 | 3 | 4 | 5 => rfl
    | n + 6 => simp [setField, words]
  | character c => simp [setField, words, stored, type]
  | control c =>
    match i with
    | 0 | 1 | 2 | 3 | 4 => rfl
    | 5 | 6 | 7 => simp [setField, words, stored, type, flagWord_not_decide]
    | n + 8 => simp [setField, words]
  | rendering x => simp [setField, words, stored, type]
  | mouse m =>
    match i with
    | 0 | 1 => rfl
    | n + 2 => simp [setField, words]
  | dynamic o =>
    cases o with
    | surface s =>
      match i with
      | 0 | 1 | 2 | 3 => rfl
      | n + 4 => simp [setField, words]

theorem words_setWord (i : Nat) (v : Int32) (r : Record) :
    (r.setWord i v).words = r.words.set i (stored r.type (4 * i) v) :=
  (words_noteChange _).trans (words_setField i v r)

/-- Whether a record has the words that its type says. -/
def Complete (r : Record) : Prop := r.words.length = r.type.wordCount

theorem Complete.setWord (complete : r.Complete) (i : Nat) (v : Int32) :
    (r.setWord i v).Complete := by
  rw [Complete, words_setWord, List.length_set, type_setWord]
  exact complete

theorem read_eq_ok_iff : r.read offset = .ok v ↔
    ∃ i, r.type.wordAt? offset = some i ∧ r.words[i]? = some v := by
  unfold read
  cases place : r.type.wordAt? offset with
  | none => simp
  | some i => cases here : r.words[i]? <;> simp [here]

theorem Complete.read_isOk_iff (complete : r.Complete) : (∃ v, r.read offset = .ok v) ↔
    0 ≤ offset ∧ offset < r.type.naturalSize ∧ offset % 4 = 0 := by
  simp only [read_eq_ok_iff, ScriptType.wordAt?_eq_some_iff]
  constructor
  · rintro ⟨v, i, ⟨rfl, low⟩, -⟩
    rw [ScriptType.naturalSize]
    omega
  · rintro ⟨positive, below, aligned⟩
    rw [ScriptType.naturalSize] at below
    have low : (offset / 4).toNat < r.words.length := by
      rw [complete]
      omega
    refine ⟨r.words[(offset / 4).toNat], (offset / 4).toNat, ⟨by omega, ?_⟩, ?_⟩
    · rwa [complete] at low
    · exact List.getElem?_eq_getElem low

/-- All that a write can do: refuse, which changes nothing, or replace a word that scripts may
write. -/
theorem writeInPlace_cases (r : Record) (offset : Int) (v : Int32) :
    (∃ fault, (writeInPlace offset v).on r = (.error fault, r) ∧ fault ≠ .overflow ∧
      ∀ i, r.type.wordAt? offset = some i → i ∈ r.type.readOnlyWords) ∨
    ∃ i, r.type.wordAt? offset = some i ∧ i ∉ r.type.readOnlyWords ∧
      (writeInPlace offset v).on r = (.ok (), r.setWord i v) := by
  unfold writeInPlace
  rw [InPlace.on_get_bind]
  dsimp only
  cases r.type.wordAt? offset with
  | none =>
    refine .inl ⟨_, rfl, ?_, ?_⟩
    · rintro ⟨⟩
    · rintro _ ⟨⟩
  | some i =>
    dsimp only
    by_cases fixed : r.type.readOnlyWords.contains i = true
    · rw [if_pos fixed]
      refine .inl ⟨_, rfl, ?_, ?_⟩
      · rintro ⟨⟩
      · rintro _ ⟨⟩
        exact List.contains_iff_mem.mp fixed
    · rw [if_neg fixed]
      exact .inr ⟨i, rfl, fun listed => fixed (List.contains_iff_mem.mpr listed), rfl⟩

theorem allOrNothing_writeInPlace (offset : Int) (v : Int32) :
    (writeInPlace offset v).AllOrNothing := by
  intro r fault failed
  rcases writeInPlace_cases r offset v with ⟨_, refused, -⟩ | ⟨i, -, -, wrote⟩
  · rw [refused]
  · rw [wrote] at failed
    cases failed

theorem write_eq_ok_iff : r.write offset v = .ok after ↔
    ∃ i, r.type.wordAt? offset = some i ∧ i ∉ r.type.readOnlyWords ∧ after = r.setWord i v := by
  unfold write
  rcases writeInPlace_cases r offset v with ⟨_, refused, -, closed⟩ | ⟨i, place, free, wrote⟩
  · rw [InPlace.result_of_error refused]
    exact ⟨nofun, fun ⟨i, place, free, _⟩ => absurd (closed i place) free⟩
  · rw [InPlace.result_of_ok wrote]
    constructor
    · rintro ⟨⟩
      exact ⟨i, place, free, rfl⟩
    · rintro ⟨j, other, -, rfl⟩
      cases place.symm.trans other
      rfl

/-- A word that has been stored is read back, and no other is touched. -/
theorem Complete.read_write (complete : r.Complete) (wrote : r.write offset v = .ok after)
    (other : Int) : after.read other =
      if offset = other then .ok (stored r.type offset v) else r.read other := by
  obtain ⟨i, place, -, rfl⟩ := write_eq_ok_iff.mp wrote
  obtain ⟨rfl, low⟩ := ScriptType.wordAt?_eq_some_iff.mp place
  rw [← complete] at low
  rw [read, read, type_setWord, words_setWord]
  cases spot : r.type.wordAt? other with
  | none =>
    have apart : ¬ (4 * i : Int) = other := by
      rintro rfl
      exact nomatch place.symm.trans spot
    simp [apart]
  | some j =>
    obtain ⟨rfl, -⟩ := ScriptType.wordAt?_eq_some_iff.mp spot
    by_cases same : i = j
    · subst same
      simp [low]
    · have apart : ¬ (4 * i : Int) = 4 * j := by omega
      simp [List.getElem?_set, same, apart]

end Record

end Adventure
