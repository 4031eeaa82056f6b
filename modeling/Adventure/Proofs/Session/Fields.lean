import Adventure.Proofs.Registry.Offsets
import Adventure.Proofs.Session.Grounds
import Adventure.Proofs.Session.Stock

/-! # Fields and arrays

Scripts reach words through handles, and through the arrays of the game. Seen through handles, the
records are a memory. Arrays are another way to the same records.

* `field_memory` — what is read through handles after a word has been stored through one.
* `array_eq_field` — an array reads and writes what the handles of its elements do.
-/

namespace Adventure

/-! ## Handles -/

namespace Registry

variable {r : Registry} {w after : World} {target : Target} {type : ScriptType} {handle : Handle}
  {missing : Fault} {offset place : Int} {v : Int32}

theorem readField_of_live {l : Live} (live : r.live handle = .ok l) (w : World) (offset : Int) :
    r.readField w handle offset = w.read l.target (.staleHandle handle) offset := by
  rw [readField, live]
  rfl

theorem readField_written (distinct : w.controls.Nodup)
    (wrote : w.write target missing offset v = .ok after)
    (resolved : r.resolve handle = .ok (target, type)) :
    r.readField after handle offset =
      .ok (Record.stored (World.recordType target) offset v) := by
  obtain ⟨l, live, rfl, -⟩ := exists_live_of_resolve resolved
  rw [readField_of_live live, World.read_write_all distinct wrote, if_pos ⟨rfl, rfl⟩]

theorem readField_elsewhere (distinct : w.controls.Nodup)
    (wrote : w.write target missing offset v = .ok after)
    (apart : (∀ type, r.resolve handle ≠ .ok (target, type)) ∨ place ≠ offset) :
    r.readField after handle place = r.readField w handle place := by
  cases live : r.live handle with
  | error fault =>
    rw [readField, readField, live]
    rfl
  | ok l =>
    rw [readField_of_live live, readField_of_live live, World.read_write_all distinct wrote]
    apply if_neg
    rintro ⟨rfl, rfl⟩
    cases apart with
    | inl other => exact other l.type (resolve_of_live live)
    | inr other => exact other rfl

end Registry

/-! ## Elements of arrays -/

namespace StaticArray

variable {symbol : String} {type : ScriptType} {count : Nat} {offset : Int}

theorem spaced_wholeArray (symbol : String) (type : ScriptType) (count : Nat) :
    Spaced (Game.wholeArray symbol type count) where
  size_le := Nat.le_refl _
  stride_lt := by
    show type.naturalSize < 2 ^ 63
    cases type <;> decide

/-- The elements of an array lie side by side, so that its offsets are those of its elements. -/
theorem locate_wholeArray (symbol : String) (type : ScriptType) (count : Nat) (offset : Int) :
    (Game.wholeArray symbol type count).locate offset =
      if 0 ≤ offset ∧ offset < count * type.naturalSize then
        .ok (⟨type, (offset / type.naturalSize).toNat⟩, offset % type.naturalSize)
      else .error (.indexOutOfRange symbol (offset / type.naturalSize) count) := by
  have field : offset % type.naturalSize < type.naturalSize :=
    Int.emod_lt_of_pos offset (naturalSize_pos type)
  rw [(spaced_wholeArray symbol type count).locate_eq]
  simp only [Game.wholeArray, Nat.zero_add, if_pos field]

end StaticArray

namespace Session

open World (recordType)

variable {s after : Session} {target : Target} {handle : Handle} {offset : Int} {v : Int32}

/-! ## The memory behind handles -/

theorem readField_fst (s : Session) (handle : Handle) (offset : Int) :
    (s.readField handle offset).1 =
      (s.registry.readField s.world handle offset).mapError .registry := by
  rw [readField, askRegistry_eq]
  cases s.registry.readField s.world handle offset with
  | ok v => rfl
  | error fault => rfl

/-- What has become of a session when `v` has been stored at an offset behind a target: every handle
of the target reads it there, and nothing else reads differently. -/
structure Stores (s after : Session) (target : Target) (offset : Int) (v : Int32) : Prop where
  written : ∀ handle type, s.registry.resolve handle = .ok (target, type) →
    (after.readField handle offset).1 = .ok (Record.stored (recordType target) offset v)
  elsewhere : ∀ handle place,
    (∀ type, s.registry.resolve handle ≠ .ok (target, type)) ∨ place ≠ offset →
      (after.readField handle place).1 = (s.readField handle place).1

theorem stores_of_write {world : World} {missing : Registry.Fault}
    (distinct : s.world.controls.Nodup)
    (wrote : s.world.write target missing offset v = .ok world) :
    Stores s { s with world } target offset v where
  written handle type resolved := by
    rw [readField_fst]
    exact congrArg _ (Registry.readField_written distinct wrote resolved)
  elsewhere handle place apart := by
    rw [readField_fst, readField_fst]
    exact congrArg _ (Registry.readField_elsewhere distinct wrote apart)

theorem writeField_stores (distinct : s.world.controls.Nodup)
    (done : s.writeField handle offset v = (.ok (), after)) :
    ∃ target type, s.registry.resolve handle = .ok (target, type) ∧
      Stores s after target offset v := by
  rcases writeField_cases s handle offset v with ⟨l, world, live, wrote, stored⟩ | ⟨fault, failed⟩
  · rw [stored] at done
    obtain ⟨-, rfl⟩ := Prod.mk.inj done
    exact ⟨l.target, l.type, Registry.resolve_of_live live, stores_of_write distinct wrote⟩
  · rw [failed] at done
    cases (Prod.mk.inj done).1

theorem writeField_failed {fault : ScriptFault}
    (failed : s.writeField handle offset v = (.error fault, after)) : after.world = s.world := by
  rcases writeField_cases s handle offset v with ⟨l, world, -, -, stored⟩ | ⟨other, refused⟩
  · rw [stored] at failed
    cases (Prod.mk.inj failed).1
  · rw [refused] at failed
    obtain ⟨-, rfl⟩ := Prod.mk.inj failed
    rw [queue_eq]

theorem controls_calls (s : Session) (calls : List Call) :
    (s.deeds (calls.map .call)).world.controls = s.world.controls := by
  induction calls generalizing s with
  | nil => rfl
  | cons c rest hyp => exact (hyp (s.call c)).trans (effect_call s c).sameStock.controls

/-- Whatever calls have been made in a world with the wrappers of its game, its words are a memory:
a write that fails leaves the world alone, and one that succeeds changes what is read at its place
and nowhere else. Controls with different indices are different controls. -/
theorem field_memory (base : Session) (before : World) (calls : List Call) :
    let s := ({ base with world := before.allocated } : Session).deeds (calls.map .call)
    (∀ (i j : Nat) (place : Nat × Nat), s.world.controls[i]? = some place →
        s.world.controls[j]? = some place → i = j) ∧
      ∀ handle offset v after,
        (∀ fault, s.writeField handle offset v = (.error fault, after) → after.world = s.world) ∧
        (s.writeField handle offset v = (.ok (), after) →
          ∃ target type, s.registry.resolve handle = .ok (target, type) ∧
            Stores s after target offset v) := by
  intro s
  have distinct : s.world.controls.Nodup := by
    rw [controls_calls]
    exact World.nodup_controls_allocated before
  refine ⟨fun i j place => World.controls_injective distinct, fun handle offset v after => ?_⟩
  exact ⟨fun fault => writeField_failed, writeField_stores distinct⟩

/-- A session that knows a door by a handle. -/
def doorkeeper : Session :=
  { registry := (({} : Registry).registered (.static ⟨.control, 0⟩) .control).2 }

/-- The last words of a control are flags. -/
theorem field_memory_doorkeeper :
    let before : World := { game := village.game }
    let s := ({ doorkeeper with world := before.allocated } : Session).deeds []
    ∃ after, s.writeField 1 20 7 = (.ok (), after) ∧ (after.readField 1 20).1 = .ok 1 := by
  intro before s
  have done : (s.writeField 1 20 7).1 = .ok () := by decide +kernel
  have resolved : s.registry.resolve 1 = .ok (.static ⟨.control, 0⟩, .control) := by
    decide +kernel
  obtain ⟨target, type, own, stores⟩ :=
    ((field_memory doorkeeper before []).2 1 20 7 _).2 (Prod.ext done rfl)
  obtain ⟨rfl, rfl⟩ := Prod.mk.inj (Except.ok.inj (own.symm.trans resolved))
  exact ⟨_, Prod.ext done rfl, stores.written 1 .control resolved⟩

/-! ## Arrays -/

section Arrays

variable {config : Config} {b : Bundle} {accepts : Font.Request → Bool} {a : Attempt}
  {array : StaticArray} {g : Game}

theorem wholeArray_of_mem (exported : array ∈ g.exportedArrays) :
    array = Game.wholeArray array.symbol array.type array.count ∧
      array.count = g.enrolledCount array.type ∧
      (array.type = .character ∨ World.Wrapped array.type) := by
  simp only [Game.exportedArrays, List.mem_cons, List.not_mem_nil, or_false] at exported
  rcases exported with rfl | rfl | rfl | rfl | rfl | rfl | rfl <;>
    simp [Game.wholeArray, Game.enrolledCount, World.Wrapped]

/-- Rooms neither take nor hide the names of arrays. -/
theorem array_deeds (started : (Session.new config).start b accepts {} = (.ok (), a))
    (l : List Deed) (exported : array ∈ b.game.exportedArrays) :
    (a.session.deeds l).registry.symbols.array array.symbol = .ok array := by
  have bound : a.session.registry.symbols.get? array.symbol = some (.array array) :=
    ((start_registers started).symbols array.symbol _).mpr (.inr (.inl ⟨array, exported, rfl, rfl⟩))
  have roomless := (vacant_start rfl rfl rfl started).toRoomless
  have outside := (sameGrounds_deeds (savable_start started) l).outside
  have there : (a.session.deeds l).outside.get? array.symbol = some (.array array) := by
    rw [outside, Session.outside, boundNames, roomless.room]
    exact bound
  rw [Session.outside, SymbolTable.get?_foldl_unbind] at there
  split at there
  · cases there
  · rw [SymbolTable.array, there]

/-- The entity that an offset within an array falls on. -/
def elementAt (array : StaticArray) (offset : Int) : Entity :=
  ⟨array.type, (offset / array.type.naturalSize).toNat⟩

theorem locate_exported (exported : array ∈ g.exportedArrays) (offset : Int) :
    array.locate offset =
      if 0 ≤ offset ∧ offset < array.count * array.type.naturalSize then
        .ok (elementAt array offset, offset % array.type.naturalSize)
      else
        .error (.indexOutOfRange array.symbol (offset / array.type.naturalSize) array.count) := by
  obtain ⟨whole, -⟩ := wholeArray_of_mem exported
  have located := StaticArray.locate_wholeArray array.symbol array.type array.count offset
  rwa [← whole] at located

theorem exists_element (started : (Session.new config).start b accepts {} = (.ok (), a))
    (l : List Deed) (exported : array ∈ b.game.exportedArrays)
    (within : 0 ≤ offset ∧ offset < array.count * array.type.naturalSize) :
    ∃ handle r,
      (a.session.deeds l).registry.handleFor (.static (elementAt array offset)) array.type =
        some handle ∧
      (a.session.deeds l).world.record? (.static (elementAt array offset)) = some r ∧
      r.Complete ∧ r.type = array.type := by
  obtain ⟨-, count, type⟩ := wholeArray_of_mem exported
  have savable := savable_start started
  have coherent := savable.coherent
  have low : (elementAt array offset).index < b.game.enrolledCount array.type := by
    have size := StaticArray.naturalSize_pos array.type
    have start : 0 ≤ offset / array.type.naturalSize :=
      Int.ediv_nonneg within.1 (Int.le_of_lt size)
    have stop : offset / array.type.naturalSize < array.count :=
      (Int.ediv_lt_iff_lt_mul size).mpr within.2
    rw [← count]
    show (offset / array.type.naturalSize).toNat < array.count
    omega
  have stocked : (a.session.deeds l).world.Stocked b.game :=
    (stocked_start rfl started).of_sameStock (sameStock_deeds coherent l)
  obtain ⟨r, found, complete, sameType⟩ :=
    stocked.exists_record (e := elementAt array offset) type low
  -- deeds leave the handles of entities alone
  obtain ⟨handle, resolved⟩ :=
    ((start_registers started).entities (elementAt array offset) array.type).mpr ⟨rfl, low⟩
  rw [← (sameGrounds_deeds savable l).entities] at resolved
  have known := ((coherent_deeds coherent l).handleFor_iff_resolve ..).mpr resolved
  exact ⟨handle, r, known, found, complete, sameType⟩

theorem readArray_of_found (found : s.registry.symbols.array array.symbol = .ok array)
    (offset : Int) :
    s.readArray array.symbol offset = s.askRegistry (array.read s.world offset) := by
  rw [readArray, found]
  rfl

theorem writeArray_of_found (found : s.registry.symbols.array array.symbol = .ok array)
    (offset : Int) (v : Int32) :
    s.writeArray array.symbol offset v =
      s.concluded (((array.write s.world offset v).mapError .registry).map
        fun world => ((), { s with world })) := by
  rw [writeArray_eq, found]
  rfl

theorem askRegistry_isOk_iff {α : Type} (s : Session) (answer : Except Registry.Fault α) :
    (∃ v, (s.askRegistry answer).1 = .ok v) ↔ ∃ v, answer = .ok v := by
  rw [askRegistry_eq]
  cases answer with
  | ok v => simp [concluded, Except.map, Except.mapError]
  | error fault => simp [concluded, Except.map, Except.mapError]

/-- The words that an array reads are those of its elements. -/
theorem readArray_isOk_iff (started : (Session.new config).start b accepts {} = (.ok (), a))
    (l : List Deed) (exported : array ∈ b.game.exportedArrays) (offset : Int) :
    (∃ v, ((a.session.deeds l).readArray array.symbol offset).1 = .ok v) ↔
      0 ≤ offset ∧ offset < array.count * array.type.naturalSize ∧
        offset % array.type.naturalSize % 4 = 0 := by
  have size := StaticArray.naturalSize_pos array.type
  have located := locate_exported exported offset
  rw [readArray_of_found (array_deeds started l exported), askRegistry_isOk_iff, StaticArray.read,
    located]
  by_cases within : 0 ≤ offset ∧ offset < array.count * array.type.naturalSize
  · obtain ⟨-, r, -, there, complete, sameType⟩ := exists_element started l exported within
    rw [if_pos within]
    show (∃ v, World.read _ _ _ _ = .ok v) ↔ _
    rw [World.read_of_record? there, complete.read_isOk_iff, sameType]
    constructor
    · rintro ⟨-, -, aligned⟩
      exact ⟨within.1, within.2, aligned⟩
    · rintro ⟨-, -, aligned⟩
      exact ⟨Int.emod_nonneg offset (Int.ne_of_gt size), Int.emod_lt_of_pos offset size, aligned⟩
  · rw [if_neg within]
    constructor
    · rintro ⟨v, answered⟩
      cases answered
    · rintro ⟨positive, below, -⟩
      exact absurd ⟨positive, below⟩ within

/-- Whatever happens after a start, the arrays of the game are its entities side by side: an offset
can be read if it is that of a word of one of them, and reading and writing there is reading and
writing through the handle of that entity. -/
theorem array_eq_field (started : (Session.new config).start b accepts {} = (.ok (), a))
    (l : List Deed) (exported : array ∈ b.game.exportedArrays) (offset : Int) :
    let s := a.session.deeds l
    let size : Int := array.type.naturalSize
    ((∃ v, (s.readArray array.symbol offset).1 = .ok v) ↔
      0 ≤ offset ∧ offset < array.count * size ∧ offset % size % 4 = 0) ∧
    (0 ≤ offset ∧ offset < array.count * size →
      ∃ handle, s.registry.handleFor (.static ⟨array.type, (offset / size).toNat⟩) array.type =
          some handle ∧
        s.readArray array.symbol offset = s.readField handle (offset % size) ∧
        ∀ v, s.writeArray array.symbol offset v = s.writeField handle (offset % size) v) := by
  intro s size
  refine ⟨readArray_isOk_iff started l exported offset, fun within => ?_⟩
  have found : s.registry.symbols.array array.symbol = .ok array := array_deeds started l exported
  have located := locate_exported exported offset
  rw [if_pos within] at located
  have coherent := coherent_deeds (savable_start started).coherent l
  obtain ⟨handle, r, known, there, -⟩ := exists_element started l exported within
  obtain ⟨l, live, target, -⟩ :=
    Registry.exists_live_of_resolve ((coherent.handleFor_iff_resolve ..).mp known)
  -- both ways lead to the record of the element, and what it answers is the answer
  have readElement : array.read s.world offset = r.read (offset % size) := by
    rw [StaticArray.read, located]
    exact World.read_of_record? there _ _
  have writeElement (v : Int32) : array.write s.world offset v =
      (r.write (offset % size) v).map (s.world.put (.static (elementAt array offset))) := by
    rw [StaticArray.write_eq, located]
    exact World.write_of_record? there _ _ v
  refine ⟨handle, known, ?_, fun v => ?_⟩
  · rw [readArray_of_found found, readElement, readField, Registry.readField_of_live live, target,
      World.read_of_record? there]
  · rw [writeArray_of_found found, writeElement, writeField_eq, Registry.writeField_of_live live,
      target, World.write_of_record? there]

end Arrays

def villagers : StaticArray := Game.wholeArray "character" .character 2

/-- The second word of the second villager, through the array and through the handle. -/
theorem array_eq_field_villagers :
    ∃ a, (Session.new {}).start village (fun _ => true) {} = (.ok (), a) ∧
      villagers ∈ village.game.exportedArrays ∧
      (∃ v, (a.session.readArray "character" 160).1 = .ok v) ∧
      ∃ handle, a.session.registry.handleFor (.static ⟨.character, 1⟩) .character = some handle ∧
        a.session.readArray "character" 160 = a.session.readField handle 4 ∧
        ∀ v, a.session.writeArray "character" 160 v = a.session.writeField handle 4 v := by
  obtain ⟨a, started⟩ := start_village
  have exported : villagers ∈ village.game.exportedArrays := by decide
  obtain ⟨words, elements⟩ := array_eq_field started [] exported 160
  exact ⟨a, started, exported, words.mpr (by decide), elements (by decide)⟩

end Session

end Adventure
