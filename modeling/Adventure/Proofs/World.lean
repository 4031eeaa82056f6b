import Adventure.Proofs.Except
import Adventure.Proofs.World.Record
import Adventure.World.Basic

/-! # What a write to the world leaves alone

A word is stored in one record. Objects made while the game runs are touched by writes to
themselves only, and keep their type. What a game is told by is in no record.
-/

namespace Adventure.World

variable {w after : World}

theorem dynamic_putWrapper (w : World) (e : Entity) (x : Wrapper) :
    (w.putWrapper e x).dynamic = w.dynamic := by
  unfold putWrapper
  split <;> rfl

theorem dynamic_put_static (w : World) (e : Entity) (r : Record) :
    (w.put (.static e) r).dynamic = w.dynamic := by
  cases r with
  | wrapper type x => exact dynamic_putWrapper w e x
  | control c =>
    simp only [put]
    split <;> rfl
  | clip c => rfl
  | character c => rfl
  | rendering r => rfl
  | mouse m => rfl
  | dynamic o => rfl

/-- A word of an object is stored in a record of the same kind. -/
theorem write_dynamic {o : DynamicObject} {offset : Int} {v : Int32} {r : Record}
    (wrote : (Record.dynamic o).write offset v = .ok r) :
    ∃ changed, r = .dynamic changed ∧ changed.type = o.type := by
  obtain ⟨i, -, -, rfl⟩ := Record.write_eq_ok_iff.mp wrote
  cases o with
  | surface s => exact ⟨_, rfl, rfl⟩

/-- A write that succeeds finds a record, stores the word in it and puts it back. -/
theorem write_eq_ok_iff {t : Target} {missing : Registry.Fault} {offset : Int} {v : Int32} :
    w.write t missing offset v = .ok after ↔
      ∃ r written, w.record? t = some r ∧ r.write offset v = .ok written ∧
        w.put t written = after := by
  unfold write writeInPlace Record.write
  rw [InPlace.result_onPart, record]
  cases w.record? t with
  | none => simp [Except.bind, Except.map]
  | some r =>
    simp only [Except.bind, Option.some.injEq, exists_and_left, exists_eq_left']
    cases (Record.writeInPlace offset v).result r with
    | ok left => simp [Except.map]
    | error fault => simp [Except.map]

/-- All that a write can do to objects: nothing, or change one that is there. -/
theorem write_cases {t : Target} {missing : Registry.Fault} {offset : Int} {v : Int32}
    (wrote : w.write t missing offset v = .ok after) :
    after.dynamic = w.dynamic ∨ ∃ key o changed, w.dynamic.get? key = some o ∧
      changed.type = o.type ∧ after.dynamic = w.dynamic.set key changed := by
  obtain ⟨r, written, found, stored, rfl⟩ := write_eq_ok_iff.mp wrote
  cases t with
  | static e => exact .inl (dynamic_put_static w e written)
  | dynamic key =>
    obtain ⟨o, there, rfl⟩ := Option.map_eq_some_iff.mp found
    obtain ⟨changed, rfl, sameType⟩ := write_dynamic stored
    exact .inr ⟨key, o, changed, there, sameType, rfl⟩

/-! ## The game -/

theorem game_putWrapper (w : World) (e : Entity) (x : Wrapper) :
    (w.putWrapper e x).game = w.game := by
  unfold putWrapper
  split <;> rfl

/-- Which game it is, and for which screen it was made, is in no record. -/
theorem put_game (w : World) (t : Target) (r : Record) :
    (w.put t r).game.uniqueId = w.game.uniqueId ∧ (w.put t r).game.isHires? = w.game.isHires? := by
  cases t with
  | dynamic key => cases r <;> exact ⟨rfl, rfl⟩
  | static e =>
    cases r with
    | wrapper type x =>
      have same : (w.put (.static e) (.wrapper type x)).game = w.game := game_putWrapper w e x
      rw [same]
      exact ⟨rfl, rfl⟩
    | control c =>
      simp only [put]
      split <;> exact ⟨rfl, rfl⟩
    | clip c => exact ⟨rfl, rfl⟩
    | character c => exact ⟨rfl, rfl⟩
    | rendering r => exact ⟨rfl, rfl⟩
    | mouse m => exact ⟨rfl, rfl⟩
    | dynamic o => exact ⟨rfl, rfl⟩

theorem write_game {t : Target} {missing : Registry.Fault} {offset : Int} {v : Int32}
    (wrote : w.write t missing offset v = .ok after) :
    after.game.uniqueId = w.game.uniqueId ∧ after.game.isHires? = w.game.isHires? := by
  obtain ⟨r, written, -, -, rfl⟩ := write_eq_ok_iff.mp wrote
  exact put_game w t written

/-! ## Wrappers -/

/-- The wrappers of the entities of a type. Entities of some types have records of their own. -/
def wrappersOf (w : World) : ScriptType → List Wrapper
  | .audioChannel => w.audioChannels
  | .dialog => w.dialogs
  | .gui => w.guis
  | .hotspot => w.hotspots
  | .inventory => w.inventory
  | .object => w.objects
  | .region => w.regions
  | _ => []

/-- Whether scripts know the entities of a type by their number alone. -/
def Wrapped (type : ScriptType) : Prop :=
  type ∈ [.audioChannel, .dialog, .gui, .hotspot, .inventory, .object, .region]

theorem entityRecord?_of_wrapped {e : Entity} (wrapped : Wrapped e.type) (w : World) :
    w.entityRecord? e = (w.wrappersOf e.type)[e.index]?.map (.wrapper e.type) := by
  obtain ⟨type, index⟩ := e
  simp only [Wrapped, List.mem_cons, List.not_mem_nil, or_false] at wrapped
  rcases wrapped with rfl | rfl | rfl | rfl | rfl | rfl | rfl <;> rfl

theorem wrappersOf_putWrapper {e : Entity} (wrapped : Wrapped e.type) (w : World) (x : Wrapper)
    (type : ScriptType) : (w.putWrapper e x).wrappersOf type =
      if type = e.type then (w.wrappersOf type).set e.index x else w.wrappersOf type := by
  obtain ⟨own, index⟩ := e
  simp only [Wrapped, List.mem_cons, List.not_mem_nil, or_false] at wrapped
  rcases wrapped with rfl | rfl | rfl | rfl | rfl | rfl | rfl <;> cases type <;> rfl

theorem putWrapper_of_not_wrapped {e : Entity} (unwrapped : ¬ Wrapped e.type) (w : World)
    (x : Wrapper) : w.putWrapper e x = w := by
  obtain ⟨type, index⟩ := e
  cases type <;> first | rfl | exact absurd (by simp [Wrapped]) unwrapped

theorem getElem?_putWrapper_of_ne {own e : Entity} (apart : own ≠ e) (w : World) (x : Wrapper) :
    ((w.putWrapper own x).wrappersOf e.type)[e.index]? = (w.wrappersOf e.type)[e.index]? := by
  by_cases stored : Wrapped own.type
  · rw [wrappersOf_putWrapper stored]
    split
    · next same =>
      -- another wrapper of the same row
      have other : own.index ≠ e.index := by
        intro place
        obtain ⟨ownType, ownIndex⟩ := own
        obtain ⟨type, index⟩ := e
        obtain rfl : type = ownType := same
        obtain rfl : ownIndex = index := place
        exact apart rfl
      exact List.getElem?_set_ne other
    · rfl
  · rw [putWrapper_of_not_wrapped stored]

/-- What is stored elsewhere leaves a wrapper alone. -/
theorem entityRecord?_put_of_ne {e : Entity} (wrapped : Wrapped e.type) {t : Target}
    (elsewhere : t ≠ .static e) (w : World) (r : Record) :
    (w.put t r).entityRecord? e = w.entityRecord? e := by
  rw [entityRecord?_of_wrapped wrapped, entityRecord?_of_wrapped wrapped]
  cases t with
  | dynamic key => cases r <;> rfl
  | static own =>
    have apart : own ≠ e := fun same => elsewhere (congrArg Target.static same)
    cases r with
    | wrapper type x => exact congrArg _ (getElem?_putWrapper_of_ne apart w x)
    | control c =>
      simp only [put]
      split <;> cases e.type <;> rfl
    | clip c => cases e.type <;> rfl
    | character c => cases e.type <;> rfl
    | rendering r => cases e.type <;> rfl
    | mouse m => cases e.type <;> rfl
    | dynamic o => rfl

theorem wordCount_of_wrapped {type : ScriptType} (wrapped : Wrapped type) :
    type.wordCount = 2 := by
  simp only [Wrapped, List.mem_cons, List.not_mem_nil, or_false] at wrapped
  rcases wrapped with rfl | rfl | rfl | rfl | rfl | rfl | rfl <;> rfl

theorem readOnlyWords_of_wrapped {type : ScriptType} (wrapped : Wrapped type) :
    type.readOnlyWords = [0] := by
  simp only [Wrapped, List.mem_cons, List.not_mem_nil, or_false] at wrapped
  rcases wrapped with rfl | rfl | rfl | rfl | rfl | rfl | rfl <;> rfl

/-- A write neither makes nor removes wrappers. -/
theorem length_objects_write {t : Target} {missing : Registry.Fault} {offset : Int} {v : Int32}
    (wrote : w.write t missing offset v = .ok after) :
    after.objects.length = w.objects.length := by
  obtain ⟨r, written, -, -, rfl⟩ := write_eq_ok_iff.mp wrote
  cases t with
  | dynamic key => cases written <;> rfl
  | static e =>
    cases written with
    | wrapper type x =>
      show (w.putWrapper e x).objects.length = _
      unfold putWrapper
      split <;> simp
    | control c =>
      simp only [put]
      split <;> rfl
    | _ => rfl

/-- What is read from a wrapper after a write to the world. -/
theorem read_write {e : Entity} (wrapped : Wrapped e.type) {t : Target}
    {missing : Registry.Fault} {offset : Int} {v : Int32}
    (wrote : w.write t missing offset v = .ok after) (absent : Registry.Fault) (other : Int) :
    after.read (.static e) absent other =
      if t = .static e ∧ offset = other then .ok v else w.read (.static e) absent other := by
  obtain ⟨r, written, found, stored, rfl⟩ := write_eq_ok_iff.mp wrote
  by_cases here : t = .static e
  · subst here
    rw [record?, entityRecord?_of_wrapped wrapped] at found
    obtain ⟨x, there, rfl⟩ := Option.map_eq_some_iff.mp found
    have complete : (Record.wrapper e.type x).Complete := (wordCount_of_wrapped wrapped).symm
    obtain ⟨i, -, -, rfl⟩ := Record.write_eq_ok_iff.mp stored
    have low := (List.getElem?_eq_some_iff.mp there).1
    have now : (w.put (.static e) ((Record.wrapper e.type x).setWord i v)).entityRecord? e =
        some ((Record.wrapper e.type x).setWord i v) := by
      show (w.putWrapper e _).entityRecord? e = _
      rw [entityRecord?_of_wrapped wrapped, wrappersOf_putWrapper wrapped, if_pos rfl,
        List.getElem?_set_self low]
      rfl
    have before : w.entityRecord? e = some (.wrapper e.type x) := by
      rw [entityRecord?_of_wrapped wrapped, there]
      rfl
    have plain : e.type ≠ .control := fun same => absurd (same ▸ wrapped) (by simp [Wrapped])
    simp only [read, record?, now, before, complete.read_write stored, Record.stored,
      Record.type, plain, false_and, if_false, true_and]
  · rw [if_neg (fun both => here both.1)]
    simp only [read, record?, entityRecord?_put_of_ne wrapped here]

end Adventure.World
