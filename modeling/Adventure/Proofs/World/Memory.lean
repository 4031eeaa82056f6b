import Mathlib.Data.List.Nodup
import Adventure.Proofs.Arena
import Adventure.Proofs.World

/-! # The world as a memory

A target and an offset are an address, and the world is a memory of words: what is stored at an
address is read there, and nowhere else. Targets are kept apart by the kind of their records, by
their indices, and, where controls are concerned, by the panels and places that their indices stand
for.

* `Holds` — where the record behind a target is kept.
* `allOrNothing_writeInPlace` — a write that fails has changed nothing.
* `Holds.record?_put_self`, `Holds.record?_put_of_ne` — a record that has been replaced is found,
  and no other is touched.
* `nodup_controls_allocated` — no two indices stand for the same control.
* `read_write_all` — what is read at any address after a write.
-/

namespace Adventure.World

variable {w x after : World} {t : Target} {r q : Record}

/-! ## Controls -/

/-- The control at a place, by panel and number in the panel. -/
def placed? (guis : List Game.Gui) (place : Nat × Nat) : Option Game.Control :=
  guis[place.1]?.bind (·.controls[place.2]?)

theorem control?_eq (w : World) (i : Nat) :
    w.control? i = w.controls[i]?.bind (placed? w.game.guis) := rfl

theorem placed?_setControl {guis : List Game.Gui} {place : Nat × Nat} {c : Game.Control}
    (there : placed? guis place = some c) (d : Game.Control) (other : Nat × Nat) :
    placed? (setControl guis place d) other =
      if other = place then some d else placed? guis other := by
  obtain ⟨g, i⟩ := place
  obtain ⟨g', j⟩ := other
  obtain ⟨gui, here, found⟩ := Option.bind_eq_some_iff.mp there
  have low := (List.getElem?_eq_some_iff.mp found).1
  rw [placed?, placed?, setControl, List.getElem?_modify, Option.map_eq_map]
  by_cases panel : g = g'
  · subst panel
    simp only [here, if_true, Option.map_some, Option.bind_some, Prod.mk.injEq, true_and]
    by_cases number : j = i
    · subst number
      rw [if_pos rfl]
      exact List.getElem?_set_self low
    · rw [if_neg number]
      exact List.getElem?_set_ne (Ne.symm number)
  · simp [panel, Ne.symm panel]

/-- Different indices stand for different controls. -/
theorem nodup_controlPlaces (guis : List Game.Gui) : (controlPlaces guis).Nodup := by
  rw [controlPlaces, List.nodup_flatten]
  constructor
  · intro row listed
    obtain ⟨g, low, rfl⟩ := List.mem_mapIdx.mp listed
    exact List.nodup_range.map fun i j same => (Prod.mk.inj same).2
  · rw [List.pairwise_iff_getElem]
    intro g h low high before
    rw [List.getElem_mapIdx, List.getElem_mapIdx, List.disjoint_left]
    intro place here there
    obtain ⟨i, -, rfl⟩ := List.mem_map.mp here
    obtain ⟨j, -, same⟩ := List.mem_map.mp there
    exact Nat.ne_of_gt before (Prod.mk.inj same).1

theorem nodup_controls_allocated (w : World) : w.allocated.controls.Nodup :=
  nodup_controlPlaces w.game.guis

theorem controls_injective (distinct : w.controls.Nodup) {i j : Nat} {place : Nat × Nat}
    (here : w.controls[i]? = some place) (there : w.controls[j]? = some place) : i = j := by
  obtain ⟨low, rfl⟩ := List.getElem?_eq_some_iff.mp here
  obtain ⟨high, same⟩ := List.getElem?_eq_some_iff.mp there
  exact distinct.getElem_inj_iff.mp same.symm

theorem controls_put (w : World) (t : Target) (r : Record) : (w.put t r).controls = w.controls := by
  cases t with
  | dynamic key => cases r <;> rfl
  | static e =>
    cases r with
    | wrapper type x =>
      show (w.putWrapper e x).controls = _
      unfold putWrapper
      split <;> rfl
    | control c =>
      simp only [put]
      split <;> rfl
    | _ => rfl

/-! ## Where records are kept -/

/-- Where the record behind a target is kept. -/
inductive Holds (w : World) : Target → Record → Prop where
  | wrapper {e : Entity} {x : Wrapper} (wrapped : Wrapped e.type)
    (here : (w.wrappersOf e.type)[e.index]? = some x) : w.Holds (.static e) (.wrapper e.type x)
  | clip {i : Nat} {c : Game.AudioClip} (here : w.game.audioClips[i]? = some c) :
    w.Holds (.static ⟨.audioClip, i⟩) (.clip c)
  | character {i : Nat} {c : Game.Character} (here : w.game.characters[i]? = some c) :
    w.Holds (.static ⟨.character, i⟩) (.character c)
  | control {i : Nat} {place : Nat × Nat} {c : Game.Control} (number : w.controls[i]? = some place)
    (here : placed? w.game.guis place = some c) : w.Holds (.static ⟨.control, i⟩) (.control c)
  | rendering : w.Holds (.static ⟨.dialogRendering, 0⟩) (.rendering w.rendering)
  | mouse : w.Holds (.static ⟨.mouse, 0⟩) (.mouse w.mouse)
  | object {key : Arena.Key} {o : DynamicObject} (here : w.dynamic.get? key = some o) :
    w.Holds (.dynamic key) (.dynamic o)

theorem holds_of_record? (found : w.record? t = some r) : w.Holds t r := by
  cases t with
  | dynamic key =>
    obtain ⟨o, here, rfl⟩ := Option.map_eq_some_iff.mp found
    exact .object here
  | static e =>
    by_cases wrapped : Wrapped e.type
    · rw [record?, entityRecord?_of_wrapped wrapped] at found
      obtain ⟨x, here, rfl⟩ := Option.map_eq_some_iff.mp found
      exact .wrapper wrapped here
    · obtain ⟨type, index⟩ := e
      cases type with
      | audioClip =>
        obtain ⟨c, here, rfl⟩ := Option.map_eq_some_iff.mp found
        exact .clip here
      | character =>
        obtain ⟨c, here, rfl⟩ := Option.map_eq_some_iff.mp found
        exact .character here
      | control =>
        obtain ⟨c, here, rfl⟩ := Option.map_eq_some_iff.mp found
        rw [control?_eq] at here
        obtain ⟨place, number, here⟩ := Option.bind_eq_some_iff.mp here
        exact .control number here
      | dialogRendering =>
        simp only [record?, entityRecord?, Option.ite_none_right_eq_some,
          Option.some.injEq] at found
        obtain ⟨rfl, rfl⟩ := found
        exact .rendering
      | mouse =>
        simp only [record?, entityRecord?, Option.ite_none_right_eq_some,
          Option.some.injEq] at found
        obtain ⟨rfl, rfl⟩ := found
        exact .mouse
      | drawingSurface => cases found
      | _ => exact absurd (by simp [Wrapped]) wrapped

/-! ## Records that are put back -/

theorem setControl_of_placed? {guis : List Game.Gui} {place : Nat × Nat} {c : Game.Control}
    (there : placed? guis place = some c) : setControl guis place c = guis := by
  obtain ⟨gui, here, found⟩ := Option.bind_eq_some_iff.mp there
  apply List.ext_getElem?
  intro g
  rw [setControl, List.getElem?_modify, Option.map_eq_map]
  by_cases panel : place.1 = g
  · subst panel
    rw [here, Option.map_some, if_pos rfl, InPlace.set_of_getElem? found]
  · simp [panel]

theorem putWrapper_of_getElem? {e : Entity} {y : Wrapper} (wrapped : Wrapped e.type)
    (here : (w.wrappersOf e.type)[e.index]? = some y) : w.putWrapper e y = w := by
  obtain ⟨type, index⟩ := e
  simp only [Wrapped, List.mem_cons, List.not_mem_nil, or_false] at wrapped
  rcases wrapped with rfl | rfl | rfl | rfl | rfl | rfl | rfl <;>
    simp only [putWrapper, wrappersOf] at here ⊢ <;>
    rw [InPlace.set_of_getElem? here]

/-- A record that is put back unchanged changes nothing. -/
theorem Holds.put_self (holds : w.Holds t r) : w.put t r = w := by
  cases holds with
  | wrapper wrapped here => exact putWrapper_of_getElem? wrapped here
  | clip here => simp only [put, InPlace.set_of_getElem? here]
  | character here => simp only [put, InPlace.set_of_getElem? here]
  | control number here => simp only [put, number, setControl_of_placed? here]
  | rendering => rfl
  | mouse => rfl
  | object here => simp only [put, Arena.set_get? here]

/-- A write that fails has changed nothing. -/
theorem allOrNothing_writeInPlace (t : Target) (missing : Registry.Fault) (offset : Int)
    (v : Int32) : (writeInPlace t missing offset v).AllOrNothing := by
  apply (Record.allOrNothing_writeInPlace offset v).onPart
  intro w r found
  unfold record at found
  split at found
  · next own there =>
    obtain rfl := Except.ok.inj found
    exact (holds_of_record? there).put_self
  · cases found

theorem read_of_record? {w : World} {t : Target} {r : Record} (found : w.record? t = some r)
    (missing : Registry.Fault) (offset : Int) : w.read t missing offset = r.read offset := by
  rw [read, found]

theorem write_of_record? {w : World} {t : Target} {r : Record} (found : w.record? t = some r)
    (missing : Registry.Fault) (offset : Int) (v : Int32) :
    w.write t missing offset v = (r.write offset v).map (w.put t) := by
  unfold write writeInPlace Record.write
  rw [InPlace.result_onPart, record, found]
  dsimp only [Except.bind]
  cases (Record.writeInPlace offset v).result r with
  | error fault => rfl
  | ok left => rfl

/-! ## Replacing records -/

variable {e : Entity} {i : Nat} {v : Int32}

theorem entityRecord?_congr_of_not_wrapped (unwrapped : ¬ Wrapped e.type) (game : x.game = w.game)
    (controls : x.controls = w.controls) (rendering : x.rendering = w.rendering)
    (mouse : x.mouse = w.mouse) : x.entityRecord? e = w.entityRecord? e := by
  obtain ⟨type, index⟩ := e
  cases type with
  | audioClip | character => simp only [entityRecord?, game]
  | control => simp only [entityRecord?, control?, game, controls]
  | dialogRendering => simp only [entityRecord?, rendering]
  | mouse => simp only [entityRecord?, mouse]
  | drawingSurface => rfl
  | _ => exact absurd (by simp [Wrapped]) unwrapped

theorem entityRecord?_putWrapper_of_ne {own : Entity} (apart : e ≠ own) (w : World) (y : Wrapper) :
    (w.putWrapper own y).entityRecord? e = w.entityRecord? e := by
  by_cases wrapped : Wrapped e.type
  · rw [entityRecord?_of_wrapped wrapped, entityRecord?_of_wrapped wrapped,
      getElem?_putWrapper_of_ne (Ne.symm apart)]
  · apply entityRecord?_congr_of_not_wrapped wrapped
    · exact game_putWrapper w own y
    all_goals
      unfold putWrapper
      split <;> rfl

theorem Holds.record?_put_self (holds : w.Holds t r) (i : Nat) (v : Int32) :
    (w.put t (r.setWord i v)).record? t = some (r.setWord i v) := by
  cases holds with
  | @wrapper e old wrapped here =>
    have low := (List.getElem?_eq_some_iff.mp here).1
    show (w.putWrapper e _).entityRecord? e = _
    rw [entityRecord?_of_wrapped wrapped, wrappersOf_putWrapper wrapped, if_pos rfl,
      List.getElem?_set_self low]
    rfl
  | clip here =>
    have low := (List.getElem?_eq_some_iff.mp here).1
    exact congrArg (Option.map Record.clip) (List.getElem?_set_self low)
  | character here =>
    have low := (List.getElem?_eq_some_iff.mp here).1
    exact congrArg (Option.map Record.character) (List.getElem?_set_self low)
  | @control own place c number here =>
    obtain ⟨d, changed⟩ := Record.exists_setWord_control i v c
    simp only [changed, put, number, record?, entityRecord?, control?_eq, Option.bind_some,
      placed?_setControl here, if_true, Option.map_some]
  | rendering => rfl
  | mouse => rfl
  | @object key o here =>
    cases o with
    | surface s =>
      have there := Arena.contains_iff.mpr ⟨_, here⟩
      obtain ⟨x, changed⟩ := Record.exists_setWord_surface i v s
      simp only [changed, put, record?, Arena.get?_set there, if_true, Option.map_some]

theorem Holds.dynamic_put {own : Entity} (holds : w.Holds (.static own) r) (i : Nat) (v : Int32) :
    (w.put (.static own) (r.setWord i v)).dynamic = w.dynamic := by
  cases holds with
  | wrapper wrapped here => exact dynamic_putWrapper w own _
  | @control own place c number here =>
    obtain ⟨d, changed⟩ := Record.exists_setWord_control i v c
    simp only [changed, put, number]
  | _ => rfl

/-- Entities of other types have their records elsewhere. -/
theorem Holds.entityRecord?_put_of_type_ne {own : Entity} (holds : w.Holds (.static own) r)
    (i : Nat) (v : Int32) (apart : e.type ≠ own.type) :
    (w.put (.static own) (r.setWord i v)).entityRecord? e = w.entityRecord? e := by
  cases holds with
  | wrapper wrapped here =>
    exact entityRecord?_putWrapper_of_ne (fun same => apart (congrArg Entity.type same)) w _
  | @control own place c number here =>
    obtain ⟨d, changed⟩ := Record.exists_setWord_control i v c
    simp only [changed, put, number]
    obtain ⟨type, index⟩ := e
    cases type with
    | control => exact absurd rfl apart
    | _ => rfl
  | _ =>
    obtain ⟨type, index⟩ := e
    cases type <;> first | rfl | exact absurd rfl apart

/-- Entities of one type are kept apart by their indices, as long as controls are. -/
theorem Holds.entityRecord?_put_of_index_ne {own : Entity} (holds : w.Holds (.static own) r)
    (distinct : w.controls.Nodup) (i : Nat) (v : Int32) {index : Nat} (apart : index ≠ own.index) :
    (w.put (.static own) (r.setWord i v)).entityRecord? ⟨own.type, index⟩ =
      w.entityRecord? ⟨own.type, index⟩ := by
  cases holds with
  | wrapper wrapped here =>
    exact entityRecord?_putWrapper_of_ne (fun same => apart (congrArg Entity.index same)) w _
  | clip here => exact congrArg (Option.map Record.clip) (List.getElem?_set_ne (Ne.symm apart))
  | character here =>
    exact congrArg (Option.map Record.character) (List.getElem?_set_ne (Ne.symm apart))
  | @control own place c number here =>
    obtain ⟨d, changed⟩ := Record.exists_setWord_control i v c
    simp only [changed, put, number, entityRecord?, control?_eq]
    cases found : w.controls[index]? with
    | none => rfl
    | some also =>
      -- two indices of one control would be one index
      have elsewhere : also ≠ place := by
        rintro rfl
        exact apart (controls_injective distinct found number)
      simp only [Option.bind_some, placed?_setControl here, elsewhere, if_false]
  | rendering =>
    have apart : index ≠ 0 := apart
    simp only [entityRecord?, apart, if_false]
  | mouse =>
    have apart : index ≠ 0 := apart
    simp only [entityRecord?, apart, if_false]

/-- No other record is touched, as long as controls are kept apart. -/
theorem Holds.record?_put_of_ne (holds : w.Holds t r) (distinct : w.controls.Nodup) (i : Nat)
    (v : Int32) {other : Target} (apart : other ≠ t) :
    (w.put t (r.setWord i v)).record? other = w.record? other := by
  cases t with
  | static own =>
    cases other with
    | dynamic key => exact congrArg (Option.map _) (congrArg (·.get? key) (holds.dynamic_put i v))
    | static e =>
      by_cases type : e.type = own.type
      · obtain ⟨_, index⟩ := e
        obtain rfl : _ = own.type := type
        have apart : index ≠ own.index := fun same => apart (same ▸ rfl)
        exact holds.entityRecord?_put_of_index_ne distinct i v apart
      · exact holds.entityRecord?_put_of_type_ne i v type
  | dynamic own =>
    cases holds with
    | @object key o here =>
      cases o with
      | surface s =>
        cases other with
        | static e => rfl
        | dynamic key =>
          have there := Arena.contains_iff.mpr ⟨_, here⟩
          have apart : key ≠ own := fun same => apart (congrArg Target.dynamic same)
          obtain ⟨x, changed⟩ := Record.exists_setWord_surface i v s
          simp only [changed, put, record?, Arena.get?_set there, apart, if_false]

theorem Holds.complete (holds : w.Holds t r) : r.Complete := by
  cases holds with
  | @wrapper e old wrapped here => exact (wordCount_of_wrapped wrapped).symm
  | character here => exact Vector.length_toList
  | rendering => exact Vector.length_toList
  | @object key o here => cases o; rfl
  | _ => rfl

/-- The type of the record behind a target. -/
def recordType : Target → ScriptType
  | .static e => e.type
  | .dynamic _ => .drawingSurface

theorem Holds.type_eq (holds : w.Holds t r) : r.type = recordType t := by
  cases holds with
  | @object key o here => cases o; rfl
  | _ => rfl

/-! ## Reading after writing -/

/-- A word that has been stored is read back, and what is read anywhere else is what it was. -/
theorem read_write_all (distinct : w.controls.Nodup) {missing : Registry.Fault} {offset : Int}
    (wrote : w.write t missing offset v = .ok after) (other : Target) (absent : Registry.Fault)
    (place : Int) : after.read other absent place =
      if other = t ∧ offset = place then .ok (Record.stored (recordType t) offset v)
      else w.read other absent place := by
  obtain ⟨r, written, found, stored, rfl⟩ := write_eq_ok_iff.mp wrote
  obtain ⟨i, -, -, rfl⟩ := Record.write_eq_ok_iff.mp stored
  have holds := holds_of_record? found
  by_cases here : other = t
  · subst here
    simp only [read, holds.record?_put_self, found, holds.complete.read_write stored,
      holds.type_eq, true_and]
  · simp only [read, holds.record?_put_of_ne distinct i v here, here, false_and, if_false]

end Adventure.World
