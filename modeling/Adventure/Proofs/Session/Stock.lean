import Adventure.Proofs.Session.Deeds
import Adventure.Proofs.Session.Registered
import Adventure.Proofs.World.Memory

/-! # The stock of a game

A start decides which entities there are and what numbers they have. Deeds change words in their
records and the wrappers of room objects, and nothing else about them.

* `SameMake` — what no write to the world changes.
* `SameStock` — what no deed changes.
* `Stocked` — the entities of a game that has been started.
-/

namespace Adventure

namespace World

variable {w x after : World} {e : Entity} {t : Target} {v : Int32}

/-! ## Writes -/

/-- The numbers in the wrappers of a type. Scripts may read them and not write them. -/
def ids (w : World) (type : ScriptType) : List Int32 := (w.wrappersOf type).map (·.id)

theorem length_ids (w : World) (type : ScriptType) :
    (w.ids type).length = (w.wrappersOf type).length := List.length_map _

/-- Whether two worlds have the same entities and differ in words that scripts may write. -/
structure SameMake (w x : World) : Prop where
  ids : ∀ type, x.ids type = w.ids type
  controls : x.controls = w.controls
  cast : Enrolment.SameCast w.game x.game

theorem ids_putWrapper {old y : Wrapper} (wrapped : Wrapped e.type)
    (here : (w.wrappersOf e.type)[e.index]? = some old) (same : y.id = old.id)
    (type : ScriptType) : (w.putWrapper e y).ids type = w.ids type := by
  rw [ids, wrappersOf_putWrapper wrapped]
  split
  · next own =>
    subst own
    obtain ⟨low, rfl⟩ := List.getElem?_eq_some_iff.mp here
    rw [List.map_set, same, ids]
    apply List.ext_getElem?
    intro j
    rw [List.getElem?_set]
    split
    · next place =>
      subst place
      simp [low]
    · rfl
  · rfl

theorem sameMake_write {missing : Registry.Fault} {offset : Int}
    (wrote : w.write t missing offset v = .ok after) : w.SameMake after := by
  obtain ⟨r, written, found, stored, rfl⟩ := write_eq_ok_iff.mp wrote
  have controls := controls_put w t written
  obtain ⟨i, -, writable, rfl⟩ := Record.write_eq_ok_iff.mp stored
  cases holds_of_record? found with
  | @wrapper e old wrapped here =>
    -- the number of a wrapper is its first word, which nobody writes
    have other : i ≠ 0 := by
      rintro rfl
      exact writable (readOnlyWords_of_wrapped wrapped ▸ List.mem_singleton_self 0)
    refine ⟨ids_putWrapper wrapped here ?_, controls, ?_⟩
    · match i with
      | 0 => exact absurd rfl other
      | 1 | _ + 2 => rfl
    · show Enrolment.SameCast w.game (w.putWrapper e _).game
      rw [game_putWrapper]
      exact .refl w.game
  | character here =>
    exact ⟨fun type => by cases type <;> rfl, controls, List.length_set, rfl, rfl, rfl, rfl⟩
  | @control own place c number here =>
    obtain ⟨d, changed⟩ := Record.exists_setWord_control i v c
    simp only [changed, put, number]
    exact ⟨fun type => by cases type <;> rfl, rfl, rfl, rfl, rfl, rfl, rfl⟩
  | @object key o here =>
    cases o with
    | surface s => exact ⟨fun type => by cases type <;> rfl, controls, .refl w.game⟩
  | _ => exact ⟨fun type => by cases type <;> rfl, controls, rfl, rfl, rfl, rfl, rfl⟩

/-! ## Stocks -/

/-- Whether two worlds have the same entities, the objects of rooms apart. -/
structure SameStock (w x : World) : Prop where
  ids : ∀ type, type ≠ .object → x.ids type = w.ids type
  slots : x.objects.length = w.objects.length
  controls : x.controls = w.controls
  cast : Enrolment.SameCast w.game x.game

theorem SameStock.refl (w : World) : w.SameStock w := ⟨fun _ _ => rfl, rfl, rfl, .refl w.game⟩

theorem SameStock.trans {y : World} (first : w.SameStock x) (second : x.SameStock y) :
    w.SameStock y where
  ids type other := (second.ids type other).trans (first.ids type other)
  slots := second.slots.trans first.slots
  controls := second.controls.trans first.controls
  cast := first.cast.trans second.cast

theorem sameStock_write {missing : Registry.Fault} {offset : Int}
    (wrote : w.write t missing offset v = .ok after) : w.SameStock after :=
  have same := sameMake_write wrote
  ⟨fun type _ => same.ids type, length_objects_write wrote, same.controls, same.cast⟩

theorem sameStock_withObjects {objects : List Wrapper} (same : objects.length = w.objects.length) :
    w.SameStock { w with objects } where
  ids type other := by
    cases type with
    | object => exact absurd rfl other
    | _ => rfl
  slots := same
  controls := rfl
  cast := .refl w.game

/-- Whether a world has the entities of a game, numbered as in the game. -/
structure Stocked (g : Game) (w : World) : Prop where
  ids : ∀ type, Wrapped type → type ≠ .object →
    w.ids type = (List.range (g.enrolledCount type)).map Int32.ofNat
  slots : w.objects.length = Room.maxObjects
  controls : w.controls = controlPlaces g.guis
  cast : Enrolment.SameCast g w.game

theorem Stocked.of_sameStock {g : Game} (stocked : w.Stocked g) (same : w.SameStock x) :
    x.Stocked g where
  ids type wrapped other := (same.ids type other).trans (stocked.ids type wrapped other)
  slots := same.slots.trans stocked.slots
  controls := same.controls.trans stocked.controls
  cast := stocked.cast.trans same.cast

/-- The entities of arrays have records for ever. -/
theorem Stocked.exists_record {g : Game} (stocked : w.Stocked g)
    (type : e.type = .character ∨ Wrapped e.type) (low : e.index < g.enrolledCount e.type) :
    ∃ r, w.record? (.static e) = some r ∧ r.Complete ∧ r.type = e.type := by
  suffices there : ∃ r, w.record? (.static e) = some r by
    obtain ⟨r, found⟩ := there
    have holds := holds_of_record? found
    exact ⟨r, found, holds.complete, holds.type_eq⟩
  obtain ⟨type, index⟩ := e
  cases type with
  | inl character =>
    obtain rfl : _ = ScriptType.character := character
    have within : index < w.game.characters.length := stocked.cast.characters ▸ low
    exact ⟨_, congrArg (Option.map Record.character) (List.getElem?_eq_getElem within)⟩
  | inr wrapped =>
    have within : index < (w.wrappersOf type).length := by
      by_cases object : type = .object
      · subst object
        exact stocked.slots ▸ low
      · rw [← length_ids, stocked.ids type wrapped object, List.length_map, List.length_range]
        exact low
    rw [record?, entityRecord?_of_wrapped wrapped, List.getElem?_eq_getElem within]
    exact ⟨_, rfl⟩

end World

namespace Session

variable {s t : Session} {word : Option StoredWord} {g : Game}

/-! ## Deeds -/

theorem length_objects_leaveRoom (s : Session) :
    s.leaveRoom.world.objects.length = s.world.objects.length := by
  unfold leaveRoom
  cases s.room with
  | none => rfl
  | some current => exact List.length_replicate

theorem sameStock_leaveRoom (s : Session) : s.world.SameStock s.leaveRoom.world := by
  rw [leaveRoom_world]
  exact World.sameStock_withObjects (length_objects_leaveRoom s)

theorem Effect.sameStock (effect : s.Effect word t) : s.world.SameStock t.world := by
  cases effect with
  | set m owner => cases owner <;> exact .refl s.world
  | wrote wrote => exact World.sameStock_write wrote
  | disposed live target =>
    exact ⟨fun type _ => by cases type <;> rfl, rfl, rfl, .refl s.game⟩
  | left => exact sameStock_leaveRoom s
  | entered prepared rehearsed =>
    exact (sameStock_leaveRoom s).trans (World.sameStock_withObjects (length_objectSlots ..))
  | _ => exact .refl s.world

theorem sameStock_deeds (coherent : s.registry.Coherent) (l : List Deed) :
    s.world.SameStock (s.deeds l).world :=
  rel_deeds (R := fun s t => s.world.SameStock t.world) (fun s => .refl s.world) .trans
    Effect.sameStock coherent l

/-! ## Started games -/

theorem ids_wrappers (count : Nat) :
    (World.wrappers count).map (·.id) = (List.range count).map Int32.ofNat := by
  rw [World.wrappers, List.map_map]
  rfl

theorem stocked_startedWorld (g : Game) : (startedWorld g).Stocked g where
  ids type wrapped other := by
    simp only [World.Wrapped, List.mem_cons, List.not_mem_nil, or_false] at wrapped
    rcases wrapped with rfl | rfl | rfl | rfl | rfl | rfl | rfl
    · exact ids_wrappers _
    · exact ids_wrappers _
    · exact ids_wrappers _
    · exact ids_wrappers _
    · exact ids_wrappers _
    · exact absurd rfl other
    · exact ids_wrappers _
  slots := List.length_replicate
  controls := rfl
  cast := ⟨List.length_mapIdx, rfl, rfl, rfl, rfl⟩

theorem stocked_of_upscaled {w : World} {wanted : Bool} (stocked : w.Stocked (g.upscaled wanted)) :
    w.Stocked g := by
  have cast := (sameCast_upscaled g wanted).trans stocked.cast
  unfold Game.upscaled at stocked
  split at stocked
  · exact ⟨fun type => by cases type <;> exact stocked.ids _, stocked.slots, stocked.controls, cast⟩
  · exact stocked

theorem stocked_start {b : Bundle} {accepts : Font.Request → Bool} {c : Attempt}
    (fresh : s.registry = {}) (started : s.start b accepts {} = (.ok (), c)) :
    c.session.world.Stocked b.game := by
  obtain ⟨-, world, -⟩ := lists_firstStart fresh started
  rw [world]
  exact stocked_of_upscaled (stocked_startedWorld _)

end Session

end Adventure
