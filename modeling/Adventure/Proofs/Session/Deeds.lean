import Adventure.Proofs.Registry.Restored
import Adventure.Proofs.Session.Layers
import Adventure.Proofs.Session.Transition

/-! # What goes on after a start

* `lastStored?` — the words that scripts have stored in records.
* `savable_deeds` — handles stand for what is there throughout.
-/

namespace Adventure.Session

open Registry (Store Fault)

variable {s t : Session} {word : Option StoredWord}

/-! ## Words -/

/-- What a deed stores at an offset behind a target. -/
def storedAt? (s : Session) (target : Target) (offset : Int) (d : Deed) : Option Int32 :=
  ((s.stored? d).filter fun w => w.target = target ∧ w.offset = offset).map (·.value)

/-- The value that deeds store last at an offset behind a target. -/
def lastStored? (s : Session) (target : Target) (offset : Int) : List Deed → Option Int32
  | [] => none
  | first :: rest =>
    (lastStored? (s.deed first) target offset rest).or (s.storedAt? target offset first)

/-- The registry with the world that has its objects. -/
def store (s : Session) : Store := ⟨s.registry, s.world⟩

/-! ## Handles stand for what is there -/

/-- A word in a record neither moves objects nor changes their types. -/
theorem savable_write {q : Store} (savable : q.Savable) {target : Target} {missing : Fault}
    {offset : Int} {value : Int32} {world : World}
    (wrote : q.world.write target missing offset value = .ok world) :
    Store.Savable { q with world } := by
  refine ⟨?_, savable.one_le_nextHandle, savable.bounded⟩
  rcases World.write_cases wrote with same | ⟨key, o, changed, there, sameType, replaced⟩
  · exact ⟨savable.coherent, same ▸ savable.sound, same ▸ savable.stored⟩
  · have contained := Arena.contains_iff.mpr ⟨o, there⟩
    refine ⟨savable.coherent, replaced ▸ savable.sound.set key changed, ?_⟩
    intro handle type found references entry
    obtain ⟨old, stored, itsType⟩ := savable.stored entry
    simp only [replaced, Arena.get?_set contained]
    by_cases same : found = key
    · subst same
      obtain rfl := Option.some.inj (there.symm.trans stored)
      exact ⟨changed, if_pos rfl, sameType.trans itsType⟩
    · exact ⟨old, (if_neg same).trans stored, itsType⟩

theorem store_withOverrides (s : Session) (m : PropertyMap) (owner : Owner) :
    (s.withOverrides m owner).store = s.store := by
  cases owner with
  | _ => rfl

theorem leaveRoom_dynamic (s : Session) : s.leaveRoom.world.dynamic = s.world.dynamic := by
  rw [leaveRoom_world]

/-- Names of handles and slots of room objects are none of the table's concern. -/
theorem savable_of_same {q p : Store} (savable : q.Savable) {symbols : SymbolTable}
    (registry : p.registry = { q.registry with symbols })
    (dynamic : p.world.dynamic = q.world.dynamic) : p.Savable := by
  obtain ⟨r, w⟩ := p
  obtain rfl := registry
  refine ⟨⟨savable.coherent.withSymbols symbols, dynamic ▸ savable.sound, ?_⟩,
    savable.one_le_nextHandle, savable.bounded.withSymbols symbols⟩
  rw [dynamic]
  exact savable.stored

theorem Effect.savable (effect : s.Effect word t) (savable : s.store.Savable) :
    t.store.Savable := by
  have bounded := effect.bounded savable.bounded
  cases effect with
  | noted errors => exact savable
  | set m owner => rwa [store_withOverrides]
  | wrote wrote => exact savable_write (q := s.store) savable wrote
  | counted live small =>
    exact ⟨savable.toBacked.withReferences (s := s.store) live _, savable.one_le_nextHandle,
      bounded⟩
  | disposed live target =>
    exact ⟨savable.toBacked.dispose (s := s.store) live target, savable.one_le_nextHandle, bounded⟩
  | left =>
    exact savable_of_same savable (leaveRoom_registry s) (leaveRoom_dynamic s)
  | entered prepared rehearsed =>
    exact savable_of_same savable rfl (leaveRoom_dynamic s)

theorem savable_deeds (savable : s.store.Savable) (l : List Deed) :
    (s.deeds l).store.Savable :=
  rel_deeds (R := fun s t => s.store.Savable → t.store.Savable) (fun _ kept => kept)
    (fun first second => second ∘ first) Effect.savable savable.coherent l savable

end Adventure.Session
