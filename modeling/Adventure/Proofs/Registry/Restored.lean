import Adventure.Proofs.Registry.Lifecycle
import Adventure.Proofs.Registry.Untangled
import Adventure.Proofs.World

/-! # A save brings handles back

A snapshot holds objects and not their keys. A restored handle stands for an object with a new key,
so that what a save gives back is the same table up to the keys in it.

* `Stands` — whether a target is what a save says, for the objects that are there now.
* `entries_restore` — the restored table, handle by handle.
* `Action`, `Store.acts` — what is done to a store between saves.
* `Store.Restored` — what two stores become when a save of one replaces the handles of the other.
-/

namespace Adventure.Registry

open Std (ExtTreeMap)

variable {r : Registry} {objects : Arena DynamicObject}

/-! ## Disposing -/

/-- Whether a table has a handle for the object under `key`. -/
def Holds (r : Registry) (key : Arena.Key) : Prop :=
  ∃ (handle : Handle) (type : ScriptType) (references : Nat),
    r.entries[handle]? = some ⟨type, some (.dynamic key), references⟩

/-- Disposes of the object that an entry stands for. -/
def disposeEntry (objects : Arena DynamicObject) (entry : Handle × Entry) : Arena DynamicObject :=
  match entry.2.target with
  | some (.dynamic key) => objects.erase key
  | _ => objects

theorem disposeAll_eq (r : Registry) (objects : Arena DynamicObject) :
    r.disposeAll objects = r.entries.toList.foldl disposeEntry objects := rfl

theorem get?_disposeEntry (objects : Arena DynamicObject) (entry : Handle × Entry)
    (key : Arena.Key) : (disposeEntry objects entry).get? key =
      if entry.2.target = some (.dynamic key) then none else objects.get? key := by
  unfold disposeEntry
  split
  · next gone target => simp only [target, Arena.get?_erase, Option.some.injEq,
      Target.dynamic.injEq, eq_comm]
  · next other => rw [if_neg (other key)]

theorem get?_foldl_disposeEntry (entries : List (Handle × Entry)) (objects : Arena DynamicObject)
    (key : Arena.Key) : (entries.foldl disposeEntry objects).get? key =
      if ∃ entry ∈ entries, entry.2.target = some (.dynamic key) then none
      else objects.get? key := by
  induction entries generalizing objects with
  | nil => simp
  | cons entry rest hyp =>
    rw [List.foldl_cons, hyp, get?_disposeEntry]
    by_cases later : ∃ entry ∈ rest, entry.2.target = some (.dynamic key)
    · simp [later]
    · simp [later]

theorem get?_disposeAll_of_holds {key : Arena.Key} (holds : r.Holds key)
    (objects : Arena DynamicObject) : (r.disposeAll objects).get? key = none := by
  obtain ⟨handle, type, references, entry⟩ := holds
  rw [disposeAll_eq, get?_foldl_disposeEntry, if_pos]
  exact ⟨_, ExtTreeMap.mem_toList_iff_getElem?_eq_some.mpr entry, rfl⟩

theorem get?_disposeAll_of_not_holds {key : Arena.Key} (free : ¬ r.Holds key)
    (objects : Arena DynamicObject) : (r.disposeAll objects).get? key = objects.get? key := by
  rw [disposeAll_eq, get?_foldl_disposeEntry, if_neg]
  rintro ⟨⟨handle, type, target, references⟩, listed, rfl⟩
  exact free ⟨handle, type, references, ExtTreeMap.mem_toList_iff_getElem?_eq_some.mp listed⟩

theorem generation_disposeAll (r : Registry) (objects : Arena DynamicObject) :
    (r.disposeAll objects).generation = objects.generation := by
  rw [disposeAll_eq]
  induction r.entries.toList generalizing objects with
  | nil => rfl
  | cons entry rest hyp =>
    rw [List.foldl_cons, hyp, disposeEntry]
    split
    · exact Arena.generation_erase ..
    · rfl

theorem sound_disposeAll (sound : objects.Sound) (r : Registry) :
    (r.disposeAll objects).Sound := by
  rw [disposeAll_eq]
  induction r.entries.toList generalizing objects with
  | nil => exact sound
  | cons entry rest hyp =>
    refine hyp ?_
    unfold disposeEntry
    split
    · exact sound.erase _
    · exact sound

/-! ## Reviving -/

/-- Whether a target is what a save says. -/
def Stands (objects : Arena DynamicObject) : SavedTarget → Option Target → Prop
  | .static e, target => target = some (.static e)
  | .dynamic o, target => ∃ key, target = some (.dynamic key) ∧ objects.get? key = some o
  | .released, target => target = none

theorem Stands.savedTarget_eq {saved : SavedTarget} {target : Option Target}
    (stands : Stands objects saved target) : savedTarget objects target = saved := by
  cases saved with
  | static e => rw [show target = _ from stands, savedTarget]
  | dynamic o =>
    obtain ⟨key, rfl, found⟩ := stands
    rw [savedTarget, found]
    rfl
  | released => rw [show target = _ from stands, savedTarget]

/-- What is revived later does not change what a target stands for. -/
theorem Stands.grown {grown : Arena DynamicObject} {saved : SavedTarget} {target : Option Target}
    (stands : Stands objects saved target) (sound : objects.Sound) (growth : objects.Grown grown) :
    Stands grown saved target := by
  cases saved with
  | static e => exact stands
  | dynamic o =>
    obtain ⟨key, same, found⟩ := stands
    exact ⟨key, same, growth.get?_eq_some sound found⟩
  | released => exact stands

theorem stands_reviveTarget (sound : objects.Sound) (saved : SavedTarget) :
    let revived := reviveTarget objects saved
    revived.2.Sound ∧ objects.Grown revived.2 ∧ Stands revived.2 saved revived.1 := by
  cases saved with
  | static e => exact ⟨sound, .refl objects, rfl⟩
  | dynamic o =>
    refine ⟨sound.insert o, sound.grown_insert o, (objects.insert o).1, rfl, ?_⟩
    show (objects.insert o).2.get? (objects.insert o).1 = some o
    rw [sound.get?_insert, if_pos rfl]
  | released => exact ⟨sound, .refl objects, rfl⟩

/-- A row of entries with a handle each is revived entry by entry. -/
theorem entries_reviveAll (sound : objects.Sound) {entries : List SavedEntry}
    (distinct : entries.Pairwise fun a b => a.handle ≠ b.handle) :
    let after := entries.foldl (fun (r, objects) saved => r.revive objects saved) (r, objects)
    after.2.Sound ∧ objects.Grown after.2 ∧
      ∀ s ∈ entries, ∃ target, Stands after.2 s.target target ∧
        after.1.entries[s.handle]? = some ⟨s.type, target, s.references⟩ := by
  induction entries generalizing r objects with
  | nil => exact ⟨sound, .refl objects, nofun⟩
  | cons s rest hyp =>
    obtain ⟨differs, distinct⟩ := List.pairwise_cons.mp distinct
    obtain ⟨revivedSound, revivedGrown, stands⟩ := stands_reviveTarget sound s.target
    obtain ⟨afterSound, grown, each⟩ := hyp (r := (r.revive objects s).1) revivedSound distinct
    refine ⟨afterSound, revivedGrown.trans grown, List.forall_mem_cons.mpr ⟨?_, each⟩⟩
    -- no later entry has the handle of the first
    exact ⟨_, stands.grown revivedSound grown,
      (entries_reviveAll_of_unlisted (r.revive objects s).1 _
        fun t listed => (differs t listed).symm).trans (by rw [entries_revive, if_pos rfl])⟩

/-! ## Restoring -/

/-- The table of a restored snapshot has the handles of the table that was saved, with the same
types and counts, standing for what they stood for. -/
theorem entries_restore (old : Registry) {oldObjects : Arena DynamicObject}
    (sound : oldObjects.Sound) (r : Registry) (objects : Arena DynamicObject) :
    let after := old.restored oldObjects (r.snapshot objects)
    (old.disposeAll oldObjects).Grown after.2 ∧ after.1.symbols = old.symbols ∧
      (∀ handle : Handle, r.entries[handle]? = none → after.1.entries[handle]? = none) ∧
      ∀ {handle : Handle} {e : Entry}, r.entries[handle]? = some e → ∃ target,
        Stands after.2 (savedTarget objects e.target) target ∧
        after.1.entries[handle]? = some ⟨e.type, target, e.references⟩ := by
  obtain ⟨-, grown, each⟩ := entries_reviveAll (r := { old with entries := ∅, byTarget := [] })
    (sound_disposeAll sound old) (snapshot_handles_distinct r objects)
  refine ⟨grown, symbols_restore .., fun _ absent => entries_restore_of_none _ _ _ absent, ?_⟩
  intro handle e there
  exact each _ (savedEntry_mem_snapshot objects there)

/-- A snapshot lists what is known of each handle. -/
theorem snapshot_entries_congr {r' : Registry} {objects' : Arena DynamicObject}
    (same : ∀ handle : Handle, (r'.entries[handle]?).map (savedEntry objects' handle) =
      (r.entries[handle]?).map (savedEntry objects handle)) :
    (r'.snapshot objects').entries = (r.snapshot objects).entries := by
  have listed (r : Registry) (objects : Arena DynamicObject) : (r.snapshot objects).entries =
      (r.entries.map (savedEntry objects)).toList.map (·.2) := by
    rw [ExtTreeMap.toList_map, List.map_map]
    rfl
  have tables : r'.entries.map (savedEntry objects') = r.entries.map (savedEntry objects) := by
    apply ExtTreeMap.ext_getElem?
    intro handle
    rw [ExtTreeMap.getElem?_map, ExtTreeMap.getElem?_map, same]
  rw [listed, listed, tables]

/-! ## What is done to a store -/

namespace Store

/-- What is done to a store between saves. -/
inductive Action where
  | operate (operation : Operation)
  /-- Makes an object that gets no handle. -/
  | keep (o : DynamicObject)
  | write (handle : Handle) (offset : Int) (v : Int32)
  | bind (name : String) (symbol : Symbol)
  | unbind (name : String)

/-- Carries out one action. What fails changes nothing. -/
def act (s : Store) : Action → Store
  | .operate operation => (s.perform operation).2
  | .keep o => s.withObjects s.registry (s.world.dynamic.insert o).2
  | .write handle offset v =>
    match s.registry.writeField s.world handle offset v with
    | .ok world => { s with world }
    | .error _ => s
  | .bind name symbol =>
    match s.registry.bindSymbol name symbol with
    | .ok registry => { s with registry }
    | .error _ => s
  | .unbind name => { s with registry := s.registry.unbind name }

def acts (s : Store) (actions : List Action) : Store := actions.foldl act s

/-- The handle table of a store as a save holds it. -/
def saved (s : Store) : Snapshot := s.registry.snapshot s.world.dynamic

/-- The store with the handle table of a save in place of its own. -/
def restore (s : Store) (save : Snapshot) : Except Fault Store :=
  (s.registry.restore s.world.dynamic save).map fun table => s.withObjects table.1 table.2

/-- The store with the handle table of a save, however high its handles are. -/
def reloaded (s : Store) (save : Snapshot) : Store :=
  s.withObjects (s.registry.restored s.world.dynamic save).1
    (s.registry.restored s.world.dynamic save).2

/-! ## Stores that can be saved -/

/-- A store whose handles, from 1 on, stand for what is there. -/
structure Savable (s : Store) : Prop extends Backed s where
  one_le_nextHandle : 1 ≤ s.registry.nextHandle
  bounded : s.registry.Bounded

variable {s t : Store}

theorem savable_fresh (w : World) : (fresh w).Savable where
  toBacked := (matched_fresh w).toBacked
  one_le_nextHandle := Int.le_refl 1
  bounded := bounded_empty

theorem nextHandle_le_perform (s : Store) (operation : Operation) :
    s.registry.nextHandle ≤ (s.perform operation).2.registry.nextHandle := by
  have register (target : Target) (type : ScriptType) :
      s.registry.nextHandle ≤ (s.registry.registered target type).2.nextHandle := by
    cases known : s.registry.handleFor target type with
    | some handle => rw [registered_of_some known]
    | none =>
      rw [registered_of_none known]
      exact Int.le_of_lt (Int.lt_succ _)
  refine perform_keeps (P := fun t => s.registry.nextHandle ≤ t.registry.nextHandle) operation
    (Int.le_refl _) (fun o => register _ _) (fun e type => register _ _) ?_ ?_
  · exact fun _ _ => Int.le_refl _
  · exact fun _ _ _ => Int.le_refl _

theorem Backed.keep (backed : s.Backed) (o : DynamicObject) : (s.act (.keep o)).Backed where
  coherent := backed.coherent
  sound := backed.sound.insert o
  stored := by
    intro handle type key references entry
    obtain ⟨old, found, sameType⟩ := backed.stored entry
    exact ⟨old, (backed.sound.grown_insert o).get?_eq_some backed.sound found, sameType⟩

/-- A write changes an object in place, if it changes one at all. -/
theorem Backed.write (backed : s.Backed) (handle : Handle) (offset : Int) (v : Int32) :
    (s.act (.write handle offset v)).Backed := by
  simp only [act]
  split
  · next world wrote =>
    obtain ⟨l, -, wrote⟩ := exists_write_of_writeField wrote
    rcases World.write_cases wrote with same | ⟨key, o, changed, there, sameType, replaced⟩
    · exact ⟨backed.coherent, same ▸ backed.sound, same ▸ backed.stored⟩
    · have contained := Arena.contains_iff.mpr ⟨o, there⟩
      refine ⟨backed.coherent, replaced ▸ backed.sound.set key changed, ?_⟩
      intro other type found references entry
      obtain ⟨old, stored, itsType⟩ := backed.stored entry
      simp only [replaced, Arena.get?_set contained]
      by_cases same : found = key
      · subst same
        obtain rfl := Option.some.inj (there.symm.trans stored)
        exact ⟨changed, if_pos rfl, sameType.trans itsType⟩
      · exact ⟨old, (if_neg same).trans stored, itsType⟩
  · exact backed

/-- Names of handles are none of the table's concern. -/
theorem Savable.withSymbols (savable : s.Savable) (symbols : SymbolTable) :
    Savable { s with registry := { s.registry with symbols } } where
  coherent := savable.coherent.withSymbols symbols
  sound := savable.sound
  stored := savable.stored
  one_le_nextHandle := savable.one_le_nextHandle
  bounded := savable.bounded.withSymbols symbols

theorem Savable.act (savable : s.Savable) (action : Action) : (s.act action).Savable := by
  cases action with
  | operate operation =>
    exact ⟨savable.toBacked.perform operation,
      Int.le_trans savable.one_le_nextHandle (nextHandle_le_perform s operation),
      bounded_perform savable.bounded operation⟩
  | keep o => exact ⟨savable.toBacked.keep o, savable.one_le_nextHandle, savable.bounded⟩
  | write handle offset v =>
    have same : (s.act (.write handle offset v)).registry = s.registry := by
      simp only [Store.act]
      split <;> rfl
    exact ⟨savable.toBacked.write handle offset v, same ▸ savable.one_le_nextHandle,
      same ▸ savable.bounded⟩
  | bind name symbol =>
    simp only [Store.act]
    split
    · next registry bound =>
      obtain ⟨symbols, -, same⟩ := except_bind_eq_ok.mp bound
      obtain rfl := Except.ok.inj same
      exact savable.withSymbols symbols
    · exact savable
  | unbind name => exact savable.withSymbols _

theorem Savable.acts (savable : s.Savable) (actions : List Action) : (s.acts actions).Savable := by
  induction actions generalizing s with
  | nil => exact savable
  | cons action rest hyp => exact hyp (savable.act action)

/-! ## What a save gives back -/

/-- Whether two targets are one entity, or equal objects in two stores. -/
def SameThing (s u : Store) : Target → Target → Prop
  | .static e, target => target = .static e
  | .dynamic key, target => ∃ new o, target = .dynamic new ∧
      s.world.dynamic.get? key = some o ∧ u.world.dynamic.get? new = some o

/-- What `u` is when a save of `s` has taken the place of the handles of `t`: handles and objects
are those of `s`, and everything else is that of `t`. -/
structure Restored (s t u : Store) : Prop where
  state_eq : ∀ handle, u.registry.state handle = s.registry.state handle
  live : ∀ {handle l}, s.registry.live handle = .ok l → ∃ target,
    u.registry.live handle = .ok { l with target } ∧ SameThing s u l.target target ∧
      u.registry.ownership handle = s.registry.ownership handle
  saved_eq : u.saved = s.saved
  nextHandle_eq : u.registry.nextHandle = s.registry.nextHandle
  /-- A new handle is ahead of all that have been saved. -/
  lt_register : ∀ {target type handle after}, u.registry.handleFor target type = none →
    u.registry.register target type = .ok (handle, after) →
    ∀ entry ∈ s.saved.entries, entry.handle < handle
  symbols_eq : u.registry.symbols = t.registry.symbols
  /-- The objects of the handles before are gone. -/
  disposed : ∀ key, t.registry.Holds key → u.world.dynamic.get? key = none
  /-- Objects without a handle stay what they are. -/
  kept : ∀ key, ¬ t.registry.Holds key → t.world.dynamic.contains key →
    u.world.dynamic.get? key = t.world.dynamic.get? key
  world_eq : { u.world with dynamic := t.world.dynamic } = t.world
  handleFor_iff : ∀ target type handle, u.registry.handleFor target type = some handle ↔
    u.registry.resolve handle = .ok (target, type)

/-- An entry of a store that can be saved is saved as what it stands for. -/
theorem Backed.sameThing (backed : s.Backed) {u : Store} {handle : Handle} {l : Live}
    (live : s.registry.live handle = .ok l) {target : Option Target}
    (stands : Stands u.world.dynamic (savedTarget s.world.dynamic (some l.target)) target) :
    ∃ new, target = some new ∧ SameThing s u l.target new ∧
      ownershipOf new = ownershipOf l.target := by
  have entry := live_eq_ok_iff.mp live
  obtain ⟨old, type, references⟩ := l
  cases old with
  | static e => exact ⟨.static e, stands, rfl, rfl⟩
  | dynamic key =>
    obtain ⟨o, there, -⟩ := backed.stored entry
    rw [savedTarget, there] at stands
    obtain ⟨new, rfl, found⟩ := stands
    exact ⟨.dynamic new, rfl, ⟨new, o, rfl, there, found⟩, rfl⟩

/-- Whether the table of `u` has the entries of `s`, with targets that are what a save of `s` says,
and no others. -/
structure Carried (s u : Store) : Prop where
  absent : ∀ handle : Handle, s.registry.entries[handle]? = none →
    u.registry.entries[handle]? = none
  each : ∀ {handle : Handle} {e : Entry}, s.registry.entries[handle]? = some e → ∃ target,
    Stands u.world.dynamic (savedTarget s.world.dynamic e.target) target ∧
      u.registry.entries[handle]? = some ⟨e.type, target, e.references⟩

section Carried

variable {u : Store} (carried : Carried s u)
include carried

theorem Carried.state_eq (backed : s.Backed) (handle : Handle) :
    u.registry.state handle = s.registry.state handle := by
  cases found : s.registry.entries[handle]? with
  | none => simp only [state, found, carried.absent handle found]
  | some e =>
    obtain ⟨target, stands, entry⟩ := carried.each found
    simp only [state, found, entry]
    obtain ⟨type, old, references⟩ := e
    cases old with
    | none => rw [show target = none from stands]
    | some old =>
      obtain ⟨new, rfl, -⟩ := backed.sameThing (u := u)
        (live_eq_ok_iff (l := ⟨old, type, references⟩).mpr found) stands
      rfl

theorem Carried.live (backed : s.Backed) {handle : Handle} {l : Live}
    (live : s.registry.live handle = .ok l) : ∃ target,
      u.registry.live handle = .ok { l with target } ∧ SameThing s u l.target target ∧
        u.registry.ownership handle = s.registry.ownership handle := by
  obtain ⟨target, stands, entry⟩ := carried.each (live_eq_ok_iff.mp live)
  obtain ⟨new, rfl, same, owned⟩ := backed.sameThing live stands
  have restored : u.registry.live handle = .ok { l with target := new } :=
    live_eq_ok_iff.mpr entry
  refine ⟨new, restored, same, ?_⟩
  simp only [ownership, live, restored, Except.map, owned]

/-- Saved again, the entries are the same: a save does not say which keys objects have. -/
theorem Carried.saved_eq (nextHandle : u.registry.nextHandle = s.registry.nextHandle) :
    u.saved = s.saved := by
  refine congrArg₂ Snapshot.mk nextHandle (snapshot_entries_congr ?_)
  intro handle
  cases found : s.registry.entries[handle]? with
  | none =>
    rw [carried.absent handle found]
    rfl
  | some e =>
    obtain ⟨target, stands, entry⟩ := carried.each found
    rw [entry, Option.map_some, Option.map_some, savedEntry, stands.savedTarget_eq]
    rfl

end Carried

theorem Backed.carried (other : t.Backed) (s : Store) : Carried s (t.reloaded s.saved) := by
  obtain ⟨-, -, absent, each⟩ :=
    entries_restore t.registry other.sound s.registry s.world.dynamic
  exact ⟨absent, each⟩

theorem Savable.restored_after (savable : s.Savable) (other : t.Savable) :
    Restored s t (t.reloaded s.saved) := by
  obtain ⟨grown, symbols, -⟩ :=
    entries_restore t.registry other.sound s.registry s.world.dynamic
  change (t.registry.disposeAll t.world.dynamic).Grown (t.reloaded s.saved).world.dynamic at grown
  have carried := other.carried s
  have coherent : (t.reloaded s.saved).registry.Coherent :=
    coherent_restore _ _ (savable.coherent.snapshot_unambiguous _)
  have nextHandle : (t.reloaded s.saved).registry.nextHandle = s.registry.nextHandle :=
    savable.coherent.nextHandle_restore savable.one_le_nextHandle ..
  have disposed := generation_disposeAll t.registry t.world.dynamic
  exact {
    state_eq := carried.state_eq savable.toBacked
    live := carried.live savable.toBacked
    saved_eq := carried.saved_eq nextHandle
    nextHandle_eq := nextHandle
    lt_register := by
      intro target type handle after new given entry listed
      obtain ⟨⟨handle, e⟩, member, rfl⟩ := List.mem_map.mp listed
      obtain rfl := congrArg Prod.fst (register_eq_ok_iff.mp given).2
      rw [registered_of_none new, nextHandle]
      exact savable.coherent.lt_nextHandle (ExtTreeMap.mem_toList_iff_getElem?_eq_some.mp member)
    symbols_eq := symbols
    disposed := by
      rintro key ⟨handle, type, references, entry⟩
      obtain ⟨o, there, -⟩ := other.stored entry
      -- keys that a restored object gets are newer than all that have been given out
      rw [grown.get?_eq (disposed ▸ other.sound.generation_le_of_get? there)]
      exact get?_disposeAll_of_holds ⟨handle, type, references, entry⟩ _
    kept := by
      intro key free there
      obtain ⟨o, found⟩ := Arena.contains_iff.mp there
      rw [grown.get?_eq (disposed ▸ other.sound.generation_le_of_get? found)]
      exact get?_disposeAll_of_not_holds free _
    world_eq := rfl
    handleFor_iff := coherent.handleFor_iff_resolve }

/-- What has been saved can be restored, and nothing of it is lost. -/
theorem Savable.restored (savable : s.Savable) (other : t.Savable) :
    t.restore s.saved = .ok (t.reloaded s.saved) ∧ Restored s t (t.reloaded s.saved) := by
  refine ⟨?_, savable.restored_after other⟩
  rw [restore, saved, savable.coherent.restore_snapshot savable.one_le_nextHandle
    savable.bounded.nextHandle_le]
  rfl

/-- A save of what any actions have led to brings the table back, whatever the store it is restored
into has been through. -/
theorem restored_acts (w w' : World) (actions actions' : List Action) :
    let s := (fresh w).acts actions
    let t := (fresh w').acts actions'
    ∃ u, t.restore s.saved = .ok u ∧ Restored s t u :=
  ⟨_, ((savable_fresh w).acts actions).restored ((savable_fresh w').acts actions')⟩

end Store

end Adventure.Registry
