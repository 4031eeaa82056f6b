import Adventure.Proofs.Arena
import Adventure.Proofs.Registry.Coherent

/-! # The life of objects

Objects that are made while the game runs live in an arena of the world and are counted by the
registry. This module follows a registry and a world through any sequence of operations on handles.

* `Store` — a registry with the world that has its objects.
* `Operation`, `Store.perform`, `Store.run` — what is done to handles.
* `Store.Backed` — the invariant: what live handles of such objects stand for is in the arena, each
  handle under the type of its object. `Store.Matched` adds that every object there has a handle.
* `Store.Orderly` — what follows for whoever uses handles: no object leaks, none goes twice, and no
  handle is touched by what is done to another.
-/

namespace Adventure.Registry

open Std (ExtTreeMap)

/-- A registry with the world that has its objects. -/
structure Store where
  registry : Registry
  world : World

/-- What is done to handles. -/
inductive Operation where
  /-- Makes an object and registers it under its own type. -/
  | allocate (o : DynamicObject)
  | register (e : Entity) (type : ScriptType)
  | addReference (handle : Handle)
  | release (handle : Handle)

/-- What an operation answers. -/
inductive Answer where
  | handle (handle : Handle)
  | count (references : Nat)
  | state (state : HandleState)
  deriving DecidableEq

namespace Store

/-- No handles yet, and a world that no object has been made in. -/
def fresh (w : World) : Store := ⟨{}, { w with dynamic := ∅ }⟩

def withObjects (s : Store) (registry : Registry) (dynamic : Arena DynamicObject) : Store :=
  ⟨registry, { s.world with dynamic }⟩

/-- Carries out one operation. What fails changes nothing; an operation that would end the program
is passed over. -/
def perform (s : Store) : Operation → Except Fault Answer × Store
  | .allocate o =>
    let (key, objects) := s.world.dynamic.insert o
    match s.registry.register (.dynamic key) o.type with
    | .ok (handle, registry) => (.ok (.handle handle), s.withObjects registry objects)
    | .error fault => (.error fault, s)
  | .register e type =>
    match s.registry.register (.static e) type with
    | .ok (handle, registry) => (.ok (.handle handle), { s with registry })
    | .error fault => (.error fault, s)
  | .addReference handle =>
    match s.registry.addReference handle with
    | .ok (count, registry) => (.ok (.count count), { s with registry })
    | .error fault => (.error fault, s)
  | .release handle =>
    match s.registry.release s.world.dynamic handle with
    | .ok (state, registry, objects) => (.ok (.state state), s.withObjects registry objects)
    | .error fault => (.error fault, s)

def run (s : Store) (operations : List Operation) : Store :=
  operations.foldl (fun s operation => (s.perform operation).2) s

/-- The store with an object more, under its handle. -/
def allocated (s : Store) (o : DynamicObject) : Store :=
  s.withObjects (s.registry.registered (.dynamic (s.world.dynamic.insert o).1) o.type).2
    (s.world.dynamic.insert o).2

/-- The store with an entity registered. -/
def registered (s : Store) (e : Entity) (type : ScriptType) : Store :=
  { s with registry := (s.registry.registered (.static e) type).2 }

/-- The handle that an operation is about. -/
def subject (s : Store) : Operation → Handle
  | .allocate o => (s.registry.registered (.dynamic (s.world.dynamic.insert o).1) o.type).1
  | .register e type => (s.registry.registered (.static e) type).1
  | .addReference handle => handle
  | .release handle => handle

/-- The key that a handle stands for, if it stands for an object made at run time. -/
def keyOf? (s : Store) (handle : Handle) : Option Arena.Key :=
  match s.registry.live handle with
  | .ok ⟨.dynamic key, _, _⟩ => some key
  | _ => none

/-- The handles of the objects made at run time that are there. -/
def dynamicHandles (s : Store) : Set Handle := {handle | (s.keyOf? handle).isSome}

end Store

/-! ## What operations do -/

namespace Store

variable {s : Store} {handle : Handle} {l : Live}

theorem perform_allocate_cases (s : Store) (o : DynamicObject) :
    s.perform (.allocate o) = (.ok (.handle (s.subject (.allocate o))), s.allocated o) ∨
      s.perform (.allocate o) = (.error .overflow, s) := by
  rcases register_cases s.registry (.dynamic (s.world.dynamic.insert o).1) o.type with
    given | full
  · exact .inl (by simp only [perform, given]; rfl)
  · exact .inr (by simp only [perform, full])

theorem perform_register_cases (s : Store) (e : Entity) (type : ScriptType) :
    s.perform (.register e type) =
        (.ok (.handle (s.subject (.register e type))), s.registered e type) ∨
      s.perform (.register e type) = (.error .overflow, s) := by
  rcases register_cases s.registry (.static e) type with given | full
  · exact .inl (by simp only [perform, given]; rfl)
  · exact .inr (by simp only [perform, full])

theorem perform_addReference (live : s.registry.live handle = .ok l)
    (room : l.references < maxReferences) :
    s.perform (.addReference handle) = (.ok (.count (l.references + 1)),
      { s with registry := s.registry.withReferences handle l (l.references + 1) }) := by
  simp only [perform, addReference_eq_ok live room]

theorem perform_addReference_of_full (live : s.registry.live handle = .ok l)
    (full : maxReferences ≤ l.references) :
    s.perform (.addReference handle) = (.error .overflow, s) := by
  simp only [perform, addReference_of_full live full]

/-- An addition changes a count at most. -/
theorem perform_addReference_cases (live : s.registry.live handle = .ok l) :
    ∃ references, (s.perform (.addReference handle)).2 =
        { s with registry := s.registry.withReferences handle l references } ∨
      (s.perform (.addReference handle)).2 = s := by
  by_cases full : maxReferences ≤ l.references
  · exact ⟨0, .inr (by rw [perform_addReference_of_full live full])⟩
  · exact ⟨_, .inl (by rw [perform_addReference live (Nat.not_le.mp full)])⟩

theorem perform_release_cases (live : s.registry.live handle = .ok l) :
    (∃ key, l.target = .dynamic key ∧ l.references ≤ 1 ∧
      s.perform (.release handle) = (.ok (.state .released),
        s.withObjects (s.registry.forget handle l) (s.world.dynamic.erase key))) ∨
    ((l.target.isDynamic → 2 ≤ l.references) ∧
      let counted := s.registry.withReferences handle l (l.references - 1)
      s.perform (.release handle) = (.ok (.state (counted.state handle)),
        { s with registry := counted })) := by
  rcases release_cases s.world.dynamic live with ⟨key, target, last, released⟩ | ⟨more, released⟩
  · exact .inl ⟨key, target, last, by simp only [perform, released]⟩
  · exact .inr ⟨more, by simp only [perform, released]; rfl⟩

theorem perform_error {fault : Fault} (gone : s.registry.live handle = .error fault) :
    s.perform (.addReference handle) = (.error fault, s) ∧
      s.perform (.release handle) = (.error fault, s) := by
  simp only [perform, addReference_eq_error gone, release_eq_error _ gone, and_self]

theorem keyOf?_eq_some_iff {key : Arena.Key} : s.keyOf? handle = some key ↔
    ∃ type references, s.registry.entries[handle]? =
      some ⟨type, some (.dynamic key), references⟩ := by
  unfold keyOf?
  cases live : s.registry.live handle with
  | error fault =>
    have gone : ∀ l, s.registry.live handle ≠ .ok l := by rw [live]; exact nofun
    simp only [reduceCtorEq, false_iff, not_exists]
    intro type references entry
    exact gone ⟨.dynamic key, type, references⟩ (live_eq_ok_iff.mpr entry)
  | ok l =>
    have entry := live_eq_ok_iff.mp live
    obtain ⟨target, type, references⟩ := l
    rw [entry]
    cases target with
    | static e => simp
    | dynamic found => simp [eq_comm]

/-! ## The invariant -/

/-- What handles of objects stand for is there, and of their type. -/
structure Backed (s : Store) : Prop where
  coherent : s.registry.Coherent
  sound : s.world.dynamic.Sound
  stored : ∀ {handle : Handle} {type : ScriptType} {key : Arena.Key} {references : Nat},
    s.registry.entries[handle]? = some ⟨type, some (.dynamic key), references⟩ →
    ∃ o, s.world.dynamic.get? key = some o ∧ o.type = type

/-- Handles of objects and keys of the arena belong together. -/
structure Matched (s : Store) : Prop extends Backed s where
  held : ∀ {key o}, s.world.dynamic.get? key = some o →
    ∃ (handle : Handle) (references : Nat),
      s.registry.entries[handle]? = some ⟨o.type, some (.dynamic key), references⟩

theorem matched_fresh (w : World) : (fresh w).Matched where
  coherent := coherent_empty
  sound := Arena.sound_empty
  stored := by simp [fresh]
  held := by simp [fresh, Arena.get?_empty]

/-- The key of a new object has no handle yet. -/
theorem Backed.handleFor_insert (backed : s.Backed) (o : DynamicObject) (type : ScriptType) :
    s.registry.handleFor (.dynamic (s.world.dynamic.insert o).1) type = none := by
  cases known : s.registry.handleFor (.dynamic (s.world.dynamic.insert o).1) type with
  | none => rfl
  | some handle =>
    obtain ⟨references, entry⟩ := backed.coherent.handleFor_iff.mp known
    obtain ⟨old, found, -⟩ := backed.stored entry
    rw [backed.sound.get?_insert_key o] at found
    cases found

theorem Backed.entries_allocate (backed : s.Backed) (o : DynamicObject) (handle : Handle) :
    (s.allocated o).registry.entries[handle]? =
      if s.registry.nextHandle = handle then
        some ⟨o.type, some (.dynamic (s.world.dynamic.insert o).1), 0⟩
      else s.registry.entries[handle]? :=
  entries_registered_of_none (backed.handleFor_insert o o.type) handle

theorem Backed.get?_allocate (backed : s.Backed) (o : DynamicObject) (key : Arena.Key) :
    (s.allocated o).world.dynamic.get? key =
      if key = (s.world.dynamic.insert o).1 then some o else s.world.dynamic.get? key :=
  backed.sound.get?_insert o key

theorem Backed.allocate (backed : s.Backed) (o : DynamicObject) :
    (s.allocated o).Backed := by
  refine ⟨backed.coherent.registered _ _, backed.sound.insert o, ?_⟩
  intro handle type key references entry
  rw [backed.entries_allocate] at entry
  rw [backed.get?_allocate]
  by_cases new : s.registry.nextHandle = handle
  · rw [if_pos new] at entry
    simp only [Option.some.injEq, Entry.mk.injEq, Target.dynamic.injEq] at entry
    obtain ⟨sameType, sameKey, -⟩ := entry
    exact ⟨o, by rw [if_pos sameKey.symm], sameType⟩
  · rw [if_neg new] at entry
    obtain ⟨old, found, sameType⟩ := backed.stored entry
    -- a key that has an object is not the new one
    have other : key ≠ (s.world.dynamic.insert o).1 := by
      rintro rfl
      rw [backed.sound.get?_insert_key o] at found
      cases found
    exact ⟨old, by rw [if_neg other, found], sameType⟩

theorem Matched.allocate (matched : s.Matched) (o : DynamicObject) :
    (s.allocated o).Matched := by
  refine ⟨matched.toBacked.allocate o, ?_⟩
  intro key found there
  rw [matched.get?_allocate] at there
  by_cases new : key = (s.world.dynamic.insert o).1
  · rw [if_pos new] at there
    obtain rfl := Option.some.inj there
    exact ⟨s.registry.nextHandle, 0, by rw [matched.entries_allocate, if_pos rfl, new]⟩
  · rw [if_neg new] at there
    obtain ⟨handle, references, entry⟩ := matched.held there
    have old : s.registry.nextHandle ≠ handle := by
      rintro rfl
      rw [matched.coherent.nextHandle_free] at entry
      cases entry
    exact ⟨handle, references, by rw [matched.entries_allocate, if_neg old, entry]⟩

theorem Backed.register (backed : s.Backed) (e : Entity) (type : ScriptType) :
    (s.registered e type).Backed := by
  refine ⟨backed.coherent.registered _ _, backed.sound, ?_⟩
  intro handle ty key references entry
  change (s.registry.registered (.static e) type).2.entries[handle]? = _ at entry
  cases known : s.registry.handleFor (.static e) type with
  | some old =>
    rw [registered_of_some known] at entry
    exact backed.stored entry
  | none =>
    rw [entries_registered_of_none known] at entry
    by_cases new : s.registry.nextHandle = handle
    · rw [if_pos new] at entry
      cases entry
    · rw [if_neg new] at entry
      exact backed.stored entry

theorem Matched.register (matched : s.Matched) (e : Entity) (type : ScriptType) :
    (s.registered e type).Matched := by
  refine ⟨matched.toBacked.register e type, ?_⟩
  intro key o there
  obtain ⟨handle, references, entry⟩ := matched.held there
  exact ⟨handle, references, matched.coherent.entries_registered entry⟩

/-- A count changes neither what handles stand for nor the arena. -/
theorem Backed.withReferences (backed : s.Backed) (live : s.registry.live handle = .ok l)
    (references : Nat) :
    Backed { s with registry := s.registry.withReferences handle l references } := by
  have entry := live_eq_ok_iff.mp live
  refine ⟨backed.coherent.withReferences live references, backed.sound, ?_⟩
  intro other type key n found
  rw [entries_withReferences] at found
  by_cases same : handle = other
  · subst same
    simp only [if_true, Option.some.injEq, Entry.mk.injEq] at found
    rw [found.1, found.2.1] at entry
    exact backed.stored entry
  · rw [if_neg same] at found
    exact backed.stored found

theorem Matched.withReferences (matched : s.Matched) (live : s.registry.live handle = .ok l)
    (references : Nat) :
    Matched { s with registry := s.registry.withReferences handle l references } := by
  have entry := live_eq_ok_iff.mp live
  refine ⟨matched.toBacked.withReferences live references, ?_⟩
  intro key o there
  obtain ⟨other, n, found⟩ := matched.held there
  by_cases same : handle = other
  · subst same
    rw [entry] at found
    simp only [Option.some.injEq, Entry.mk.injEq] at found
    exact ⟨handle, references, by
      rw [entries_withReferences, if_pos rfl, found.1, found.2.1]⟩
  · exact ⟨other, n, by rw [entries_withReferences, if_neg same, found]⟩

theorem Backed.dispose (backed : s.Backed) (live : s.registry.live handle = .ok l)
    {key : Arena.Key} (target : l.target = .dynamic key) :
    (s.withObjects (s.registry.forget handle l) (s.world.dynamic.erase key)).Backed := by
  have entry := live_eq_ok_iff.mp live
  rw [target] at entry
  obtain ⟨gone, was, sameType⟩ := backed.stored entry
  refine ⟨backed.coherent.forget live, backed.sound.erase key, ?_⟩
  intro other type found n there
  show ∃ o, (s.world.dynamic.erase key).get? found = some o ∧ o.type = type
  rw [withObjects, entries_forget] at there
  by_cases same : handle = other
  · rw [if_pos same] at there
    cases there
  · rw [if_neg same] at there
    obtain ⟨o, stored, itsType⟩ := backed.stored there
    -- two handles of one object would have one type and so be the same handle
    have distinct : found ≠ key := by
      rintro rfl
      obtain rfl := Option.some.inj (was.symm.trans stored)
      rw [← itsType, sameType] at there
      exact same (backed.coherent.unique entry there)
    exact ⟨o, by rw [Arena.get?_erase, if_neg distinct, stored], itsType⟩

theorem Matched.dispose (matched : s.Matched) (live : s.registry.live handle = .ok l)
    {key : Arena.Key} (target : l.target = .dynamic key) :
    (s.withObjects (s.registry.forget handle l) (s.world.dynamic.erase key)).Matched := by
  have entry := live_eq_ok_iff.mp live
  rw [target] at entry
  refine ⟨matched.toBacked.dispose live target, ?_⟩
  intro found o there
  change (s.world.dynamic.erase key).get? found = some o at there
  rw [Arena.get?_erase] at there
  by_cases same : found = key
  · rw [if_pos same] at there
    cases there
  · rw [if_neg same] at there
    obtain ⟨other, n, entryOther⟩ := matched.held there
    -- the handle that goes stood for the key that goes
    have distinct : handle ≠ other := by
      rintro rfl
      rw [entry] at entryOther
      simp only [Option.some.injEq, Entry.mk.injEq, Target.dynamic.injEq] at entryOther
      exact same entryOther.2.1.symm
    exact ⟨other, n, by rw [withObjects, entries_forget, if_neg distinct, entryOther]⟩

/-- What allocating, registering, counting and disposing keep, every operation keeps. -/
theorem perform_keeps {P : Store → Prop} (operation : Operation) (unchanged : P s)
    (allocate : ∀ o, P (s.allocated o))
    (register : ∀ e type, P (s.registered e type))
    (withReferences : ∀ {handle l}, s.registry.live handle = .ok l → ∀ references,
      P { s with registry := s.registry.withReferences handle l references })
    (dispose : ∀ {handle l}, s.registry.live handle = .ok l → ∀ {key}, l.target = .dynamic key →
      P (s.withObjects (s.registry.forget handle l) (s.world.dynamic.erase key))) :
    P (s.perform operation).2 := by
  cases operation with
  | allocate o =>
    rcases perform_allocate_cases s o with made | full
    · rw [made]
      exact allocate o
    · rwa [full]
  | register e type =>
    rcases perform_register_cases s e type with made | full
    · rw [made]
      exact register e type
    · rwa [full]
  | addReference handle =>
    cases live : s.registry.live handle with
    | error fault => rwa [(perform_error live).1]
    | ok l =>
      obtain ⟨references, counted | full⟩ := perform_addReference_cases live
      · rw [counted]
        exact withReferences live references
      · rwa [full]
  | release handle =>
    cases live : s.registry.live handle with
    | error fault => rwa [(perform_error live).2]
    | ok l =>
      rcases perform_release_cases live with ⟨key, target, -, released⟩ | ⟨-, counted⟩
      · rw [released]
        exact dispose live target
      · rw [counted]
        exact withReferences live _

theorem Backed.perform (backed : s.Backed) (operation : Operation) :
    (s.perform operation).2.Backed :=
  perform_keeps operation backed backed.allocate backed.register backed.withReferences
    backed.dispose

theorem Matched.perform (matched : s.Matched) (operation : Operation) :
    (s.perform operation).2.Matched :=
  perform_keeps operation matched matched.allocate matched.register matched.withReferences
    matched.dispose

theorem Matched.run (matched : s.Matched) (operations : List Operation) :
    (s.run operations).Matched := by
  induction operations generalizing s with
  | nil => exact matched
  | cons operation rest hyp => exact hyp (matched.perform operation)

/-- What has been done has kept to 32 bits. -/
theorem bounded_perform (bounded : s.registry.Bounded) (operation : Operation) :
    (s.perform operation).2.registry.Bounded := by
  cases operation with
  | allocate o =>
    simp only [perform]
    split
    · next given => exact bounded.register given
    · exact bounded
  | register e type =>
    simp only [perform]
    split
    · next given => exact bounded.register given
    · exact bounded
  | addReference handle =>
    simp only [perform]
    split
    · next counted => exact bounded.addReference counted
    · exact bounded
  | release handle =>
    simp only [perform]
    split
    · next counted => exact bounded.release counted
    · exact bounded

theorem bounded_run (bounded : s.registry.Bounded) (operations : List Operation) :
    (s.run operations).registry.Bounded := by
  induction operations generalizing s with
  | nil => exact bounded
  | cons operation rest hyp => exact hyp (bounded_perform bounded operation)

/-! ## Handles over time -/

/-- What is not the subject of an operation keeps its entry. -/
theorem Matched.entries_perform (matched : s.Matched) {operation : Operation} {other : Handle}
    (elsewhere : other ≠ s.subject operation) :
    (s.perform operation).2.registry.entries[other]? = s.registry.entries[other]? := by
  cases operation with
  | allocate o =>
    have new : s.subject (.allocate o) = s.registry.nextHandle := by
      simp only [subject, registered_of_none (matched.handleFor_insert o o.type)]
    rcases perform_allocate_cases s o with made | full
    · rw [made, matched.entries_allocate, if_neg (new ▸ elsewhere).symm]
    · rw [full]
  | register e type =>
    rcases perform_register_cases s e type with made | full
    · rw [made]
      show (s.registry.registered (.static e) type).2.entries[other]? = _
      cases known : s.registry.handleFor (.static e) type with
      | some handle => rw [registered_of_some known]
      | none =>
        have new : s.subject (.register e type) = s.registry.nextHandle := by
          simp only [subject, registered_of_none known]
        rw [entries_registered_of_none known, if_neg (new ▸ elsewhere).symm]
    · rw [full]
  | addReference handle =>
    have distinct : handle ≠ other := Ne.symm elsewhere
    cases live : s.registry.live handle with
    | error fault => rw [(perform_error live).1]
    | ok l =>
      obtain ⟨references, counted | full⟩ := perform_addReference_cases live
      · rw [counted, entries_withReferences, if_neg distinct]
      · rw [full]
  | release handle =>
    have distinct : handle ≠ other := Ne.symm elsewhere
    cases live : s.registry.live handle with
    | error fault => rw [(perform_error live).2]
    | ok l =>
      rcases perform_release_cases live with ⟨key, -, -, released⟩ | ⟨-, counted⟩
      · rw [released, withObjects, entries_forget, if_neg distinct]
      · rw [counted, entries_withReferences, if_neg distinct]

theorem Matched.entries_made (matched : s.Matched) {entry : Entry}
    (there : s.registry.entries[handle]? = some entry) :
    (∀ o, (s.perform (.allocate o)).2.registry.entries[handle]? = some entry) ∧
      ∀ e type, (s.perform (.register e type)).2.registry.entries[handle]? = some entry := by
  constructor
  · intro o
    rcases perform_allocate_cases s o with made | full
    · rw [made]
      exact matched.coherent.entries_registered there
    · rwa [full]
  · intro e type
    rcases perform_register_cases s e type with made | full
    · rw [made]
      exact matched.coherent.entries_registered there
    · rwa [full]

/-- What a handle stands for, it stands for until the last reference to an object goes. -/
theorem Matched.live_perform (matched : s.Matched) (live : s.registry.live handle = .ok l)
    (operation : Operation) :
    (∃ references, (s.perform operation).2.registry.live handle = .ok { l with references }) ∨
      (s.perform operation).1 = .ok (.state .released) ∧ l.target.isDynamic := by
  have entry := live_eq_ok_iff.mp live
  have kept : ∀ t : Store, t.registry.entries[handle]? = s.registry.entries[handle]? →
      ∃ references, t.registry.live handle = .ok { l with references } := by
    intro t same
    exact ⟨l.references, by rw [live_congr same, live]⟩
  -- only the last release of a handle itself changes what it stands for
  by_cases elsewhere : handle ≠ s.subject operation
  · exact .inl (kept _ (matched.entries_perform elsewhere))
  · cases operation with
    | allocate o => exact .inl (kept _ (by rw [(matched.entries_made entry).1 o, entry]))
    | register e type =>
      exact .inl (kept _ (by rw [(matched.entries_made entry).2 e type, entry]))
    | addReference subject =>
      obtain rfl : handle = subject := not_ne_iff.mp elsewhere
      obtain ⟨references, counted | full⟩ := perform_addReference_cases live
      · exact .inl ⟨references, by rw [counted]; exact live_withReferences ..⟩
      · exact .inl (kept _ (by rw [full]))
    | release subject =>
      obtain rfl : handle = subject := not_ne_iff.mp elsewhere
      rcases perform_release_cases live with ⟨key, target, -, released⟩ | ⟨-, counted⟩
      · exact .inr ⟨by rw [released], by rw [target]; rfl⟩
      · rw [counted]
        exact .inl ⟨l.references - 1, live_withReferences ..⟩

theorem Matched.static_run (matched : s.Matched) {e : Entity} {type : ScriptType} {n : Nat}
    (live : s.registry.live handle = .ok ⟨.static e, type, n⟩) (later : List Operation) :
    ∃ m, (s.run later).registry.live handle = .ok ⟨.static e, type, m⟩ := by
  induction later generalizing s n with
  | nil => exact ⟨n, live⟩
  | cons operation rest hyp =>
    rcases matched.live_perform live operation with ⟨references, after⟩ | ⟨-, dynamic⟩
    · exact hyp (matched.perform operation) after
    · cases dynamic

theorem Matched.released_perform (matched : s.Matched)
    (released : s.registry.state handle = .released) (operation : Operation) :
    (s.perform operation).2.registry.state handle = .released := by
  have gone := live_eq_error_of_released released
  by_cases elsewhere : handle ≠ s.subject operation
  · rw [state_congr (matched.entries_perform elsewhere), released]
  · cases entry : s.registry.entries[handle]? with
    | none =>
      rw [state, entry] at released
      cases released
    | some found =>
      cases operation with
      | allocate o =>
        rw [state_congr (((matched.entries_made entry).1 o).trans entry.symm), released]
      | register e type =>
        rw [state_congr (((matched.entries_made entry).2 e type).trans entry.symm), released]
      | addReference subject =>
        obtain rfl : handle = subject := not_ne_iff.mp elsewhere
        rw [(perform_error gone).1, released]
      | release subject =>
        obtain rfl : handle = subject := not_ne_iff.mp elsewhere
        rw [(perform_error gone).2, released]

theorem Matched.released_run (matched : s.Matched)
    (released : s.registry.state handle = .released) (later : List Operation) :
    (s.run later).registry.state handle = .released := by
  induction later generalizing s with
  | nil => exact released
  | cons operation rest hyp =>
    exact hyp (matched.perform operation) (matched.released_perform released operation)

/-! ## Pairing -/

theorem Matched.bijOn (matched : s.Matched) :
    Set.BijOn s.keyOf? s.dynamicHandles (some '' {key | s.world.dynamic.contains key}) := by
  refine ⟨?_, ?_, ?_⟩
  · intro handle dynamic
    obtain ⟨key, found⟩ := Option.isSome_iff_exists.mp dynamic
    obtain ⟨type, references, entry⟩ := keyOf?_eq_some_iff.mp found
    obtain ⟨o, stored, -⟩ := matched.stored entry
    exact ⟨key, Arena.contains_iff.mpr ⟨o, stored⟩, found.symm⟩
  · intro first isDynamic second _ same
    obtain ⟨key, found⟩ := Option.isSome_iff_exists.mp isDynamic
    obtain ⟨type, n, entry⟩ := keyOf?_eq_some_iff.mp found
    obtain ⟨otherType, m, otherEntry⟩ := keyOf?_eq_some_iff.mp (same ▸ found)
    -- both handles have the type of the one object under the key
    obtain ⟨o, stored, itsType⟩ := matched.stored entry
    obtain ⟨o', stored', itsType'⟩ := matched.stored otherEntry
    obtain rfl := Option.some.inj (stored.symm.trans stored')
    subst itsType itsType'
    exact matched.coherent.unique entry otherEntry
  · rintro _ ⟨key, contained, rfl⟩
    obtain ⟨o, stored⟩ := Arena.contains_iff.mp contained
    obtain ⟨handle, references, entry⟩ := matched.held stored
    have found := keyOf?_eq_some_iff.mpr ⟨o.type, references, entry⟩
    exact ⟨handle, Option.isSome_iff_exists.mpr ⟨key, found⟩, found⟩

theorem Matched.ncard_dynamicHandles (matched : s.Matched) :
    s.dynamicHandles.ncard = s.world.dynamic.size := by
  -- the pairing carries the handles to the live keys, and these are as many as the objects
  rw [← matched.bijOn.injOn.ncard_image, matched.bijOn.image_eq,
    Set.ncard_image_of_injective _ (Option.some_injective _), Set.ncard_def,
    matched.sound.encard_contains, ENat.toNat_natCast]

/-! ## What users of handles may rely on -/

/-- Registry and arena agree, references are counted one by one, objects go with their last
reference and only then, and what is done to one handle leaves all others alone. -/
structure Orderly (s : Store) : Prop where
  /-- Each object in the arena is reached through one handle, and each handle reaches one. -/
  pairing : Set.BijOn s.keyOf? s.dynamicHandles (some '' {key | s.world.dynamic.contains key})
  size_eq : s.world.dynamic.size = s.dynamicHandles.ncard
  addReference_eq : ∀ {handle l}, s.registry.live handle = .ok l →
    l.references < maxReferences → ∃ t,
    s.perform (.addReference handle) = (.ok (.count (l.references + 1)), t) ∧
      t.registry.live handle = .ok { l with references := l.references + 1 }
  /-- A count of 32 bits that is full ends the program, and no count is beyond that. -/
  addReference_full : ∀ {handle l}, s.registry.live handle = .ok l →
    l.references ≤ maxReferences ∧ (l.references = maxReferences →
      s.perform (.addReference handle) = (.error .overflow, s))
  /-- Exactly the last reference to an object disposes of it. -/
  released_iff : ∀ handle, (s.perform (.release handle)).1 = .ok (.state .released) ↔
    ∃ key type references,
      s.registry.live handle = .ok ⟨.dynamic key, type, references⟩ ∧ references ≤ 1
  /-- What goes is the object of the handle, and nothing else. -/
  released_eq : ∀ {handle l}, s.registry.live handle = .ok l →
    (s.perform (.release handle)).1 = .ok (.state .released) → ∃ key registry objects,
      l.target = .dynamic key ∧
      (s.perform (.release handle)).2 = s.withObjects registry objects ∧
      registry.state handle = .released ∧
      (∀ other, objects.get? other = if other = key then none else s.world.dynamic.get? other) ∧
      objects.size + 1 = s.world.dynamic.size
  /-- Any other release counts down; an entity without references stays without. -/
  release_eq : ∀ {handle l}, s.registry.live handle = .ok l →
    (s.perform (.release handle)).1 ≠ .ok (.state .released) → ∃ registry,
      s.perform (.release handle) = (.ok (.state (registry.state handle)), { s with registry }) ∧
      registry.live handle = .ok { l with references := l.references - 1 }
  /-- A handle that has been released serves for nothing ever again. -/
  released_forever : ∀ {handle}, s.registry.state handle = .released → ∀ later,
    let t := s.run later
    t.registry.state handle = .released ∧
      t.perform (.addReference handle) = (.error (.staleHandle handle), t) ∧
      t.perform (.release handle) = (.error (.staleHandle handle), t) ∧
      t.registry.resolve handle = .error (.staleHandle handle) ∧
      t.registry.ownership handle = .error (.staleHandle handle) ∧
      (∀ offset, t.registry.readField t.world handle offset = .error (.staleHandle handle)) ∧
      ∀ offset v, t.registry.writeField t.world handle offset v = .error (.staleHandle handle)
  /-- Handles of entities are never released. -/
  static_forever : ∀ {handle e type n}, s.registry.live handle = .ok ⟨.static e, type, n⟩ →
    ∀ later, let t := s.run later
    (∃ m, t.registry.live handle = .ok ⟨.static e, type, m⟩) ∧
      t.registry.state handle ≠ .released
  /-- No operation changes how another handle is doing or what it stands for. -/
  others_eq : ∀ operation other, other ≠ s.subject operation →
    (s.perform operation).2.registry.state other = s.registry.state other ∧
      (s.perform operation).2.registry.resolve other = s.registry.resolve other

theorem perform_release_released_iff (handle : Handle) :
    (s.perform (.release handle)).1 = .ok (.state .released) ↔ ∃ key type references,
      s.registry.live handle = .ok ⟨.dynamic key, type, references⟩ ∧ references ≤ 1 := by
  cases live : s.registry.live handle with
  | error fault => simp [(perform_error live).2]
  | ok l =>
    obtain ⟨target, type, references⟩ := l
    rcases perform_release_cases live with ⟨key, isKey, last, released⟩ | ⟨more, counted⟩
    · obtain rfl : target = .dynamic key := isKey
      simp only [released, true_iff]
      exact ⟨key, type, references, rfl, last⟩
    · rw [counted]
      constructor
      · intro answered
        simp only [Except.ok.injEq, Answer.state.injEq] at answered
        exact absurd answered (state_ne_released (live_withReferences ..))
      · rintro ⟨key, ty, n, same, last⟩
        simp only [Except.ok.injEq, Live.mk.injEq] at same
        obtain ⟨rfl, rfl, rfl⟩ := same
        exact absurd (more rfl) (by simp only; omega)

theorem Matched.released_eq (matched : s.Matched) (live : s.registry.live handle = .ok l)
    (answered : (s.perform (.release handle)).1 = .ok (.state .released)) :
    ∃ key registry objects, l.target = .dynamic key ∧
      (s.perform (.release handle)).2 = s.withObjects registry objects ∧
      registry.state handle = .released ∧
      (∀ other, objects.get? other = if other = key then none else s.world.dynamic.get? other) ∧
      objects.size + 1 = s.world.dynamic.size := by
  rcases perform_release_cases live with ⟨key, target, -, released⟩ | ⟨more, counted⟩
  · have entry := live_eq_ok_iff.mp live
    rw [target] at entry
    obtain ⟨o, stored, -⟩ := matched.stored entry
    refine ⟨key, s.registry.forget handle l, s.world.dynamic.erase key, target, ?_, ?_, ?_, ?_⟩
    · rw [released]
    · rw [state, entries_forget, if_pos rfl]
    · exact Arena.get?_erase _ key
    · exact matched.sound.size_erase (Arena.contains_iff.mpr ⟨o, stored⟩)
  · obtain ⟨key, type, n, same, last⟩ := (perform_release_released_iff handle).mp answered
    obtain rfl := Except.ok.inj (live.symm.trans same)
    exact absurd (more rfl) (by simp only; omega)

theorem perform_release_eq (live : s.registry.live handle = .ok l)
    (answered : (s.perform (.release handle)).1 ≠ .ok (.state .released)) : ∃ registry,
      s.perform (.release handle) = (.ok (.state (registry.state handle)), { s with registry }) ∧
      registry.live handle = .ok { l with references := l.references - 1 } := by
  rcases perform_release_cases live with ⟨key, -, -, released⟩ | ⟨-, counted⟩
  · exact absurd (by rw [released]) answered
  · exact ⟨_, counted, live_withReferences ..⟩

theorem Matched.orderly (matched : s.Matched) (bounded : s.registry.Bounded) : s.Orderly where
  pairing := matched.bijOn
  size_eq := matched.ncard_dynamicHandles.symm
  addReference_eq live room := ⟨_, perform_addReference live room, live_withReferences ..⟩
  addReference_full live := ⟨bounded.references_le (live_eq_ok_iff.mp live),
    fun full => perform_addReference_of_full live (Nat.le_of_eq full.symm)⟩
  released_iff := perform_release_released_iff
  released_eq := matched.released_eq
  release_eq := perform_release_eq
  released_forever := by
    intro handle released later
    have still := matched.released_run released later
    have gone := live_eq_error_of_released still
    refine ⟨still, (perform_error gone).1, (perform_error gone).2, ?_, ?_, ?_, ?_⟩
    · rw [resolve, gone]
      rfl
    · rw [ownership, gone]
      rfl
    · intro offset
      rw [readField, gone]
      rfl
    · intro offset v
      exact writeField_eq_error gone offset v
  static_forever := by
    intro handle e type n live later
    obtain ⟨m, still⟩ := matched.static_run live later
    exact ⟨⟨m, still⟩, state_ne_released still⟩
  others_eq operation other elsewhere :=
    have same := matched.entries_perform elsewhere
    ⟨state_congr same, resolve_congr (live_congr same)⟩

/-- From no handles and no objects on, every store is orderly. -/
theorem orderly_run (w : World) (operations : List Operation) :
    ((fresh w).run operations).Orderly :=
  ((matched_fresh w).run operations).orderly (bounded_run bounded_empty operations)

end Store

end Adventure.Registry
