import Adventure.Proofs.Registry.Issued
import Adventure.Proofs.Registry.Lifecycle
import Adventure.Proofs.Run

/-! # Handles that share an object

A target can be registered under several types. Each type gives it a handle of its own, and each
handle counts its own references. An object goes when one of its handles loses the last reference
that it counts, whatever the others count: those still have references then, and nothing behind
them.

* `Use`, `use`, `after` — objects and handles made in any order, and what becomes of them.
* `Last` — whether a release of a handle disposes of an object.
* `contains_use` — what becomes of an object when a store is used.
* `lifetimes` — exactly how long objects are there, and that those registered under one type are
  there as long as they are referenced.
* `referenced_gone` — a handle with a reference to an object that another handle has disposed of.
-/

namespace Adventure.Registry

/-- A handle stands for what it stood for, or for what is being registered. -/
theorem Effect.live_cases {r : Registry} {handle : Handle}
    {pair : Option (Target × ScriptType)} {result : Option Handle × Registry} {target : Target}
    {type : ScriptType} {references : Nat}
    (effect : r.Effect pair result)
    (stands : result.2.live handle = .ok ⟨target, type, references⟩) :
    pair = some (target, type) ∨ ∃ n, r.live handle = .ok ⟨target, type, n⟩ := by
  rw [live_eq_ok_iff] at stands
  simp only [live_eq_ok_iff]
  cases effect with
  | quiet pair symbols => exact .inr ⟨references, stands⟩
  | known found symbols => exact .inr ⟨references, stands⟩
  | @new target' type' unknown room symbols =>
    change (r.registered target' type').2.entries[handle]? = _ at stands
    rw [entries_registered_of_none unknown] at stands
    split at stands
    · cases stands
      exact .inl rfl
    · exact .inr ⟨references, stands⟩
  | @counted other l live n =>
    change (r.withReferences other l n).entries[handle]? = _ at stands
    rw [entries_withReferences] at stands
    split at stands
    · next same =>
      subst same
      cases stands
      exact .inr ⟨_, live_eq_ok_iff.mp live⟩
    · exact .inr ⟨references, stands⟩
  | @gone other l live =>
    change (r.forget other l).entries[handle]? = _ at stands
    rw [entries_forget] at stands
    split at stands
    · cases stands
    · exact .inr ⟨references, stands⟩

namespace Store

variable {s : Store} {handle : Handle} {key : Arena.Key}

/-! ## Uses -/

/-- What is done to objects and handles. -/
inductive Use where
  /-- Makes an object that gets no handle. -/
  | insert (o : DynamicObject)
  /-- Registers any target, there or not, under any type. -/
  | register (target : Target) (type : ScriptType)
  | addReference (handle : Handle)
  | release (handle : Handle)

/-- What becomes of a store. What fails changes nothing; what would end the program is passed
over. -/
def use (s : Store) : Use → Store
  | .insert o => s.withObjects s.registry (s.world.dynamic.insert o).2
  | .register target type => { s with registry := (s.registry.serve (.register target type)).2 }
  | .addReference handle => (s.perform (.addReference handle)).2
  | .release handle => (s.perform (.release handle)).2

/-- The store after the first `n` of some uses, from no handles and no objects on. -/
def after (w : World) (uses : List Use) (n : Nat) : Store := (uses.take n).foldl use (fresh w)

/-- Whether a handle stands for the object under `key` and counts one reference to it at most. -/
def Last (s : Store) (handle : Handle) (key : Arena.Key) : Prop :=
  ∃ type references, s.registry.live handle = .ok ⟨.dynamic key, type, references⟩ ∧
    references ≤ 1

/-- Whether the use at place `n` registers a target under a type and is answered with `handle`. -/
def Registers (w : World) (uses : List Use) (n : Nat) (target : Target) (type : ScriptType)
    (handle : Handle) : Prop :=
  uses[n]? = some (.register target type) ∧
    ((after w uses n).registry.register target type).map (·.1) = .ok handle

/-! ## Objects -/

/-- A release disposes of an object exactly if it takes the last reference of the handle. -/
theorem use_release_cases (s : Store) (handle : Handle) :
    (∃ key l, s.Last handle key ∧ s.use (.release handle) =
      s.withObjects (s.registry.forget handle l) (s.world.dynamic.erase key)) ∨
    (∀ key, ¬ s.Last handle key) ∧
      ∃ registry, s.use (.release handle) = { s with registry } := by
  cases live : s.registry.live handle with
  | error fault =>
    refine .inr ⟨fun key last => ?_, s.registry, by rw [use, (perform_error live).2]⟩
    obtain ⟨type, references, stands, -⟩ := last
    rw [live] at stands
    cases stands
  | ok l =>
    obtain ⟨target, type, references⟩ := l
    rcases perform_release_cases live with ⟨key, dynamic, last, released⟩ | ⟨more, counted⟩
    · obtain rfl : target = .dynamic key := dynamic
      exact .inl ⟨key, _, ⟨type, references, live, last⟩, by rw [use, released]⟩
    · refine .inr ⟨fun key last => ?_, _, by rw [use, counted]⟩
      obtain ⟨type', references', stands, few⟩ := last
      simp only [live, Except.ok.injEq, Live.mk.injEq] at stands
      obtain ⟨rfl, rfl, rfl⟩ := stands
      have enough : 2 ≤ references := more rfl
      omega

theorem Last.unique {other : Arena.Key} (last : s.Last handle key) (also : s.Last handle other) :
    key = other := by
  obtain ⟨type, references, stands, -⟩ := last
  obtain ⟨type', references', stands', -⟩ := also
  rw [stands] at stands'
  cases stands'
  rfl

/-- The arena stays sound, and its counter never goes back. -/
theorem sound_use (sound : s.world.dynamic.Sound) (u : Use) : (s.use u).world.dynamic.Sound ∧
    s.world.dynamic.generation ≤ (s.use u).world.dynamic.generation := by
  cases u with
  | insert o => exact ⟨sound.insert o, (sound.grown_insert o).generation_le⟩
  | register target type => exact ⟨sound, Nat.le_refl _⟩
  | addReference handle =>
    cases live : s.registry.live handle with
    | error fault =>
      rw [use, (perform_error live).1]
      exact ⟨sound, Nat.le_refl _⟩
    | ok l =>
      obtain ⟨references, counted | full⟩ := perform_addReference_cases live
      · rw [use, counted]
        exact ⟨sound, Nat.le_refl _⟩
      · rw [use, full]
        exact ⟨sound, Nat.le_refl _⟩
  | release handle =>
    rcases use_release_cases s handle with ⟨key, l, -, gone⟩ | ⟨-, registry, kept⟩
    · rw [gone]
      exact ⟨sound.erase key, Nat.le_of_eq (Arena.generation_erase ..).symm⟩
    · rw [kept]
      exact ⟨sound, Nat.le_refl _⟩

/-- Whatever a store is used for, an object stays unless it is a release of the last reference of
one of its handles. A key that has been given out finds no other object. -/
theorem contains_use (sound : s.world.dynamic.Sound)
    (old : key.generation ≤ s.world.dynamic.generation) (u : Use) :
    (s.use u).world.dynamic.contains key ↔ s.world.dynamic.contains key ∧
      ∀ handle, u = .release handle → ¬ s.Last handle key := by
  cases u with
  | insert o =>
    simp only [reduceCtorEq, false_implies, implies_true, and_true]
    rw [Arena.contains, Arena.contains, ← (sound.grown_insert o).get?_eq old]
    rfl
  | register target type => simp [use]
  | addReference handle =>
    simp only [reduceCtorEq, false_implies, implies_true, and_true]
    cases live : s.registry.live handle with
    | error fault => rw [use, (perform_error live).1]
    | ok l =>
      obtain ⟨references, counted | full⟩ := perform_addReference_cases live
      · rw [use, counted]
      · rw [use, full]
  | release handle =>
    simp only [Use.release.injEq, forall_eq']
    rcases use_release_cases s handle with ⟨other, l, last, gone⟩ | ⟨notLast, registry, kept⟩
    · have found : (s.use (.release handle)).world.dynamic.get? key =
          if key = other then none else s.world.dynamic.get? key := by
        rw [gone]
        exact Arena.get?_erase ..
      rw [Arena.contains, found]
      by_cases same : key = other
      · simp [same, last]
      · have stays : ¬ s.Last handle key := fun also => same (also.unique last)
        simp [same, stays, Arena.contains]
    · simp [kept, notLast key]

/-! ## Handles -/

/-- What a use registers. -/
def Use.pair? : Use → Option (Target × ScriptType)
  | .register target type => some (target, type)
  | _ => none

/-- To handles, a use does what a request to the registry can do. -/
theorem effect_use (s : Store) (u : Use) :
    ∃ answer, s.registry.Effect u.pair? (answer, (s.use u).registry) := by
  cases u with
  | insert o => exact ⟨none, .quiet none s.registry.symbols⟩
  | register target type => exact ⟨_, effect_serve s.registry (.register target type)⟩
  | addReference handle =>
    have effect := effect_serve s.registry (.addReference handle)
    have same : (s.use (.addReference handle)).registry =
        (s.registry.serve (.addReference handle)).2 := by
      simp only [use, perform, serve]
      cases s.registry.addReference handle <;> rfl
    rw [same]
    exact ⟨_, effect⟩
  | release handle =>
    have effect := effect_serve s.registry (.release s.world.dynamic handle)
    have same : (s.use (.release handle)).registry =
        (s.registry.serve (.release s.world.dynamic handle)).2 := by
      simp only [use, perform, serve]
      cases s.registry.release s.world.dynamic handle <;> rfl
    rw [same]
    exact ⟨_, effect⟩

/-- With its last reference the handle goes as well. -/
theorem Last.released (last : s.Last handle key) :
    (s.use (.release handle)).registry.state handle = .released := by
  rcases use_release_cases s handle with ⟨other, l, -, gone⟩ | ⟨notLast, -⟩
  · rw [gone, state, withObjects, entries_forget, if_pos rfl]
  · exact absurd last (notLast key)

/-- What is read through a handle is read from its object, if that is there. -/
theorem readField_of_dynamic {type : ScriptType} {references : Nat}
    (stands : s.registry.live handle = .ok ⟨.dynamic key, type, references⟩) (offset : Int) :
    s.registry.readField s.world handle offset =
      match s.world.dynamic.get? key with
      | some o => (Record.dynamic o).read offset
      | none => .error (.staleHandle handle) := by
  rw [readField, stands]
  show s.world.read (.dynamic key) (.staleHandle handle) offset = _
  simp only [World.read, World.record?]
  cases s.world.dynamic.get? key <;> rfl

/-! ## Any number of uses -/

variable {w : World} {uses : List Use} {n m k : Nat} {target : Target} {type : ScriptType}

theorem after_succ {u : Use} (here : uses[n]? = some u) :
    after w uses (n + 1) = (after w uses n).use u :=
  foldl_take_succ here

theorem after_succ_of_none (ended : uses[n]? = none) :
    after w uses (n + 1) = after w uses n :=
  foldl_take_succ_of_none ended

theorem sound_after (w : World) (uses : List Use) (n : Nat) :
    (after w uses n).world.dynamic.Sound :=
  List.foldlRecOn (motive := fun s : Store => s.world.dynamic.Sound) _ use (b := fresh w)
    Arena.sound_empty fun _ sound u _ => (sound_use sound u).1

theorem generation_after (order : n ≤ m) :
    (after w uses n).world.dynamic.generation ≤ (after w uses m).world.dynamic.generation :=
  foldl_take_rel (R := fun s t : Store => s.world.dynamic.generation ≤ t.world.dynamic.generation)
    (fun _ => Nat.le_refl _) Nat.le_trans (fun k u => (sound_use (sound_after w uses k) u).2) order

theorem numbered_after (w : World) (uses : List Use) (n : Nat) :
    (after w uses n).registry.Numbered := by
  refine List.foldlRecOn (motive := fun s : Store => s.registry.Numbered) _ use (b := fresh w)
    numbered_empty fun s numbered u _ => ?_
  obtain ⟨answer, effect⟩ := effect_use s u
  exact numbered.effect effect

theorem continues_after (order : n ≤ m) :
    (after w uses n).registry.Continues (after w uses m).registry := by
  refine foldl_take_rel (R := fun s t : Store => s.registry.Continues t.registry)
    (fun _ => continues_refl _) Continues.trans (fun k u => ?_) order
  obtain ⟨answer, effect⟩ := effect_use (after w uses k) u
  exact (numbered_after w uses k).continues_effect effect

/-- Objects that have been there once are only ever taken away. -/
theorem contains_after_succ (old : key.generation ≤ (after w uses n).world.dynamic.generation) :
    (after w uses (n + 1)).world.dynamic.contains key ↔
      (after w uses n).world.dynamic.contains key ∧
        ∀ handle, uses[n]? = some (.release handle) → ¬ (after w uses n).Last handle key := by
  cases here : uses[n]? with
  | none => simp [after_succ_of_none here]
  | some u =>
    rw [after_succ here, contains_use (sound_after w uses n) old]
    simp only [Option.some.injEq]

/-- An object is there until a release takes the last reference of one of its handles. -/
theorem contains_after_iff (order : n ≤ m) (there : (after w uses n).world.dynamic.contains key) :
    (after w uses m).world.dynamic.contains key ↔ ∀ k handle, n ≤ k → k < m →
      uses[k]? = some (.release handle) → ¬ (after w uses k).Last handle key := by
  obtain ⟨o, found⟩ := Arena.contains_iff.mp there
  have old := (sound_after w uses n).generation_le_of_get? found
  induction order with
  | refl =>
    refine iff_of_true there fun k handle from' before => ?_
    exact absurd before (Nat.not_lt.mpr from')
  | @step m order hyp =>
    have older : key.generation ≤ (after w uses m).world.dynamic.generation :=
      Nat.le_trans old (generation_after order)
    refine ((contains_after_succ older).trans (and_congr_left' hyp)).trans ⟨?_, ?_⟩
    · rintro ⟨earlier, now⟩ k handle from' before
      rcases Nat.lt_succ_iff_lt_or_eq.mp before with sooner | rfl
      · exact earlier k handle from' sooner
      · exact now handle
    · intro all
      exact ⟨fun k handle from' before => all k handle from' (Nat.lt_succ_of_lt before),
        fun handle => all m handle order (Nat.lt_succ_self m)⟩

/-- Once registered, a handle stands for its target until it is released itself. -/
theorem Registers.stands (registers : Registers w uses n target type handle) (order : n < m)
    (kept : (after w uses m).registry.state handle ≠ .released) :
    ∃ references, (after w uses m).registry.live handle = .ok ⟨target, type, references⟩ := by
  obtain ⟨here, answered⟩ := registers
  obtain ⟨answer, given, rfl⟩ := except_map_eq_ok.mp answered
  have grants : (after w uses n).registry.Grants (.register target type) (target, type) answer.1 :=
    ⟨rfl, by simp only [serve, given]⟩
  obtain ⟨references, entry⟩ := (numbered_after w uses n).entries_granted grants
  change ((after w uses n).use (.register target type)).registry.entries[_]? = _ at entry
  rw [← after_succ here] at entry
  obtain ⟨⟨type', target', count⟩, there, sameType, sameTarget⟩ := continues_after order _ _ entry
  obtain rfl : type' = type := sameType
  obtain rfl : target' = some target := sameTarget.resolve_right ((released_iff there).not.mp kept)
  exact ⟨count, live_eq_ok_iff.mpr there⟩

theorem released_after (order : n ≤ m)
    (released : (after w uses n).registry.state handle = .released) :
    (after w uses m).registry.state handle = .released := by
  cases entry : (after w uses n).registry.entries[handle]? with
  | none =>
    rw [state, entry] at released
    cases released
  | some e =>
    obtain ⟨e', there, -, target⟩ := continues_after order handle e entry
    rw [(released_iff entry).mp released, or_self] at target
    exact (released_iff there).mpr target

/-- What a handle stands for has been registered. -/
theorem exists_register_of_live {references : Nat}
    (stands : (after w uses n).registry.live handle = .ok ⟨target, type, references⟩) :
    ∃ k < n, uses[k]? = some (.register target type) := by
  induction n generalizing references with
  | zero => exact absurd (live_eq_ok_iff.mp stands) (by simp [after, fresh])
  | succ n hyp =>
    cases here : uses[n]? with
    | none =>
      rw [after_succ_of_none here] at stands
      obtain ⟨k, before, registered⟩ := hyp stands
      exact ⟨k, Nat.lt_succ_of_lt before, registered⟩
    | some u =>
      rw [after_succ here] at stands
      obtain ⟨answer, effect⟩ := effect_use (after w uses n) u
      rcases effect.live_cases stands with new | ⟨count, old⟩
      · refine ⟨n, Nat.lt_succ_self n, ?_⟩
        cases u with
        | register other otherType =>
          cases new
          exact here
        | insert o => cases new
        | addReference other => cases new
        | release other => cases new
      · obtain ⟨k, before, registered⟩ := hyp old
        exact ⟨k, Nat.lt_succ_of_lt before, registered⟩

/-- The object of a handle goes with that handle, or with another one of the object. -/
theorem Registers.contains_iff (registers : Registers w uses n (.dynamic key) type handle)
    (there : (after w uses n).world.dynamic.contains key) (order : n < m)
    (kept : (after w uses m).registry.state handle ≠ .released) :
    (after w uses m).world.dynamic.contains key ↔ ∀ k other, n < k → k < m → other ≠ handle →
      uses[k]? = some (.release other) → ¬ (after w uses k).Last other key := by
  rw [contains_after_iff (Nat.le_of_lt order) there]
  constructor
  · exact fun all k other later before _ => all k other (Nat.le_of_lt later) before
  · intro others k other from' before here last
    have later : n < k := by
      refine Nat.lt_of_le_of_ne from' ?_
      rintro rfl
      rw [registers.1] at here
      cases here
    by_cases same : other = handle
    · have gone := last.released
      rw [← after_succ here, same] at gone
      exact kept (released_after before gone)
    · exact others k other later before same here last

/-- Where an object is registered under one type only, no other handle disposes of it. -/
theorem Registers.contains_of_sole (registers : Registers w uses n (.dynamic key) type handle)
    (there : (after w uses n).world.dynamic.contains key) (order : n < m)
    (kept : (after w uses m).registry.state handle ≠ .released)
    (sole : ∀ k < m, ∀ other, uses[k]? = some (.register (.dynamic key) other) → other = type) :
    (after w uses m).world.dynamic.contains key := by
  refine (registers.contains_iff there order kept).mpr ?_
  rintro k other later before apart - ⟨otherType, references, stands, -⟩
  obtain ⟨j, sooner, registered⟩ := exists_register_of_live stands
  have sameType := sole j (Nat.lt_trans sooner before) otherType registered
  -- both handles stand for one target under one type
  obtain ⟨count, live⟩ := registers.stands later fun gone =>
    kept (released_after (Nat.le_of_lt before) gone)
  have first : (after w uses k).registry.resolve handle = .ok (.dynamic key, type) :=
    resolve_of_live live
  have second : (after w uses k).registry.resolve other = .ok (.dynamic key, type) :=
    sameType ▸ resolve_of_live stands
  exact apart ((numbered_after w uses k).toCoherent.resolve_unique second first)

/-! ## How long objects are there -/

/-- How long the objects are there that handles stand for, whatever a store is used for. -/
structure Lifetimes (w : World) (uses : List Use) : Prop where
  /-- An object goes when a release takes the last reference of one of its handles, and the handle
  with it. What its other handles count does not matter. -/
  contains_iff : ∀ n m key, n ≤ m → (after w uses n).world.dynamic.contains key →
    ((after w uses m).world.dynamic.contains key ↔ ∀ k handle, n ≤ k → k < m →
      uses[k]? = some (.release handle) → ¬ (after w uses k).Last handle key)
  released : ∀ n handle key, uses[n]? = some (.release handle) →
    (after w uses n).Last handle key → (after w uses (n + 1)).registry.state handle = .released
  /-- A handle with references stands for its object as long as it has them. Its object is there
  exactly if no other handle of the object has been released, and only then it is read. -/
  referenced : ∀ n m key type handle count, n < m →
    Registers w uses n (.dynamic key) type handle → (after w uses n).world.dynamic.contains key →
    (after w uses m).registry.state handle = .referenced count →
      (after w uses m).registry.resolve handle = .ok (.dynamic key, type) ∧
      ((after w uses m).world.dynamic.contains key ↔
        ∀ k other, n < k → k < m → other ≠ handle → uses[k]? = some (.release other) →
          ¬ (after w uses k).Last other key) ∧
      ∀ offset, (after w uses m).registry.readField (after w uses m).world handle offset =
        match (after w uses m).world.dynamic.get? key with
        | some o => (Record.dynamic o).read offset
        | none => .error (.staleHandle handle)
  /-- An object that is registered under one type only is there as long as it is referenced. -/
  sole : ∀ n m key type handle count, n < m → Registers w uses n (.dynamic key) type handle →
    (after w uses n).world.dynamic.contains key →
    (after w uses m).registry.state handle = .referenced count →
    (∀ k < m, ∀ other, uses[k]? = some (.register (.dynamic key) other) → other = type) →
    (after w uses m).world.dynamic.contains key

theorem lifetimes (w : World) (uses : List Use) : Lifetimes w uses where
  contains_iff _ _ _ order there := contains_after_iff order there
  released n handle key here last := by
    rw [after_succ here]
    exact last.released
  referenced n m key type handle count order registers there referenced := by
    have kept : (after w uses m).registry.state handle ≠ .released := by
      rw [referenced]
      exact nofun
    obtain ⟨references, live⟩ := registers.stands order kept
    exact ⟨resolve_of_live live, registers.contains_iff there order kept, readField_of_dynamic live⟩
  sole n m key type handle count order registers there referenced only := by
    refine registers.contains_of_sole there order ?_ only
    rw [referenced]
    exact nofun

/-! ## A reference to nothing -/

/-- A surface is registered under two types. Both handles count a reference, and the second is
released. -/
def sharedUses : List Use :=
  [.insert (.surface (.linked 10 10)), .register (.dynamic ⟨0, 1⟩) .drawingSurface,
    .register (.dynamic ⟨0, 1⟩) .object, .addReference 1, .addReference 2, .release 2]

/-- The first handle still counts its reference, and the surface that it was registered for is
gone. -/
theorem referenced_gone :
    Registers {} sharedUses 1 (.dynamic ⟨0, 1⟩) .drawingSurface 1 ∧
      (after {} sharedUses 1).world.dynamic.contains ⟨0, 1⟩ = true ∧
      (after {} sharedUses 6).registry.state 1 = .referenced 1 ∧
      (after {} sharedUses 6).world.dynamic.contains ⟨0, 1⟩ = false ∧
      ∀ offset, (after {} sharedUses 6).registry.readField (after {} sharedUses 6).world 1 offset =
        .error (.staleHandle 1) := by
  have live : (after {} sharedUses 6).registry.live 1 =
      .ok ⟨.dynamic ⟨0, 1⟩, .drawingSurface, 1⟩ := by
    decide +kernel
  have gone : (after {} sharedUses 6).world.dynamic.get? ⟨0, 1⟩ = none := by decide +kernel
  refine ⟨⟨rfl, by decide +kernel⟩, by decide +kernel, by decide +kernel, by decide +kernel, ?_⟩
  intro offset
  rw [readField_of_dynamic live, gone]

end Store

end Adventure.Registry
