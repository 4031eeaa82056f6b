import Adventure.Proofs.Registry.Coherent
import Adventure.Proofs.Registry.Symbols
import Adventure.Session.Enrolment

/-! # What enrolment does

What every step of an enrolment keeps, the whole keeps, whether or not it fails part way.

* `Kept.takeAll` — handles and targets stay together, and numbers keep to their bits.
* `sameSlots_takeAll` — the enrolment of a game leaves the slots of room objects alone, and the game
  has the same characters, items and property texts.
* `names_of_takeAll`, `takeAll_cases` — enrolment fails on names alone, or for want of a number: it
  needs names that are free and differ from each other.
-/

namespace Adventure

namespace Enrolment

open Registry (Fault)

/-! ## Steps -/

theorem ofRegistry_world (w : World) (r : Registry) (changed : Except Fault Registry) :
    (ofRegistry w r changed).2.1 = w := by
  cases changed with
  | error fault => rfl
  | ok after => rfl

section Kept

variable {P : Registry → Prop} {r after : Registry}

/-- Whether what holds of registries is kept by all that enrolment does to one. -/
structure Kept (P : Registry → Prop) : Prop where
  register : ∀ {r target type handle after}, P r → r.register target type = .ok (handle, after) →
    P after
  addReference : ∀ {r handle count after}, P r → r.addReference handle = .ok (count, after) →
    P after
  withSymbols : ∀ {r} symbols, P r → P { r with symbols }

theorem kept_coherent : Kept Registry.Coherent where
  register coherent given := coherent.register given
  addReference coherent counted := coherent.addReference counted
  withSymbols symbols coherent := coherent.withSymbols symbols

theorem kept_bounded : Kept Registry.Bounded where
  register bounded given := bounded.register given
  addReference bounded counted := bounded.addReference counted
  withSymbols symbols bounded := bounded.withSymbols symbols

theorem Kept.bindSymbol (kept : Kept P) (holds : P r) {name : String} {symbol : Symbol}
    (bound : r.bindSymbol name symbol = .ok after) : P after := by
  obtain ⟨symbols, -, rfl⟩ := Registry.bindSymbol_eq_ok.mp bound
  exact kept.withSymbols symbols holds

theorem Kept.enrol (kept : Kept P) (holds : P r) {e : Entity} {name : String}
    (registered : Enrolment.register r e name = .ok after) : P after := by
  unfold Enrolment.register at registered
  split at registered
  · obtain ⟨⟨handle, made⟩, given, rfl⟩ := except_map_eq_ok.mp registered
    exact kept.register holds given
  · obtain ⟨⟨handle, bound⟩, named, rfl⟩ := except_map_eq_ok.mp registered
    obtain ⟨made, symbols, given, rfl⟩ := Registry.registerAs_eq_ok named
    exact kept.withSymbols symbols (kept.register holds given)

theorem Kept.makeSurface (kept : Kept P) (holds : P r) (w : World) : P (makeSurface w r).2.2 := by
  simp only [Enrolment.makeSurface]
  split
  · exact holds
  · next given =>
    have made := kept.register holds given
    split
    · exact made
    · next counted => exact kept.addReference made counted

theorem Kept.ofRegistry (holds : P r) (w : World) {changed : Except Fault Registry}
    (each : ∀ after, changed = .ok after → P after) : P (ofRegistry w r changed).2.2 := by
  cases changed with
  | error fault => exact holds
  | ok after => exact each after rfl

theorem Kept.take (kept : Kept P) (holds : P r) (w : World) (step : Enrolment) :
    P (step.take w r).2.2 := by
  cases step with
  | prepare change => exact holds
  | entity e name => exact Kept.ofRegistry holds w fun _ registered => kept.enrol holds registered
  | surface => exact kept.makeSurface holds w
  | array symbol type count =>
    refine Kept.ofRegistry holds w fun _ exported => ?_
    obtain ⟨a, -, bound⟩ := except_bind_eq_ok.mp exported
    exact kept.bindSymbol holds bound
  | nameOnly symbol e => exact Kept.ofRegistry holds w fun _ bound => kept.bindSymbol holds bound
  | function symbol => exact Kept.ofRegistry holds w fun _ bound => kept.bindSymbol holds bound

/-- What every step keeps, the whole keeps. -/
theorem Kept.takeAll (kept : Kept P) (holds : P r) (steps : List Enrolment) (w : World) :
    P (takeAll steps w r).2.2 := by
  induction steps generalizing w r with
  | nil => exact holds
  | cons step rest hyp =>
    have after := kept.take holds w step
    simp only [Enrolment.takeAll]
    split
    · next failed => rw [failed] at after; exact after
    · next taken => rw [taken] at after; exact hyp after _

end Kept

/-! ## What a start leaves alone -/

/-- Whether two games have as many characters and items, and the same property texts of their
author. -/
structure SameCast (g h : Game) : Prop where
  characters : h.characters.length = g.characters.length
  inventory : h.inventory.length = g.inventory.length
  schema : h.schema = g.schema
  characterProperties : h.characterProperties = g.characterProperties
  itemProperties : h.itemProperties = g.itemProperties

theorem SameCast.refl (g : Game) : SameCast g g := ⟨rfl, rfl, rfl, rfl, rfl⟩

theorem SameCast.trans {f g h : Game} (first : SameCast f g) (second : SameCast g h) :
    SameCast f h where
  characters := second.characters.trans first.characters
  inventory := second.inventory.trans first.inventory
  schema := second.schema.trans first.schema
  characterProperties := second.characterProperties.trans first.characterProperties
  itemProperties := second.itemProperties.trans first.itemProperties

/-- Whether a world has the slots of room objects as they were before, and a game of the same
cast. -/
structure SameSlots (before after : World) : Prop where
  objects : after.objects = before.objects
  cast : SameCast before.game after.game

theorem SameSlots.refl (w : World) : SameSlots w w := ⟨rfl, .refl _⟩

theorem SameSlots.trans {v w x : World} (first : SameSlots v w) (second : SameSlots w x) :
    SameSlots v x where
  objects := second.objects.trans first.objects
  cast := first.cast.trans second.cast

/-- Whether a step leaves slots and cast alone. -/
def Spares (step : Enrolment) : Prop := ∀ w r, SameSlots w (step.take w r).2.1

theorem spares_of_world_eq {step : Enrolment} (same : ∀ w r, (step.take w r).2.1 = w) :
    Spares step :=
  fun w r => (same w r).symm ▸ SameSlots.refl w

theorem spares_entity (e : Entity) (name : String) : Spares (entity e name) :=
  spares_of_world_eq fun w r => ofRegistry_world w r _

theorem spares_array (symbol : String) (type : ScriptType) (count : Nat) :
    Spares (array symbol type count) :=
  spares_of_world_eq fun w r => ofRegistry_world w r _

theorem spares_nameOnly (symbol : String) (e : Entity) : Spares (nameOnly symbol e) :=
  spares_of_world_eq fun w r => ofRegistry_world w r _

theorem spares_function (symbol : String) : Spares (function symbol) :=
  spares_of_world_eq fun w r => ofRegistry_world w r _

theorem spares_prepare {change : World → World} (spared : ∀ w, SameSlots w (change w)) :
    Spares (prepare change) :=
  fun w _ => spared w

theorem sameSlots_makeSurface (w : World) (r : Registry) : SameSlots w (makeSurface w r).2.1 := by
  simp only [makeSurface]
  split
  · exact ⟨rfl, .refl _⟩
  · split
    · exact ⟨rfl, .refl _⟩
    · exact ⟨rfl, .refl _⟩

theorem sameSlots_takeAll {steps : List Enrolment} (each : ∀ step ∈ steps, step.Spares)
    (w : World) (r : Registry) : SameSlots w (takeAll steps w r).2.1 := by
  induction steps generalizing w r with
  | nil => exact .refl w
  | cons step rest hyp =>
    have first := each step List.mem_cons_self w r
    simp only [takeAll]
    split
    · next failed => rw [failed] at first; exact first
    · next taken =>
      rw [taken] at first
      exact first.trans (hyp (fun step listed => each step (List.mem_cons_of_mem _ listed)) _ _)

/-- The steps for a game up to the surface for dialog options. -/
def beforeSurface (g : Game) : List Enrolment :=
  unnamed .audioChannel (Game.soundChannels + 1) ++ clips g ++ characters g ++
    named .dialog g.dialogs (·.scriptName) ++ [entity ⟨.dialogRendering, 0⟩ ""]

/-- The steps for a game after that surface. -/
def afterSurface (g : Game) : List Enrolment :=
  guisFrom 0 0 g.guis ++ inventory g ++ unnamed .hotspot Room.maxHotspots ++
    unnamed .region Room.maxRegions ++ unnamed .object Room.maxObjects ++ arrays g ++ player g

theorem ofGame_eq (g : Game) : ofGame g = beforeSurface g ++ surface :: afterSurface g := by
  simp only [ofGame, beforeSurface, afterSurface, List.append_assoc, List.cons_append,
    List.nil_append]

section Throughout

variable {P : Enrolment → Prop}

/-- Whether something holds of all steps that a game can have, the surface apart. -/
structure Throughout (P : Enrolment → Prop) : Prop where
  entity : ∀ e name, P (entity e name)
  numberClip : ∀ i, P (prepare (numberClip i))
  resetCharacter : ∀ i, P (prepare (resetCharacter i))
  prepareGui : ∀ i, P (prepare (prepareGui i))
  wrapGui : ∀ i, P (prepare (wrapGui i))
  array : ∀ symbol type count, P (array symbol type count)
  nameOnly : ∀ symbol e, P (nameOnly symbol e)

theorem Throughout.mapIdx {α : Type} (holds : Throughout P) (records : List α)
    (entityOf : Nat → Entity) (name : α → String) :
    ∀ step ∈ records.mapIdx fun i a => Enrolment.entity (entityOf i) (name a), P step := by
  intro step listed
  obtain ⟨i, low, rfl⟩ := List.mem_mapIdx.mp listed
  exact holds.entity _ _

theorem Throughout.range (holds : Throughout P) (count : Nat) (entityOf : Nat → Entity)
    (name : Nat → String) :
    ∀ step ∈ (List.range count).map fun i => Enrolment.entity (entityOf i) (name i), P step := by
  intro step listed
  obtain ⟨i, -, rfl⟩ := List.mem_map.mp listed
  exact holds.entity _ _

theorem Throughout.prepared {α : Type} (holds : Throughout P) (records : List α)
    {change : Nat → World → World} (changed : ∀ i, P (prepare (change i)))
    (entityOf : Nat → Entity) (name : α → String) :
    ∀ step ∈ (records.mapIdx fun i a =>
      [prepare (change i), Enrolment.entity (entityOf i) (name a)]).flatten, P step := by
  intro step listed
  obtain ⟨pair, member, listed⟩ := List.mem_flatten.mp listed
  obtain ⟨i, low, rfl⟩ := List.mem_mapIdx.mp member
  rcases List.mem_pair.mp listed with rfl | rfl
  · exact changed i
  · exact holds.entity _ _

theorem Throughout.guisFrom (holds : Throughout P) (guis : List Game.Gui) (i first : Nat) :
    ∀ step ∈ guisFrom i first guis, P step := by
  induction guis generalizing i first with
  | nil => intro step listed; cases listed
  | cons gui rest hyp =>
    intro step listed
    rw [Enrolment.guisFrom, List.mem_append] at listed
    rcases listed with here | later
    · simp only [guiSteps, List.cons_append, List.mem_cons, List.mem_append, List.mem_mapIdx,
        List.not_mem_nil, or_false] at here
      rcases here with rfl | ⟨j, low, rfl⟩ | rfl | rfl
      · exact holds.prepareGui i
      · exact holds.entity _ _
      · exact holds.wrapGui i
      · exact holds.entity _ _
    · exact hyp _ _ step later

theorem Throughout.beforeSurface (holds : Throughout P) (g : Game) :
    ∀ step ∈ beforeSurface g, P step := by
  simp only [Enrolment.beforeSurface, List.forall_mem_append, and_assoc, List.forall_mem_singleton]
  exact ⟨holds.range _ _ _, holds.prepared _ holds.numberClip _ _,
    holds.prepared _ holds.resetCharacter _ _, holds.mapIdx _ _ _, holds.entity _ _⟩

theorem Throughout.afterSurface (holds : Throughout P) (g : Game) :
    ∀ step ∈ afterSurface g, P step := by
  have arrays : ∀ step ∈ arrays g, P step := by
    simp only [Enrolment.arrays, List.forall_mem_cons, holds.array, List.not_mem_nil, false_implies,
      implies_true, and_self]
  have player : ∀ step ∈ player g, P step := by
    unfold Enrolment.player
    split
    · simp only [List.forall_mem_singleton, holds.nameOnly]
    · simp
  simp only [Enrolment.afterSurface, List.forall_mem_append, and_assoc]
  exact ⟨holds.guisFrom _ _ _, holds.range _ _ _, holds.range _ _ _, holds.range _ _ _,
    holds.range _ _ _, arrays, player⟩

end Throughout

theorem spares_ofGame (g : Game) : ∀ step ∈ ofGame g, step.Spares := by
  have holds : Throughout Spares := {
    entity := spares_entity
    numberClip := fun _ => spares_prepare fun _ => ⟨rfl, rfl, rfl, rfl, rfl, rfl⟩
    resetCharacter := fun _ =>
      spares_prepare fun _ => ⟨rfl, List.length_modify .., rfl, rfl, rfl, rfl⟩
    prepareGui := fun _ => spares_prepare fun _ => ⟨rfl, rfl, rfl, rfl, rfl, rfl⟩
    wrapGui := fun _ => spares_prepare fun _ => ⟨rfl, .refl _⟩
    array := spares_array
    nameOnly := spares_nameOnly }
  rw [ofGame_eq, List.forall_mem_append, List.forall_mem_cons]
  -- the surface is an object of the arena, not of a room
  exact ⟨holds.beforeSurface g, sameSlots_makeSurface, holds.afterSurface g⟩

theorem spares_engineExports : ∀ step ∈ engineExports, step.Spares := by
  intro step listed
  rcases List.mem_append.mp listed with function | mouse
  · obtain ⟨symbol, -, rfl⟩ := List.mem_map.mp function
    exact spares_function symbol
  · obtain rfl := List.mem_singleton.mp mouse
    exact spares_nameOnly _ _

/-! ## Names -/

/-- The name that a step binds. -/
def name? : Enrolment → Option String
  | entity _ name => if name.isEmpty then none else some name
  | array symbol _ _ => some symbol
  | nameOnly symbol _ => some symbol
  | function symbol => some symbol
  | prepare _ => none
  | surface => none

/-- The names that steps bind, in their order. -/
def names (steps : List Enrolment) : List String := steps.filterMap name?

/-- Whether a step that binds `name?` had `outcome`: it fails on a name that is taken or for want of
a number, and a name that was free is bound then. -/
def Settled (before : SymbolTable) (name? : Option String)
    (outcome : Except Fault Unit × World × Registry) : Prop :=
  (∃ name, name? = some name ∧ before.contains name = true ∧
    outcome.1 = .error (.duplicateSymbol name)) ∨
  outcome.1 = .error .overflow ∨
  ((∀ name, name? = some name → before.contains name = false) ∧ outcome.1 = .ok () ∧
    ∀ other, outcome.2.2.symbols.contains other = true ↔
      before.contains other = true ∨ name? = some other)

theorem settled_nothing {before : SymbolTable} {w : World} {r : Registry}
    (same : r.symbols = before) : Settled before none (.ok (), w, r) := by
  refine .inr (.inr ⟨nofun, rfl, ?_⟩)
  intro other
  simp [same]

theorem settled_bindSymbol {r bound : Registry} (known : bound.symbols = r.symbols) (w : World)
    (name : String) (symbol : Symbol) :
    Settled r.symbols (some name) (ofRegistry w r (bound.bindSymbol name symbol)) := by
  cases result : r.symbols.bind name symbol with
  | error fault =>
    obtain ⟨taken, rfl⟩ := SymbolTable.bind_eq_error_iff.mp result
    refine .inl ⟨name, rfl, taken, ?_⟩
    rw [Registry.bindSymbol, known, result]
    rfl
  | ok symbols =>
    refine .inr (.inr ⟨?_, ?_, ?_⟩)
    · rintro other ⟨⟩
      exact SymbolTable.contains_eq_false_iff.mpr (SymbolTable.bind_eq_ok_iff.mp result).1
    · rw [Registry.bindSymbol, known, result]
      rfl
    · intro other
      rw [Registry.bindSymbol, known, result]
      exact SymbolTable.contains_bind result other

theorem settled_entity {r : Registry} (coherent : r.Coherent) (w : World) (e : Entity)
    (name : String) : Settled r.symbols (entity e name).name? ((entity e name).take w r) := by
  have known := r.registered_symbols (.static e) e.type
  simp only [take, name?, register]
  rcases r.register_cases (.static e) e.type with given | full
  · split
    · rw [given]
      exact settled_nothing known
    · rw [coherent.map_registerAs name given]
      exact settled_bindSymbol known w name _
  · split
    · rw [full]
      exact .inr (.inl rfl)
    · unfold Registry.registerAs
      split
      · next taken => exact .inl ⟨name, rfl, taken, rfl⟩
      · rw [full]
        exact .inr (.inl rfl)

theorem settled_surface {r : Registry} (coherent : r.Coherent) (w : World) :
    Settled r.symbols surface.name? (surface.take w r) := by
  simp only [take, makeSurface]
  rcases r.register_cases (.dynamic (w.dynamic.insert (.surface (.linked 0 0))).1) .drawingSurface
    with given | full
  · -- what has just been registered is there, so that it can be held while counts go up
    obtain ⟨references, live⟩ := coherent.live_registered
      (.dynamic (w.dynamic.insert (.surface (.linked 0 0))).1) .drawingSurface
    rw [given]
    by_cases full : Registry.maxReferences ≤ references
    · simp only [Registry.addReference_of_full live full]
      exact .inr (.inl rfl)
    · simp only [Registry.addReference_eq_ok live (Nat.not_le.mp full)]
      exact settled_nothing (r.registered_symbols _ _)
  · rw [full]
    exact .inr (.inl rfl)

theorem settled_take {r : Registry} (coherent : r.Coherent) (w : World) (step : Enrolment) :
    Settled r.symbols step.name? (step.take w r) := by
  cases step with
  | prepare change => exact settled_nothing rfl
  | entity e name => exact settled_entity coherent w e name
  | surface => exact settled_surface coherent w
  | array symbol type count =>
    -- elements as far apart as they are large do not overlap
    simp only [take, Registry.exportArray, StaticArray.make, Nat.le_refl, if_true]
    exact settled_bindSymbol rfl w symbol _
  | nameOnly symbol e => exact settled_bindSymbol rfl w symbol (.entity e)
  | function symbol => exact settled_bindSymbol rfl w symbol .function

theorem mem_names_cons {step : Enrolment} {rest : List Enrolment} {name : String} :
    name ∈ names (step :: rest) ↔ step.name? = some name ∨ name ∈ names rest := by
  simp [names, List.mem_filterMap]

theorem takeAll_cons_of_ok {step : Enrolment} {w : World} {r : Registry}
    (taken : (step.take w r).1 = .ok ()) (rest : List Enrolment) :
    takeAll (step :: rest) w r = takeAll rest (step.take w r).2.1 (step.take w r).2.2 := by
  simp only [takeAll]
  split
  · next failed => rw [failed] at taken; cases taken
  · next succeeded => rw [succeeded]

theorem takeAll_cons_of_error {step : Enrolment} {w : World} {r : Registry} {fault : Fault}
    (failed : (step.take w r).1 = .error fault) (rest : List Enrolment) :
    (takeAll (step :: rest) w r).1 = .error fault := by
  simp only [takeAll]
  split
  · next failed' => rw [failed'] at failed; exact failed
  · next succeeded => rw [succeeded] at failed; cases failed

/-- Names that are free and differ from each other are all that enrolment needs but numbers. -/
theorem takeAll_cases {r : Registry} (coherent : r.Coherent) (w : World) {steps : List Enrolment}
    (distinct : (names steps).Nodup)
    (free : ∀ name ∈ names steps, r.symbols.contains name = false) :
    (takeAll steps w r).1 = .ok () ∨ (takeAll steps w r).1 = .error .overflow := by
  induction steps generalizing w r with
  | nil => exact .inl rfl
  | cons step rest hyp =>
    rcases settled_take coherent w step with ⟨name, binds, taken, -⟩ | full | ⟨-, ok, bound⟩
    · rw [free name (mem_names_cons.mpr (.inl binds))] at taken
      cases taken
    · exact .inr (takeAll_cons_of_error full rest)
    · rw [takeAll_cons_of_ok ok]
      have split : names (step :: rest) = step.name?.toList ++ names rest := by
        cases binds : step.name? <;> simp [names, binds]
      rw [split, List.nodup_append] at distinct
      refine hyp (kept_coherent.take coherent w step) _ distinct.2.1 fun name listed => ?_
      -- a later name is not that of the step, and nothing else has been bound
      rw [← Bool.not_eq_true, bound]
      rintro (taken | own)
      · rw [free name (mem_names_cons.mpr (.inr listed))] at taken
        cases taken
      · exact distinct.2.2 name (by simp [own]) name listed rfl

/-- An enrolment that succeeds has found its names free and different from each other. -/
theorem names_of_takeAll {r : Registry} (coherent : r.Coherent) {w : World}
    {steps : List Enrolment} (succeeded : (takeAll steps w r).1 = .ok ()) :
    (names steps).Nodup ∧ ∀ name ∈ names steps, r.symbols.contains name = false := by
  induction steps generalizing w r with
  | nil => exact ⟨List.nodup_nil, nofun⟩
  | cons step rest hyp =>
    rcases settled_take coherent w step with ⟨name, -, -, failed⟩ | failed | ⟨free, ok, bound⟩
    · rw [takeAll_cons_of_error failed] at succeeded
      cases succeeded
    · rw [takeAll_cons_of_error failed] at succeeded
      cases succeeded
    · rw [takeAll_cons_of_ok ok] at succeeded
      obtain ⟨distinct, others⟩ := hyp (kept_coherent.take coherent w step) succeeded
      -- a name that is free after the step was free before, and is not that of the step
      have later : ∀ name ∈ names rest,
          r.symbols.contains name = false ∧ step.name? ≠ some name := by
        intro name listed
        have unbound := others name listed
        rw [← Bool.not_eq_true, bound] at unbound
        simpa using unbound
      constructor
      · cases binds : step.name? with
        | none => simpa [names, binds] using distinct
        | some first =>
          have apart : first ∉ names rest := fun again => (later first again).2 binds
          simpa [names, binds] using And.intro apart distinct
      · intro name listed
        rcases mem_names_cons.mp listed with own | listed
        · exact free name own
        · exact (later name listed).1

/-- After an enrolment that succeeds its names are bound, and no others. -/
theorem contains_takeAll {r : Registry} (coherent : r.Coherent) (w : World)
    (steps : List Enrolment) (succeeded : (takeAll steps w r).1 = .ok ()) (name : String) :
    (takeAll steps w r).2.2.symbols.contains name = true ↔
      r.symbols.contains name = true ∨ name ∈ names steps := by
  induction steps generalizing w r with
  | nil => simp [takeAll, names]
  | cons step rest hyp =>
    rcases settled_take coherent w step with ⟨other, -, -, failed⟩ | failed | ⟨-, ok, bound⟩
    · rw [takeAll_cons_of_error failed] at succeeded
      cases succeeded
    · rw [takeAll_cons_of_error failed] at succeeded
      cases succeeded
    · rw [takeAll_cons_of_ok ok] at succeeded ⊢
      rw [hyp (kept_coherent.take coherent w step) _ succeeded, bound, mem_names_cons, or_assoc]

end Enrolment

end Adventure
