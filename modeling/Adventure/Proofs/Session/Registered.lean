import Adventure.Proofs.Arena
import Adventure.Proofs.Session.Readied
import Adventure.Proofs.Session.Start

/-! # What a start registers

After a start without plugins every entity of the game has one handle, what its author named stands
for that entity, and nothing else has a name but what the engine offers.

* `start_enrols` — the part of a start that matters here.
* `record?_of_authored` — the record behind an entity with a name.
* `start_registers` — all of this for a session that has just been started.
-/

namespace Adventure

open Enrolment (Denotes)

/-! ## Places of controls -/

theorem getElem?_flatten_mapIdx {β : Type} {guis : List Game.Gui}
    {row : Nat → Game.Gui → List β} (sized : ∀ i gui, (row i gui).length = gui.controls.length)
    {i j : Nat} {gui : Game.Gui} (here : guis[i]? = some gui) (within : j < gui.controls.length) :
    (guis.mapIdx row).flatten[Game.controlCount (guis.take i) + j]? = (row i gui)[j]? := by
  induction guis generalizing row i with
  | nil => cases here
  | cons first rest hyp =>
    rw [List.mapIdx_cons, List.flatten_cons]
    cases i with
    | zero =>
      obtain rfl := Option.some.inj here
      have none : Game.controlCount ((first :: rest).take 0) + j = j := Nat.zero_add j
      rw [none, List.getElem?_append_left (sized 0 first ▸ within)]
    | succ i =>
      have count : Game.controlCount ((first :: rest).take (i + 1)) + j =
          (row 0 first).length + (Game.controlCount (rest.take i) + j) := by
        rw [sized, ← Nat.add_assoc]
        rfl
      rw [count, List.getElem?_append_right (Nat.le_add_right _ _), Nat.add_sub_cancel_left]
      exact hyp (fun i gui => sized (i + 1) gui) here

theorem getElem?_controlPlaces {guis : List Game.Gui} {i j : Nat} {gui : Game.Gui}
    (here : guis[i]? = some gui) (within : j < gui.controls.length) :
    (World.controlPlaces guis)[Game.controlCount (guis.take i) + j]? = some (i, j) := by
  have sized (i : Nat) (gui : Game.Gui) :
      ((List.range gui.controls.length).map (i, ·)).length = gui.controls.length := by simp
  rw [World.controlPlaces, getElem?_flatten_mapIdx sized here within]
  simp [within]

/-! ## Handles and what they stand for -/

/-- What is read through a handle is read from the record of its target. -/
theorem Registry.readField_eq {r : Registry} {w : World} {handle : Handle} {target : Target}
    {type : ScriptType} {record : Record} (resolved : r.resolve handle = .ok (target, type))
    (found : w.record? target = some record) (offset : Int) :
    r.readField w handle offset = record.read offset := by
  obtain ⟨l, live, rfl, -⟩ := exists_live_of_resolve resolved
  rw [readField, live]
  simp only [World.read, bind, Except.bind, found]

namespace Session

variable {g : Game} {config : Config} {b : Bundle} {accepts : Font.Request → Bool}
  {a c : Attempt}

/-! ## Records -/

/-- The world of a game that has just been started. -/
def startedWorld (g : Game) : World :=
  let w := Enrolment.withSurface (Enrolment.readied (World.allocated { game := g }))
    (Enrolment.surfaceHandle g)
  { w with game := { w.game with guis := w.game.guis.map settleGui } }

theorem getElem?_wrappers {count i : Nat} (within : i < count) :
    (World.wrappers count)[i]? = some (.ofIndex i) := by
  simp [World.wrappers, within]

theorem controls_startedWorld {i j : Nat} {gui : Game.Gui} {c : Game.Control}
    (here : g.guis[i]? = some gui) (there : gui.controls[j]? = some c) :
    ∃ panel, (startedWorld g).game.guis[i]? = some panel ∧
      panel.controls[j]? = some (settleControl c) := by
  refine ⟨settleGui (Enrolment.readyGui gui), ?_, ?_⟩
  · show ((g.guis.map Enrolment.readyGui).map settleGui)[i]? = _
    rw [List.getElem?_map, List.getElem?_map, here]
    rfl
  · show (gui.controls.map settleControl)[j]? = _
    rw [List.getElem?_map, there]
    rfl

theorem place_startedWorld {i j : Nat} {gui : Game.Gui} {c : Game.Control}
    (here : g.guis[i]? = some gui) (there : gui.controls[j]? = some c) :
    (startedWorld g).controls[g.controlNumber i j]? = some (i, j) :=
  getElem?_controlPlaces here (List.getElem?_eq_some_iff.mp there).1

/-- The record behind an entity is the one that its author made, ready for play. -/
theorem record?_of_authored {e : Entity} {name : String} {record : Record}
    (authored : g.Authored e name record) :
    (startedWorld g).record? (.static e) = some record := by
  cases authored with
  | @clip i c here =>
    show ((g.audioClips.mapIdx _)[i]?).map Record.clip = _
    rw [List.getElem?_mapIdx, here]
    rfl
  | @character i c here =>
    show ((g.characters.mapIdx _)[i]?).map Record.character = _
    rw [List.getElem?_mapIdx, here]
    rfl
  | @dialog i d here =>
    show ((World.wrappers g.dialogs.length)[i]?).map (Record.wrapper .dialog) = _
    rw [getElem?_wrappers (List.getElem?_eq_some_iff.mp here).1]
    rfl
  | @gui i gui here =>
    show ((World.wrappers g.guis.length)[i]?).map (Record.wrapper .gui) = _
    rw [getElem?_wrappers (List.getElem?_eq_some_iff.mp here).1]
    rfl
  | @control i j gui c here there =>
    obtain ⟨panel, found, settled⟩ := controls_startedWorld here there
    show ((startedWorld g).control? (g.controlNumber i j)).map Record.control = _
    simp only [World.control?, place_startedWorld here there, found, settled, Option.bind_eq_bind,
      Option.bind_some, Option.map_some]
  | @item i item here low =>
    show ((World.wrappers Game.inventorySlots)[i]?).map (Record.wrapper .inventory) = _
    rw [getElem?_wrappers low]
    rfl

/-! ## The start -/

/-- What a start without plugins does to records and registry is to enrol the game and the engine,
and to take the clicks off labels. The state of play is that of the records. -/
theorem start_enrols {s : Session} (started : s.start b accepts {} = (.ok (), a)) :
    ∃ w x q, Enrolment.takeAll (Enrolment.ofGame (b.game.upscaled s.config.overrideUpscale))
        (World.allocated { game := b.game.upscaled s.config.overrideUpscale }) s.registry =
          (.ok (), w, q) ∧
      Enrolment.takeAll engineExports w q = (.ok (), x, a.session.registry) ∧
      a.session.world = { x with game := { x.game with guis := x.game.guis.map settleGui } } ∧
      a.session.play = startingPlay a.session.game := by
  rw [start, if_pos (phases_of_start started).1] at started
  cases ran : runStages (stages b accepts {}) { session := s } with
  | mk result last =>
    rw [ran] at started
    obtain ⟨rfl, rfl⟩ := Prod.mk.inj started
    obtain ⟨checked, check, ran⟩ := runStages_eq_ok.mp ran
    obtain rfl := (Prod.mk.inj check).2
    obtain ⟨placed, allocated, ran⟩ := runStages_eq_ok.mp ran
    obtain rfl := (Prod.mk.inj allocated).2
    obtain ⟨known, enrolled, ran⟩ := runStages_eq_ok.mp ran
    obtain ⟨noted, note, ran⟩ := runStages_eq_ok.mp ran
    obtain rfl := (Prod.mk.inj note).2
    obtain ⟨loaded, fonts, ran⟩ := runStages_eq_ok.mp ran
    have same : loaded.session = noteSurface known.session := by
      have session := fontStage_session accepts { known with session := noteSurface known.session }
      rwa [fonts] at session
    obtain ⟨exporting, exported, ran⟩ := runStages_eq_ok.mp ran
    obtain ⟨scripted, linked, ran⟩ := runStages_eq_ok.mp ran
    obtain rfl := (Prod.mk.inj linked).2
    obtain ⟨begun, began, ran⟩ := runStages_eq_ok.mp ran
    obtain rfl := (Prod.mk.inj began).2
    obtain ⟨enlisted, enlist, ran⟩ := runStages_eq_ok.mp ran
    rw [enlistStage_empty] at enlist
    obtain rfl := (Prod.mk.inj enlist).2
    obtain ⟨plugged, plugins, ran⟩ := runStages_eq_ok.mp ran
    rw [pluginStage_of_nil rfl] at plugins
    obtain rfl := (Prod.mk.inj plugins).2
    obtain rfl := (Prod.mk.inj ran).2
    have ofGame := enrolStage_eq_ok enrolled
    simp only [allocate] at ofGame
    have ofEngine := enrolStage_eq_ok exported
    rw [same] at ofEngine
    exact ⟨known.session.world, exporting.session.world, known.session.registry, ofGame,
      ofEngine, rfl, rfl⟩

/-! ## Handles, names and records after a start -/

/-- What the names of a started game stand for: what its author named, the arrays, the player, and
what the engine offers. -/
def Means (g : Game) (r : Registry) (name : String) (symbol : Symbol) : Prop :=
  (∃ e record, g.Authored e name record ∧ name ≠ "" ∧
      ∃ handle, r.resolve handle = .ok (.static e, e.type) ∧ symbol = .object handle e.type) ∨
    (∃ a ∈ g.exportedArrays, a.symbol = name ∧ symbol = .array a) ∨
    ((Game.playerSymbolVersion ≤ g.dataVersion ∧ g.characters ≠ []) ∧ name = "player" ∧
      symbol = .entity ⟨.character, g.playerCharacter⟩) ∨
    (name ∈ engineFunctions ∧ symbol = .function) ∨
    (name = "mouse" ∧ symbol = .entity ⟨.mouse, 0⟩)

/-- What is known of the registry of a session in which the game `g` has just been started. -/
structure Registered (g : Game) (s : Session) : Prop where
  /-- No more handles have been given out than are in use. -/
  nextHandle : s.registry.nextHandle = handleCount g + 1
  handles : ∀ handle, (∃ pair, s.registry.resolve handle = .ok pair) ↔
    1 ≤ handle ∧ handle ≤ handleCount g
  unique : ∀ first second pair, s.registry.resolve first = .ok pair →
    s.registry.resolve second = .ok pair → first = second
  entities : ∀ e type, (∃ handle, s.registry.resolve handle = .ok (.static e, type)) ↔
    type = e.type ∧ e.index < g.enrolledCount e.type
  unheld : ∀ handle e type, s.registry.resolve handle = .ok (.static e, type) →
    s.registry.state handle = .registered
  /-- The surface is the only object that was made, and it is held once. -/
  surface : ∃ handle key, s.registry.resolve handle = .ok (.dynamic key, .drawingSurface) ∧
    s.registry.state handle = .referenced 1 ∧
    s.world.record? (.dynamic key) = some (.dynamic (.surface (.linked 0 0))) ∧
    ∀ other key' type, s.registry.resolve other = .ok (.dynamic key', type) → other = handle
  named : ∀ e name record, g.Authored e name record → name ≠ "" →
    ∃ handle, s.registry.symbols.get? name = some (.object handle e.type) ∧
      s.registry.resolve handle = .ok (.static e, e.type) ∧
      ∀ offset, s.registry.readField s.world handle offset = record.read offset
  controls : ∀ i j gui c, g.guis[i]? = some gui → gui.controls[j]? = some c →
    s.world.controls[g.controlNumber i j]? = some (i, j) ∧
      ∃ panel, s.game.guis[i]? = some panel ∧ panel.controls[j]? = some (settleControl c)
  symbols : ∀ name symbol,
    s.registry.symbols.get? name = some symbol ↔ Means g s.registry name symbol

theorem authored_enrolled {e : Entity} {name : String} {record : Record}
    (authored : g.Authored e name record) : e.index < g.enrolledCount e.type := by
  cases authored with
  | clip here => exact (List.getElem?_eq_some_iff.mp here).1
  | character here => exact (List.getElem?_eq_some_iff.mp here).1
  | dialog here => exact (List.getElem?_eq_some_iff.mp here).1
  | gui here => exact (List.getElem?_eq_some_iff.mp here).1
  | item here low => exact low
  | @control i j gui c here there =>
    obtain ⟨low, rfl⟩ := List.getElem?_eq_some_iff.mp here
    have within : j < g.guis[i].controls.length := (List.getElem?_eq_some_iff.mp there).1
    show Game.controlCount (g.guis.take i) + j < Game.controlCount g.guis
    -- the panels are those in front of this one, this one, and those behind it
    conv => rhs; rw [← List.take_append_drop i g.guis, List.drop_eq_getElem_cons low]
    simp only [Game.controlCount, List.map_append, List.map_cons, List.sum_append, List.sum_cons]
    omega

theorem mem_roll {key : Arena.Key} {e : Entity} {type : ScriptType} :
    (.static e, type) ∈ Enrolment.roll g key ↔
      type = e.type ∧ e.index < g.enrolledCount e.type := by
  rw [(Enrolment.perm_roll g key).mem_iff, List.mem_cons, List.mem_map, ← Enrolment.mem_allEntities]
  constructor
  · rintro (same | ⟨own, listed, same⟩)
    · cases (Prod.mk.inj same).1
    · obtain ⟨target, type⟩ := Prod.mk.inj same
      obtain rfl := Target.static.inj target
      exact ⟨type.symm, listed⟩
  · rintro ⟨rfl, listed⟩
    exact .inr ⟨e, listed, rfl⟩

theorem eq_of_dynamic_mem_roll {key other : Arena.Key} {type : ScriptType}
    (listed : (.dynamic other, type) ∈ Enrolment.roll g key) :
    other = key ∧ type = .drawingSurface := by
  rw [(Enrolment.perm_roll g key).mem_iff, List.mem_cons, List.mem_map] at listed
  rcases listed with same | ⟨e, -, same⟩
  · obtain ⟨target, rfl⟩ := Prod.mk.inj same
    exact ⟨Target.dynamic.inj target, rfl⟩
  · cases (Prod.mk.inj same).1

theorem exists_resolve_iff {r : Registry} {listed : List (Target × ScriptType)}
    (lists : r.Lists listed) {pair : Target × ScriptType} :
    (∃ handle, r.resolve handle = .ok pair) ↔ pair ∈ listed := by
  rw [List.mem_iff_getElem?]
  constructor
  · rintro ⟨handle, resolved⟩
    obtain ⟨k, -, here⟩ := lists.resolve_iff.mp resolved
    exact ⟨k, here⟩
  · rintro ⟨k, here⟩
    exact ⟨Registry.handleAt k, lists.resolve_iff.mpr ⟨k, rfl, here⟩⟩

theorem handles_of_lists {r : Registry} {key : Arena.Key}
    (lists : r.Lists (Enrolment.roll g key)) (handle : Handle) :
    (∃ pair, r.resolve handle = .ok pair) ↔ 1 ≤ handle ∧ handle ≤ handleCount g := by
  simp only [lists.resolve_iff, ← Enrolment.length_roll g key]
  constructor
  · rintro ⟨pair, k, rfl, here⟩
    have low := (List.getElem?_eq_some_iff.mp here).1
    exact ⟨Registry.one_le_handleAt k, Int.ofNat_lt.mpr low⟩
  · rintro ⟨positive, within⟩
    obtain ⟨k, rfl⟩ := Registry.exists_handleAt positive
    have low : k < (Enrolment.roll g key).length := Int.ofNat_lt.mp within
    exact ⟨_, k, rfl, List.getElem?_eq_getElem low⟩

theorem surface_startedWorld (g : Game) :
    (startedWorld g).record? (.dynamic (Enrolment.surfaceKey {})) =
      some (.dynamic (.surface (.linked 0 0))) := by
  have found := Arena.sound_empty.get?_insert (DynamicObject.surface (.linked 0 0))
    (Enrolment.surfaceKey {})
  exact congrArg (Option.map Record.dynamic) (found.trans (if_pos rfl))

theorem registered_of_lists {s : Session}
    (lists : s.registry.Lists (Enrolment.roll g (Enrolment.surfaceKey {})))
    (world : s.world = startedWorld g)
    (bound : ∀ name symbol, s.registry.symbols.get? name = some symbol ↔
      Enrolment.Binds (Enrolment.ofGame g) s.registry name symbol ∨
        Enrolment.Binds engineExports s.registry name symbol) : s.Registered g := by
  have symbols (name : String) (symbol : Symbol) :
      s.registry.symbols.get? name = some symbol ↔ Means g s.registry name symbol := by
    rw [bound, Enrolment.binds_ofGame, Enrolment.binds_engineExports, or_assoc, or_assoc]
    simp only [Denotes, lists.coherent.handleFor_iff_resolve]
    rfl
  have entities (e : Entity) (type : ScriptType) :
      (∃ handle, s.registry.resolve handle = .ok (.static e, type)) ↔
        type = e.type ∧ e.index < g.enrolledCount e.type :=
    (exists_resolve_iff lists).trans mem_roll
  refine {
    nextHandle := by rw [lists.nextHandle, Enrolment.length_roll]; rfl
    handles := handles_of_lists lists
    unique := fun _ _ _ => lists.coherent.resolve_unique
    entities
    unheld := fun handle e type resolved => lists.state_of_resolve resolved
    surface := ?_
    named := fun e name record authored nonempty => ?_
    controls := fun i j gui c here there => ?_
    symbols }
  · have listed : (Target.dynamic (Enrolment.surfaceKey {}), ScriptType.drawingSurface) ∈
        Enrolment.roll g (Enrolment.surfaceKey {}) :=
      (Enrolment.perm_roll g _).mem_iff.mpr List.mem_cons_self
    obtain ⟨handle, resolved⟩ := (exists_resolve_iff lists).mpr listed
    refine ⟨handle, _, resolved, lists.state_of_resolve resolved, ?_, fun other key type also => ?_⟩
    · rw [world]
      exact surface_startedWorld g
    · obtain ⟨rfl, rfl⟩ := eq_of_dynamic_mem_roll ((exists_resolve_iff lists).mp ⟨other, also⟩)
      exact lists.coherent.resolve_unique also resolved
  · obtain ⟨handle, resolved⟩ := (entities e e.type).mpr ⟨rfl, authored_enrolled authored⟩
    refine ⟨handle, ?_, resolved, Registry.readField_eq resolved ?_⟩
    · exact (symbols name _).mpr (.inl ⟨e, record, authored, nonempty, handle, resolved, rfl⟩)
    · rw [world]
      exact record?_of_authored authored
  · rw [game, world]
    exact ⟨place_startedWorld here there, controls_startedWorld here there⟩

/-! ## Games made to run at twice their size -/

theorem authored_withResolution {e : Entity} {name : String} {record : Record}
    (authored : g.Authored e name record) (resolution : Game.Resolution) :
    ({ g with resolutionClass := resolution } : Game).Authored e name record := by
  cases authored with
  | clip here => exact .clip here
  | character here => exact .character here
  | dialog here => exact .dialog here
  | gui here => exact .gui here
  | control here there => exact .control here there
  | item here low => exact .item here low

theorem means_withResolution {r : Registry} {name : String} {symbol : Symbol}
    (resolution : Game.Resolution) :
    Means { g with resolutionClass := resolution } r name symbol ↔ Means g r name symbol := by
  have authored (e : Entity) (record : Record) :
      ({ g with resolutionClass := resolution } : Game).Authored e name record ↔
        g.Authored e name record :=
    ⟨fun authored => authored_withResolution authored g.resolutionClass,
      fun authored => authored_withResolution authored resolution⟩
  simp only [Means, authored]
  rfl

/-- The size of the screen changes nothing that is registered. -/
theorem Registered.of_upscaled {s : Session} {wanted : Bool}
    (registered : s.Registered (g.upscaled wanted)) : s.Registered g := by
  unfold Game.upscaled at registered
  split at registered
  · exact {
      nextHandle := registered.nextHandle
      handles := registered.handles
      unique := registered.unique
      entities := registered.entities
      unheld := registered.unheld
      surface := registered.surface
      named := fun e name record authored =>
        registered.named e name record (authored_withResolution authored _)
      controls := registered.controls
      symbols := fun name symbol =>
        (registered.symbols name symbol).trans (means_withResolution _) }
  · exact registered

/-- The registry that a first start leaves, as a list, and the world that it leaves. -/
theorem lists_firstStart {s : Session} (fresh : s.registry = {})
    (started : s.start b accepts {} = (.ok (), a)) :
    a.session.registry.Lists
      (Enrolment.roll (b.game.upscaled s.config.overrideUpscale) (Enrolment.surfaceKey {})) ∧
      a.session.world = startedWorld (b.game.upscaled s.config.overrideUpscale) ∧
      ∀ name symbol, a.session.registry.symbols.get? name = some symbol ↔
        Enrolment.Binds (Enrolment.ofGame (b.game.upscaled s.config.overrideUpscale))
            a.session.registry name symbol ∨
          Enrolment.Binds engineExports a.session.registry name symbol := by
  obtain ⟨w, x, q, ofGame, ofEngine, world, -⟩ := start_enrols started
  rw [fresh] at ofGame
  obtain ⟨lists, readied⟩ := Enrolment.enrolled_ofGame
    (w := World.allocated { game := b.game.upscaled s.config.overrideUpscale })
    (Enrolment.wrapped_allocated _) ofGame
  have entities : Enrolment.entities engineExports = [] := rfl
  have unchanged : x = w := Enrolment.world_takeAll plain_engineExports ofEngine
  have exported := Enrolment.lists_takeAll lists plain_engineExports (by
    rw [entities, List.map_nil, List.append_nil]
    exact Enrolment.nodup_roll _ _) ofEngine
  rw [entities, List.map_nil, List.append_nil] at exported
  refine ⟨exported, ?_, fun name symbol => ?_⟩
  · rw [world, unchanged, readied]
    rfl
  · have both := Enrolment.takeAll_append_eq_ok.mpr ⟨w, q, ofGame, ofEngine⟩
    rw [Enrolment.get?_takeAll Registry.coherent_empty both, ← Enrolment.binds_append]
    refine or_iff_right ?_
    intro earlier
    cases earlier

theorem lists_start (started : (Session.new config).start b accepts {} = (.ok (), a)) :
    a.session.registry.Lists
      (Enrolment.roll (b.game.upscaled config.overrideUpscale) (Enrolment.surfaceKey {})) ∧
      a.session.world = startedWorld (b.game.upscaled config.overrideUpscale) ∧
      ∀ name symbol, a.session.registry.symbols.get? name = some symbol ↔
        Enrolment.Binds (Enrolment.ofGame (b.game.upscaled config.overrideUpscale))
            a.session.registry name symbol ∨
          Enrolment.Binds engineExports a.session.registry name symbol :=
  lists_firstStart (s := Session.new config) rfl started

/-- A start without plugins gives every entity of the game one handle and every name of its author
the entity that it was given to; besides, only the arrays, the player and what the engine offers
have names. -/
theorem start_registers (started : (Session.new config).start b accepts {} = (.ok (), a)) :
    a.session.Registered b.game := by
  obtain ⟨lists, world, bound⟩ := lists_start started
  exact Registered.of_upscaled (registered_of_lists lists world bound)

/-- A game with something of everything that can have a name. -/
def village : Bundle :=
  let door : Game.Control := { name := "bDoor" }
  let sign : Game.Control := { name := "lSign", kind := .label }
  { game :=
      { fonts := [{}]
        audioClips := [{ scriptName := "aBell" }, {}]
        characters := [{ scriptName := "cEgo" }, { scriptName := "cCat" }]
        dialogs := [{ scriptName := "dMayor" }]
        guis := [{ name := "gMap" }, { name := "gGate", controls := [door, sign] }]
        inventory := [{}, { scriptName := "iKey" }] } }

theorem start_village : ∃ a, (Session.new {}).start village (fun _ => true) {} = (.ok (), a) :=
  start_succeeds rfl (by decide +kernel) (by decide) rfl (fun _ => rfl) rfl

theorem village_registers :
    ∃ a, (Session.new {}).start village (fun _ => true) {} = (.ok (), a) ∧
      a.session.Registered village.game := by
  obtain ⟨a, started⟩ := start_village
  exact ⟨a, started, start_registers started⟩

end Session

end Adventure
