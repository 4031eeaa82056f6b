import Mathlib.Data.List.Nodup
import Mathlib.Data.List.Range
import Adventure.Proofs.Session.Roll
import Adventure.Session.Start

/-! # Who is enrolled

The steps for a game as a list of entities and as a list of names. Every entity of a game occurs
once: those of one type one after the other, but for the controls, which stand in front of their
panels.

* `entities_ofGame` — the entities, the surface in between.
* `perm_entities` — sorted by type, they are all indices of each type.
* `binds_ofGame` — the names, with what they stand for.
-/

namespace Adventure

/-- The number of controls of panels. -/
def Game.controlCount (guis : List Game.Gui) : Nat := (guis.map (·.controls.length)).sum

/-- The number of a control among those of all panels, panel after panel. -/
def Game.controlNumber (g : Game) (i j : Nat) : Nat := Game.controlCount (g.guis.take i) + j

/-- How many entities of a type a game enrols. -/
def Game.enrolledCount (g : Game) : ScriptType → Nat
  | .audioChannel => Game.soundChannels + 1
  | .audioClip => g.audioClips.length
  | .character => g.characters.length
  | .dialog => g.dialogs.length
  | .dialogRendering => 1
  | .control => Game.controlCount g.guis
  | .gui => g.guis.length
  | .inventory => Game.inventorySlots
  | .hotspot => Room.maxHotspots
  | .region => Room.maxRegions
  | .object => Room.maxObjects
  | .drawingSurface | .mouse => 0

/-- What the author of a game made as an entity, with its script name and the record that it has
when the game starts. -/
inductive Game.Authored (g : Game) : Entity → String → Record → Prop where
  | clip {i : Nat} {c : Game.AudioClip} (here : g.audioClips[i]? = some c) :
    g.Authored ⟨.audioClip, i⟩ c.scriptName (.clip { c with id := Int32.ofNat i })
  | character {i : Nat} {c : Game.Character} (here : g.characters[i]? = some c) :
    g.Authored ⟨.character, i⟩ c.scriptName (.character (c.reset i))
  | dialog {i : Nat} {d : Game.Dialog} (here : g.dialogs[i]? = some d) :
    g.Authored ⟨.dialog, i⟩ d.scriptName (.wrapper .dialog (.ofIndex i))
  | gui {i : Nat} {gui : Game.Gui} (here : g.guis[i]? = some gui) :
    g.Authored ⟨.gui, i⟩ gui.name (.wrapper .gui (.ofIndex i))
  | control {i j : Nat} {gui : Game.Gui} {c : Game.Control} (here : g.guis[i]? = some gui)
    (there : gui.controls[j]? = some c) :
    g.Authored ⟨.control, g.controlNumber i j⟩ c.name (.control (Session.settleControl c))
  | item {i : Nat} {item : Game.Item} (here : g.inventory[i]? = some item)
    (low : i < Game.inventorySlots) :
    g.Authored ⟨.inventory, i⟩ item.scriptName (.wrapper .inventory (.ofIndex i))

/-- The array of the first entities of a type, one after the other. -/
def Game.wholeArray (symbol : String) (type : ScriptType) (count : Nat) : StaticArray where
  symbol := symbol
  type := type
  base := 0
  stride := type.naturalSize
  count := count

def Game.exportedArrays (g : Game) : List StaticArray := [
  wholeArray "character" .character g.characters.length,
  wholeArray "object" .object Room.maxObjects,
  wholeArray "gui" .gui g.guis.length,
  wholeArray "hotspot" .hotspot Room.maxHotspots,
  wholeArray "region" .region Room.maxRegions,
  wholeArray "inventory" .inventory Game.inventorySlots,
  wholeArray "dialog" .dialog g.dialogs.length]

namespace Enrolment

variable {α : Type} {g : Game} {steps first later : List Enrolment} {q : Registry}
  {listed : List (Target × ScriptType)}

/-! ## Entities -/

theorem entities_append (first later : List Enrolment) :
    entities (first ++ later) = entities first ++ entities later := List.filterMap_append

theorem map_snd_zipIdx (records : List α) :
    records.zipIdx.map (·.2) = List.range records.length := by
  rw [List.zipIdx_map_snd, List.range_eq_range']

theorem entities_mapIdx (records : List α) (entityOf : Nat → Entity) (name : α → String) :
    entities (records.mapIdx fun i a => entity (entityOf i) (name a)) =
      (List.range records.length).map entityOf := by
  rw [entities, List.mapIdx_eq_zipIdx_map, List.filterMap_map, ← map_snd_zipIdx, List.map_map]
  exact congrFun List.filterMap_eq_map' records.zipIdx

theorem entities_prepared (records : List α) (change : Nat → World → World)
    (entityOf : Nat → Entity) (name : α → String) :
    entities
        (records.mapIdx fun i a => [prepare (change i), entity (entityOf i) (name a)]).flatten =
      (List.range records.length).map entityOf := by
  rw [entities, List.filterMap_flatten, List.mapIdx_eq_zipIdx_map, List.map_map, ← map_snd_zipIdx,
    List.map_map]
  exact List.map_eq_flatMap.symm

theorem entities_range (count : Nat) (entityOf : Nat → Entity) (name : Nat → String) :
    entities ((List.range count).map fun i => entity (entityOf i) (name i)) =
      (List.range count).map entityOf := by
  rw [entities, List.filterMap_map]
  exact congrFun List.filterMap_eq_map' (List.range count)

/-- The first entities of a type. -/
def entitiesOf (type : ScriptType) (count : Nat) : List Entity := (List.range count).map (⟨type, ·⟩)

/-- The panels from number `i` on with their controls from number `start` on. -/
def panelEntities (i start : Nat) : List Game.Gui → List Entity
  | [] => []
  | gui :: rest =>
    (List.range gui.controls.length).map (⟨.control, start + ·⟩) ++ ⟨.gui, i⟩
      :: panelEntities (i + 1) (start + gui.controls.length) rest

theorem entities_guisFrom (guis : List Game.Gui) (i start : Nat) :
    entities (guisFrom i start guis) = panelEntities i start guis := by
  induction guis generalizing i start with
  | nil => rfl
  | cons gui rest hyp =>
    have steps : entities (guiSteps i start gui) =
        (List.range gui.controls.length).map (⟨.control, start + ·⟩) ++ [⟨.gui, i⟩] := by
      rw [← entities_mapIdx gui.controls (⟨.control, start + ·⟩) (·.name)]
      exact entities_append _ [prepare (wrapGui i), entity ⟨.gui, i⟩ gui.name]
    rw [guisFrom, entities_append, hyp, panelEntities, steps, List.append_assoc]
    rfl

theorem perm_panelEntities (guis : List Game.Gui) (i start : Nat) :
    (panelEntities i start guis).Perm
      ((List.range' start (Game.controlCount guis)).map (⟨.control, ·⟩) ++
        (List.range' i guis.length).map (⟨.gui, ·⟩)) := by
  induction guis generalizing i start with
  | nil => simp [panelEntities, Game.controlCount]
  | cons gui rest hyp =>
    have here :
        (List.range gui.controls.length).map (⟨ScriptType.control, start + ·⟩ : Nat → Entity) =
        (List.range' start gui.controls.length).map (⟨.control, ·⟩) := by
      rw [List.range'_eq_map_range, List.map_map]
      rfl
    have count : Game.controlCount (gui :: rest) =
        gui.controls.length + Game.controlCount rest := rfl
    rw [panelEntities, here, count, List.range'_append_1.symm, List.map_append, List.append_assoc,
      List.length_cons, List.range'_succ, List.map_cons]
    refine List.Perm.append_left _ ?_
    exact (List.Perm.cons _ (hyp (i + 1) (start + gui.controls.length))).trans
      List.perm_middle.symm

theorem entities_beforeSurface (g : Game) : entities (beforeSurface g) =
    entitiesOf .audioChannel (Game.soundChannels + 1) ++
      entitiesOf .audioClip g.audioClips.length ++
      entitiesOf .character g.characters.length ++ entitiesOf .dialog g.dialogs.length ++
      entitiesOf .dialogRendering 1 := by
  have clips : entities (clips g) = entitiesOf .audioClip g.audioClips.length :=
    entities_prepared ..
  have characters : entities (characters g) = entitiesOf .character g.characters.length :=
    entities_prepared ..
  have dialogs : entities (named .dialog g.dialogs (·.scriptName)) =
      entitiesOf .dialog g.dialogs.length := entities_mapIdx ..
  simp only [beforeSurface, entities_append, clips, characters, dialogs, unnamed, entities_range]
  rfl

theorem entities_arrays (g : Game) : entities (arrays g) = [] := rfl

theorem entities_player (g : Game) : entities (player g) = [] := by
  unfold player
  split <;> rfl

theorem entities_afterSurface (g : Game) : entities (afterSurface g) =
    panelEntities 0 0 g.guis ++ entitiesOf .inventory Game.inventorySlots ++
      entitiesOf .hotspot Room.maxHotspots ++ entitiesOf .region Room.maxRegions ++
      entitiesOf .object Room.maxObjects := by
  simp only [afterSurface, entities_append, entities_arrays, entities_player, List.append_nil,
    entities_guisFrom, unnamed, entities_range, inventory, entitiesOf]

/-- The types of what is enrolled, the surface apart. -/
def enrolledTypes : List ScriptType :=
  [.audioChannel, .audioClip, .character, .dialog, .dialogRendering, .control, .gui, .inventory,
    .hotspot, .region, .object]

/-- All entities of a game, by type. -/
def allEntities (g : Game) : List Entity :=
  enrolledTypes.flatMap fun type => entitiesOf type (g.enrolledCount type)

theorem perm_entities (g : Game) :
    (entities (beforeSurface g) ++ entities (afterSurface g)).Perm (allEntities g) := by
  have panels := perm_panelEntities g.guis 0 0
  rw [← List.range_eq_range', ← List.range_eq_range'] at panels
  rw [entities_beforeSurface, entities_afterSurface]
  simp only [allEntities, enrolledTypes, List.flatMap_cons, List.flatMap_nil, List.append_nil,
    Game.enrolledCount, List.append_assoc]
  refine List.Perm.append_left _ <| List.Perm.append_left _ <| List.Perm.append_left _ <|
    List.Perm.append_left _ <| List.Perm.append_left _ ?_
  rw [← List.append_assoc (entitiesOf .control _)]
  exact panels.append_right _

theorem mem_entitiesOf {type : ScriptType} {count : Nat} {e : Entity} :
    e ∈ entitiesOf type count ↔ e.type = type ∧ e.index < count := by
  obtain ⟨own, index⟩ := e
  simp [entitiesOf, eq_comm, and_comm]

theorem mem_allEntities {e : Entity} : e ∈ allEntities g ↔ e.index < g.enrolledCount e.type := by
  obtain ⟨type, index⟩ := e
  simp only [allEntities, List.mem_flatMap, mem_entitiesOf]
  constructor
  · rintro ⟨own, -, rfl, within⟩
    exact within
  · intro within
    refine ⟨type, ?_, rfl, within⟩
    cases type with
    | drawingSurface | mouse => cases within
    | _ => decide

theorem nodup_entitiesOf (type : ScriptType) (count : Nat) : (entitiesOf type count).Nodup :=
  List.nodup_range.map fun _ _ same => congrArg Entity.index same

theorem nodup_allEntities (g : Game) : (allEntities g).Nodup := by
  refine List.nodup_flatMap.mpr ⟨fun type _ => nodup_entitiesOf type _, ?_⟩
  have distinct : enrolledTypes.Nodup := by decide
  refine distinct.imp fun {one other} apart e here there => ?_
  exact apart ((mem_entitiesOf.mp here).1.symm.trans (mem_entitiesOf.mp there).1)

/-! ## Names -/

/-- Whether one of the steps binds a name to a symbol, in a registry that has their entities. -/
def Binds (steps : List Enrolment) (q : Registry) (name : String) (symbol : Symbol) : Prop :=
  ∃ step ∈ steps, step.name? = some name ∧ step.symbol? q = some symbol

/-- Whether a symbol is the handle of an entity. -/
def Denotes (q : Registry) (e : Entity) (symbol : Symbol) : Prop :=
  ∃ handle, q.handleFor (.static e) e.type = some handle ∧ symbol = .object handle e.type

section Binds

variable {name : String} {symbol : Symbol}

theorem binds_append : Binds (first ++ later) q name symbol ↔
    Binds first q name symbol ∨ Binds later q name symbol := by
  simp only [Binds, List.mem_append, or_and_right, exists_or]

theorem binds_nil : ¬ Binds [] q name symbol := by
  simp [Binds]

theorem binds_cons {step : Enrolment} : Binds (step :: later) q name symbol ↔
    (step.name? = some name ∧ step.symbol? q = some symbol) ∨ Binds later q name symbol := by
  simp [Binds]

theorem symbol?_entity {e : Entity} {own : String} :
    (entity e own).symbol? q = some symbol ↔ Denotes q e symbol := by
  rw [symbol?, Option.map_eq_some_iff]
  exact exists_congr fun handle => and_congr_right fun _ => eq_comm

theorem entity_binds {e : Entity} {own : String} :
    ((entity e own).name? = some name ∧ (entity e own).symbol? q = some symbol) ↔
      own = name ∧ name ≠ "" ∧ Denotes q e symbol := by
  rw [symbol?_entity, ← and_assoc]
  refine and_congr_left fun _ => ?_
  simp only [name?]
  by_cases nameless : own.isEmpty = true
  · rw [if_pos nameless]
    obtain rfl := String.isEmpty_iff.mp nameless
    constructor
    · intro same
      cases same
    · rintro ⟨rfl, named⟩
      exact absurd rfl named
  · have named : own ≠ "" := fun same => nameless (String.isEmpty_iff.mpr same)
    rw [if_neg nameless, Option.some.injEq]
    exact ⟨fun same => ⟨same, same ▸ named⟩, And.left⟩

theorem binds_mapIdx (records : List α) (entityOf : Nat → Entity) (own : α → String) :
    Binds (records.mapIdx fun i a => entity (entityOf i) (own a)) q name symbol ↔
      ∃ i a, records[i]? = some a ∧ own a = name ∧ name ≠ "" ∧ Denotes q (entityOf i) symbol := by
  constructor
  · rintro ⟨step, listed, binds⟩
    obtain ⟨i, low, rfl⟩ := List.mem_mapIdx.mp listed
    exact ⟨i, records[i], List.getElem?_eq_getElem low, entity_binds.mp binds⟩
  · rintro ⟨i, a, here, binds⟩
    obtain ⟨low, rfl⟩ := List.getElem?_eq_some_iff.mp here
    exact ⟨_, List.mem_mapIdx.mpr ⟨i, low, rfl⟩, entity_binds.mpr binds⟩

theorem binds_prepared (records : List α) (change : Nat → World → World)
    (entityOf : Nat → Entity) (own : α → String) :
    Binds (records.mapIdx fun i a => [prepare (change i), entity (entityOf i) (own a)]).flatten
        q name symbol ↔
      ∃ i a, records[i]? = some a ∧ own a = name ∧ name ≠ "" ∧ Denotes q (entityOf i) symbol := by
  constructor
  · rintro ⟨step, listed, binds⟩
    obtain ⟨pair, member, listed⟩ := List.mem_flatten.mp listed
    obtain ⟨i, low, rfl⟩ := List.mem_mapIdx.mp member
    rcases List.mem_pair.mp listed with rfl | rfl
    · cases binds.1
    · exact ⟨i, records[i], List.getElem?_eq_getElem low, entity_binds.mp binds⟩
  · rintro ⟨i, a, here, binds⟩
    obtain ⟨low, rfl⟩ := List.getElem?_eq_some_iff.mp here
    refine ⟨_, List.mem_flatten.mpr ⟨_, List.mem_mapIdx.mpr ⟨i, low, rfl⟩, ?_⟩,
      entity_binds.mpr binds⟩
    exact List.mem_cons_of_mem _ List.mem_cons_self

theorem binds_unnamed (type : ScriptType) (count : Nat) :
    ¬ Binds (unnamed type count) q name symbol := by
  rintro ⟨step, listed, binds⟩
  obtain ⟨i, -, rfl⟩ := List.mem_map.mp listed
  obtain ⟨rfl, named, -⟩ := entity_binds.mp binds
  exact named rfl

theorem binds_inventory (g : Game) : Binds (inventory g) q name symbol ↔
    ∃ i item, g.inventory[i]? = some item ∧ i < Game.inventorySlots ∧ item.scriptName = name ∧
      name ≠ "" ∧ Denotes q ⟨.inventory, i⟩ symbol := by
  constructor
  · rintro ⟨step, listed, binds⟩
    obtain ⟨i, low, rfl⟩ := List.mem_map.mp listed
    obtain ⟨own, named, known⟩ := entity_binds.mp binds
    cases here : g.inventory[i]? with
    | none =>
      -- a slot that the game does not use has no name
      rw [here] at own
      exact absurd own.symm named
    | some item =>
      rw [here] at own
      exact ⟨i, item, here, List.mem_range.mp low, own, named, known⟩
  · rintro ⟨i, item, here, low, own, binds⟩
    refine ⟨_, List.mem_map.mpr ⟨i, List.mem_range.mpr low, rfl⟩, entity_binds.mpr ⟨?_, binds⟩⟩
    rw [here]
    exact own

theorem binds_guisFrom (guis : List Game.Gui) (i start : Nat) :
    Binds (guisFrom i start guis) q name symbol ↔
      ∃ k gui, guis[k]? = some gui ∧
        ((∃ j c, gui.controls[j]? = some c ∧ c.name = name ∧ name ≠ "" ∧
            Denotes q ⟨.control, start + Game.controlCount (guis.take k) + j⟩ symbol) ∨
          (gui.name = name ∧ name ≠ "" ∧ Denotes q ⟨.gui, i + k⟩ symbol)) := by
  induction guis generalizing i start with
  | nil => simp [guisFrom, binds_nil]
  | cons gui rest hyp =>
    have own : Binds (guiSteps i start gui) q name symbol ↔
        (∃ j c, gui.controls[j]? = some c ∧ c.name = name ∧ name ≠ "" ∧
            Denotes q ⟨.control, start + j⟩ symbol) ∨
          (gui.name = name ∧ name ≠ "" ∧ Denotes q ⟨.gui, i⟩ symbol) := by
      rw [guiSteps, List.cons_append, binds_cons, binds_append,
        binds_mapIdx gui.controls (⟨.control, start + ·⟩), binds_cons, binds_cons, entity_binds]
      simp [name?, binds_nil]
    rw [guisFrom, binds_append, own, hyp]
    constructor
    · rintro (here | ⟨k, later, there, binds⟩)
      · exact ⟨0, gui, rfl, here⟩
      · refine ⟨k + 1, later, there, ?_⟩
        rwa [Nat.add_assoc start, Nat.add_right_comm i] at binds
    · rintro ⟨k, found, there, binds⟩
      cases k with
      | zero =>
        obtain rfl := Option.some.inj there
        exact .inl binds
      | succ k =>
        refine .inr ⟨k, found, there, ?_⟩
        rwa [Nat.add_assoc start, Nat.add_right_comm i]

theorem binds_arrays (g : Game) : Binds (arrays g) q name symbol ↔
    ∃ a ∈ g.exportedArrays, a.symbol = name ∧ symbol = .array a := by
  have steps : arrays g = g.exportedArrays.map fun a => array a.symbol a.type a.count := rfl
  have whole : ∀ a ∈ g.exportedArrays, a = Game.wholeArray a.symbol a.type a.count := by
    simp only [Game.exportedArrays, List.forall_mem_cons, List.not_mem_nil, false_implies,
      implies_true, and_true]
    exact ⟨rfl, rfl, rfl, rfl, rfl, rfl, rfl⟩
  rw [steps]
  constructor
  · rintro ⟨step, listed, own, meaning⟩
    obtain ⟨a, member, rfl⟩ := List.mem_map.mp listed
    refine ⟨a, member, Option.some.inj own, ?_⟩
    rw [whole a member]
    exact (Option.some.inj meaning).symm
  · rintro ⟨a, member, rfl, rfl⟩
    refine ⟨_, List.mem_map.mpr ⟨a, member, rfl⟩, rfl, ?_⟩
    exact congrArg (some ∘ Symbol.array) (whole a member).symm

theorem binds_player (g : Game) : Binds (player g) q name symbol ↔
    (Game.playerSymbolVersion ≤ g.dataVersion ∧ g.characters ≠ []) ∧ name = "player" ∧
      symbol = .entity ⟨.character, g.playerCharacter⟩ := by
  unfold player
  split
  · next exported =>
    rw [binds_cons, or_iff_left binds_nil]
    simp only [Bool.and_eq_true, decide_eq_true_eq, Bool.not_eq_true', List.isEmpty_eq_false_iff]
      at exported
    simp [name?, symbol?, exported, eq_comm]
  · next hidden =>
    simp only [Bool.and_eq_true, decide_eq_true_eq, Bool.not_eq_true', List.isEmpty_eq_false_iff]
      at hidden
    simp [binds_nil, hidden]

/-- What the names of a game stand for: what its author named, the arrays, and the player. -/
theorem binds_ofGame (g : Game) : Binds (ofGame g) q name symbol ↔
    (∃ e record, g.Authored e name record ∧ name ≠ "" ∧ Denotes q e symbol) ∨
      (∃ a ∈ g.exportedArrays, a.symbol = name ∧ symbol = .array a) ∨
      ((Game.playerSymbolVersion ≤ g.dataVersion ∧ g.characters ≠ []) ∧ name = "player" ∧
        symbol = .entity ⟨.character, g.playerCharacter⟩) := by
  have surfaces : ¬ Binds [entity ⟨.dialogRendering, 0⟩ "", surface] q name symbol := by
    simp [Binds, name?]
  simp only [ofGame, binds_append, binds_unnamed, surfaces, binds_arrays, binds_player, false_or,
    or_false, or_assoc]
  rw [clips, binds_prepared, characters, binds_prepared, named, binds_mapIdx, binds_guisFrom,
    binds_inventory]
  constructor
  · rintro (⟨i, c, here, rfl, binds⟩ | ⟨i, c, here, rfl, binds⟩ | ⟨i, d, here, rfl, binds⟩ |
      ⟨i, gui, here, ⟨j, c, there, rfl, binds⟩ | ⟨rfl, binds⟩⟩ | ⟨i, item, here, low, rfl, binds⟩ |
      others)
    · exact .inl ⟨_, _, .clip here, binds⟩
    · exact .inl ⟨_, _, .character here, binds⟩
    · exact .inl ⟨_, _, .dialog here, binds⟩
    · refine .inl ⟨_, _, .control here there, ?_⟩
      rwa [Nat.zero_add] at binds
    · refine .inl ⟨_, _, .gui here, ?_⟩
      rwa [Nat.zero_add] at binds
    · exact .inl ⟨_, _, .item here low, binds⟩
    · exact .inr others
  · rintro (⟨e, record, authored, binds⟩ | others)
    · cases authored with
      | clip here => exact .inl ⟨_, _, here, rfl, binds⟩
      | character here => exact .inr (.inl ⟨_, _, here, rfl, binds⟩)
      | dialog here => exact .inr (.inr (.inl ⟨_, _, here, rfl, binds⟩))
      | control here there =>
        refine .inr (.inr (.inr (.inl ⟨_, _, here, .inl ⟨_, _, there, rfl, ?_⟩⟩)))
        rwa [Nat.zero_add]
      | gui here =>
        refine .inr (.inr (.inr (.inl ⟨_, _, here, .inr ⟨rfl, ?_⟩⟩)))
        rwa [Nat.zero_add]
      | item here low => exact .inr (.inr (.inr (.inr (.inl ⟨_, _, here, low, rfl, binds⟩))))
    · exact .inr (.inr (.inr (.inr (.inr others))))

theorem binds_engineExports : Binds engineExports q name symbol ↔
    (name ∈ engineFunctions ∧ symbol = .function) ∨
      (name = "mouse" ∧ symbol = .entity ⟨.mouse, 0⟩) := by
  rw [engineExports, binds_append, binds_cons, or_iff_left (a := _ ∧ _) binds_nil]
  refine or_congr ?_ ?_
  · simp only [Binds, List.mem_map, exists_exists_and_eq_and, name?, symbol?, Option.some.injEq]
    constructor
    · rintro ⟨own, listed, rfl, rfl⟩
      exact ⟨listed, rfl⟩
    · rintro ⟨listed, rfl⟩
      exact ⟨name, listed, rfl, rfl⟩
  · simp [name?, symbol?, eq_comm]

end Binds

end Enrolment

end Adventure
