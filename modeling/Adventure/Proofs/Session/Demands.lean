import Adventure.Proofs.Session.Start

/-! # What a start demands

A start without plugins succeeds for exactly the bundles that meet its demands: on the data of the
game, on the names in it, on the number of its entities and of the pixels on its screen, on fonts
and on scripts.

* `names_start` — the names that a start binds, in their order.
* `Checked`, `Startable` — the demands.
* `start_ok_iff` — a start succeeds exactly if they are met.
* `start_of_not_checked` — data that is refused costs nothing.
-/

namespace Adventure

/-! ## Names -/

/-- The script names that the author of a game has given. -/
def Game.scriptNames (g : Game) : List String :=
  (g.audioClips.map (·.scriptName) ++ g.characters.map (·.scriptName) ++
    g.dialogs.map (·.scriptName) ++
    (g.guis.flatMap fun gui => gui.controls.map (·.name) ++ [gui.name]) ++
    (g.inventory.take 301).map (·.scriptName)).filter (· ≠ "")

/-- The names that are taken in any case, that of the player among them if it is exported. -/
def Game.reservedNames (g : Game) : List String :=
  ["character", "object", "gui", "hotspot", "region", "inventory", "dialog"] ++
    (if Game.playerSymbolVersion ≤ g.dataVersion ∧ g.characters ≠ [] then ["player"] else []) ++
    engineFunctions ++ ["mouse"]

namespace Enrolment

variable {α : Type}

theorem names_append (first later : List Enrolment) :
    names (first ++ later) = names first ++ names later := List.filterMap_append

/-- The name of an entity, unless it is empty. -/
theorem filterMap_name (records : List α) (own : α → String) :
    records.filterMap (fun a => if (own a).isEmpty then none else some (own a)) =
      (records.map own).filter (· ≠ "") := by
  induction records with
  | nil => rfl
  | cons a rest hyp =>
    by_cases nameless : own a = ""
    · simpa [nameless] using hyp
    · simpa [nameless] using hyp

theorem names_mapIdx (records : List α) (entityOf : Nat → Entity) (own : α → String) :
    names (records.mapIdx fun i a => entity (entityOf i) (own a)) =
      (records.map own).filter (· ≠ "") := by
  rw [← filterMap_name, names, List.mapIdx_eq_zipIdx_map, List.filterMap_map]
  conv => rhs; rw [← List.zipIdx_map_fst 0 records, List.filterMap_map]
  rfl

theorem names_prepared (records : List α) (change : Nat → World → World)
    (entityOf : Nat → Entity) (own : α → String) :
    names (records.mapIdx fun i a => [prepare (change i), entity (entityOf i) (own a)]).flatten =
      (records.map own).filter (· ≠ "") := by
  rw [← names_mapIdx records entityOf own, names, names, List.filterMap_flatten,
    List.mapIdx_eq_zipIdx_map, List.mapIdx_eq_zipIdx_map, List.map_map, List.filterMap_map,
    List.filterMap_eq_flatMap_toList, List.flatMap_def]
  congr 1

theorem names_range (count : Nat) (entityOf : Nat → Entity) (own : Nat → String) :
    names ((List.range count).map fun i => entity (entityOf i) (own i)) =
      ((List.range count).map own).filter (· ≠ "") := by
  rw [← filterMap_name, names, List.filterMap_map]
  rfl

theorem names_unnamed (type : ScriptType) (count : Nat) : names (unnamed type count) = [] := by
  rw [unnamed, names_range]
  simp

theorem names_guisFrom (guis : List Game.Gui) (i start : Nat) :
    names (guisFrom i start guis) =
      (guis.flatMap fun gui => gui.controls.map (·.name) ++ [gui.name]).filter (· ≠ "") := by
  induction guis generalizing i start with
  | nil => rfl
  | cons gui rest hyp =>
    have own : names (guiSteps i start gui) =
        (gui.controls.map (·.name) ++ [gui.name]).filter (· ≠ "") := by
      have last : names [prepare (wrapGui i), entity ⟨.gui, i⟩ gui.name] =
          [gui.name].filter (· ≠ "") := names_mapIdx [gui] (fun _ => ⟨.gui, i⟩) (·.name)
      rw [List.filter_append, ← names_mapIdx gui.controls (⟨.control, start + ·⟩), ← last]
      exact names_append _ _
    rw [guisFrom, names_append, hyp, own, List.flatMap_cons, ← List.filter_append]

/-- Slots that no item uses have no names. -/
theorem names_inventory (g : Game) :
    names (inventory g) = ((g.inventory.take 301).map (·.scriptName)).filter (· ≠ "") := by
  have slots (items : List Game.Item) (n : Nat) :
      ((List.range n).map fun i => (items[i]?.map (·.scriptName)).getD "").filter (· ≠ "") =
        ((items.take n).map (·.scriptName)).filter (· ≠ "") := by
    induction n with
    | zero => rfl
    | succ n hyp =>
      rw [List.range_succ, List.map_append, List.filter_append, hyp, List.take_add_one,
        List.map_append, List.filter_append]
      cases here : items[n]? with
      | none => simp [here]
      | some item => simp [here]
  rw [inventory, names_range]
  exact slots g.inventory 301

theorem names_player (g : Game) : names (player g) =
    if Game.playerSymbolVersion ≤ g.dataVersion ∧ g.characters ≠ [] then ["player"] else [] := by
  unfold player
  split
  · next exported => rw [if_pos (by simpa using exported)]; rfl
  · next hidden => rw [if_neg (by simpa using hidden)]; rfl

end Enrolment

theorem Session.names_start (g : Game) : startNames g = g.scriptNames ++ g.reservedNames := by
  have surfaces : Enrolment.names [.entity ⟨.dialogRendering, 0⟩ "", .surface] = [] := rfl
  have engine : Enrolment.names engineExports = engineFunctions ++ ["mouse"] := rfl
  have arrays : Enrolment.names (Enrolment.arrays g) =
    ["character", "object", "gui", "hotspot", "region", "inventory", "dialog"] := rfl
  simp only [startNames, Enrolment.ofGame, Enrolment.names_append, Enrolment.names_unnamed,
    Enrolment.clips, Enrolment.characters, Enrolment.names_prepared, Enrolment.named,
    Enrolment.names_mapIdx, surfaces, Enrolment.names_guisFrom, Enrolment.names_inventory, arrays,
    Enrolment.names_player, engine, Game.scriptNames, Game.reservedNames, List.filter_append,
    List.nil_append, List.append_assoc]

theorem Game.nodup_reservedNames (g : Game) : g.reservedNames.Nodup := by
  unfold Game.reservedNames
  split <;> decide

/-- What does not depend on the resolution of a game is kept when the game is shown at twice its
size. -/
theorem Game.upscaled_keeps {α : Type} {f : Game → α} {g : Game}
    (same : ∀ r, f { g with resolutionClass := r } = f g) (wanted : Bool) :
    f (g.upscaled wanted) = f g := by
  unfold Game.upscaled
  split
  · exact same _
  · rfl

/-- The names of a start are distinct when those of the author are, and none of them is taken. -/
theorem Session.nodup_startNames (g : Game) : (startNames g).Nodup ↔
    g.scriptNames.Nodup ∧ ∀ name ∈ g.scriptNames, name ∉ g.reservedNames := by
  rw [names_start, List.nodup_append, ← List.disjoint_iff_ne]
  simp only [g.nodup_reservedNames, true_and, List.Disjoint, imp_false]

theorem Session.startNames_upscaled (g : Game) (wanted : Bool) :
    startNames (g.upscaled wanted) = startNames g := by
  rw [names_start, names_start, Game.upscaled_keeps (f := Game.scriptNames) (fun _ => rfl),
    Game.upscaled_keeps (f := Game.reservedNames) fun _ => rfl]

/-! ## Plugins -/

/-- The names that plugins may have: at most 20 bytes, and only letters, digits and three marks. -/
def Plugin.PlainName (name : String) : Prop :=
  1 ≤ name.utf8ByteSize ∧ name.utf8ByteSize ≤ 20 ∧ ∀ char ∈ name.toList,
    'A' ≤ char ∧ char ≤ 'Z' ∨ 'a' ≤ char ∧ char ≤ 'z' ∨ '0' ≤ char ∧ char ≤ '9' ∨
      char = '_' ∨ char = '.' ∨ char = '-'

theorem Plugin.isValidName_iff (name : String) :
    Plugin.isValidName name = true ↔ Plugin.PlainName name := by
  have size : 1 ≤ name.utf8ByteSize ↔ name.isEmpty = false := by
    rw [Nat.one_le_iff_ne_zero, ne_eq, String.utf8ByteSize_eq_zero_iff, ← String.isEmpty_iff,
      Bool.not_eq_true]
  rw [Plugin.PlainName, size, ← and_assoc, and_comm (a := name.isEmpty = false), and_assoc]
  simp only [Plugin.isValidName, Plugin.isNameChar, Bool.and_eq_true, decide_eq_true_eq,
    Bool.not_eq_true', List.all_eq_true, Bool.or_eq_true, or_assoc, and_assoc]
  rfl

theorem Plugin.checkInfos_eq_ok_iff (infos : List Plugin.Info) (limit : Nat) :
    Plugin.checkInfos infos limit = .ok () ↔
      infos.length ≤ limit ∧ ∀ info ∈ infos, Plugin.isValidName info.name = true := by
  unfold Plugin.checkInfos
  split
  · next many => simp [Nat.not_le.mpr many]
  · next few =>
    rw [and_iff_right (Nat.not_lt.mp few)]
    cases bad : infos.find? fun info => !Plugin.isValidName info.name with
    | some info =>
      have found := List.find?_some bad
      simp only [reduceCtorEq, false_iff, not_forall]
      exact ⟨info, List.mem_of_find?_eq_some bad, by simpa using found⟩
    | none => simpa using bad

theorem Plugin.isOverflow_of_checkInfos {infos : List Plugin.Info} {limit : Nat}
    {fault : StartFault} (refused : Plugin.checkInfos infos limit = .error fault) :
    fault.isOverflow = false := by
  unfold Plugin.checkInfos at refused
  split at refused
  · obtain rfl := Except.error.inj refused
    rfl
  · split at refused
    · obtain rfl := Except.error.inj refused
      rfl
    · cases refused

namespace Session

/-! ## Demands -/

/-- The demands on the data of a game. -/
structure Checked (c : Config) (b : Bundle) : Prop where
  fonts : b.game.fonts ≠ []
  audioClasses : b.game.audioClasses.length ≤ 30
  player : b.game.characters = [] ∨ b.game.playerCharacter < b.game.characters.length
  pluginCount : b.plugins.length ≤ c.maxPlugins
  pluginNames : ∀ info ∈ b.plugins, Plugin.PlainName info.name

/-- All that a bundle has to meet for its game to be started. -/
structure Startable (c : Config) (b : Bundle) (accepts : Font.Request → Bool) : Prop
    extends Checked c b where
  distinct : b.game.scriptNames.Nodup
  free : ∀ name ∈ b.game.scriptNames, name ∉ b.game.reservedNames
  /-- Each entity gets a handle, and one more can be given. -/
  handles : (handleCount b.game : Int) < Registry.maxHandle
  /-- Fonts are loaded at a size that depends on the screen. -/
  fontsLoaded : ∃ scales, (b.game.upscaled c.overrideUpscale).scalesFonts? = some scales ∧
    ∀ slot font, b.game.fonts[slot]? = some font →
      accepts ⟨slot, font.loadSize scales⟩ = true
  /-- Scripts import what is registered and what scripts in front of them export. -/
  scripts : ∀ n m, b.scripts[n]? = some m → ∀ symbol ∈ m.imports,
    symbol ∈ b.game.scriptNames ∨ symbol ∈ b.game.reservedNames ∨
      ∃ earlier ∈ b.scripts.take n, symbol ∈ earlier.exports

theorem checkBundle_eq_ok_iff (c : Config) (b : Bundle) :
    checkBundle c b = .ok () ↔ Checked c b := by
  simp only [checkBundle]
  rw [refusal_eq_ok, refusal_eq_ok, refusal_eq_ok, Plugin.checkInfos_eq_ok_iff]
  simp only [Plugin.isValidName_iff, List.isEmpty_iff, Bool.and_eq_true, Bool.not_eq_true',
    decide_eq_true_eq, List.isEmpty_eq_false_iff, not_and, Nat.not_lt, Nat.not_le]
  constructor
  · rintro ⟨fonts, audioClasses, player, pluginCount, pluginNames⟩
    exact ⟨fonts, audioClasses, or_iff_not_imp_left.mpr player, pluginCount, pluginNames⟩
  · intro checked
    exact ⟨checked.fonts, checked.audioClasses, or_iff_not_imp_left.mp checked.player,
      checked.pluginCount, checked.pluginNames⟩

/-- The demands on the data of a game are met or not, whatever its numbers. -/
theorem isOverflow_of_checkBundle {c : Config} {b : Bundle} {fault : StartFault}
    (refused : checkBundle c b = .error fault) : fault.isOverflow = false := by
  simp only [checkBundle] at refused
  rcases refusal_eq_error refused with rfl | refused
  · rfl
  rcases refusal_eq_error refused with rfl | refused
  · rfl
  rcases refusal_eq_error refused with rfl | refused
  · rfl
  exact Plugin.isOverflow_of_checkInfos refused

/-! ## The start -/

theorem start_ok_iff (c : Config) (b : Bundle) (accepts : Font.Request → Bool) :
    ((Session.new c).start b accepts {}).1 = .ok () ↔ Startable c b accepts := by
  rw [start_eq_ok_iff c b accepts rfl, checkBundle_eq_ok_iff, startNames_upscaled,
    Game.upscaled_keeps (f := handleCount) fun _ => rfl,
    Game.upscaled_keeps (f := Game.fonts) fun _ => rfl, nodup_startNames, names_start]
  simp only [List.mem_append, or_assoc]
  constructor
  · rintro ⟨checked, ⟨distinct, free⟩, handles, fontsLoaded, scripts⟩
    exact { checked with distinct, free, handles, fontsLoaded, scripts }
  · intro startable
    exact ⟨startable.toChecked, ⟨startable.distinct, startable.free⟩, startable.handles,
      startable.fontsLoaded, startable.scripts⟩

/-- A bundle whose data is refused leaves a session as it was, but that it has failed. -/
theorem start_of_not_checked {c : Config} {b : Bundle} (refused : ¬ Checked c b)
    (accepts : Font.Request → Bool) :
    ∃ fault, fault.isOverflow = false ∧ (Session.new c).start b accepts {} =
      (.error fault, { session := { Session.new c with phase := .failed }, asked := [] }) := by
  have empty : (Session.new c).phase = .empty := rfl
  cases check : checkBundle c b with
  | ok u => exact absurd ((checkBundle_eq_ok_iff c b).mp check) refused
  | error fault =>
    have stopped : checkStage b { session := .new c } = (.error fault, { session := .new c }) := by
      rw [← check]
      rfl
    refine ⟨fault, isOverflow_of_checkBundle check, ?_⟩
    rw [start, if_pos empty, stages, runStages, stopped]
    rfl

/-- A new session, with a host that knows no plugins, starts the game of a bundle exactly if all
demands are met. If the data of the game is refused, nothing is done but to note the failure. -/
theorem start_demands (c : Config) (b : Bundle) (accepts : Font.Request → Bool) :
    (((Session.new c).start b accepts {}).1 = .ok () ↔ Startable c b accepts) ∧
      (¬ Checked c b → ∃ fault, fault.isOverflow = false ∧ (Session.new c).start b accepts {} =
        (.error fault, { session := { Session.new c with phase := .failed }, asked := [] })) :=
  ⟨start_ok_iff c b accepts, fun refused => start_of_not_checked refused accepts⟩

/-- A game with more pixels on its screen than 32 bits count. -/
def vast : Bundle :=
  { game := { fonts := [{}], resolutionClass := .custom, customSize := some (65536, 65536) } }

/-- It meets all the demands but that it cannot be told at what size its font is to be loaded. So it
is not started, whatever fonts there are. -/
theorem vast_not_started : Checked {} vast ∧ vast.game.scriptNames = [] ∧ vast.scripts = [] ∧
    vast.game.scalesFonts? = none ∧
      ∀ accepts, ((Session.new {}).start vast accepts {}).1 ≠ .ok () := by
  have uncounted : vast.game.scalesFonts? = none := by decide
  refine ⟨(checkBundle_eq_ok_iff _ _).mp rfl, by decide, rfl, uncounted, ?_⟩
  intro accepts started
  obtain ⟨scales, counted, -⟩ := ((start_ok_iff _ _ accepts).mp started).fontsLoaded
  cases uncounted.symm.trans counted

end Session

end Adventure
