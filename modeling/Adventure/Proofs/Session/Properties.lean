import Adventure.Proofs.Session.Enterable
import Adventure.Proofs.Session.Transition

/-! # Properties from start to end

What a property reads after any steps is told by the past alone: the text that it was set to last,
else that of the author, else that of its declaration.

* `Event`, `past` — what steps have done to texts, the latest first.
* `lastSet?`, `textAfter` — what the past says about a property.
* `Follows` — the invariant of a session and its past.
* `Recalls` — a session that agrees with its past.
-/

namespace Adventure.Session

open Property (Layers Kind Declaration)

/-! ## Steps and their past -/

/-- What players and scripts do to rooms and properties. -/
inductive Step where
  | move (m : Move)
  | getProperty (owner : Owner) (name : String)
  | getText (owner : Owner) (name : String)
  | getTextWithin (owner : Owner) (name : String) (capacity : Nat)
  | setProperty (owner : Owner) (name : String) (value : Int32)
  | setText (owner : Owner) (name value : String)

/-- The session after a step that may have failed. -/
def step (s : Session) : Step → Session
  | .move m => s.move m
  | .getProperty owner name => (s.getProperty owner name).2
  | .getText owner name => (s.getText owner name).2
  | .getTextWithin owner name capacity => (s.getTextWithin owner name capacity).2
  | .setProperty owner name value => (s.setProperty owner name value).2
  | .setText owner name value => (s.setText owner name value).2

def steps (s : Session) (l : List Step) : Session := l.foldl step s

/-- What has been done to the texts of a session. -/
inductive Event where
  | set (owner : Owner) (name text : String)
  | entered (room : Room)
  | left

/-- What a step does to texts, if it succeeds. -/
def event? (s : Session) : Step → Option Event
  | .move (.enter number room) =>
    (s.enterRoom number room).1.toOption.map fun _ => .entered room
  | .move .leave => some .left
  | .setProperty owner name value =>
    (s.setProperty owner name value).1.toOption.map fun _ => .set owner name (toString value.toInt)
  | .setText owner name value =>
    (s.setText owner name value).1.toOption.map fun _ => .set owner name value
  | .getProperty .. | .getText .. | .getTextWithin .. => none

/-- What steps do to texts, the latest first. -/
def past (s : Session) : List Step → List Event
  | [] => []
  | first :: rest => past (s.step first) rest ++ (s.event? first).toList

/-! ## What the past says -/

/-- The text that a property was set to last, in the time of its owner. -/
def lastSet? (owner : Owner) (name : String) : List Event → Option String
  | [] => none
  | .set other spelling text :: before =>
    if other = owner ∧ Text.fold spelling = Text.fold name then some text
    else lastSet? owner name before
  | .entered _ :: before => if owner.ofRoom then none else lastSet? owner name before
  | .left :: before => if owner.ofRoom then none else lastSet? owner name before

/-- The room that has been entered and not left. -/
def currentRoom? : List Event → Option Room
  | [] => none
  | .set _ _ _ :: before => currentRoom? before
  | .entered room :: _ => some room
  | .left :: _ => none

/-- The text of a property: what it was set to last, else what the author gave, else the default. -/
def textAfter (past : List Event) (authored : PropertyMap) (owner : Owner) (name default : String) :
    String :=
  ((lastSet? owner name past).or (authored.text? name)).getD default

variable {s t a : Session} {owner other : Owner} {name : String} {l : Layers}

theorem lastSet?_congr {spelling : String} (same : Text.fold spelling = Text.fold name)
    (past : List Event) : lastSet? owner spelling past = lastSet? owner name past := by
  induction past with
  | nil => rfl
  | cons e before hyp =>
    cases e with
    | set other n text => simp only [lastSet?, same, hyp]
    | entered room => simp only [lastSet?, hyp]
    | left => simp only [lastSet?, hyp]

/-! ## The invariant -/

/-- Whether what a session `t` holds is what its past since `a` says. -/
structure Follows (a : Session) (past : List Event) (t : Session) : Prop where
  game_eq : t.game = a.game
  config_eq : t.config = a.config
  coherent : t.registry.Coherent
  room_eq : (currentRoom? past).map a.fitRoom = t.room.map fun current => .ok current.data
  authored_eq : ∀ owner,
    (t.layers? owner).map (·.authored) = authored? a.game (currentRoom? past) owner
  overrides_eq : ∀ {owner l}, t.layers? owner = some l →
    ∀ name, l.overrides.text? name = lastSet? owner name past

theorem Vacant.follows {g : Game} (vacant : a.Vacant g) (coherent : a.registry.Coherent) :
    Follows a [] a where
  game_eq := rfl
  config_eq := rfl
  coherent := coherent
  room_eq := by rw [vacant.room]; rfl
  authored_eq owner := by
    rw [vacant.layers?, Option.map_map]
    exact Option.map_id'
  overrides_eq := by
    intro owner l there name
    rw [vacant.layers?] at there
    obtain ⟨texts, -, rfl⟩ := Option.map_eq_some_iff.mp there
    exact PropertyMap.text?_empty name

variable {past : List Event}

/-- Messages are no texts of properties. -/
theorem Follows.withErrors (follows : Follows a past t) (errors : List String) :
    Follows a past { t with errors } :=
  ⟨follows.game_eq, follows.config_eq, follows.coherent, follows.room_eq, follows.authored_eq,
    follows.overrides_eq⟩

theorem Follows.ask {α : Type} (follows : Follows a past t) (owner : Owner)
    (ask : Layers → Except Property.Fault α) : Follows a past (t.askProperty owner ask).2 := by
  obtain ⟨errors, same⟩ := askProperty_snd t owner ask
  exact same ▸ follows.withErrors errors

/-- A set changes the texts of one owner under one name. -/
theorem Follows.withOverrides (follows : Follows a past t) (there : t.layers? owner = some l)
    {spelling : String} (same : Text.fold spelling = Text.fold name) (text : String) :
    Follows a (.set owner name text :: past)
      (t.withOverrides (l.overrides.set spelling text) owner) := by
  obtain ⟨game, config, registry⟩ := game_withOverrides t (l.overrides.set spelling text) owner
  have own := layers?_withOverrides_self t (l.overrides.set spelling text) owner
  rw [there] at own
  refine ⟨game.trans follows.game_eq, config.trans follows.config_eq,
    registry ▸ follows.coherent, ?_, ?_, ?_⟩
  · have data := congrArg (Option.map (Except.ok (ε := EnterFault)))
      (data_withOverrides t (l.overrides.set spelling text) owner)
    rw [Option.map_map, Option.map_map] at data
    exact follows.room_eq.trans data.symm
  · intro other
    refine Eq.trans ?_ (follows.authored_eq other)
    by_cases different : owner = other
    · subst different
      rw [own, there]
      rfl
    · rw [layers?_withOverrides_ne different]
  · intro other m changed n
    rw [lastSet?]
    by_cases different : owner = other
    · subst different
      obtain rfl := Option.some.inj (own.symm.trans changed)
      rw [PropertyMap.text?_set, same, follows.overrides_eq there]
      simp only [true_and]
    · rw [layers?_withOverrides_ne different] at changed
      rw [if_neg fun both => different both.1, follows.overrides_eq changed]

theorem Follows.setTo (follows : Follows a past t) (wanted : Kind) (owner : Owner)
    (name text : String) : Follows a
      (((t.setTo wanted owner name text).1.toOption.map fun _ => Event.set owner name text).toList
        ++ past) (t.setTo wanted owner name text).2 := by
  rcases setTo_cases t wanted owner name text with ⟨l, d, there, resolved, set⟩ | ⟨fault, failed⟩
  · rw [set]
    have declared := (Property.resolve_eq_ok resolved).1
    exact follows.withOverrides there (Property.fold_name_of_get? declared) text
  · rw [failed]
    exact follows.withErrors _

/-- Leaving a room ends its owners, and no others. -/
theorem Follows.leaveRoom (follows : Follows a past t) : Follows a (.left :: past) t.leaveRoom := by
  obtain ⟨game, config, runtime⟩ := leaveRoom_kept t
  refine ⟨game.trans follows.game_eq, config.trans follows.config_eq, ?_, ?_, ?_, ?_⟩
  · rw [leaveRoom_registry]
    exact follows.coherent.withSymbols _
  · rw [leaveRoom_room]
    rfl
  · intro owner
    cases ofRoom : owner.ofRoom with
    | true =>
      rw [layers?_outside t.leaveRoom_room ofRoom, currentRoom?, authored?_outside _ ofRoom]
      rfl
    | false =>
      rw [layers?_of_not_ofRoom ofRoom game runtime, follows.authored_eq]
      exact authored?_of_not_ofRoom ofRoom ..
  · intro owner l there name
    cases ofRoom : owner.ofRoom with
    | true =>
      rw [layers?_outside t.leaveRoom_room ofRoom] at there
      cases there
    | false =>
      rw [layers?_of_not_ofRoom ofRoom game runtime] at there
      rw [lastSet?, ofRoom, follows.overrides_eq there]
      rfl

/-- Entering a room begins its owners anew, if it succeeds. -/
theorem Follows.enterRoom (follows : Follows a past t) (number : Int32) (room : Room) : Follows a
    (((t.enterRoom number room).1.toOption.map fun _ => Event.entered room).toList ++ past)
    (t.enterRoom number room).2 := by
  rcases enterRoom_cases follows.coherent number room with
    ⟨fault, -, failed⟩ | ⟨entry, symbols, prepared, -, succeeded⟩
  · rw [failed]
    exact follows
  · rw [succeeded]
    obtain ⟨game, config, runtime⟩ := leaveRoom_kept t
    obtain ⟨-, fits, -⟩ := prepareEntry_eq_ok prepared
    have texts := sameTexts_fitRoom fits
    rw [fitRoom_congr follows.game_eq follows.config_eq] at fits
    let u := ({ t.leaveRoom with registry := { t.registry with symbols } }).settle number entry
    have lasting {owner : Owner} (lasting : owner.ofRoom = false) :
        u.layers? owner = t.layers? owner := layers?_of_not_ofRoom lasting game runtime
    have begun {owner : Owner} (ofRoom : owner.ofRoom = true) :
        u.layers? owner = (authored? a.game (some room) owner).map ({ authored := · }) := by
      rw [layers?_entered (t := u) rfl rfl ofRoom, texts.authored?_eq]
      exact congrArg (fun g => (authored? g (some room) owner).map _)
        (game.trans follows.game_eq)
    -- owners of the game keep what was set; those of the room have nothing set yet
    refine ⟨game.trans follows.game_eq, config.trans follows.config_eq,
      follows.coherent.withSymbols symbols, congrArg some fits, ?_, ?_⟩
    · intro owner
      show (u.layers? owner).map _ = authored? a.game (some room) owner
      cases ofRoom : owner.ofRoom with
      | true =>
        rw [begun ofRoom, Option.map_map]
        exact Option.map_id'
      | false =>
        rw [lasting ofRoom, follows.authored_eq]
        exact authored?_of_not_ofRoom ofRoom ..
    · intro owner l there name
      change u.layers? owner = some l at there
      show _ = lastSet? owner name (.entered room :: past)
      cases ofRoom : owner.ofRoom with
      | true =>
        rw [begun ofRoom] at there
        obtain ⟨given, -, rfl⟩ := Option.map_eq_some_iff.mp there
        rw [lastSet?, ofRoom]
        exact PropertyMap.text?_empty name
      | false =>
        rw [lasting ofRoom] at there
        rw [lastSet?, ofRoom, follows.overrides_eq there]
        rfl

/-! ## Runs -/

theorem Follows.step (follows : Follows a past t) (first : Step) :
    Follows a ((t.event? first).toList ++ past) (t.step first) := by
  cases first with
  | move m =>
    cases m with
    | enter number room => exact follows.enterRoom number room
    | leave => exact follows.leaveRoom
  | getProperty owner name => exact follows.ask owner _
  | getText owner name => exact follows.ask owner _
  | getTextWithin owner name capacity => exact follows.ask owner _
  | setProperty owner name value => exact follows.setTo .integer owner name (toString value.toInt)
  | setText owner name value => exact follows.setTo .string owner name value

theorem Follows.steps (follows : Follows a past t) (l : List Step) :
    Follows a (t.past l ++ past) (t.steps l) := by
  induction l generalizing t past with
  | nil => exact follows
  | cons first rest hyp =>
    have later := hyp (follows.step first)
    rw [← List.append_assoc] at later
    exact later

/-! ## What a session recalls -/

/-- What a session that has come from `a`, the start of the game `g`, says about properties: it
reads what its past says, what is set is read and nothing else changes, and what authors have
written is what it was. -/
structure Recalls (g : Game) (a : Session) (past : List Event) (t : Session) : Prop where
  /-- Owners are those that authors have made. -/
  isSome_layers : ∀ owner,
    (t.layers? owner).isSome = (authored? g (currentRoom? past) owner).isSome
  reads : ∀ {owner authored name spelling d},
    authored? g (currentRoom? past) owner = some authored → g.schema.get? name = some d →
    Text.fold spelling = Text.fold name →
    Reads t owner spelling d (textAfter past authored owner name d.default)
  /-- A number that has been set is read. -/
  getProperty_setProperty : ∀ {owner authored name spelling d},
    authored? g (currentRoom? past) owner = some authored → g.schema.get? name = some d →
    d.kind.isText = false → Text.fold spelling = Text.fold name → ∀ value,
      (t.setProperty owner name value).1 = .ok () ∧
      ((t.setProperty owner name value).2.getProperty owner spelling).1 = .ok value
  /-- What is set for one property is not read for another. -/
  answers_set : ∀ {owner other name spelling},
    owner ≠ other ∨ Text.fold name ≠ Text.fold spelling → ∀ value text,
      (t.setProperty owner name value).2.answers other spelling = t.answers other spelling ∧
      (t.setText owner name text).2.answers other spelling = t.answers other spelling
  cast : Enrolment.SameCast g a.game
  game_eq : t.game = a.game
  room_eq : (currentRoom? past).map a.fitRoom = t.room.map fun current => .ok current.data

theorem Follows.reads (follows : Follows a past t) {authored : PropertyMap} {spelling : String}
    {d : Declaration} (given : authored? a.game (currentRoom? past) owner = some authored)
    (declared : a.game.schema.get? name = some d) (same : Text.fold spelling = Text.fold name) :
    Reads t owner spelling d (textAfter past authored owner name d.default) := by
  rw [← follows.authored_eq] at given
  obtain ⟨l, there, rfl⟩ := Option.map_eq_some_iff.mp given
  have found : t.game.schema.get? spelling = some d := by
    rw [follows.game_eq, NameTable.get?_congr _ same, declared]
  have spelt := Property.fold_name_of_get? declared
  have value : textAfter past l.authored owner name d.default = l.valueOf d := by
    rw [textAfter, Layers.valueOf, Layers.value, follows.overrides_eq there,
      lastSet?_congr spelt, l.authored.text?_congr spelt]
  rw [value]
  exact reads_valueOf there found

theorem Follows.getProperty_setProperty (follows : Follows a past t) {authored : PropertyMap}
    {spelling : String} {d : Declaration}
    (given : authored? a.game (currentRoom? past) owner = some authored)
    (declared : a.game.schema.get? name = some d) (number : d.kind.isText = false)
    (same : Text.fold spelling = Text.fold name) (value : Int32) :
    (t.setProperty owner name value).1 = .ok () ∧
      ((t.setProperty owner name value).2.getProperty owner spelling).1 = .ok value := by
  have there := given
  rw [← follows.authored_eq] at there
  obtain ⟨l, there, -⟩ := Option.map_eq_some_iff.mp there
  have resolved : t.game.schema.resolve name .integer = .ok d := by
    rw [follows.game_eq]
    exact Property.resolve_of_get? declared number
  have set := setTo_eq_ok there resolved (toString value.toInt)
  have after := follows.setTo .integer owner name (toString value.toInt)
  rw [set] at after
  refine ⟨congrArg Prod.fst set, ?_⟩
  -- the last event of the past is the one that has just happened
  rw [setProperty_eq_setTo, set, (after.reads given declared same).ofNumber number]
  simp only [textAfter, Except.toOption, Option.map_some, Option.toList_some, List.cons_append,
    lastSet?, and_self, if_true, Option.some_or, Option.getD_some,
    Property.leadingInteger_toString]

theorem Follows.recalls (follows : Follows a past t) {g : Game}
    (cast : Enrolment.SameCast g a.game) : Recalls g a past t where
  isSome_layers owner := by
    rw [← authored?_congr cast, ← follows.authored_eq, Option.isSome_map]
  reads given declared same := by
    rw [← authored?_congr cast] at given
    rw [← cast.schema] at declared
    exact follows.reads given declared same
  getProperty_setProperty given declared number same value := by
    rw [← authored?_congr cast] at given
    rw [← cast.schema] at declared
    exact follows.getProperty_setProperty given declared number same value
  answers_set different value text := by
    rw [setProperty_eq_setTo, setText_eq_setTo]
    exact ⟨answers_setTo different t .integer _, answers_setTo different t .string _⟩
  cast := cast
  game_eq := follows.game_eq
  room_eq := follows.room_eq

/-- After a start, a session recalls what any steps have done to properties. -/
theorem recalls_steps {images : List Bytes} {b : Bundle} {accepts : Font.Request → Bool}
    {a : Attempt} (reached : Reached s images) (started : s.start b accepts {} = (.ok (), a))
    (l : List Step) :
    Recalls b.game a.session (a.session.past l) (a.session.steps l) := by
  obtain ⟨vacant, coherent⟩ := reached.started started
  have follows := (vacant.follows coherent).steps l
  rw [List.append_nil] at follows
  exact follows.recalls vacant.cast

def weight : Declaration := { name := "Weight", kind := .integer, default := "0x46" }

def weighed : Bundle where
  game := {
    fonts := [{}]
    characters := [{ scriptName := "cEgo" }]
    schema := .ofList [weight] }

theorem start_weighed : ∃ a, (Session.new {}).start weighed (fun _ => true) {} = (.ok (), a) :=
  start_succeeds rfl (by decide +kernel) (by decide) rfl (fun _ => rfl) rfl

theorem enterRoom_weighed {a : Attempt}
    (started : (Session.new {}).start weighed (fun _ => true) {} = (.ok (), a)) (l : List Deed)
    (number : Int32) : ((a.session.deeds l).enterRoom number {}).1 = .ok () := by
  have counted : (a.session.deeds l).game.isHires?.isSome = true := by
    rw [(sameGrounds_deeds (savable_start started) l).isHires, game, (lists_start started).2.1]
    rfl
  exact (hosting_deeds started l).enterRoom_ok_iff.mpr (enterable_of_plain counted rfl rfl rfl rfl)

theorem event?_setProperty {value : Int32} (done : (s.setProperty owner name value).1 = .ok ()) :
    s.event? (.setProperty owner name value) = some (.set owner name (toString value.toInt)) := by
  rw [event?, done]
  rfl

theorem event?_enter {number : Int32} {room : Room}
    (entered : (s.enterRoom number room).1 = .ok ()) :
    s.event? (.move (.enter number room)) = some (.entered room) := by
  rw [event?, entered]
  rfl

/-- A weight is given to a character and to a room, which is left for another one. -/
def weighing : List Step := [
  .setProperty (.character 0) "weight" 5, .move (.enter 1 {}), .setProperty .room "weight" 9,
  .move (.enter 2 {}), .getProperty .room "WEIGHT"]

theorem declared_weight : weighed.game.schema.get? "weight" = some weight := by
  have spelt : Text.fold weight.name = Text.fold "weight" := by
    simp [weight, Text.fold, ← String.toList_inj]
  exact (NameTable.get?_put ∅ weight "weight").trans (if_pos spelt)

theorem authored?_ego (room : Option Room) :
    authored? weighed.game room (.character 0) = some ∅ := rfl

theorem authored?_blank : authored? weighed.game (some {}) .room = some ∅ := rfl

/-- Both weights are set, and both rooms are entered. -/
theorem past_weighing {a : Attempt}
    (started : (Session.new {}).start weighed (fun _ => true) {} = (.ok (), a))
    (recalls : ∀ l, Recalls weighed.game a.session (a.session.past l) (a.session.steps l)) :
    a.session.past weighing = [.entered {}, .set .room "weight" "9", .entered {},
      .set (.character 0) "weight" "5"] := by
  have first : a.session.event? (.setProperty (.character 0) "weight" 5) =
      some (.set (.character 0) "weight" "5") :=
    event?_setProperty
      ((recalls []).getProperty_setProperty (authored?_ego _) declared_weight rfl rfl 5).1
  let s₁ := a.session.step (.setProperty (.character 0) "weight" 5)
  have second : s₁.event? (.move (.enter 1 {})) = some (.entered {}) :=
    event?_enter (enterRoom_weighed started [.call (.setProperty (.character 0) "weight" 5)] 1)
  let s₂ := s₁.step (.move (.enter 1 {}))
  have half : a.session.past [.setProperty (.character 0) "weight" 5, .move (.enter 1 {})] =
      [.entered {}, .set (.character 0) "weight" "5"] := by
    show ([] ++ (s₁.event? (.move (.enter 1 {}))).toList) ++ _ = _
    rw [first, second]
    rfl
  have third : s₂.event? (.setProperty .room "weight" 9) = some (.set .room "weight" "9") := by
    have now := recalls [.setProperty (.character 0) "weight" 5, .move (.enter 1 {})]
    rw [half] at now
    exact event?_setProperty
      (now.getProperty_setProperty authored?_blank declared_weight rfl rfl 9).1
  let s₃ := s₂.step (.setProperty .room "weight" 9)
  have fourth : s₃.event? (.move (.enter 2 {})) = some (.entered {}) :=
    event?_enter (enterRoom_weighed started [.call (.setProperty (.character 0) "weight" 5),
      .move (.enter 1 {}), .call (.setProperty .room "weight" 9)] 2)
  show (([] ++ (s₃.event? (.move (.enter 2 {}))).toList) ++
    (s₂.event? (.setProperty .room "weight" 9)).toList ++
    (s₁.event? (.move (.enter 1 {}))).toList) ++ _ = _
  rw [first, second, third, fourth]
  rfl

/-- The character keeps its weight, and the other room has the default. -/
theorem recalls_weighed : ∃ a, (Session.new {}).start weighed (fun _ => true) {} = (.ok (), a) ∧
    let t := a.session.steps weighing
    (t.getProperty (.character 0) "WEIGHT").1 = .ok 5 ∧ (t.getProperty .room "WEIGHT").1 = .ok 70 ∧
      ∀ value, ((t.setProperty .room "weight" value).2.getProperty .room "WEIGHT").1 =
        .ok value := by
  obtain ⟨a, started⟩ := start_weighed
  refine ⟨a, started, ?_⟩
  intro t
  have recalls (l : List Step) := recalls_steps (.new {}) started l
  have same : Text.fold "WEIGHT" = Text.fold "weight" := by
    simp [Text.fold, ← String.toList_inj]
  have now := recalls weighing
  rw [past_weighing started recalls] at now
  refine ⟨?_, ?_, fun value => ?_⟩
  · have kept := (now.reads (authored?_ego _) declared_weight same).ofNumber rfl
    have last : textAfter [.entered {}, .set .room "weight" "9", .entered {},
        .set (.character 0) "weight" "5"] ∅ (.character 0) "weight" weight.default = "5" := by
      simp [textAfter, lastSet?, Owner.ofRoom]
    rw [last] at kept
    exact kept
  · have fresh := (now.reads authored?_blank declared_weight same).ofNumber rfl
    have last : textAfter [.entered {}, .set .room "weight" "9", .entered {},
        .set (.character 0) "weight" "5"] ∅ .room "weight" weight.default = "0x46" := by
      rw [textAfter, PropertyMap.text?_empty]
      rfl
    have number : Property.leadingInteger "0x46" = 70 := by decide +kernel
    rwa [last, number] at fresh
  · exact (now.getProperty_setProperty authored?_blank declared_weight rfl same value).2

end Adventure.Session
