import Adventure.Proofs.Script.LinkOrder
import Adventure.Proofs.Session.Deeds
import Adventure.Proofs.Session.Registered

/-! # What decides about an entry

Which rooms can be entered is decided by the settings, the game, the handles of its entities, the
names that no room has bound and the scripts of the game. These are the grounds of a session. No
deed changes them, and so an entry comes out as it would have right after the start.

* `SameGrounds` — two sessions on the same grounds.
* `sameGrounds_deeds` — deeds change no grounds.
* `SameGrounds.enterRoom_eq` — the same entries end well on the same grounds.
-/

namespace Adventure.Session

open Registry (Live)

/-- The symbols without the names of the current room. -/
def outside (s : Session) : SymbolTable := s.boundNames.foldl .unbind s.registry.symbols

/-- Whether two sessions agree in all that entries are decided by. -/
structure SameGrounds (a t : Session) : Prop where
  phase : t.phase = a.phase
  config : t.config = a.config
  uniqueId : t.game.uniqueId = a.game.uniqueId
  isHires : t.game.isHires? = a.game.isHires?
  scripts : t.scripts.withRoom none = a.scripts.withRoom none
  outside : t.outside = a.outside
  entities : ∀ handle e type, t.registry.resolve handle = .ok (.static e, type) ↔
    a.registry.resolve handle = .ok (.static e, type)

variable {s t a : Session} {word : Option StoredWord}

theorem SameGrounds.refl (s : Session) : s.SameGrounds s :=
  ⟨rfl, rfl, rfl, rfl, rfl, rfl, fun _ _ _ => .rfl⟩

theorem SameGrounds.trans (first : a.SameGrounds s) (second : s.SameGrounds t) :
    a.SameGrounds t where
  phase := second.phase.trans first.phase
  config := second.config.trans first.config
  uniqueId := second.uniqueId.trans first.uniqueId
  isHires := second.isHires.trans first.isHires
  scripts := second.scripts.trans first.scripts
  outside := second.outside.trans first.outside
  entities handle e type := (second.entities handle e type).trans (first.entities handle e type)

/-! ## Deeds -/

theorem boundNames_modifyStatus (s : Session) (change : RoomStatus → RoomStatus) :
    (s.modifyStatus change).boundNames = s.boundNames := by
  unfold modifyStatus boundNames
  cases s.room with
  | none => rfl
  | some current => rfl

theorem sameGrounds_withOverrides (s : Session) (m : PropertyMap) (owner : Owner) :
    s.SameGrounds (s.withOverrides m owner) := by
  have status : ∀ change, s.SameGrounds (s.modifyStatus change) := by
    intro change
    have outside : (s.modifyStatus change).outside = s.outside := by
      rw [Session.outside, boundNames_modifyStatus]
      rfl
    exact ⟨rfl, rfl, rfl, rfl, rfl, outside, fun _ _ _ => .rfl⟩
  unfold withOverrides
  cases owner with
  | character i => exact ⟨rfl, rfl, rfl, rfl, rfl, rfl, fun _ _ _ => .rfl⟩
  | inventory i => exact ⟨rfl, rfl, rfl, rfl, rfl, rfl, fun _ _ _ => .rfl⟩
  | hotspot i => exact status _
  | object i => exact status _
  | region i => exact status _
  | room => exact status _

theorem resolve_withReferences {r : Registry} {handle : Handle} {l : Live}
    (live : r.live handle = .ok l) (references : Nat) (other : Handle) :
    (r.withReferences handle l references).resolve other = r.resolve other := by
  by_cases same : handle = other
  · subst same
    rw [Registry.resolve_of_live (Registry.live_withReferences ..), Registry.resolve_of_live live]
  · refine Registry.resolve_congr (Registry.live_congr ?_)
    rw [Registry.entries_withReferences, if_neg same]

theorem resolve_forget (r : Registry) (handle : Handle) (l : Live) (other : Handle) :
    (r.forget handle l).resolve other =
      if handle = other then .error (.staleHandle other) else r.resolve other := by
  split
  · next same =>
    subst same
    have released : (r.forget handle l).state handle = .released := by
      rw [Registry.state, Registry.entries_forget, if_pos rfl]
    exact Registry.resolve_of_gone (Registry.live_eq_error_of_released released)
  · next differs =>
    refine Registry.resolve_congr (Registry.live_congr ?_)
    rw [Registry.entries_forget, if_neg differs]

theorem sameGrounds_leaveRoom (s : Session) : s.SameGrounds s.leaveRoom := by
  have kept : s.leaveRoom.phase = s.phase ∧ s.leaveRoom.config = s.config ∧
      s.leaveRoom.game = s.game := by
    rw [leaveRoom_eq]
    exact ⟨rfl, rfl, rfl⟩
  have scripts : s.leaveRoom.scripts.withRoom none = s.scripts.withRoom none := by
    unfold leaveRoom
    cases s.room with
    | none => rfl
    | some current => rfl
  have outside : s.leaveRoom.outside = s.outside := by
    rw [Session.outside, leaveRoom_boundNames, leaveRoom_registry]
    rfl
  obtain ⟨phase, config, game⟩ := kept
  refine ⟨phase, config, by rw [game], by rw [game], scripts, outside, ?_⟩
  intro handle e type
  rw [leaveRoom_registry]
  rfl

/-- Freeing the names of a room gives back the symbols that they were bound among. -/
theorem sameGrounds_settle {number : Int32} {entry : Entry} {symbols : SymbolTable}
    (rehearsed : rehearse s.registry.symbols s.boundNames entry.names = .ok symbols) :
    s.SameGrounds
      ({ s.leaveRoom with registry := { s.registry with symbols } }.settle number entry) := by
  have left := sameGrounds_leaveRoom s
  have outside : (entry.names.map (·.name)).foldl .unbind symbols = s.outside :=
    SymbolTable.foldl_unbind_of_foldlM_bind rehearsed
  exact ⟨left.phase, left.config, left.uniqueId, left.isHires, left.scripts, outside,
    fun _ _ _ => .rfl⟩

theorem Effect.sameGrounds (effect : s.Effect word t) : s.SameGrounds t := by
  cases effect with
  | noted errors => exact ⟨rfl, rfl, rfl, rfl, rfl, rfl, fun _ _ _ => .rfl⟩
  | set m owner => exact sameGrounds_withOverrides s m owner
  | wrote wrote =>
    obtain ⟨uniqueId, isHires⟩ := World.write_game wrote
    exact ⟨rfl, rfl, uniqueId, isHires, rfl, rfl, fun _ _ _ => .rfl⟩
  | counted live small =>
    refine ⟨rfl, rfl, rfl, rfl, rfl, rfl, fun other e type => ?_⟩
    rw [resolve_withReferences live]
  | @disposed handle l key live target =>
    refine ⟨rfl, rfl, rfl, rfl, rfl, rfl, fun other e type => ?_⟩
    rw [resolve_forget]
    split
    · next same =>
      -- what was there was no entity
      subst same
      rw [Registry.resolve_of_live live]
      simp [target]
    · exact .rfl
  | left => exact sameGrounds_leaveRoom s
  | entered prepared rehearsed => exact sameGrounds_settle rehearsed

theorem sameGrounds_deeds (savable : s.store.Savable) (l : List Deed) :
    s.SameGrounds (s.deeds l) :=
  rel_deeds .refl .trans Effect.sameGrounds savable.coherent l

/-! ## Entries -/

theorem SameGrounds.fitRoom_eq (same : a.SameGrounds t) (room : Room) :
    t.fitRoom room = a.fitRoom room := by
  unfold fitRoom
  rw [same.config, same.uniqueId, same.isHires]

theorem SameGrounds.roomNames_eq (same : a.SameGrounds t) (coherent : a.registry.Coherent)
    (also : t.registry.Coherent) (room : Room) :
    roomNames t.registry room = roomNames a.registry room := by
  have handles (e : Entity) :
      t.registry.handleFor (.static e) e.type = a.registry.handleFor (.static e) e.type := by
    apply Option.ext
    intro handle
    rw [also.handleFor_iff_resolve, coherent.handleFor_iff_resolve, same.entities]
  unfold roomNames roomName
  simp only [handles]

theorem SameGrounds.linkRoomScript_eq (same : a.SameGrounds t) (symbols : SymbolTable)
    (room : Room) (number : Int32) :
    t.linkRoomScript symbols room number = a.linkRoomScript symbols room number := by
  have exported : t.scripts.exported = a.scripts.exported := by
    show (t.scripts.withRoom none).exported = _
    rw [same.scripts]
    rfl
  unfold linkRoomScript
  simp only [Script.Linkage.linkRoom, Script.Linkage.link, Script.Linkage.missingImport?, exported]

theorem rehearse_eq (s : Session) (names : List RoomName) :
    rehearse s.registry.symbols s.boundNames names =
      names.foldlM (fun t n => t.bind n.name (.object n.handle n.type)) s.outside := rfl

theorem SameGrounds.prepareEntry_eq (same : a.SameGrounds t) (coherent : a.registry.Coherent)
    (also : t.registry.Coherent) (number : Int32) (room : Room) :
    t.prepareEntry number room = a.prepareEntry number room := by
  have ready : t.isReady = a.isReady := by rw [isReady, isReady, same.phase]
  simp only [prepareEntry, ready, same.fitRoom_eq, same.roomNames_eq coherent also, rehearse_eq,
    same.outside, same.linkRoomScript_eq]

/-- An entry ends as its preparation does. -/
theorem enterRoom_fst (coherent : s.registry.Coherent) (number : Int32) (room : Room) :
    (s.enterRoom number room).1 = (s.prepareEntry number room).map fun _ => () := by
  rcases enterRoom_cases coherent number room with
    ⟨fault, prepared, failed⟩ | ⟨entry, symbols, prepared, -, succeeded⟩
  · rw [failed, prepared]
    rfl
  · rw [succeeded, prepared]
    rfl

theorem SameGrounds.enterRoom_eq (same : a.SameGrounds t) (coherent : a.registry.Coherent)
    (also : t.registry.Coherent) (number : Int32) (room : Room) :
    (t.enterRoom number room).1 = (a.enterRoom number room).1 := by
  rw [enterRoom_fst also, enterRoom_fst coherent, same.prepareEntry_eq coherent also]

/-! ## Started games -/

section Started

variable {config : Config} {b : Bundle} {accepts accepts' : Font.Request → Bool} {c d : Attempt}

theorem runStages_append_eq_ok {front back : List Stage} {x z : Attempt} :
    runStages (front ++ back) x = (.ok (), z) ↔
      ∃ y, runStages front x = (.ok (), y) ∧ runStages back y = (.ok (), z) := by
  induction front generalizing x with
  | nil => simp [runStages]
  | cons first rest hyp =>
    simp only [List.cons_append, runStages_eq_ok, hyp]
    constructor
    · rintro ⟨next, done, y, ran, ended⟩
      exact ⟨y, ⟨next, done, ran⟩, ended⟩
    · rintro ⟨y, ⟨next, done, ran⟩, ended⟩
      exact ⟨next, done, y, ran, ended⟩

theorem load_eq_of_none {requests : List Font.Request}
    (all : (Font.load accepts requests).2 = none) : (Font.load accepts requests).1 = requests := by
  induction requests with
  | nil => rfl
  | cons first rest hyp =>
    simp only [Font.load] at all ⊢
    split at all
    · next accepted => rw [if_pos accepted, hyp all]
    · cases all

/-- Whoever provides the fonts, the same are asked for. -/
theorem fontStage_eq_ok {x y : Attempt} (loaded : fontStage accepts x = (.ok (), y)) :
    ∃ requests, Font.requests? x.session.game = some requests ∧
      y = { x with asked := requests } := by
  unfold fontStage at loaded
  split at loaded
  · cases (Prod.mk.inj loaded).1
  · next requests wanted =>
    obtain ⟨none, rfl⟩ := Prod.mk.inj loaded
    refine ⟨requests, wanted, ?_⟩
    cases refused : (Font.load accepts requests).2 with
    | none => rw [load_eq_of_none refused]
    | some slot => rw [refused] at none; cases none

/-- The stages before fonts are loaded. -/
def stagesBeforeFonts (b : Bundle) : List Stage :=
  [checkStage b, stage (allocate b), enrolStage fun s => Enrolment.ofGame s.game,
    stage noteSurface]

def stagesAfterFonts (b : Bundle) : List Stage :=
  [enrolStage fun _ => engineExports, scriptStage b, stage beginPlay, enlistStage b {},
    pluginStage]

theorem stages_eq (b : Bundle) (accepts : Font.Request → Bool) :
    stages b accepts {} = stagesBeforeFonts b ++ fontStage accepts :: stagesAfterFonts b := rfl

/-- A start that succeeds has one outcome. -/
theorem start_unique (one : s.start b accepts {} = (.ok (), c))
    (other : s.start b accepts' {} = (.ok (), d)) : c = d := by
  unfold start at one other
  split at one
  · next empty =>
    rw [if_pos empty] at other
    cases ran : runStages (stages b accepts {}) { session := s } with
    | mk result last =>
      cases also : runStages (stages b accepts' {}) { session := s } with
      | mk result' last' =>
        rw [ran] at one
        rw [also] at other
        obtain ⟨rfl, rfl⟩ := Prod.mk.inj one
        obtain ⟨rfl, rfl⟩ := Prod.mk.inj other
        -- the two rows of stages differ in one place, and do the same there
        rw [stages_eq] at ran also
        obtain ⟨x, prepared, ran⟩ := runStages_append_eq_ok.mp ran
        obtain ⟨x', prepared', also⟩ := runStages_append_eq_ok.mp also
        obtain rfl := (Prod.mk.inj (prepared.symm.trans prepared')).2
        obtain ⟨y, loaded, ran⟩ := runStages_eq_ok.mp ran
        obtain ⟨y', loaded', also⟩ := runStages_eq_ok.mp also
        obtain ⟨requests, wanted, rfl⟩ := fontStage_eq_ok loaded
        obtain ⟨also', again, rfl⟩ := fontStage_eq_ok loaded'
        obtain rfl := Option.some.inj (wanted.symm.trans again)
        obtain rfl := (Prod.mk.inj (ran.symm.trans also)).2
        rfl
  · cases (Prod.mk.inj one).1

theorem keeps_scripts {stage : Stage}
    (same : ∀ x, (stage x).2.session.scripts = x.session.scripts) :
    Keeps (·.scripts.Consistent) stage := by
  intro x consistent
  rwa [same]

theorem scripts_enrolStage (steps : Session → List Enrolment) (x : Attempt) :
    (enrolStage steps x).2.session.scripts = x.session.scripts := by
  simp only [enrolStage]

/-- What is known of exported symbols is what the scripts of the game export. -/
theorem consistent_scripts (started : (Session.new config).start b accepts {} = (.ok (), c)) :
    c.session.scripts.Consistent := by
  have kept : Keeps (·.scripts.Consistent) (runStages (stages b accepts {})) := by
    refine keeps_runStages ?_
    simp only [stages, List.forall_mem_cons, List.not_mem_nil, false_implies, implies_true,
      and_true]
    refine ⟨keeps_scripts fun _ => rfl, keeps_scripts fun _ => rfl,
      keeps_scripts (scripts_enrolStage _), keeps_scripts fun _ => rfl,
      keeps_scripts fun _ => congrArg _ (fontStage_session ..),
      keeps_scripts (scripts_enrolStage _), ?_,
      keeps_scripts fun _ => rfl, keeps_scripts fun _ => rfl, keeps_scripts fun _ => rfl⟩
    exact fun _ _ => Script.Linkage.consistent_bind _ _ _ _ _
  have after := kept { session := Session.new config }
    (Script.Linkage.consistent_start config.scriptTimeout)
  obtain ⟨-, rfl⟩ := Prod.mk.inj started
  exact after

/-- Right after a start, handles stand for what is there. -/
theorem savable_start (started : (Session.new config).start b accepts {} = (.ok (), c)) :
    c.session.store.Savable := by
  obtain ⟨lists, world, -⟩ := lists_start started
  have intact : (Session.new config).Intact :=
    ⟨Registry.coherent_empty, Registry.bounded_empty, rfl⟩
  have bounded := (intact_start intact b accepts).bounded
  rw [started] at bounded
  refine ⟨⟨lists.coherent, ?_, ?_⟩, ?_, bounded⟩
  · show c.session.world.dynamic.Sound
    rw [world]
    exact Arena.sound_empty.insert _
  · intro handle type key references entry
    obtain ⟨k, pair, -, here, same⟩ := lists.exists_place entry
    obtain ⟨rfl, target, -⟩ : type = pair.2 ∧ some (.dynamic key) = some pair.1 ∧ _ := by
      simpa [Registry.listedEntry] using same
    have listed := List.mem_of_getElem? here
    rw [← Prod.mk.eta (p := pair), ← Option.some.inj target] at listed
    obtain ⟨rfl, drawn⟩ := eq_of_dynamic_mem_roll listed
    have found : c.session.world.record? (.dynamic (Enrolment.surfaceKey {})) =
        some (.dynamic (.surface (.linked 0 0))) := by
      rw [world]
      exact surface_startedWorld _
    obtain ⟨o, there, same⟩ := Option.map_eq_some_iff.mp found
    obtain rfl := Record.dynamic.inj same
    exact ⟨_, there, drawn.symm⟩
  · show 1 ≤ c.session.registry.nextHandle
    rw [lists.nextHandle]
    exact Registry.one_le_handleAt _

end Started

end Adventure.Session
