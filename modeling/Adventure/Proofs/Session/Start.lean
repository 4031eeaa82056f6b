import Adventure.Proofs.Script.LinkOrder
import Adventure.Proofs.Session.Readied
import Adventure.Proofs.Session.Room

/-! # What a start keeps

A start is a row of stages: what every one of them keeps, the whole keeps, whether or not it fails
part way.

* `intact_start` — a start without plugins keeps handles and targets together.
* `vacant_start` — after it no room has left a trace, and no property has been set.
* `start_eq_ok_iff` — what a start needs; `start_succeeds` — a game without scripts needs no more
  than names of its own.
-/

namespace Adventure

/-! ## Stages -/

namespace Session

/-- Whether a stage keeps what holds of sessions, whether or not it fails. -/
def Keeps (P : Session → Prop) (stage : Stage) : Prop :=
  ∀ a, P a.session → P (stage a).2.session

theorem keeps_runStages {P : Session → Prop} {stages : List Stage}
    (each : ∀ stage ∈ stages, Keeps P stage) : Keeps P (runStages stages) := by
  induction stages with
  | nil => exact fun _ holds => holds
  | cons stage rest hyp =>
    intro a holds
    have after := each stage List.mem_cons_self a holds
    simp only [runStages]
    split
    · next failed => rw [failed] at after; exact after
    · next done =>
      rw [done] at after
      exact hyp (fun stage listed => each stage (List.mem_cons_of_mem _ listed)) _ after

theorem keeps_stage {P : Session → Prop} {change : Session → Session}
    (kept : ∀ s, P s → P (change s)) : Keeps P (stage change) :=
  fun a holds => kept a.session holds

theorem runStages_eq_ok {stage : Stage} {rest : List Stage} {a c : Attempt} :
    runStages (stage :: rest) a = (.ok (), c) ↔
      ∃ b, stage a = (.ok (), b) ∧ runStages rest b = (.ok (), c) := by
  simp only [runStages]
  cases stage a with
  | mk result b =>
    cases result with
    | error fault => simp
    | ok u => simp

theorem runStages_ok_iff {stage : Stage} {rest : List Stage} {a : Attempt} :
    (runStages (stage :: rest) a).1 = .ok () ↔
      (stage a).1 = .ok () ∧ (runStages rest (stage a).2).1 = .ok () := by
  simp only [runStages]
  cases stage a with
  | mk result b =>
    cases result with
    | error fault => simp
    | ok u => simp

theorem runStages_cons {stage : Stage} {a next : Attempt} (done : stage a = (.ok (), next))
    (rest : List Stage) : runStages (stage :: rest) a = runStages rest next := by
  simp only [runStages, done]

theorem runStages_stage (change : Session → Session) (rest : List Stage) (a : Attempt) :
    runStages (stage change :: rest) a =
      runStages rest { a with session := change a.session } := rfl

theorem enlistAll_empty (infos : List Plugin.Info) :
    Plugin.Host.enlistAll {} infos = (.ok (), {}) := by
  induction infos with
  | nil => rfl
  | cons info rest hyp => simpa [Plugin.Host.enlistAll] using hyp

theorem enlistStage_empty (b : Bundle) (a : Attempt) : enlistStage b {} a =
    (.ok (), { a with session := { a.session with plugins := {} } }) := by
  simp only [enlistStage, enlistAll_empty]

theorem pluginStage_of_nil {a : Attempt} (none : a.session.plugins.loaded = []) :
    pluginStage a = (.ok (), a) := by
  simp only [pluginStage, none, Plugin.Host.startAll]

/-! ## Phases -/

theorem start_of_ne_empty {s : Session} (busy : s.phase ≠ .empty) (b : Bundle)
    (accepts : Font.Request → Bool) (host : Plugin.Host) :
    s.start b accepts host = (.error .alreadyStarted, { session := s }) := by
  rw [start, if_neg busy]

theorem phase_start_eq {s : Session} (empty : s.phase = .empty) (b : Bundle)
    (accepts : Font.Request → Bool) (host : Plugin.Host) :
    (s.start b accepts host).2.session.phase = phaseAfter (s.start b accepts host).1 := by
  rw [start, if_pos empty]

/-- No start ends in the phase before it. -/
theorem phase_start_ne_empty (s : Session) (b : Bundle) (accepts : Font.Request → Bool)
    (host : Plugin.Host) : (s.start b accepts host).2.session.phase ≠ .empty := by
  by_cases empty : s.phase = .empty
  · rw [phase_start_eq empty]
    cases (s.start b accepts host).1 with
    | ok _ => exact nofun
    | error _ => exact nofun
  · rwa [start_of_ne_empty empty]

/-- A start succeeds only once. -/
theorem phases_of_start {s : Session} {b : Bundle} {accepts : Font.Request → Bool}
    {host : Plugin.Host} {a : Attempt} (started : s.start b accepts host = (.ok (), a)) :
    s.phase = .empty ∧ a.session.phase = .ready := by
  by_cases empty : s.phase = .empty
  · have after := phase_start_eq empty b accepts host
    rw [started] at after
    exact ⟨empty, after⟩
  · rw [start_of_ne_empty empty] at started
    cases (Prod.mk.inj started).1

theorem fontStage_session (accepts : Font.Request → Bool) (a : Attempt) :
    (fontStage accepts a).2.session = a.session := by
  unfold fontStage
  split <;> rfl

/-! ## Handles and targets -/

/-- What every session keeps that has no plugins. -/
structure Intact (s : Session) : Prop where
  coherent : s.registry.Coherent
  bounded : s.registry.Bounded
  noPlugins : s.plugins.loaded = []

theorem keeps_intact_stage {change : Session → Session}
    (registry : ∀ s, (change s).registry = s.registry)
    (plugins : ∀ s, (change s).plugins = s.plugins) : Keeps Intact (stage change) :=
  keeps_stage fun s intact =>
    ⟨registry s ▸ intact.coherent, registry s ▸ intact.bounded, plugins s ▸ intact.noPlugins⟩

theorem keeps_intact_enrolStage (steps : Session → List Enrolment) :
    Keeps Intact (enrolStage steps) :=
  fun a intact => ⟨Enrolment.kept_coherent.takeAll intact.coherent _ a.session.world,
    Enrolment.kept_bounded.takeAll intact.bounded _ a.session.world, intact.noPlugins⟩

theorem keeps_intact_fontStage (accepts : Font.Request → Bool) :
    Keeps Intact (fontStage accepts) := by
  intro a intact
  rwa [fontStage_session]

theorem keeps_intact_pluginStage : Keeps Intact pluginStage := by
  intro a intact
  rwa [pluginStage_of_nil intact.noPlugins]

theorem keeps_intact_enlistStage (b : Bundle) : Keeps Intact (enlistStage b {}) := by
  intro a intact
  rw [enlistStage_empty]
  exact ⟨intact.coherent, intact.bounded, rfl⟩

/-- A start without plugins keeps handles and targets together, whether or not it fails. -/
theorem intact_start {s : Session} (intact : s.Intact) (b : Bundle)
    (accepts : Font.Request → Bool) : (s.start b accepts {}).2.session.Intact := by
  unfold start
  split
  · have kept : Keeps Intact (runStages (stages b accepts {})) := by
      refine keeps_runStages ?_
      simp only [stages, List.forall_mem_cons, List.not_mem_nil, false_implies, implies_true,
        and_true]
      exact ⟨fun _ intact => intact, keeps_intact_stage (fun _ => rfl) fun _ => rfl,
        keeps_intact_enrolStage _, keeps_intact_stage (fun _ => rfl) fun _ => rfl,
        keeps_intact_fontStage accepts, keeps_intact_enrolStage _,
        fun _ intact => ⟨intact.coherent, intact.bounded, intact.noPlugins⟩,
        keeps_intact_stage (fun _ => rfl) fun _ => rfl,
        keeps_intact_enlistStage b, keeps_intact_pluginStage⟩
    have after := kept { session := s } intact
    exact ⟨after.coherent, after.bounded, after.noPlugins⟩
  · exact intact

/-! ## No trace of a room -/

open Script in
theorem linkAll_room {order : List (Kind × Module)} (symbols : SymbolTable) (l : Linkage)
    (noRoom : ∀ link ∈ order, ∀ number, link.1 ≠ .room number) :
    (l.linkAll symbols order).2.room = l.room := by
  induction order generalizing l with
  | nil => rfl
  | cons link rest hyp =>
    obtain ⟨kind, m⟩ := link
    simp only [Linkage.linkAll]
    cases linked : l.link symbols m kind with
    | error fault => rfl
    | ok s =>
      have ofKind : s.kind = kind := by
        unfold Linkage.link at linked
        split at linked
        · cases linked
        · exact (Except.ok.inj linked) ▸ rfl
      -- each script of a game has a place of its own, and none is the place of a room
      have installed : ((l.publish s).install s).room = l.room := by
        have other := noRoom (kind, m) List.mem_cons_self
        unfold Linkage.install
        rw [ofKind]
        cases kind with
        | global => rfl
        | dialog => rfl
        | auxiliary index => rfl
        | room number => exact absurd rfl (other number)
      have later := fun link listed => noRoom link (List.mem_cons_of_mem _ listed)
      exact (hyp ((l.publish s).install s) later).trans installed

open Script in
theorem bind_room (l : Linkage) (symbols : SymbolTable) (global dialog : Option Module)
    (auxiliary : List Module) : (l.bind symbols global dialog auxiliary).2.room = none := by
  have noRoom : ∀ link ∈ Linkage.linkOrder global dialog auxiliary, ∀ number,
      link.1 ≠ .room number := by
    intro link listed number
    simp only [Linkage.linkOrder, List.mem_append, List.mem_mapIdx, List.mem_map] at listed
    rcases listed with (⟨i, low, rfl⟩ | ⟨m, member, rfl⟩) | ⟨m, member, rfl⟩ <;> rintro ⟨⟩
  have linked := linkAll_room symbols l.cleared noRoom
  unfold Linkage.bind
  split
  · next failed => rw [failed] at linked; exact linked
  · next done => rw [done] at linked; exact linked

/-- Whether a session of a game has neither a room nor plugins, and no texts have been set in it. -/
structure Vacant (g : Game) (s : Session) : Prop extends Roomless s where
  noPlugins : s.plugins.loaded = []
  cast : Enrolment.SameCast g s.game
  characters : s.runtime.characterProperties = List.replicate g.characters.length ∅
  items : s.runtime.itemProperties = List.replicate g.inventory.length ∅

theorem sameCast_upscaled (g : Game) (wanted : Bool) :
    Enrolment.SameCast g (g.upscaled wanted) := by
  unfold Game.upscaled
  split
  · exact ⟨rfl, rfl, rfl, rfl, rfl⟩
  · exact .refl g

theorem vacant_allocate {s : Session} (noRoom : s.room = none) (noScript : s.scripts.room = none)
    (noPlugins : s.plugins.loaded = []) (b : Bundle) : (allocate b s).Vacant b.game where
  room := noRoom
  script := noScript
  objects := by simp [allocate, World.allocated, World.unboundSlots]
  noPlugins := noPlugins
  cast := sameCast_upscaled b.game s.config.overrideUpscale
  characters := by
    rw [← (sameCast_upscaled b.game s.config.overrideUpscale).characters]
    rfl
  items := by
    rw [← (sameCast_upscaled b.game s.config.overrideUpscale).inventory]
    rfl

theorem Vacant.of_sameSlots {s t : Session} {g : Game} (vacant : s.Vacant g)
    (room : t.room = s.room) (scripts : t.scripts = s.scripts) (plugins : t.plugins = s.plugins)
    (runtime : t.runtime = s.runtime) (slots : Enrolment.SameSlots s.world t.world) :
    t.Vacant g where
  room := room.trans vacant.room
  script := by rw [scripts, vacant.script]
  objects := by rw [slots.objects, ← vacant.objects]
  noPlugins := by rw [plugins, vacant.noPlugins]
  cast := vacant.cast.trans slots.cast
  characters := by rw [runtime, vacant.characters]
  items := by rw [runtime, vacant.items]

theorem keeps_vacant_enrolStage {g : Game} {steps : Session → List Enrolment}
    (each : ∀ s, ∀ step ∈ steps s, step.Spares) : Keeps (Vacant g) (enrolStage steps) :=
  fun a vacant => vacant.of_sameSlots rfl rfl rfl rfl
    (Enrolment.sameSlots_takeAll (each a.session) a.session.world a.session.registry)

theorem keeps_vacant_fontStage {g : Game} (accepts : Font.Request → Bool) :
    Keeps (Vacant g) (fontStage accepts) := by
  intro a vacant
  rwa [fontStage_session]

theorem keeps_vacant_scriptStage {g : Game} (b : Bundle) : Keeps (Vacant g) (scriptStage b) :=
  fun _ vacant => { vacant with script := bind_room .. }

theorem keeps_vacant_enlistStage {g : Game} (b : Bundle) : Keeps (Vacant g) (enlistStage b {}) := by
  intro a vacant
  rw [enlistStage_empty]
  exact { vacant with noPlugins := rfl }

theorem keeps_vacant_pluginStage {g : Game} : Keeps (Vacant g) pluginStage := by
  intro a vacant
  rwa [pluginStage_of_nil vacant.noPlugins]

/-- The stages of a start that come upon a fresh world. -/
def stagesInWorld (b : Bundle) (accepts : Font.Request → Bool) : List Stage :=
  [enrolStage fun s => Enrolment.ofGame s.game, stage noteSurface, fontStage accepts,
    enrolStage fun _ => engineExports, scriptStage b, stage beginPlay, enlistStage b {},
    pluginStage]

/-- Those of them that find the game enrolled. -/
def stagesEnrolled (b : Bundle) (accepts : Font.Request → Bool) : List Stage :=
  [stage noteSurface, fontStage accepts, enrolStage fun _ => engineExports, scriptStage b,
    stage beginPlay, enlistStage b {}, pluginStage]

theorem stagesInWorld_eq (b : Bundle) (accepts : Font.Request → Bool) : stagesInWorld b accepts =
    (enrolStage fun s => Enrolment.ofGame s.game) :: stagesEnrolled b accepts := rfl

theorem keeps_vacant_stagesInWorld {g : Game} (b : Bundle) (accepts : Font.Request → Bool) :
    Keeps (Vacant g) (runStages (stagesInWorld b accepts)) := by
  refine keeps_runStages ?_
  simp only [stagesInWorld, List.forall_mem_cons, List.not_mem_nil, false_implies, implies_true,
    and_true]
  exact ⟨keeps_vacant_enrolStage fun s => Enrolment.spares_ofGame s.game,
    keeps_stage fun _ vacant => vacant.of_sameSlots rfl rfl rfl rfl ⟨rfl, rfl, rfl, rfl, rfl, rfl⟩,
    keeps_vacant_fontStage accepts,
    keeps_vacant_enrolStage fun _ => Enrolment.spares_engineExports,
    keeps_vacant_scriptStage b,
    keeps_stage fun _ vacant => vacant.of_sameSlots rfl rfl rfl rfl ⟨rfl, rfl, rfl, rfl, rfl, rfl⟩,
    keeps_vacant_enlistStage b, keeps_vacant_pluginStage⟩

/-- A start without plugins either refuses the bundle at once, or leaves a fresh world in which no
room has left a trace. -/
theorem start_cases {s : Session} (empty : s.phase = .empty) (noRoom : s.room = none)
    (noScript : s.scripts.room = none) (noPlugins : s.plugins.loaded = []) (b : Bundle)
    (accepts : Font.Request → Bool) :
    (s.start b accepts {}).2.session = { s with phase := .failed } ∨
      (s.start b accepts {}).2.session.Vacant b.game := by
  have begins : stages b accepts {} =
      checkStage b :: stage (allocate b) :: stagesInWorld b accepts := rfl
  rw [start, if_pos empty, begins]
  cases checked : checkBundle s.config b with
  | error fault =>
    have refused : runStages (checkStage b :: stage (allocate b) :: stagesInWorld b accepts)
        { session := s } = (.error fault, { session := s }) := by
      rw [runStages, checkStage, checked]
    rw [refused]
    exact .inl rfl
  | ok met =>
    have check : checkStage b { session := s } = (.ok (), { session := s }) := by
      rw [checkStage, checked]
    have after := keeps_vacant_stagesInWorld b accepts { session := allocate b s }
      (vacant_allocate noRoom noScript noPlugins b)
    rw [runStages_cons check, runStages_stage]
    cases ran : runStages (stagesInWorld b accepts) { session := allocate b s } with
    | mk result last =>
      rw [ran] at after
      exact .inr { after with }

/-- After a start without plugins no room has left a trace, and nothing has been set. The game has
the cast of its bundle. -/
theorem vacant_start {s : Session} (noRoom : s.room = none) (noScript : s.scripts.room = none)
    (noPlugins : s.plugins.loaded = []) {b : Bundle} {accepts : Font.Request → Bool} {a : Attempt}
    (started : s.start b accepts {} = (.ok (), a)) : a.session.Vacant b.game := by
  obtain ⟨empty, ready⟩ := phases_of_start started
  have outcome := start_cases empty noRoom noScript noPlugins b accepts
  rw [started] at outcome
  cases outcome with
  | inl refused =>
    rw [show a.session.phase = .failed from congrArg Session.phase refused] at ready
    cases ready
  | inr vacant => exact vacant

/-! ## Starts that succeed -/

end Session

/-- The scripts of a game, in the order of linking. -/
def Bundle.scripts (b : Bundle) : List Script.Module :=
  b.scriptModules ++ b.globalScript.toList ++ b.dialogScript.toList

namespace Session

theorem enrolStage_eq_ok {steps : Session → List Enrolment}
    {a c : Attempt} (done : enrolStage steps a = (.ok (), c)) :
    Enrolment.takeAll (steps a.session) a.session.world a.session.registry =
        (.ok (), c.session.world, c.session.registry) := by
  obtain ⟨result, same⟩ := Prod.mk.inj done
  subst same
  refine Prod.ext ?_ rfl
  exact except_mapError_eq_ok.mp result

theorem contains_enrolStage {a : Attempt} (coherent : a.session.registry.Coherent)
    {steps : Session → List Enrolment} (enrolled : (enrolStage steps a).1 = .ok ())
    (name : String) : (enrolStage steps a).2.session.registry.symbols.contains name = true ↔
      a.session.registry.symbols.contains name = true ∨
        name ∈ Enrolment.names (steps a.session) :=
  Enrolment.contains_takeAll coherent _ _ (except_mapError_eq_ok.mp enrolled) name

theorem load_eq_none_iff (accepts : Font.Request → Bool) (requests : List Font.Request) :
    (Font.load accepts requests).2 = none ↔ ∀ request ∈ requests, accepts request = true := by
  induction requests with
  | nil => simp [Font.load]
  | cons first rest hyp =>
    simp only [Font.load, List.forall_mem_cons]
    split
    · next here => simp [here, hyp]
    · next here => simp [here]

/-- A game with fonts needs all of them, at a size that can be told. -/
theorem fontStage_ok_iff (accepts : Font.Request → Bool) {a : Attempt}
    (fonts : a.session.game.fonts ≠ []) : (fontStage accepts a).1 = .ok () ↔
      ∃ scales, a.session.game.scalesFonts? = some scales ∧
        ∀ slot font, a.session.game.fonts[slot]? = some font →
          accepts ⟨slot, font.loadSize scales⟩ = true := by
  have some_fonts : ¬ a.session.game.fonts.isEmpty = true := by simpa using fonts
  unfold fontStage Font.requests?
  rw [if_neg some_fonts]
  cases counted : a.session.game.scalesFonts? with
  | none => simp
  | some scales =>
    simp only [Option.map_some, Option.some.injEq, exists_eq_left']
    generalize listed : (a.session.game.fonts.mapIdx fun slot font =>
      ({ slot, size := font.loadSize scales } : Font.Request)) = requests
    have asked : (∀ request ∈ requests, accepts request = true) ↔
        ∀ slot font, a.session.game.fonts[slot]? = some font →
          accepts ⟨slot, font.loadSize scales⟩ = true := by
      subst listed
      constructor
      · intro all slot font here
        obtain ⟨low, rfl⟩ := List.getElem?_eq_some_iff.mp here
        exact all _ (List.mem_mapIdx.mpr ⟨slot, low, rfl⟩)
      · intro all request listed
        obtain ⟨slot, low, rfl⟩ := List.mem_mapIdx.mp listed
        exact all slot _ (List.getElem?_eq_getElem low)
    rw [← asked, ← load_eq_none_iff]
    obtain ⟨tried, refused⟩ := Font.load accepts requests
    cases refused <;> simp

theorem enrolStage_ok_iff {steps : Session → List Enrolment} {a : Attempt} :
    (enrolStage steps a).1 = .ok () ↔
      (Enrolment.takeAll (steps a.session) a.session.world a.session.registry).1 = .ok () :=
  except_mapError_eq_ok

theorem plain_engineExports : ∀ step ∈ engineExports, step.isSurface = false := by
  intro step listed
  rcases List.mem_append.mp listed with function | mouse
  · obtain ⟨symbol, -, rfl⟩ := List.mem_map.mp function
    rfl
  · obtain rfl := List.mem_singleton.mp mouse
    rfl

theorem nodup_engineExports : (Enrolment.names engineExports).Nodup := by decide

/-- What the engine offers needs names that are free, and no handles. -/
theorem exportStage_ok_iff {a : Attempt} (intact : a.session.Intact) :
    (enrolStage (fun _ => engineExports) a).1 = .ok () ↔
      ∀ name ∈ Enrolment.names engineExports,
        a.session.registry.symbols.contains name = false := by
  have noEntities : Enrolment.entities engineExports = [] := rfl
  rw [enrolStage_ok_iff]
  constructor
  · exact fun taken => (Enrolment.names_of_takeAll intact.coherent taken).2
  · intro free
    refine (Enrolment.takeAll_cases intact.coherent _ nodup_engineExports free).resolve_right ?_
    refine Enrolment.takeAll_ne_overflow intact.coherent plain_engineExports ?_
    rw [noEntities]
    exact Int.le_trans (Int.le_of_eq (Int.add_zero _)) intact.bounded.nextHandle_le

/-- The names of a game and of the engine. -/
def startNames (g : Game) : List String :=
  Enrolment.names (Enrolment.ofGame g) ++ Enrolment.names engineExports

theorem fonts_of_checkBundle {c : Config} {b : Bundle} (checked : checkBundle c b = .ok ()) :
    b.game.fonts ≠ [] := by
  unfold checkBundle at checked
  simpa using (refusal_eq_ok.mp checked).1

/-- The fonts of a game stand in it as before when it has been enrolled. -/
theorem fonts_enrolled {g : Game} {w : World} {q : Registry}
    (taken : Enrolment.takeAll (Enrolment.ofGame g) (World.allocated { game := g }) {} =
      (.ok (), w, q)) :
    w.game.fonts = g.fonts ∧ w.game.scalesFonts? = g.scalesFonts? := by
  obtain ⟨-, world⟩ := Enrolment.enrolled_ofGame (w := World.allocated { game := g })
    (Enrolment.wrapped_allocated _) taken
  rw [world]
  exact ⟨rfl, rfl⟩

theorem scriptStage_ok_iff (b : Bundle) (a : Attempt) : (scriptStage b a).1 = .ok () ↔
    Script.Linkable a.session.registry.symbols b.scripts := by
  rw [Bundle.scripts, ← Script.Linkage.bind_ok_iff { timeout := a.session.config.scriptTimeout }]
  exact except_mapError_eq_ok

/-- What the stages behind the enrolment of the game demand, with the names that it has taken. -/
theorem later_ok_iff (b : Bundle) (accepts : Font.Request → Bool) {known : Attempt}
    (intact : known.session.Intact) (fonts : known.session.game.fonts ≠ []) {taken : List String}
    (names : ∀ name, known.session.registry.symbols.contains name = true ↔ name ∈ taken) :
    (runStages (stagesEnrolled b accepts) known).1 = .ok () ↔
      (∃ scales, known.session.game.scalesFonts? = some scales ∧
        ∀ slot font, known.session.game.fonts[slot]? = some font →
          accepts ⟨slot, font.loadSize scales⟩ = true) ∧
      (∀ name ∈ taken, ∀ own ∈ Enrolment.names engineExports, name ≠ own) ∧
      ∀ n m, b.scripts[n]? = some m → ∀ symbol ∈ m.imports,
        symbol ∈ taken ++ Enrolment.names engineExports ∨
          ∃ earlier ∈ b.scripts.take n, symbol ∈ earlier.exports := by
  have last (a : Attempt) :
      (runStages [stage beginPlay, enlistStage b {}, pluginStage] a).1 = .ok () := by
    rw [runStages_stage, runStages_cons (enlistStage_empty b _),
      runStages_cons (pluginStage_of_nil rfl), runStages]
  let noted : Attempt := { known with session := noteSurface known.session }
  have notedIntact : noted.session.Intact := ⟨intact.coherent, intact.bounded, intact.noPlugins⟩
  rw [stagesEnrolled, runStages_stage, runStages_ok_iff, runStages_ok_iff, runStages_ok_iff,
    fontStage_ok_iff accepts (a := noted) fonts]
  apply and_congr_right
  intro _
  -- neither the surface nor the fonts change what is known
  have loadedIntact := keeps_intact_fontStage accepts noted notedIntact
  have same : (fontStage accepts noted).2.session.registry = known.session.registry := by
    rw [fontStage_session]
    rfl
  generalize (fontStage accepts noted).2 = loaded at loadedIntact same ⊢
  have exports : (enrolStage (fun _ => engineExports) loaded).1 = .ok () ↔
      ∀ name ∈ taken, ∀ own ∈ Enrolment.names engineExports, name ≠ own := by
    rw [exportStage_ok_iff loadedIntact, ← List.disjoint_iff_ne, List.disjoint_comm]
    simp only [same, List.Disjoint, ← names, Bool.not_eq_true, imp_false]
  rw [← exports]
  apply and_congr_right
  intro exported
  have all := contains_enrolStage loadedIntact.coherent exported
  simp only [same, names] at all
  rw [scriptStage_ok_iff, last, eq_self, and_true]
  simp only [Script.Linkable, Script.Offered, all, List.mem_append]

section Fresh

variable {g : Game} {fresh : Attempt}
  (world : fresh.session.world = World.allocated { game := g })
  (registry : fresh.session.registry = {}) (noPlugins : fresh.session.plugins.loaded = [])

include world

theorem game_fresh : fresh.session.game = g := by
  rw [Session.game, world]
  rfl

include registry

/-- A game is enrolled if its names differ and there is a handle for each of its entities. -/
theorem enrolled_ok_iff : (enrolStage (fun s => Enrolment.ofGame s.game) fresh).1 = .ok () ↔
    (Enrolment.names (Enrolment.ofGame g)).Nodup ∧ (handleCount g : Int) < Registry.maxHandle := by
  rw [enrolStage_ok_iff, game_fresh world, world, registry]
  exact Enrolment.takeAll_ofGame_ok_iff (w := World.allocated { game := g })
    (Enrolment.wrapped_allocated _)

include noPlugins

/-- What is behind the enrolment finds the names and the fonts of the game. -/
theorem stagesEnrolled_ok_iff (b : Bundle) (accepts : Font.Request → Bool) (fonts : g.fonts ≠ [])
    (done : (enrolStage (fun s => Enrolment.ofGame s.game) fresh).1 = .ok ()) :
    (runStages (stagesEnrolled b accepts)
        (enrolStage (fun s => Enrolment.ofGame s.game) fresh).2).1 = .ok () ↔
      (∃ scales, g.scalesFonts? = some scales ∧ ∀ slot font, g.fonts[slot]? = some font →
        accepts ⟨slot, font.loadSize scales⟩ = true) ∧
      (∀ name ∈ Enrolment.names (Enrolment.ofGame g), ∀ own ∈ Enrolment.names engineExports,
        name ≠ own) ∧
      ∀ n m, b.scripts[n]? = some m → ∀ symbol ∈ m.imports,
        symbol ∈ startNames g ∨ ∃ earlier ∈ b.scripts.take n, symbol ∈ earlier.exports := by
  have game := game_fresh world
  have intact : fresh.session.Intact :=
    ⟨registry ▸ Registry.coherent_empty, registry ▸ Registry.bounded_empty, noPlugins⟩
  have unused (name : String) : fresh.session.registry.symbols.contains name = false := by
    rw [registry]
    rfl
  have names := contains_enrolStage intact.coherent done
  have knownIntact := keeps_intact_enrolStage (fun s => Enrolment.ofGame s.game) fresh intact
  cases ran : enrolStage (fun s => Enrolment.ofGame s.game) fresh with
  | mk result known =>
    rw [ran] at names knownIntact done
    obtain rfl : result = .ok () := done
    have taken := enrolStage_eq_ok ran
    simp only [game, unused, Bool.false_eq_true, false_or] at names
    simp only [game, world, registry] at taken
    obtain ⟨sameFonts, sameSizes⟩ := fonts_enrolled taken
    have later := later_ok_iff b accepts knownIntact (sameFonts ▸ fonts) names
    rwa [Session.game, sameFonts, sameSizes] at later

/-- What the enrolment of a game and all behind it demand. -/
theorem enrolment_ok_iff (b : Bundle) (accepts : Font.Request → Bool) (fonts : g.fonts ≠ []) :
    (runStages (stagesInWorld b accepts) fresh).1 = .ok () ↔
      (startNames g).Nodup ∧ (handleCount g : Int) < Registry.maxHandle ∧
      (∃ scales, g.scalesFonts? = some scales ∧ ∀ slot font, g.fonts[slot]? = some font →
        accepts ⟨slot, font.loadSize scales⟩ = true) ∧
      ∀ n m, b.scripts[n]? = some m → ∀ symbol ∈ m.imports,
        symbol ∈ startNames g ∨ ∃ earlier ∈ b.scripts.take n, symbol ∈ earlier.exports := by
  have whole : (startNames g).Nodup ↔ (Enrolment.names (Enrolment.ofGame g)).Nodup ∧
      ∀ name ∈ Enrolment.names (Enrolment.ofGame g), ∀ own ∈ Enrolment.names engineExports,
        name ≠ own := by
    rw [startNames, List.nodup_append, and_iff_right nodup_engineExports]
  have enrols := enrolled_ok_iff world registry
  have behind := stagesEnrolled_ok_iff world registry noPlugins b accepts fonts
  rw [stagesInWorld_eq, runStages_ok_iff]
  constructor
  · rintro ⟨done, later⟩
    obtain ⟨own, room⟩ := enrols.mp done
    obtain ⟨loaded, apart, linked⟩ := (behind done).mp later
    exact ⟨whole.mpr ⟨own, apart⟩, room, loaded, linked⟩
  · rintro ⟨distinct, room, loaded, linked⟩
    obtain ⟨own, apart⟩ := whole.mp distinct
    have done := enrols.mpr ⟨own, room⟩
    exact ⟨done, (behind done).mpr ⟨loaded, apart, linked⟩⟩

end Fresh

/-- What a start without plugins needs of a bundle: data that meets the demands, names that differ
from each other, a handle for each entity, a screen and fonts, and scripts that can be linked. -/
theorem start_eq_ok_iff (c : Config) (b : Bundle) (accepts : Font.Request → Bool) {g : Game}
    (shown : b.game.upscaled c.overrideUpscale = g) :
    ((Session.new c).start b accepts {}).1 = .ok () ↔ checkBundle c b = .ok () ∧
      (startNames g).Nodup ∧ (handleCount g : Int) < Registry.maxHandle ∧
      (∃ scales, g.scalesFonts? = some scales ∧ ∀ slot font, g.fonts[slot]? = some font →
        accepts ⟨slot, font.loadSize scales⟩ = true) ∧
      ∀ n m, b.scripts[n]? = some m → ∀ symbol ∈ m.imports,
        symbol ∈ startNames g ∨ ∃ earlier ∈ b.scripts.take n, symbol ∈ earlier.exports := by
  subst shown
  have empty : (Session.new c).phase = .empty := rfl
  have check : (checkStage b { session := .new c }).1 = checkBundle c b := rfl
  have begins : stages b accepts {} =
      checkStage b :: stage (allocate b) :: stagesInWorld b accepts := rfl
  rw [start, if_pos empty, begins]
  dsimp only
  rw [runStages_ok_iff, runStages_stage, check]
  apply and_congr_right
  intro checked
  have fonts : (b.game.upscaled c.overrideUpscale).fonts ≠ [] := by
    unfold Game.upscaled
    split
    · exact fonts_of_checkBundle checked
    · exact fonts_of_checkBundle checked
  exact enrolment_ok_iff rfl rfl rfl b accepts fonts

/-- A game without scripts needs names of its own, handles, a screen and fonts. -/
theorem start_succeeds {c : Config} {b : Bundle} {accepts : Font.Request → Bool} {scales : Bool}
    (checked : checkBundle c b = .ok ())
    (distinct : (startNames (b.game.upscaled c.overrideUpscale)).Nodup)
    (room : (handleCount (b.game.upscaled c.overrideUpscale) : Int) < Registry.maxHandle)
    (counted : (b.game.upscaled c.overrideUpscale).scalesFonts? = some scales)
    (accepted : ∀ request, accepts request = true) (noScripts : b.scripts = []) :
    ∃ a, (Session.new c).start b accepts {} = (.ok (), a) := by
  have scripts : ∀ n m, b.scripts[n]? = some m → ∀ symbol ∈ m.imports,
      symbol ∈ startNames (b.game.upscaled c.overrideUpscale) ∨
        ∃ earlier ∈ b.scripts.take n, symbol ∈ earlier.exports := by
    rw [noScripts]
    exact nofun
  have started := (start_eq_ok_iff c b accepts rfl).mpr
    ⟨checked, distinct, room, ⟨scales, counted, fun _ _ _ => accepted _⟩, scripts⟩
  exact ⟨_, Prod.ext started rfl⟩

def bare : Bundle := { game := { fonts := [{}] } }

theorem start_bare : ∃ a, (Session.new {}).start bare (fun _ => true) {} = (.ok (), a) :=
  start_succeeds rfl (by decide +kernel) (by decide) rfl (fun _ => rfl) rfl

end Session

end Adventure
