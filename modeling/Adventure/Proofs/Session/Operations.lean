import Adventure.Proofs.Session.Standing

/-! # All that can be done to a session

Starts of games, changes of rooms and calls of scripts, in any order, from a new session on.

* `Operation`, `operations` — what is done, and what becomes of a session.
* `Underway` — the invariant of all sessions that operations lead to.
* `standing_operations` — they are in good standing, and start once.
-/

namespace Adventure.Session

inductive Operation where
  | start (b : Bundle) (accepts : Font.Request → Bool)
  | deed (d : Deed)

def Operation.isStart : Operation → Bool
  | .start .. => true
  | .deed _ => false

/-- The session after an operation that may have failed. -/
def operate (s : Session) : Operation → Session
  | .start b accepts => (s.start b accepts {}).2.session
  | .deed d => s.deed d

def operations (s : Session) (l : List Operation) : Session := l.foldl operate s

variable {s t : Session} {word : Option StoredWord} {g : Game}

/-! ## The invariant -/

/-- What holds of every session that operations lead to. Handles come with a start. -/
structure Underway (s : Session) : Prop extends Steady s where
  standing : s.Standing
  fresh : s.phase = .empty → s.registry = {}

theorem Effect.fresh (effect : s.Effect word t) (steady : s.Steady) (empty : s.phase = .empty)
    (fresh : s.registry = {}) : t.registry = {} := by
  have noHandle (handle : Handle) (l : Registry.Live) : s.registry.live handle ≠ .ok l := by
    rw [fresh]
    exact nofun
  cases effect with
  | noted errors => exact fresh
  | set m owner => rwa [registry_withOverrides]
  | wrote wrote => exact fresh
  | counted live small => exact absurd live (noHandle _ _)
  | disposed live target => exact absurd live (noHandle _ _)
  | left => rwa [leaveRoom_of_none (steady.idle empty).1]
  | entered prepared rehearsed =>
    have ready := (prepareEntry_eq_ok prepared).1
    rw [isReady, empty] at ready
    cases ready

/-- Without a room there is nothing about a room to fit together. -/
theorem standing_of_outside (room : s.room = none) (script : s.scripts.room = none)
    (objects : s.world.ids .object = World.slotIds s.world.objects.length 0)
    (characters : s.runtime.characterProperties.length = s.game.characters.length)
    (items : s.runtime.itemProperties.length = s.game.inventory.length)
    (stocked : s.phase = .ready → ∃ g, s.world.Stocked g) : s.Standing where
  inside c here := by
    rw [room] at here
    cases here
  outside _ := script
  objects := by
    rw [objects, objectCount, room]
    rfl
  characters := characters
  items := items
  stocked := stocked

theorem Vacant.standing (vacant : s.Vacant g)
    (stocked : s.phase = .ready → ∃ g, s.world.Stocked g) : s.Standing := by
  apply standing_of_outside vacant.room vacant.script _ _ _ stocked
  · rw [World.slotIds_zero, ← vacant.objects]
    rfl
  · rw [vacant.characters, List.length_replicate, vacant.cast.characters]
  · rw [vacant.items, List.length_replicate, vacant.cast.inventory]

theorem underway_new (config : Config) : (Session.new config).Underway where
  toSteady := steady_new config
  standing := standing_of_outside rfl rfl rfl rfl rfl nofun
  fresh _ := rfl

theorem Underway.start (underway : s.Underway) (b : Bundle) (accepts : Font.Request → Bool) :
    (s.start b accepts {}).2.session.Underway := by
  by_cases empty : s.phase = .empty
  · obtain ⟨room, script⟩ := underway.idle empty
    refine ⟨steady_start underway.toSteady b accepts, ?_,
      fun again => absurd again (phase_start_ne_empty s b accepts {})⟩
    have stocked : (s.start b accepts {}).2.session.phase = .ready →
        ∃ g, (s.start b accepts {}).2.session.world.Stocked g := by
      intro ready
      rw [phase_start_eq empty] at ready
      cases result : (s.start b accepts {}).1 with
      | error fault =>
        rw [result] at ready
        cases ready
      | ok _ => exact ⟨b.game, stocked_start (underway.fresh empty) (Prod.ext result rfl)⟩
    cases start_cases empty room script underway.noPlugins b accepts with
    | inl refused =>
      -- a bundle that is refused at once leaves everything as it was
      have standing := underway.standing
      rw [refused] at stocked ⊢
      refine standing_of_outside room script ?_ standing.characters standing.items stocked
      have objects := standing.objects
      rwa [objectCount, room] at objects
    | inr vacant => exact vacant.standing stocked
  · rwa [start_of_ne_empty empty]

theorem Underway.deed (underway : s.Underway) (d : Deed) : (s.deed d).Underway := by
  have effect := effect_deed underway.coherent d
  refine ⟨effect.steady underway.toSteady, effect.standing underway.coherent underway.standing, ?_⟩
  intro empty
  rw [effect.sameGrounds.phase] at empty
  exact effect.fresh underway.toSteady empty (underway.fresh empty)

theorem Underway.operate (underway : s.Underway) (o : Operation) : (s.operate o).Underway := by
  cases o with
  | start b accepts => exact underway.start b accepts
  | deed d => exact underway.deed d

theorem Underway.operations (underway : s.Underway) (l : List Operation) :
    (s.operations l).Underway := by
  induction l generalizing s with
  | nil => exact underway
  | cons first rest hyp => exact hyp (underway.operate first)

/-! ## Phases -/

theorem Underway.phase_operate (underway : s.Underway) (o : Operation) :
    (s.operate o).phase = .empty ↔ s.phase = .empty ∧ o.isStart = false := by
  cases o with
  | start b accepts =>
    have started := phase_start_ne_empty s b accepts {}
    simpa [Session.operate, Operation.isStart] using started
  | deed d =>
    have same := (effect_deed underway.coherent d).sameGrounds.phase
    simp [Session.operate, Operation.isStart, same]

/-- A session is as yet unstarted exactly if no start has been tried. -/
theorem Underway.phase_operations (underway : s.Underway) (l : List Operation) :
    (s.operations l).phase = .empty ↔ s.phase = .empty ∧ ∀ o ∈ l, o.isStart = false := by
  induction l generalizing s with
  | nil => simp [Session.operations]
  | cons first rest hyp =>
    show ((s.operate first).operations rest).phase = .empty ↔ _
    rw [hyp (underway.operate first), underway.phase_operate, List.forall_mem_cons, and_assoc]

/-! ## All runs -/

/-- The wrappers of a game in play: there are as many as there were at its start, and those of
items, hotspots and regions still have the numbers that they got then. -/
structure InPlay (w : World) : Prop where
  audioChannels : w.audioChannels.length = 9
  inventory : w.ids .inventory = (List.range 301).map Int32.ofNat
  hotspots : w.ids .hotspot = (List.range 50).map Int32.ofNat
  regions : w.ids .region = (List.range 16).map Int32.ofNat
  objects : w.objects.length = 256

theorem inPlay_of_stocked {w : World} (stocked : w.Stocked g) : InPlay w where
  audioChannels := by
    have channels := stocked.ids .audioChannel (by simp [World.Wrapped]) nofun
    rw [← List.length_map (f := (·.id)), show w.audioChannels.map (·.id) = _ from channels,
      List.length_map, List.length_range]
    rfl
  inventory := stocked.ids .inventory (by simp [World.Wrapped]) nofun
  hotspots := stocked.ids .hotspot (by simp [World.Wrapped]) nofun
  regions := stocked.ids .region (by simp [World.Wrapped]) nofun
  objects := stocked.slots

theorem Standing.object_id (standing : s.Standing) {i : Nat} {x : Wrapper}
    (here : s.world.objects[i]? = some x) :
    x.id = if i < s.objectCount then Int32.ofNat i else -1 := by
  have known : (s.world.ids .object)[i]? = some x.id := by
    show (s.world.objects.map (·.id))[i]? = _
    rw [List.getElem?_map, here]
    rfl
  have low := (List.getElem?_eq_some_iff.mp here).1
  rw [standing.objects, World.slotIds, objectSlots, List.map_map, List.getElem?_map,
    List.getElem?_range low] at known
  rw [← Option.some.inj known]
  show (if i < s.objectCount then Wrapper.ofIndex i else Wrapper.unbound).id = _
  split
  · rfl
  · rfl

/-- Whatever is done to a new session, it stays in good standing: room, script, status, names and
wrappers fit together. A game is started once, and every further start is refused and changes
nothing. -/
theorem standing_operations (config : Config) (l : List Operation) :
    let s := (Session.new config).operations l
    (s.phase = .empty ↔ ∀ o ∈ l, o.isStart = false) ∧
      (s.phase ≠ .empty → ∀ b accepts host,
        s.start b accepts host = (.error .alreadyStarted, { session := s })) ∧
      s.Standing ∧
      (s.phase = .ready → InPlay s.world) ∧
      ∀ i x, s.world.objects[i]? = some x →
        x.id = if i < s.objectCount then Int32.ofNat i else -1 := by
  intro s
  have new := underway_new config
  have underway : s.Underway := new.operations l
  refine ⟨?_, fun busy => start_of_ne_empty busy, underway.standing, ?_,
    fun i x => underway.standing.object_id⟩
  · rw [new.phase_operations]
    exact and_iff_right rfl
  · intro ready
    obtain ⟨g, stocked⟩ := underway.standing.stocked ready
    exact inPlay_of_stocked stocked

theorem operations_enter {b : Bundle} {accepts : Font.Request → Bool} {a : Attempt} {number : Int32}
    {room : Room} (started : s.start b accepts {} = (.ok (), a))
    (entered : a.session.enterRoom number room = (.ok (), t)) :
    s.operations [.start b accepts, .deed (.move (.enter number room))] = t := by
  simp only [operations, List.foldl_cons, List.foldl_nil, Session.operate, deed, move, started,
    entered]

/-- After a start and an entry the session is in play, in a room whose names are bound. -/
theorem standing_operations_hall :
    let s := (Session.new {}).operations
      [.start bare fun _ => true, .deed (.move (.enter 1 hall))]
    s.phase = .ready ∧ InPlay s.world ∧ (∃ c, s.room = some c ∧ s.Inside c) ∧
      (∀ b accepts host, s.start b accepts host = (.error .alreadyStarted, { session := s })) ∧
      ∃ x, s.world.objects[0]? = some x ∧
        x.id = if 0 < s.objectCount then Int32.ofNat 0 else -1 := by
  obtain ⟨a, t, started, entered, inside, ready, -⟩ := hall_entered
  have reached := operations_enter started entered
  have holds := standing_operations {} [.start bare fun _ => true, .deed (.move (.enter 1 hall))]
  rw [reached] at holds ⊢
  obtain ⟨-, once, standing, inPlay, ids⟩ := holds
  have phase : t.phase = .ready := of_decide_eq_true ready
  have busy : t.phase ≠ .empty := by
    rw [phase]
    exact nofun
  obtain ⟨c, here⟩ := Option.ne_none_iff_exists'.mp inside
  have slots := (inPlay phase).objects
  obtain ⟨x, first⟩ : ∃ x, t.world.objects[0]? = some x :=
    ⟨_, List.getElem?_eq_getElem (by omega)⟩
  exact ⟨phase, inPlay phase, ⟨c, here, standing.inside c here⟩, once busy, x, first, ids 0 x first⟩

end Adventure.Session
