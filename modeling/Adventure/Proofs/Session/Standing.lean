import Adventure.Proofs.Session.Enterable
import Adventure.Proofs.Session.Stock

/-! # Sessions in good standing

A session keeps several things side by side: the room, its script, its status, its names, and the
wrappers of its objects. They are changed by separate operations and have to fit together.

* `Inside` — how things stand in a room.
* `Standing` — how things stand in a session.
* `Effect.standing` — no deed brings a session out of standing.
-/

namespace Adventure

namespace World

/-- The numbers in the wrappers of room objects in a room with `count` of them. -/
def slotIds (slots count : Nat) : List Int32 := (Session.objectSlots slots count).map (·.id)

theorem slotIds_zero (slots : Nat) : slotIds slots 0 = (unboundSlots slots).map (·.id) := by
  apply List.ext_getElem?
  intro i
  simp [slotIds, Session.objectSlots, unboundSlots]

end World

namespace Session

variable {s t : Session} {c : CurrentRoom} {word : Option StoredWord} {number : Int32}
  {entry : Entry} {symbols : SymbolTable} {room : Room}

/-! ## How things stand -/

/-- Whether what scripts have set in a room has a place for each of its owners. -/
structure RoomStatus.Fits (status : RoomStatus) (r : Room) : Prop where
  hotspots : status.hotspots.length = r.hotspots.length
  objects : status.objects.length = r.objects.length
  regions : status.regions.length = r.regions.length

/-- How things stand in the current room. -/
structure Inside (s : Session) (c : CurrentRoom) : Prop where
  ready : s.phase = .ready
  script : s.scripts.room.isSome = c.data.script.isSome
  kind : ∀ linked, s.scripts.room = some linked → linked.kind = .room c.number
  status : c.status.Fits c.data
  boundNames : c.boundNames = c.data.scriptNames
  /-- Names stand for their own entities, and these have handles. -/
  bound : ∀ e name, (e, name) ∈ namedEntities c.data →
    ∃ handle, s.registry.symbols.get? name = some (.object handle e.type) ∧
      s.registry.resolve handle = .ok (.static e, e.type)

/-- The number of objects in the current room. -/
def objectCount (s : Session) : Nat := (s.room.map (·.data.objects.length)).getD 0

/-- How things stand in a session. -/
structure Standing (s : Session) : Prop where
  inside : ∀ c, s.room = some c → s.Inside c
  outside : s.room = none → s.scripts.room = none
  objects : s.world.ids .object = World.slotIds s.world.objects.length s.objectCount
  characters : s.runtime.characterProperties.length = s.game.characters.length
  items : s.runtime.itemProperties.length = s.game.inventory.length
  stocked : s.phase = .ready → ∃ g, s.world.Stocked g

theorem Inside.congr (inside : s.Inside c) (phase : t.phase = s.phase)
    (scripts : t.scripts = s.scripts) (symbols : t.registry.symbols = s.registry.symbols)
    (entities : ∀ handle e type, t.registry.resolve handle = .ok (.static e, type) ↔
      s.registry.resolve handle = .ok (.static e, type)) : t.Inside c where
  ready := phase.trans inside.ready
  script := by rw [scripts, inside.script]
  kind := scripts ▸ inside.kind
  status := inside.status
  boundNames := inside.boundNames
  bound e name listed := by
    obtain ⟨handle, known, resolved⟩ := inside.bound e name listed
    exact ⟨handle, symbols ▸ known, (entities handle e e.type).mpr resolved⟩

/-- What concerns neither the room nor the stock leaves a session in standing. -/
theorem Standing.congr (standing : s.Standing) (grounds : s.SameGrounds t) (room : t.room = s.room)
    (scripts : t.scripts = s.scripts) (symbols : t.registry.symbols = s.registry.symbols)
    (stock : s.world.SameStock t.world) (objects : t.world.ids .object = s.world.ids .object)
    (characters :
      t.runtime.characterProperties.length = s.runtime.characterProperties.length)
    (items : t.runtime.itemProperties.length = s.runtime.itemProperties.length) :
    t.Standing where
  inside c here :=
    (standing.inside c (room ▸ here)).congr grounds.phase scripts symbols grounds.entities
  outside gone := by
    rw [scripts]
    exact standing.outside (room ▸ gone)
  objects := by rw [objects, stock.slots, objectCount, room]; exact standing.objects
  characters := characters.trans (standing.characters.trans stock.cast.characters.symm)
  items := items.trans (standing.items.trans stock.cast.inventory.symm)
  stocked ready := by
    rw [grounds.phase] at ready
    obtain ⟨g, stocked⟩ := standing.stocked ready
    exact ⟨g, stocked.of_sameStock stock⟩

/-! ## Setting texts -/

theorem Standing.modifyStatus (standing : s.Standing) (change : RoomStatus → RoomStatus)
    (fits : ∀ status r, RoomStatus.Fits status r → RoomStatus.Fits (change status) r) :
    (s.modifyStatus change).Standing := by
  have count : (s.modifyStatus change).objectCount = s.objectCount := by
    simp only [objectCount, Session.modifyStatus, Option.map_map]
    rfl
  refine ⟨?_, ?_, ?_, standing.characters, standing.items, standing.stocked⟩
  · intro d there
    obtain ⟨c, here, rfl⟩ := Option.map_eq_some_iff.mp there
    have inside := standing.inside c here
    exact ⟨inside.ready, inside.script, inside.kind, fits c.status c.data inside.status,
      inside.boundNames, inside.bound⟩
  · exact fun gone => standing.outside (Option.map_eq_none_iff.mp gone)
  · rw [count]
    exact standing.objects

theorem Standing.withOverrides (standing : s.Standing) (m : PropertyMap) (owner : Owner) :
    (s.withOverrides m owner).Standing := by
  cases owner with
  | character i =>
    exact standing.congr (sameGrounds_withOverrides s m (.character i)) rfl rfl rfl (.refl s.world)
      rfl List.length_set rfl
  | inventory i =>
    exact standing.congr (sameGrounds_withOverrides s m (.inventory i)) rfl rfl rfl (.refl s.world)
      rfl rfl List.length_set
  | hotspot i =>
    refine standing.modifyStatus (fun t => { t with hotspots := t.hotspots.set i m }) ?_
    exact fun status r fits => ⟨List.length_set.trans fits.hotspots, fits.objects, fits.regions⟩
  | object i =>
    refine standing.modifyStatus (fun t => { t with objects := t.objects.set i m }) ?_
    exact fun status r fits => ⟨fits.hotspots, List.length_set.trans fits.objects, fits.regions⟩
  | region i =>
    refine standing.modifyStatus (fun t => { t with regions := t.regions.set i m }) ?_
    exact fun status r fits => ⟨fits.hotspots, fits.objects, List.length_set.trans fits.regions⟩
  | room =>
    refine standing.modifyStatus (fun t => { t with room := m }) ?_
    exact fun status r fits => ⟨fits.hotspots, fits.objects, fits.regions⟩

/-! ## Leaving and entering -/

theorem Standing.leaveRoom (standing : s.Standing) : s.leaveRoom.Standing := by
  cases room : s.room with
  | none => rwa [leaveRoom_of_none room]
  | some current =>
    have phase := (sameGrounds_leaveRoom s).phase
    have stock := sameStock_leaveRoom s
    simp only [Session.leaveRoom, room] at phase stock ⊢
    constructor
    case inside =>
      intro c here
      cases here
    case outside => exact fun _ => rfl
    case objects =>
      have slots : (World.unboundSlots s.world.objects.length).length = s.world.objects.length :=
        List.length_replicate
      show (World.unboundSlots s.world.objects.length).map (·.id) = World.slotIds _ 0
      rw [slots, World.slotIds_zero]
    case characters => exact standing.characters
    case items => exact standing.items
    case stocked =>
      intro ready
      obtain ⟨g, stocked⟩ := standing.stocked ready
      exact ⟨g, stocked.of_sameStock stock⟩

theorem roomNames_eq_ok {r : Registry} {names : List RoomName}
    (found : roomNames r room = .ok names) :
    names = (namedEntities room).map (named r) ∧ ∀ pair ∈ namedEntities room,
      ∃ handle, r.handleFor (.static pair.1) pair.1.type = some handle := by
  rw [roomNames] at found
  generalize namedEntities room = items at found ⊢
  induction items generalizing names with
  | nil =>
    obtain rfl := Except.ok.inj found
    exact ⟨rfl, fun pair listed => absurd listed List.not_mem_nil⟩
  | cons pair rest hyp =>
    rw [List.mapM_cons] at found
    obtain ⟨first, here, found⟩ := except_bind_eq_ok.mp found
    obtain ⟨others, later, joined⟩ := except_bind_eq_ok.mp found
    obtain rfl := Except.ok.inj joined
    obtain ⟨rfl, known⟩ := hyp later
    simp only [roomName] at here
    cases own : r.handleFor (.static pair.1) pair.1.type with
    | none => rw [own] at here; cases here
    | some handle =>
      rw [own] at here
      obtain rfl := Except.ok.inj here
      constructor
      · simp [named, own]
      · exact List.forall_mem_cons.mpr ⟨⟨handle, own⟩, known⟩

theorem linkRoomScript_eq_ok {script : Option Script.Linked}
    (linked : s.linkRoomScript symbols room number = .ok script) :
    script.isSome = room.script.isSome ∧ ∀ l, script = some l → l.kind = .room number := by
  unfold linkRoomScript at linked
  cases compiled : room.script with
  | none =>
    rw [compiled] at linked
    obtain rfl := Except.ok.inj linked
    exact ⟨rfl, nofun⟩
  | some m =>
    rw [compiled] at linked
    obtain ⟨l, found, rfl⟩ := except_map_eq_ok.mp (except_mapError_eq_ok.mp linked)
    refine ⟨rfl, fun other same => ?_⟩
    obtain rfl := Option.some.inj same
    rw [Script.Linkage.linkRoom, Script.Linkage.link] at found
    split at found
    · cases found
    · exact Except.ok.inj found ▸ rfl

theorem inside_settle (coherent : s.registry.Coherent)
    (prepared : s.prepareEntry number room = .ok entry)
    (rehearsed : rehearse s.registry.symbols s.boundNames entry.names = .ok symbols) :
    Inside ({ s.leaveRoom with registry := { s.registry with symbols } }.settle number entry)
      { number, data := entry.room, status := .forRoom entry.room
        boundNames := entry.names.map (·.name) } := by
  obtain ⟨ready, -, found, tried, -, linked⟩ := prepareEntry_eq_ok_iff.mp prepared
  obtain ⟨names, known⟩ := roomNames_eq_ok found
  obtain ⟨script, kind⟩ := linkRoomScript_eq_ok linked
  refine ⟨?_, script, kind, ?_, ?_, ?_⟩
  · show s.leaveRoom.phase = .ready
    rw [(sameGrounds_leaveRoom s).phase]
    exact of_decide_eq_true ready
  · exact ⟨List.length_replicate, List.length_replicate, List.length_replicate⟩
  · show entry.names.map (·.name) = entry.room.scriptNames
    rw [names, List.map_map, ← map_namedEntities]
    rfl
  · intro e name listed
    obtain ⟨handle, own⟩ := known (e, name) listed
    refine ⟨handle, ?_, (coherent.handleFor_iff_resolve ..).mp own⟩
    show symbols.get? name = _
    have stands := SymbolTable.get?_foldlM_bind_of_mem rehearsed (named s.registry (e, name))
      (names ▸ List.mem_map_of_mem listed)
    simpa only [named, own, Option.getD_some] using stands

theorem Standing.settle (standing : s.Standing) (coherent : s.registry.Coherent)
    (prepared : s.prepareEntry number room = .ok entry)
    (rehearsed : rehearse s.registry.symbols s.boundNames entry.names = .ok symbols) :
    Standing
      ({ s.leaveRoom with registry := { s.registry with symbols } }.settle number entry) := by
  have left := standing.leaveRoom
  have slots := length_objectSlots s.leaveRoom.world.objects.length entry.room.objects.length
  refine ⟨?_, nofun, ?_, left.characters, left.items, ?_⟩
  · intro c here
    obtain rfl := Option.some.inj here
    exact inside_settle coherent prepared rehearsed
  · show (objectSlots _ _).map (·.id) = World.slotIds (objectSlots _ _).length _
    rw [slots]
    rfl
  · intro ready
    obtain ⟨g, stocked⟩ := left.stocked ready
    exact ⟨g, stocked.of_sameStock (World.sameStock_withObjects slots)⟩

/-! ## Deeds -/

theorem Effect.standing (effect : s.Effect word t) (coherent : s.registry.Coherent)
    (standing : s.Standing) : t.Standing := by
  have grounds := effect.sameGrounds
  have stock := effect.sameStock
  cases effect with
  | noted errors => exact standing.congr grounds rfl rfl rfl stock rfl rfl rfl
  | set m owner => exact standing.withOverrides m owner
  | wrote wrote =>
    have ids := (World.sameMake_write wrote).ids .object
    exact standing.congr grounds rfl rfl rfl stock ids rfl rfl
  | counted live small => exact standing.congr grounds rfl rfl rfl stock rfl rfl rfl
  | disposed live target => exact standing.congr grounds rfl rfl rfl stock rfl rfl rfl
  | left => exact standing.leaveRoom
  | entered prepared rehearsed => exact standing.settle coherent prepared rehearsed

end Session

end Adventure
