import Adventure.Proofs.Session.Grounds
import Adventure.Proofs.Session.Layers

/-! # Which rooms can be entered

An entry is tried on a copy of the symbols and then made. Here is what the trial demands of a room,
told by the room and by the symbols that no room has bound, and what the symbols are afterwards.

* `Enterable` — the demands.
* `Entered` — what has become of the symbols.
* `enterRoom_exact` — exactly the rooms that meet the demands are entered.
-/

namespace Adventure

/-- The names that scripts know the hotspots and objects of a room by, hotspots first. -/
def Room.scriptNames (r : Room) : List String :=
  (r.hotspots.toList.map (·.scriptName) ++ r.objects.map (·.scriptName)).filter (· ≠ "")

namespace Session

/-- Whether a room meets the demands of a session: it is well made and of the right game, its names
are its own, and everything is there that its script imports. Of the game it is asked that the
pixels of its screen can be counted, for that says which size the room is shown in. -/
structure Enterable (s : Session) (room : Room) : Prop where
  valid : room.validate = .ok ()
  ofGame : room.gameId = Room.anyGame ∨ room.gameId = s.game.uniqueId ∨
    s.config.strictRoomGame = false
  counted : s.game.isHires?.isSome = true
  distinct : room.scriptNames.Nodup
  free : ∀ name ∈ room.scriptNames, s.outside.get? name = none
  imports : ∀ m, room.script = some m → ∀ i ∈ m.imports, s.outside.contains i = true ∨
    i ∈ room.scriptNames ∨ ∃ script ∈ s.scripts.gameScripts, i ∈ script.exports

/-- What `u` is when `room` has been entered in `s`. -/
structure Entered (s : Session) (room : Room) (u : Session) : Prop where
  hotspots : ∀ i h, room.hotspots.get? i = some h → h.scriptName ≠ "" →
    ∃ handle, u.registry.symbols.get? h.scriptName = some (.object handle .hotspot) ∧
      u.registry.resolve handle = .ok (.static ⟨.hotspot, i⟩, .hotspot)
  objects : ∀ i o, room.objects[i]? = some o → o.scriptName ≠ "" →
    ∃ handle, u.registry.symbols.get? o.scriptName = some (.object handle .object) ∧
      u.registry.resolve handle = .ok (.static ⟨.object, i⟩, .object)
  others : ∀ name, name ∉ room.scriptNames →
    u.registry.symbols.get? name = s.outside.get? name
  boundNames : u.boundNames = room.scriptNames
  /-- What the script of the room has been linked against is there. -/
  imports : ∀ m, room.script = some m → ∀ i ∈ m.imports, u.registry.symbols.contains i = true ∨
    ∃ script ∈ u.scripts.gameScripts, i ∈ script.exports

variable {s u : Session} {room fitted : Room} {number : Int32}

/-- A room of any game that names nothing and has no script needs only a screen whose pixels can be
counted. -/
theorem enterable_of_plain (counted : s.game.isHires?.isSome = true)
    (valid : room.validate = .ok ()) (ofAny : room.gameId = Room.anyGame)
    (nameless : room.scriptNames = []) (scriptless : room.script = none) : s.Enterable room where
  valid
  ofGame := .inl ofAny
  counted
  distinct := nameless ▸ List.nodup_nil
  free := by
    rw [nameless]
    exact List.forall_mem_nil _
  imports := by
    rw [scriptless]
    rintro _ ⟨⟩

/-! ## Names -/

theorem map_mapIdx_snd {α : Type} (items : List α) (entityOf : Nat → Entity) (own : α → String) :
    (items.mapIdx fun i a => (entityOf i, own a)).map (·.2) = items.map own := by
  apply List.ext_getElem?
  intro i
  simp only [List.getElem?_map, List.getElem?_mapIdx, Option.map_map]
  rfl

theorem map_namedEntities (r : Room) : (namedEntities r).map (·.2) = r.scriptNames := by
  have named : ∀ name : String, (!name.isEmpty) = decide (name ≠ "") := by
    intro name
    rw [Bool.eq_iff_iff]
    simp
  have all : (scriptNames r).map (·.2) =
      r.hotspots.toList.map (·.scriptName) ++ r.objects.map (·.scriptName) := by
    rw [scriptNames, List.map_append, map_mapIdx_snd, map_mapIdx_snd]
  rw [Room.scriptNames, ← all, List.filter_map, namedEntities]
  congr 1
  exact List.filter_congr fun pair _ => named pair.2

theorem hotspot_mem_namedEntities {i : Nat} {h : Room.Hotspot}
    (here : room.hotspots.get? i = some h) (named : h.scriptName ≠ "") :
    ((⟨.hotspot, i⟩ : Entity), h.scriptName) ∈ namedEntities room := by
  obtain ⟨low, rfl⟩ := List.getElem?_eq_some_iff.mp here
  refine List.mem_filter.mpr ⟨List.mem_append_left _ (List.mem_mapIdx.mpr ⟨i, low, rfl⟩), ?_⟩
  simpa using named

theorem object_mem_namedEntities {i : Nat} {o : Room.Object}
    (here : room.objects[i]? = some o) (named : o.scriptName ≠ "") :
    ((⟨.object, i⟩ : Entity), o.scriptName) ∈ namedEntities room := by
  obtain ⟨low, rfl⟩ := List.getElem?_eq_some_iff.mp here
  refine List.mem_filter.mpr ⟨List.mem_append_right _ (List.mem_mapIdx.mpr ⟨i, low, rfl⟩), ?_⟩
  simpa using named

/-- The entities that rooms can give names to. -/
def Nameable (e : Entity) : Prop :=
  e.type = .hotspot ∧ e.index < Room.maxHotspots ∨ e.type = .object ∧ e.index < Room.maxObjects

theorem nameable_of_mem (few : room.objects.length ≤ Room.maxObjects) {pair : Entity × String}
    (listed : pair ∈ namedEntities room) : Nameable pair.1 := by
  rcases List.mem_append.mp (List.mem_of_mem_filter listed) with hotspot | object
  · obtain ⟨i, low, rfl⟩ := List.mem_mapIdx.mp hotspot
    exact .inl ⟨rfl, Nat.lt_of_lt_of_le low room.hotspots.length_le⟩
  · obtain ⟨i, low, rfl⟩ := List.mem_mapIdx.mp object
    exact .inr ⟨rfl, Nat.lt_of_lt_of_le low few⟩

/-! ## Sessions that take rooms in -/

/-- A session that is ready for rooms: everything that a room can name has a handle, and what is
known of exported symbols is what scripts export. -/
structure Hosting (s : Session) : Prop where
  ready : s.isReady = true
  coherent : s.registry.Coherent
  entities : ∀ e, Nameable e → ∃ handle, s.registry.handleFor (.static e) e.type = some handle
  consistent : s.scripts.Consistent

theorem hosting_deeds {config : Config} {b : Bundle} {accepts : Font.Request → Bool} {a : Attempt}
    (started : (Session.new config).start b accepts {} = (.ok (), a)) (l : List Deed) :
    (a.session.deeds l).Hosting := by
  have start := savable_start started
  have coherent := (savable_deeds start l).coherent
  have same := sameGrounds_deeds start l
  refine ⟨?_, coherent, ?_, ?_⟩
  · rw [isReady, same.phase, (phases_of_start started).2]
    rfl
  · intro e nameable
    have enrolled : e.index < b.game.enrolledCount e.type := by
      rcases nameable with ⟨type, low⟩ | ⟨type, low⟩
      · rwa [type]
      · rwa [type]
    obtain ⟨handle, resolved⟩ := ((start_registers started).entities e e.type).mpr ⟨rfl, enrolled⟩
    exact ⟨handle, (coherent.handleFor_iff_resolve ..).mpr
      ((same.entities handle e e.type).mpr resolved)⟩
  · -- where the script of a room stands is no concern of the others
    have kept : ((a.session.deeds l).scripts.withRoom none).Consistent := by
      rw [same.scripts]
      exact consistent_scripts started
    exact kept

/-! ## The trial -/

theorem exists_fitRoom_iff : (∃ fitted, s.fitRoom room = .ok fitted) ↔
    room.validate = .ok () ∧ (room.gameId = Room.anyGame ∨ room.gameId = s.game.uniqueId ∨
      s.config.strictRoomGame = false) ∧ s.game.isHires?.isSome = true := by
  simp only [fitRoom_eq_ok_iff, exists_and_left, Option.isSome_iff_exists]
  constructor
  · rintro ⟨valid, ofGame, -, hires, counted, -⟩
    exact ⟨valid, ofGame, hires, counted⟩
  · rintro ⟨valid, ofGame, hires, counted⟩
    exact ⟨valid, ofGame, _, hires, counted, rfl⟩

theorem script_fitRoom (fits : s.fitRoom room = .ok fitted) : fitted.script = room.script := by
  obtain ⟨-, -, hires, -, rfl⟩ := fitRoom_eq_ok_iff.mp fits
  rw [Room.shown_eq]

/-- A room keeps its names when it is made to fit. -/
theorem namedEntities_fitRoom (fits : s.fitRoom room = .ok fitted) :
    namedEntities fitted = namedEntities room := by
  have same := sameTexts_fitRoom fits
  rw [namedEntities, scriptNames, same.hotspots, same.objects]
  rfl

/-- A name of a room with the handle that its entity has. -/
def named (r : Registry) (pair : Entity × String) : RoomName :=
  { name := pair.2, handle := (r.handleFor (.static pair.1) pair.1.type).getD 0
    type := pair.1.type }

theorem mapM_eq_ok_map {ε α β : Type} {f : α → Except ε β} {g : α → β} {items : List α}
    (each : ∀ a ∈ items, f a = .ok (g a)) : items.mapM f = .ok (items.map g) := by
  induction items with
  | nil => rfl
  | cons a rest hyp =>
    obtain ⟨here, each⟩ := List.forall_mem_cons.mp each
    rw [List.mapM_cons, here, hyp each]
    rfl

theorem Hosting.roomNames_eq (hosting : s.Hosting) (few : room.objects.length ≤ Room.maxObjects) :
    roomNames s.registry room = .ok ((namedEntities room).map (named s.registry)) := by
  refine mapM_eq_ok_map ?_
  intro pair listed
  obtain ⟨handle, known⟩ := hosting.entities pair.1 (nameable_of_mem few listed)
  show roomName s.registry pair.1 pair.2 = _
  simp only [roomName, named, known, Option.getD_some]

theorem exists_linkRoomScript_iff (consistent : s.scripts.Consistent) {symbols : SymbolTable} :
    (∃ script, s.linkRoomScript symbols room number = .ok script) ↔
      ∀ m, room.script = some m → ∀ i ∈ m.imports, symbols.contains i = true ∨
        ∃ script ∈ s.scripts.gameScripts, i ∈ script.exports := by
  unfold linkRoomScript
  cases room.script with
  | none => simp
  | some m =>
    simp only [Option.some.injEq, forall_eq']
    rw [← consistent.linksRooms symbols m number]
    cases s.scripts.linkRoom symbols m number with
    | error fault => simp [Except.map]
    | ok script => simp [Except.map]

/-- The names of a room bound among symbols. -/
def bindNames (s : Session) (room : Room) (symbols : SymbolTable) :
    Except Registry.Fault SymbolTable :=
  (namedEntities room).foldlM
    (fun t pair => t.bind pair.2 (.object (named s.registry pair).handle pair.1.type)) symbols

/-- What a trial finds out, told by the room that is tried. -/
theorem Hosting.prepareEntry_eq_ok_iff (hosting : s.Hosting) {entry : Entry} :
    s.prepareEntry number room = .ok entry ↔ s.fitRoom room = .ok entry.room ∧
      entry.names = (namedEntities room).map (named s.registry) ∧
      ∃ symbols, s.bindNames room s.outside = .ok symbols ∧
        s.linkRoomScript symbols room number = .ok entry.script := by
  rw [Session.prepareEntry_eq_ok_iff, and_iff_right hosting.ready]
  refine and_congr_right fun fits => ?_
  have few : entry.room.objects.length ≤ Room.maxObjects := by
    obtain ⟨-, few, -⟩ := Room.validate_eq_ok_iff.mp (exists_fitRoom_iff.mp ⟨_, fits⟩).1
    rwa [(sameTexts_fitRoom fits).objects]
  have script (symbols : SymbolTable) : s.linkRoomScript symbols entry.room number =
      s.linkRoomScript symbols room number := by
    rw [linkRoomScript, linkRoomScript, script_fitRoom fits]
  rw [hosting.roomNames_eq few, namedEntities_fitRoom fits, Except.ok.injEq, eq_comm]
  refine and_congr_right fun names => ?_
  simp only [names, rehearse_eq, List.foldlM_map, script]
  rfl

theorem bindNames_eq_ok_iff {symbols : SymbolTable} :
    (∃ after, s.bindNames room symbols = .ok after) ↔
      room.scriptNames.Nodup ∧ ∀ name ∈ room.scriptNames, symbols.get? name = none := by
  rw [← map_namedEntities]
  exact SymbolTable.exists_foldlM_bind_iff

theorem contains_bindNames {symbols after : SymbolTable}
    (bound : s.bindNames room symbols = .ok after) (name : String) :
    after.contains name = true ↔ symbols.contains name = true ∨ name ∈ room.scriptNames := by
  rw [← map_namedEntities]
  exact SymbolTable.contains_foldlM_bind bound name

theorem Hosting.exists_entry_iff (hosting : s.Hosting) (number : Int32) :
    (∃ entry, s.prepareEntry number room = .ok entry) ↔ s.Enterable room := by
  constructor
  · rintro ⟨entry, prepared⟩
    obtain ⟨fits, -, symbols, bound, linked⟩ := hosting.prepareEntry_eq_ok_iff.mp prepared
    obtain ⟨valid, ofGame, counted⟩ := exists_fitRoom_iff.mp ⟨_, fits⟩
    obtain ⟨distinct, free⟩ := bindNames_eq_ok_iff.mp ⟨_, bound⟩
    refine ⟨valid, ofGame, counted, distinct, free, ?_⟩
    intro m script i listed
    rw [← or_assoc, ← contains_bindNames bound]
    exact (exists_linkRoomScript_iff hosting.consistent).mp ⟨_, linked⟩ m script i listed
  · intro enterable
    obtain ⟨fitted, fits⟩ := exists_fitRoom_iff.mpr
      ⟨enterable.valid, enterable.ofGame, enterable.counted⟩
    obtain ⟨symbols, bound⟩ := bindNames_eq_ok_iff.mpr ⟨enterable.distinct, enterable.free⟩
    obtain ⟨script, linked⟩ : ∃ script, s.linkRoomScript symbols room number = .ok script := by
      refine (exists_linkRoomScript_iff hosting.consistent).mpr ?_
      intro m script i listed
      rw [contains_bindNames bound, or_assoc]
      exact enterable.imports m script i listed
    exact ⟨⟨fitted, _, script⟩,
      hosting.prepareEntry_eq_ok_iff.mpr ⟨fits, rfl, symbols, bound, linked⟩⟩

theorem Hosting.enterRoom_ok_iff (hosting : s.Hosting) :
    (s.enterRoom number room).1 = .ok () ↔ s.Enterable room := by
  rw [enterRoom_fst hosting.coherent, ← hosting.exists_entry_iff number]
  cases s.prepareEntry number room with
  | error fault => simp [Except.map]
  | ok entry => simp [Except.map]

/-! ## Afterwards -/

/-- A name that has been bound stands for the handle of its own entity. -/
theorem Hosting.get?_bindNames (hosting : s.Hosting) (few : room.objects.length ≤ Room.maxObjects)
    {symbols after : SymbolTable} (bound : s.bindNames room symbols = .ok after)
    {pair : Entity × String} (listed : pair ∈ namedEntities room) :
    ∃ handle, after.get? pair.2 = some (.object handle pair.1.type) ∧
      s.registry.resolve handle = .ok (.static pair.1, pair.1.type) := by
  obtain ⟨handle, known⟩ := hosting.entities pair.1 (nameable_of_mem few listed)
  refine ⟨handle, ?_, (hosting.coherent.handleFor_iff_resolve ..).mp known⟩
  rw [SymbolTable.get?_foldlM_bind_of_mem bound pair listed]
  simp only [named, known, Option.getD_some]

theorem Hosting.entered (hosting : s.Hosting) (entered : s.enterRoom number room = (.ok (), u)) :
    s.Entered room u := by
  obtain ⟨entry, symbols, prepared, rehearsed, rfl⟩ := enterRoom_eq_ok hosting.coherent entered
  obtain ⟨fits, names, tried, bound, linked⟩ := hosting.prepareEntry_eq_ok_iff.mp prepared
  -- what has been tried is what has been made
  obtain rfl : tried = symbols := by
    rw [rehearse_eq, names, List.foldlM_map] at rehearsed
    exact Except.ok.inj (bound.symm.trans rehearsed)
  obtain ⟨-, few, -⟩ := Room.validate_eq_ok_iff.mp (exists_fitRoom_iff.mp ⟨_, fits⟩).1
  exact {
    hotspots := fun i h here known =>
      hosting.get?_bindNames few bound (hotspot_mem_namedEntities here known)
    objects := fun i o here known =>
      hosting.get?_bindNames few bound (object_mem_namedEntities here known)
    others := by
      intro name unlisted
      rw [← map_namedEntities] at unlisted
      exact (SymbolTable.get?_foldlM_bind bound name).2 unlisted
    boundNames := by
      show entry.names.map (·.name) = room.scriptNames
      rw [names, List.map_map, ← map_namedEntities]
      rfl
    imports := by
      have same : s.leaveRoom.scripts.gameScripts = s.scripts.gameScripts := by
        show (s.leaveRoom.scripts.withRoom none).gameScripts = _
        rw [(sameGrounds_leaveRoom s).scripts]
        rfl
      have found := (exists_linkRoomScript_iff hosting.consistent).mp ⟨_, linked⟩
      rwa [← same] at found }

/-- After a start and any deeds, exactly the rooms that meet the demands are entered, and every
name of such a room stands for its own entity. -/
theorem enterRoom_exact {config : Config} {b : Bundle} {accepts : Font.Request → Bool}
    {a : Attempt} (started : (Session.new config).start b accepts {} = (.ok (), a))
    (l : List Deed) (number : Int32) (room : Room) :
    let s := a.session.deeds l
    ((s.enterRoom number room).1 = .ok () ↔ s.Enterable room) ∧
      ∀ u, s.enterRoom number room = (.ok (), u) → s.Entered room u := by
  intro s
  have hosting : s.Hosting := hosting_deeds started l
  exact ⟨hosting.enterRoom_ok_iff, fun u => hosting.entered⟩

/-- A game without contents of its own leaves the names of rooms free. -/
theorem get?_bare {a : Attempt}
    (started : (Session.new {}).start bare (fun _ => true) {} = (.ok (), a)) :
    a.session.registry.symbols.get? "hDoor" = none := by
  have nothing : ∀ e name record, ¬ bare.game.Authored e name record := by
    intro e name record authored
    cases authored <;> simp_all [bare]
  have arrays : ∀ x ∈ bare.game.exportedArrays, x.symbol ≠ "hDoor" := by decide
  cases found : a.session.registry.symbols.get? "hDoor" with
  | none => rfl
  | some symbol =>
    rcases ((start_registers started).symbols "hDoor" symbol).mp found with
      ⟨e, record, authored, -⟩ | ⟨array, listed, named, -⟩ | ⟨-, named, -⟩ | ⟨listed, -⟩ |
        ⟨named, -⟩
    · exact absurd authored (nothing e "hDoor" record)
    · exact absurd named (arrays array listed)
    · exact absurd named (by decide)
    · exact absurd listed (by decide)
    · exact absurd named (by decide)

/-- When a room with a door is tried, the door has the handle that is known of it. -/
theorem prepareEntry_hall (number : Int32) {handle : Handle} (ready : s.isReady = true)
    (counted : s.game.isHires?.isSome = true)
    (known : s.registry.handleFor (.static ⟨.hotspot, 0⟩) .hotspot = some handle)
    (free : s.outside.get? "hDoor" = none) :
    ∃ entry, s.prepareEntry number hall = .ok entry ∧
      entry.names = [⟨"hDoor", handle, .hotspot⟩] := by
  obtain ⟨fitted, fits⟩ : ∃ fitted, s.fitRoom hall = .ok fitted :=
    exists_fitRoom_iff.mpr ⟨rfl, .inl rfl, counted⟩
  have listed : namedEntities hall = [(⟨.hotspot, 0⟩, "hDoor")] := by decide
  have names : roomNames s.registry fitted = .ok [⟨"hDoor", handle, .hotspot⟩] := by
    simp only [roomNames, namedEntities_fitRoom fits, listed, List.mapM_cons, List.mapM_nil,
      roomName, known]
    rfl
  have vacant : s.outside.contains "hDoor" = false := by rw [SymbolTable.contains, free]; rfl
  obtain ⟨symbols, rehearsed⟩ : ∃ symbols,
      rehearse s.registry.symbols s.boundNames [⟨"hDoor", handle, .hotspot⟩] = .ok symbols := by
    simp only [rehearse_eq, List.foldlM_cons, SymbolTable.bind, vacant]
    exact ⟨_, rfl⟩
  have linked : s.linkRoomScript symbols fitted number = .ok none := by
    rw [linkRoomScript, script_fitRoom fits]
    rfl
  exact ⟨⟨fitted, _, none⟩,
    prepareEntry_eq_ok_iff.mpr ⟨ready, fits, names, symbols, rehearsed, linked⟩, rfl⟩

theorem counted_bare {a : Attempt}
    (started : (Session.new {}).start bare (fun _ => true) {} = (.ok (), a)) :
    a.session.game.isHires?.isSome = true := by
  rw [game, (lists_start started).2.1]
  rfl

/-- After a start without contents, a room with a door is entered, and could be again. -/
theorem hall_entered : ∃ a t, (Session.new {}).start bare (fun _ => true) {} = (.ok (), a) ∧
    a.session.enterRoom 1 hall = (.ok (), t) ∧ t.room ≠ none ∧ t.isReady = true ∧
      t.game.isHires?.isSome = true ∧ t.outside.get? "hDoor" = none := by
  obtain ⟨a, started⟩ := start_bare
  have hosting : a.session.Hosting := hosting_deeds started []
  have free : a.session.outside.get? "hDoor" = none := by
    rw [outside, boundNames, (vacant_start rfl rfl rfl started).toRoomless.room]
    exact get?_bare started
  obtain ⟨handle, known⟩ := hosting.entities ⟨.hotspot, 0⟩ (.inl ⟨rfl, by decide⟩)
  obtain ⟨tried, prepared, -⟩ := prepareEntry_hall 1 hosting.ready (counted_bare started) known free
  obtain ⟨t, entered⟩ : ∃ t, a.session.enterRoom 1 hall = (.ok (), t) := by
    refine ⟨_, Prod.ext ?_ rfl⟩
    rw [enterRoom_fst hosting.coherent, prepared]
    rfl
  obtain ⟨entry, symbols, -, rehearsed, result⟩ := enterRoom_eq_ok hosting.coherent entered
  have same : a.session.SameGrounds t := result ▸ sameGrounds_settle rehearsed
  refine ⟨a, t, started, entered, ?_, ?_, ?_, same.outside ▸ free⟩
  · rw [result]
    exact Option.some_ne_none _
  · rw [isReady, same.phase]
    exact hosting.ready
  · rw [same.isHires]
    exact counted_bare started

/-- A room with a name can be entered from itself. -/
theorem enterRoom_hall_again :
    ∃ a u, (Session.new {}).start bare (fun _ => true) {} = (.ok (), a) ∧
      let s := a.session.deeds [.move (.enter 1 hall)]
      s.Enterable hall ∧ s.enterRoom 2 hall = (.ok (), u) ∧ s.Entered hall u := by
  obtain ⟨a, started⟩ := start_bare
  obtain ⟨exact, entered⟩ := enterRoom_exact started [.move (.enter 1 hall)] 2 hall
  have same := sameGrounds_deeds (savable_start started) [.move (.enter 1 hall)]
  have enterable : (a.session.deeds [.move (.enter 1 hall)]).Enterable hall := by
    refine ⟨rfl, .inl rfl, same.isHires ▸ counted_bare started, by decide, ?_, nofun⟩
    intro name listed
    obtain rfl : name = "hDoor" := by simpa [hall, Room.scriptNames] using listed
    have roomless := (vacant_start rfl rfl rfl started).toRoomless
    rw [same.outside, outside, boundNames, roomless.room]
    exact get?_bare started
  have ended := exact.mpr enterable
  exact ⟨a, _, started, enterable, Prod.ext ended rfl, entered _ (Prod.ext ended rfl)⟩

/-- A game with more pixels on its screen than 32 bits count. Its fonts are loaded as they are. -/
def boundless : Bundle :=
  { game :=
      { fonts := [{}]
        resolutionClass := .custom
        customSize := some (65536, 65536)
        options := { noScaleFonts := true } } }

theorem start_boundless :
    ∃ a, (Session.new {}).start boundless (fun _ => true) {} = (.ok (), a) :=
  start_succeeds rfl (by decide +kernel) (by decide) rfl (fun _ => rfl) rfl

theorem game_boundless {a : Attempt}
    (started : (Session.new {}).start boundless (fun _ => true) {} = (.ok (), a)) :
    a.session.isReady = true ∧ a.session.game.isHires? = none := by
  refine ⟨(hosting_deeds started []).ready, ?_⟩
  rw [game, (lists_start started).2.1]
  rfl

/-- A blank room asks for nothing, and yet it is not entered there: the program stops. -/
theorem blank_not_entered :
    ∃ a, (Session.new {}).start boundless (fun _ => true) {} = (.ok (), a) ∧
      a.session.isReady = true ∧ ({} : Room).validate = .ok () ∧
      ({} : Room).gameId = Room.anyGame ∧ ({} : Room).scriptNames = [] ∧
      ({} : Room).script = none ∧ a.session.enterRoom 1 {} = (.error .overflow, a.session) := by
  obtain ⟨a, started⟩ := start_boundless
  obtain ⟨ready, uncounted⟩ := game_boundless started
  exact ⟨a, started, ready, rfl, rfl, by decide, rfl,
    enterRoom_of_uncounted ready rfl rfl uncounted 1⟩

end Session

end Adventure
