import Adventure.Proofs.Except
import Adventure.Proofs.Registry.Coherent
import Adventure.Proofs.Registry.Symbols
import Adventure.Proofs.Room.Normalised
import Adventure.Session.Room

/-! # A change of rooms depends on the game alone

Entering a room first rehearses the change of names and then makes it. The two agree whenever the
registry is coherent, so that nothing can fail once the room before has been left. What is found out
in preparation depends on the room before only through what leaving it takes back.

* `prepareEntry_leaveRoom` — an entry is prepared as if the room before had been left.
* `bindAll_eq_ok` — what has been rehearsed succeeds.
* `enterRoom_cases` — all that an entry can do.
-/

namespace Adventure.Session

variable {s t : Session} {number : Int32} {room fitted : Room} {entry : Entry}

/-! ## Leaving -/

theorem leaveRoom_of_none (none : s.room = none) : s.leaveRoom = s := by
  simp only [leaveRoom, none]

theorem leaveRoom_room (s : Session) : s.leaveRoom.room = none := by
  unfold leaveRoom
  cases found : s.room with
  | none => exact found
  | some room => rfl

/-- What leaving a room can change. -/
theorem leaveRoom_eq (s : Session) : s.leaveRoom = { s with
    registry := s.leaveRoom.registry
    scripts := s.leaveRoom.scripts
    world := { s.world with objects := s.leaveRoom.world.objects }
    room := none } := by
  unfold leaveRoom
  cases found : s.room with
  | none => exact congrArg (fun room => { s with room }) found
  | some room => rfl

theorem leaveRoom_world (s : Session) :
    s.leaveRoom.world = { s.world with objects := s.leaveRoom.world.objects } :=
  congrArg Session.world s.leaveRoom_eq

theorem leaveRoom_leaveRoom (s : Session) : s.leaveRoom.leaveRoom = s.leaveRoom :=
  leaveRoom_of_none s.leaveRoom_room

theorem unbindAll_eq (r : Registry) (names : List String) :
    unbindAll r names = { r with symbols := names.foldl .unbind r.symbols } := by
  induction names generalizing r with
  | nil => rfl
  | cons name rest hyp => exact hyp _

/-- Leaving a room changes nothing about handles, and frees the names of the room. -/
theorem leaveRoom_registry (s : Session) : s.leaveRoom.registry =
    { s.registry with symbols := s.boundNames.foldl .unbind s.registry.symbols } := by
  unfold leaveRoom boundNames
  cases s.room with
  | none => rfl
  | some room => exact unbindAll_eq _ _

theorem leaveRoom_boundNames (s : Session) : s.leaveRoom.boundNames = [] := by
  rw [boundNames, leaveRoom_room]
  rfl

/-! ## Preparing -/

theorem fitRoom_eq_ok_iff : s.fitRoom room = .ok fitted ↔ room.validate = .ok () ∧
    (room.gameId = Room.anyGame ∨ room.gameId = s.game.uniqueId ∨
      s.config.strictRoomGame = false) ∧
    ∃ hires, s.game.isHires? = some hires ∧ fitted = room.shown hires := by
  have accepted : ¬ (s.config.strictRoomGame && !room.acceptsGame s.game.uniqueId) = true ↔
      room.gameId = Room.anyGame ∨ room.gameId = s.game.uniqueId ∨
        s.config.strictRoomGame = false := by
    unfold Room.acceptsGame
    cases s.config.strictRoomGame with
    | true => simp [or_iff_not_imp_left]
    | false => simp
  unfold fitRoom
  constructor
  · intro fits
    obtain ⟨⟨⟩, valid, fits⟩ := except_bind_eq_ok.mp fits
    have valid := except_mapError_eq_ok.mp valid
    obtain ⟨ofGame, fits⟩ := refusal_eq_ok.mp fits
    refine ⟨valid, accepted.mp ofGame, ?_⟩
    cases counted : s.game.isHires? with
    | none => rw [counted] at fits; cases fits
    | some hires =>
      rw [counted] at fits
      obtain ⟨result, upscaled, fixed⟩ := except_bind_eq_ok.mp fits
      have shown := Room.fixMasks_of_upscale valid (except_mapError_eq_ok.mp upscaled)
      exact ⟨hires, rfl, Except.ok.inj ((except_mapError_eq_ok.mp fixed).symm.trans shown)⟩
  · rintro ⟨valid, ofGame, hires, counted, rfl⟩
    obtain ⟨result, upscaled⟩ := Room.exists_upscale valid hires
    have fixed := Room.fixMasks_of_upscale valid upscaled
    refine except_bind_eq_ok.mpr ⟨(), except_mapError_eq_ok.mpr valid, ?_⟩
    refine refusal_eq_ok.mpr ⟨accepted.mpr ofGame, ?_⟩
    rw [counted]
    refine except_bind_eq_ok.mpr ⟨result, except_mapError_eq_ok.mpr upscaled, ?_⟩
    exact except_mapError_eq_ok.mpr fixed

/-- A room is not shown in a game whose pixels cannot be counted: the program stops. -/
theorem fitRoom_of_uncounted (valid : room.validate = .ok ()) (ofGame : room.gameId = Room.anyGame)
    (uncounted : s.game.isHires? = none) : s.fitRoom room = .error .overflow := by
  have accepted : (s.config.strictRoomGame && !room.acceptsGame s.game.uniqueId) = false := by
    simp [Room.acceptsGame, ofGame]
  unfold fitRoom
  rw [valid, accepted, uncounted]
  rfl

theorem enterRoom_of_uncounted (ready : s.isReady = true) (valid : room.validate = .ok ())
    (ofGame : room.gameId = Room.anyGame) (uncounted : s.game.isHires? = none) (number : Int32) :
    s.enterRoom number room = (.error .overflow, s) := by
  unfold enterRoom prepareEntry
  rw [ready, fitRoom_of_uncounted valid ofGame uncounted]
  rfl

theorem leaveRoom_isReady (s : Session) : s.leaveRoom.isReady = s.isReady := by
  rw [leaveRoom_eq]
  rfl

theorem leaveRoom_fitRoom (s : Session) (room : Room) :
    s.leaveRoom.fitRoom room = s.fitRoom room := by
  rw [leaveRoom_eq]
  rfl

theorem leaveRoom_linkRoomScript (s : Session) (symbols : SymbolTable) (room : Room)
    (number : Int32) :
    s.leaveRoom.linkRoomScript symbols room number = s.linkRoomScript symbols room number := by
  unfold leaveRoom
  cases s.room with
  | none => rfl
  | some room => rfl

theorem roomNames_withSymbols (r : Registry) (symbols : SymbolTable) (room : Room) :
    roomNames { r with symbols } room = roomNames r room := rfl

theorem leaveRoom_rehearse (s : Session) (names : List RoomName) :
    rehearse s.leaveRoom.registry.symbols s.leaveRoom.boundNames names =
      rehearse s.registry.symbols s.boundNames names := by
  rw [leaveRoom_boundNames, leaveRoom_registry]
  rfl

theorem prepareEntry_leaveRoom (s : Session) (number : Int32) (room : Room) :
    s.leaveRoom.prepareEntry number room = s.prepareEntry number room := by
  have names : ∀ fitted, roomNames s.leaveRoom.registry fitted = roomNames s.registry fitted := by
    intro fitted
    rw [leaveRoom_registry, roomNames_withSymbols]
  simp only [prepareEntry, leaveRoom_isReady, leaveRoom_fitRoom, names, leaveRoom_rehearse,
    leaveRoom_linkRoomScript]

theorem prepareEntry_eq_ok_iff : s.prepareEntry number room = .ok entry ↔
    s.isReady = true ∧ s.fitRoom room = .ok entry.room ∧
      roomNames s.registry entry.room = .ok entry.names ∧
      ∃ symbols, rehearse s.registry.symbols s.boundNames entry.names = .ok symbols ∧
        s.linkRoomScript symbols entry.room number = .ok entry.script := by
  simp only [prepareEntry, demand_eq_ok]
  refine and_congr_right fun _ => ?_
  constructor
  · intro prepared
    obtain ⟨fitted, fits, prepared⟩ := except_bind_eq_ok.mp prepared
    obtain ⟨names, found, prepared⟩ := except_bind_eq_ok.mp prepared
    obtain ⟨symbols, rehearsed, prepared⟩ := except_bind_eq_ok.mp prepared
    obtain ⟨script, linked, complete⟩ := except_bind_eq_ok.mp prepared
    obtain rfl := Except.ok.inj complete
    exact ⟨fits, except_mapError_eq_ok.mp found, symbols, except_mapError_eq_ok.mp rehearsed,
      linked⟩
  · rintro ⟨fits, found, symbols, rehearsed, linked⟩
    refine except_bind_eq_ok.mpr ⟨_, fits, ?_⟩
    refine except_bind_eq_ok.mpr ⟨_, except_mapError_eq_ok.mpr found, ?_⟩
    refine except_bind_eq_ok.mpr ⟨_, except_mapError_eq_ok.mpr rehearsed, ?_⟩
    exact except_bind_eq_ok.mpr ⟨_, linked, rfl⟩

theorem prepareEntry_eq_ok (prepared : s.prepareEntry number room = .ok entry) :
    s.isReady ∧ s.fitRoom room = .ok entry.room ∧
      roomNames s.registry entry.room = .ok entry.names ∧
      ∃ symbols, rehearse s.registry.symbols s.boundNames entry.names = .ok symbols := by
  obtain ⟨ready, fits, found, symbols, rehearsed, -⟩ := prepareEntry_eq_ok_iff.mp prepared
  exact ⟨ready, fits, found, symbols, rehearsed⟩

/-! ## Binding -/

/-- The handle of a room's name is there, and of the type that the name will have. -/
theorem roomNames_live {r : Registry} (coherent : r.Coherent) {names : List RoomName}
    (found : roomNames r room = .ok names) :
    ∀ n ∈ names, ∃ l, r.live n.handle = .ok l ∧ l.type = n.type := by
  intro n listed
  obtain ⟨⟨e, name⟩, -, named⟩ := mem_of_mapM_eq_ok found listed
  simp only [roomName] at named
  cases known : r.handleFor (.static e) e.type with
  | none => rw [known] at named; cases named
  | some handle =>
    rw [known] at named
    obtain rfl := Except.ok.inj named
    obtain ⟨references, entry⟩ := coherent.handleFor_iff.mp known
    exact ⟨⟨.static e, e.type, references⟩, Registry.live_eq_ok_iff.mpr entry, rfl⟩

theorem bindAll_eq_ok {r : Registry} {names : List RoomName} {symbols : SymbolTable}
    (live : ∀ n ∈ names, ∃ l, r.live n.handle = .ok l ∧ l.type = n.type)
    (rehearsed : names.foldlM (fun t n => t.bind n.name (.object n.handle n.type)) r.symbols =
      .ok symbols) : bindAll names r = (.ok (), { r with symbols }) := by
  induction names generalizing r with
  | nil =>
    obtain rfl := Except.ok.inj rehearsed
    rfl
  | cons n rest hyp =>
    obtain ⟨l, there, sameType⟩ := live n List.mem_cons_self
    rw [List.foldlM_cons] at rehearsed
    obtain ⟨first, bound, later⟩ := except_bind_eq_ok.mp rehearsed
    have step : r.bindHandle n.name n.handle = .ok { r with symbols := first } := by
      rw [Registry.bindHandle_eq there, sameType, Registry.bindSymbol, bound]
      rfl
    -- binding a name leaves the handles alone
    have others : ∀ n ∈ rest, ∃ l,
        ({ r with symbols := first } : Registry).live n.handle = .ok l ∧ l.type = n.type :=
      fun n listed => live n (List.mem_cons_of_mem _ listed)
    rw [bindAll, step]
    exact hyp others later

/-! ## Entering -/

theorem bindAll_of_prepareEntry (coherent : s.registry.Coherent)
    (prepared : s.prepareEntry number room = .ok entry) :
    ∃ symbols, rehearse s.registry.symbols s.boundNames entry.names = .ok symbols ∧
      bindAll entry.names s.leaveRoom.registry = (.ok (), { s.registry with symbols }) := by
  obtain ⟨-, -, found, symbols, rehearsed⟩ := prepareEntry_eq_ok prepared
  refine ⟨symbols, rehearsed, ?_⟩
  rw [leaveRoom_registry]
  -- freeing names does not touch handles, so that the names of the new room keep theirs
  have live := roomNames_live coherent found
  exact bindAll_eq_ok live rehearsed

/-- All that an entry can do: fail in preparation and change nothing, or succeed. -/
theorem enterRoom_cases (coherent : s.registry.Coherent) (number : Int32) (room : Room) :
    (∃ fault, s.prepareEntry number room = .error fault ∧
      s.enterRoom number room = (.error fault, s)) ∨
    (∃ entry symbols, s.prepareEntry number room = .ok entry ∧
      rehearse s.registry.symbols s.boundNames entry.names = .ok symbols ∧
      s.enterRoom number room =
        (.ok (), { s.leaveRoom with registry := { s.registry with symbols } }.settle number
          entry)) := by
  cases prepared : s.prepareEntry number room with
  | error fault => exact .inl ⟨fault, rfl, by rw [enterRoom, prepared]⟩
  | ok entry =>
    obtain ⟨symbols, rehearsed, bound⟩ := bindAll_of_prepareEntry coherent prepared
    exact .inr ⟨entry, symbols, rfl, rehearsed, by simp only [enterRoom, prepared, bound]⟩

theorem enterRoom_eq_ok (coherent : s.registry.Coherent)
    (entered : s.enterRoom number room = (.ok (), t)) :
    ∃ entry symbols, s.prepareEntry number room = .ok entry ∧
      rehearse s.registry.symbols s.boundNames entry.names = .ok symbols ∧
      t = { s.leaveRoom with registry := { s.registry with symbols } }.settle number entry := by
  rcases enterRoom_cases coherent number room with
    ⟨fault, -, failed⟩ | ⟨entry, symbols, prepared, rehearsed, succeeded⟩
  · rw [failed] at entered
    cases (Prod.mk.inj entered).1
  · rw [succeeded] at entered
    exact ⟨entry, symbols, prepared, rehearsed, (Prod.mk.inj entered).2.symm⟩

/-- Whatever the registry is like, an entry that succeeds has put its room in place. -/
theorem settle_of_enterRoom (entered : s.enterRoom number room = (.ok (), t)) :
    ∃ entry registry, s.prepareEntry number room = .ok entry ∧
      t = { s.leaveRoom with registry }.settle number entry := by
  unfold enterRoom at entered
  cases prepared : s.prepareEntry number room with
  | error fault =>
    rw [prepared] at entered
    cases (Prod.mk.inj entered).1
  | ok entry =>
    simp only [prepared] at entered
    cases bound : bindAll entry.names s.leaveRoom.registry with
    | mk outcome registry =>
      rw [bound] at entered
      cases outcome with
      | error fault => cases (Prod.mk.inj entered).1
      | ok _ => exact ⟨entry, registry, rfl, (Prod.mk.inj entered).2.symm⟩

/-- A successful entry is one from outside any room. -/
theorem enterRoom_leaveRoom (entered : s.enterRoom number room = (.ok (), t)) :
    s.leaveRoom.enterRoom number room = (.ok (), t) := by
  simp only [enterRoom, prepareEntry_leaveRoom, leaveRoom_leaveRoom] at entered ⊢
  cases prepared : s.prepareEntry number room with
  | error fault => rw [prepared] at entered; cases (Prod.mk.inj entered).1
  | ok entry => simpa only [prepared] using entered

/-! ## Entering and leaving again -/

/-- A session that no room has left a trace in. -/
structure Roomless (s : Session) : Prop where
  room : s.room = none
  script : s.scripts.room = none
  objects : s.world.objects = World.unboundSlots s.world.objects.length

theorem length_objectSlots (slots count : Nat) : (objectSlots slots count).length = slots := by
  simp [objectSlots]

/-- Leaving a room gives back the session that it was entered from. -/
theorem Roomless.leaveRoom_enterRoom (roomless : s.Roomless) (coherent : s.registry.Coherent)
    (entered : s.enterRoom number room = (.ok (), t)) : t.leaveRoom = s := by
  obtain ⟨entry, symbols, -, rehearsed, rfl⟩ := enterRoom_eq_ok coherent entered
  -- freeing the names that have been bound gives the symbols back
  have noNames : s.boundNames = [] := by rw [boundNames, roomless.room]; rfl
  rw [noNames] at rehearsed
  have symbols_eq : (entry.names.map (·.name)).foldl .unbind symbols = s.registry.symbols :=
    SymbolTable.foldl_unbind_of_foldlM_bind rehearsed
  have registry_eq : unbindAll { s.registry with symbols } (entry.names.map (·.name)) =
      s.registry := by
    rw [unbindAll_eq, symbols_eq]
  -- script and wrappers are as they are without a room
  have scripts_eq : (s.scripts.withRoom entry.script).withRoom none = s.scripts := by
    show { s.scripts with room := none } = s.scripts
    rw [← roomless.script]
  let filled := objectSlots s.world.objects.length entry.room.objects.length
  have objects_eq : World.unboundSlots filled.length = s.world.objects := by
    rw [length_objectSlots, ← roomless.objects]
  rw [leaveRoom_of_none roomless.room]
  show { s with
    registry := unbindAll { s.registry with symbols } (entry.names.map (·.name))
    scripts := (s.scripts.withRoom entry.script).withRoom none
    world := { s.world with objects := World.unboundSlots filled.length }
    room := none } = s
  rw [registry_eq, scripts_eq, objects_eq, ← roomless.room]

end Adventure.Session
