import Adventure.Proofs.Session.Enterable
import Adventure.Proofs.Session.Stock

/-! # What a change of rooms leaves in wrappers

Room objects get fresh wrappers in every room. Those of hotspots and regions belong to the game, and
entering a room leaves them alone: a word that a script has stored in one is read in the rooms
after.

* `read_deeds` — a word in the wrapper of a hotspot or region is the one that was stored last.
* `read_enterRoom` — wrappers in a room compared with those of a first room.
* `word_survives` — a word that is stored in one room and read in the next.
-/

namespace Adventure.Session

variable {s t u : Session} {word : Option StoredWord} {number : Int32} {room : Room}

/-- The entities that every room has, whose wrappers are made once. -/
def Lasting (e : Entity) : Prop := e.type = .hotspot ∨ e.type = .region

theorem Lasting.wrapped {e : Entity} (lasting : Lasting e) : World.Wrapped e.type := by
  rcases lasting with type | type <;> simp [World.Wrapped, type]

theorem Lasting.read_congr {e : Entity} (lasting : Lasting e) {w w' : World}
    (hotspots : w'.hotspots = w.hotspots) (regions : w'.regions = w.regions)
    (absent : Registry.Fault) (offset : Int) :
    w'.read (.static e) absent offset = w.read (.static e) absent offset := by
  have same : w'.wrappersOf e.type = w.wrappersOf e.type := by
    rcases lasting with type | type
    · rw [type]
      exact hotspots
    · rw [type]
      exact regions
  simp only [World.read, World.record?, World.entityRecord?_of_wrapped lasting.wrapped, same]

/-! ## Deeds -/

/-- What is read at an offset after a word has been stored. -/
def readAfter (word : Option StoredWord) (target : Target) (offset : Int)
    (before : Except Registry.Fault Int32) : Except Registry.Fault Int32 :=
  ((word.filter fun w => w.target = target ∧ w.offset = offset).map (.ok ·.value)).getD before

theorem Effect.read (effect : s.Effect word t) {e : Entity} (lasting : Lasting e)
    (absent : Registry.Fault) (offset : Int) : t.world.read (.static e) absent offset =
      readAfter word (.static e) offset (s.world.read (.static e) absent offset) := by
  cases effect with
  | noted errors => rfl
  | set m owner =>
    have world : (s.withOverrides m owner).world = s.world := by cases owner <;> rfl
    rw [world]
    rfl
  | @wrote target missing place value world wrote =>
    rw [World.read_write lasting.wrapped wrote, readAfter, Option.filter_some]
    by_cases here : target = .static e ∧ place = offset
    · simp [here]
    · simp [here]
  | counted live small => rfl
  | disposed live target => exact lasting.read_congr rfl rfl absent offset
  | left =>
    refine lasting.read_congr ?_ ?_ absent offset
    · rw [leaveRoom_world]
    · rw [leaveRoom_world]
  | entered prepared rehearsed =>
    refine lasting.read_congr ?_ ?_ absent offset
    · show s.leaveRoom.world.hotspots = _
      rw [leaveRoom_world]
    · show s.leaveRoom.world.regions = _
      rw [leaveRoom_world]

/-- Whatever happens, the word at an offset of such a wrapper is the one that a script has stored
there last. -/
theorem read_deeds (savable : s.store.Savable) {e : Entity} (lasting : Lasting e)
    (absent : Registry.Fault) (offset : Int) (l : List Deed) :
    (s.deeds l).world.read (.static e) absent offset =
      ((s.lastStored? (.static e) offset l).map .ok).getD
        (s.world.read (.static e) absent offset) := by
  induction l generalizing s with
  | nil => rfl
  | cons first rest hyp =>
    have effect := effect_deed savable.coherent first
    have here := effect.read lasting absent offset
    show ((s.deed first).deeds rest).world.read (.static e) absent offset = _
    rw [hyp (effect.savable savable), here, lastStored?, storedAt?, readAfter]
    cases lastStored? (s.deed first) (.static e) offset rest with
    | some value => rfl
    | none => simp [Option.map_map]; rfl

theorem length_objects_deeds (savable : s.store.Savable) (l : List Deed) :
    (s.deeds l).world.objects.length = s.world.objects.length :=
  (sameStock_deeds savable.coherent l).slots

/-! ## Entering -/

/-- The wrappers in a room that has been entered. -/
theorem wrappers_enterRoom (coherent : s.registry.Coherent)
    (entered : s.enterRoom number room = (.ok (), u)) :
    u.world.hotspots = s.world.hotspots ∧ u.world.regions = s.world.regions ∧
      ∃ entry, s.prepareEntry number room = .ok entry ∧
        u.world.objects = objectSlots s.world.objects.length entry.room.objects.length := by
  obtain ⟨entry, symbols, prepared, -, rfl⟩ := enterRoom_eq_ok coherent entered
  refine ⟨?_, ?_, entry, prepared, ?_⟩
  · show s.leaveRoom.world.hotspots = _
    rw [leaveRoom_world]
  · show s.leaveRoom.world.regions = _
    rw [leaveRoom_world]
  · show objectSlots s.leaveRoom.world.objects.length _ = _
    rw [length_objects_leaveRoom]

/-- Wrappers in a room compared with those of the same room entered first: room objects are as
fresh, and hotspots and regions too but for words that scripts have stored since the start. -/
theorem read_enterRoom {config : Config} {b : Bundle} {accepts : Font.Request → Bool} {a : Attempt}
    (started : (Session.new config).start b accepts {} = (.ok (), a)) (l : List Deed)
    (entered : (a.session.deeds l).enterRoom number room = (.ok (), u)) :
    ∃ first, a.session.enterRoom number room = (.ok (), first) ∧
      (∀ index absent offset, u.world.read (.static ⟨.object, index⟩) absent offset =
        first.world.read (.static ⟨.object, index⟩) absent offset) ∧
      ∀ e, Lasting e → ∀ absent offset, u.world.read (.static e) absent offset =
        ((a.session.lastStored? (.static e) offset l).map .ok).getD
          (first.world.read (.static e) absent offset) := by
  have savable := savable_start started
  have coherent := (savable_deeds savable l).coherent
  obtain ⟨hotspots, regions, entry, prepared, objects⟩ := wrappers_enterRoom coherent entered
  -- the room is entered right after the start as well, and is made to fit in the same way
  rw [(sameGrounds_deeds savable l).prepareEntry_eq savable.coherent coherent] at prepared
  rcases enterRoom_cases savable.coherent number room with
    ⟨fault, refused, -⟩ | ⟨again, symbols, -, -, succeeded⟩
  · rw [refused] at prepared
    cases prepared
  refine ⟨_, succeeded, ?_⟩
  obtain ⟨hotspots', regions', entry', prepared', objects'⟩ :=
    wrappers_enterRoom savable.coherent succeeded
  obtain rfl := Except.ok.inj (prepared.symm.trans prepared')
  rw [length_objects_deeds savable, ← objects'] at objects
  constructor
  · intro index absent offset
    simp only [World.read, World.record?, World.entityRecord?, objects]
  · intro e lasting absent offset
    rw [lasting.read_congr hotspots regions, lasting.read_congr hotspots' regions',
      read_deeds savable lasting]

/-! ## A word that stays -/

theorem stored?_writeArray {symbol : String} {offset : Int} {value : Int32} {array : StaticArray}
    {place : Entity × Int} (done : (s.writeArray symbol offset value).1 = .ok ())
    (found : s.registry.symbols.array symbol = .ok array)
    (located : (array.locate offset).toOption = some place) :
    s.stored? (.call (.writeArray symbol offset value)) =
      some ⟨.static place.1, place.2, value⟩ := by
  simp only [stored?, done, found]
  show (array.locate offset).toOption.map _ = _
  rw [located]
  rfl

/-- A script stores a word in the wrapper of the first hotspot. -/
def scribble : Deed := .call (.writeArray "hotspot" 4 7)

def hotspotArray : StaticArray := Game.wholeArray "hotspot" .hotspot Room.maxHotspots

theorem stored?_scribble {a : Attempt}
    (started : (Session.new {}).start bare (fun _ => true) {} = (.ok (), a)) :
    a.session.stored? scribble = some ⟨.static ⟨.hotspot, 0⟩, 4, 7⟩ := by
  have listed : hotspotArray ∈ bare.game.exportedArrays := by decide
  have exported : a.session.registry.symbols.get? "hotspot" = some (.array hotspotArray) :=
    ((start_registers started).symbols "hotspot" _).mpr
      (.inr (.inl ⟨hotspotArray, listed, rfl, rfl⟩))
  have found : a.session.registry.symbols.array "hotspot" = .ok hotspotArray := by
    rw [SymbolTable.array, exported]
  have world : a.session.world = startedWorld bare.game := (lists_start started).2.1
  have located : (hotspotArray.locate 4).toOption = some (⟨.hotspot, 0⟩, 4) := by decide +kernel
  have within : (hotspotArray.write (startedWorld bare.game) 4 7).isOk = true := by decide +kernel
  have done : (a.session.writeArray "hotspot" 4 7).1 = .ok () := by
    cases wrote : hotspotArray.write (startedWorld bare.game) 4 7 with
    | error fault =>
      rw [wrote] at within
      cases within
    | ok after =>
      rw [writeArray_eq, found, world]
      simp only [Except.bind, wrote]
      rfl
  exact stored?_writeArray done found located

/-- The session before and after, with a blank room entered at once and after the word. -/
theorem entered_blank : ∃ a u first,
    (Session.new {}).start bare (fun _ => true) {} = (.ok (), a) ∧
      (a.session.deeds [scribble]).enterRoom 1 {} = (.ok (), u) ∧
      a.session.enterRoom 1 {} = (.ok (), first) := by
  obtain ⟨a, started⟩ := start_bare
  have blank : ∀ l, ((a.session.deeds l).enterRoom 1 {}).1 = .ok () := by
    intro l
    have same := sameGrounds_deeds (savable_start started) l
    have counted : (a.session.deeds l).game.isHires?.isSome = true :=
      same.isHires ▸ counted_bare started
    exact (hosting_deeds started l).enterRoom_ok_iff.mpr
      (enterable_of_plain counted rfl rfl rfl rfl)
  exact ⟨a, _, _, started, Prod.ext (blank [scribble]) rfl, Prod.ext (blank []) rfl⟩

theorem read_enterRoom_scribble : ∃ a u first,
    (Session.new {}).start bare (fun _ => true) {} = (.ok (), a) ∧
      (a.session.deeds [scribble]).enterRoom 1 {} = (.ok (), u) ∧
      a.session.enterRoom 1 {} = (.ok (), first) ∧
      ∀ e, Lasting e → ∀ absent offset, u.world.read (.static e) absent offset =
        ((a.session.lastStored? (.static e) offset [scribble]).map .ok).getD
          (first.world.read (.static e) absent offset) := by
  obtain ⟨a, u, -, started, entered, -⟩ := entered_blank
  obtain ⟨first, alone, -, lasting⟩ := read_enterRoom started [scribble] entered
  exact ⟨a, u, first, started, entered, alone, lasting⟩

/-- A word that has been stored in the wrapper of a hotspot is read in the room that is entered
next, where nothing has been stored. -/
theorem word_survives : ∃ a u first,
    (Session.new {}).start bare (fun _ => true) {} = (.ok (), a) ∧
      (a.session.deeds [scribble]).enterRoom 1 {} = (.ok (), u) ∧
      a.session.enterRoom 1 {} = (.ok (), first) ∧
      ∀ absent, u.world.read (.static ⟨.hotspot, 0⟩) absent 4 = .ok 7 ∧
        first.world.read (.static ⟨.hotspot, 0⟩) absent 4 = .ok 0 := by
  obtain ⟨a, u, first, started, entered, alone⟩ := entered_blank
  have savable := savable_start started
  have lasting : Lasting ⟨.hotspot, 0⟩ := .inl rfl
  refine ⟨a, u, first, started, entered, alone, fun absent => ⟨?_, ?_⟩⟩
  · obtain ⟨hotspots, regions, -⟩ :=
      wrappers_enterRoom (savable_deeds savable [scribble]).coherent entered
    rw [lasting.read_congr hotspots regions, read_deeds savable lasting, lastStored?, storedAt?,
      stored?_scribble started]
    rfl
  · obtain ⟨hotspots, regions, -⟩ := wrappers_enterRoom savable.coherent alone
    rw [lasting.read_congr hotspots regions, (lists_start started).2.1]
    rfl

end Adventure.Session
