import Adventure.Proofs.Session.Reached

/-! # Rooms come and go without a trace

* `enterRoom_atomic` — an entry that fails leaves everything as it was, and once the room before has
  been left, nothing can fail any more.
* `moves_eq_lastEntered` — after any changes of rooms a session is what the last entry alone would
  have made of it. The names and handles of the game stay what they were.
-/

namespace Adventure.Session

variable {s t : Session} {images : List Bytes} {number : Int32} {room : Room}

/-! ## One entry -/

/-- An entry that fails changes nothing. What has been found possible in preparation is possible
after the room before has been left. -/
theorem enterRoom_atomic (reached : Reached s images) (number : Int32) (room : Room) :
    (∀ fault t, s.enterRoom number room = (.error fault, t) → t = s) ∧
      ∀ entry, s.prepareEntry number room = .ok entry →
        ∃ registry, bindAll entry.names s.leaveRoom.registry = (.ok (), registry) := by
  have coherent := reached.steady.1.coherent
  refine ⟨?_, ?_⟩
  · intro fault t failed
    rcases enterRoom_cases coherent number room with
      ⟨other, -, unchanged⟩ | ⟨entry, symbols, -, -, succeeded⟩
    · rw [unchanged] at failed
      exact (Prod.mk.inj failed).2.symm
    · rw [succeeded] at failed
      cases (Prod.mk.inj failed).1
  · intro entry prepared
    obtain ⟨symbols, -, bound⟩ := bindAll_of_prepareEntry coherent prepared
    exact ⟨_, bound⟩

theorem one_le_maxHotspots : 1 ≤ Room.maxHotspots := by decide

def hall : Room :=
  { hotspots := ⟨[{ name := "door", scriptName := "hDoor" }], one_le_maxHotspots⟩ }

def flat : Room := { width := 0 }

theorem enterRoom_flat_ne_ok (s : Session) (number : Int32) :
    (s.enterRoom number flat).1 ≠ .ok () := by
  unfold enterRoom
  cases prepared : s.prepareEntry number flat with
  | error fault => exact nofun
  | ok entry =>
    obtain ⟨-, fits, -⟩ := prepareEntry_eq_ok prepared
    have unfit : s.fitRoom flat = .error (.badRoom (.emptySize 0 200)) := rfl
    rw [unfit] at fits
    cases fits

theorem enterRoom_flat :
    let s := (((Session.new {}).start bare (fun _ => true) {}).2.session.enterRoom 1 hall).2
    (s.enterRoom 2 flat).1 ≠ .ok () ∧ (s.enterRoom 2 flat).2 = s := by
  intro s
  have reached : Reached s [] := .enterRoom 1 hall (.start bare (fun _ => true) (.new {}))
  have refused := enterRoom_flat_ne_ok s 2
  rcases entered : s.enterRoom 2 flat with ⟨fault | ⟨⟩, t⟩
  · exact ⟨nofun, (enterRoom_atomic reached 2 flat).1 fault t entered⟩
  · rw [entered] at refused
    exact absurd rfl refused

/-! ## Many moves -/

def moves (s : Session) (moves : List Move) : Session := moves.foldl move s

/-- The room that a change succeeds in entering. -/
def entered? (s : Session) : Move → Option (Int32 × Room)
  | .enter number room =>
    match s.enterRoom number room with
    | (.ok _, _) => some (number, room)
    | (.error _, _) => none
  | .leave => none

/-- The last room that changes succeed in entering. -/
def lastEntered? (s : Session) : List Move → Option (Int32 × Room)
  | [] => none
  | first :: rest => (lastEntered? (s.move first) rest).or (s.entered? first)

/-- Whether `t` is `s`, or `s` with a room entered. -/
def Within (s t : Session) : Prop :=
  t = s ∨ ∃ number room, s.enterRoom number room = (.ok (), t)

theorem Within.coherent (within : s.Within t) (coherent : s.registry.Coherent) :
    t.registry.Coherent := by
  rcases within with rfl | ⟨number, room, entered⟩
  · exact coherent
  · obtain ⟨entry, symbols, -, -, rfl⟩ := enterRoom_eq_ok coherent entered
    exact coherent.withSymbols symbols

theorem Within.leaveRoom (within : s.Within t) (roomless : s.Roomless)
    (coherent : s.registry.Coherent) : t.leaveRoom = s := by
  rcases within with rfl | ⟨number, room, entered⟩
  · exact leaveRoom_of_none roomless.room
  · exact roomless.leaveRoom_enterRoom coherent entered

/-- All that a change of rooms can do: nothing, lead back, or enter a room as from outside. -/
theorem Within.move_cases (within : s.Within t) (roomless : s.Roomless)
    (coherent : s.registry.Coherent) (m : Move) :
    t.move m = t ∧ t.entered? m = none ∨ t.move m = s ∧ t.entered? m = none ∨
      ∃ number room, t.entered? m = some (number, room) ∧
        s.enterRoom number room = (.ok (), t.move m) := by
  cases m with
  | leave => exact .inr (.inl ⟨within.leaveRoom roomless coherent, rfl⟩)
  | enter number room =>
    rcases enterRoom_cases (within.coherent coherent) number room with
      ⟨fault, -, failed⟩ | ⟨entry, symbols, -, -, succeeded⟩
    · exact .inl ⟨by rw [move, failed], by rw [entered?, failed]⟩
    · -- what succeeds here succeeds from outside, and to the same end
      have here : t.enterRoom number room = (.ok (), t.move (.enter number room)) := by
        rw [move, succeeded]
      have outside := enterRoom_leaveRoom here
      rw [within.leaveRoom roomless coherent] at outside
      exact .inr (.inr ⟨number, room, by rw [entered?, succeeded], outside⟩)

theorem Within.move (within : s.Within t) (roomless : s.Roomless)
    (coherent : s.registry.Coherent) (m : Move) : s.Within (t.move m) := by
  rcases within.move_cases roomless coherent m with
    ⟨same, -⟩ | ⟨back, -⟩ | ⟨number, room, -, entered⟩
  · rwa [same]
  · exact .inl back
  · exact .inr ⟨number, room, entered⟩

theorem Within.moves (within : s.Within t) (roomless : s.Roomless)
    (coherent : s.registry.Coherent) (l : List Move) : s.Within (t.moves l) := by
  induction l generalizing t with
  | nil => exact within
  | cons m rest hyp => exact hyp (within.move roomless coherent m)

/-- If there is a room at the end, it is that of the last entry, or nothing has happened. -/
theorem Within.moves_cases (within : s.Within t) (roomless : s.Roomless)
    (coherent : s.registry.Coherent) (l : List Move) (inside : (t.moves l).room ≠ none) :
    (∃ number room, t.lastEntered? l = some (number, room) ∧
      s.enterRoom number room = (.ok (), t.moves l)) ∨
    t.lastEntered? l = none ∧ t.moves l = t := by
  induction l generalizing t with
  | nil => exact .inr ⟨rfl, rfl⟩
  | cons m rest hyp =>
    rcases hyp (within.move roomless coherent m) inside with
      ⟨number, room, last, entered⟩ | ⟨none, same⟩
    · exact .inl ⟨number, room, by rw [lastEntered?, last]; rfl, entered⟩
    · -- nothing has happened after the first change, so that it has to tell
      have unchanged : t.moves (m :: rest) = t.move m := same
      rcases within.move_cases roomless coherent m with
        ⟨stays, failed⟩ | ⟨back, -⟩ | ⟨number, room, now, entered⟩
      · exact .inr ⟨by rw [lastEntered?, none, failed]; rfl, unchanged.trans stays⟩
      · rw [unchanged, back] at inside
        exact absurd roomless.room inside
      · exact .inl ⟨number, room, by rw [lastEntered?, none, now]; rfl, unchanged ▸ entered⟩

/-- The symbols of the game are those that no room has named. -/
theorem Within.registry_eq (within : s.Within t) (roomless : s.Roomless)
    (coherent : s.registry.Coherent) :
    { t.registry with symbols := s.registry.symbols } = s.registry ∧
      ∀ name, (name ∈ t.boundNames → s.registry.symbols.get? name = none) ∧
        (name ∉ t.boundNames →
          t.registry.symbols.get? name = s.registry.symbols.get? name) := by
  have noNames : s.boundNames = [] := by rw [boundNames, roomless.room]; rfl
  rcases within with rfl | ⟨number, room, entered⟩
  · exact ⟨rfl, by simp [noNames]⟩
  · obtain ⟨entry, symbols, -, rehearsed, rfl⟩ := enterRoom_eq_ok coherent entered
    rw [noNames] at rehearsed
    exact ⟨rfl, SymbolTable.get?_foldlM_bind rehearsed⟩

/-! ## History does not matter -/

/-- After a start, any changes of rooms lead back to the session that was started, or to where the
last successful entry leads from there. Handles and symbols of the game are what they were. -/
theorem moves_eq_lastEntered {b : Bundle} {accepts : Font.Request → Bool} {a : Attempt}
    (reached : Reached s images) (started : s.start b accepts {} = (.ok (), a))
    (l : List Move) :
    let t := a.session.moves l
    (t.room = none → t = a.session) ∧
      (t.room ≠ none → ∃ number room, a.session.lastEntered? l = some (number, room) ∧
        a.session.enterRoom number room = (.ok (), t)) ∧
      { t.registry with symbols := a.session.registry.symbols } = a.session.registry ∧
      ∀ name, (name ∈ t.boundNames → a.session.registry.symbols.get? name = none) ∧
        (name ∉ t.boundNames →
          t.registry.symbols.get? name = a.session.registry.symbols.get? name) := by
  obtain ⟨vacant, coherent⟩ := reached.started started
  have roomless := vacant.toRoomless
  have home : a.session.Within a.session := .inl rfl
  have within := home.moves roomless coherent l
  refine ⟨?_, ?_, within.registry_eq roomless coherent⟩
  · intro outside
    have back := within.leaveRoom roomless coherent
    rwa [leaveRoom_of_none outside] at back
  · intro inside
    rcases home.moves_cases roomless coherent l inside with entered | ⟨-, same⟩
    · exact entered
    · rw [same] at inside
      exact absurd roomless.room inside

theorem moves_hall : ∃ a, (Session.new {}).start bare (fun _ => true) {} = (.ok (), a) ∧
    a.session.moves [.enter 1 hall, .enter 2 flat, .leave] = a.session := by
  obtain ⟨a, started⟩ := start_bare
  have outside : (a.session.moves [.enter 1 hall, .enter 2 flat, .leave]).room = none :=
    leaveRoom_room _
  exact ⟨a, started, (moves_eq_lastEntered (.new {}) started _).1 outside⟩

end Adventure.Session
