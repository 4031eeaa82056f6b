import Adventure.Proofs.Registry.Damaged
import Adventure.Proofs.Session.Enterable

/-! # Sessions after a damaged save

A save that has been damaged restores a table in which a target can have a handle that does not
stand for it. An entry is tried with the handles of targets and made with what they stand for, so
that it can then fail after the room before has been left.

* `restoreSnapshot_wellFormed_iff` — which saves are restored well, and that entries are safe after
  them.
* `enterRoom_of_gone` — how an entry fails half way.
-/

namespace Adventure.Session

open Registry (Fault SavedEntry Snapshot Untangled)

variable {s : Session} {room : Room} {number : Int32}

/-! ## Entries that fail -/

theorem eq_of_enterRoom_eq_error (coherent : s.registry.Coherent) {fault : EnterFault}
    {t : Session} (failed : s.enterRoom number room = (.error fault, t)) : t = s := by
  rcases enterRoom_cases coherent number room with
    ⟨other, -, unchanged⟩ | ⟨entry, symbols, -, -, succeeded⟩
  · rw [unchanged] at failed
    exact (Prod.mk.inj failed).2.symm
  · rw [succeeded] at failed
    cases (Prod.mk.inj failed).1

/-- If the first name of a room has been given a handle that stands for nothing, the room before is
left and no other one is entered. -/
theorem enterRoom_of_gone {entry : Entry} {first : RoomName} {rest : List RoomName} {fault : Fault}
    (prepared : s.prepareEntry number room = .ok entry) (names : entry.names = first :: rest)
    (gone : s.registry.live first.handle = .error fault) :
    s.enterRoom number room = (.error (.registration fault), s.leaveRoom) := by
  have unbound : s.leaveRoom.registry.bindHandle first.name first.handle = .error fault := by
    rw [leaveRoom_registry]
    show (s.registry.live first.handle).bind _ = _
    rw [gone]
    rfl
  simp only [enterRoom, prepared, names, bindAll, unbound]

/-! ## Restored tables -/

theorem restoreSnapshot_eq_ok_iff {save : Snapshot} {u : Session} :
    s.restoreSnapshot save = .ok u ↔ (∀ l ∈ save.entries, l.handle < Registry.maxHandle) ∧
      s.withTable (s.registry.restored s.world.dynamic save) = u := by
  unfold restoreSnapshot
  rw [except_map_eq_ok]
  simp only [Registry.restore_eq_ok_iff]
  constructor
  · rintro ⟨table, ⟨low, rfl⟩, same⟩
    exact ⟨low, same⟩
  · rintro ⟨low, same⟩
    exact ⟨_, ⟨low, rfl⟩, same⟩

theorem restoreSnapshot_eq_overflow_iff {save : Snapshot} :
    s.restoreSnapshot save = .error .overflow ↔
      ∃ l ∈ save.entries, Registry.maxHandle ≤ l.handle := by
  rw [← Registry.restore_eq_error_iff s.registry s.world.dynamic]
  unfold restoreSnapshot
  cases s.registry.restore s.world.dynamic save with
  | ok table => exact ⟨nofun, nofun⟩
  | error fault => simp [Except.map]

/-- A save is restored if none of its handles is the last that there is, and otherwise the program
stops. Whatever save is restored, the counter is then ahead of all handles. The table is well-formed
exactly if the numbers of the save are in range and its entries untangled. If they are untangled, an
entry that fails changes nothing, whatever is done before. -/
theorem restoreSnapshot_wellFormed_iff (s : Session) (save : Snapshot) :
    (s.restoreSnapshot save = .error .overflow ↔
      ∃ l ∈ save.entries, Registry.maxHandle ≤ l.handle) ∧
    ((∃ u, s.restoreSnapshot save = .ok u) ↔
      ∀ l ∈ save.entries, l.handle < Registry.maxHandle) ∧
    ∀ u, s.restoreSnapshot save = .ok u →
      (∀ handle e, u.registry.entries[handle]? = some e → handle < u.registry.nextHandle) ∧
      (u.registry.WellFormed s.world.dynamic u.world.dynamic ↔
        save.Numbered ∧ Untangled save.entries) ∧
      (Untangled save.entries → ∀ l number room fault t,
        (u.deeds l).enterRoom number room = (.error fault, t) → t = u.deeds l) := by
  refine ⟨restoreSnapshot_eq_overflow_iff, ?_, ?_⟩
  · simp only [restoreSnapshot_eq_ok_iff, exists_and_left, exists_eq', and_true]
  · intro u restored
    obtain ⟨-, rfl⟩ := restoreSnapshot_eq_ok_iff.mp restored
    refine ⟨fun handle e => Registry.lt_nextHandle_restore,
      Registry.wellFormed_restore_iff s.registry s.world.dynamic save, ?_⟩
    intro untangled l number room fault t
    have coherent :=
      Registry.coherent_restore_of_untangled s.registry s.world.dynamic untangled
    exact eq_of_enterRoom_eq_error (coherent_deeds coherent l)

/-- A save with two entries of one handle, the first of which has a target. -/
def tangled : Snapshot where
  nextHandle := 2
  entries := [
    { handle := 1, typeName := "Hotspot", type := .hotspot, target := .static ⟨.hotspot, 0⟩
      references := 0 },
    { handle := 1, typeName := "Hotspot", type := .hotspot, target := .released, references := 0 }]

theorem handleFor_tangled (r : Registry) (objects : Arena DynamicObject) :
    (r.restored objects tangled).1.handleFor (.static ⟨.hotspot, 0⟩) .hotspot = some 1 := by
  rw [Registry.handleFor_restore_eq]
  rfl

theorem live_tangled (r : Registry) (objects : Arena DynamicObject) :
    (r.restored objects tangled).1.live 1 = .error (.staleHandle 1) := by
  have entry :
      (r.restored objects tangled).1.entries[(1 : Handle)]? = some ⟨.hotspot, none, 0⟩ := by
    rw [Registry.entries_restore_eq]
    rfl
  simp only [Registry.live, entry]

/-- What is restored from a tangled save has a handle for a target that the handle does not stand
for. An entry fails because of it after the room before has been left. -/
theorem room_lost : ∃ a t u, (Session.new {}).start bare (fun _ => true) {} = (.ok (), a) ∧
    a.session.enterRoom 1 hall = (.ok (), t) ∧ t.restoreSnapshot tangled = .ok u ∧
      u.registry.handleFor (.static ⟨.hotspot, 0⟩) .hotspot = some 1 ∧
      u.registry.resolve 1 = .error (.staleHandle 1) ∧
      u.enterRoom 2 hall = (.error (.registration (.staleHandle 1)), u.leaveRoom) ∧
      u.room ≠ none ∧ u.leaveRoom.room = none := by
  obtain ⟨a, t, started, entered, inside, ready, counted, free⟩ := hall_entered
  obtain ⟨u, restored⟩ : ∃ u, t.restoreSnapshot tangled = .ok u :=
    ⟨_, restoreSnapshot_eq_ok_iff.mpr ⟨by decide, rfl⟩⟩
  refine ⟨a, t, u, started, entered, restored, ?_⟩
  obtain ⟨-, rfl⟩ := restoreSnapshot_eq_ok_iff.mp restored
  have known := handleFor_tangled t.registry t.world.dynamic
  have gone := live_tangled t.registry t.world.dynamic
  have outside : (t.withTable (t.registry.restored t.world.dynamic tangled)).outside = t.outside :=
    congrArg (t.boundNames.foldl SymbolTable.unbind)
      (Registry.symbols_restore t.registry t.world.dynamic tangled)
  obtain ⟨entry, prepared, names⟩ :=
    prepareEntry_hall (s := t.withTable (t.registry.restored t.world.dynamic tangled)) 2 ready
      counted known (outside ▸ free)
  exact ⟨known, Registry.resolve_of_gone gone, enterRoom_of_gone prepared names gone, inside,
    leaveRoom_room _⟩

end Adventure.Session
