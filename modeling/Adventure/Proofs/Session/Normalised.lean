import Adventure.Proofs.Session.Enterable

/-! # The size of the current room

* `enterRoom_normalised` — the current room is the room that was entered, as its game shows it.
-/

namespace Adventure.Session

variable {s t : Session} {number : Int32} {room : Room}

/-- Every room that is entered is shown at the size that the game asks for, with masks that fit its
background, and as its author made it in all else. -/
theorem enterRoom_normalised (entered : s.enterRoom number room = (.ok (), t)) :
    ∃ current hires, t.room = some current ∧ current.number = number ∧
      s.game.isHires? = some hires ∧ room.Normalised hires current.data := by
  obtain ⟨entry, registry, prepared, rfl⟩ := settle_of_enterRoom entered
  obtain ⟨-, fits, -⟩ := prepareEntry_eq_ok prepared
  obtain ⟨valid, -, hires, counted, same⟩ := fitRoom_eq_ok_iff.mp fits
  refine ⟨_, hires, rfl, rfl, counted, ?_⟩
  change room.Normalised hires entry.room
  rw [same]
  exact Room.normalised_shown valid _

/-- A game of high resolution without contents. -/
def grand : Bundle := { game := { fonts := [{}], resolutionClass := .r640x400 } }

theorem start_grand : ∃ a, (Session.new {}).start grand (fun _ => true) {} = (.ok (), a) :=
  start_succeeds rfl (by decide +kernel) (by decide) rfl (fun _ => rfl) rfl

/-- A porch is shown at twice its size there. -/
theorem enterRoom_porch : ∃ a t, (Session.new {}).start grand (fun _ => true) {} = (.ok (), a) ∧
    a.session.enterRoom 1 .porch = (.ok (), t) ∧
      a.session.game.isHires? = some true ∧ Room.porch.growth true = 2 ∧
      ∃ current hires, t.room = some current ∧ current.number = 1 ∧
        a.session.game.isHires? = some hires ∧ Room.porch.Normalised hires current.data := by
  obtain ⟨a, started⟩ := start_grand
  have counted : a.session.game.isHires? = some true := by
    rw [game, (lists_start started).2.1]
    rfl
  have entered : (a.session.enterRoom 1 .porch).1 = .ok () :=
    (hosting_deeds started []).enterRoom_ok_iff.mpr
      (enterable_of_plain (Option.isSome_of_eq_some counted) rfl rfl rfl rfl)
  exact ⟨a, _, started, Prod.ext entered rfl, counted, rfl,
    enterRoom_normalised (Prod.ext entered rfl)⟩

/-- A screen of 65536x65536 is larger than one of 320x240, but its pixels do not fit 32 bits. The
program stops when it is asked to show a porch there. Without the check of the product, which
then is zero, the porch would be shown at its own size. -/
theorem porch_not_doubled :
    ∃ a, (Session.new {}).start boundless (fun _ => true) {} = (.ok (), a) ∧
      a.session.isReady = true ∧ Room.porch.density = .low ∧ Room.porch.upscaled = false ∧
      a.session.game.resolution = (65536, 65536) ∧
      a.session.enterRoom 1 .porch = (.error .overflow, a.session) ∧
      (65536 * 65536 : UInt32) = 0 ∧
      (Room.porch.shown (decide ((320 * 240 : UInt32) < 65536 * 65536))).width = 4 := by
  obtain ⟨a, started⟩ := start_boundless
  obtain ⟨ready, uncounted⟩ := game_boundless started
  have size : a.session.game.resolution = (65536, 65536) := by
    rw [game, (lists_start started).2.1]
    rfl
  exact ⟨a, started, ready, rfl, rfl, size, enterRoom_of_uncounted ready rfl rfl uncounted 1,
    rfl, rfl⟩

end Adventure.Session
