import Adventure.Proofs.Registry.Image
import Adventure.Proofs.Registry.Untangled
import Adventure.Proofs.Session.Effect
import Adventure.Proofs.Session.Start

/-! # Sessions that a run can reach

`Reached s images` says that a run without plugins can end in the session `s` with the save images
`images`: a new session starts games, enters and leaves rooms, serves the calls of scripts, saves
its handle table and restores what it has saved.

* `Steady` — the invariant of all these sessions.
* `Effect.steady`, `Reached.steady` — no deed and no run brings a session out of it.
-/

namespace Adventure.Session

/-! ## Runs -/

/-- The sessions that runs without plugins reach, with the images that they have saved. A handle
table is saved while its numbers are those that the fields of an image hold. -/
inductive Reached : Session → List Bytes → Prop where
  | new (config : Config) : Reached (.new config) []
  | start {s : Session} {images : List Bytes} (b : Bundle) (accepts : Font.Request → Bool) :
      Reached s images → Reached (s.start b accepts {}).2.session images
  | enterRoom {s : Session} {images : List Bytes} (number : Int32) (room : Room) :
      Reached s images → Reached (s.enterRoom number room).2 images
  | leaveRoom {s : Session} {images : List Bytes} :
      Reached s images → Reached s.leaveRoom images
  | call {s : Session} {images : List Bytes} (c : Call) :
      Reached s images → Reached (s.call c) images
  | save {s : Session} {images : List Bytes} :
      Reached s images → (s.registry.snapshot s.world.dynamic).Fits →
      Reached s (s.save :: images)
  | restore {s t : Session} {images : List Bytes} {image : Bytes} :
      Reached s images → image ∈ images → s.restore? image = some (.ok t) → Reached t images

/-! ## The invariant -/

/-- Handles and targets belong together, numbers keep to their bits, there are no plugins, and there
is no room before a game has been started. -/
structure Steady (s : Session) : Prop extends Intact s where
  idle : s.phase = .empty → s.room = none ∧ s.scripts.room = none

variable {s t : Session} {word : Option StoredWord}

theorem steady_new (config : Config) : (Session.new config).Steady where
  coherent := Registry.coherent_empty
  bounded := Registry.bounded_empty
  noPlugins := rfl
  idle _ := ⟨rfl, rfl⟩

theorem steady_start (steady : s.Steady) (b : Bundle) (accepts : Font.Request → Bool) :
    (s.start b accepts {}).2.session.Steady :=
  ⟨intact_start steady.toIntact b accepts,
    fun empty => absurd empty (phase_start_ne_empty s b accepts {})⟩

/-- What overrides are set to concerns neither handles nor plugins. -/
theorem steady_withOverrides (steady : s.Steady) (m : PropertyMap) (owner : Owner) :
    (s.withOverrides m owner).Steady := by
  have intact : (s.withOverrides m owner).Intact := by
    cases owner with
    | _ => exact ⟨steady.coherent, steady.bounded, steady.noPlugins⟩
  refine ⟨intact, fun empty => ?_⟩
  cases owner with
  | character i | inventory i => exact steady.idle empty
  | _ =>
    obtain ⟨noRoom, noScript⟩ := steady.idle empty
    refine ⟨?_, noScript⟩
    rw [withOverrides, modifyStatus, noRoom]
    rfl

/-- There is no room to be left before a game has been started. -/
theorem steady_leaveRoom (steady : s.Steady) (coherent : s.leaveRoom.registry.Coherent)
    (bounded : s.leaveRoom.registry.Bounded) : s.leaveRoom.Steady := by
  cases room : s.room with
  | none => rwa [leaveRoom_of_none room]
  | some current =>
    obtain ⟨phase, plugins⟩ : s.leaveRoom.phase = s.phase ∧ s.leaveRoom.plugins = s.plugins := by
      rw [leaveRoom_eq]
      exact ⟨rfl, rfl⟩
    refine ⟨⟨coherent, bounded, plugins ▸ steady.noPlugins⟩, fun empty => ?_⟩
    rw [(steady.idle (phase ▸ empty)).1] at room
    cases room

theorem Effect.steady (effect : s.Effect word t) (steady : s.Steady) : t.Steady := by
  have coherent := effect.coherent steady.coherent
  have bounded := effect.bounded steady.bounded
  cases effect with
  | set m owner => exact steady_withOverrides steady m owner
  | left => exact steady_leaveRoom steady coherent bounded
  | entered prepared rehearsed =>
    have plugins : s.leaveRoom.plugins = s.plugins := by rw [leaveRoom_eq]
    refine ⟨⟨coherent, bounded, (congrArg (·.loaded) plugins).trans steady.noPlugins⟩,
      fun empty => ?_⟩
    -- rooms are entered in sessions that are ready
    have ready : s.leaveRoom.isReady := s.leaveRoom_isReady.trans (prepareEntry_eq_ok prepared).1
    rw [isReady, show s.leaveRoom.phase = .empty from empty] at ready
    cases ready
  | _ => exact ⟨⟨coherent, bounded, steady.noPlugins⟩, steady.idle⟩

/-- What is restored from an image of a coherent handle table is coherent. -/
theorem steady_restore (steady : s.Steady) {snapshot : Registry.Snapshot} (fits : snapshot.Fits)
    (unambiguous : Registry.Unambiguous snapshot.entries)
    (restored : s.restore? snapshot.toImage = some (.ok t)) : t.Steady := by
  rw [restore?, Registry.ofImage?_toImage fits] at restored
  obtain ⟨table, made, rfl⟩ := except_map_eq_ok.mp (Option.some.inj restored)
  have bounded := Registry.bounded_restore (Int.le_of_lt_add_one fits.nextHandle.2)
    (fun l listed => Nat.le_of_lt_succ (fits.entries l listed).references) made
  have coherent := Registry.coherent_restore s.registry s.world.dynamic unambiguous
  rw [(Registry.restore_eq_ok made).2] at coherent
  exact ⟨⟨coherent, bounded, steady.noPlugins⟩, steady.idle⟩

/-! ## All runs -/

/-- Whether an image is that of a handle table which is restored as a coherent one. -/
def Faithful (image : Bytes) : Prop :=
  ∃ snapshot : Registry.Snapshot, snapshot.Fits ∧ Registry.Unambiguous snapshot.entries ∧
    image = snapshot.toImage

/-- Every session that can be reached is steady, and what it has saved is faithful. -/
theorem Reached.steady {images : List Bytes} (reached : Reached s images) :
    s.Steady ∧ ∀ image ∈ images, Faithful image := by
  induction reached with
  | new config => exact ⟨steady_new config, nofun⟩
  | start b accepts _ hyp => exact ⟨steady_start hyp.1 b accepts, hyp.2⟩
  | enterRoom number room _ hyp =>
    exact ⟨(effect_move hyp.1.coherent (.enter number room)).steady hyp.1, hyp.2⟩
  | leaveRoom _ hyp => exact ⟨Effect.left.steady hyp.1, hyp.2⟩
  | call c _ hyp => exact ⟨(effect_call _ c).steady hyp.1, hyp.2⟩
  | save _ fits hyp =>
    refine ⟨hyp.1, List.forall_mem_cons.mpr ⟨?_, hyp.2⟩⟩
    exact ⟨_, fits, hyp.1.coherent.snapshot_unambiguous _, rfl⟩
  | restore _ listed restored hyp =>
    obtain ⟨snapshot, fits, unambiguous, rfl⟩ := hyp.2 _ listed
    exact ⟨steady_restore hyp.1 fits unambiguous restored, hyp.2⟩

/-- What holds after a start that has succeeded. -/
theorem Reached.started {images : List Bytes} {b : Bundle} {accepts : Font.Request → Bool}
    {a : Attempt} (reached : Reached s images) (started : s.start b accepts {} = (.ok (), a)) :
    a.session.Vacant b.game ∧ a.session.registry.Coherent := by
  have steady := reached.steady.1
  have coherent := (steady_start steady b accepts).coherent
  rw [started] at coherent
  -- before the only start that succeeds there is no room to have left a trace
  obtain ⟨noRoom, noScript⟩ := steady.idle (phases_of_start started).1
  exact ⟨vacant_start noRoom noScript steady.noPlugins started, coherent⟩

end Adventure.Session
