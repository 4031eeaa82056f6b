import Adventure.Proofs.Session.Grounds

/-! # A save serves every session of its game

Symbols are not saved, and so a save is of use in another session only if its handles mean the same
there. They do in all sessions of a game: entities get their handles at the start, in an order that
the game decides, and nothing that happens later gives them others.

* `Portable` — what becomes of a session that takes over the handles of another.
* `portable_restoreSnapshot` — saves are portable, whatever has happened on either side.
-/

namespace Adventure

namespace Registry

variable {r r' : Registry} {handle : Handle}

theorem exists_live_iff_state : (∃ l, r.live handle = .ok l) ↔
    r.state handle ≠ .unregistered ∧ r.state handle ≠ .released := by
  unfold live state
  cases r.entries[handle]? with
  | none => simp
  | some e =>
    obtain ⟨type, target, references⟩ := e
    cases target with
    | none => simp
    | some target =>
      simp only [Except.ok.injEq, exists_eq', true_iff]
      split
      · exact ⟨nofun, nofun⟩
      · exact ⟨nofun, nofun⟩

/-- A save gives entities back under the handles that they were saved with. -/
theorem Store.Restored.resolve_static_iff {s t u : Store} (restored : Store.Restored s t u)
    (handle : Handle) (e : Entity) (type : ScriptType) :
    u.registry.resolve handle = .ok (.static e, type) ↔
      s.registry.resolve handle = .ok (.static e, type) := by
  constructor
  · intro resolved
    obtain ⟨after, live, target, rfl⟩ := exists_live_of_resolve resolved
    have there := exists_live_iff_state.mp ⟨after, live⟩
    rw [restored.state_eq, ← exists_live_iff_state] at there
    obtain ⟨⟨old, type, references⟩, before⟩ := there
    obtain ⟨new, same, stands, -⟩ := restored.live before
    obtain rfl := Except.ok.inj (live.symm.trans same)
    rw [resolve_of_live before]
    cases old with
    | static e' =>
      obtain rfl : new = .static e' := stands
      rw [Target.static.inj target]
    | dynamic key =>
      obtain ⟨fresh, -, made, -⟩ := stands
      rw [show new = .static e from target] at made
      cases made
  · intro resolved
    obtain ⟨l, live, target, rfl⟩ := exists_live_of_resolve resolved
    obtain ⟨new, after, stands, -⟩ := restored.live live
    rw [target] at stands
    rw [resolve_of_live after, show new = .static e from stands]

end Registry

namespace Session

variable {s t a c : Session} {config : Config} {b : Bundle} {accepts accepts' : Font.Request → Bool}

/-- What `u` is when a save of `s` has taken the place of the handles of `t`. -/
structure Portable (s t u : Session) : Prop where
  /-- What stood for an entity by name still does. -/
  symbols : ∀ name handle type e own,
    t.registry.symbols.get? name = some (.object handle type) →
    t.registry.resolve handle = .ok (.static e, own) →
      u.registry.symbols.get? name = some (.object handle type) ∧
      u.registry.resolve handle = .ok (.static e, own)
  state_eq : ∀ handle, u.registry.state handle = s.registry.state handle
  /-- The same rooms can be entered. -/
  rooms : ∀ number room, (u.enterRoom number room).1 = (t.enterRoom number room).1
  /-- The save is read back from its image. -/
  read : (s.registry.snapshot s.world.dynamic).Fits → t.restore? s.save = some (.ok u)

/-- A save never has the last handle that there is, and so is restored. -/
theorem exists_restoreSnapshot (savable : s.store.Savable) (t : Session) :
    ∃ u, t.restoreSnapshot (s.registry.snapshot s.world.dynamic) = .ok u ∧
      u = t.withTable (t.registry.restored t.world.dynamic
        (s.registry.snapshot s.world.dynamic)) := by
  have made := savable.coherent.restore_snapshot savable.one_le_nextHandle
    savable.bounded.nextHandle_le t.registry t.world.dynamic s.world.dynamic
  refine ⟨_, ?_, rfl⟩
  unfold restoreSnapshot
  exact except_map_eq_ok.mpr ⟨_, made, rfl⟩

/-- Between sessions that have once been on the same grounds, a save changes no grounds. -/
theorem sameGrounds_withTable (savable : s.store.Savable) (other : t.store.Savable)
    (one : a.SameGrounds s) (same : a.SameGrounds t) :
    t.SameGrounds (t.withTable (t.registry.restored t.world.dynamic
      (s.registry.snapshot s.world.dynamic))) := by
  have restored := (savable.restored other).2
  refine ⟨rfl, rfl, rfl, rfl, rfl, ?_, ?_⟩
  · exact congrArg (t.boundNames.foldl SymbolTable.unbind) restored.symbols_eq
  · intro handle e type
    rw [same.entities, ← one.entities]
    exact restored.resolve_static_iff handle e type

/-- Whatever is done to two sessions of a game, a save of one serves the other. -/
theorem portable_restoreSnapshot {x y : Attempt}
    (started : (Session.new config).start b accepts {} = (.ok (), x))
    (also : (Session.new config).start b accepts' {} = (.ok (), y)) (l l' : List Deed) :
    let s := x.session.deeds l
    let t := y.session.deeds l'
    ∃ u, t.restoreSnapshot (s.registry.snapshot s.world.dynamic) = .ok u ∧ Portable s t u := by
  intro s t
  -- the same game has been started, and gave out the same handles
  obtain rfl := start_unique started also
  have start := savable_start started
  have savable : s.store.Savable := savable_deeds start l
  have other : t.store.Savable := savable_deeds start l'
  have restored := (savable.restored other).2
  have same := sameGrounds_withTable savable other (sameGrounds_deeds start l)
    (sameGrounds_deeds start l')
  obtain ⟨u, made, rfl⟩ := exists_restoreSnapshot savable t
  have coherent := Registry.coherent_restore t.registry t.world.dynamic
    (savable.coherent.snapshot_unambiguous s.world.dynamic)
  refine ⟨_, made, ?_⟩
  exact {
    symbols := by
      intro name handle type e own bound resolved
      refine ⟨?_, (same.entities handle e own).mpr resolved⟩
      exact (congrArg (·.get? name) restored.symbols_eq).trans bound
    state_eq := restored.state_eq
    rooms := same.enterRoom_eq other.coherent coherent
    read := by
      intro fits
      rw [restore?, save, Registry.ofImage?_toImage fits, Option.map_some, made] }

theorem portable_village :
    ∃ x, (Session.new {}).start village (fun _ => true) {} = (.ok (), x) ∧
      let s := x.session.deeds [.move (.enter 1 hall), .call (.addReference 12)]
      let t := x.session.deeds [.call (.writeArray "character" 0 5), .move .leave]
      ∃ u, t.restoreSnapshot (s.registry.snapshot s.world.dynamic) = .ok u ∧ Portable s t u := by
  obtain ⟨x, started⟩ := start_village
  exact ⟨x, started, portable_restoreSnapshot started started _ _⟩

end Session

end Adventure
