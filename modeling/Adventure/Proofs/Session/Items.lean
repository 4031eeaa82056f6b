import Adventure.Proofs.Session.Demands
import Adventure.Proofs.Session.Messages

/-! # Inventory items of a started game

A game has slots for 301 inventory items, and the author may have made more. A start gives every
item a place for its properties, but only the slots have handles, and nothing refuses the rest.

* `Stowed` — what a session knows of the items of a game.
* `start_stows` — a start leaves them so: all items are known exactly if the slots suffice.
* `item_dropped` — a game with one item too many starts, and that item is lost.
-/

namespace Adventure

namespace Session

variable {g : Game} {s : Session} {config : Config} {b : Bundle} {accepts : Font.Request → Bool}
  {a : Attempt} {i : Nat}

/-! ## Properties and handles of items -/

theorem registered_start (started : (Session.new config).start b accepts {} = (.ok (), a)) :
    a.session.registry.Coherent ∧ a.session.Registered b.game := by
  obtain ⟨lists, world, bound⟩ := lists_start started
  exact ⟨lists.coherent, Registered.of_upscaled (registered_of_lists lists world bound)⟩

theorem layers?_item_isSome (started : (Session.new config).start b accepts {} = (.ok (), a))
    (i : Nat) : (a.session.layers? (.inventory i)).isSome ↔ i < b.game.inventory.length := by
  have vacant := vacant_start (s := Session.new config) rfl rfl rfl started
  rw [layers?, layersAt_isSome, vacant.items, List.length_replicate]
  exact and_iff_right rfl

/-- The slots have handles, and no other items. -/
theorem exists_handleFor_item_iff (coherent : s.registry.Coherent) (registered : s.Registered g)
    (i : Nat) :
    (∃ handle, s.registry.handleFor (.static ⟨.inventory, i⟩) .inventory = some handle) ↔
      i < 301 := by
  simp only [coherent.handleFor_iff_resolve]
  rw [registered.entities]
  exact and_iff_right rfl

/-- The name of an item in a slot stands for its handle. -/
theorem get?_item (coherent : s.registry.Coherent) (registered : s.Registered g) {item : Game.Item}
    {handle : Handle} (here : g.inventory[i]? = some item)
    (known : s.registry.handleFor (.static ⟨.inventory, i⟩) .inventory = some handle)
    (named : item.scriptName ≠ "") :
    s.registry.symbols.get? item.scriptName = some (.object handle .inventory) := by
  have low := (exists_handleFor_item_iff coherent registered i).mp ⟨handle, known⟩
  obtain ⟨other, bound, resolved, -⟩ := registered.named _ _ _ (.item here low) named
  rw [(coherent.handleFor_iff_resolve ..).mpr resolved] at known
  obtain rfl := Option.some.inj known
  exact bound

/-- Nothing has a name but what the game and the engine have named. -/
theorem mem_startNames_of_get? (started : (Session.new config).start b accepts {} = (.ok (), a))
    {name : String} {symbol : Symbol} (found : a.session.registry.symbols.get? name = some symbol) :
    name ∈ startNames b.game := by
  have listed {steps : List Enrolment}
      (binds : Enrolment.Binds steps a.session.registry name symbol) :
      name ∈ Enrolment.names steps := by
    obtain ⟨step, member, own, -⟩ := binds
    exact List.mem_filterMap.mpr ⟨step, member, own⟩
  obtain ⟨-, -, bound⟩ := lists_start started
  rw [← startNames_upscaled b.game config.overrideUpscale, startNames, List.mem_append]
  exact ((bound name symbol).mp found).imp listed listed

/-! ## All items -/

/-- Whether a session knows the item `i` of a game: it has a handle, for which its name stands. -/
def KnowsItem (s : Session) (i : Nat) (item : Game.Item) : Prop :=
  ∃ handle, s.registry.handleFor (.static ⟨.inventory, i⟩) .inventory = some handle ∧
    (item.scriptName ≠ "" →
      s.registry.symbols.get? item.scriptName = some (.object handle .inventory))

/-- What a session knows of the items of a game. -/
structure Stowed (g : Game) (s : Session) : Prop where
  /-- Every item has properties, and nothing behind the last one. -/
  accepted : ∀ i, (s.layers? (.inventory i)).isSome ↔ i < g.inventory.length
  known_iff : ∀ i item, g.inventory[i]? = some item → (s.KnowsItem i item ↔ i < 301)
  /-- No name stands for what has no slot. -/
  unnamed : ∀ i, 301 ≤ i → ∀ name handle type,
    s.registry.symbols.get? name = some (.object handle type) →
      ∀ own, s.registry.resolve handle ≠ .ok (.static ⟨.inventory, i⟩, own)
  complete : (∀ i item, g.inventory[i]? = some item → s.KnowsItem i item) ↔
    g.inventory.length ≤ 301

/-- A start without plugins makes the items in the 301 slots known, and only those. -/
theorem start_stows (started : (Session.new config).start b accepts {} = (.ok (), a)) :
    a.session.Stowed b.game := by
  obtain ⟨coherent, registered⟩ := registered_start started
  have handles := exists_handleFor_item_iff coherent registered
  have known_iff (i : Nat) (item : Game.Item) (here : b.game.inventory[i]? = some item) :
      a.session.KnowsItem i item ↔ i < 301 := by
    rw [← handles i]
    refine ⟨fun ⟨handle, known, _⟩ => ⟨handle, known⟩, fun ⟨handle, known⟩ => ⟨handle, known, ?_⟩⟩
    exact get?_item coherent registered here known
  refine {
    accepted := layers?_item_isSome started
    known_iff
    unnamed := fun i high name handle type _ own resolved => ?_
    complete := ?_ }
  · obtain ⟨rfl, low⟩ := (registered.entities ⟨.inventory, i⟩ own).mp ⟨handle, resolved⟩
    exact absurd low (Nat.not_lt_of_le high)
  · constructor
    · intro all
      -- the first item behind the slots would be known
      by_contra many
      have last : 301 < b.game.inventory.length := Nat.lt_of_not_le many
      have here := List.getElem?_eq_getElem last
      exact absurd ((known_iff 301 _ here).mp (all 301 _ here)) (Nat.lt_irrefl 301)
    · intro few i item here
      have low := (List.getElem?_eq_some_iff.mp here).1
      exact (known_iff i item here).mpr (Nat.lt_of_lt_of_le low few)

/-! ## One item too many -/

/-- A game with more items than there are slots. Only the last one has a name. -/
def hoard : Bundle :=
  { game :=
      { fonts := [{}]
        inventory := List.replicate 301 {} ++ [{ scriptName := "iCrown" }] } }

theorem startNames_hoard : startNames hoard.game = hoard.game.reservedNames := by
  have unnamed : hoard.game.scriptNames = [] := by
    simp [Game.scriptNames, hoard, -List.reduceReplicate]
  rw [names_start, unnamed, List.nil_append]

theorem start_hoard : ∃ a, (Session.new {}).start hoard (fun _ => true) {} = (.ok (), a) := by
  refine start_succeeds rfl ?_ (by decide) rfl (fun _ => rfl) rfl
  rw [startNames_upscaled, startNames_hoard]
  exact hoard.game.nodup_reservedNames

theorem hoard_stows : ∃ a, (Session.new {}).start hoard (fun _ => true) {} = (.ok (), a) ∧
    a.session.Stowed hoard.game := by
  obtain ⟨a, started⟩ := start_hoard
  exact ⟨a, started, start_stows started⟩

/-- The game starts, its last item has properties, but neither handle nor name. -/
theorem item_dropped : ∃ a, (Session.new {}).start hoard (fun _ => true) {} = (.ok (), a) ∧
    hoard.game.inventory[301]? = some { scriptName := "iCrown" } ∧
    (a.session.layers? (.inventory 301)).isSome ∧
    a.session.registry.handleFor (.static ⟨.inventory, 301⟩) .inventory = none ∧
    a.session.registry.symbols.get? "iCrown" = none := by
  obtain ⟨a, started⟩ := start_hoard
  obtain ⟨coherent, registered⟩ := registered_start started
  have stowed : 301 < hoard.game.inventory.length := by simp [hoard, -List.reduceReplicate]
  refine ⟨a, started, rfl, (layers?_item_isSome started 301).mpr stowed, ?_, ?_⟩
  · rw [← Option.not_isSome_iff_eq_none, Option.isSome_iff_exists,
      exists_handleFor_item_iff coherent registered]
    exact Nat.lt_irrefl 301
  · rw [← Option.not_isSome_iff_eq_none, Option.isSome_iff_exists]
    -- any name that is bound is one that the engine reserves
    rintro ⟨symbol, found⟩
    have free : "iCrown" ∉ hoard.game.reservedNames := by decide +kernel
    exact free (startNames_hoard ▸ mem_startNames_of_get? started found)

end Session

end Adventure
