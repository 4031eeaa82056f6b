import Adventure.Proofs.Session.Census

/-! # Records that are ready for play

Between the registrations of a start stand the changes that make records ready: clips get their
numbers, characters stand still, panels have their controls sorted and get their wrappers.

* `changes_ofGame` — what all of the changes make of the records.
* `record?_of_authored` — the record that each entity has from then on.
-/

namespace Adventure

/-! ## Changing items one after the other -/

section Touched

variable {α : Type} {f : Nat → α → α} {items : List α} {n : Nat}

/-- The items with the first `n` of them changed. -/
def touched (n : Nat) (f : Nat → α → α) (items : List α) : List α :=
  items.mapIdx fun i a => if i < n then f i a else a

theorem touched_zero (f : Nat → α → α) (items : List α) : touched 0 f items = items := by
  refine List.ext_getElem? fun i => ?_
  simp [touched]

theorem modify_touched (n : Nat) (f : Nat → α → α) (items : List α) :
    (touched n f items).modify n (f n) = touched (n + 1) f items := by
  refine List.ext_getElem? fun i => ?_
  rw [List.getElem?_modify, touched, touched, List.getElem?_mapIdx, List.getElem?_mapIdx]
  rcases Nat.lt_trichotomy i n with before | rfl | behind
  · simp [before, Nat.ne_of_gt before, Nat.lt_succ_of_lt before]
  · simp
  · simp [Nat.ne_of_lt behind, Nat.not_lt_of_gt behind, Nat.not_lt_of_le behind]

theorem touched_length (f : Nat → α → α) (items : List α) :
    touched items.length f items = items.mapIdx f := by
  refine List.ext_getElem? fun i => ?_
  rw [touched, List.getElem?_mapIdx, List.getElem?_mapIdx]
  by_cases within : i < items.length
  · simp [within]
  · simp [List.getElem?_eq_none (Nat.le_of_not_lt within)]

end Touched

/-- The number of handles that the start of a game gives out. -/
def Session.handleCount (g : Game) : Nat :=
  9 + g.audioClips.length + g.characters.length + g.dialogs.length + 2 +
    Game.controlCount g.guis + g.guis.length + 301 + 50 + 16 + 256

namespace Enrolment

open Session (handleCount)

variable {α : Type} {g : Game}

/-! ## Changes of many steps -/

/-- What steps make of the records, the surface apart. -/
def changes (steps : List Enrolment) (w : World) : World :=
  steps.foldl (fun w step => step.change w) w

theorem changes_append (first later : List Enrolment) (w : World) :
    changes (first ++ later) w = changes later (changes first w) := List.foldl_append

theorem changes_of_none {steps : List Enrolment} (none : ∀ step ∈ steps, step.change = id)
    (w : World) : changes steps w = w := by
  induction steps with
  | nil => rfl
  | cons step rest hyp =>
    obtain ⟨here, later⟩ := List.forall_mem_cons.mp none
    rw [changes, List.foldl_cons, here]
    exact hyp later

theorem changes_mapIdx (records : List α) (entityOf : Nat → Entity) (name : α → String)
    (w : World) : changes (records.mapIdx fun i a => entity (entityOf i) (name a)) w = w := by
  refine changes_of_none (fun step listed => ?_) w
  obtain ⟨i, low, rfl⟩ := List.mem_mapIdx.mp listed
  rfl

theorem changes_range (count : Nat) (entityOf : Nat → Entity) (name : Nat → String) (w : World) :
    changes ((List.range count).map fun i => entity (entityOf i) (name i)) w = w := by
  refine changes_of_none (fun step listed => ?_) w
  obtain ⟨i, low, rfl⟩ := List.mem_map.mp listed
  rfl

theorem changes_prepared (records : List α) (change : Nat → World → World)
    (entityOf : Nat → Entity) (name : α → String) (w : World) :
    changes
        (records.mapIdx fun i a => [prepare (change i), entity (entityOf i) (name a)]).flatten w =
      (List.range records.length).foldl (fun w i => change i w) w := by
  rw [changes, List.foldl_flatten, List.mapIdx_eq_zipIdx_map, List.foldl_map, ← map_snd_zipIdx,
    List.foldl_map]
  rfl

theorem changes_guisFrom (guis : List Game.Gui) (i start : Nat) (w : World) :
    changes (guisFrom i start guis) w =
      (List.range' i guis.length).foldl (fun w k => wrapGui k (prepareGui k w)) w := by
  induction guis generalizing i start w with
  | nil => rfl
  | cons gui rest hyp =>
    have own : changes (guiSteps i start gui) w = wrapGui i (prepareGui i w) := by
      rw [guiSteps, changes_append]
      have controls := changes_mapIdx gui.controls (⟨.control, start + ·⟩) (·.name) (prepareGui i w)
      exact congrArg (changes [prepare (wrapGui i), entity ⟨.gui, i⟩ gui.name]) controls
    rw [guisFrom, changes_append, own, hyp, List.length_cons, List.range'_succ, List.foldl_cons]

/-! ## Families of records -/

theorem foldl_numberClip (w : World) (n : Nat) :
    (List.range n).foldl (fun w i => numberClip i w) w =
      { w with game := { w.game with
          audioClips :=
            touched n (fun i c => { c with id := Int32.ofNat i }) w.game.audioClips } } := by
  induction n with
  | zero => rw [touched_zero]; rfl
  | succ n hyp =>
    rw [List.range_succ, List.foldl_append, hyp, ← modify_touched]
    rfl

theorem foldl_resetCharacter (w : World) (n : Nat) :
    (List.range n).foldl (fun w i => resetCharacter i w) w =
      { w with game := { w.game with
          characters := touched n (fun i c => c.reset i) w.game.characters } } := by
  induction n with
  | zero => rw [touched_zero]; rfl
  | succ n hyp =>
    rw [List.range_succ, List.foldl_append, hyp, ← modify_touched]
    rfl

theorem foldl_wrapGui (w : World) (n : Nat) :
    (List.range n).foldl (fun w k => wrapGui k (prepareGui k w)) w =
      { w with
        game := { w.game with guis := touched n (fun _ => readyGui) w.game.guis }
        guis := touched n (fun k _ => Wrapper.ofIndex k) w.guis } := by
  induction n with
  | zero => rw [touched_zero, touched_zero]; rfl
  | succ n hyp =>
    rw [List.range_succ, List.foldl_append, hyp, ← modify_touched, ← modify_touched]
    simp only [List.foldl_cons, List.foldl_nil, wrapGui, prepareGui, List.set_eq_modify]

/-! ## The whole game -/

theorem changes_beforeSurface (w : World) : changes (beforeSurface w.game) w =
    { w with game := { w.game with
        audioClips := w.game.audioClips.mapIdx fun i c => { c with id := Int32.ofNat i }
        characters := w.game.characters.mapIdx fun i c => c.reset i } } := by
  have unnamed : changes (unnamed .audioChannel (Game.soundChannels + 1)) w = w :=
    changes_range _ _ _ w
  simp only [beforeSurface, changes_append, unnamed, clips, characters, changes_prepared,
    foldl_numberClip, foldl_resetCharacter, touched_length, named, changes_mapIdx]
  rfl

theorem changes_afterSurface {w : World} (same : w.game.guis = g.guis)
    (wrapped : w.guis.length = g.guis.length) : changes (afterSurface g) w =
      { w with
        game := { w.game with guis := g.guis.map readyGui }
        guis := World.wrappers g.guis.length } := by
  have arrays (w : World) : changes (arrays g) w = w := rfl
  have player (w : World) : changes (player g) w = w := by
    unfold player
    split <;> rfl
  have readied : touched g.guis.length (fun _ => readyGui) w.game.guis = g.guis.map readyGui := by
    rw [same, touched_length]
    refine List.ext_getElem? fun i => ?_
    rw [List.getElem?_mapIdx, List.getElem?_map]
  have wrappers : touched g.guis.length (fun k _ => Wrapper.ofIndex k) w.guis =
      World.wrappers g.guis.length := by
    rw [← wrapped, touched_length]
    refine List.ext_getElem? fun i => ?_
    rw [List.getElem?_mapIdx, World.wrappers, List.getElem?_map]
    by_cases within : i < w.guis.length <;> simp [within]
  simp only [afterSurface, changes_append, changes_guisFrom, ← List.range_eq_range', foldl_wrapGui,
    inventory, unnamed, changes_range, arrays, player, readied, wrappers]

/-- The records of a game when all of them are ready for play, but for the surface. -/
def readied (w : World) : World :=
  { w with
    game := { w.game with
      audioClips := w.game.audioClips.mapIdx fun i c => { c with id := Int32.ofNat i }
      characters := w.game.characters.mapIdx fun i c => c.reset i
      guis := w.game.guis.map readyGui }
    guis := World.wrappers w.game.guis.length }

/-- The entities of a game in the order of their handles, the surface in its place. -/
def roll (g : Game) (key : Arena.Key) : List (Target × ScriptType) :=
  (entities (beforeSurface g)).map Entity.pair ++ [(.dynamic key, .drawingSurface)] ++
    (entities (afterSurface g)).map Entity.pair

/-- The handle of the surface. -/
def surfaceHandle (g : Game) : Handle := Registry.handleAt (entities (beforeSurface g)).length

theorem pair_injective : Function.Injective Entity.pair := by
  intro one other same
  exact Target.static.inj (Prod.mk.inj same).1

theorem perm_roll (g : Game) (key : Arena.Key) :
    (roll g key).Perm ((.dynamic key, .drawingSurface) :: (allEntities g).map Entity.pair) := by
  rw [roll, List.append_assoc, List.singleton_append]
  refine List.perm_middle.trans (List.Perm.cons _ ?_)
  rw [← List.map_append]
  exact (perm_entities g).map Entity.pair

theorem nodup_roll (g : Game) (key : Arena.Key) : (roll g key).Nodup := by
  rw [(perm_roll g key).nodup_iff, List.nodup_cons]
  refine ⟨?_, (nodup_allEntities g).map pair_injective⟩
  intro listed
  obtain ⟨e, -, same⟩ := List.mem_map.mp listed
  cases (Prod.mk.inj same).1

theorem length_roll (g : Game) (key : Arena.Key) :
    (roll g key).length = handleCount g := by
  rw [(perm_roll g key).length_eq]
  simp only [List.length_cons, List.length_map, allEntities, enrolledTypes,
    List.flatMap_cons, List.flatMap_nil, List.append_nil, List.length_append, entitiesOf,
    List.length_range, Game.enrolledCount, handleCount, Game.soundChannels,
    Game.inventorySlots, Room.maxHotspots, Room.maxRegions, Room.maxObjects]
  omega

theorem nodup_beforeSurface (g : Game) : ((entities (beforeSurface g)).map Entity.pair).Nodup :=
  (List.nodup_append.mp (List.nodup_append.mp (nodup_roll g ⟨0, 0⟩)).1).1

/-- The surface is none of the entities. -/
theorem surface_not_mem (steps : List Enrolment) (key : Arena.Key) :
    (Target.dynamic key, ScriptType.drawingSurface) ∉ (entities steps).map Entity.pair := by
  intro listed
  obtain ⟨e, -, same⟩ := List.mem_map.mp listed
  cases (Prod.mk.inj same).1

/-- What is registered before the surface. -/
theorem lists_beforeSurface {w x : World} {q : Registry} (g : Game)
    (taken : takeAll (beforeSurface g) w {} = (.ok (), x, q)) :
    q.Lists ((entities (beforeSurface g)).map Entity.pair) := by
  have lists := lists_takeAll Registry.lists_empty (throughout_plain.beforeSurface g)
    (by rw [List.nil_append]; exact nodup_beforeSurface g) taken
  rwa [List.nil_append] at lists

/-- The records after the enrolment of a game whose surface has got the handle `handle`. -/
theorem world_afterSurface {u v w x : World} {q s : Registry} {handle : Handle}
    (wrapped : w.guis.length = w.game.guis.length) (before : v = changes (beforeSurface w.game) w)
    (made : u = withSurface v handle)
    (taken : takeAll (afterSurface w.game) u s = (.ok (), x, q)) :
    x = withSurface (readied w) handle := by
  rw [changes_beforeSurface] at before
  rw [world_takeAll (throughout_plain.afterSurface w.game) taken, made, before]
  exact changes_afterSurface rfl wrapped

/-- A game is enrolled in a world that has a wrapper for each of its panels. -/
theorem wrapped_allocated (w : World) : w.allocated.guis.length = w.allocated.game.guis.length :=
  List.length_replicate

/-- After the enrolment of a game in a fresh registry the handles are those of its roll, and its
records are ready. -/
theorem enrolled_ofGame {w x : World} {q : Registry} (wrapped : w.guis.length = w.game.guis.length)
    (taken : takeAll (ofGame w.game) w {} = (.ok (), x, q)) :
    q.Lists (roll w.game (surfaceKey w)) ∧ x = withSurface (readied w) (surfaceHandle w.game) := by
  have distinct := nodup_roll w.game (surfaceKey w)
  have plainBefore := throughout_plain.beforeSurface w.game
  have plainAfter := throughout_plain.afterSurface w.game
  rw [ofGame_eq] at taken
  obtain ⟨v, p, first, taken⟩ := takeAll_append_eq_ok.mp taken
  obtain ⟨u, s, middle, last⟩ := takeAll_cons_eq_ok.mp taken
  -- up to the surface
  have before := lists_beforeSurface w.game first
  have worldBefore : v = changes (beforeSurface w.game) w := world_takeAll plainBefore first
  have key : surfaceKey v = surfaceKey w := by
    rw [worldBefore, changes_beforeSurface]
    rfl
  -- the surface
  have fresh := surface_not_mem (beforeSurface w.game) (surfaceKey v)
  have room := (exists_of_surface middle).2 (before.handleFor_eq_none fresh)
  obtain ⟨held, again, through⟩ := lists_surface before fresh room
  obtain ⟨-, same⟩ := Prod.mk.inj (middle.symm.trans again)
  obtain ⟨made, rfl⟩ := Prod.mk.inj same
  rw [before.nextHandle, List.length_map] at made
  rw [key] at through
  -- from the surface on
  exact ⟨lists_takeAll through plainAfter distinct last,
    world_afterSurface wrapped worldBefore made last⟩

/-- Where there are handles enough, the enrolment of a game does not want for numbers. -/
theorem takeAll_ofGame_ne_overflow (g : Game) (w : World)
    (room : (handleCount g : Int) < Registry.maxHandle) :
    (takeAll (ofGame g) w {}).1 ≠ .error .overflow := by
  -- the surface takes the place in the middle of the roll
  have count : (entities (beforeSurface g)).length + 1 + (entities (afterSurface g)).length =
      handleCount g := by
    rw [← length_roll g ⟨0, 0⟩, roll]
    simp only [List.length_append, List.length_map, List.length_singleton]
  have enough {n m : Nat} (low : n + m ≤ handleCount g) :
      Registry.handleAt n + m ≤ Registry.maxHandle := by
    refine Int.le_trans ?_ room
    have all : (n : Int) + 1 + m ≤ (handleCount g : Int) + 1 := by omega
    exact all
  have here := takeAll_ne_overflow (w := w) Registry.coherent_empty
    (throughout_plain.beforeSurface g) (enough (n := 0) (by omega))
  rw [ofGame_eq]
  cases first : takeAll (beforeSurface g) w {} with
  | mk outcome after =>
    obtain ⟨v, p⟩ := after
    cases outcome with
    | error fault =>
      rw [first] at here
      rwa [takeAll_append_of_error (by rw [first])]
    | ok u =>
      have lists := lists_beforeSurface g first
      have fresh := surface_not_mem (beforeSurface g) (surfaceKey v)
      have next : p.nextHandle < Registry.maxHandle := by
        rw [lists.nextHandle]
        refine Int.lt_of_lt_of_le (Registry.handleAt_lt_iff.mpr ?_) room
        rw [List.length_map]
        omega
      obtain ⟨held, made, through⟩ := lists_surface lists fresh next
      rw [takeAll_append_of_ok first, takeAll_cons_of_ok (by rw [made]), made]
      refine takeAll_ne_overflow through.coherent (throughout_plain.afterSurface g) ?_
      rw [through.nextHandle, List.length_append, List.length_map, List.length_singleton]
      exact enough (by omega)

/-- The enrolment of a game in a fresh registry needs names that differ from each other, and a
handle for each entity. -/
theorem takeAll_ofGame_ok_iff {w : World} (wrapped : w.guis.length = w.game.guis.length) :
    (takeAll (ofGame w.game) w {}).1 = .ok () ↔ (names (ofGame w.game)).Nodup ∧
      (handleCount w.game : Int) < Registry.maxHandle := by
  constructor
  · intro succeeded
    refine ⟨(names_of_takeAll Registry.coherent_empty succeeded).1, ?_⟩
    have bounded := kept_bounded.takeAll Registry.bounded_empty (ofGame w.game) w
    cases taken : takeAll (ofGame w.game) w {} with
    | mk outcome after =>
      rw [taken] at succeeded bounded
      obtain rfl : outcome = .ok () := succeeded
      have lists := (enrolled_ofGame wrapped taken).1
      have last : Registry.handleAt (handleCount w.game) ≤ Registry.maxHandle := by
        rw [← length_roll w.game (surfaceKey w), ← lists.nextHandle]
        exact bounded.nextHandle_le
      exact Int.lt_of_add_one_le last
  · rintro ⟨distinct, room⟩
    refine (takeAll_cases Registry.coherent_empty w distinct fun _ _ => rfl).resolve_right ?_
    exact takeAll_ofGame_ne_overflow w.game w room

/-- The records of a game are ready after its enrolment, whatever was registered before. -/
theorem readied_ofGame {w x : World} {q r : Registry}
    (wrapped : w.guis.length = w.game.guis.length)
    (taken : takeAll (ofGame w.game) w r = (.ok (), x, q)) :
    ∃ handle, x = withSurface (readied w) handle := by
  rw [ofGame_eq] at taken
  obtain ⟨v, p, first, taken⟩ := takeAll_append_eq_ok.mp taken
  obtain ⟨u, s, middle, last⟩ := takeAll_cons_eq_ok.mp taken
  have worldBefore := world_takeAll (throughout_plain.beforeSurface w.game) first
  obtain ⟨handle, made⟩ := (exists_of_surface middle).1
  exact ⟨handle, world_afterSurface wrapped worldBefore made last⟩

end Enrolment

end Adventure
