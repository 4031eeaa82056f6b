import Adventure.Proofs.Property
import Adventure.Proofs.Session.Call
import Adventure.Proofs.Session.Start

/-! # Owners of properties and their texts

What single calls do to the texts of properties.

* `answers`, `Reads` — what a session answers about a property.
* `setTo_cases` — all that setting a property can do, to a number or to a text.
* `authored?` — what authors have made, in the game and in the room.
-/

namespace Adventure.Session

open Property (Layers Kind Declaration)

variable {s t : Session} {owner other : Owner} {name : String} {l : Layers}

/-! ## Reading -/

theorem askProperty_fst {α : Type} (s : Session) (owner : Owner)
    (ask : Layers → Except Property.Fault α) :
    (s.askProperty owner ask).1 = ((s.layers owner).bind ask).mapError .property := by
  rw [askProperty_eq]
  cases (s.layers owner).bind ask with
  | ok a => rfl
  | error fault => rfl

/-- Asking changes nothing but the queue of messages. -/
theorem askProperty_snd {α : Type} (s : Session) (owner : Owner)
    (ask : Layers → Except Property.Fault α) :
    ∃ errors, (s.askProperty owner ask).2 = { s with errors } := by
  rw [askProperty_eq]
  cases (s.layers owner).bind ask with
  | ok a => exact ⟨s.errors, rfl⟩
  | error fault => exact ⟨_, rfl⟩

/-- All that a session answers about a property. -/
def answers (s : Session) (owner : Owner) (name : String) :
    Except ScriptFault Int32 × Except ScriptFault String × (Nat → Except ScriptFault String) :=
  ((s.getProperty owner name).1, (s.getText owner name).1,
    fun capacity => (s.getTextWithin owner name capacity).1)

theorem answers_eq (s : Session) (owner : Owner) (name : String) : s.answers owner name =
    (((s.layers owner).bind (·.int s.game.schema name)).mapError .property,
      ((s.layers owner).bind (·.text s.game.schema name)).mapError .property,
      fun capacity => ((s.layers owner).bind fun l =>
        (l.text s.game.schema name).map (Property.truncate · capacity)).mapError .property) := by
  simp only [answers, getProperty, getText, getTextWithin, askProperty_fst]

theorem answers_congr (layers : t.layers? owner = s.layers? owner) (game : t.game = s.game) :
    t.answers owner name = s.answers owner name := by
  rw [answers_eq, answers_eq, Session.layers, Session.layers, layers, game]

/-- Answers depend on the texts for the name that is asked for. -/
theorem answers_congr_text {m : Layers} (there : s.layers? owner = some l)
    (changed : t.layers? owner = some m) (authored : m.authored = l.authored)
    (overrides : m.overrides.text? name = l.overrides.text? name) (game : t.game = s.game) :
    t.answers owner name = s.answers owner name := by
  have int := Property.int_congr s.game.schema authored overrides
  have text := Property.text_congr s.game.schema authored overrides
  simp only [answers_eq, layers, there, changed, game, Except.bind, int, text]

/-- Whether a session answers for a declared property with a text, or with its number. -/
structure Reads (s : Session) (owner : Owner) (name : String) (d : Declaration) (text : String) :
    Prop where
  ofText : d.kind.isText = true → (s.getText owner name).1 = .ok text ∧
    ∀ capacity, (s.getTextWithin owner name capacity).1 = .ok (Property.truncate text capacity)
  ofNumber : d.kind.isText = false →
    (s.getProperty owner name).1 = .ok (Property.leadingInteger text)

theorem reads_valueOf (there : s.layers? owner = some l) {d : Declaration}
    (declared : s.game.schema.get? name = some d) : Reads s owner name d (l.valueOf d) where
  ofText := by
    intro suits
    have resolved : s.game.schema.resolve name .string = .ok d :=
      Property.resolve_of_get? declared suits
    refine ⟨?_, fun capacity => ?_⟩
    · rw [getText, askProperty_fst, layers, there]
      simp only [Except.bind, Layers.text, resolved]
      rfl
    · rw [getTextWithin, askProperty_fst, layers, there]
      simp only [Except.bind, Layers.text, resolved]
      rfl
  ofNumber := by
    intro suits
    have resolved : s.game.schema.resolve name .integer = .ok d :=
      Property.resolve_of_get? declared suits
    rw [getProperty, askProperty_fst, layers, there]
    simp only [Except.bind, Layers.int, resolved]
    rfl

/-! ## Setting -/

theorem setTo_eq_ok (there : s.layers? owner = some l) {wanted : Kind} {d : Declaration}
    (resolved : s.game.schema.resolve name wanted = .ok d) (text : String) :
    s.setTo wanted owner name text =
      (.ok (), s.withOverrides (l.overrides.set d.name text) owner) := by
  simp only [setTo_eq, layers, there, resolved, Except.bind, Except.map, except_mapError_ok,
    concluded]

/-- All that setting a property can do: change a text, or fail and queue a message. -/
theorem setTo_cases (s : Session) (wanted : Kind) (owner : Owner) (name text : String) :
    (∃ l d, s.layers? owner = some l ∧ s.game.schema.resolve name wanted = .ok d ∧
      s.setTo wanted owner name text =
        (.ok (), s.withOverrides (l.overrides.set d.name text) owner)) ∨
    ∃ fault, s.setTo wanted owner name text =
      (.error fault, { s with errors := s.errors ++ [fault.message] }) := by
  cases there : s.layers? owner with
  | none =>
    refine .inr ⟨.property (.noEntity owner.name), ?_⟩
    simp only [setTo_eq, layers, there, Except.bind, Except.map, except_mapError_error, concluded]
    rfl
  | some l =>
    cases resolved : s.game.schema.resolve name wanted with
    | error fault =>
      refine .inr ⟨.property fault, ?_⟩
      simp only [setTo_eq, layers, there, resolved, Except.bind, Except.map,
        except_mapError_error, concluded]
      rfl
    | ok d => exact .inl ⟨l, d, rfl, rfl, setTo_eq_ok there resolved text⟩

theorem layersAt_set_self (authored : Option PropertyMap) (overrides : List PropertyMap) (i : Nat)
    (m : PropertyMap) : layersAt authored (overrides.set i m) i =
      (layersAt authored overrides i).map ({ · with overrides := m }) := by
  cases authored with
  | none => rfl
  | some texts =>
    rw [layersAt, layersAt, List.getElem?_set_self']
    cases overrides[i]? with
    | none => rfl
    | some old => rfl

theorem layersAt_set_ne {i j : Nat} (different : i ≠ j) (authored : Option PropertyMap)
    (overrides : List PropertyMap) (m : PropertyMap) :
    layersAt authored (overrides.set i m) j = layersAt authored overrides j := by
  rw [layersAt, layersAt, List.getElem?_set_ne different]

theorem layers?_withOverrides_self (s : Session) (m : PropertyMap) (owner : Owner) :
    (s.withOverrides m owner).layers? owner =
      (s.layers? owner).map ({ · with overrides := m }) := by
  cases owner with
  | character i =>
    show (if i < s.game.characters.length then
      layersAt _ (s.runtime.characterProperties.set i m) i else none) = _
    rw [layersAt_set_self, layers?]
    split
    · rfl
    · rfl
  | inventory i => exact layersAt_set_self ..
  | hotspot i | object i | region i =>
    simp only [layers?, withOverrides, modifyStatus]
    cases s.room with
    | none => rfl
    | some current => exact layersAt_set_self ..
  | room =>
    simp only [layers?, withOverrides, modifyStatus]
    cases s.room with
    | none => rfl
    | some current => rfl

/-- What is set for an owner is set for no other. -/
theorem layers?_withOverrides_ne (different : owner ≠ other) (s : Session) (m : PropertyMap) :
    (s.withOverrides m owner).layers? other = s.layers? other := by
  -- owners of one kind have maps side by side in a list, and other kinds have other lists
  cases owner with
  | character i =>
    cases other with
    | character j =>
      show (if j < s.game.characters.length then
        layersAt _ (s.runtime.characterProperties.set i m) j else none) = _
      rw [layersAt_set_ne (mt (congrArg Owner.character) different)]
      rfl
    | _ => rfl
  | inventory i =>
    cases other with
    | inventory j => exact layersAt_set_ne (mt (congrArg Owner.inventory) different) ..
    | _ => rfl
  | hotspot i =>
    simp only [layers?, withOverrides, modifyStatus]
    cases s.room with
    | none => cases other <;> rfl
    | some current =>
      cases other with
      | hotspot j => exact layersAt_set_ne (mt (congrArg Owner.hotspot) different) ..
      | _ => rfl
  | object i =>
    simp only [layers?, withOverrides, modifyStatus]
    cases s.room with
    | none => cases other <;> rfl
    | some current =>
      cases other with
      | object j => exact layersAt_set_ne (mt (congrArg Owner.object) different) ..
      | _ => rfl
  | region i =>
    simp only [layers?, withOverrides, modifyStatus]
    cases s.room with
    | none => cases other <;> rfl
    | some current =>
      cases other with
      | region j => exact layersAt_set_ne (mt (congrArg Owner.region) different) ..
      | _ => rfl
  | room =>
    simp only [layers?, withOverrides, modifyStatus]
    cases s.room with
    | none => cases other <;> rfl
    | some current =>
      cases other with
      | room => exact absurd rfl different
      | _ => rfl

theorem game_withOverrides (s : Session) (m : PropertyMap) (owner : Owner) :
    (s.withOverrides m owner).game = s.game ∧ (s.withOverrides m owner).config = s.config ∧
      (s.withOverrides m owner).registry = s.registry := by
  cases owner with
  | _ => exact ⟨rfl, rfl, rfl⟩

theorem data_withOverrides (s : Session) (m : PropertyMap) (owner : Owner) :
    (s.withOverrides m owner).room.map (·.data) = s.room.map (·.data) := by
  have status : ∀ change, (s.modifyStatus change).room.map (·.data) = s.room.map (·.data) := by
    intro change
    rw [modifyStatus, Option.map_map]
    rfl
  cases owner with
  | character i => rfl
  | inventory i => rfl
  | _ => exact status _

theorem answers_setTo {spelling : String}
    (different : owner ≠ other ∨ Text.fold name ≠ Text.fold spelling) (s : Session)
    (wanted : Kind) (text : String) :
    (s.setTo wanted owner name text).2.answers other spelling = s.answers other spelling := by
  rcases setTo_cases s wanted owner name text with ⟨l, d, there, resolved, set⟩ | ⟨fault, failed⟩
  · rw [set]
    have game := (game_withOverrides s (l.overrides.set d.name text) owner).1
    by_cases same : owner = other
    · subst same
      have own := layers?_withOverrides_self s (l.overrides.set d.name text) owner
      rw [there] at own
      refine answers_congr_text there own rfl ?_ game
      have declared := (Property.resolve_eq_ok resolved).1
      rw [PropertyMap.text?_set, Property.fold_name_of_get? declared,
        if_neg (different.resolve_left fun ne => ne rfl)]
    · exact answers_congr (layers?_withOverrides_ne same ..) game
  · rw [failed]
    exact answers_congr rfl rfl

/-! ## Rooms -/

/-- Whether an owner comes and goes with the room. -/
def Owner.ofRoom : Owner → Bool
  | .character _ | .inventory _ => false
  | .hotspot _ | .object _ | .region _ | .room => true

/-- The texts that the author gave an owner, if it exists in the game or in the room. -/
def authored? (g : Game) (room : Option Room) : Owner → Option PropertyMap
  | .character i =>
    if i < g.characters.length then some (g.characterProperties[i]?.getD ∅) else none
  | .inventory i => if i < g.inventory.length then some (g.itemProperties[i]?.getD ∅) else none
  | .hotspot i => room.bind fun r => (r.hotspots.get? i).map (·.properties)
  | .object i => room.bind fun r => r.objects[i]?.map (·.properties)
  | .region i => room.bind fun r => (r.regions.get? i).map (·.properties)
  | .room => room.map (·.properties)

/-- Whether two rooms have the same owners of properties, with the same texts of their author. -/
structure SameTexts (r fitted : Room) : Prop where
  hotspots : fitted.hotspots = r.hotspots
  objects : fitted.objects = r.objects
  regions : fitted.regions = r.regions
  properties : fitted.properties = r.properties

/-- Fitting a room into a game does not touch the texts of its author. -/
theorem sameTexts_fitRoom {room fitted : Room} (fits : s.fitRoom room = .ok fitted) :
    SameTexts room fitted := by
  obtain ⟨-, -, hires, -, rfl⟩ := fitRoom_eq_ok_iff.mp fits
  rw [Room.shown_eq]
  exact ⟨rfl, rfl, rfl, rfl⟩

theorem authored?_congr {g h : Game} (cast : Enrolment.SameCast g h) (room : Option Room)
    (owner : Owner) : authored? h room owner = authored? g room owner := by
  cases owner with
  | character i => simp only [authored?, cast.characters, cast.characterProperties]
  | inventory i => simp only [authored?, cast.inventory, cast.itemProperties]
  | _ => rfl

theorem SameTexts.authored?_eq {room fitted : Room} (same : SameTexts room fitted) (g : Game)
    (owner : Owner) : authored? g (some fitted) owner = authored? g (some room) owner := by
  cases owner with
  | character i => rfl
  | inventory i => rfl
  | hotspot i => simp only [authored?, Option.bind_some, same.hotspots]
  | object i => simp only [authored?, Option.bind_some, same.objects]
  | region i => simp only [authored?, Option.bind_some, same.regions]
  | room => simp only [authored?, Option.map_some, same.properties]

theorem layers?_of_not_ofRoom (lasting : owner.ofRoom = false) (game : t.game = s.game)
    (runtime : t.runtime = s.runtime) : t.layers? owner = s.layers? owner := by
  cases owner with
  | character i => simp only [layers?, game, runtime]
  | inventory i => simp only [layers?, game, runtime]
  | _ => cases lasting

theorem layers?_outside (outside : t.room = none) (ofRoom : owner.ofRoom = true) :
    t.layers? owner = none := by
  cases owner with
  | character i => cases ofRoom
  | inventory i => cases ofRoom
  | _ => simp only [layers?, outside, Option.bind_eq_bind, Option.bind_none]

theorem authored?_of_not_ofRoom (lasting : owner.ofRoom = false) (g : Game)
    (room other : Option Room) : authored? g room owner = authored? g other owner := by
  cases owner with
  | character i => rfl
  | inventory i => rfl
  | _ => cases lasting

theorem authored?_outside (g : Game) (ofRoom : owner.ofRoom = true) :
    authored? g none owner = none := by
  cases owner with
  | character i => cases ofRoom
  | inventory i => cases ofRoom
  | _ => rfl

theorem layersAt_replicate (authored : Option PropertyMap) {count i : Nat}
    (there : authored.isSome → i < count) :
    layersAt authored (List.replicate count ∅) i = authored.map ({ authored := · }) := by
  cases authored with
  | none => rfl
  | some texts =>
    rw [layersAt, List.getElem?_replicate, if_pos (there rfl)]
    rfl

/-- In a room that has just been entered nothing has been set. -/
theorem layers?_entered {current : CurrentRoom} (inside : t.room = some current)
    (untouched : current.status = .forRoom current.data) (ofRoom : owner.ofRoom = true) :
    t.layers? owner = (authored? t.game (some current.data) owner).map ({ authored := · }) := by
  obtain ⟨number, data, status, names⟩ := current
  obtain rfl : status = .forRoom data := untouched
  cases owner with
  | character i => cases ofRoom
  | inventory i => cases ofRoom
  | hotspot i =>
    simp only [layers?, inside, authored?, Option.bind_eq_bind, Option.bind_some]
    exact layersAt_replicate _ (by simp [Capped.get?, Capped.length])
  | object i =>
    simp only [layers?, inside, authored?, Option.bind_eq_bind, Option.bind_some]
    exact layersAt_replicate _ (by simp)
  | region i =>
    simp only [layers?, inside, authored?, Option.bind_eq_bind, Option.bind_some]
    exact layersAt_replicate _ (by simp [Capped.get?, Capped.length])
  | room =>
    simp only [layers?, inside, authored?, Option.bind_eq_bind, Option.bind_some]
    rfl

theorem leaveRoom_kept (s : Session) : s.leaveRoom.game = s.game ∧ s.leaveRoom.config = s.config ∧
    s.leaveRoom.runtime = s.runtime := by
  rw [leaveRoom_eq]
  exact ⟨rfl, rfl, rfl⟩

theorem fitRoom_congr (game : t.game = s.game) (config : t.config = s.config) (room : Room) :
    t.fitRoom room = s.fitRoom room := by
  rw [fitRoom, fitRoom, game, config]

theorem Vacant.layers? {g : Game} (vacant : s.Vacant g) (owner : Owner) :
    s.layers? owner = (authored? s.game none owner).map ({ authored := · }) := by
  cases owner with
  | character i =>
    simp only [Session.layers?, authored?, vacant.characters, ← vacant.cast.characters]
    split
    · next there => exact layersAt_replicate _ fun _ => there
    · rfl
  | inventory i =>
    simp only [Session.layers?, authored?, vacant.items, ← vacant.cast.inventory]
    split
    · next there => exact layersAt_replicate _ fun _ => there
    · next absent => rw [layersAt, List.getElem?_replicate, if_neg absent]; rfl
  | _ => exact layers?_outside vacant.room rfl

end Adventure.Session
