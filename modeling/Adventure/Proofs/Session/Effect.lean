import Adventure.Proofs.Session.Call
import Adventure.Proofs.Session.Room

/-! # What can be done to a session in play

Once a game has been started, players change rooms and scripts make calls. `Effect` says all that
one of these deeds can do to a session, and every invariant of a run splits that and not the deeds.

* `Call`, `Move`, `Deed` — what is done; `deeds` — what becomes of a session.
* `stored?` — the word that a deed stores in a record.
* `effect_deed` — each deed has one of these effects.
* `rel_deeds` — what all effects have in common, whole runs have.
-/

namespace Adventure.Session

open Registry (Live Fault)

/-! ## Calls and moves -/

inductive Call where
  | getProperty (owner : Owner) (name : String)
  | getText (owner : Owner) (name : String)
  | getTextWithin (owner : Owner) (name : String) (capacity : Nat)
  | setProperty (owner : Owner) (name : String) (value : Int32)
  | setText (owner : Owner) (name value : String)
  | readField (handle : Handle) (offset : Int)
  | writeField (handle : Handle) (offset : Int) (value : Int32)
  | readArray (symbol : String) (offset : Int)
  | writeArray (symbol : String) (offset : Int) (value : Int32)
  | addReference (handle : Handle)
  | release (handle : Handle)
  | takeErrors

/-- The session after a call. -/
def call (s : Session) : Call → Session
  | .getProperty owner name => (s.getProperty owner name).2
  | .getText owner name => (s.getText owner name).2
  | .getTextWithin owner name capacity => (s.getTextWithin owner name capacity).2
  | .setProperty owner name value => (s.setProperty owner name value).2
  | .setText owner name value => (s.setText owner name value).2
  | .readField handle offset => (s.readField handle offset).2
  | .writeField handle offset value => (s.writeField handle offset value).2
  | .readArray symbol offset => (s.readArray symbol offset).2
  | .writeArray symbol offset value => (s.writeArray symbol offset value).2
  | .addReference handle => (s.addReference handle).2
  | .release handle => (s.release handle).2
  | .takeErrors => s.takeErrors.2

inductive Move where
  | enter (number : Int32) (room : Room)
  | leave

/-- The session after a change of rooms that may have failed. -/
def move (s : Session) : Move → Session
  | .enter number room => (s.enterRoom number room).2
  | .leave => s.leaveRoom

/-! ## Deeds -/

/-- What players and scripts do after a start. -/
inductive Deed where
  | move (m : Move)
  | call (c : Call)

/-- The session after a deed that may have failed. -/
def deed (s : Session) : Deed → Session
  | .move m => s.move m
  | .call c => s.call c

def deeds (s : Session) (l : List Deed) : Session := l.foldl deed s

/-- A word that is stored in the record behind a target. -/
structure StoredWord where
  target : Target
  offset : Int
  value : Int32

/-- The word that a deed stores, if it succeeds in storing one. -/
def stored? (s : Session) : Deed → Option StoredWord
  | .call (.writeField handle offset value) =>
    (s.writeField handle offset value).1.toOption.bind fun _ =>
      (s.registry.resolve handle).toOption.map fun pair => ⟨pair.1, offset, value⟩
  | .call (.writeArray symbol offset value) =>
    (s.writeArray symbol offset value).1.toOption.bind fun _ =>
      ((s.registry.symbols.array symbol).bind (·.locate offset)).toOption.map fun place =>
        ⟨.static place.1, place.2, value⟩
  | _ => none

/-! ## What a deed can do -/

/-- All that a deed can do to a session if it stores `word`. -/
inductive Effect (s : Session) : Option StoredWord → Session → Prop where
  /-- Messages are queued or taken at most. -/
  | noted (errors : List String) : Effect s none { s with errors }
  | set (m : PropertyMap) (owner : Owner) : Effect s none (s.withOverrides m owner)
  | wrote {target : Target} {missing : Fault} {offset : Int} {value : Int32} {world : World}
      (wrote : s.world.write target missing offset value = .ok world) :
      Effect s (some ⟨target, offset, value⟩) { s with world }
  | counted {handle : Handle} {l : Live} (live : s.registry.live handle = .ok l)
      {references : Nat}
      (small : l.references ≤ Registry.maxReferences → references ≤ Registry.maxReferences) :
      Effect s none { s with registry := s.registry.withReferences handle l references }
  | disposed {handle : Handle} {l : Live} {key : Arena.Key}
      (live : s.registry.live handle = .ok l) (target : l.target = .dynamic key) :
      Effect s none { s with
        registry := s.registry.forget handle l
        world := { s.world with dynamic := s.world.dynamic.erase key } }
  | left : Effect s none s.leaveRoom
  | entered {number : Int32} {room : Room} {entry : Entry} {symbols : SymbolTable}
      (prepared : s.prepareEntry number room = .ok entry)
      (rehearsed : rehearse s.registry.symbols s.boundNames entry.names = .ok symbols) :
      Effect s none
        ({ s.leaveRoom with registry := { s.registry with symbols } }.settle number entry)

variable {s t : Session} {word : Option StoredWord}

theorem effect_move (coherent : s.registry.Coherent) (m : Move) : s.Effect none (s.move m) := by
  cases m with
  | leave => exact .left
  | enter number room =>
    rcases enterRoom_cases coherent number room with
      ⟨fault, -, failed⟩ | ⟨entry, symbols, prepared, rehearsed, succeeded⟩
    · rw [move, failed]
      exact .noted s.errors
    · rw [move, succeeded]
      exact .entered prepared rehearsed

theorem effect_queue (s : Session) (fault : ScriptFault) : s.Effect none (s.queue fault) := by
  rw [queue_eq]
  exact .noted _

/-- What a call does is what it does when it succeeds, or to queue a message. -/
theorem effect_concluded {α : Type} {result : Except ScriptFault (α × Session)}
    (each : ∀ answer after, result = .ok (answer, after) → s.Effect none after) :
    s.Effect none (s.concluded result).2 := by
  cases result with
  | error fault => exact effect_queue s fault
  | ok outcome => exact each outcome.1 outcome.2 rfl

theorem effect_asked {α : Type} (answer : Except ScriptFault α) :
    s.Effect none (s.concluded (answer.map (·, s))).2 := by
  refine effect_concluded ?_
  intro answer after asked
  obtain ⟨b, -, same⟩ := except_map_eq_ok.mp asked
  exact (Prod.mk.inj same).2 ▸ .noted s.errors

theorem effect_askProperty {α : Type} (s : Session) (owner : Owner)
    (ask : Property.Layers → Except Property.Fault α) :
    s.Effect none (s.askProperty owner ask).2 := by
  rw [askProperty_eq]
  exact effect_asked _

theorem effect_askRegistry {α : Type} (s : Session) (answer : Except Fault α) :
    s.Effect none (s.askRegistry answer).2 := by
  rw [askRegistry_eq]
  exact effect_asked _

theorem effect_setTo (s : Session) (wanted : Property.Kind) (owner : Owner) (name text : String) :
    s.Effect none (s.setTo wanted owner name text).2 := by
  rw [setTo_eq]
  refine effect_concluded ?_
  intro answer after changed
  obtain ⟨l, -, same⟩ := except_map_eq_ok.mp changed
  exact (Prod.mk.inj same).2 ▸ .set l.overrides owner

theorem effect_addReference (s : Session) (handle : Handle) :
    s.Effect none (s.addReference handle).2 := by
  rw [addReference_eq]
  refine effect_concluded ?_
  intro count after changed
  obtain ⟨⟨n, registry⟩, counted, same⟩ := except_map_eq_ok.mp changed
  obtain ⟨l, live, room, -, rfl⟩ :=
    Registry.addReference_eq_ok_iff.mp (except_mapError_eq_ok.mp counted)
  rw [← (Prod.mk.inj same).2]
  exact .counted live fun _ => room

theorem effect_release (s : Session) (handle : Handle) : s.Effect none (s.release handle).2 := by
  rw [release_eq]
  refine effect_concluded ?_
  intro state after changed
  obtain ⟨⟨now, registry, dynamic⟩, counted, same⟩ := except_map_eq_ok.mp changed
  have counted := except_mapError_eq_ok.mp counted
  rw [← (Prod.mk.inj same).2]
  cases live : s.registry.live handle with
  | error fault => rw [Registry.release_eq_error _ live] at counted; cases counted
  | ok l =>
    rcases Registry.release_cases s.world.dynamic live with
      ⟨key, target, -, released⟩ | ⟨-, kept⟩
    · rw [released] at counted
      obtain ⟨-, both⟩ := Prod.mk.inj (Except.ok.inj counted)
      obtain ⟨rfl, rfl⟩ := Prod.mk.inj both
      exact .disposed live target
    · rw [kept] at counted
      obtain ⟨-, both⟩ := Prod.mk.inj (Except.ok.inj counted)
      obtain ⟨rfl, rfl⟩ := Prod.mk.inj both
      exact .counted live fun small => Nat.le_trans (Nat.sub_le _ _) small

/-- A call that changes the world stores a word, or fails. -/
theorem writeField_cases (s : Session) (handle : Handle) (offset : Int) (value : Int32) :
    (∃ l world, s.registry.live handle = .ok l ∧
      s.world.write l.target (.staleHandle handle) offset value = .ok world ∧
      s.writeField handle offset value = (.ok (), { s with world })) ∨
    ∃ fault, s.writeField handle offset value =
      (.error (.registry fault), s.queue (.registry fault)) := by
  rw [writeField_eq]
  cases wrote : s.registry.writeField s.world handle offset value with
  | error fault => exact .inr ⟨fault, rfl⟩
  | ok world =>
    obtain ⟨l, live, wrote⟩ := Registry.exists_write_of_writeField wrote
    exact .inl ⟨l, world, live, wrote, rfl⟩

theorem writeArray_cases (s : Session) (symbol : String) (offset : Int) (value : Int32) :
    (∃ array place world, s.registry.symbols.array symbol = .ok array ∧
      array.locate offset = .ok place ∧
      s.world.write (.static place.1) (array.missing offset) place.2 value = .ok world ∧
      s.writeArray symbol offset value = (.ok (), { s with world })) ∨
    ∃ fault, s.writeArray symbol offset value =
      (.error (.registry fault), s.queue (.registry fault)) := by
  rw [writeArray_eq]
  cases found : s.registry.symbols.array symbol with
  | error fault => exact .inr ⟨fault, rfl⟩
  | ok array =>
    dsimp only [Except.bind]
    cases wrote : array.write s.world offset value with
    | error fault => exact .inr ⟨fault, rfl⟩
    | ok world =>
      obtain ⟨place, located, wrote⟩ := StaticArray.write_eq_ok_iff.mp wrote
      exact .inl ⟨array, place, world, rfl, located, wrote, rfl⟩

theorem effect_writeField (s : Session) (handle : Handle) (offset : Int) (value : Int32) :
    s.Effect (s.stored? (.call (.writeField handle offset value)))
      (s.writeField handle offset value).2 := by
  simp only [stored?]
  rcases writeField_cases s handle offset value with ⟨l, world, live, wrote, done⟩ | ⟨fault, failed⟩
  · rw [done, Registry.resolve_of_live live]
    exact .wrote wrote
  · rw [failed]
    exact effect_queue s _

theorem effect_writeArray (s : Session) (symbol : String) (offset : Int) (value : Int32) :
    s.Effect (s.stored? (.call (.writeArray symbol offset value)))
      (s.writeArray symbol offset value).2 := by
  simp only [stored?]
  rcases writeArray_cases s symbol offset value with
    ⟨array, place, world, found, located, wrote, done⟩ | ⟨fault, failed⟩
  · rw [done, found]
    show s.Effect ((array.locate offset).toOption.map _) _
    rw [located]
    exact .wrote wrote
  · rw [failed]
    exact effect_queue s _

theorem effect_call (s : Session) (c : Call) : s.Effect (s.stored? (.call c)) (s.call c) := by
  cases c with
  | getProperty owner name => exact effect_askProperty s owner _
  | getText owner name => exact effect_askProperty s owner _
  | getTextWithin owner name capacity => exact effect_askProperty s owner _
  | setProperty owner name value => exact effect_setTo s _ owner name _
  | setText owner name value => exact effect_setTo s _ owner name _
  | readField handle offset => exact effect_askRegistry s _
  | writeField handle offset value => exact effect_writeField s handle offset value
  | readArray symbol offset => exact effect_askRegistry s _
  | writeArray symbol offset value => exact effect_writeArray s symbol offset value
  | addReference handle => exact effect_addReference s handle
  | release handle => exact effect_release s handle
  | takeErrors => exact .noted []

theorem effect_deed (coherent : s.registry.Coherent) (d : Deed) :
    s.Effect (s.stored? d) (s.deed d) := by
  cases d with
  | move m => exact effect_move coherent m
  | call c => exact effect_call s c

theorem registry_withOverrides (s : Session) (m : PropertyMap) (owner : Owner) :
    (s.withOverrides m owner).registry = s.registry := by
  cases owner with
  | _ => rfl

theorem Effect.coherent (effect : s.Effect word t) (coherent : s.registry.Coherent) :
    t.registry.Coherent := by
  cases effect with
  | noted errors => exact coherent
  | set m owner => rwa [registry_withOverrides]
  | wrote wrote => exact coherent
  | counted live small => exact coherent.withReferences live _
  | disposed live target => exact coherent.forget live
  | left =>
    rw [leaveRoom_registry]
    exact coherent.withSymbols _
  | @entered number room entry symbols prepared rehearsed => exact coherent.withSymbols symbols

theorem Effect.bounded (effect : s.Effect word t) (bounded : s.registry.Bounded) :
    t.registry.Bounded := by
  cases effect with
  | noted errors => exact bounded
  | set m owner => rwa [registry_withOverrides]
  | wrote wrote => exact bounded
  | counted live small =>
    have now := bounded.references_le (Registry.live_eq_ok_iff.mp live)
    exact bounded.withReferences (small now) _ _
  | disposed live target => exact bounded.forget _ _
  | left =>
    rw [leaveRoom_registry]
    exact bounded.withSymbols _
  | @entered number room entry symbols prepared rehearsed => exact bounded.withSymbols symbols

theorem coherent_deeds (coherent : s.registry.Coherent) (l : List Deed) :
    (s.deeds l).registry.Coherent := by
  induction l generalizing s with
  | nil => exact coherent
  | cons first rest hyp => exact hyp ((effect_deed coherent first).coherent coherent)

/-- What every effect does to a session, a run of deeds does. -/
theorem rel_deeds {R : Session → Session → Prop} (refl : ∀ s, R s s)
    (trans : ∀ {s t u}, R s t → R t u → R s u)
    (each : ∀ {s word t}, s.Effect word t → R s t) (coherent : s.registry.Coherent)
    (l : List Deed) : R s (s.deeds l) := by
  induction l generalizing s with
  | nil => exact refl s
  | cons first rest hyp =>
    have effect := effect_deed coherent first
    exact trans (each effect) (hyp (effect.coherent coherent))

end Adventure.Session
