import Adventure.Proofs.Registry.Coherent
import Adventure.Proofs.Registry.Offsets
import Adventure.Session.Call

/-! # Calls, carried out

Calls change a session in place. None of them touches the session before it has found out that it
will succeed, so that a call is told by what it finds: the session that it leaves is the one before
it, with what the call is about replaced.

* `withOverrides_self` — the texts of an owner, put back, change nothing.
* `concluded`, `report_eq` — how a call ends that changes nothing when it fails.
* `askProperty_eq`, `setTo_eq`, `changeWorld_eq`, … — how each of the calls ends.
-/

namespace Adventure

namespace Session

open Property (Layers Kind Declaration)

variable {α : Type} {s : Session} {o : Owner} {l : Layers}

/-! ## Texts that are put back -/

theorem set_overrides {authored : Option PropertyMap} {overrides : List PropertyMap}
    {i : Nat} {l : Property.Layers} (there : layersAt authored overrides i = some l) :
    overrides.set i l.overrides = overrides := by
  cases authored with
  | none => cases there
  | some texts =>
    unfold layersAt at there
    cases here : overrides[i]? with
    | none => rw [here] at there; cases there
    | some m =>
      rw [here] at there
      obtain rfl := Option.some.inj there
      exact InPlace.set_of_getElem? here

theorem modifyStatus_self (s : Session) {change : RoomStatus → RoomStatus}
    (same : ∀ c, s.room = some c → change c.status = c.status) : s.modifyStatus change = s := by
  unfold modifyStatus
  cases here : s.room with
  | none => exact congrArg (fun room => { s with room }) here.symm
  | some c =>
    have kept : ({ c with status := change c.status } : CurrentRoom) = c := by rw [same c here]
    exact (congrArg (fun c => { s with room := some c }) kept).trans
      (congrArg (fun room => { s with room }) here.symm)

/-- The texts of an owner, put back, change nothing. -/
theorem withOverrides_self (there : s.layers? o = some l) : s.withOverrides l.overrides o = s := by
  cases o with
  | character i =>
    simp only [layers?] at there
    split at there
    · exact congrArg (fun characterProperties =>
        { s with runtime := { s.runtime with characterProperties } }) (set_overrides there)
    · cases there
  | inventory i =>
    exact congrArg (fun itemProperties => { s with runtime := { s.runtime with itemProperties } })
      (set_overrides there)
  | hotspot i | object i | region i =>
    simp only [withOverrides]
    refine s.modifyStatus_self fun c here => ?_
    simp only [layers?, here, Option.bind_eq_bind, Option.bind_some] at there
    rw [set_overrides there]
  | room =>
    simp only [withOverrides]
    refine s.modifyStatus_self fun c here => ?_
    simp only [layers?, here, Option.bind_eq_bind, Option.bind_some] at there
    rw [← Option.some.inj there]

theorem layers_eq_ok_iff : s.layers o = .ok l ↔ s.layers? o = some l := by
  unfold layers
  cases s.layers? o with
  | none => simp
  | some own => simp

/-! ## Reporting -/

/-- A fault changes the queue alone. -/
theorem queue_eq (s : Session) (fault : ScriptFault) :
    s.queue fault = { s with errors := (s.queue fault).errors } := by
  unfold queue
  split <;> rfl

/-- How a call ends that changes nothing when it fails. -/
def concluded (s : Session) : Except ScriptFault (α × Session) → Outcome α
  | .ok (a, after) => (.ok a, after)
  | .error fault => (.error fault, s.queue fault)

theorem report_eq {call : InPlace ScriptFault Session α} (careful : call.AllOrNothing)
    (s : Session) : s.report call = s.concluded (call.result s) := by
  unfold report
  rw [InPlace.on_of_result careful]
  cases call.result s with
  | ok left => rfl
  | error fault => rfl

/-- A call about a part of the session replaces that part, if the call succeeds. -/
theorem report_onPart {ε τ : Type} (part : Session → Except ε τ) (put : τ → Session → Session)
    (back : ∀ {s p}, part s = .ok p → put p s = s) {call : InPlace ε τ α}
    (careful : call.AllOrNothing) (f : ε → ScriptFault) (s : Session) :
    s.report ((InPlace.onPart part put call).mapFault f) =
      s.concluded ((((part s).bind call.result).mapError f).map
        fun left => (left.1, put left.2 s)) := by
  rw [report_eq ((careful.onPart back).mapFault f), InPlace.result_mapFault, InPlace.result_onPart]
  cases part s with
  | error fault => rfl
  | ok p =>
    dsimp only [Except.bind]
    cases call.result p with
    | ok left => rfl
    | error fault => rfl

/-! ## Properties -/

theorem onLayers_eq {call : InPlace Property.Fault Layers α} (careful : call.AllOrNothing)
    (s : Session) (o : Owner) : s.onLayers o call =
      s.concluded ((((s.layers o).bind call.result).mapError .property).map
        fun left => (left.1, s.withOverrides left.2.overrides o)) :=
  report_onPart (·.layers o) (fun l s => s.withOverrides l.overrides o)
    (fun there => withOverrides_self (layers_eq_ok_iff.mp there)) careful .property s

theorem askProperty_eq (s : Session) (o : Owner) (ask : Layers → Except Property.Fault α) :
    s.askProperty o ask =
      s.concluded ((((s.layers o).bind ask).mapError .property).map (·, s)) := by
  unfold askProperty
  rw [onLayers_eq (InPlace.allOrNothing_ask ask)]
  cases there : s.layers o with
  | error fault => rfl
  | ok l =>
    have told : (InPlace.ask ask).result l = (ask l).map (·, l) := by
      unfold InPlace.result
      rw [InPlace.on_ask]
      cases ask l with
      | ok a => rfl
      | error fault => rfl
    dsimp only [Except.bind]
    rw [told]
    cases ask l with
    | error fault => rfl
    | ok a =>
      exact congrArg (fun after => ((.ok a, after) : Outcome α))
        (withOverrides_self (layers_eq_ok_iff.mp there))

/-- Sets a property that suits the accessors of `wanted` to a text. -/
def setTo (s : Session) (wanted : Kind) (o : Owner) (name text : String) : Outcome Unit :=
  s.onLayers o (Layers.setInPlace s.game.schema name wanted text)

theorem setProperty_eq_setTo (s : Session) (o : Owner) (name : String) (value : Int32) :
    s.setProperty o name value = s.setTo .integer o name (toString value.toInt) := rfl

theorem setText_eq_setTo (s : Session) (o : Owner) (name value : String) :
    s.setText o name value = s.setTo .string o name value := rfl

/-- Nothing is set before the property has been found to suit. -/
theorem setTo_eq (s : Session) (wanted : Kind) (o : Owner) (name text : String) :
    s.setTo wanted o name text =
      s.concluded ((((s.layers o).bind fun l => (s.game.schema.resolve name wanted).map fun d =>
        { l with overrides := l.overrides.set d.name text }).mapError .property).map
          fun l => ((), s.withOverrides l.overrides o)) := by
  have careful : (Layers.setInPlace s.game.schema name wanted text).AllOrNothing :=
    .ask_bind _ fun d l fault => nofun
  unfold setTo
  rw [onLayers_eq careful]
  cases s.layers o with
  | error fault => rfl
  | ok l =>
    dsimp only [Except.bind]
    unfold Layers.setInPlace
    rw [InPlace.result_ask_bind]
    cases s.game.schema.resolve name wanted with
    | error fault => rfl
    | ok d => rfl

/-! ## Fields, arrays and references -/

theorem askRegistry_eq (s : Session) (answer : Except Registry.Fault α) :
    s.askRegistry answer = s.concluded ((answer.mapError .registry).map (·, s)) := by
  unfold askRegistry
  rw [report_eq ((InPlace.allOrNothing_ask _).mapFault _), InPlace.result_mapFault]
  unfold InPlace.result
  rw [InPlace.on_ask]
  cases answer with
  | ok a => rfl
  | error fault => rfl

theorem changeWorld_eq {change : InPlace Registry.Fault World Unit}
    (careful : change.AllOrNothing) (s : Session) : s.changeWorld change =
      s.concluded (((change.result s.world).mapError .registry).map
        fun left => (left.1, { s with world := left.2 })) :=
  report_onPart (fun s => .ok s.world) (fun world s => { s with world })
    (by rintro s _ ⟨⟩; rfl) careful .registry s

theorem writeField_eq (s : Session) (handle : Handle) (offset : Int) (v : Int32) :
    s.writeField handle offset v =
      s.concluded (((s.registry.writeField s.world handle offset v).mapError .registry).map
        fun world => ((), { s with world })) := by
  have careful : (s.registry.writeFieldInPlace handle offset v).AllOrNothing :=
    .ask_bind _ fun l => World.allOrNothing_writeInPlace _ _ _ _
  unfold writeField Registry.writeField
  rw [changeWorld_eq careful]
  cases (s.registry.writeFieldInPlace handle offset v).result s.world with
  | ok left => rfl
  | error fault => rfl

theorem writeArray_eq (s : Session) (symbol : String) (offset : Int) (v : Int32) :
    s.writeArray symbol offset v =
      s.concluded ((((s.registry.symbols.array symbol).bind (·.write s.world offset v)).mapError
        .registry).map fun world => ((), { s with world })) := by
  have careful (a : StaticArray) : (a.writeInPlace offset v).AllOrNothing :=
    .ask_bind _ fun place => World.allOrNothing_writeInPlace _ _ _ _
  unfold writeArray
  rw [changeWorld_eq (.ask_bind _ careful), InPlace.result_ask_bind]
  cases s.registry.symbols.array symbol with
  | error fault => rfl
  | ok a =>
    dsimp only [Except.bind]
    unfold StaticArray.write
    cases (a.writeInPlace offset v).result s.world with
    | ok left => rfl
    | error fault => rfl

theorem addReference_eq (s : Session) (handle : Handle) : s.addReference handle =
    s.concluded (((s.registry.addReference handle).mapError .registry).map
      fun left => (left.1, { s with registry := left.2 })) :=
  report_onPart (fun s => .ok s.registry) (fun registry s => { s with registry })
    (by rintro s _ ⟨⟩; rfl) (Registry.allOrNothing_addReferenceInPlace handle) .registry s

theorem release_eq (s : Session) (handle : Handle) : s.release handle =
    s.concluded (((s.registry.release s.world.dynamic handle).mapError .registry).map
      fun left => (left.1, s.withTable left.2)) :=
  report_onPart (fun s => .ok s.table) (fun table s => s.withTable table)
    (by rintro s _ ⟨⟩; rfl) (Registry.allOrNothing_releaseInPlace handle) .registry s

end Session

end Adventure
