import Adventure.Proofs.Registry.Listing
import Adventure.Proofs.Session.Enrolment

/-! # What an enrolment leaves behind

An enrolment that succeeds is told by its steps: the entities that they register get the handles in
their order, the names that they bind stand for what they were bound to, and the records are those
that the changes of the steps make.

* `lists_takeAll` — the handles.
* `get?_takeAll` — the symbols.
* `world_takeAll` — the records.
-/

namespace Adventure

def Entity.pair (e : Entity) : Target × ScriptType := (.static e, e.type)

namespace Enrolment

open Registry (Fault)

variable {steps rest : List Enrolment} {step : Enrolment} {v w x : World} {p q r : Registry}
  {listed : List (Target × ScriptType)}

/-! ## Steps in a row -/

theorem takeAll_cons_eq_ok : takeAll (step :: rest) w r = (.ok (), x, q) ↔
    ∃ v p, step.take w r = (.ok (), v, p) ∧ takeAll rest v p = (.ok (), x, q) := by
  simp only [takeAll]
  cases step.take w r with
  | mk outcome after =>
    obtain ⟨v, p⟩ := after
    cases outcome with
    | error fault => simp
    | ok u => simp

theorem takeAll_append_eq_ok {first : List Enrolment} :
    takeAll (first ++ rest) w r = (.ok (), x, q) ↔
      ∃ v p, takeAll first w r = (.ok (), v, p) ∧ takeAll rest v p = (.ok (), x, q) := by
  induction first generalizing w r with
  | nil => simp [takeAll]
  | cons step first hyp =>
    simp only [List.cons_append, takeAll_cons_eq_ok, hyp]
    constructor
    · rintro ⟨v, p, here, u, s, middle, last⟩
      exact ⟨u, s, ⟨v, p, here, middle⟩, last⟩
    · rintro ⟨u, s, ⟨v, p, here, middle⟩, last⟩
      exact ⟨v, p, here, u, s, middle, last⟩

/-- A row that succeeds leaves the outcome to what follows it. -/
theorem takeAll_append_of_ok {first : List Enrolment}
    (done : takeAll first w r = (.ok (), v, p)) (rest : List Enrolment) :
    takeAll (first ++ rest) w r = takeAll rest v p := by
  cases last : takeAll rest v p with
  | mk outcome after =>
    induction first generalizing w r with
    | nil =>
      obtain ⟨rfl, rfl⟩ := Prod.mk.inj (Prod.mk.inj done).2
      exact last
    | cons step first hyp =>
      obtain ⟨u, s, here, later⟩ := takeAll_cons_eq_ok.mp done
      rw [List.cons_append, takeAll_cons_of_ok (by rw [here]), here]
      exact hyp later

theorem takeAll_append_of_error {first : List Enrolment} {fault : Fault}
    (failed : (takeAll first w r).1 = .error fault) (rest : List Enrolment) :
    (takeAll (first ++ rest) w r).1 = .error fault := by
  induction first generalizing w r with
  | nil => cases failed
  | cons step first hyp =>
    cases here : (step.take w r).1 with
    | error own =>
      rw [takeAll_cons_of_error here] at failed
      rw [List.cons_append, takeAll_cons_of_error here, failed]
    | ok u =>
      rw [takeAll_cons_of_ok here] at failed
      rw [List.cons_append, takeAll_cons_of_ok here]
      exact hyp failed

theorem coherent_of_take (coherent : r.Coherent) (taken : step.take w r = (.ok (), v, p)) :
    p.Coherent := by
  have after := kept_coherent.take coherent w step
  rwa [taken] at after

/-! ## All that a step can do -/

/-- The entity that a step registers. -/
def entity? : Enrolment → Option Entity
  | entity e _ => some e
  | _ => none

/-- The entities that steps register, in their order. -/
def entities (steps : List Enrolment) : List Entity := steps.filterMap entity?

def isSurface : Enrolment → Bool
  | surface => true
  | _ => false

theorem throughout_plain : Throughout fun step => step.isSurface = false where
  entity _ _ := rfl
  numberClip _ := rfl
  resetCharacter _ := rfl
  prepareGui _ := rfl
  wrapGui _ := rfl
  array _ _ _ := rfl
  nameOnly _ _ := rfl

/-- What a step does to the records. The surface depends on the registry as well. -/
def change : Enrolment → World → World
  | prepare change => change
  | _ => id

/-- The registry once a step has registered what it is about, its name not bound yet. -/
def registered (w : World) (r : Registry) : Enrolment → Registry
  | entity e _ => (r.registered (.static e) e.type).2
  | surface => (makeSurface w r).2.2
  | _ => r

/-- What the name of a step stands for in a registry that has its entity. -/
def symbol? (r : Registry) : Enrolment → Option Symbol
  | entity e _ => (r.handleFor (.static e) e.type).map (.object · e.type)
  | array symbol type count => some (.array ⟨symbol, type, 0, type.naturalSize, count⟩)
  | nameOnly _ e => some (.entity e)
  | function _ => some .function
  | prepare _ | surface => none

theorem ofRegistry_eq_ok {changed : Except Fault Registry} :
    ofRegistry w r changed = (.ok (), v, p) ↔ v = w ∧ changed = .ok p := by
  cases changed with
  | error fault => simp [ofRegistry]
  | ok after => simp [ofRegistry, eq_comm]

theorem exportArray_natural (r : Registry) (symbol : String) (type : ScriptType) (count : Nat) :
    r.exportArray symbol 0 type type.naturalSize count =
      r.bindSymbol symbol (.array ⟨symbol, type, 0, type.naturalSize, count⟩) := by
  -- elements as far apart as they are large do not overlap
  simp only [Registry.exportArray, StaticArray.make, Nat.le_refl, if_true]
  rfl

theorem handleFor_register (r : Registry) (target : Target) (type : ScriptType) :
    (r.registered target type).2.handleFor target type = some (r.registered target type).1 := by
  cases known : r.handleFor target type with
  | some handle => rwa [Registry.registered_of_some known]
  | none =>
    rw [Registry.handleFor_registered_of_none known, if_pos rfl, Registry.registered_of_none known]

theorem handleFor_register_of_some {target other : Target} {type otherType : ScriptType}
    {handle : Handle} (known : r.handleFor other otherType = some handle) :
    (r.registered target type).2.handleFor other otherType = some handle := by
  cases before : r.handleFor target type with
  | some handle => rwa [Registry.registered_of_some before]
  | none =>
    rw [Registry.handleFor_registered_of_none before, if_neg, known]
    rintro same
    obtain ⟨rfl, rfl⟩ := Prod.mk.inj same
    rw [before] at known
    cases known

/-- The key that the surface for dialog options gets. -/
def surfaceKey (w : World) : Arena.Key := (w.dynamic.insert (.surface (.linked 0 0))).1

/-- The records with that surface, whose handle is `handle`. -/
def withSurface (w : World) (handle : Handle) : World :=
  { w with
    dynamic := (w.dynamic.insert (.surface (.linked 0 0))).2
    rendering := w.rendering.withSurface (Int32.ofInt handle) }

/-- The surface is held from the moment that it is registered. -/
theorem makeSurface_eq_ok_iff : makeSurface w r = (.ok (), v, p) ↔
    ∃ handle made count, r.register (.dynamic (surfaceKey w)) .drawingSurface = .ok (handle, made) ∧
      made.addReference handle = .ok (count, p) ∧ v = withSurface w handle := by
  unfold surfaceKey
  simp only [makeSurface]
  split
  · next refused => simp [refused]
  · next handle made given =>
    rw [given]
    split
    · next refused => simp [refused]
    · next count held counted => simp [counted, withSurface, eq_comm, and_comm]

theorem makeSurface_symbols (w : World) (r : Registry) :
    (makeSurface w r).2.2.symbols = r.symbols := by
  simp only [makeSurface]
  split
  · rfl
  · next handle made given =>
    have same : made.symbols = r.symbols := by
      have known := r.registered_symbols (.dynamic (surfaceKey w)) .drawingSurface
      rwa [surfaceKey, (Registry.register_eq_ok_iff.mp given).2] at known
    split
    · exact same
    · next counted =>
      obtain ⟨l, -, -, -, rfl⟩ := Registry.addReference_eq_ok_iff.mp counted
      exact same

/-- What a step does to the records, the surface apart, does not depend on the registry. -/
theorem world_take (plain : step.isSurface = false) (taken : step.take w r = (.ok (), v, p)) :
    v = step.change w := by
  cases step with
  | prepare change => exact (Prod.mk.inj (Prod.mk.inj taken).2).1.symm
  | surface => cases plain
  | entity | array | nameOnly | function => exact (ofRegistry_eq_ok.mp taken).1

/-- All that a step can do to a registry when it succeeds: it registers what it is about and binds
its name, if it has one, which was free. -/
theorem take_cases (coherent : r.Coherent) (taken : step.take w r = (.ok (), v, p)) :
    (step.name? = none ∧ p = step.registered w r) ∨
      ∃ name symbol symbols, step.name? = some name ∧
        step.symbol? (step.registered w r) = some symbol ∧
        r.symbols.bind name symbol = .ok symbols ∧
        p = { step.registered w r with symbols } := by
  cases step with
  | prepare change =>
    obtain ⟨-, rfl⟩ := Prod.mk.inj (Prod.mk.inj taken).2
    exact .inl ⟨rfl, rfl⟩
  | entity e name =>
    obtain ⟨-, enrolled⟩ := ofRegistry_eq_ok.mp taken
    unfold register at enrolled
    simp only [name?]
    split at enrolled
    · next nameless =>
      obtain ⟨answer, given, rfl⟩ := except_map_eq_ok.mp enrolled
      exact .inl ⟨if_pos nameless, congrArg (·.2) (Registry.register_eq_ok_iff.mp given).2.symm⟩
    · next named =>
      -- that the name is free is found out before the entity is registered, and still so after it
      obtain ⟨⟨handle, last⟩, done, -⟩ := except_map_eq_ok.mp enrolled
      obtain ⟨made, symbols, given, -⟩ := Registry.registerAs_eq_ok done
      rw [coherent.map_registerAs name (Registry.register_eq_registered given)] at enrolled
      obtain ⟨symbols, bound, rfl⟩ := Registry.bindSymbol_eq_ok.mp enrolled
      rw [Registry.registered_symbols] at bound
      refine .inr ⟨name, _, symbols, if_neg named, ?_, bound, rfl⟩
      simp only [symbol?, registered, handleFor_register, Option.map_some]
  | surface => exact .inl ⟨rfl, (congrArg (·.2.2) taken).symm⟩
  | array symbol type count =>
    obtain ⟨-, exported⟩ := ofRegistry_eq_ok.mp taken
    rw [exportArray_natural] at exported
    obtain ⟨symbols, bound, rfl⟩ := Registry.bindSymbol_eq_ok.mp exported
    exact .inr ⟨symbol, _, symbols, rfl, rfl, bound, rfl⟩
  | nameOnly symbol e =>
    obtain ⟨-, named⟩ := ofRegistry_eq_ok.mp taken
    obtain ⟨symbols, bound, rfl⟩ := Registry.bindSymbol_eq_ok.mp named
    exact .inr ⟨symbol, _, symbols, rfl, rfl, bound, rfl⟩
  | function symbol =>
    obtain ⟨-, named⟩ := ofRegistry_eq_ok.mp taken
    obtain ⟨symbols, bound, rfl⟩ := Registry.bindSymbol_eq_ok.mp named
    exact .inr ⟨symbol, _, symbols, rfl, rfl, bound, rfl⟩

/-! ## Handles -/

theorem lists_registered (lists : r.Lists listed) (plain : step.isSurface = false)
    (new : ∀ e, step.entity? = some e → e.pair ∉ listed) :
    (step.registered w r).Lists (listed ++ (step.entity?.map Entity.pair).toList) := by
  cases step with
  | entity e name => exact lists.registered (new e rfl)
  | surface => cases plain
  | prepare | array | nameOnly | function =>
    simp only [entity?, Option.map_none, Option.toList_none, List.append_nil]
    exact lists

theorem entities_cons (step : Enrolment) (rest : List Enrolment) :
    (entities (step :: rest)).map Entity.pair =
      (step.entity?.map Entity.pair).toList ++ (entities rest).map Entity.pair := by
  cases h : step.entity? <;> simp [entities, h]

theorem lists_take (lists : r.Lists listed) (plain : step.isSurface = false)
    (new : (listed ++ (step.entity?.map Entity.pair).toList).Nodup)
    (taken : step.take w r = (.ok (), v, p)) :
    p.Lists (listed ++ (step.entity?.map Entity.pair).toList) := by
  have registered :
      (step.registered w r).Lists (listed ++ (step.entity?.map Entity.pair).toList) := by
    refine lists_registered lists plain fun e known member => ?_
    have apart := (List.nodup_append.mp new).2.2
    exact apart _ member e.pair (by simp [known]) rfl
  rcases take_cases lists.coherent taken with ⟨-, rfl⟩ | ⟨_, _, symbols, -, -, -, rfl⟩
  · exact registered
  · exact registered.withSymbols symbols

/-- Entities that differ from each other and from all that was registered get the next handles. -/
theorem lists_takeAll (lists : r.Lists listed) (plain : ∀ step ∈ steps, step.isSurface = false)
    (new : (listed ++ (entities steps).map Entity.pair).Nodup)
    (taken : takeAll steps w r = (.ok (), x, q)) :
    q.Lists (listed ++ (entities steps).map Entity.pair) := by
  induction steps generalizing w r listed with
  | nil =>
    obtain ⟨-, rfl⟩ := Prod.mk.inj (Prod.mk.inj taken).2
    simpa [entities] using lists
  | cons step rest hyp =>
    obtain ⟨v, p, here, later⟩ := takeAll_cons_eq_ok.mp taken
    obtain ⟨plainHere, plainLater⟩ := List.forall_mem_cons.mp plain
    rw [entities_cons, ← List.append_assoc] at new ⊢
    exact hyp (lists_take lists plainHere (List.nodup_append.mp new).1 here) plainLater new later

theorem ofRegistry_ne_error {changed : Except Fault Registry} {fault : Fault}
    (other : changed ≠ .error fault) : (ofRegistry w r changed).1 ≠ .error fault := by
  cases changed with
  | error own => exact fun same => other (congrArg Except.error (Except.error.inj same))
  | ok after => exact nofun

/-- A step that has a handle left does not want for numbers. -/
theorem take_ne_overflow (coherent : r.Coherent) (plain : step.isSurface = false)
    (room : ∀ e, step.entity? = some e → r.nextHandle < Registry.maxHandle) :
    (step.take w r).1 ≠ .error .overflow := by
  cases step with
  | prepare change => exact nofun
  | surface => cases plain
  | entity e name =>
    have given := Registry.register_of_room (room e rfl) (.static e) e.type
    refine ofRegistry_ne_error ?_
    unfold register
    split
    · rw [given]
      exact nofun
    · rw [coherent.map_registerAs name given]
      exact Registry.bindSymbol_ne_overflow
  | array symbol type count =>
    refine ofRegistry_ne_error ?_
    rw [exportArray_natural]
    exact Registry.bindSymbol_ne_overflow
  | nameOnly | function => exact ofRegistry_ne_error Registry.bindSymbol_ne_overflow

theorem nextHandle_take (coherent : r.Coherent) (plain : step.isSurface = false)
    (taken : step.take w r = (.ok (), v, p)) :
    p.nextHandle ≤ r.nextHandle + step.entity?.toList.length := by
  have registered : (step.registered w r).nextHandle ≤
      r.nextHandle + step.entity?.toList.length := by
    cases step with
    | entity e name => exact r.nextHandle_registered_le (.static e) e.type
    | surface => cases plain
    | prepare | array | nameOnly | function => exact Int.le_of_eq (Int.add_zero r.nextHandle).symm
  rcases take_cases coherent taken with ⟨-, rfl⟩ | ⟨_, _, symbols, -, -, -, rfl⟩
  · exact registered
  · exact registered

/-- Nor do steps that have a handle left for each of their entities. -/
theorem takeAll_ne_overflow (coherent : r.Coherent) (plain : ∀ step ∈ steps, step.isSurface = false)
    (room : r.nextHandle + (entities steps).length ≤ Registry.maxHandle) :
    (takeAll steps w r).1 ≠ .error .overflow := by
  induction steps generalizing w r with
  | nil => exact nofun
  | cons step rest hyp =>
    obtain ⟨plainHere, plainLater⟩ := List.forall_mem_cons.mp plain
    have count : (entities (step :: rest)).length =
        step.entity?.toList.length + (entities rest).length := by
      cases known : step.entity? <;> simp [entities, known, Nat.add_comm]
    rw [count, Int.natCast_add, ← Int.add_assoc] at room
    have here : ∀ e, step.entity? = some e → r.nextHandle < Registry.maxHandle := by
      intro e known
      rw [known] at room
      have one := Int.le_trans (Int.le_add_of_nonneg_right (Int.natCast_nonneg _)) room
      exact Int.lt_of_add_one_le one
    cases taken : step.take w r with
    | mk outcome after =>
      obtain ⟨v, p⟩ := after
      cases outcome with
      | error fault =>
        have other := take_ne_overflow (w := w) coherent plainHere here
        rw [taken] at other
        rwa [takeAll_cons_of_error (by rw [taken])]
      | ok u =>
        have next := nextHandle_take coherent plainHere taken
        rw [takeAll_cons_of_ok (by rw [taken]), taken]
        refine hyp (coherent_of_take coherent taken) plainLater ?_
        exact Int.le_trans (Int.add_le_add_right next _) room

/-- The surface gets the next handle, if there is one, and the world notes it. -/
theorem lists_surface (lists : r.Lists listed)
    (new : (.dynamic (surfaceKey w), .drawingSurface) ∉ listed)
    (room : r.nextHandle < Registry.maxHandle) :
    ∃ held, surface.take w r = (.ok (), withSurface w r.nextHandle, held) ∧
      held.Lists (listed ++ [(.dynamic (surfaceKey w), .drawingSurface)]) := by
  have next : (r.registered (.dynamic (surfaceKey w)) .drawingSurface).1 = r.nextHandle := by
    rw [Registry.registered_of_none (lists.handleFor_eq_none new)]
  have given : r.register (.dynamic (surfaceKey w)) .drawingSurface =
      .ok (r.nextHandle, (r.registered (.dynamic (surfaceKey w)) .drawingSurface).2) := by
    rw [← next]
    exact Registry.register_of_room room _ _
  obtain ⟨held, counted, holds⟩ := lists.hold new
  exact ⟨held, makeSurface_eq_ok_iff.mpr ⟨_, _, 1, given, counted, rfl⟩, holds⟩

/-- A surface that has been made has got a handle, noted in the world. -/
theorem exists_of_surface (taken : surface.take w r = (.ok (), v, p)) :
    (∃ handle, v = withSurface w handle) ∧
      (r.handleFor (.dynamic (surfaceKey w)) .drawingSurface = none →
        r.nextHandle < Registry.maxHandle) := by
  obtain ⟨handle, made, count, given, -, noted⟩ := makeSurface_eq_ok_iff.mp taken
  exact ⟨⟨handle, noted⟩, (Registry.register_eq_ok_iff.mp given).1⟩

/-! ## Symbols -/

/-- A handle that has been given stays. -/
theorem kept_handleFor (target : Target) (type : ScriptType) (handle : Handle) :
    Kept fun r => r.handleFor target type = some handle where
  register {r other otherType given after} known made := by
    have kept : (r.registered other otherType).2.handleFor target type = some handle :=
      handleFor_register_of_some known
    rwa [(Registry.register_eq_ok_iff.mp made).2] at kept
  addReference known counted := by
    obtain ⟨l, -, -, -, rfl⟩ := Registry.addReference_eq_ok_iff.mp counted
    exact known
  withSymbols _ known := known

theorem symbols_registered (w : World) (r : Registry) (step : Enrolment) :
    (step.registered w r).symbols = r.symbols := by
  cases step with
  | entity e name => exact Registry.registered_symbols ..
  | surface => exact makeSurface_symbols w r
  | prepare | array | nameOnly | function => rfl

/-- A symbol that stands for an entity stays good while its handle does. -/
theorem symbol?_mono {symbol : Symbol} (kept : ∀ {target type handle},
      p.handleFor target type = some handle → q.handleFor target type = some handle)
    (known : step.symbol? p = some symbol) : step.symbol? q = some symbol := by
  cases step with
  | entity e name =>
    obtain ⟨handle, found, rfl⟩ := Option.map_eq_some_iff.mp known
    rw [symbol?, kept found]
    rfl
  | prepare | surface => cases known
  | array | nameOnly | function => exact known

theorem handleFor_takeAll (taken : takeAll steps w r = (.ok (), x, q)) {target : Target}
    {type : ScriptType} {handle : Handle} (known : r.handleFor target type = some handle) :
    q.handleFor target type = some handle := by
  have after := (kept_handleFor target type handle).takeAll known steps w
  rwa [taken] at after

/-- After a step that succeeds its name stands for what it was bound to, and every other name for
what it stood for. -/
theorem get?_take (coherent : r.Coherent) (taken : step.take w r = (.ok (), v, p)) :
    (step.name? = none ∧ p.symbols = r.symbols) ∨
      ∃ name symbol, step.name? = some name ∧ step.symbol? p = some symbol ∧
        r.symbols.get? name = none ∧
        ∀ other, p.symbols.get? other =
          if name = other then some symbol else r.symbols.get? other := by
  rcases take_cases coherent taken with
    ⟨none, rfl⟩ | ⟨name, symbol, symbols, some, known, bound, rfl⟩
  · exact .inl ⟨none, symbols_registered w r step⟩
  · refine .inr ⟨name, symbol, some, ?_, (SymbolTable.bind_eq_ok_iff.mp bound).1,
      SymbolTable.get?_bind bound⟩
    exact symbol?_mono (fun found => found) known

/-- After an enrolment that succeeds the names of its steps stand for what they were bound to, and
all other names for what they stood for. -/
theorem get?_takeAll (coherent : r.Coherent) (taken : takeAll steps w r = (.ok (), x, q))
    (name : String) (symbol : Symbol) : q.symbols.get? name = some symbol ↔
      r.symbols.get? name = some symbol ∨
        ∃ step ∈ steps, step.name? = some name ∧ step.symbol? q = some symbol := by
  induction steps generalizing w r with
  | nil =>
    obtain ⟨-, rfl⟩ := Prod.mk.inj (Prod.mk.inj taken).2
    simp
  | cons step rest hyp =>
    obtain ⟨v, p, here, later⟩ := takeAll_cons_eq_ok.mp taken
    have middle := coherent_of_take coherent here
    rw [hyp middle later]
    simp only [List.exists_mem_cons_iff]
    rcases get?_take coherent here with ⟨none, same⟩ | ⟨own, meaning, some, known, free, bound⟩
    · simp [none, same]
    · -- what the step has bound its name to is what the name stands for in the end
      have last := symbol?_mono (handleFor_takeAll later) known
      rw [bound, some, last]
      by_cases same : own = name
      · subst same
        simp [free]
      · simp [same]

/-! ## Records -/

theorem world_takeAll (plain : ∀ step ∈ steps, step.isSurface = false)
    (taken : takeAll steps w r = (.ok (), x, q)) :
    x = steps.foldl (fun w step => step.change w) w := by
  induction steps generalizing w r with
  | nil =>
    obtain ⟨rfl, -⟩ := Prod.mk.inj (Prod.mk.inj taken).2
    rfl
  | cons step rest hyp =>
    obtain ⟨v, p, here, later⟩ := takeAll_cons_eq_ok.mp taken
    obtain ⟨plainHere, plainLater⟩ := List.forall_mem_cons.mp plain
    obtain rfl := world_take plainHere here
    exact hyp plainLater later

end Enrolment

end Adventure
