import Adventure.Proofs.Registry.Coherent
import Adventure.Proofs.Run

/-! # Handles are issued for good

A registry is asked to register targets, to bind and free names, and to count references. Whatever
comes in whatever order, a handle that has been issued for a target under a type stands for that
pair until it is released, and for nothing afterwards.

* `Request`, `serve`, `served` — what is asked, and what becomes of a registry.
* `Effect` — all that a request can do to handles. Every invariant splits this and not the requests.
* `Numbered` — the invariant: handles count up from 1 without a gap.
* `Continues` — what an earlier registry says of a later one.
-/

namespace Adventure.Registry

open Std (ExtTreeMap)

/-! ## Requests -/

inductive Request where
  | register (target : Target) (type : ScriptType)
  | registerAs (name : String) (target : Target) (type : ScriptType)
  | bindHandle (name : String) (handle : Handle)
  | bindEntity (name : String) (e : Entity)
  | exportArray (symbol : String) (base : Nat) (type : ScriptType) (stride count : Nat)
  | bindFunction (name : String)
  | unbind (name : String)
  | addReference (handle : Handle)
  /-- With the objects that are there at the time. -/
  | release (objects : Arena DynamicObject) (handle : Handle)

/-- What a request registers. -/
def Request.pair? : Request → Option (Target × ScriptType)
  | .register target type => some (target, type)
  | .registerAs _ target type => some (target, type)
  | _ => none

/-- The handle that a request is answered with, and the registry afterwards. What fails changes
nothing; a request that would end the program is passed over. -/
def serve (r : Registry) : Request → Option Handle × Registry
  | .register target type =>
    match r.register target type with
    | .ok (handle, r) => (some handle, r)
    | .error _ => (none, r)
  | .registerAs name target type =>
    match r.registerAs name target type with
    | .ok (handle, r) => (some handle, r)
    | .error _ => (none, r)
  | .bindHandle name handle => (none, (r.bindHandle name handle).toOption.getD r)
  | .bindEntity name e => (none, (r.bindEntity name e).toOption.getD r)
  | .exportArray symbol base type stride count =>
    (none, (r.exportArray symbol base type stride count).toOption.getD r)
  | .bindFunction name => (none, (r.bindFunction name).toOption.getD r)
  | .unbind name => (none, r.unbind name)
  | .addReference handle => (none, ((r.addReference handle).toOption.map (·.2)).getD r)
  | .release objects handle => (none, ((r.release objects handle).toOption.map (·.2.1)).getD r)

/-- What becomes of a registry. -/
def served (r : Registry) (requests : List Request) : Registry :=
  requests.foldl (fun r request => (r.serve request).2) r

/-! ## What a request can do -/

/-- All that a request can do to handles if it registers `pair`. -/
inductive Effect (r : Registry) :
    Option (Target × ScriptType) → Option Handle × Registry → Prop where
  /-- Names change at most. -/
  | quiet (pair : Option (Target × ScriptType)) (symbols : SymbolTable) :
    Effect r pair (none, { r with symbols })
  | known {target : Target} {type : ScriptType} {handle : Handle}
    (found : r.handleFor target type = some handle) (symbols : SymbolTable) :
    Effect r (some (target, type)) (some handle, { r with symbols })
  | new {target : Target} {type : ScriptType} (unknown : r.handleFor target type = none)
    (room : r.nextHandle < maxHandle) (symbols : SymbolTable) : Effect r (some (target, type))
      (some r.nextHandle, { (r.registered target type).2 with symbols })
  | counted {handle : Handle} {l : Live} (live : r.live handle = .ok l) (references : Nat) :
    Effect r none (none, r.withReferences handle l references)
  | gone {handle : Handle} {l : Live} (live : r.live handle = .ok l) :
    Effect r none (none, r.forget handle l)

variable {r : Registry}

theorem effect_register {target : Target} {type : ScriptType} {answer : Handle × Registry}
    (given : r.register target type = .ok answer) (symbols : SymbolTable) :
    r.Effect (some (target, type)) (some answer.1, { answer.2 with symbols }) := by
  obtain ⟨room, rfl⟩ := register_eq_ok_iff.mp given
  cases known : r.handleFor target type with
  | some handle =>
    rw [registered_of_some known]
    exact .known known symbols
  | none =>
    have new : (r.registered target type).1 = r.nextHandle := by rw [registered_of_none known]
    rw [new]
    exact .new known (room known) symbols

theorem effect_bindSymbol (r : Registry) (name : String) (symbol : Symbol) :
    r.Effect none (none, (r.bindSymbol name symbol).toOption.getD r) := by
  cases bound : r.bindSymbol name symbol with
  | error fault => exact .quiet none r.symbols
  | ok after =>
    obtain ⟨symbols, -, rfl⟩ := bindSymbol_eq_ok.mp bound
    exact .quiet none symbols

theorem effect_bindHandle (r : Registry) (name : String) (handle : Handle) :
    r.Effect none (none, (r.bindHandle name handle).toOption.getD r) := by
  cases live : r.live handle with
  | error fault =>
    have refused : r.bindHandle name handle = .error fault := by
      rw [bindHandle, live]
      rfl
    rw [refused]
    exact .quiet none r.symbols
  | ok l =>
    rw [bindHandle_eq live]
    exact effect_bindSymbol r name _

theorem effect_registerAs (r : Registry) (name : String) (target : Target) (type : ScriptType) :
    r.Effect (some (target, type)) (r.serve (.registerAs name target type)) := by
  simp only [serve]
  cases registered : r.registerAs name target type with
  | error fault => exact .quiet _ r.symbols
  | ok result =>
    obtain ⟨handle, after⟩ := result
    obtain ⟨made, symbols, given, rfl⟩ := registerAs_eq_ok registered
    exact effect_register given symbols

theorem effect_addReference (r : Registry) (handle : Handle) :
    r.Effect none (r.serve (.addReference handle)) := by
  simp only [serve]
  cases counted : r.addReference handle with
  | error fault => exact .quiet none r.symbols
  | ok answer =>
    obtain ⟨count, after⟩ := answer
    obtain ⟨l, live, -, -, rfl⟩ := addReference_eq_ok_iff.mp counted
    exact .counted live (l.references + 1)

theorem effect_release (r : Registry) (objects : Arena DynamicObject) (handle : Handle) :
    r.Effect none (r.serve (.release objects handle)) := by
  simp only [serve]
  cases live : r.live handle with
  | error fault =>
    rw [release_eq_error objects live]
    exact .quiet none r.symbols
  | ok l =>
    rcases release_cases objects live with ⟨key, -, -, released⟩ | ⟨-, counted⟩
    · rw [released]
      exact .gone live
    · rw [counted]
      exact .counted live (l.references - 1)

theorem symbols_serve_register (r : Registry) (target : Target) (type : ScriptType) :
    (r.serve (.register target type)).2.symbols = r.symbols := by
  rcases register_cases r target type with given | full
  · simp only [serve, given, registered_symbols]
  · simp only [serve, full]

theorem effect_serve (r : Registry) (request : Request) :
    r.Effect request.pair? (r.serve request) := by
  cases request with
  | register target type =>
    simp only [serve]
    cases given : r.register target type with
    | error fault => exact .quiet _ r.symbols
    | ok answer => exact effect_register given answer.2.symbols
  | registerAs name target type => exact effect_registerAs r name target type
  | bindHandle name handle => exact effect_bindHandle r name handle
  | bindEntity name e => exact effect_bindSymbol r name (.entity e)
  | exportArray symbol base type stride count =>
    simp only [serve, exportArray]
    cases StaticArray.make symbol type base stride count with
    | error fault => exact .quiet none r.symbols
    | ok a => exact effect_bindSymbol r symbol (.array a)
  | bindFunction name => exact effect_bindSymbol r name .function
  | unbind name => exact .quiet none _
  | addReference handle => exact effect_addReference r handle
  | release objects handle => exact effect_release r objects handle

/-! ## Handles count up -/

/-- Handles count up from 1, and each has an entry. -/
structure Numbered (r : Registry) : Prop extends Coherent r where
  one_le_nextHandle : 1 ≤ r.nextHandle
  nextHandle_le : r.nextHandle ≤ maxHandle
  isSome_iff : ∀ handle : Handle,
    (r.entries[handle]?).isSome = true ↔ 1 ≤ handle ∧ handle < r.nextHandle

theorem numbered_empty : Numbered {} where
  toCoherent := coherent_empty
  one_le_nextHandle := Int.le_refl 1
  nextHandle_le := bounded_empty.nextHandle_le
  isSome_iff handle := by
    simp only [ExtTreeMap.getElem?_empty, Option.isSome_none, Bool.false_eq_true, false_iff]
    rintro ⟨positive, within⟩
    exact absurd within (Int.not_lt.mpr positive)

theorem within_succ {next handle : Int} (positive : 1 ≤ next) :
    1 ≤ handle ∧ handle < next + 1 ↔ next = handle ∨ 1 ≤ handle ∧ handle < next := by
  omega

/-- An entry that is replaced leaves the numbers as they are. -/
theorem Numbered.isSome_replaced (numbered : r.Numbered) {handle : Handle} {old : Entry}
    (there : r.entries[handle]? = some old) (e : Entry) (other : Handle) :
    ((if handle = other then some e else r.entries[other]?).isSome = true ↔
      1 ≤ other ∧ other < r.nextHandle) := by
  by_cases same : handle = other
  · subst same
    have within := (numbered.isSome_iff handle).mp (by rw [there]; rfl)
    simp [within]
  · rw [if_neg same]
    exact numbered.isSome_iff other

theorem Numbered.effect (numbered : r.Numbered) {pair : Option (Target × ScriptType)}
    {result : Option Handle × Registry} (effect : r.Effect pair result) : result.2.Numbered := by
  cases effect with
  | quiet pair symbols =>
    exact ⟨numbered.withSymbols symbols, numbered.one_le_nextHandle, numbered.nextHandle_le,
      numbered.isSome_iff⟩
  | known found symbols =>
    exact ⟨numbered.withSymbols symbols, numbered.one_le_nextHandle, numbered.nextHandle_le,
      numbered.isSome_iff⟩
  | @new target type unknown room symbols =>
    have counter : (r.registered target type).2.nextHandle = r.nextHandle + 1 := by
      rw [registered_of_none unknown]
    refine ⟨(numbered.registered target type).withSymbols symbols, ?_, ?_, ?_⟩
    · show 1 ≤ (r.registered target type).2.nextHandle
      rw [counter]
      exact Int.le_trans numbered.one_le_nextHandle (Int.le_of_lt (Int.lt_succ _))
    · show (r.registered target type).2.nextHandle ≤ maxHandle
      rw [counter]
      exact Int.add_one_le_of_lt room
    · intro handle
      show ((r.registered target type).2.entries[handle]?).isSome = true ↔
        1 ≤ handle ∧ handle < (r.registered target type).2.nextHandle
      rw [entries_registered_of_none unknown, counter, within_succ numbered.one_le_nextHandle]
      by_cases new : r.nextHandle = handle
      · simp [new]
      · simp only [new, if_false, false_or]
        exact numbered.isSome_iff handle
  | @counted handle l live references =>
    refine ⟨numbered.withReferences live references, numbered.one_le_nextHandle,
      numbered.nextHandle_le, ?_⟩
    intro other
    show ((r.withReferences handle l references).entries[other]?).isSome = true ↔ _
    rw [entries_withReferences]
    exact numbered.isSome_replaced (live_eq_ok_iff.mp live) _ other
  | @gone handle l live =>
    refine ⟨numbered.forget live, numbered.one_le_nextHandle, numbered.nextHandle_le, ?_⟩
    intro other
    show ((r.forget handle l).entries[other]?).isSome = true ↔ _
    rw [entries_forget]
    exact numbered.isSome_replaced (live_eq_ok_iff.mp live) _ other

theorem Numbered.served (numbered : r.Numbered) (requests : List Request) :
    (r.served requests).Numbered := by
  induction requests generalizing r with
  | nil => exact numbered
  | cons request rest hyp => exact hyp (numbered.effect (effect_serve r request))

/-! ## Earlier and later -/

/-- Whether a later registry has the handles of an earlier one, each for what it stood for or for
nothing any more. -/
def Continues (r later : Registry) : Prop :=
  ∀ (handle : Handle) (e : Entry), r.entries[handle]? = some e → ∃ e',
    later.entries[handle]? = some e' ∧ e'.type = e.type ∧
      (e'.target = e.target ∨ e'.target = none)

theorem continues_refl (r : Registry) : r.Continues r := by
  intro handle e there
  exact ⟨e, there, rfl, .inl rfl⟩

theorem Continues.trans {later latest : Registry} (first : r.Continues later)
    (next : later.Continues latest) : r.Continues latest := by
  intro handle e there
  obtain ⟨e', there', type, target⟩ := first handle e there
  obtain ⟨e'', there'', type', target'⟩ := next handle e' there'
  refine ⟨e'', there'', type'.trans type, ?_⟩
  rcases target' with kept | gone
  · rwa [kept]
  · exact .inr gone

theorem Numbered.continues_effect (numbered : r.Numbered) {pair : Option (Target × ScriptType)}
    {result : Option Handle × Registry} (effect : r.Effect pair result) :
    r.Continues result.2 := by
  intro other e there
  cases effect with
  | quiet pair symbols => exact ⟨e, there, rfl, .inl rfl⟩
  | known found symbols => exact ⟨e, there, rfl, .inl rfl⟩
  | new unknown room symbols => exact ⟨e, numbered.entries_registered there, rfl, .inl rfl⟩
  | @counted handle l live references =>
    show ∃ e', (r.withReferences handle l references).entries[other]? = some e' ∧ _
    rw [entries_withReferences]
    by_cases same : handle = other
    · subst same
      obtain rfl := Option.some.inj ((live_eq_ok_iff.mp live).symm.trans there)
      exact ⟨_, if_pos rfl, rfl, .inl rfl⟩
    · exact ⟨e, by rw [if_neg same, there], rfl, .inl rfl⟩
  | @gone handle l live =>
    show ∃ e', (r.forget handle l).entries[other]? = some e' ∧ _
    rw [entries_forget]
    by_cases same : handle = other
    · subst same
      obtain rfl := Option.some.inj ((live_eq_ok_iff.mp live).symm.trans there)
      exact ⟨_, if_pos rfl, rfl, .inr rfl⟩
    · exact ⟨e, by rw [if_neg same, there], rfl, .inl rfl⟩

theorem Numbered.continues_served (numbered : r.Numbered) (requests : List Request) :
    r.Continues (r.served requests) := by
  induction requests generalizing r with
  | nil => exact continues_refl r
  | cons request rest hyp =>
    have effect := effect_serve r request
    exact (numbered.continues_effect effect).trans (hyp (numbered.effect effect))

/-! ## Answers -/

/-- Whether a request registers `pair` and is answered with `handle`. -/
def Grants (r : Registry) (request : Request) (pair : Target × ScriptType) (handle : Handle) :
    Prop :=
  request.pair? = some pair ∧ (r.serve request).1 = some handle

variable {request : Request} {pair : Target × ScriptType} {handle : Handle}

theorem Grants.effect (grants : r.Grants request pair handle) :
    r.Effect (some pair) (some handle, (r.serve request).2) := by
  have effect := effect_serve r request
  rwa [← Prod.eta (r.serve request), grants.1, grants.2] at effect

theorem Grants.unique {pair' : Target × ScriptType} {handle' : Handle}
    (grants : r.Grants request pair handle) (also : r.Grants request pair' handle') :
    pair = pair' ∧ handle = handle' :=
  ⟨Option.some.inj (grants.1.symm.trans also.1), Option.some.inj (grants.2.symm.trans also.2)⟩

/-- The handle that is answered stands for what is registered. -/
theorem Numbered.entries_granted (numbered : r.Numbered) (grants : r.Grants request pair handle) :
    ∃ references, (r.serve request).2.entries[handle]? =
      some ⟨pair.2, some pair.1, references⟩ := by
  have effect := grants.effect
  generalize (r.serve request).2 = after at effect
  cases effect with
  | known found symbols => exact numbered.handleFor_iff.mp found
  | @new target type unknown room symbols =>
    refine ⟨0, ?_⟩
    show (r.registered target type).2.entries[r.nextHandle]? = _
    rw [entries_registered_of_none unknown, if_pos rfl]

theorem Grants.eq_of_known {known : Handle} (grants : r.Grants request pair handle)
    (found : r.handleFor pair.1 pair.2 = some known) : handle = known := by
  have effect := grants.effect
  generalize (r.serve request).2 = after at effect
  cases effect with
  | known also symbols => exact Option.some.inj (also.symm.trans found)
  | new unknown room symbols =>
    rw [found] at unknown
    cases unknown

theorem Grants.eq_nextHandle (grants : r.Grants request pair handle)
    (unknown : r.handleFor pair.1 pair.2 = none) : handle = r.nextHandle := by
  have effect := grants.effect
  generalize (r.serve request).2 = after at effect
  cases effect with
  | known found symbols =>
    rw [unknown] at found
    cases found
  | new also room symbols => rfl

/-- The counter stays ahead of exactly the handles that have been answered. -/
theorem Numbered.lt_nextHandle_serve (numbered : r.Numbered) (request : Request)
    (handle : Handle) : 1 ≤ handle ∧ handle < (r.serve request).2.nextHandle ↔
      (1 ≤ handle ∧ handle < r.nextHandle) ∨ ∃ pair, r.Grants request pair handle := by
  simp only [Grants, exists_and_right]
  have effect := effect_serve r request
  generalize request.pair? = pair at effect ⊢
  generalize r.serve request = result at effect ⊢
  cases effect with
  | quiet pair symbols => simp
  | @known target type found here symbols =>
    obtain ⟨references, entry⟩ := numbered.handleFor_iff.mp here
    have within := (numbered.isSome_iff found).mp (by rw [entry]; rfl)
    simp only [Option.some.injEq, exists_eq', true_and, iff_self_or]
    rintro rfl
    exact within
  | @new target type unknown room symbols =>
    show 1 ≤ handle ∧ handle < (r.registered target type).2.nextHandle ↔ _
    rw [registered_of_none unknown, within_succ numbered.one_le_nextHandle]
    simp only [Option.some.injEq, exists_eq', true_and]
    exact or_comm
  | counted live references => simp [withReferences]
  | gone live => simp [forget]

/-- A request to register is answered while there is a handle left. -/
theorem exists_grants_register_iff (r : Registry) (target : Target) (type : ScriptType) :
    (∃ handle, r.Grants (.register target type) (target, type) handle) ↔
      (r.handleFor target type = none → r.nextHandle < maxHandle) := by
  simp only [Grants, Request.pair?, true_and, serve]
  cases given : r.register target type with
  | ok answer => simpa using (register_eq_ok_iff.mp given).1
  | error fault =>
    simp only [reduceCtorEq, exists_false, false_iff]
    intro room
    cases given.symm.trans (register_eq_ok_iff.mpr ⟨room, rfl⟩)

theorem resolve_of_entry {e : Entry} (there : r.entries[handle]? = some e) :
    r.resolve handle = match e.target with
      | some target => .ok (target, e.type)
      | none => .error (.staleHandle handle) := by
  obtain ⟨type, target, references⟩ := e
  rw [resolve, live, there]
  cases target <;> rfl

theorem released_iff {e : Entry} (there : r.entries[handle]? = some e) :
    r.state handle = .released ↔ e.target = none := by
  obtain ⟨type, target, references⟩ := e
  rw [state, there]
  cases target with
  | none => simp
  | some target =>
    simp only [reduceCtorEq, iff_false]
    split <;> simp

/-! ## Issues -/

/-- The registry after the first `n` of some requests. -/
def stage (requests : List Request) (n : Nat) : Registry := served {} (requests.take n)

/-- Whether the request at place `n` registers `pair` and is answered with `handle`. -/
def Issues (requests : List Request) (n : Nat) (pair : Target × ScriptType) (handle : Handle) :
    Prop :=
  ∃ request, requests[n]? = some request ∧ (stage requests n).Grants request pair handle

variable {requests : List Request} {n m k : Nat}

theorem numbered_stage (requests : List Request) (n : Nat) : (stage requests n).Numbered :=
  numbered_empty.served _

theorem stage_succ (here : requests[n]? = some request) :
    stage requests (n + 1) = ((stage requests n).serve request).2 :=
  foldl_take_succ here

theorem continues_stage (order : n ≤ k) : (stage requests n).Continues (stage requests k) := by
  obtain ⟨d, rfl⟩ := Nat.exists_eq_add_of_le order
  rw [stage, stage, List.take_add, served, served, List.foldl_append]
  exact (numbered_stage requests n).continues_served _

theorem Issues.entry (issues : Issues requests n pair handle) : ∃ references,
    (stage requests (n + 1)).entries[handle]? = some ⟨pair.2, some pair.1, references⟩ := by
  obtain ⟨request, here, grants⟩ := issues
  rw [stage_succ here]
  exact (numbered_stage requests n).entries_granted grants

/-- Once issued, a handle stands for its pair until it is released. -/
theorem Issues.later (issues : Issues requests n pair handle) (order : n < k) : ∃ e,
    (stage requests k).entries[handle]? = some e ∧ e.type = pair.2 ∧
      (e.target = some pair.1 ∨ e.target = none) := by
  obtain ⟨references, entry⟩ := issues.entry
  exact continues_stage order handle _ entry

theorem Issues.same_iff {pair' : Target × ScriptType} {handle' : Handle}
    (issues : Issues requests n pair handle) (also : Issues requests m pair' handle')
    (order : n ≤ m) : handle = handle' ↔ pair = pair' ∧
      ∀ k, n < k → k ≤ m → (stage requests k).state handle ≠ .released := by
  rcases Nat.eq_or_lt_of_le order with rfl | before
  · obtain ⟨request, here, grants⟩ := issues
    obtain ⟨request', here', grants'⟩ := also
    obtain rfl := Option.some.inj (here.symm.trans here')
    obtain ⟨rfl, rfl⟩ := grants.unique grants'
    simp only [true_and, true_iff]
    intro k above below
    omega
  · constructor
    · rintro rfl
      obtain ⟨references, entry⟩ := also.entry
      obtain ⟨e, there, sameType, sameTarget⟩ := issues.later (Nat.lt_succ_of_lt before)
      obtain rfl := Option.some.inj (entry.symm.trans there)
      have stood : some pair'.1 = some pair.1 := sameTarget.resolve_right (by simp)
      refine ⟨Prod.ext (Option.some.inj stood).symm sameType.symm, ?_⟩
      intro k above below released
      -- what is released by then is so at the end as well
      obtain ⟨e, there, -, -⟩ := issues.later above
      have gone := (released_iff there).mp released
      obtain ⟨e', there', -, kept⟩ := continues_stage (Nat.le_succ_of_le below) handle e there
      rw [gone, or_self] at kept
      obtain rfl := Option.some.inj (entry.symm.trans there')
      cases kept
    · rintro ⟨rfl, alive⟩
      obtain ⟨⟨type, target, references⟩, there, rfl, stands⟩ := issues.later before
      have present := (released_iff there).not.mp (alive m before (Nat.le_refl m))
      obtain rfl : target = some pair.1 := stands.resolve_right present
      have known := (numbered_stage requests m).handleFor_iff.mpr ⟨references, there⟩
      obtain ⟨request, here, grants⟩ := also
      exact (grants.eq_of_known known).symm

/-- Up to any stage, the handles below the counter have been issued and no others. -/
theorem exists_issues_lt_iff (requests : List Request) (n : Nat) (handle : Handle) :
    (∃ k < n, ∃ pair, Issues requests k pair handle) ↔
      1 ≤ handle ∧ handle < (stage requests n).nextHandle := by
  induction n with
  | zero =>
    simp only [Nat.not_lt_zero, false_and, exists_false, false_iff]
    rintro ⟨positive, within⟩
    exact absurd within (Int.not_lt.mpr positive)
  | succ n hyp =>
    simp only [Nat.lt_succ_iff_lt_or_eq, or_and_right, exists_or, exists_eq_left, hyp]
    cases here : requests[n]? with
    | none =>
      have same : stage requests (n + 1) = stage requests n := foldl_take_succ_of_none here
      simp [same, Issues, here]
    | some request =>
      rw [stage_succ here, (numbered_stage requests n).lt_nextHandle_serve]
      simp [Issues, here]

/-! ## What users of handles may rely on -/

/-- What requests leave behind, and what handles mean while they are carried out. -/
structure Permanent (requests : List Request) : Prop where
  issued_iff : ∀ handle, (∃ n pair, Issues requests n pair handle) ↔
    1 ≤ handle ∧ handle < (served {} requests).nextHandle
  handleFor_iff : ∀ target type handle,
    (served {} requests).handleFor target type = some handle ↔
      (served {} requests).resolve handle = .ok (target, type)
  /-- A pair keeps its handle as long as that is not released. -/
  same_iff : ∀ n m pair pair' handle handle', n ≤ m → Issues requests n pair handle →
    Issues requests m pair' handle' → (handle = handle' ↔ pair = pair' ∧
      ∀ k, n < k → k ≤ m → (stage requests k).state handle ≠ .released)
  /-- A request to register is answered until the counter stands at the largest handle. -/
  answered_iff : ∀ n target type, requests[n]? = some (.register target type) →
    ((∃ handle, Issues requests n (target, type) handle) ↔
      ((stage requests n).handleFor target type = none →
        (stage requests n).nextHandle ≠ maxHandle))
  distinct : ∀ n m pair pair' handle handle', Issues requests n pair handle →
    Issues requests m pair' handle' → pair ≠ pair' → handle ≠ handle'
  /-- No handle is ever turned over to another pair. -/
  resolves : ∀ n pair handle, Issues requests n pair handle → ∀ k, n < k →
    (stage requests k).resolve handle = .ok pair ∨
      (stage requests k).resolve handle = .error (.staleHandle handle)

theorem stage_of_length_le {n : Nat} (all : requests.length ≤ n) :
    stage requests n = served {} requests := by
  rw [stage, List.take_of_length_le all]

theorem permanent (requests : List Request) : Permanent requests where
  issued_iff handle := by
    rw [← stage_of_length_le (Nat.le_refl _), ← exists_issues_lt_iff]
    constructor
    · rintro ⟨n, pair, request, here, grants⟩
      exact ⟨n, (List.getElem?_eq_some_iff.mp here).1, pair, request, here, grants⟩
    · rintro ⟨n, -, issued⟩
      exact ⟨n, issued⟩
  handleFor_iff := (numbered_empty.served requests).handleFor_iff_resolve
  same_iff _ _ _ _ _ _ order issues also := issues.same_iff also order
  answered_iff n target type here := by
    have most := (numbered_stage requests n).nextHandle_le
    have left : (stage requests n).nextHandle ≠ maxHandle ↔
        (stage requests n).nextHandle < maxHandle :=
      (Int.lt_iff_le_and_ne.trans (and_iff_right most)).symm
    rw [left, ← exists_grants_register_iff]
    simp [Issues, here]
  distinct n m _ _ _ _ issues also differ same := by
    rcases Nat.le_total n m with order | order
    · exact differ ((issues.same_iff also order).mp same).1
    · exact differ ((also.same_iff issues order).mp same.symm).1.symm
  resolves n pair handle issues k order := by
    obtain ⟨e, there, sameType, stands⟩ := issues.later order
    rw [resolve_of_entry there, sameType]
    rcases stands with present | gone
    · simp [present]
    · simp [gone]

end Adventure.Registry
