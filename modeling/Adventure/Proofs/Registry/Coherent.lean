import Mathlib.Data.List.Basic
import Adventure.Proofs.Except
import Adventure.Proofs.InPlace
import Adventure.Registry.Basic

/-! # Handles and targets name each other

A registry is `Coherent` when its two tables say the same: a target is found under a handle exactly
when the handle stands for it. No table entry is ahead of the counter, so that a new handle is new.

Every operation on handles keeps this, and each is told here by what the table of entries holds
afterwards. Operations on symbols do not touch handles at all.
-/

namespace Adventure.Registry

open Std (ExtTreeMap)

variable {r : Registry}

/-! ## Looking up -/

section Pairs

variable {κ β : Type} [BEq κ] [LawfulBEq κ] [DecidableEq κ]

theorem lookup_cons_eq_ite (first key : κ) (value : β) (rest : List (κ × β)) :
    ((first, value) :: rest).lookup key = if key = first then some value else rest.lookup key := by
  by_cases same : key = first
  · simp [same]
  · have unequal : (key == first) = false := beq_eq_false_iff_ne.mpr same
    simp [List.lookup_cons, unequal, same]

theorem lookup_filter_ne (pairs : List (κ × β)) (gone key : κ) :
    (pairs.filter (·.1 ≠ gone)).lookup key = if key = gone then none else pairs.lookup key := by
  induction pairs with
  | nil => simp
  | cons pair rest hyp =>
    obtain ⟨first, value⟩ := pair
    rw [lookup_cons_eq_ite, List.filter_cons]
    by_cases removed : first = gone
    · rw [if_neg (by simpa using removed), hyp, removed]
      split <;> rfl
    · rw [if_pos (by simpa using removed), lookup_cons_eq_ite, hyp]
      by_cases same : key = first
      · rw [if_pos same, if_pos same, if_neg (same ▸ removed)]
      · rw [if_neg same, if_neg same]

end Pairs

theorem getElem?_insert_eq_ite (entries : ExtTreeMap Handle Entry) (new handle : Handle)
    (e : Entry) :
    (entries.insert new e)[handle]? = if new = handle then some e else entries[handle]? := by
  rw [ExtTreeMap.getElem?_insert]
  simp

theorem live_eq_ok_iff {handle : Handle} {l : Live} :
    r.live handle = .ok l ↔ r.entries[handle]? = some ⟨l.type, some l.target, l.references⟩ := by
  unfold live
  cases r.entries[handle]? with
  | none => simp
  | some e =>
    obtain ⟨type, target, references⟩ := e
    obtain ⟨liveTarget, liveType, liveReferences⟩ := l
    cases target with
    | none => simp
    | some target =>
      simp only [Except.ok.injEq, Live.mk.injEq, Option.some.injEq, Entry.mk.injEq]
      constructor
      · rintro ⟨rfl, rfl, rfl⟩
        exact ⟨rfl, rfl, rfl⟩
      · rintro ⟨rfl, rfl, rfl⟩
        exact ⟨rfl, rfl, rfl⟩

theorem resolve_of_live {handle : Handle} {l : Live} (live : r.live handle = .ok l) :
    r.resolve handle = .ok (l.target, l.type) := by
  rw [resolve, live]
  rfl

theorem resolve_of_gone {handle : Handle} {fault : Fault} (gone : r.live handle = .error fault) :
    r.resolve handle = .error fault := by
  rw [resolve, gone]
  rfl

theorem exists_live_of_resolve {handle : Handle} {pair : Target × ScriptType}
    (resolved : r.resolve handle = .ok pair) :
    ∃ l, r.live handle = .ok l ∧ l.target = pair.1 ∧ l.type = pair.2 := by
  obtain ⟨l, live, rfl⟩ := except_map_eq_ok.mp resolved
  exact ⟨l, live, rfl, rfl⟩

theorem resolve_eq_ok_iff {handle : Handle} {target : Target} {type : ScriptType} :
    r.resolve handle = .ok (target, type) ↔
      ∃ references, r.entries[handle]? = some ⟨type, some target, references⟩ := by
  constructor
  · intro resolved
    obtain ⟨l, live, rfl, rfl⟩ := exists_live_of_resolve resolved
    exact ⟨l.references, live_eq_ok_iff.mp live⟩
  · rintro ⟨references, entry⟩
    exact resolve_of_live (l := ⟨target, type, references⟩) (live_eq_ok_iff.mpr entry)

theorem live_eq_error_of_released {handle : Handle} (released : r.state handle = .released) :
    r.live handle = .error (.staleHandle handle) := by
  unfold state at released
  unfold live
  cases found : r.entries[handle]? with
  | none => simp [found] at released
  | some e =>
    obtain ⟨type, target, references⟩ := e
    cases target with
    | none => rfl
    | some target =>
      simp only [found] at released
      split at released <;> cases released

theorem state_ne_released {handle : Handle} {l : Live} (live : r.live handle = .ok l) :
    r.state handle ≠ .released := by
  intro released
  rw [live_eq_error_of_released released] at live
  cases live

/-- What is known of a handle is in its entry. -/
theorem state_congr {r' : Registry} {handle : Handle}
    (same : r'.entries[handle]? = r.entries[handle]?) : r'.state handle = r.state handle := by
  unfold state
  rw [same]

theorem live_congr {r' : Registry} {handle : Handle}
    (same : r'.entries[handle]? = r.entries[handle]?) : r'.live handle = r.live handle := by
  unfold live
  rw [same]

theorem resolve_congr {r' : Registry} {handle : Handle}
    (same : r'.live handle = r.live handle) : r'.resolve handle = r.resolve handle := by
  unfold resolve
  rw [same]

/-! ## Coherence -/

/-- The table of targets turns the table of entries round, and no entry is ahead of the counter. -/
structure Coherent (r : Registry) : Prop where
  handleFor_iff : ∀ {target type handle}, r.handleFor target type = some handle ↔
    ∃ references, r.entries[handle]? = some ⟨type, some target, references⟩
  lt_nextHandle : ∀ {handle entry}, r.entries[handle]? = some entry → handle < r.nextHandle

theorem coherent_empty : Coherent {} where
  handleFor_iff := by simp [handleFor]
  lt_nextHandle := by simp

theorem Coherent.unique (coherent : r.Coherent) {target : Target} {type : ScriptType}
    {first second : Handle} {n m : Nat}
    (one : r.entries[first]? = some ⟨type, some target, n⟩)
    (other : r.entries[second]? = some ⟨type, some target, m⟩) : first = second := by
  have found := coherent.handleFor_iff.mpr ⟨n, one⟩
  rw [coherent.handleFor_iff.mpr ⟨m, other⟩] at found
  exact (Option.some.inj found).symm

theorem Coherent.handleFor_iff_resolve (coherent : r.Coherent) (target : Target)
    (type : ScriptType) (handle : Handle) :
    r.handleFor target type = some handle ↔ r.resolve handle = .ok (target, type) := by
  rw [coherent.handleFor_iff, resolve_eq_ok_iff]

theorem Coherent.resolve_unique (coherent : r.Coherent) {first second : Handle}
    {pair : Target × ScriptType} (one : r.resolve first = .ok pair)
    (other : r.resolve second = .ok pair) : first = second := by
  have found := (coherent.handleFor_iff_resolve pair.1 pair.2 first).mpr one
  rw [(coherent.handleFor_iff_resolve pair.1 pair.2 second).mpr other] at found
  exact (Option.some.inj found).symm

theorem Coherent.nextHandle_free (coherent : r.Coherent) : r.entries[r.nextHandle]? = none := by
  cases found : r.entries[r.nextHandle]? with
  | none => rfl
  | some entry => exact absurd (coherent.lt_nextHandle found) (Int.lt_irrefl _)

theorem Coherent.withSymbols (coherent : r.Coherent) (symbols : SymbolTable) :
    ({ r with symbols } : Registry).Coherent :=
  ⟨coherent.handleFor_iff, coherent.lt_nextHandle⟩

/-! ## Registering -/

theorem registered_of_some {target : Target} {type : ScriptType} {handle : Handle}
    (known : r.handleFor target type = some handle) : r.registered target type = (handle, r) := by
  simp [registered, known]

theorem registered_of_none {target : Target} {type : ScriptType}
    (unknown : r.handleFor target type = none) :
    r.registered target type = (r.nextHandle,
      { r with
        entries := r.entries.insert r.nextHandle { type, target := some target, references := 0 }
        byTarget := ((target, type), r.nextHandle) :: r.byTarget
        nextHandle := r.nextHandle + 1 }) := by
  simp [registered, unknown]

/-- A target that is new gets a handle unless the counter has come to its end. -/
theorem register_eq_ok_iff {target : Target} {type : ScriptType} {answer : Handle × Registry} :
    r.register target type = .ok answer ↔
      (r.handleFor target type = none → r.nextHandle < maxHandle) ∧
        r.registered target type = answer := by
  unfold register
  split
  · next full =>
    refine ⟨nofun, fun room => absurd (room.1 full.1) (Int.not_lt.mpr full.2)⟩
  · next room =>
    rw [Except.ok.injEq]
    refine (and_iff_right fun unknown => ?_).symm
    exact Int.not_le.mp fun full => room ⟨unknown, full⟩

theorem register_eq_registered {target : Target} {type : ScriptType} {answer : Handle × Registry}
    (given : r.register target type = .ok answer) :
    r.register target type = .ok (r.registered target type) :=
  given.trans (congrArg Except.ok (register_eq_ok_iff.mp given).2.symm)

theorem register_of_room (room : r.nextHandle < maxHandle) (target : Target) (type : ScriptType) :
    r.register target type = .ok (r.registered target type) :=
  register_eq_ok_iff.mpr ⟨fun _ => room, rfl⟩

theorem register_cases (r : Registry) (target : Target) (type : ScriptType) :
    r.register target type = .ok (r.registered target type) ∨
      r.register target type = .error .overflow := by
  unfold register
  split
  · exact .inr rfl
  · exact .inl rfl

theorem handleFor_registered_of_none {target : Target} {type : ScriptType}
    (unknown : r.handleFor target type = none) (t : Target) (ty : ScriptType) :
    (r.registered target type).2.handleFor t ty =
      if (t, ty) = (target, type) then some r.nextHandle else r.handleFor t ty := by
  rw [registered_of_none unknown]
  exact lookup_cons_eq_ite (target, type) (t, ty) r.nextHandle r.byTarget

theorem entries_registered_of_none {target : Target} {type : ScriptType}
    (unknown : r.handleFor target type = none) (handle : Handle) :
    (r.registered target type).2.entries[handle]? =
      if r.nextHandle = handle then some ⟨type, some target, 0⟩ else r.entries[handle]? := by
  rw [registered_of_none unknown]
  exact getElem?_insert_eq_ite ..

theorem registered_symbols (r : Registry) (target : Target) (type : ScriptType) :
    (r.registered target type).2.symbols = r.symbols := by
  cases known : r.handleFor target type with
  | some handle => rw [registered_of_some known]
  | none => rw [registered_of_none known]

theorem Coherent.registered (coherent : r.Coherent) (target : Target) (type : ScriptType) :
    (r.registered target type).2.Coherent := by
  cases known : r.handleFor target type with
  | some handle => rwa [registered_of_some known]
  | none =>
    refine ⟨?_, ?_⟩
    · intro t ty handle
      rw [entries_registered_of_none known, handleFor_registered_of_none known]
      by_cases same : (t, ty) = (target, type)
      · -- the new handle stands for the target, and no older one did
        obtain ⟨rfl, rfl⟩ := Prod.mk.inj same
        have absent : ¬ ∃ references, r.entries[handle]? = some ⟨ty, some t, references⟩ := by
          rw [← coherent.handleFor_iff, known]
          exact nofun
        by_cases new : r.nextHandle = handle
        · simp [new]
        · simp [new, absent]
      · -- other targets have the handles they had, none of which is the new one
        have absent : r.handleFor t ty ≠ some r.nextHandle := by
          intro found
          obtain ⟨references, entry⟩ := coherent.handleFor_iff.mp found
          rw [coherent.nextHandle_free] at entry
          cases entry
        rw [if_neg same]
        by_cases new : r.nextHandle = handle
        · subst new
          rw [if_pos rfl]
          constructor
          · intro found
            exact absurd found absent
          · rintro ⟨references, entry⟩
            simp only [Option.some.injEq, Entry.mk.injEq] at entry
            exact absurd (Prod.ext entry.2.1.symm entry.1.symm) same
        · rw [if_neg new]
          exact coherent.handleFor_iff
    · intro handle entry found
      rw [entries_registered_of_none known] at found
      rw [registered_of_none known]
      by_cases new : r.nextHandle = handle
      · exact new ▸ Int.lt_succ r.nextHandle
      · rw [if_neg new] at found
        exact Int.lt_trans (coherent.lt_nextHandle found) (Int.lt_succ r.nextHandle)

theorem Coherent.entries_registered (coherent : r.Coherent) {target : Target} {type : ScriptType}
    {handle : Handle} {entry : Entry} (there : r.entries[handle]? = some entry) :
    (r.registered target type).2.entries[handle]? = some entry := by
  cases known : r.handleFor target type with
  | some handle => rwa [registered_of_some known]
  | none =>
    have old : r.nextHandle ≠ handle := by
      rintro rfl
      rw [coherent.nextHandle_free] at there
      cases there
    rw [entries_registered_of_none known, if_neg old]
    exact there

theorem nextHandle_registered_le (r : Registry) (target : Target) (type : ScriptType) :
    (r.registered target type).2.nextHandle ≤ r.nextHandle + 1 := by
  cases known : r.handleFor target type with
  | some handle =>
    rw [registered_of_some known]
    exact Int.le_add_one (Int.le_refl _)
  | none => exact Int.le_of_eq (by rw [registered_of_none known])

/-- The handle that registering answers stands for the target. -/
theorem Coherent.live_registered (coherent : r.Coherent) (target : Target) (type : ScriptType) :
    ∃ references, (r.registered target type).2.live (r.registered target type).1 =
      .ok ⟨target, type, references⟩ := by
  simp only [live_eq_ok_iff]
  cases known : r.handleFor target type with
  | some handle =>
    rw [registered_of_some known]
    exact coherent.handleFor_iff.mp known
  | none =>
    refine ⟨0, ?_⟩
    rw [entries_registered_of_none known, registered_of_none known, if_pos rfl]

/-! ## Counting references -/

theorem entries_withReferences (r : Registry) (handle other : Handle) (l : Live)
    (references : Nat) :
    (r.withReferences handle l references).entries[other]? =
      if handle = other then some ⟨l.type, some l.target, references⟩ else r.entries[other]? :=
  getElem?_insert_eq_ite ..

theorem live_withReferences (r : Registry) (handle : Handle) (l : Live) (references : Nat) :
    (r.withReferences handle l references).live handle = .ok { l with references } :=
  live_eq_ok_iff.mpr (by rw [entries_withReferences, if_pos rfl])

theorem addReference_eq (r : Registry) (handle : Handle) : r.addReference handle =
    (r.live handle).bind fun l =>
      if maxReferences ≤ l.references then .error .overflow
      else .ok (l.references + 1, r.withReferences handle l (l.references + 1)) := by
  unfold addReference addReferenceInPlace
  rw [InPlace.result_ask_bind]
  cases r.live handle with
  | error fault => rfl
  | ok l =>
    dsimp only [Except.bind]
    split <;> rfl

theorem addReference_eq_ok {handle : Handle} {l : Live} (live : r.live handle = .ok l)
    (room : l.references < maxReferences) : r.addReference handle =
      .ok (l.references + 1, r.withReferences handle l (l.references + 1)) := by
  rw [addReference_eq, live]
  exact if_neg (Nat.not_le.mpr room)

theorem addReference_of_full {handle : Handle} {l : Live} (live : r.live handle = .ok l)
    (full : maxReferences ≤ l.references) : r.addReference handle = .error .overflow := by
  rw [addReference_eq, live]
  exact if_pos full

theorem addReference_eq_error {handle : Handle} {fault : Fault}
    (gone : r.live handle = .error fault) : r.addReference handle = .error fault := by
  rw [addReference_eq, gone]
  rfl

theorem addReference_eq_ok_iff {handle : Handle} {count : Nat} {after : Registry} :
    r.addReference handle = .ok (count, after) ↔ ∃ l, r.live handle = .ok l ∧
      l.references < maxReferences ∧ count = l.references + 1 ∧
        after = r.withReferences handle l (l.references + 1) := by
  constructor
  · intro counted
    cases live : r.live handle with
    | error fault => rw [addReference_eq_error live] at counted; cases counted
    | ok l =>
      by_cases full : maxReferences ≤ l.references
      · rw [addReference_of_full live full] at counted
        cases counted
      · have room := Nat.not_le.mp full
        rw [addReference_eq_ok live room] at counted
        obtain ⟨rfl, rfl⟩ := Prod.mk.inj (Except.ok.inj counted)
        exact ⟨l, rfl, room, rfl, rfl⟩
  · rintro ⟨l, live, room, rfl, rfl⟩
    exact addReference_eq_ok live room

/-- A count that cannot go up stays what it is. -/
theorem allOrNothing_addReferenceInPlace (handle : Handle) :
    (addReferenceInPlace handle).AllOrNothing := by
  refine .ask_bind _ fun l r fault => ?_
  split
  · exact fun _ => rfl
  · exact nofun

/-- The count does not matter any more when the object is gone. -/
theorem forget_withReferences (r : Registry) (handle : Handle) (l : Live) (references : Nat) :
    (r.withReferences handle l references).forget handle l = r.forget handle l := by
  have same : (r.entries.insert handle ⟨l.type, some l.target, references⟩).insert handle
      ⟨l.type, none, 0⟩ = r.entries.insert handle ⟨l.type, none, 0⟩ := by
    apply ExtTreeMap.ext_getElem?
    intro other
    simp only [getElem?_insert_eq_ite]
    split <;> rfl
  exact congrArg (fun entries => ({ r with
    entries, byTarget := r.byTarget.filter (·.1 ≠ (l.target, l.type)) } : Registry)) same

theorem release_eq_error {handle : Handle} {fault : Fault} (objects : Arena DynamicObject)
    (gone : r.live handle = .error fault) : r.release objects handle = .error fault := by
  unfold release releaseInPlace
  rw [InPlace.result_ask_bind, gone]
  rfl

/-- All that a release can do: an object that was made at run time goes with its last reference,
and everything else is counted down. -/
theorem release_cases {handle : Handle} {l : Live} (objects : Arena DynamicObject)
    (live : r.live handle = .ok l) :
    (∃ key, l.target = .dynamic key ∧ l.references ≤ 1 ∧
      r.release objects handle = .ok (.released, r.forget handle l, objects.erase key)) ∨
    ((l.target.isDynamic → 2 ≤ l.references) ∧
      r.release objects handle =
        .ok ((r.withReferences handle l (l.references - 1)).state handle,
          r.withReferences handle l (l.references - 1), objects)) := by
  unfold release releaseInPlace
  rw [InPlace.result_ask_bind, live]
  obtain ⟨target, type, references⟩ := l
  cases target with
  | static e => exact .inr ⟨nofun, rfl⟩
  | dynamic key =>
    by_cases left : 0 < references - 1
    · refine .inr ⟨fun _ => by simp only; omega, ?_⟩
      dsimp only [Except.bind]
      rw [if_pos left]
      rfl
    · refine .inl ⟨key, rfl, by simp only; omega, ?_⟩
      dsimp only [Except.bind]
      rw [if_neg left, ← forget_withReferences r handle _ (references - 1)]
      rfl

/-- Nothing is counted or disposed of before the handle has been found to be good. -/
theorem allOrNothing_releaseInPlace (handle : Handle) : (releaseInPlace handle).AllOrNothing := by
  refine .ask_bind _ fun l table fault => ?_
  dsimp only
  split
  · exact nofun
  · split
    · exact nofun
    · exact nofun

theorem Coherent.withReferences (coherent : r.Coherent) {handle : Handle} {l : Live}
    (live : r.live handle = .ok l) (references : Nat) :
    (r.withReferences handle l references).Coherent := by
  rw [live_eq_ok_iff] at live
  refine ⟨?_, ?_⟩
  · intro target type other
    show r.handleFor target type = some other ↔ _
    rw [coherent.handleFor_iff, entries_withReferences]
    by_cases same : handle = other
    · subst same
      simp [live]
    · rw [if_neg same]
  · intro other entry found
    rw [entries_withReferences] at found
    by_cases same : handle = other
    · exact same ▸ coherent.lt_nextHandle live
    · rw [if_neg same] at found
      exact coherent.lt_nextHandle found

theorem handleFor_forget (r : Registry) (handle : Handle) (l : Live) (target : Target)
    (type : ScriptType) :
    (r.forget handle l).handleFor target type =
      if (target, type) = (l.target, l.type) then none else r.handleFor target type :=
  lookup_filter_ne r.byTarget (l.target, l.type) (target, type)

theorem entries_forget (r : Registry) (handle other : Handle) (l : Live) :
    (r.forget handle l).entries[other]? =
      if handle = other then some ⟨l.type, none, 0⟩ else r.entries[other]? :=
  getElem?_insert_eq_ite ..

theorem Coherent.forget (coherent : r.Coherent) {handle : Handle} {l : Live}
    (live : r.live handle = .ok l) : (r.forget handle l).Coherent := by
  rw [live_eq_ok_iff] at live
  refine ⟨?_, ?_⟩
  · intro target type other
    rw [handleFor_forget, entries_forget]
    -- by coherence no second handle of the same target is left behind
    by_cases gone : (target, type) = (l.target, l.type)
    · obtain ⟨rfl, rfl⟩ := Prod.mk.inj gone
      rw [if_pos rfl]
      by_cases same : handle = other
      · simp [same]
      · rw [if_neg same]
        have absent := fun references entry => same (coherent.unique (m := references) live entry)
        simpa using absent
    · rw [if_neg gone, coherent.handleFor_iff]
      by_cases same : handle = other
      · subst same
        rw [if_pos rfl, live]
        constructor
        · rintro ⟨references, entry⟩
          simp only [Option.some.injEq, Entry.mk.injEq] at entry
          exact absurd (Prod.ext entry.2.1.symm entry.1.symm) gone
        · rintro ⟨references, entry⟩
          cases entry
      · rw [if_neg same]
  · intro other entry found
    rw [entries_forget] at found
    by_cases same : handle = other
    · exact same ▸ coherent.lt_nextHandle live
    · rw [if_neg same] at found
      exact coherent.lt_nextHandle found

theorem Coherent.addReference (coherent : r.Coherent) {handle : Handle} {count : Nat}
    {after : Registry} (counted : r.addReference handle = .ok (count, after)) :
    after.Coherent := by
  obtain ⟨l, live, -, -, rfl⟩ := addReference_eq_ok_iff.mp counted
  exact coherent.withReferences live _

theorem Coherent.release (coherent : r.Coherent) {objects disposed : Arena DynamicObject}
    {handle : Handle} {state : HandleState} {after : Registry}
    (counted : r.release objects handle = .ok (state, after, disposed)) : after.Coherent := by
  cases live : r.live handle with
  | error fault => rw [release_eq_error objects live] at counted; cases counted
  | ok l =>
    rcases release_cases objects live with ⟨key, -, -, released⟩ | ⟨-, kept⟩
    · rw [released] at counted
      obtain rfl := (Prod.mk.inj (Prod.mk.inj (Except.ok.inj counted)).2).1
      exact coherent.forget live
    · rw [kept] at counted
      obtain rfl := (Prod.mk.inj (Prod.mk.inj (Except.ok.inj counted)).2).1
      exact coherent.withReferences live _

/-! ## Limits -/

/-- Whether the counter and the counts of references keep to 32 bits. -/
structure Bounded (r : Registry) : Prop where
  nextHandle_le : r.nextHandle ≤ maxHandle
  references_le : ∀ {handle : Handle} {entry : Entry}, r.entries[handle]? = some entry →
    entry.references ≤ maxReferences

theorem bounded_empty : Bounded {} where
  nextHandle_le := by decide
  references_le := by simp

theorem Bounded.withSymbols (bounded : r.Bounded) (symbols : SymbolTable) :
    ({ r with symbols } : Registry).Bounded :=
  ⟨bounded.nextHandle_le, bounded.references_le⟩

theorem Bounded.withReferences (bounded : r.Bounded) {references : Nat}
    (small : references ≤ maxReferences) (handle : Handle) (l : Live) :
    (r.withReferences handle l references).Bounded := by
  refine ⟨bounded.nextHandle_le, ?_⟩
  intro other entry found
  rw [entries_withReferences] at found
  split at found
  · exact Option.some.inj found ▸ small
  · exact bounded.references_le found

theorem Bounded.register (bounded : r.Bounded) {target : Target} {type : ScriptType}
    {handle : Handle} {after : Registry}
    (given : r.register target type = .ok (handle, after)) : after.Bounded := by
  obtain ⟨room, made⟩ := register_eq_ok_iff.mp given
  obtain rfl : (r.registered target type).2 = after := congrArg Prod.snd made
  cases known : r.handleFor target type with
  | some old => rwa [registered_of_some known]
  | none =>
    refine ⟨?_, ?_⟩
    · rw [registered_of_none known]
      exact Int.add_one_le_of_lt (room known)
    · intro other entry found
      rw [entries_registered_of_none known] at found
      split at found
      · exact Option.some.inj found ▸ Nat.zero_le _
      · exact bounded.references_le found

theorem Bounded.addReference (bounded : r.Bounded) {handle : Handle} {count : Nat}
    {after : Registry} (counted : r.addReference handle = .ok (count, after)) :
    after.Bounded := by
  obtain ⟨l, -, room, -, rfl⟩ := addReference_eq_ok_iff.mp counted
  exact bounded.withReferences room handle l

theorem Bounded.forget (bounded : r.Bounded) (handle : Handle) (l : Live) :
    (r.forget handle l).Bounded := by
  refine ⟨bounded.nextHandle_le, ?_⟩
  intro other entry found
  rw [entries_forget] at found
  split at found
  · exact Option.some.inj found ▸ Nat.zero_le _
  · exact bounded.references_le found

theorem Bounded.release (bounded : r.Bounded) {objects disposed : Arena DynamicObject}
    {handle : Handle} {state : HandleState} {after : Registry}
    (counted : r.release objects handle = .ok (state, after, disposed)) : after.Bounded := by
  cases live : r.live handle with
  | error fault => rw [release_eq_error objects live] at counted; cases counted
  | ok l =>
    rcases release_cases objects live with ⟨key, -, -, released⟩ | ⟨-, kept⟩
    · rw [released] at counted
      obtain rfl := (Prod.mk.inj (Prod.mk.inj (Except.ok.inj counted)).2).1
      exact bounded.forget handle l
    · rw [kept] at counted
      obtain rfl := (Prod.mk.inj (Prod.mk.inj (Except.ok.inj counted)).2).1
      have small := bounded.references_le (live_eq_ok_iff.mp live)
      exact bounded.withReferences (Nat.le_trans (Nat.sub_le _ _) small) handle l

/-! ## Fields -/

theorem writeField_eq_error {handle : Handle} {fault : Fault} {w : World}
    (gone : r.live handle = .error fault) (offset : Int) (v : Int32) :
    r.writeField w handle offset v = .error fault := by
  unfold writeField writeFieldInPlace
  rw [InPlace.result_ask_bind, gone]
  rfl

theorem writeField_of_live {handle : Handle} {l : Live} {w : World}
    (live : r.live handle = .ok l) (offset : Int) (v : Int32) :
    r.writeField w handle offset v = w.write l.target (.staleHandle handle) offset v := by
  unfold writeField writeFieldInPlace
  rw [InPlace.result_ask_bind, live]
  rfl

theorem exists_write_of_writeField {handle : Handle} {w after : World} {offset : Int} {v : Int32}
    (wrote : r.writeField w handle offset v = .ok after) : ∃ l, r.live handle = .ok l ∧
      w.write l.target (.staleHandle handle) offset v = .ok after := by
  cases live : r.live handle with
  | error fault => rw [writeField_eq_error live] at wrote; cases wrote
  | ok l =>
    rw [writeField_of_live live] at wrote
    exact ⟨l, rfl, wrote⟩

/-! ## Symbols -/

theorem bindSymbol_eq_ok {name : String} {symbol : Symbol} {after : Registry} :
    r.bindSymbol name symbol = .ok after ↔
      ∃ symbols, r.symbols.bind name symbol = .ok symbols ∧ after = { r with symbols } := by
  unfold bindSymbol
  rw [except_bind_eq_ok]
  simp only [pure, Except.pure, Except.ok.injEq, eq_comm]

theorem Coherent.register (coherent : r.Coherent) {target : Target} {type : ScriptType}
    {handle : Handle} {after : Registry}
    (registered : r.register target type = .ok (handle, after)) : after.Coherent := by
  have made := coherent.registered target type
  rwa [(register_eq_ok_iff.mp registered).2] at made

/-- Names do not run out. -/
theorem bindSymbol_ne_overflow {name : String} {symbol : Symbol} :
    r.bindSymbol name symbol ≠ .error .overflow := by
  unfold bindSymbol SymbolTable.bind
  split
  · exact nofun
  · exact nofun

/-- What is registered under a name is registered, and symbols change. -/
theorem registerAs_eq_ok {name : String} {target : Target} {type : ScriptType} {handle : Handle}
    {after : Registry} (registered : r.registerAs name target type = .ok (handle, after)) :
    ∃ made symbols, r.register target type = .ok (handle, made) ∧
      after = { made with symbols } := by
  unfold registerAs at registered
  split at registered
  · cases registered
  · obtain ⟨⟨own, made⟩, given, registered⟩ := except_bind_eq_ok.mp registered
    obtain ⟨bound, wasBound, joined⟩ := except_bind_eq_ok.mp registered
    obtain ⟨rfl, rfl⟩ := Prod.mk.inj (Except.ok.inj joined)
    obtain ⟨l, -, wasBound⟩ := except_bind_eq_ok.mp wasBound
    obtain ⟨symbols, -, rfl⟩ := bindSymbol_eq_ok.mp wasBound
    exact ⟨made, symbols, given, rfl⟩

theorem bindHandle_eq {handle : Handle} {l : Live} (live : r.live handle = .ok l)
    (name : String) : r.bindHandle name handle = r.bindSymbol name (.object handle l.type) := by
  unfold bindHandle
  rw [live]
  rfl

/-- Registering under a name is registering and then binding the name, where there is a handle
left. -/
theorem Coherent.map_registerAs (coherent : r.Coherent) (name : String) {target : Target}
    {type : ScriptType} (given : r.register target type = .ok (r.registered target type)) :
    (r.registerAs name target type).map (·.2) =
      (r.registered target type).2.bindSymbol name
        (.object (r.registered target type).1 type) := by
  obtain ⟨references, live⟩ := coherent.live_registered target type
  unfold Registry.registerAs
  split
  · next taken =>
    -- the name is taken afterwards as well, and that is the same fault
    simp only [Registry.bindSymbol, SymbolTable.bind, registered_symbols, taken, if_true]
    rfl
  · rw [given]
    show ((do
      let bound ← (r.registered target type).2.bindHandle name (r.registered target type).1
      return ((r.registered target type).1, bound)) : Except Fault _).map (·.2) = _
    rw [bindHandle_eq live]
    cases (r.registered target type).2.bindSymbol name _ with
    | error fault => rfl
    | ok bound => rfl

end Adventure.Registry
