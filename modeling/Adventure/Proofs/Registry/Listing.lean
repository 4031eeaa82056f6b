import Adventure.Proofs.Registry.Coherent

/-! # Handles in the order of registration

Handles count up from 1, and so a registry in which nothing has been registered twice is a list: the
handle of a target is its place. Scripts hold nothing yet. The engine holds what was made at run
time, once.

* `Lists` — a registry as a list.
* `Lists.registered`, `Lists.hold` — a target more.
-/

namespace Adventure.Registry

variable {r after : Registry} {listed : List (Target × ScriptType)}

/-- The entry of a target, which is held if it was made at run time. -/
def listedEntry (pair : Target × ScriptType) : Entry :=
  { type := pair.2, target := some pair.1, references := if pair.1.isDynamic then 1 else 0 }

/-- The handle of the target at place `k`. -/
def handleAt (k : Nat) : Handle := (k : Int) + 1

theorem exists_handleAt {handle : Handle} (positive : 1 ≤ handle) : ∃ k, handle = handleAt k := by
  obtain ⟨k, back⟩ := Int.eq_ofNat_of_zero_le (Int.sub_nonneg_of_le positive)
  exact ⟨k, Int.sub_eq_iff_eq_add.mp back⟩

theorem handleAt_eq_iff {k n : Nat} : handleAt n = handleAt k ↔ n = k := by
  unfold handleAt
  rw [Int.add_left_inj, Int.natCast_inj]

theorem handleAt_lt_iff {k n : Nat} : handleAt n < handleAt k ↔ n < k := by
  unfold handleAt
  rw [Int.add_lt_add_iff_right, Int.ofNat_lt]

theorem one_le_handleAt (k : Nat) : 1 ≤ handleAt k :=
  Int.le_add_of_nonneg_left (Int.natCast_nonneg k)

/-- The handles of `r` are the places of `listed`, counted from 1. -/
structure Lists (r : Registry) (listed : List (Target × ScriptType)) : Prop where
  coherent : r.Coherent
  nextHandle : r.nextHandle = handleAt listed.length
  entries : ∀ k, r.entries[handleAt k]? = listed[k]?.map listedEntry
  positive : ∀ {handle : Handle} {entry : Entry}, r.entries[handle]? = some entry → 1 ≤ handle

theorem lists_empty : Lists {} [] where
  coherent := coherent_empty
  nextHandle := rfl
  entries k := by simp
  positive found := by simp at found

theorem Lists.withSymbols (lists : r.Lists listed) (symbols : SymbolTable) :
    ({ r with symbols } : Registry).Lists listed where
  coherent := lists.coherent.withSymbols symbols
  nextHandle := lists.nextHandle
  entries := lists.entries
  positive := lists.positive

/-! ## Looking up -/

theorem Lists.exists_place (lists : r.Lists listed) {handle : Handle} {entry : Entry}
    (found : r.entries[handle]? = some entry) :
    ∃ k pair, handle = handleAt k ∧ listed[k]? = some pair ∧ entry = listedEntry pair := by
  obtain ⟨k, rfl⟩ := exists_handleAt (lists.positive found)
  rw [lists.entries k] at found
  obtain ⟨pair, here, same⟩ := Option.map_eq_some_iff.mp found
  exact ⟨k, pair, rfl, here, same.symm⟩

theorem Lists.handleFor_eq_none (lists : r.Lists listed) {target : Target} {type : ScriptType}
    (unlisted : (target, type) ∉ listed) : r.handleFor target type = none := by
  cases found : r.handleFor target type with
  | none => rfl
  | some handle =>
    obtain ⟨references, entry⟩ := lists.coherent.handleFor_iff.mp found
    obtain ⟨k, pair, -, here, same⟩ := lists.exists_place entry
    obtain ⟨rfl, rfl, -⟩ : type = pair.2 ∧ target = pair.1 ∧ _ := by
      simpa [listedEntry] using same
    exact absurd (List.mem_of_getElem? here) unlisted

theorem Lists.resolve_iff (lists : r.Lists listed) {handle : Handle} {pair : Target × ScriptType} :
    r.resolve handle = .ok pair ↔ ∃ k, handle = handleAt k ∧ listed[k]? = some pair := by
  unfold resolve
  rw [except_map_eq_ok]
  constructor
  · rintro ⟨l, live, rfl⟩
    obtain ⟨k, pair, placed, here, same⟩ := lists.exists_place (live_eq_ok_iff.mp live)
    refine ⟨k, placed, here.trans (congrArg some ?_)⟩
    obtain ⟨type, target, -⟩ : l.type = pair.2 ∧ l.target = pair.1 ∧ _ := by
      simpa [listedEntry] using same
    exact Prod.ext target.symm type.symm
  · rintro ⟨k, rfl, here⟩
    refine ⟨⟨pair.1, pair.2, (listedEntry pair).references⟩, live_eq_ok_iff.mpr ?_, rfl⟩
    rw [lists.entries k, here]
    rfl

theorem Lists.state_of_resolve (lists : r.Lists listed) {handle : Handle}
    {pair : Target × ScriptType} (found : r.resolve handle = .ok pair) :
    r.state handle = if pair.1.isDynamic then .referenced 1 else .registered := by
  obtain ⟨k, rfl, here⟩ := lists.resolve_iff.mp found
  unfold state
  rw [lists.entries k, here]
  simp only [Option.map_some, listedEntry]
  cases pair.1.isDynamic with
  | true => rfl
  | false => rfl

/-! ## One more -/

theorem Lists.append (lists : r.Lists listed) {pair : Target × ScriptType}
    (coherent : after.Coherent) (next : after.nextHandle = r.nextHandle + 1)
    (entries : ∀ handle, after.entries[handle]? =
      if r.nextHandle = handle then some (listedEntry pair) else r.entries[handle]?) :
    after.Lists (listed ++ [pair]) where
  coherent := coherent
  nextHandle := by
    rw [next, lists.nextHandle, List.length_append, List.length_singleton]
    rfl
  entries k := by
    rw [entries, lists.nextHandle, lists.entries k]
    simp only [handleAt_eq_iff]
    rcases Nat.lt_trichotomy k listed.length with before | rfl | behind
    · rw [if_neg (Nat.ne_of_gt before), List.getElem?_append_left before]
    · simp
    · have outside : listed.length + 1 ≤ k := behind
      rw [if_neg (Nat.ne_of_lt behind), List.getElem?_eq_none (Nat.le_of_lt behind),
        List.getElem?_eq_none (by simpa using outside)]
  positive {handle entry} found := by
    rw [entries, lists.nextHandle] at found
    by_cases new : handleAt listed.length = handle
    · exact new ▸ one_le_handleAt listed.length
    · rw [if_neg new] at found
      exact lists.positive found

theorem nextHandle_registered_of_none {target : Target} {type : ScriptType}
    (unknown : r.handleFor target type = none) :
    (r.registered target type).2.nextHandle = r.nextHandle + 1 := by
  rw [registered_of_none unknown]

theorem Lists.registered (lists : r.Lists listed) {e : Entity} {type : ScriptType}
    (unlisted : (.static e, type) ∉ listed) :
    (r.registered (.static e) type).2.Lists (listed ++ [(.static e, type)]) :=
  have unknown := lists.handleFor_eq_none unlisted
  lists.append (lists.coherent.registered _ _) (nextHandle_registered_of_none unknown)
    (entries_registered_of_none unknown)

/-- An object that was made at run time is registered and held. -/
theorem Lists.hold (lists : r.Lists listed) {key : Arena.Key} {type : ScriptType}
    (unlisted : (.dynamic key, type) ∉ listed) :
    ∃ held, (r.registered (.dynamic key) type).2.addReference r.nextHandle = .ok (1, held) ∧
      held.Lists (listed ++ [(.dynamic key, type)]) := by
  have unknown := lists.handleFor_eq_none unlisted
  have live : (r.registered (.dynamic key) type).2.live r.nextHandle =
      .ok ⟨.dynamic key, type, 0⟩ := by
    rw [live_eq_ok_iff, entries_registered_of_none unknown, if_pos rfl]
  refine ⟨_, addReference_eq_ok live (show 0 < maxReferences by decide), ?_⟩
  refine lists.append ((lists.coherent.registered _ _).withReferences live _)
    (nextHandle_registered_of_none unknown) fun handle => ?_
  rw [entries_withReferences, entries_registered_of_none unknown]
  split
  · rfl
  · rfl

end Adventure.Registry
