import Adventure.Proofs.Arena
import Adventure.Proofs.Registry.Coherent
import Adventure.Registry.Snapshot

/-! # What is saved of a table and put back

The entries of a snapshot are `Unambiguous` when they name no handle twice and no entity twice under
one type. Those of coherent registries are. An entry is put back over what its handle and its target
had, and objects get keys that are new.

* `entries_revive`, `handleFor_revive` — the two tables with one more entry in them.
* `entries_restore_of_none`, `entries_restore_of_some` — a restored table, handle by handle.
* `lt_nextHandle_restore` — the counter is ahead of what has been restored.
-/

namespace Adventure.Registry

open Std (ExtTreeMap)

/-- Saved handles that name no handle and no entity twice. -/
structure Unambiguous (entries : List SavedEntry) : Prop where
  handles : entries.Pairwise fun a b => a.handle ≠ b.handle
  entities : entries.Pairwise fun a b =>
    ∀ e, a.target = .static e → b.target = .static e → a.type ≠ b.type

variable {r : Registry} {objects : Arena DynamicObject}

theorem savedTarget_eq_static {target : Option Target} {e : Entity}
    (saved : savedTarget objects target = .static e) : target = some (.static e) := by
  cases target with
  | none => cases saved
  | some target =>
    cases target with
    | static e' =>
      obtain rfl := SavedTarget.static.inj saved
      rfl
    | dynamic key =>
      simp only [savedTarget] at saved
      cases found : objects.get? key with
      | none => rw [found] at saved; cases saved
      | some o => rw [found] at saved; cases saved

theorem snapshot_handles_distinct (r : Registry) (objects : Arena DynamicObject) :
    (r.snapshot objects).entries.Pairwise fun a b => a.handle ≠ b.handle := by
  rw [snapshot, List.pairwise_map]
  refine r.entries.distinct_keys_toList.imp ?_
  intro a b differ same
  exact differ (Std.LawfulEqCmp.compare_eq_iff_eq.mpr same)

theorem Coherent.snapshot_unambiguous (coherent : r.Coherent) (objects : Arena DynamicObject) :
    Unambiguous (r.snapshot objects).entries := by
  refine ⟨snapshot_handles_distinct r objects, ?_⟩
  · rw [snapshot, List.pairwise_map]
    refine r.entries.distinct_keys_toList.imp_of_mem ?_
    rintro ⟨first, a⟩ ⟨second, b⟩ listedA listedB differ e savedA savedB sameType
    have entryA := ExtTreeMap.mem_toList_iff_getElem?_eq_some.mp listedA
    have entryB := ExtTreeMap.mem_toList_iff_getElem?_eq_some.mp listedB
    obtain ⟨typeA, targetA, n⟩ := a
    obtain ⟨typeB, targetB, m⟩ := b
    obtain rfl := savedTarget_eq_static savedA
    obtain rfl := savedTarget_eq_static savedB
    obtain rfl : typeA = typeB := sameType
    exact differ (Std.LawfulEqCmp.compare_eq_iff_eq.mpr (coherent.unique entryA entryB))

/-! ## Reviving -/

theorem reviveTarget_eq_static {saved : SavedTarget} {e : Entity}
    (revived : (reviveTarget objects saved).1 = some (.static e)) : saved = .static e := by
  cases saved with
  | static e' => rw [Target.static.inj (Option.some.inj revived)]
  | dynamic o => cases Option.some.inj revived
  | released => cases revived

theorem reviveTarget_eq_dynamic {saved : SavedTarget} {key : Arena.Key}
    (revived : (reviveTarget objects saved).1 = some (.dynamic key)) :
    key.generation = objects.generation + 1 ∧
      (reviveTarget objects saved).2.generation = objects.generation + 1 := by
  cases saved with
  | static e => cases Option.some.inj revived
  | dynamic o =>
    have sameKey : (objects.insert o).1 = key := Target.dynamic.inj (Option.some.inj revived)
    exact ⟨by rw [← sameKey, Arena.insert_generation], Arena.generation_insert objects o⟩
  | released => cases revived

theorem generation_le_reviveTarget (objects : Arena DynamicObject) (saved : SavedTarget) :
    objects.generation ≤ (reviveTarget objects saved).2.generation := by
  cases saved with
  | static e => exact Nat.le_refl _
  | dynamic o =>
    have newer : (objects.insert o).2.generation = _ := Arena.generation_insert objects o
    exact newer ▸ Nat.le_succ _
  | released => exact Nat.le_refl _

theorem entries_revive (r : Registry) (objects : Arena DynamicObject) (s : SavedEntry)
    (handle : Handle) :
    (r.revive objects s).1.entries[handle]? =
      if s.handle = handle then
        some ⟨s.type, (reviveTarget objects s.target).1, s.references⟩
      else r.entries[handle]? :=
  getElem?_insert_eq_ite ..

theorem handleFor_revive (r : Registry) (objects : Arena DynamicObject) (s : SavedEntry)
    (target : Target) (type : ScriptType) :
    (r.revive objects s).1.handleFor target type =
      if (reviveTarget objects s.target).1 = some target ∧ type = s.type then some s.handle
      else r.handleFor target type := by
  simp only [revive, handleFor]
  cases (reviveTarget objects s.target).1 with
  | none => simp
  | some revived =>
    simp only [lookup_cons_eq_ite, Prod.mk.injEq, Option.some.injEq, eq_comm]

theorem symbols_reviveAll (r : Registry) (objects : Arena DynamicObject)
    (entries : List SavedEntry) :
    (entries.foldl (fun (r, objects) saved => r.revive objects saved) (r, objects)).1.symbols =
      r.symbols := by
  induction entries generalizing r objects with
  | nil => rfl
  | cons s rest hyp => exact hyp _ _

theorem entries_reviveAll_of_unlisted (r : Registry) (objects : Arena DynamicObject)
    {entries : List SavedEntry} {handle : Handle} (unlisted : ∀ s ∈ entries, s.handle ≠ handle) :
    (entries.foldl (fun (r, objects) saved => r.revive objects saved)
      (r, objects)).1.entries[handle]? = r.entries[handle]? := by
  induction entries generalizing r objects with
  | nil => rfl
  | cons s rest hyp =>
    obtain ⟨other, unlisted⟩ := List.forall_mem_cons.mp unlisted
    exact (hyp (r.revive objects s).1 (r.revive objects s).2 unlisted).trans
      (by rw [entries_revive, if_neg other])

/-- A saved handle is in the table with what its target has been revived as. -/
theorem entries_reviveAll_of_mem (r : Registry) (objects : Arena DynamicObject)
    {entries : List SavedEntry} (distinct : entries.Pairwise fun a b => a.handle ≠ b.handle) :
    ∀ s ∈ entries, ∃ objects', (entries.foldl (fun (r, objects) saved => r.revive objects saved)
      (r, objects)).1.entries[s.handle]? =
        some ⟨s.type, (reviveTarget objects' s.target).1, s.references⟩ := by
  induction entries generalizing r objects with
  | nil => simp
  | cons s rest hyp =>
    obtain ⟨differs, distinct⟩ := List.pairwise_cons.mp distinct
    refine List.forall_mem_cons.mpr ⟨⟨objects, ?_⟩, hyp _ _ distinct⟩
    -- no later entry has the handle of the first
    exact (entries_reviveAll_of_unlisted (r.revive objects s).1 (r.revive objects s).2
      fun t listed => (differs t listed).symm).trans (by rw [entries_revive, if_pos rfl])

/-! ## Restoring -/

theorem le_highestHandle {handle : Handle} {entry : Entry}
    (there : r.entries[handle]? = some entry) : handle ≤ r.highestHandle := by
  have member : handle ∈ r.entries := ExtTreeMap.mem_iff_isSome_getElem?.mpr (by rw [there]; rfl)
  unfold highestHandle
  cases highest : r.entries.maxKey? with
  | none =>
    rw [ExtTreeMap.maxKey?_eq_none_iff] at highest
    rw [highest] at there
    simp at there
  | some top =>
    have below := (ExtTreeMap.maxKey?_eq_some_iff_mem_and_forall.mp highest).2 handle member
    exact Std.isLE_compare.mp below

theorem highestHandle_lt {next : Handle} (positive : 0 < next)
    (below : ∀ {handle : Handle} {e : Entry}, r.entries[handle]? = some e → handle < next) :
    r.highestHandle < next := by
  unfold highestHandle
  cases highest : r.entries.maxKey? with
  | none => exact positive
  | some top =>
    have member := (ExtTreeMap.maxKey?_eq_some_iff_mem_and_forall.mp highest).1
    exact below (ExtTreeMap.getElem?_eq_some_getElem member)

/-- An entry as a save holds it. -/
def savedEntry (objects : Arena DynamicObject) (handle : Handle) (e : Entry) : SavedEntry where
  handle
  typeName := e.type.typeName
  type := e.type
  target := savedTarget objects e.target
  references := e.references

theorem savedEntry_mem_snapshot (objects : Arena DynamicObject) {handle : Handle} {e : Entry}
    (there : r.entries[handle]? = some e) :
    savedEntry objects handle e ∈ (r.snapshot objects).entries :=
  List.mem_map.mpr ⟨(handle, e), ExtTreeMap.mem_toList_iff_getElem?_eq_some.mpr there, rfl⟩

theorem symbols_restore (old : Registry) (oldObjects : Arena DynamicObject) (s : Snapshot) :
    (old.restored oldObjects s).1.symbols = old.symbols :=
  symbols_reviveAll { old with entries := ∅, byTarget := [] } _ s.entries

theorem entries_restore_of_none (old : Registry) (oldObjects objects : Arena DynamicObject)
    {handle : Handle} (absent : r.entries[handle]? = none) :
    (old.restored oldObjects (r.snapshot objects)).1.entries[handle]? = none := by
  have unlisted : ∀ s ∈ (r.snapshot objects).entries, s.handle ≠ handle := by
    intro s listed same
    obtain ⟨⟨found, e⟩, member, rfl⟩ := List.mem_map.mp listed
    have there := ExtTreeMap.mem_toList_iff_getElem?_eq_some.mp member
    rw [show found = handle from same, absent] at there
    cases there
  exact (entries_reviveAll_of_unlisted { old with entries := ∅, byTarget := [] } _ unlisted).trans
    (by simp)

theorem entries_restore_of_some (old : Registry) (oldObjects objects : Arena DynamicObject)
    {handle : Handle} {e : Entry} (there : r.entries[handle]? = some e) : ∃ revived,
    (old.restored oldObjects (r.snapshot objects)).1.entries[handle]? =
      some ⟨e.type, (reviveTarget revived (savedTarget objects e.target)).1, e.references⟩ :=
  entries_reviveAll_of_mem { old with entries := ∅, byTarget := [] } _
    (snapshot_handles_distinct r objects) _ (savedEntry_mem_snapshot objects there)

theorem Coherent.highestHandle_restore_lt (coherent : r.Coherent) (positive : 1 ≤ r.nextHandle)
    (old : Registry) (oldObjects objects : Arena DynamicObject) :
    (old.restored oldObjects (r.snapshot objects)).1.highestHandle < r.nextHandle := by
  refine highestHandle_lt positive ?_
  intro handle entry there
  change ((old.restored oldObjects (r.snapshot objects)).1.entries[handle]?) = _ at there
  cases found : r.entries[handle]? with
  | none => exact absurd (there.symm.trans (entries_restore_of_none _ _ _ found)) nofun
  | some e => exact coherent.lt_nextHandle found

/-- The counter goes on where it was at the save. -/
theorem Coherent.nextHandle_restore (coherent : r.Coherent) (positive : 1 ≤ r.nextHandle)
    (old : Registry) (oldObjects objects : Arena DynamicObject) :
    (old.restored oldObjects (r.snapshot objects)).1.nextHandle = r.nextHandle :=
  Int.max_eq_left (coherent.highestHandle_restore_lt positive old oldObjects objects)

/-- A save is restored if that leaves a handle to give. -/
theorem restore_cases (r : Registry) (objects : Arena DynamicObject) (s : Snapshot) :
    (r.restored objects s).1.highestHandle < maxHandle ∧
        r.restore objects s = .ok (r.restored objects s) ∨
      maxHandle ≤ (r.restored objects s).1.highestHandle ∧
        r.restore objects s = .error .overflow := by
  unfold restore
  dsimp only
  split
  · next reached => exact .inr ⟨reached, rfl⟩
  · next below => exact .inl ⟨Int.not_le.mp below, rfl⟩

/-- What has been saved can always be restored. -/
theorem Coherent.restore_snapshot (coherent : r.Coherent) (positive : 1 ≤ r.nextHandle)
    (most : r.nextHandle ≤ maxHandle) (old : Registry) (oldObjects objects : Arena DynamicObject) :
    old.restore oldObjects (r.snapshot objects) =
      .ok (old.restored oldObjects (r.snapshot objects)) := by
  have highest := coherent.highestHandle_restore_lt positive old oldObjects objects
  rcases restore_cases old oldObjects (r.snapshot objects) with ⟨-, restored⟩ | ⟨reached, -⟩
  · exact restored
  · exact absurd (Int.lt_of_lt_of_le highest most) (Int.not_lt.mpr reached)

theorem restore_eq_ok {objects : Arena DynamicObject} {s : Snapshot}
    {table : Registry × Arena DynamicObject} (made : r.restore objects s = .ok table) :
    (r.restored objects s).1.highestHandle < maxHandle ∧ r.restored objects s = table := by
  rcases restore_cases r objects s with ⟨low, restored⟩ | ⟨-, stopped⟩
  · exact ⟨low, Except.ok.inj (restored.symm.trans made)⟩
  · cases stopped.symm.trans made

/-- The counter goes on behind the highest handle in the table, if not further. -/
theorem lt_nextHandle_restore {s : Snapshot} {handle : Handle} {e : Entry}
    (there : (r.restored objects s).1.entries[handle]? = some e) :
    handle < (r.restored objects s).1.nextHandle :=
  Int.lt_of_le_of_lt (le_highestHandle there)
    (Int.lt_of_lt_of_le (Int.lt_succ _) (Int.le_max_right _ _))

end Adventure.Registry
