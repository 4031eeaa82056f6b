import Adventure.Proofs.Registry.Restored

/-! # What a damaged save restores

Nothing about a save is checked when it is restored: handles can be any numbers, and handles and
targets can come again. It turns out which saves are restored to a table as it should be.

* `WellFormed` — what is expected of a table that has been restored.
* `wellFormed_restore_iff` — untangled saves with numbers in range are restored well, and no others.
-/

namespace Adventure.Registry

variable {r : Registry} {objects : Arena DynamicObject} {s : Snapshot}

/-! ## Objects -/

/-- Nothing is found afterwards but what was there and what entries have been made into. -/
theorem get?_reviveAll (r : Registry) (objects : Arena DynamicObject) {entries : List SavedEntry}
    {key : Arena.Key} {o : DynamicObject}
    (found : (entries.foldl (fun (r, objects) saved => r.revive objects saved)
      (r, objects)).2.get? key = some o) :
    objects.get? key = some o ∨
      ∃ v ∈ revivals objects entries, v.target = some (.dynamic key) := by
  induction entries generalizing r objects with
  | nil => exact .inl found
  | cons s rest hyp =>
    rcases hyp (r.revive objects s).1 (r.revive objects s).2 found with before | ⟨v, listed, made⟩
    · change (reviveTarget objects s.target).2.get? key = some o at before
      cases own : s.target with
      | static e => exact .inl (by rwa [own] at before)
      | dynamic fresh =>
        rw [own] at before
        rcases Arena.get?_insert_cases before with rfl | old
        · exact .inr ⟨_, List.mem_cons_self, by rw [own]; rfl⟩
        · exact .inl old
      | released => exact .inl (by rwa [own] at before)
    · exact .inr ⟨v, List.mem_cons_of_mem _ listed, made⟩

theorem get?_restore {key : Arena.Key} {o : DynamicObject}
    (found : (r.restored objects s).2.get? key = some o) :
    objects.get? key = some o ∨
      ∃ v ∈ r.restoredRow objects s, v.target = some (.dynamic key) := by
  rcases get?_reviveAll { r with entries := ∅, byTarget := [] } _ found with left | made
  · rw [disposeAll_eq, get?_foldl_disposeEntry] at left
    split at left
    · cases left
    · exact .inl left
  · exact .inr made

/-! ## The end of the program -/

/-- A save is restored unless one of its handles is the last that there is. -/
theorem maxHandle_le_highestHandle_iff (r : Registry) (objects : Arena DynamicObject)
    (s : Snapshot) : maxHandle ≤ (r.restored objects s).1.highestHandle ↔
      ∃ l ∈ s.entries, maxHandle ≤ l.handle := by
  constructor
  · intro high
    by_contra low
    push Not at low
    refine absurd high (Int.not_le.mpr (highestHandle_lt (by decide) ?_))
    intro handle e there
    obtain ⟨l, listed, rfl⟩ := (exists_entries_restore_iff r objects).mp ⟨e, there⟩
    exact low l listed
  · rintro ⟨l, listed, high⟩
    obtain ⟨e, there⟩ := (exists_entries_restore_iff r objects).mpr ⟨l, listed, rfl⟩
    exact Int.le_trans high (le_highestHandle there)

theorem restore_eq_ok_iff {table : Registry × Arena DynamicObject} :
    r.restore objects s = .ok table ↔
      (∀ l ∈ s.entries, l.handle < maxHandle) ∧ r.restored objects s = table := by
  have high := maxHandle_le_highestHandle_iff r objects s
  rcases restore_cases r objects s with ⟨low, restored⟩ | ⟨reached, stopped⟩
  · rw [restored, Except.ok.injEq]
    refine (and_iff_right fun l listed => ?_).symm
    exact Int.not_le.mp fun last => absurd low (Int.not_lt.mpr (high.mpr ⟨l, listed, last⟩))
  · obtain ⟨l, listed, last⟩ := high.mp reached
    rw [stopped]
    exact ⟨nofun, fun all => absurd (all.1 l listed) (Int.not_lt.mpr last)⟩

theorem restore_eq_error_iff (r : Registry) (objects : Arena DynamicObject) (s : Snapshot) :
    r.restore objects s = .error .overflow ↔ ∃ l ∈ s.entries, maxHandle ≤ l.handle := by
  rw [← maxHandle_le_highestHandle_iff r objects]
  rcases restore_cases r objects s with ⟨low, restored⟩ | ⟨reached, stopped⟩
  · rw [restored]
    exact iff_of_false nofun (Int.not_le.mpr low)
  · exact iff_of_true stopped reached

/-! ## Well-formed tables -/

/-- Whether the handles of a save are positive and none is the last that there is. -/
structure Snapshot.Numbered (s : Snapshot) : Prop where
  nextHandle_le : s.nextHandle ≤ maxHandle
  one_le : ∀ l ∈ s.entries, 1 ≤ l.handle
  lt_maxHandle : ∀ l ∈ s.entries, l.handle < maxHandle

/-- What is expected of a table that has been restored, with the objects before and after. -/
structure WellFormed (r : Registry) (before after : Arena DynamicObject) : Prop where
  one_le : ∀ {handle : Handle} {e : Entry}, r.entries[handle]? = some e → 1 ≤ handle
  lt_nextHandle : ∀ {handle : Handle} {e : Entry},
    r.entries[handle]? = some e → handle < r.nextHandle
  nextHandle_le : r.nextHandle ≤ maxHandle
  handleFor_iff : ∀ target type handle, r.handleFor target type = some handle ↔
    r.resolve handle = .ok (target, type)
  /-- Objects that are new can be reached. -/
  held : ∀ {key o}, after.get? key = some o →
    before.get? key = some o ∨ ∃ handle type, r.resolve handle = .ok (.dynamic key, type)

theorem nextHandle_restore_le (numbered : s.Numbered) (r : Registry)
    (objects : Arena DynamicObject) : (r.restored objects s).1.nextHandle ≤ maxHandle := by
  refine Int.max_le.mpr ⟨numbered.nextHandle_le, Int.add_one_le_of_lt ?_⟩
  refine highestHandle_lt (by decide) ?_
  intro handle e there
  obtain ⟨l, listed, rfl⟩ := (exists_entries_restore_iff r objects).mp ⟨e, there⟩
  exact numbered.lt_maxHandle l listed

theorem numbered_of_wellFormed {before after : Arena DynamicObject}
    (wellFormed : (r.restored objects s).1.WellFormed before after) : s.Numbered where
  nextHandle_le := Int.le_trans (Int.le_max_left _ _) wellFormed.nextHandle_le
  one_le := by
    intro l listed
    obtain ⟨e, there⟩ := (exists_entries_restore_iff r objects).mpr ⟨l, listed, rfl⟩
    exact wellFormed.one_le there
  lt_maxHandle := by
    intro l listed
    obtain ⟨e, there⟩ := (exists_entries_restore_iff r objects).mpr ⟨l, listed, rfl⟩
    exact Int.lt_of_lt_of_le (wellFormed.lt_nextHandle there) wellFormed.nextHandle_le

/-- Whatever was there before, a save is restored well exactly if its numbers are in range and
entries that come again come again as a whole. -/
theorem wellFormed_restore_iff (r : Registry) (objects : Arena DynamicObject) (s : Snapshot) :
    (r.restored objects s).1.WellFormed objects (r.restored objects s).2 ↔
      s.Numbered ∧ Untangled s.entries := by
  constructor
  · intro wellFormed
    refine ⟨numbered_of_wellFormed wellFormed, (handleFor_restore_iff r objects).mp ?_⟩
    intro target type handle
    rw [wellFormed.handleFor_iff, resolve_eq_ok_iff]
  · rintro ⟨numbered, untangled⟩
    have coherent := coherent_restore_of_untangled r objects untangled
    refine ⟨?_, lt_nextHandle_restore, nextHandle_restore_le numbered r objects,
      coherent.handleFor_iff_resolve, ?_⟩
    · intro handle e there
      obtain ⟨l, listed, rfl⟩ := (exists_entries_restore_iff r objects).mp ⟨e, there⟩
      exact numbered.one_le l listed
    · intro key o found
      refine (get?_restore found).imp_right ?_
      rintro ⟨v, listed, made⟩
      -- the object was made for an entry, whose handle or a later one it has
      have known : (r.restored objects s).1.handleFor (.dynamic key) v.saved.type ≠ none := by
        rw [handleFor_restore_eq]
        intro absent
        exact handleIn_eq_none_iff.mp absent v listed ⟨made, rfl⟩
      obtain ⟨handle, given⟩ := Option.ne_none_iff_exists'.mp known
      exact ⟨handle, _, (coherent.handleFor_iff_resolve _ _ handle).mp given⟩

end Adventure.Registry
