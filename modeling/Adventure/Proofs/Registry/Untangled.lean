import Adventure.Proofs.Registry.Snapshot

/-! # What a list of entries restores

Any list of entries can be restored, not only those that a table has been saved as. An entry takes
the place of those before it that have its handle, and makes its handle that of its target. The two
tables come out in agreement exactly if the last entry of a handle is the last of its target too.

* `entryIn`, `handleIn` — the two tables that entries are restored to.
* `Untangled` — whether the entries of a save let them agree.
* `handleFor_restore_iff` — the tables agree if and only if the entries are untangled.
* `coherent_restore` — what a coherent table is saved as is restored to one.
-/

namespace Adventure.Registry

variable {r : Registry} {objects : Arena DynamicObject} {entries : List SavedEntry}

/-! ## Rows -/

/-- A saved entry with what has been made of its target. -/
structure Revived where
  saved : SavedEntry
  target : Option Target

/-- Saved entries with their targets, made one after the other. -/
def revivals (objects : Arena DynamicObject) : List SavedEntry → List Revived
  | [] => []
  | s :: rest =>
    ⟨s, (reviveTarget objects s.target).1⟩ :: revivals (reviveTarget objects s.target).2 rest

/-- Whether an entry gives its handle to a target under a type. -/
def Revived.Serves (v : Revived) (pair : Target × ScriptType) : Prop :=
  v.target = some pair.1 ∧ v.saved.type = pair.2

instance (v : Revived) (pair : Target × ScriptType) : Decidable (v.Serves pair) :=
  inferInstanceAs (Decidable (_ ∧ _))

/-- What a row says of a handle: what its last entry says that has the handle. -/
def entryIn : List Revived → Handle → Option Entry
  | [], _ => none
  | v :: row, handle => (entryIn row handle).or
    (if v.saved.handle = handle then some ⟨v.saved.type, v.target, v.saved.references⟩ else none)

/-- The handle that a row has for a target under a type, which is that of its last such entry. -/
def handleIn : List Revived → Target × ScriptType → Option Handle
  | [], _ => none
  | v :: row, pair => (handleIn row pair).or
    (if v.Serves pair then some v.saved.handle else none)

variable {v : Revived} {row : List Revived} {pair : Target × ScriptType} {handle : Handle}

theorem entryIn_eq_none_iff : entryIn row handle = none ↔ ∀ v ∈ row, v.saved.handle ≠ handle := by
  induction row with
  | nil => simp [entryIn]
  | cons v row hyp => simp [entryIn, hyp, and_comm]

theorem handleIn_eq_none_iff : handleIn row pair = none ↔ ∀ v ∈ row, ¬ v.Serves pair := by
  induction row with
  | nil => simp [handleIn]
  | cons v row hyp => simp [handleIn, hyp, and_comm]

theorem entryIn_cons_eq_some_iff {e : Entry} : entryIn (v :: row) handle = some e ↔
    entryIn row handle = some e ∨ entryIn row handle = none ∧ v.saved.handle = handle ∧
      ⟨v.saved.type, v.target, v.saved.references⟩ = e := by
  simp [entryIn, Option.or_eq_some_iff]

theorem handleIn_cons_eq_some_iff : handleIn (v :: row) pair = some handle ↔
    handleIn row pair = some handle ∨
      handleIn row pair = none ∧ v.Serves pair ∧ v.saved.handle = handle := by
  simp [handleIn, Option.or_eq_some_iff]

/-- What a row says of a handle, one of its entries says. -/
theorem exists_of_entryIn {e : Entry} (found : entryIn row handle = some e) :
    ∃ v ∈ row, v.saved.references = e.references := by
  induction row with
  | nil => cases found
  | cons v row hyp =>
    rcases entryIn_cons_eq_some_iff.mp found with later | ⟨-, -, rfl⟩
    · obtain ⟨w, listed, same⟩ := hyp later
      exact ⟨w, List.mem_cons_of_mem _ listed, same⟩
    · exact ⟨v, List.mem_cons_self, rfl⟩

theorem entryIn_ne_none_of_handleIn (known : handleIn row pair = some handle) :
    entryIn row handle ≠ none := by
  induction row with
  | nil => cases known
  | cons v row hyp =>
    intro absent
    obtain ⟨other, absent⟩ := List.forall_mem_cons.mp (entryIn_eq_none_iff.mp absent)
    rcases handleIn_cons_eq_some_iff.mp known with later | ⟨-, -, same⟩
    · exact hyp later (entryIn_eq_none_iff.mpr absent)
    · exact other same

theorem handleIn_ne_none_of_entryIn {references : Nat}
    (known : entryIn row handle = some ⟨pair.2, some pair.1, references⟩) :
    handleIn row pair ≠ none := by
  induction row with
  | nil => cases known
  | cons v row hyp =>
    intro absent
    obtain ⟨other, absent⟩ := List.forall_mem_cons.mp (handleIn_eq_none_iff.mp absent)
    rcases entryIn_cons_eq_some_iff.mp known with later | ⟨-, -, same⟩
    · exact hyp later (handleIn_eq_none_iff.mpr absent)
    · obtain ⟨type, target, -⟩ := Entry.mk.inj same
      exact other ⟨target, type⟩

/-- Whether a row has the handle of a target exactly where it has the target of a handle. -/
def Agrees (row : List Revived) : Prop :=
  ∀ pair handle, handleIn row pair = some handle ↔
    ∃ references, entryIn row handle = some ⟨pair.2, some pair.1, references⟩

/-- The entry in front says what its handle stands for exactly if it says which handle its target
has. -/
theorem Agrees.hidden (agrees : Agrees (v :: row)) {target : Target}
    (made : v.target = some target) :
    entryIn row v.saved.handle = none ↔ handleIn row (target, v.saved.type) = none := by
  constructor
  · intro seen
    have entry := entryIn_cons_eq_some_iff.mpr (.inr ⟨seen, rfl, rfl⟩)
    rw [made] at entry
    have known := (agrees (target, v.saved.type) _).mpr ⟨_, entry⟩
    rcases handleIn_cons_eq_some_iff.mp known with later | ⟨free, -⟩
    · exact absurd seen (entryIn_ne_none_of_handleIn later)
    · exact free
  · intro free
    have known := handleIn_cons_eq_some_iff.mpr (.inr ⟨free, ⟨made, rfl⟩, rfl⟩)
    obtain ⟨references, entry⟩ := (agrees _ _).mp known
    rcases entryIn_cons_eq_some_iff.mp entry with later | ⟨seen, -⟩
    · exact absurd free (handleIn_ne_none_of_entryIn later)
    · exact seen

theorem Agrees.tail (agrees : Agrees (v :: row)) : Agrees row := by
  intro pair handle
  constructor
  · intro known
    obtain ⟨references, entry⟩ :=
      (agrees pair handle).mp (handleIn_cons_eq_some_iff.mpr (.inl known))
    rcases entryIn_cons_eq_some_iff.mp entry with later | ⟨absent, -⟩
    · exact ⟨references, later⟩
    · exact absurd absent (entryIn_ne_none_of_handleIn known)
  · rintro ⟨references, entry⟩
    have known :=
      (agrees pair handle).mpr ⟨references, entryIn_cons_eq_some_iff.mpr (.inl entry)⟩
    rcases handleIn_cons_eq_some_iff.mp known with later | ⟨absent, -⟩
    · exact later
    · exact absurd absent (handleIn_ne_none_of_entryIn entry)

theorem Agrees.cons (agrees : Agrees row)
    (hidden : ∀ target, v.target = some target →
      (entryIn row v.saved.handle = none ↔ handleIn row (target, v.saved.type) = none)) :
    Agrees (v :: row) := by
  intro pair handle
  rw [handleIn_cons_eq_some_iff]
  simp only [entryIn_cons_eq_some_iff, agrees pair handle]
  constructor
  · rintro (⟨references, entry⟩ | ⟨free, ⟨made, type⟩, rfl⟩)
    · exact ⟨references, .inl entry⟩
    · refine ⟨v.saved.references, .inr ⟨(hidden pair.1 made).mpr (type ▸ free), rfl, ?_⟩⟩
      rw [type, made]
  · rintro ⟨references, entry | ⟨seen, rfl, same⟩⟩
    · exact .inl ⟨references, entry⟩
    · obtain ⟨type, made, -⟩ := Entry.mk.inj same
      have free := (hidden pair.1 made).mp seen
      rw [type] at free
      exact .inr ⟨free, ⟨made, type⟩, rfl⟩

/-- An entry in front is hidden behind the others in both respects or in neither. -/
theorem agrees_cons : Agrees (v :: row) ↔
    (∀ target, v.target = some target →
      (entryIn row v.saved.handle = none ↔ handleIn row (target, v.saved.type) = none)) ∧
    Agrees row :=
  ⟨fun agrees => ⟨fun _ => agrees.hidden, agrees.tail⟩,
    fun ⟨hidden, agrees⟩ => agrees.cons hidden⟩

/-! ## Untangled saves -/

/-- Whether the entries of a save that come again behind others come again as a whole: the last
entry of an entity is the last of its handle too, and no entry takes the handle of an object that
was made at run time. -/
def Untangled : List SavedEntry → Prop
  | [] => True
  | s :: rest =>
    (match s.target with
      | .static e => (∀ l ∈ rest, l.handle ≠ s.handle) ↔
        ∀ l ∈ rest, l.target = .static e → l.type ≠ s.type
      | .dynamic _ => ∀ l ∈ rest, l.handle ≠ s.handle
      | .released => True) ∧ Untangled rest

theorem map_saved_revivals (objects : Arena DynamicObject) (entries : List SavedEntry) :
    (revivals objects entries).map (·.saved) = entries := by
  induction entries generalizing objects with
  | nil => rfl
  | cons s rest hyp => rw [revivals, List.map_cons, hyp]

theorem forall_revivals_handle {handle : Handle} :
    (∀ v ∈ revivals objects entries, v.saved.handle ≠ handle) ↔
      ∀ l ∈ entries, l.handle ≠ handle := by
  conv => rhs; rw [← map_saved_revivals objects entries]
  simp

/-- Objects are made under keys that are new. -/
theorem generation_lt_of_mem_revivals {key : Arena.Key} (listed : v ∈ revivals objects entries)
    (made : v.target = some (.dynamic key)) : objects.generation < key.generation := by
  induction entries generalizing objects with
  | nil => cases listed
  | cons s rest hyp =>
    rcases List.mem_cons.mp listed with rfl | later
    · rw [(reviveTarget_eq_dynamic made).1]
      exact Nat.lt_succ_self _
    · exact Nat.lt_of_le_of_lt (generation_le_reviveTarget objects s.target) (hyp later)

theorem forall_revivals_static {e : Entity} {type : ScriptType} :
    (∀ v ∈ revivals objects entries, ¬ v.Serves (.static e, type)) ↔
      ∀ l ∈ entries, l.target = .static e → l.type ≠ type := by
  induction entries generalizing objects with
  | nil => simp [revivals]
  | cons s rest hyp =>
    have own : (reviveTarget objects s.target).1 = some (.static e) ↔ s.target = .static e := by
      constructor
      · exact reviveTarget_eq_static
      · intro same
        rw [same]
        rfl
    rw [revivals, List.forall_mem_cons, List.forall_mem_cons, hyp]
    refine and_congr_left fun _ => ?_
    simp only [Revived.Serves, own, not_and, ne_eq]

theorem agrees_revivals (objects : Arena DynamicObject) :
    Agrees (revivals objects entries) ↔ Untangled entries := by
  induction entries generalizing objects with
  | nil => simp [revivals, Agrees, handleIn, entryIn, Untangled]
  | cons s rest hyp =>
    rw [revivals, agrees_cons, hyp, Untangled]
    refine and_congr_left fun _ => ?_
    simp only [entryIn_eq_none_iff, handleIn_eq_none_iff, forall_revivals_handle]
    cases saved : s.target with
    | static e => simp [reviveTarget, forall_revivals_static]
    | dynamic o =>
      -- no entry behind stands for the object
      have fresh : ∀ v ∈ revivals (objects.insert o).2 rest,
          ¬ v.Serves (.dynamic (objects.insert o).1, s.type) := by
        intro v listed serves
        have newer := generation_lt_of_mem_revivals listed serves.1
        rw [Arena.insert_generation, Arena.generation_insert] at newer
        exact Nat.lt_irrefl _ newer
      simp only [reviveTarget, Option.some.injEq, forall_eq', iff_true_right fresh]
    | released => simp [reviveTarget]

/-- What a table is saved as when no handle and no entity is in it twice. -/
theorem Unambiguous.untangled (unambiguous : Unambiguous entries) : Untangled entries := by
  induction entries with
  | nil => trivial
  | cons s rest hyp =>
    obtain ⟨differs, handles⟩ := List.pairwise_cons.mp unambiguous.handles
    obtain ⟨other, entities⟩ := List.pairwise_cons.mp unambiguous.entities
    have free : ∀ l ∈ rest, l.handle ≠ s.handle := fun l listed => (differs l listed).symm
    refine ⟨?_, hyp ⟨handles, entities⟩⟩
    cases own : s.target with
    | static e => exact iff_of_true free fun l listed same => (other l listed e own same).symm
    | dynamic o => exact free
    | released => trivial

/-! ## Restored tables -/

theorem entries_reviveAll_eq (r : Registry) (objects : Arena DynamicObject)
    (entries : List SavedEntry) (handle : Handle) :
    (entries.foldl (fun (r, objects) saved => r.revive objects saved)
      (r, objects)).1.entries[handle]? =
        (entryIn (revivals objects entries) handle).or r.entries[handle]? := by
  induction entries generalizing r objects with
  | nil => rfl
  | cons s rest hyp =>
    refine (hyp (r.revive objects s).1 (r.revive objects s).2).trans ?_
    rw [entries_revive, revivals, entryIn, Option.or_assoc]
    refine congrArg _ ?_
    by_cases same : s.handle = handle
    · rw [if_pos same, if_pos same, Option.some_or]
    · rw [if_neg same, if_neg same, Option.none_or]

theorem handleFor_reviveAll_eq (r : Registry) (objects : Arena DynamicObject)
    (entries : List SavedEntry) (target : Target) (type : ScriptType) :
    (entries.foldl (fun (r, objects) saved => r.revive objects saved)
      (r, objects)).1.handleFor target type =
        (handleIn (revivals objects entries) (target, type)).or (r.handleFor target type) := by
  induction entries generalizing r objects with
  | nil => rfl
  | cons s rest hyp =>
    refine (hyp (r.revive objects s).1 (r.revive objects s).2).trans ?_
    rw [handleFor_revive, revivals, handleIn, Option.or_assoc]
    refine congrArg _ ?_
    by_cases serves : (⟨s, (reviveTarget objects s.target).1⟩ : Revived).Serves (target, type)
    · rw [if_pos serves, if_pos ⟨serves.1, serves.2.symm⟩, Option.some_or]
    · rw [if_neg serves, if_neg fun own => serves ⟨own.1, own.2.symm⟩, Option.none_or]

/-- The row that a save is restored as. -/
def restoredRow (r : Registry) (objects : Arena DynamicObject) (s : Snapshot) : List Revived :=
  revivals (r.disposeAll objects) s.entries

variable {s : Snapshot}

theorem entries_restore_eq (r : Registry) (objects : Arena DynamicObject) (s : Snapshot)
    (handle : Handle) :
    (r.restored objects s).1.entries[handle]? = entryIn (r.restoredRow objects s) handle := by
  refine (entries_reviveAll_eq { r with entries := ∅, byTarget := [] } _ s.entries handle).trans ?_
  simp [restoredRow]

theorem handleFor_restore_eq (r : Registry) (objects : Arena DynamicObject) (s : Snapshot)
    (target : Target) (type : ScriptType) :
    (r.restored objects s).1.handleFor target type =
      handleIn (r.restoredRow objects s) (target, type) := by
  refine (handleFor_reviveAll_eq { r with entries := ∅, byTarget := [] } _ s.entries target
    type).trans ?_
  simp [restoredRow, handleFor]

theorem exists_entries_restore_iff (r : Registry) (objects : Arena DynamicObject)
    {handle : Handle} :
    (∃ e, (r.restored objects s).1.entries[handle]? = some e) ↔
      ∃ l ∈ s.entries, l.handle = handle := by
  rw [entries_restore_eq, ← Option.ne_none_iff_exists', ne_eq, entryIn_eq_none_iff, restoredRow,
    forall_revivals_handle]
  simp only [not_forall, ne_eq, not_not, exists_prop]

theorem handleFor_restore_iff (r : Registry) (objects : Arena DynamicObject) :
    (∀ target type handle, (r.restored objects s).1.handleFor target type = some handle ↔
      ∃ references,
        (r.restored objects s).1.entries[handle]? = some ⟨type, some target, references⟩) ↔
    Untangled s.entries := by
  rw [← agrees_revivals (r.disposeAll objects)]
  simp only [entries_restore_eq, handleFor_restore_eq]
  exact ⟨fun each pair => each pair.1 pair.2, fun agrees target type => agrees (target, type)⟩

theorem coherent_restore_of_untangled (r : Registry) (objects : Arena DynamicObject)
    (untangled : Untangled s.entries) : (r.restored objects s).1.Coherent :=
  ⟨fun {target type handle} => (handleFor_restore_iff r objects).mpr untangled target type handle,
    lt_nextHandle_restore⟩

/-- What is restored keeps to its bits if the save does. -/
theorem bounded_restore {table : Registry × Arena DynamicObject}
    (nextHandle : s.nextHandle ≤ maxHandle)
    (references : ∀ l ∈ s.entries, l.references ≤ maxReferences)
    (made : r.restore objects s = .ok table) : table.1.Bounded := by
  obtain ⟨low, rfl⟩ := restore_eq_ok made
  refine ⟨Int.max_le.mpr ⟨nextHandle, Int.add_one_le_of_lt low⟩, ?_⟩
  intro handle e there
  rw [entries_restore_eq] at there
  obtain ⟨v, listed, same⟩ := exists_of_entryIn there
  have saved : v.saved ∈ s.entries := by
    rw [← map_saved_revivals (r.disposeAll objects) s.entries]
    exact List.mem_map_of_mem listed
  exact same ▸ references v.saved saved

/-- What is restored from an unambiguous snapshot is coherent, whatever was there before. -/
theorem coherent_restore (r : Registry) (objects : Arena DynamicObject) {s : Snapshot}
    (unambiguous : Unambiguous s.entries) : (r.restored objects s).1.Coherent :=
  coherent_restore_of_untangled r objects unambiguous.untangled

end Adventure.Registry
