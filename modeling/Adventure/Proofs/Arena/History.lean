import Adventure.Proofs.Arena
import Adventure.Proofs.Run

/-! # What arenas remember

Items are stored, replaced and removed in any order. A key finds an item from the insertion that
has handed it out until it is removed, and what it finds is what has been stored under it last. No
key is ever handed out twice.

* `Tight` — arenas all of whose empty slots are free.
* `Use`, `use`, `after` — what is done to an arena, and what has become of it after some steps.
* `Issues`, `Ends`, `Stores` — what a step does to a key.
* `Lives` — keys that have been handed out and are still good.
* `remembers` — what an arena says after any steps, by what the steps were.
-/

namespace Adventure.Arena

variable {α : Type} {a : Arena α} {key other : Key} {item : α}

/-! ## Clearing -/

theorem get?_clear (a : Arena α) (key : Key) : a.clear.get? key = none := by
  simp only [get?, clear, List.getElem?_map]
  cases a.slots[key.index]? with
  | none => rfl
  | some slot => exact ite_self none

theorem mem_free_clear {i : Nat} : i ∈ a.clear.free ↔
    (∃ key item, a.get? key = some item ∧ key.index = i) ∨ i ∈ a.free := by
  simp only [clear, List.mem_append, List.mem_reverse, List.mem_map, Prod.exists, mem_toList]

theorem Sound.clear (sound : a.Sound) : a.clear.Sound where
  free_empty := by
    intro i member
    simp only [Arena.clear, List.getElem?_map]
    rcases mem_free_clear.mp member with ⟨key, item, found, rfl⟩ | free
    · exact ⟨key.generation, by rw [get?_eq_some_iff.mp found]; rfl⟩
    · obtain ⟨generation, empty⟩ := sound.free_empty i free
      exact ⟨generation, by rw [empty]; rfl⟩
  free_nodup := by
    refine List.Nodup.append ?_ sound.free_nodup ?_
    · rw [List.nodup_reverse]
      exact List.pairwise_map.mpr (a.toList_ascending.imp Nat.ne_of_lt)
    · intro i taken free
      obtain ⟨⟨key, item⟩, listed, rfl⟩ := List.mem_map.mp (List.mem_reverse.mp taken)
      obtain ⟨generation, empty⟩ := sound.free_empty _ free
      rw [get?_eq_some_iff.mp (mem_toList.mp listed)] at empty
      cases empty
  generation_le := by
    intro slot member
    obtain ⟨old, listed, rfl⟩ := List.mem_map.mp member
    exact sound.generation_le old listed
  size_eq := by simp [Arena.clear, List.countP_map, Function.comp_def]

/-! ## Free slots -/

/-- All empty slots are free, so that none is lost. -/
structure Tight (a : Arena α) : Prop extends Sound a where
  empty_free : ∀ i generation, a.slots[i]? = some ⟨generation, none⟩ → i ∈ a.free

theorem tight_empty : (∅ : Arena α).Tight where
  toSound := sound_empty
  empty_free _ _ empty := by cases empty

theorem Tight.insert (tight : a.Tight) (item : α) : (a.insert item).2.Tight where
  toSound := tight.toSound.insert item
  empty_free := by
    intro i generation empty
    unfold Arena.insert at empty ⊢
    cases free : a.free with
    | nil =>
      simp only [free, List.getElem?_append] at empty
      split at empty
      · have listed := tight.empty_free i generation empty
        rwa [free] at listed
      · obtain ⟨low, same⟩ := List.getElem?_eq_some_iff.mp empty
        rw [List.getElem_singleton] at same
        cases same
    | cons first rest =>
      simp only [free, List.getElem?_set] at empty ⊢
      split at empty
      · split at empty <;> cases empty
      · next apart =>
        have listed := tight.empty_free i generation empty
        rw [free] at listed
        exact (List.mem_cons.mp listed).resolve_left (Ne.symm apart)

theorem Tight.set (tight : a.Tight) (key : Key) (item : α) : (a.set key item).Tight := by
  by_cases there : a.contains key
  · refine { toSound := tight.toSound.set key item, empty_free := fun i generation empty => ?_ }
    rw [Arena.set, if_pos there] at empty ⊢
    simp only [List.getElem?_set] at empty
    split at empty
    · split at empty <;> cases empty
    · exact tight.empty_free i generation empty
  · rwa [Arena.set, if_neg there]

theorem Tight.erase (tight : a.Tight) (key : Key) : (a.erase key).Tight := by
  by_cases there : a.contains key
  · refine { toSound := tight.toSound.erase key, empty_free := fun i generation empty => ?_ }
    rw [Arena.erase, if_pos there] at empty ⊢
    simp only [List.getElem?_set] at empty
    split at empty
    · next same => exact same ▸ List.mem_cons_self
    · exact List.mem_cons_of_mem _ (tight.empty_free i generation empty)
  · rwa [Arena.erase, if_neg there]

theorem Tight.clear (tight : a.Tight) : a.clear.Tight where
  toSound := tight.toSound.clear
  empty_free := by
    intro i generation empty
    simp only [Arena.clear, List.getElem?_map] at empty
    obtain ⟨⟨old, stored⟩, there, same⟩ := Option.map_eq_some_iff.mp empty
    rw [mem_free_clear]
    cases stored with
    | none => exact .inr (tight.empty_free i old there)
    | some item => exact .inl ⟨⟨i, old⟩, item, get?_eq_some_iff.mpr there, rfl⟩

/-! ## Uses -/

theorem take_eq (a : Arena α) (key : Key) : a.take key = (a.get? key, a.erase key) := by
  unfold take erase contains
  cases a.get? key with
  | none => rfl
  | some item => rfl

/-- What is done to an arena. -/
inductive Use (α : Type) where
  | insert (item : α)
  | set (key : Key) (item : α)
  | take (key : Key)
  | clear

def use (a : Arena α) : Use α → Arena α
  | .insert item => (a.insert item).2
  | .set key item => a.set key item
  | .take key => (a.take key).2
  | .clear => a.clear

theorem Tight.use (tight : a.Tight) (u : Use α) : (a.use u).Tight := by
  cases u with
  | insert item => exact tight.insert item
  | set key item => exact tight.set key item
  | take key =>
    rw [Arena.use, take_eq]
    exact tight.erase key
  | clear => exact tight.clear

theorem generation_le_use (a : Arena α) (u : Use α) : a.generation ≤ (a.use u).generation := by
  cases u with
  | insert item =>
    rw [use, generation_insert]
    exact Nat.le_succ _
  | set key item => rw [use, generation_set]
  | take key => rw [use, take_eq, generation_erase]
  | clear => exact Nat.le_refl _

/-- The arena after the first `n` of some uses, from the empty one on. -/
def after (uses : List (Use α)) (n : Nat) : Arena α := (uses.take n).foldl use ∅

variable {uses : List (Use α)} {u : Use α} {n m : Nat}

theorem after_succ (here : uses[n]? = some u) : after uses (n + 1) = (after uses n).use u :=
  foldl_take_succ here

theorem after_succ_of_none (ended : uses[n]? = none) : after uses (n + 1) = after uses n :=
  foldl_take_succ_of_none ended

theorem tight_after (uses : List (Use α)) (n : Nat) : (after uses n).Tight := by
  unfold after
  generalize uses.take n = steps
  suffices ∀ a : Arena α, a.Tight → (steps.foldl Arena.use a).Tight from this ∅ tight_empty
  induction steps with
  | nil => exact fun a tight => tight
  | cons u rest hyp => exact fun a tight => hyp _ (tight.use u)

theorem generation_after_le (order : n ≤ m) :
    (after uses n).generation ≤ (after uses m).generation :=
  foldl_take_rel (R := fun a b : Arena α => a.generation ≤ b.generation) (fun _ => Nat.le_refl _)
    Nat.le_trans (fun _ u => generation_le_use _ u) order

/-! ## What steps do to keys -/

/-- Whether step `n` hands out `key`. -/
def Issues (uses : List (Use α)) (n : Nat) (key : Key) : Prop :=
  ∃ item, uses[n]? = some (.insert item) ∧ ((after uses n).insert item).1 = key

/-- Whether step `n` removes what is under `key`, or everything. -/
def Ends (uses : List (Use α)) (n : Nat) (key : Key) : Prop :=
  uses[n]? = some (.take key) ∨ uses[n]? = some .clear

/-- Whether step `n` stores `item` under `key`, as a new one or in place of another. -/
def Stores (uses : List (Use α)) (n : Nat) (key : Key) (item : α) : Prop :=
  uses[n]? = some (.insert item) ∧ Issues uses n key ∨ uses[n]? = some (.set key item)

/-- Whether `key` has been handed out in the first `n` steps, and has been neither removed nor
cleared since. -/
def Lives (uses : List (Use α)) (n : Nat) (key : Key) : Prop :=
  ∃ m < n, Issues uses m key ∧ ∀ j, m < j → j < n → ¬ Ends uses j key

/-- Whether `item` is what the first `n` steps have stored under `key` last. -/
def LastStored (uses : List (Use α)) (n : Nat) (key : Key) (item : α) : Prop :=
  ∃ m < n, Stores uses m key item ∧ ∀ j, m < j → j < n → ∀ other, ¬ Stores uses j key other

/-- The generations of keys that have been handed out are not ahead. -/
theorem Issues.generation_le (issues : Issues uses m key) (before : m < n) :
    key.generation ≤ (after uses n).generation := by
  obtain ⟨item, here, rfl⟩ := issues
  have grown : (after uses (m + 1)).generation ≤ (after uses n).generation :=
    generation_after_le before
  rwa [after_succ here, use, generation_insert, ← insert_generation _ item] at grown

theorem Stores.unique {item' : α} (first : Stores uses n key item)
    (second : Stores uses n key item') : item = item' := by
  rcases first with ⟨here, -⟩ | here <;> rcases second with ⟨there, -⟩ | there <;>
    rw [here] at there <;> cases there <;> rfl

theorem LastStored.unique {item' : α} (first : LastStored uses n key item)
    (second : LastStored uses n key item') : item = item' := by
  obtain ⟨i, before, stores, last⟩ := first
  obtain ⟨j, before', stores', last'⟩ := second
  rcases Nat.lt_trichotomy i j with earlier | rfl | later
  · exact absurd stores' (last j earlier before' item')
  · exact stores.unique stores'
  · exact absurd stores (last' i later before item)

/-! ## What keys find -/

/-- All that a step does to what a key finds: it stores an item under a key that is handed out or
good already, or it leaves the key alone. -/
theorem get?_after_succ (uses : List (Use α)) (key : Key) (item : α) (n : Nat) :
    (after uses (n + 1)).get? key = some item ↔
      Stores uses n key item ∧ (Issues uses n key ∨ (after uses n).contains key) ∨
      (after uses n).get? key = some item ∧
        ¬ (Ends uses n key ∨ ∃ other, Stores uses n key other) := by
  have sound := (tight_after uses n).toSound
  cases here : uses[n]? with
  | none => simp [after_succ_of_none here, Stores, Ends, here]
  | some u =>
    rw [after_succ here]
    cases u with
    | insert new =>
      have issues : Issues uses n key ↔ key = ((after uses n).insert new).1 := by
        simp [Issues, here, eq_comm]
      simp only [use, sound.get?_insert, Ends, Stores, issues, here]
      split
      · next same => simp [same]
      · next apart => simp [apart]
    | set other new =>
      by_cases there : (after uses n).contains other
      · simp only [use, get?_set there, Issues, Ends, Stores, here]
        split
        · next same => simp [same, there]
        · next apart => simp [Ne.symm apart]
      · simp only [use, set, there, Issues, Ends, Stores, here]
        by_cases same : key = other
        · subst same
          have none : (after uses n).get? key = none := by simpa [contains] using there
          simp [there, none]
        · simp [Ne.symm same]
    | take other =>
      simp only [use, take_eq, get?_erase, Issues, Ends, Stores, here]
      split
      · next same => simp [same]
      · next apart => simp [Ne.symm apart]
    | clear => simp [use, get?_clear, Issues, Ends, Stores, here]

theorem Stores.not_ends (stores : Stores uses n key item) : ¬ Ends uses n other := by
  rintro (taken | cleared)
  · rcases stores with ⟨here, -⟩ | here <;> rw [taken] at here <;> cases here
  · rcases stores with ⟨here, -⟩ | here <;> rw [cleared] at here <;> cases here

theorem contains_after_succ (uses : List (Use α)) (key : Key) (n : Nat) :
    (after uses (n + 1)).contains key ↔
      Issues uses n key ∨ (after uses n).contains key ∧ ¬ Ends uses n key := by
  simp only [contains_iff (a := after uses (n + 1)), get?_after_succ]
  constructor
  · rintro ⟨item, ⟨stores, issues | good⟩ | ⟨found, still⟩⟩
    · exact .inl issues
    · exact .inr ⟨good, stores.not_ends⟩
    · exact .inr ⟨contains_iff.mpr ⟨item, found⟩, fun ends => still (.inl ends)⟩
  · rintro (issues | ⟨good, still⟩)
    · obtain ⟨item, here⟩ := issues
      exact ⟨item, .inl ⟨.inl ⟨here.1, item, here⟩, .inl ⟨item, here⟩⟩⟩
    · by_cases stores : ∃ item, Stores uses n key item
      · obtain ⟨item, stores⟩ := stores
        exact ⟨item, .inl ⟨stores, .inr good⟩⟩
      · obtain ⟨item, found⟩ := contains_iff.mp good
        exact ⟨item, .inr ⟨found, not_or.mpr ⟨still, stores⟩⟩⟩

theorem contains_after_iff (uses : List (Use α)) (n : Nat) (key : Key) :
    (after uses n).contains key ↔ Lives uses n key :=
  holds_iff_last (P := fun n => (after uses n).contains key) Bool.false_ne_true
    (contains_after_succ uses key) n

/-- What a key finds has been stored under it, and nothing since. -/
theorem lastStored_of_get? (found : (after uses n).get? key = some item) :
    LastStored uses n key item := by
  obtain ⟨m, before, ⟨stores, -⟩, kept⟩ :=
    (holds_iff_last (P := fun n => (after uses n).get? key = some item) nofun
      (get?_after_succ uses key item) n).mp found
  exact ⟨m, before, stores, fun j later early other also => kept j later early (.inr ⟨other, also⟩)⟩

theorem get?_after_iff (uses : List (Use α)) (n : Nat) (key : Key) (item : α) :
    (after uses n).get? key = some item ↔ Lives uses n key ∧ LastStored uses n key item := by
  constructor
  · intro found
    exact ⟨(contains_after_iff uses n key).mp (contains_iff.mpr ⟨item, found⟩),
      lastStored_of_get? found⟩
  · rintro ⟨lives, last⟩
    obtain ⟨item', found⟩ := contains_iff.mp ((contains_after_iff uses n key).mpr lives)
    rw [found, last.unique (lastStored_of_get? found)]

/-! ## All keys -/

/-- What an arena remembers of the first `n` steps. -/
structure Remembers (uses : List (Use α)) (n : Nat) : Prop where
  get? : ∀ key item,
    (after uses n).get? key = some item ↔ Lives uses n key ∧ LastStored uses n key item
  contains : ∀ key, (after uses n).contains key ↔ Lives uses n key
  /-- A key that is handed out next has not been handed out before. -/
  new : ∀ item, ∀ m < n, ¬ Issues uses m ((after uses n).insert item).1
  /-- What is removed is what was found, and no other key finds anything else. -/
  take : ∀ key, ((after uses n).take key).1 = (after uses n).get? key ∧
    ∀ other, ((after uses n).take key).2.get? other =
      if other = key then none else (after uses n).get? other
  size : {key | Lives uses n key}.encard = (after uses n).size
  /-- Each key that is good is listed once, with its item, and so are no others. -/
  ascending : (after uses n).toList.Pairwise fun p q => p.1.index < q.1.index
  listed : ∀ key item, (key, item) ∈ (after uses n).toList ↔ (after uses n).get? key = some item
  free : ∀ i, i ∈ (after uses n).free ↔
    ∃ generation, (after uses n).slots[i]? = some ⟨generation, none⟩
  free_once : (after uses n).free.Nodup

/-- An arena is a map whose keys are never used again. -/
theorem remembers (uses : List (Use α)) (n : Nat) : Remembers uses n := by
  have tight := tight_after uses n
  exact {
    get? := get?_after_iff uses n
    contains := contains_after_iff uses n
    new := by
      intro item m before issues
      have old := issues.generation_le before
      rw [insert_generation] at old
      exact absurd old (Nat.not_succ_le_self _)
    take := by
      intro key
      rw [take_eq]
      exact ⟨rfl, get?_erase _ key⟩
    size := by
      simp only [← contains_after_iff]
      exact tight.encard_contains
    ascending := toList_ascending _
    listed _ _ := mem_toList
    free i := ⟨tight.free_empty i, fun ⟨generation, empty⟩ => tight.empty_free i generation empty⟩
    free_once := tight.free_nodup }

/-- A slot that is filled again is not found under the key that it had. -/
example :
    let a := after [.insert "surface", .take ⟨0, 1⟩, .insert "overlay"] 3
    a.get? ⟨0, 1⟩ = none ∧ a.get? ⟨0, 2⟩ = some "overlay" := by decide

end Adventure.Arena
