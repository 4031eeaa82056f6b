import Mathlib.Data.Set.Card
import Adventure.Arena
import Adventure.Proofs.InPlace

/-! # What arenas find under their keys

An arena is `Sound` when its list of free slots and its count of items tell the truth. Then every
operation is told by what `get?` finds afterwards: an insertion adds one key that was never found
before, a removal takes one key away, a replacement gives one key another item, and all other keys
find what they found.
-/

namespace Adventure.Arena

variable {α : Type} {a : Arena α}

/-- The free slots are there and empty, no generation is ahead of the counter, and the count is that
of the items. -/
structure Sound (a : Arena α) : Prop where
  free_empty : ∀ i ∈ a.free, ∃ generation, a.slots[i]? = some ⟨generation, none⟩
  free_nodup : a.free.Nodup
  generation_le : ∀ slot ∈ a.slots, slot.generation ≤ a.generation
  size_eq : a.size = a.slots.countP (·.item.isSome)

/-! ## Finding -/

theorem get?_eq_some_iff {key : Key} {item : α} :
    a.get? key = some item ↔ a.slots[key.index]? = some ⟨key.generation, some item⟩ := by
  unfold get?
  cases found : a.slots[key.index]? with
  | none => simp
  | some slot =>
    obtain ⟨generation, stored⟩ := slot
    by_cases same : generation = key.generation
    · simp [same]
    · simp [same]

theorem contains_iff {key : Key} : a.contains key ↔ ∃ item, a.get? key = some item :=
  Option.isSome_iff_exists

theorem get?_empty (key : Key) : (∅ : Arena α).get? key = none := rfl

theorem sound_empty : (∅ : Arena α).Sound where
  free_empty _ member := by cases member
  free_nodup := List.nodup_nil
  generation_le _ member := by cases member
  size_eq := rfl

theorem Sound.get?_eq_none_of_lt (sound : a.Sound) {key : Key}
    (ahead : a.generation < key.generation) : a.get? key = none := by
  cases found : a.get? key with
  | none => rfl
  | some item =>
    have slot := get?_eq_some_iff.mp found
    have bound := sound.generation_le _ (List.mem_of_getElem? slot)
    exact absurd bound (by simp only; omega)

/-! ## Insertion -/

theorem insert_generation (a : Arena α) (item : α) :
    (a.insert item).1.generation = a.generation + 1 := by
  unfold insert
  cases a.free with
  | nil => rfl
  | cons index free => rfl

theorem generation_insert (a : Arena α) (item : α) :
    (a.insert item).2.generation = a.generation + 1 := by
  unfold insert
  cases a.free with
  | nil => rfl
  | cons index free => rfl

theorem Sound.get?_insert_key (sound : a.Sound) (item : α) : a.get? (a.insert item).1 = none :=
  sound.get?_eq_none_of_lt (by rw [insert_generation]; omega)

/-- The new key finds the new item, and all others find what they found. -/
theorem Sound.get?_insert (sound : a.Sound) (item : α) (key : Key) :
    (a.insert item).2.get? key = if key = (a.insert item).1 then some item else a.get? key := by
  obtain ⟨index, generation⟩ := key
  unfold insert
  -- a new slot is added behind the others, or the first free slot is used again
  cases free : a.free with
  | nil =>
    by_cases new : index = a.slots.length
    · subst new
      simp [get?, eq_comm]
    · have kept : (a.slots ++ [⟨a.generation + 1, some item⟩])[index]? = a.slots[index]? := by
        by_cases low : index < a.slots.length
        · exact List.getElem?_append_left low
        · rw [List.getElem?_eq_none (by simp; omega), List.getElem?_eq_none (by omega)]
      simp [get?, new, kept]
  | cons first rest =>
    obtain ⟨old, slot⟩ := sound.free_empty first (by simp [free])
    obtain ⟨there, slotAt⟩ := List.getElem?_eq_some_iff.mp slot
    by_cases new : index = first
    · subst new
      simp [get?, slotAt, there, eq_comm]
    · simp [get?, new, List.getElem?_set_ne (Ne.symm new)]

/-- An insertion gives no key but the new one anything to find. -/
theorem get?_insert_cases {item found : α} {key : Key}
    (there : (a.insert item).2.get? key = some found) :
    key = (a.insert item).1 ∨ a.get? key = some found := by
  obtain ⟨index, generation⟩ := key
  rw [get?_eq_some_iff] at there ⊢
  unfold insert at there ⊢
  cases free : a.free with
  | nil =>
    simp only [free, List.getElem?_append] at there ⊢
    split at there
    · exact .inr there
    · obtain ⟨low, same⟩ := List.getElem?_eq_some_iff.mp there
      rw [List.length_singleton, Nat.lt_one_iff] at low
      simp only [low, List.getElem_cons_zero, Slot.mk.injEq] at same
      exact .inl (by rw [Key.mk.injEq]; exact ⟨by omega, same.1.symm⟩)
  | cons first rest =>
    simp only [free, List.getElem?_set] at there ⊢
    split at there
    · next same =>
      split at there
      · simp only [Option.some.injEq, Slot.mk.injEq] at there
        exact .inl (by rw [Key.mk.injEq]; exact ⟨same.symm, there.1.symm⟩)
      · cases there
    · exact .inr there

theorem Sound.insert (sound : a.Sound) (item : α) : (a.insert item).2.Sound := by
  have newest : ∀ slot ∈ a.slots, slot.generation ≤ a.generation + 1 := by
    intro slot member
    have := sound.generation_le slot member
    omega
  unfold Arena.insert
  cases free : a.free with
  | nil =>
    exact {
      free_empty := by simp
      free_nodup := List.nodup_nil
      generation_le := by
        intro slot member
        rcases List.mem_append.mp member with old | new
        · exact newest slot old
        · obtain rfl := List.mem_singleton.mp new
          exact Nat.le_refl _
      size_eq := by simp [sound.size_eq] }
  | cons first rest =>
    have distinct := sound.free_nodup
    rw [free, List.nodup_cons] at distinct
    obtain ⟨old, slot⟩ := sound.free_empty first (by simp [free])
    obtain ⟨there, slotAt⟩ := List.getElem?_eq_some_iff.mp slot
    exact {
      free_empty := by
        intro i member
        have other : first ≠ i := fun same => distinct.1 (same ▸ member)
        obtain ⟨generation, empty⟩ := sound.free_empty i (by simp [free, member])
        exact ⟨generation, by simpa [List.getElem?_set_ne other] using empty⟩
      free_nodup := distinct.2
      generation_le := by
        intro slot member
        rcases List.mem_or_eq_of_mem_set member with old | rfl
        · exact newest slot old
        · exact Nat.le_refl _
      size_eq := by
        simp only [sound.size_eq]
        rw [List.countP_set there, slotAt]
        simp }

theorem size_insert (a : Arena α) (item : α) : (a.insert item).2.size = a.size + 1 := by
  unfold insert
  cases a.free with
  | nil => rfl
  | cons index free => rfl

/-! ## Removal -/

/-- The key of a removed item finds nothing, and all others find what they found. -/
theorem get?_erase (a : Arena α) (key other : Key) :
    (a.erase key).get? other = if other = key then none else a.get? other := by
  unfold erase
  split
  · next there =>
    obtain ⟨item, found⟩ := contains_iff.mp there
    have slot := get?_eq_some_iff.mp found
    obtain ⟨low, slotAt⟩ := List.getElem?_eq_some_iff.mp slot
    obtain ⟨index, generation⟩ := key
    obtain ⟨otherIndex, otherGeneration⟩ := other
    by_cases same : otherIndex = index
    · subst same
      simp only at slotAt low
      by_cases current : otherGeneration = generation
      · simp [get?, low, current]
      · simp [get?, low, slotAt, current, Ne.symm current]
    · simp [get?, same, List.getElem?_set_ne (Ne.symm same)]
  · next absent =>
    -- what is not there is not taken away, and is not found either
    split
    · next same =>
      subst same
      simpa [contains] using absent
    · rfl

theorem Sound.erase (sound : a.Sound) (key : Key) : (a.erase key).Sound := by
  unfold Arena.erase
  split
  · next there =>
    obtain ⟨item, found⟩ := contains_iff.mp there
    have slot := get?_eq_some_iff.mp found
    obtain ⟨low, slotAt⟩ := List.getElem?_eq_some_iff.mp slot
    -- the slot of an item is not free, so that it is listed as free once afterwards
    have taken : key.index ∉ a.free := by
      intro free
      obtain ⟨generation, empty⟩ := sound.free_empty _ free
      rw [slot] at empty
      cases empty
    exact {
      free_empty := by
        intro i member
        by_cases same : i = key.index
        · exact ⟨key.generation, by simp [same, low]⟩
        · obtain ⟨generation, empty⟩ :=
            sound.free_empty i ((List.mem_cons.mp member).resolve_left same)
          exact ⟨generation, by simpa [List.getElem?_set_ne (Ne.symm same)] using empty⟩
      free_nodup := List.nodup_cons.mpr ⟨taken, sound.free_nodup⟩
      generation_le := by
        intro other member
        rcases List.mem_or_eq_of_mem_set member with old | rfl
        · exact sound.generation_le other old
        · exact sound.generation_le ⟨key.generation, some item⟩ (List.mem_of_getElem? slot)
      size_eq := by
        simp only [sound.size_eq]
        rw [List.countP_set low, slotAt]
        simp }
  · exact sound

theorem generation_erase (a : Arena α) (key : Key) : (a.erase key).generation = a.generation := by
  unfold erase
  split <;> rfl

/-! ## Replacement -/

/-- The key of a replaced item finds the new one, and all others find what they found. -/
theorem get?_set {key : Key} (there : a.contains key) (item : α) (other : Key) :
    (a.set key item).get? other = if other = key then some item else a.get? other := by
  obtain ⟨old, found⟩ := contains_iff.mp there
  have slot := get?_eq_some_iff.mp found
  obtain ⟨low, slotAt⟩ := List.getElem?_eq_some_iff.mp slot
  obtain ⟨index, generation⟩ := key
  obtain ⟨otherIndex, otherGeneration⟩ := other
  simp only [set, there, if_true]
  by_cases same : otherIndex = index
  · subst same
    simp only at slotAt low
    by_cases current : otherGeneration = generation
    · simp [get?, low, current]
    · simp [get?, low, slotAt, current, Ne.symm current]
  · simp [get?, same, List.getElem?_set_ne (Ne.symm same)]

theorem set_get? {key : Key} {item : α} (found : a.get? key = some item) :
    a.set key item = a := by
  rw [set, if_pos (contains_iff.mpr ⟨item, found⟩),
    InPlace.set_of_getElem? (get?_eq_some_iff.mp found)]

theorem Sound.set (sound : a.Sound) (key : Key) (item : α) : (a.set key item).Sound := by
  unfold Arena.set
  split
  · next there =>
    obtain ⟨old, found⟩ := contains_iff.mp there
    have slot := get?_eq_some_iff.mp found
    obtain ⟨low, slotAt⟩ := List.getElem?_eq_some_iff.mp slot
    exact {
      free_empty := by
        intro i free
        obtain ⟨generation, empty⟩ := sound.free_empty i free
        -- the slot of an item is not free
        have other : key.index ≠ i := by
          rintro rfl
          rw [slot] at empty
          cases empty
        exact ⟨generation, by simpa [List.getElem?_set_ne other] using empty⟩
      free_nodup := sound.free_nodup
      generation_le := by
        intro other member
        rcases List.mem_or_eq_of_mem_set member with known | rfl
        · exact sound.generation_le other known
        · exact sound.generation_le ⟨key.generation, some old⟩ (List.mem_of_getElem? slot)
      size_eq := by
        simp only [sound.size_eq]
        rw [List.countP_set low, slotAt]
        have counted : 0 < a.slots.countP (·.item.isSome) :=
          List.countP_pos_iff.mpr ⟨_, List.mem_of_getElem? slot, rfl⟩
        simp
        omega }
  · exact sound

theorem generation_set (a : Arena α) (key : Key) (item : α) :
    (a.set key item).generation = a.generation := by
  unfold set
  split <;> rfl

/-! ## Growth -/

/-- Whether `b` has come from `a` by insertions alone: what is new in it has keys that are new. -/
structure Grown (a b : Arena α) : Prop where
  generation_le : a.generation ≤ b.generation
  get?_eq : ∀ {key : Key}, key.generation ≤ a.generation → b.get? key = a.get? key

theorem Grown.refl (a : Arena α) : a.Grown a := ⟨Nat.le_refl _, fun _ => rfl⟩

theorem Grown.trans {b c : Arena α} (first : a.Grown b) (second : b.Grown c) : a.Grown c where
  generation_le := Nat.le_trans first.generation_le second.generation_le
  get?_eq old := (second.get?_eq (Nat.le_trans old first.generation_le)).trans (first.get?_eq old)

theorem Sound.grown_insert (sound : a.Sound) (item : α) : a.Grown (a.insert item).2 where
  generation_le := by rw [generation_insert]; exact Nat.le_succ _
  get?_eq := by
    intro key old
    have other : key ≠ (a.insert item).1 := by
      rintro rfl
      rw [insert_generation] at old
      exact absurd old (Nat.not_succ_le_self _)
    rw [sound.get?_insert, if_neg other]

theorem Sound.generation_le_of_get? (sound : a.Sound) {key : Key} {item : α}
    (found : a.get? key = some item) : key.generation ≤ a.generation := by
  by_contra ahead
  rw [sound.get?_eq_none_of_lt (Nat.lt_of_not_le ahead)] at found
  cases found

theorem Grown.get?_eq_some {b : Arena α} (grown : a.Grown b) (sound : a.Sound) {key : Key}
    {item : α} (found : a.get? key = some item) : b.get? key = some item := by
  rw [grown.get?_eq (sound.generation_le_of_get? found), found]

/-! ## Live keys -/

/-- The keys of the live items, in the order of the slots. -/
def keys (a : Arena α) : List Key := a.toList.map (·.1)

theorem mem_toList {key : Key} {item : α} : (key, item) ∈ a.toList ↔ a.get? key = some item := by
  rw [get?_eq_some_iff]
  simp only [toList, List.mem_filterMap, List.mem_mapIdx, id_eq, exists_eq_right,
    Option.map_eq_some_iff, Prod.mk.injEq]
  constructor
  · rintro ⟨index, low, found, stored, rfl, rfl⟩
    rw [List.getElem?_eq_getElem low, ← stored]
  · intro slot
    obtain ⟨low, slotAt⟩ := List.getElem?_eq_some_iff.mp slot
    exact ⟨key.index, low, item, by simp [slotAt], by simp [slotAt], rfl⟩

theorem mem_keys {key : Key} : key ∈ a.keys ↔ a.contains key := by
  rw [contains_iff, keys, List.mem_map]
  constructor
  · rintro ⟨⟨found, item⟩, member, rfl⟩
    exact ⟨item, mem_toList.mp member⟩
  · rintro ⟨item, found⟩
    exact ⟨(key, item), mem_toList.mpr found, rfl⟩

/-- Items are listed in the order of their slots. -/
theorem toList_ascending (a : Arena α) : a.toList.Pairwise fun p q => p.1.index < q.1.index := by
  rw [toList, List.pairwise_filterMap, List.pairwise_iff_getElem]
  intro i j low high before p here q there
  rw [List.getElem_mapIdx] at here there
  obtain ⟨item, -, rfl⟩ := Option.map_eq_some_iff.mp here
  obtain ⟨other, -, rfl⟩ := Option.map_eq_some_iff.mp there
  exact before

theorem nodup_keys (a : Arena α) : a.keys.Nodup :=
  List.pairwise_map.mpr <| a.toList_ascending.imp fun before same =>
    Nat.ne_of_lt before (congrArg Key.index same)

theorem Sound.length_keys (sound : a.Sound) : a.keys.length = a.size := by
  rw [sound.size_eq, keys, List.length_map, toList, List.length_filterMap_eq_countP,
    List.mapIdx_eq_zipIdx_map, List.countP_map]
  -- whether a slot holds an item does not depend on its number
  have stored : a.slots.countP (fun slot => slot.item.isSome) =
      a.slots.zipIdx.countP ((fun slot => slot.item.isSome) ∘ Prod.fst) := by
    rw [← List.countP_map, List.zipIdx_map_fst]
  rw [stored]
  refine List.countP_congr fun numbered _ => ?_
  simp

/-- As many keys find something as there are items. -/
theorem Sound.encard_contains (sound : a.Sound) : {key | a.contains key}.encard = a.size := by
  have listed : {key | a.contains key} = (a.keys.toFinset : Set Key) := by
    ext key
    simp [mem_keys]
  rw [listed, Set.encard_coe_eq_coe_finsetCard, List.toFinset_card_of_nodup a.nodup_keys,
    sound.length_keys]

theorem Sound.size_erase (sound : a.Sound) {key : Key} (there : a.contains key) :
    (a.erase key).size + 1 = a.size := by
  have some : 0 < a.keys.length := List.length_pos_of_mem (mem_keys.mpr there)
  rw [sound.length_keys] at some
  rw [Arena.erase, if_pos there]
  exact Nat.sub_add_cancel some

end Adventure.Arena
