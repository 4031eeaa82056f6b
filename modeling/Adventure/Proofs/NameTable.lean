import Adventure.NameTable

/-! # Tables and their listings

A table of named things is its set of entries, and is asked by folded names. A map of texts is given
back by binding the pairs of its own listing one after the other.
-/

namespace Adventure

open Std (ExtTreeMap)

/-! ## Entries -/

section Entries

variable {α : Type} {entries : ExtTreeMap String α} {pairs : List (String × α)}

theorem toList_ascending (entries : ExtTreeMap String α) :
    entries.toList.Pairwise fun p q => p.1 < q.1 :=
  entries.ordered_keys_toList.imp fun before => compareOfLessAndEq_eq_lt.mp before

theorem nodup_toList (entries : ExtTreeMap String α) : entries.toList.Nodup :=
  entries.distinct_keys_toList.imp fun different same =>
    different (by rw [same]; exact Std.ReflCmp.compare_self)

theorem pairwise_of_perm (same : pairs.Perm entries.toList) :
    pairs.Pairwise fun p q => p.1 ≠ q.1 := by
  refine same.symm.pairwise (entries.distinct_keys_toList.imp fun differ equal => differ ?_)
    fun differ => Ne.symm differ
  exact Std.LawfulEqCmp.compare_eq_iff_eq.mpr equal

theorem getElem?_ofList_eq_some_iff (distinct : pairs.Pairwise fun p q => p.1 ≠ q.1)
    {key : String} {a : α} : (ExtTreeMap.ofList pairs)[key]? = some a ↔ (key, a) ∈ pairs := by
  have apart : pairs.Pairwise fun p q => ¬ compare p.1 q.1 = .eq :=
    distinct.imp fun differ same => differ (Std.LawfulEqCmp.compare_eq_iff_eq.mp same)
  have entered {b : α} (listed : (key, b) ∈ pairs) : (ExtTreeMap.ofList pairs)[key]? = some b :=
    ExtTreeMap.getElem?_ofList_of_mem Std.ReflCmp.compare_self apart listed
  constructor
  · intro found
    by_cases known : (pairs.map Prod.fst).contains key = true
    · obtain ⟨⟨_, b⟩, listed, rfl⟩ := List.mem_map.mp (List.contains_iff_mem.mp known)
      rw [entered listed, Option.some.injEq] at found
      rwa [← found]
    · rw [ExtTreeMap.getElem?_ofList_of_contains_eq_false ((Bool.not_eq_true _).mp known)]
        at found
      cases found
  · exact entered

/-- Pairs with different keys are the entries of their map. -/
theorem toList_ofList_perm (distinct : pairs.Pairwise fun p q => p.1 ≠ q.1) :
    (ExtTreeMap.ofList pairs).toList.Perm pairs := by
  have nodup : pairs.Nodup := distinct.imp fun differ same => differ (congrArg Prod.fst same)
  rw [List.perm_ext_iff_of_nodup (nodup_toList _) nodup]
  rintro ⟨key, a⟩
  rw [ExtTreeMap.mem_toList_iff_getElem?_eq_some, getElem?_ofList_eq_some_iff distinct]

/-- The entries of a map make it again, in whatever order. -/
theorem ofList_of_perm (same : pairs.Perm entries.toList) : ExtTreeMap.ofList pairs = entries := by
  apply ExtTreeMap.ext_getElem?
  intro key
  apply Option.ext
  intro a
  rw [getElem?_ofList_eq_some_iff (pairwise_of_perm same), same.mem_iff,
    ExtTreeMap.mem_toList_iff_getElem?_eq_some]

end Entries

namespace NameTable

variable {α : Type} {name : α → String}

@[ext] theorem ext {t u : NameTable α name} (entries : t.entries = u.entries) : t = u := by
  cases t
  cases u
  cases entries
  rfl

/-- All spellings of a name find the same thing. -/
theorem get?_congr (t : NameTable α name) {n m : String} (same : Text.fold n = Text.fold m) :
    t.get? n = t.get? m := by
  rw [get?, get?, same]

theorem get?_put (t : NameTable α name) (a : α) (n : String) :
    (t.put a).get? n = if Text.fold (name a) = Text.fold n then some a else t.get? n := by
  simp only [get?, put, ExtTreeMap.getElem?_insert, Std.LawfulEqCmp.compare_eq_iff_eq]

theorem get?_erase (t : NameTable α name) (gone n : String) :
    (t.erase gone).get? n = if Text.fold gone = Text.fold n then none else t.get? n := by
  simp only [get?, erase, ExtTreeMap.getElem?_erase, Std.LawfulEqCmp.compare_eq_iff_eq]

theorem get?_empty (n : String) : (∅ : NameTable α name).get? n = none :=
  ExtTreeMap.getElem?_empty

theorem contains_iff {t : NameTable α name} {n : String} :
    t.contains n ↔ ∃ a, t.get? n = some a :=
  Option.isSome_iff_exists

theorem get?_eq_some_iff {t : NameTable α name} {n : String} {a : α} :
    t.get? n = some a ↔ a ∈ t.toList ∧ Text.fold (name a) = Text.fold n := by
  rw [get?, toList, List.mem_map]
  constructor
  · exact fun found =>
      ⟨⟨(_, a), ExtTreeMap.mem_toList_iff_getElem?_eq_some.mpr found, rfl⟩, t.named _ a found⟩
  · rintro ⟨⟨⟨key, _⟩, listed, rfl⟩, same⟩
    have found := ExtTreeMap.mem_toList_iff_getElem?_eq_some.mp listed
    rwa [← same, t.named key _ found]

theorem get?_eq_none_iff {t : NameTable α name} {n : String} :
    t.get? n = none ↔ ∀ a ∈ t.toList, Text.fold (name a) ≠ Text.fold n := by
  simp only [Option.eq_none_iff_forall_not_mem, Option.mem_def, get?_eq_some_iff, not_and]

/-- The entries of a table are its things under their folded names. -/
theorem map_toList (t : NameTable α name) :
    (t.toList.map fun a => (Text.fold (name a), a)) = t.entries.toList := by
  rw [toList, List.map_map]
  refine (List.map_congr_left ?_).trans (List.map_id _)
  rintro ⟨key, a⟩ listed
  exact congrArg (·, a) (t.named _ _ (ExtTreeMap.mem_toList_iff_getElem?_eq_some.mp listed))

theorem length_toList (t : NameTable α name) : t.toList.length = t.size := by
  rw [toList, List.length_map, ExtTreeMap.length_toList]
  rfl

/-- The things of a table stand in the order of their folded names. -/
theorem toList_ascending (t : NameTable α name) :
    t.toList.Pairwise fun a b => Text.fold (name a) < Text.fold (name b) := by
  have ascending := Adventure.toList_ascending t.entries
  rwa [← map_toList, List.pairwise_map] at ascending

theorem entries_foldl_put (things : List α) (t : NameTable α name) : (things.foldl put t).entries =
    t.entries.insertMany (things.map fun a => (Text.fold (name a), a)) := by
  induction things generalizing t with
  | nil => simp
  | cons a things hyp =>
    rw [List.foldl_cons, hyp, List.map_cons, ExtTreeMap.insertMany_cons]
    rfl

/-- The listing of a table gives the table. -/
theorem ofList_toList (t : NameTable α name) : ofList t.toList = t := by
  apply ext
  rw [ofList, entries_foldl_put, map_toList]
  exact ExtTreeMap.ofList_eq_insertMany_empty.symm.trans (ofList_of_perm (.refl _))

end NameTable

/-- What is entered in a map stands among the other entries. -/
theorem toList_insert_perm {α : Type} (entries : ExtTreeMap String α) (key : String) (a : α) :
    (entries.insert key a).toList.Perm ((key, a) :: (entries.erase key).toList) := by
  have apart : (key, a) ∉ (entries.erase key).toList := by
    rw [ExtTreeMap.mem_toList_iff_getElem?_eq_some, ExtTreeMap.getElem?_erase_self]
    exact nofun
  rw [List.perm_ext_iff_of_nodup (nodup_toList _)
    (List.nodup_cons.mpr ⟨apart, nodup_toList _⟩)]
  rintro ⟨other, b⟩
  simp only [List.mem_cons, ExtTreeMap.mem_toList_iff_getElem?_eq_some,
    ExtTreeMap.getElem?_insert, ExtTreeMap.getElem?_erase, Std.LawfulEqCmp.compare_eq_iff_eq,
    Prod.mk.injEq]
  by_cases same : key = other
  · simp [same, eq_comm]
  · simp [same, Ne.symm same]

namespace PropertyMap

theorem text?_congr (m : PropertyMap) {n other : String} (same : Text.fold n = Text.fold other) :
    m.text? n = m.text? other := by
  rw [text?, text?, m.get?_congr same]

/-- Setting a text changes what is found under all spellings of its name, and nothing else. -/
theorem text?_set (m : PropertyMap) (n text other : String) : (m.set n text).text? other =
    if Text.fold n = Text.fold other then some text else m.text? other := by
  have spelling : Text.fold (((m.get? n).map (·.name)).getD n) = Text.fold n := by
    cases found : m.get? n with
    | none => rfl
    | some b => exact m.named _ b found
  rw [text?, set, NameTable.get?_put, spelling]
  split
  · rfl
  · rfl

theorem text?_empty (n : String) : (∅ : PropertyMap).text? n = none := by
  rw [text?, NameTable.get?_empty]
  rfl

theorem entries_set_of_fresh {m : PropertyMap} {b : Binding}
    (fresh : m.entries[Text.fold b.name]? = none) :
    (m.set b.name b.text).entries = m.entries.insert (Text.fold b.name) b := by
  simp [PropertyMap.set, NameTable.put, NameTable.get?, fresh]

/-- Bindings with different names that are new to the map are all entered as they are. -/
theorem entries_foldl_set (items : List (String × Binding)) (m : PropertyMap)
    (named : ∀ item ∈ items, Text.fold item.2.name = item.1)
    (distinct : items.Pairwise fun a b => a.1 ≠ b.1)
    (fresh : ∀ item ∈ items, m.entries[item.1]? = none) :
    (items.foldl (fun m item => m.set item.2.name item.2.text) m).entries =
      m.entries.insertMany items := by
  induction items generalizing m with
  | nil => simp
  | cons item items ih =>
    obtain ⟨key, b⟩ := item
    obtain ⟨differs, othersDistinct⟩ := List.pairwise_cons.mp distinct
    obtain rfl : Text.fold b.name = key := named _ List.mem_cons_self
    -- the names that follow are still new after this one, because they are different
    have entered := entries_set_of_fresh (fresh _ List.mem_cons_self)
    rw [List.foldl_cons, ih]
    · rw [entered, ExtTreeMap.insertMany_cons]
    · exact fun item member => named item (List.mem_cons_of_mem _ member)
    · exact othersDistinct
    · intro item member
      rw [entered, ExtTreeMap.getElem?_insert, if_neg (by simpa using differs item member)]
      exact fresh item (List.mem_cons_of_mem _ member)

/-- The listing of a map gives the map, in whatever order it is bound. -/
theorem ofPairs_of_perm {m : PropertyMap} {pairs : List (String × String)}
    (same : pairs.Perm m.toPairs) : ofPairs pairs = m := by
  let item (p : String × String) : String × Binding := (Text.fold p.1, ⟨p.1, p.2⟩)
  have items : m.toPairs.map item = m.entries.toList := by
    rw [toPairs, List.map_map]
    exact m.map_toList
  have entries : (pairs.map item).Perm m.entries.toList := items ▸ same.map item
  have bound : ofPairs pairs =
      (pairs.map item).foldl (fun m item => m.set item.2.name item.2.text) ∅ := by
    rw [ofPairs, List.foldl_map]
  apply NameTable.ext
  rw [bound, entries_foldl_set _ _ ?_ (pairwise_of_perm entries) ?_]
  · exact ExtTreeMap.ofList_eq_insertMany_empty.symm.trans (ofList_of_perm entries)
  · intro named member
    obtain ⟨p, -, rfl⟩ := List.mem_map.mp member
    rfl
  · intro other _
    show (∅ : ExtTreeMap String Binding)[other.1]? = none
    simp

theorem ofPairs_toPairs (m : PropertyMap) : ofPairs m.toPairs = m := ofPairs_of_perm (.refl _)

/-- No two names of a map are spelled alike, since they are not even folded alike. -/
theorem toPairs_distinct (m : PropertyMap) : m.toPairs.Pairwise fun p q => p.1 ≠ q.1 := by
  refine List.pairwise_map.mpr (m.toList_ascending.imp ?_)
  intro a b before (same : a.name = b.name)
  rw [same] at before
  exact String.lt_irrefl _ before

theorem toList_bySpelling_perm (m : PropertyMap) : m.bySpelling.toList.Perm m.toPairs :=
  toList_ofList_perm m.toPairs_distinct

/-- What a map is by exact spelling gives the map. -/
theorem ofSpellings_bySpelling (m : PropertyMap) : ofSpellings m.bySpelling = m :=
  ofPairs_of_perm m.toList_bySpelling_perm

/-! ## Listings of maps that are being made -/

/-- The pairs that entries are listed as. -/
def pairsOf (entries : ExtTreeMap String Binding) : List (String × String) :=
  entries.toList.map fun e => (e.2.name, e.2.text)

theorem toPairs_eq_pairsOf (m : PropertyMap) : m.toPairs = pairsOf m.entries := by
  rw [toPairs, NameTable.toList, List.map_map]
  rfl

theorem pairsOf_insert_perm (entries : ExtTreeMap String Binding) (key : String) (b : Binding) :
    (pairsOf (entries.insert key b)).Perm ((b.name, b.text) :: pairsOf (entries.erase key)) :=
  (toList_insert_perm entries key b).map _

/-- Setting a text replaces one pair of the listing, or adds one to it. -/
theorem toPairs_set (m : PropertyMap) (n text : String) :
    ∃ (spelling : String) (others : List (String × String)),
      (m.set n text).toPairs.Perm ((spelling, text) :: others) ∧
        (spelling = n ∧ m.toPairs.Perm others ∨
          ∃ old, m.toPairs.Perm ((spelling, old) :: others)) := by
  have entries_eq {other : ExtTreeMap String Binding}
      (same : ∀ key, other[key]? = m.entries[key]?) : m.entries = other :=
    ExtTreeMap.ext_getElem? fun key => (same key).symm
  simp only [toPairs_eq_pairsOf]
  cases found : m.entries[Text.fold n]? with
  | none =>
    have erased : m.entries = m.entries.erase (Text.fold n) := by
      apply entries_eq
      intro key
      rw [ExtTreeMap.getElem?_erase]
      split
      · next same => rw [← Std.LawfulEqCmp.compare_eq_iff_eq.mp same, found]
      · rfl
    refine ⟨n, pairsOf (m.entries.erase (Text.fold n)), ?_, .inl ⟨rfl, ?_⟩⟩
    · rw [entries_set_of_fresh (b := ⟨n, text⟩) found]
      exact pairsOf_insert_perm ..
    · rw [← erased]
  | some b =>
    have stood : m.entries = m.entries.insert (Text.fold n) b := by
      apply entries_eq
      intro key
      rw [ExtTreeMap.getElem?_insert]
      split
      · next same => rw [← Std.LawfulEqCmp.compare_eq_iff_eq.mp same, found]
      · rfl
    have spelling : Text.fold b.name = Text.fold n := m.named _ b found
    have entered : (m.set n text).entries = m.entries.insert (Text.fold n) ⟨b.name, text⟩ := by
      simp only [set, NameTable.put, NameTable.get?, found, Option.map_some, Option.getD_some,
        spelling]
    refine ⟨b.name, pairsOf (m.entries.erase (Text.fold n)), ?_, .inr ⟨b.text, ?_⟩⟩
    · rw [entered]
      exact pairsOf_insert_perm ..
    · have listed := pairsOf_insert_perm m.entries (Text.fold n) b
      rwa [← stood] at listed

variable (base : Nat) (weight : String → Nat)

/-- What the pairs of a listing weigh. -/
def weightOf (pairs : List (String × String)) : Nat :=
  (pairs.map fun p => base + weight p.1 + weight p.2).sum

theorem weightOf_set_le (m : PropertyMap) (n text : String) :
    weightOf base weight (m.set n text).toPairs ≤
      weightOf base weight m.toPairs + (base + weight n + weight text) := by
  have perm {l k : List (String × String)} (same : l.Perm k) :
      weightOf base weight l = weightOf base weight k := (same.map _).sum_nat
  obtain ⟨spelling, others, after, ⟨rfl, before⟩ | ⟨old, before⟩⟩ := toPairs_set m n text
  · rw [perm after, perm before]
    simp only [weightOf, List.map_cons, List.sum_cons]
    omega
  · rw [perm after, perm before]
    simp only [weightOf, List.map_cons, List.sum_cons]
    omega

/-- A map lists no more than it was made of. -/
theorem weightOf_ofPairs_le (pairs : List (String × String)) :
    weightOf base weight (ofPairs pairs).toPairs ≤ weightOf base weight pairs := by
  have bounded (m : PropertyMap) : weightOf base weight
      (pairs.foldl (fun m p => m.set p.1 p.2) m).toPairs ≤
        weightOf base weight m.toPairs + weightOf base weight pairs := by
    induction pairs generalizing m with
    | nil => exact Nat.le_refl _
    | cons p rest hyp =>
      have first := weightOf_set_le base weight m p.1 p.2
      have later := hyp (m.set p.1 p.2)
      simp only [weightOf, List.map_cons, List.sum_cons, List.foldl_cons] at first later ⊢
      omega
  have none : weightOf base weight (∅ : PropertyMap).toPairs = 0 := rfl
  have all := bounded ∅
  rwa [none, Nat.zero_add] at all

theorem length_ofPairs_le (pairs : List (String × String)) :
    (ofPairs pairs).toPairs.length ≤ pairs.length := by
  have counted (l : List (String × String)) : weightOf 1 (fun _ => 0) l = l.length := by
    simp [weightOf, List.map_const']
  have fewer := weightOf_ofPairs_le 1 (fun _ => 0) pairs
  rwa [counted, counted] at fewer

/-- A map lists only texts that it was made of. -/
theorem forall_mem_ofPairs {P : String → Prop} {pairs : List (String × String)}
    (each : ∀ p ∈ pairs, P p.1 ∧ P p.2) : ∀ p ∈ (ofPairs pairs).toPairs, P p.1 ∧ P p.2 := by
  have kept (m : PropertyMap) (before : ∀ p ∈ m.toPairs, P p.1 ∧ P p.2) :
      ∀ p ∈ (pairs.foldl (fun m p => m.set p.1 p.2) m).toPairs, P p.1 ∧ P p.2 := by
    induction pairs generalizing m with
    | nil => exact before
    | cons q rest hyp =>
      obtain ⟨here, later⟩ := List.forall_mem_cons.mp each
      refine hyp later (m.set q.1 q.2) ?_
      obtain ⟨spelling, others, after, known⟩ := toPairs_set m q.1 q.2
      intro p listed
      rcases List.mem_cons.mp (after.mem_iff.mp listed) with rfl | old
      · rcases known with ⟨rfl, -⟩ | ⟨text, stood⟩
        · exact here
        · exact ⟨(before _ (stood.mem_iff.mpr List.mem_cons_self)).1, here.2⟩
      · rcases known with ⟨-, stood⟩ | ⟨text, stood⟩
        · exact before p (stood.mem_iff.mpr old)
        · exact before p (stood.mem_iff.mpr (List.mem_cons_of_mem _ old))
  exact kept ∅ (fun p listed => by cases listed)

end PropertyMap

end Adventure
