import Mathlib.Data.List.Forall2
import Mathlib.Data.Set.Card
import Adventure.Proofs.NameTable
import Adventure.Proofs.Run
import Adventure.Proofs.Text.Utf8

/-! # Maps of texts by name, and the spellings they keep

Texts are bound, replaced and removed under names in any spelling. A name finds the text that it has
been bound to last, and is shown as it was spelled when it was bound first; a name that has been
removed starts anew.

* `SameName` — names that differ in the case of ASCII letters at most.
* `Use`, `use`, `after` — what is done to a map, and what has become of it after some steps.
* `Binds`, `Drops` — what a step does to a name.
* `Bound`, `BoundTo`, `FirstSpelled` — names that are bound, their texts and their spellings.
* `recounts` — what a map says after any steps, by what the steps were.
-/

namespace Adventure

/-! ## Spellings -/

namespace Text

variable {c d : Char} {s t : String}

/-- The same character, or the capital and the small form of an ASCII letter. -/
def SameLetter (c d : Char) : Prop :=
  c = d ∨ ∃ i < 26,
    (c.toNat = 65 + i ∨ c.toNat = 97 + i) ∧ (d.toNat = 65 + i ∨ d.toNat = 97 + i)

/-- Names that are the same but for the case of ASCII letters. -/
def SameName (s t : String) : Prop := List.Forall₂ SameLetter s.toList t.toList

theorem toNat_toLower (c : Char) :
    c.toLower.toNat = if 65 ≤ c.toNat ∧ c.toNat ≤ 90 then c.toNat + 32 else c.toNat := by
  by_cases upper : 65 ≤ c.toNat ∧ c.toNat ≤ 90
  · have value : c.toLower.val = c.val + 32 := congrArg Char.val (dif_pos upper)
    have small : c.val.toNat ≤ 90 := upper.2
    rw [if_pos upper]
    show c.toLower.val.toNat = c.val.toNat + 32
    rw [value, UInt32.toNat_add]
    exact Nat.mod_eq_of_lt (by simp only [UInt32.reduceToNat]; omega)
  · rw [if_neg upper]
    exact congrArg Char.toNat (dif_neg upper)

theorem toLower_eq_iff : c.toLower = d.toLower ↔ SameLetter c d := by
  rw [← Char.toNat_inj, toNat_toLower, toNat_toLower, SameLetter, ← Char.toNat_inj]
  constructor
  · intro same
    by_cases equal : c.toNat = d.toNat
    · exact .inl equal
    · refine .inr ⟨(if c.toNat ≤ 90 then c.toNat else d.toNat) - 65, ?_⟩
      split at same <;> split at same <;> split <;> omega
  · rintro (equal | ⟨i, few, ⟨here, there⟩⟩)
    · rw [equal]
    · split <;> split <;> omega

theorem sameName_iff : SameName s t ↔ fold s = fold t := by
  rw [← String.toList_inj, fold, fold, String.toList_map, String.toList_map,
    ← List.forall₂_eq_eq_eq, List.forall₂_map_left_iff, List.forall₂_map_right_iff]
  simp only [toLower_eq_iff, SameName]

/-- Letters beyond ASCII keep their case. -/
example : fold "GRÖßE" = "grÖße" := by decide +kernel

end Text

/-- A table has as many things as there are names that it knows, in whatever spelling. -/
theorem NameTable.encard_names {α : Type} {name : α → String} (t : NameTable α name) :
    (Text.fold '' {n | t.contains n}).encard = t.size := by
  have folded : Text.fold '' {n | t.contains n} =
      ((t.toList.map fun a => Text.fold (name a)).toFinset : Set String) := by
    ext key
    simp only [List.coe_toFinset, Set.mem_image, Set.mem_ofPred_eq, List.mem_map, contains_iff,
      get?_eq_some_iff]
    constructor
    · rintro ⟨n, ⟨a, listed, same⟩, rfl⟩
      exact ⟨a, listed, same⟩
    · rintro ⟨a, listed, rfl⟩
      exact ⟨name a, ⟨a, listed, rfl⟩, rfl⟩
  have distinct : (t.toList.map fun a => Text.fold (name a)).Nodup :=
    List.pairwise_map.mpr (t.toList_ascending.imp ne_of_lt)
  rw [folded, Set.encard_coe_eq_coe_finsetCard, List.toFinset_card_of_nodup distinct,
    List.length_map, length_toList]

namespace PropertyMap

open Text

variable {m : PropertyMap} {name text spelling : String}

/-! ## Texts and spellings -/

/-- How the name `n` is shown. -/
def spelling? (m : PropertyMap) (n : String) : Option String := (m.get? n).map (·.name)

theorem replace_eq (m : PropertyMap) (n text : String) :
    m.replace n text = (m.text? n, m.set n text) := by
  unfold replace text? set
  cases m.get? n with
  | none => rfl
  | some b => rfl

theorem spelling?_set (m : PropertyMap) (n text other : String) : (m.set n text).spelling? other =
    if Text.fold n = Text.fold other then some ((m.spelling? n).getD n) else m.spelling? other := by
  have same : Text.fold ((m.spelling? n).getD n) = Text.fold n := by
    unfold spelling?
    cases found : m.get? n with
    | none => rfl
    | some b => exact m.named _ b found
  rw [spelling?, set, NameTable.get?_put, ← spelling?, same]
  split
  · rfl
  · rfl

theorem text?_erase (m : PropertyMap) (n other : String) : text? (m.erase n) other =
    if Text.fold n = Text.fold other then none else m.text? other := by
  simp only [text?, NameTable.get?_erase]
  split
  · rfl
  · rfl

theorem spelling?_erase (m : PropertyMap) (n other : String) : spelling? (m.erase n) other =
    if Text.fold n = Text.fold other then none else m.spelling? other := by
  simp only [spelling?, NameTable.get?_erase]
  split
  · rfl
  · rfl

theorem spelling?_empty (n : String) : (∅ : PropertyMap).spelling? n = none := by
  rw [spelling?, NameTable.get?_empty]
  rfl

theorem contains_iff_spelling? :
    m.contains name ↔ ∃ spelling, m.spelling? name = some spelling := by
  simp [NameTable.contains_iff, spelling?]

theorem spelling?_congr (m : PropertyMap) {n other : String}
    (same : Text.fold n = Text.fold other) : m.spelling? n = m.spelling? other := by
  rw [spelling?, spelling?, m.get?_congr same]

/-- What a map lists are the names that it knows, as they are shown, with their texts. -/
theorem mem_toPairs_iff : (spelling, text) ∈ m.toPairs ↔
    ∃ name, m.spelling? name = some spelling ∧ m.text? name = some text := by
  rw [toPairs, List.mem_map]
  constructor
  · rintro ⟨b, listed, same⟩
    obtain ⟨rfl, rfl⟩ := Prod.mk.inj same
    have found : m.get? b.name = some b := NameTable.get?_eq_some_iff.mpr ⟨listed, rfl⟩
    exact ⟨b.name, by rw [spelling?, found]; rfl, by rw [text?, found]; rfl⟩
  · rintro ⟨name, shown, held⟩
    obtain ⟨b, found, same⟩ := Option.map_eq_some_iff.mp shown
    rw [text?, found] at held
    cases held
    exact ⟨b, (NameTable.get?_eq_some_iff.mp found).1, by rw [same]⟩

/-- A name that a map knows is listed once, in whatever spelling. -/
theorem existsUnique_toPairs (known : m.contains name) :
    ∃! p, p ∈ m.toPairs ∧ SameName p.1 name := by
  obtain ⟨b, found⟩ := NameTable.contains_iff.mp known
  obtain ⟨listed, same⟩ := NameTable.get?_eq_some_iff.mp found
  refine ⟨(b.name, b.text), ⟨List.mem_map.mpr ⟨b, listed, rfl⟩, sameName_iff.mpr same⟩, ?_⟩
  rintro _ ⟨member, also⟩
  obtain ⟨c, there, rfl⟩ := List.mem_map.mp member
  rw [NameTable.get?_eq_some_iff.mpr ⟨there, sameName_iff.mp also⟩] at found
  rw [Option.some.inj found]

/-! ## Uses -/

/-- What is done to a map. -/
inductive Use where
  | bind (n text : String)
  | erase (n : String)
  | clear

def use (m : PropertyMap) : Use → PropertyMap
  | .bind n text => (m.replace n text).2
  | .erase n => m.erase n
  | .clear => ∅

/-- The map after the first `n` of some uses, from the empty one on. -/
def after (uses : List Use) (n : Nat) : PropertyMap := (uses.take n).foldl use ∅

variable {uses : List Use} {u : Use} {n : Nat}

theorem after_succ (here : uses[n]? = some u) : after uses (n + 1) = (after uses n).use u :=
  foldl_take_succ here

theorem after_succ_of_none (ended : uses[n]? = none) : after uses (n + 1) = after uses n :=
  foldl_take_succ_of_none ended

/-! ## What steps do to names -/

/-- Whether step `n` binds `name`, as it is spelled in `spelling`, to `text`. -/
def Binds (uses : List Use) (n : Nat) (name spelling text : String) : Prop :=
  uses[n]? = some (.bind spelling text) ∧ SameName spelling name

/-- Whether step `n` removes `name` in some spelling, or everything. -/
def Drops (uses : List Use) (n : Nat) (name : String) : Prop :=
  (∃ spelling, uses[n]? = some (.erase spelling) ∧ SameName spelling name) ∨
    uses[n]? = some .clear

/-- Whether `name` has been bound in the first `n` steps, and not dropped since. -/
def Bound (uses : List Use) (n : Nat) (name : String) : Prop :=
  ∃ m < n, (∃ spelling text, Binds uses m name spelling text) ∧
    ∀ j, m < j → j < n → ¬ Drops uses j name

/-- Whether `name` has last been bound to `text` in the first `n` steps, and not dropped since. -/
def BoundTo (uses : List Use) (n : Nat) (name text : String) : Prop :=
  ∃ m < n, (∃ spelling, Binds uses m name spelling text) ∧
    ∀ j, m < j → j < n → ¬ (Drops uses j name ∨ ∃ spelling other, Binds uses j name spelling other)

/-- Whether `spelling` is how `name` was spelled when it was bound without being bound already, and
not dropped since. -/
def FirstSpelled (uses : List Use) (n : Nat) (name spelling : String) : Prop :=
  ∃ m < n, (∃ text, Binds uses m name spelling text ∧ ¬ Bound uses m name) ∧
    ∀ j, m < j → j < n → ¬ Drops uses j name

theorem Binds.not_drops (binds : Binds uses n name spelling text) : ¬ Drops uses n name := by
  rintro (⟨_, here, -⟩ | here)
  · rw [binds.1] at here
    cases here
  · rw [binds.1] at here
    cases here

/-! ## What names find -/

theorem text?_after_succ (uses : List Use) (name text : String) (n : Nat) :
    (after uses (n + 1)).text? name = some text ↔
      (∃ spelling, Binds uses n name spelling text) ∨
      (after uses n).text? name = some text ∧
        ¬ (Drops uses n name ∨ ∃ spelling other, Binds uses n name spelling other) := by
  cases here : uses[n]? with
  | none => simp [after_succ_of_none here, Binds, Drops, here]
  | some u =>
    rw [after_succ here]
    cases u with
    | bind other new =>
      simp only [use, replace_eq, text?_set, sameName_iff, Binds, Drops, here]
      split
      · next same => simp [same]
      · next apart => simp [apart]
    | erase other =>
      simp only [use, text?_erase, sameName_iff, Binds, Drops, here]
      split
      · next same => simp [same]
      · next apart => simp [apart]
    | clear => simp [use, text?_empty, Binds, Drops, here]

theorem text?_after_iff (uses : List Use) (n : Nat) (name text : String) :
    (after uses n).text? name = some text ↔ BoundTo uses n name text :=
  holds_iff_last (P := fun n => (after uses n).text? name = some text)
    (by rw [after, List.take_zero, List.foldl_nil, text?_empty]; exact nofun)
    (text?_after_succ uses name text) n

/-- A name that is bound again keeps its spelling, and one that is new brings its own. -/
theorem spelling?_after_succ (uses : List Use) (name spelling : String) (n : Nat) :
    (after uses (n + 1)).spelling? name = some spelling ↔
      (∃ text, Binds uses n name spelling text ∧ ¬ (after uses n).contains name) ∨
      (after uses n).spelling? name = some spelling ∧ ¬ Drops uses n name := by
  cases here : uses[n]? with
  | none => simp [after_succ_of_none here, Binds, Drops, here]
  | some u =>
    rw [after_succ here]
    cases u with
    | bind new text =>
      simp only [use, replace_eq, spelling?_set, contains_iff_spelling?, sameName_iff, Binds,
        Drops, here]
      split
      · next same =>
        -- the spelling of `new` counts only if its name was not bound
        rw [spelling?_congr _ same]
        cases (after uses n).spelling? name with
        | none =>
          have named (equal : new = spelling) : fold spelling = fold name := equal ▸ same
          simpa using named
        | some old => simp
      · next apart =>
        have other (equal : new = spelling) : fold spelling ≠ fold name := equal ▸ apart
        simp +contextual [other]
    | erase other =>
      simp only [use, spelling?_erase, sameName_iff, Binds, Drops, here]
      split
      · next same => simp [same]
      · next apart => simp [apart]
    | clear => simp [use, spelling?_empty, Binds, Drops, here]

theorem contains_after_succ (uses : List Use) (name : String) (n : Nat) :
    (after uses (n + 1)).contains name ↔
      (∃ spelling text, Binds uses n name spelling text) ∨
      (after uses n).contains name ∧ ¬ Drops uses n name := by
  simp only [contains_iff_spelling?, spelling?_after_succ]
  constructor
  · rintro ⟨spelling, ⟨text, binds, -⟩ | ⟨shown, still⟩⟩
    · exact .inl ⟨spelling, text, binds⟩
    · exact .inr ⟨⟨spelling, shown⟩, still⟩
  · rintro (⟨spelling, text, binds⟩ | ⟨⟨spelling, shown⟩, still⟩)
    · by_cases old : ∃ spelling, (after uses n).spelling? name = some spelling
      · obtain ⟨old, shown⟩ := old
        exact ⟨old, .inr ⟨shown, binds.not_drops⟩⟩
      · exact ⟨spelling, .inl ⟨text, binds, old⟩⟩
    · exact ⟨spelling, .inr ⟨shown, still⟩⟩

theorem contains_after_iff (uses : List Use) (n : Nat) (name : String) :
    (after uses n).contains name ↔ Bound uses n name :=
  holds_iff_last (P := fun n => (after uses n).contains name) Bool.false_ne_true
    (contains_after_succ uses name) n

theorem spelling?_after_iff (uses : List Use) (n : Nat) (name spelling : String) :
    (after uses n).spelling? name = some spelling ↔ FirstSpelled uses n name spelling := by
  rw [holds_iff_last (P := fun n => (after uses n).spelling? name = some spelling) nofun
    (spelling?_after_succ uses name spelling) n]
  simp only [contains_after_iff, FirstSpelled]

/-! ## All names -/

/-- What a map says after the first `n` steps. -/
structure Recounts (uses : List Use) (n : Nat) : Prop where
  text? : ∀ name text, (after uses n).text? name = some text ↔ BoundTo uses n name text
  contains : ∀ name, (after uses n).contains name ↔ Bound uses n name
  replaced : ∀ name text, ((after uses n).replace name text).1 = (after uses n).text? name
  /-- What is listed are the names that are bound, as they were spelled first, with their texts. -/
  listed : ∀ spelling text, (spelling, text) ∈ (after uses n).toPairs ↔
    ∃ name, FirstSpelled uses n name spelling ∧ BoundTo uses n name text
  once : ∀ name, Bound uses n name → ∃! p, p ∈ (after uses n).toPairs ∧ SameName p.1 name
  ascending : (after uses n).toPairs.Pairwise fun p q =>
    Utf8.encode (fold p.1) < Utf8.encode (fold q.1)
  size : (fold '' {name | Bound uses n name}).encard = (after uses n).size
  rebuilt : ofPairs (after uses n).toPairs = after uses n
  /-- By exact spelling there are the same pairs in the order of the spellings. -/
  spelled : (after uses n).bySpelling.toList.Perm (after uses n).toPairs ∧
    (after uses n).bySpelling.toList.Pairwise fun p q => Utf8.encode p.1 < Utf8.encode q.1
  returned : ofSpellings (after uses n).bySpelling = after uses n

/-- A map of texts is one up to the case of ASCII letters, and shows each name as it was spelled
first. -/
theorem recounts (uses : List Use) (n : Nat) : Recounts uses n where
  text? := text?_after_iff uses n
  contains := contains_after_iff uses n
  replaced _ _ := by rw [replace_eq]
  listed _ _ := by simp only [mem_toPairs_iff, spelling?_after_iff, text?_after_iff]
  once name bound := existsUnique_toPairs ((contains_after_iff uses n name).mpr bound)
  ascending := List.pairwise_map.mpr ((after uses n).toList_ascending.imp Utf8.encode_lt)
  size := by
    simp only [← contains_after_iff]
    exact NameTable.encard_names _
  rebuilt := ofPairs_toPairs _
  spelled := ⟨toList_bySpelling_perm _, (toList_ascending _).imp Utf8.encode_lt⟩
  returned := ofSpellings_bySpelling _

end PropertyMap

end Adventure
