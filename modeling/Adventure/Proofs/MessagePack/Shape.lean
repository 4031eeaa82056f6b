import Mathlib.Data.List.Nodup
import Adventure.MessagePack.Shape
import Adventure.Proofs.MessagePack.RoundTrip

/-! # Shapes give back what they have written

What a shape reads from a value that it has written itself. Records are the heart of it: fields are
found by their names, wherever they stand.
-/

namespace Adventure.MessagePack

open Text (Utf8.encode)

theorem encode_injective : Function.Injective Utf8.encode := by
  intro s t same
  have decoded := congrArg Text.Utf8.decode same
  rw [Text.Utf8.decode_encode, Text.Utf8.decode_encode] at decoded
  exact Except.ok.inj decoded

/-! ## Scalars -/

theorem storable_int {i : Int} (low : -2 ^ 63 ≤ i) (high : i < 2 ^ 64) (levels : Nat) :
    (Value.int i).Storable levels := by
  unfold Value.int
  split
  · rw [Value.Storable]
    omega
  · rw [Value.Storable]
    omega

theorem storable_str {s : String} (short : (Utf8.encode s).length < 2 ^ 32) (levels : Nat) :
    (Value.str s).Storable levels := by
  rw [Value.str, Value.Storable]
  exact short

theorem intWithin_read {low high i : Int} (above : low ≤ i) (below : i < high) (levels : Nat) :
    (Shape.intWithin low high).read? levels (.int i) = some i := by
  unfold Value.int
  split
  · next positive => simp [Shape.intWithin, Int.toNat_of_nonneg positive, above, below]
  · simp [Shape.intWithin, above, below]

theorem int32_read (i : Int32) (levels : Nat) :
    Shape.int32.read? levels (Shape.int32.write i) = some i := by
  have above := i.le_toInt
  have below := i.toInt_lt
  simp only [Shape.int32]
  rw [intWithin_read above below, Option.map_some, Int32.ofInt_toInt]

theorem natBelow_read {limit n : Nat} (below : n < limit) (levels : Nat) :
    (Shape.natBelow limit).read? levels (.unsigned n) = some n := by
  simp [Shape.natBelow, Shape.intWithin, below]

theorem text_read (s : String) (levels : Nat) : Shape.text.read? levels (.str s) = some s := by
  simp [Shape.text, Value.str, utf8?, Utf8.encode, String.fromUTF8?, s.isValidUTF8]
  rfl

/-! ## Names -/

theorem place?_str {before after : List String} {name : String} (new : name ∉ before) :
    place? (before ++ name :: after) (.str name) = some (some before.length) := by
  have absent : before.findIdx? (Utf8.encode · = Utf8.encode name) = none := by
    rw [List.findIdx?_eq_none_iff]
    intro other member
    rw [decide_eq_false_iff_not, encode_injective.eq_iff]
    rintro rfl
    exact new member
  simp only [place?, Value.str, List.findIdx?_append, absent, List.findIdx?_cons]
  simp

/-- Members in the order of their names fill the places one after the other. -/
theorem placeMembers_zip {names : List String} (distinct : names.Nodup) (levels : Nat)
    (before after : List String) (done todo : List Value) (position : names = before ++ after)
    (sameDone : before.length = done.length) (sameTodo : after.length = todo.length) :
    ((after.zip todo).map fun (name, v) => (Value.str name, v)).foldlM
      (fun found (key, v) => do
        match ← place? names key with
        | none => if v.isWithin levels then some found else none
        | some i => if (found.getD i none).isSome then none else return found.set i (some v))
      (done.map some ++ List.replicate after.length none) = some ((done ++ todo).map some) := by
  induction after generalizing before done todo with
  | nil =>
    obtain rfl := List.length_eq_zero_iff.mp sameTodo.symm
    simp
  | cons name after hyp =>
    cases todo with
    | nil => cases sameTodo
    | cons v todo =>
      -- the place of a name is the one behind the names that have been filled
      have new : name ∉ before := by
        rw [position, List.nodup_append] at distinct
        intro member
        exact distinct.2.2 name member name List.mem_cons_self rfl
      have later := hyp (before ++ [name]) (done ++ [v]) todo
        (by simp [position]) (by simp [sameDone]) (Nat.succ.inj sameTodo)
      subst position
      simp only [List.zip_cons_cons, List.map_cons, List.foldlM_cons, place?_str new]
      simp [sameDone, List.replicate_succ] at later ⊢
      exact later

theorem mapM_some (values : List Value) : (values.map some).mapM id = some values := by
  induction values with
  | nil => rfl
  | cons v values hyp => simp [hyp]

/-- A record with all its fields is read as their values. -/
theorem fields?_record (names : List String) (values : List Value) (distinct : names.Nodup)
    (same : names.length = values.length) (levels : Nat) :
    fields? names (levels + 1) (.record (names.zip values)) = some (levels, values) := by
  have placed : placeMembers names levels
      ((names.zip values).map fun (name, v) => (Value.str name, v)) = some (values.map some) :=
    placeMembers_zip distinct levels [] names [] values rfl rfl same
  simp only [Value.record, fields?]
  rw [placed, Option.bind_some, mapM_some, Option.map_some]

theorem storable_record (names : List String) (values : List Value) {levels : Nat}
    (few : names.length < 2 ^ 32) (short : ∀ name ∈ names, (Utf8.encode name).length < 2 ^ 32)
    (each : ∀ v ∈ values, v.Storable levels) :
    (Value.record (names.zip values)).Storable (levels + 1) := by
  rw [Value.record, Value.Storable]
  refine ⟨by simp; omega, ?_⟩
  intro member listed
  obtain ⟨⟨name, v⟩, zipped, rfl⟩ := List.mem_map.mp listed
  exact ⟨storable_str (short name (List.of_mem_zip zipped).1) levels,
    each v (List.of_mem_zip zipped).2⟩

theorem case?_str {before after : List String} {name : String} (new : name ∉ before) :
    case? (before ++ name :: after) (.str name) = some (before.length, none) := by
  -- a text stands for a case without content
  show (do return (← ← place? (before ++ name :: after) (.str name), none) : Option _) = _
  rw [place?_str new]
  rfl

theorem case?_record {before after : List String} {name : String} (new : name ∉ before)
    (content : Value) :
    case? (before ++ name :: after) (.record [(name, content)]) =
      some (before.length, some content) := by
  show (do return (← ← place? (before ++ name :: after) (.str name), some content)
    : Option _) = _
  rw [place?_str new]
  rfl

theorem choice_read {α : Type} {nameOf : α → String} {cases : List α}
    (distinct : (cases.map nameOf).Nodup) {a : α} (listed : a ∈ cases) (levels : Nat) :
    (Shape.choice nameOf cases).read? levels ((Shape.choice nameOf cases).write a) = some a := by
  obtain ⟨before, after, rfl⟩ := List.append_of_mem listed
  rw [List.map_append, List.map_cons] at distinct
  have new : nameOf a ∉ before.map nameOf := by
    rw [List.nodup_append] at distinct
    intro member
    exact distinct.2.2 _ member _ List.mem_cons_self rfl
  simp only [Shape.choice, List.map_append, List.map_cons]
  rw [case?_str new]
  simp

theorem list_read {α : Type} {item : Shape α} {levels : Nat} {items : List α}
    (each : ∀ a ∈ items, item.read? levels (item.write a) = some a) :
    (Shape.list item).read? (levels + 1) ((Shape.list item).write items) = some items := by
  simp only [Shape.list]
  induction items with
  | nil => rfl
  | cons a items hyp =>
    have first := each a List.mem_cons_self
    have later := hyp fun a member => each a (List.mem_cons_of_mem _ member)
    simp only [List.map_cons, List.mapM_cons, first, later]
    rfl

end Adventure.MessagePack
