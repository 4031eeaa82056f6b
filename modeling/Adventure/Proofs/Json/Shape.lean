import Mathlib.Data.List.Nodup
import Adventure.Json.Shape

/-! # Shapes read what they have written

The laws of the usual shapes, from scalars up to records. A record gives its fields by name, and a
field that has been taken out of the object keeps what the blank record has.

* `Value.without`, `Value.within` — objects with members taken out, or changed.
* `record_read` — what an object of fields gives for each of them.
* `readFields_unless` — one field, given or not.
-/

namespace Adventure.Json

variable {α β ρ : Type}

/-! ## Objects -/

namespace Value

/-- An object without its members of the given names. -/
def without (names : List String) : Value → Value
  | .obj members => .obj (members.filter (·.1 ∉ names))
  | v => v

/-- An object in which the values of the members called `name` are changed. -/
def within (name : String) (change : Value → Value) : Value → Value
  | .obj members => .obj (members.map fun m => (m.1, if m.1 = name then change m.2 else m.2))
  | v => v

theorem without_nil (v : Value) : v.without [] = v := by
  cases v <;> simp [without]

theorem within_self (v : Value) {name : String} {change : Value → Value}
    (same : ∀ w, change w = w) : v.within name change = v := by
  cases v <;> simp [within, same]

end Value

namespace Shape

/-! ## Scalars -/

@[simp] theorem lawful_bool : bool.Lawful := fun _ => rfl

@[simp] theorem lawful_text : text.Lawful := fun _ => rfl

theorem natBelow_read {limit n : Nat} (below : n < limit) :
    (natBelow limit).read? ((natBelow limit).write n) = some n := by
  simp [natBelow, Value.nat, below]

@[simp] theorem lawful_uint8 : uint8.Lawful := by
  intro n
  have read : (natBelow (2 ^ 8)).read? (.nat n.toNat) = some n.toNat := natBelow_read n.toNat_lt
  simp only [uint8]
  rw [read, Option.map_some, UInt8.ofNat_toNat]

@[simp] theorem lawful_uint32 : uint32.Lawful := by
  intro n
  have read : (natBelow (2 ^ 32)).read? (.nat n.toNat) = some n.toNat := natBelow_read n.toNat_lt
  simp only [uint32]
  rw [read, Option.map_some, UInt32.ofNat_toNat]

@[simp] theorem lawful_int32 : int32.Lawful := by
  intro n
  simp only [int32]
  rw [if_pos ⟨n.le_toInt, n.toInt_lt⟩, Int32.ofInt_toInt]

theorem lawful_choice {nameOf : α → String} {cases : List α} (complete : ∀ a, a ∈ cases)
    (distinct : (cases.map nameOf).Nodup) : (choice nameOf cases).Lawful := by
  intro a
  obtain ⟨before, after, rfl⟩ := List.append_of_mem (complete a)
  rw [List.map_append, List.map_cons, List.nodup_append] at distinct
  have absent : before.find? (nameOf · = nameOf a) = none := by
    rw [List.find?_eq_none]
    intro b member same
    exact distinct.2.2 (nameOf b) (List.mem_map_of_mem member) (nameOf a) List.mem_cons_self
      (of_decide_eq_true same)
  simp only [choice, case?]
  rw [List.find?_append, absent, Option.none_or]
  exact List.find?_cons_of_pos (decide_eq_true rfl)

/-! ## Compounds -/

theorem mapM_eq_some_map {f : α → Option β} {g : α → β} {items : List α}
    (each : ∀ a ∈ items, f a = some (g a)) : items.mapM f = some (items.map g) := by
  induction items with
  | nil => rfl
  | cons a items hyp =>
    rw [List.mapM_cons, each a List.mem_cons_self,
      hyp fun b member => each b (List.mem_cons_of_mem a member)]
    rfl

theorem list_read {item : Shape α} {f : α → α} {items : List α}
    (each : ∀ a ∈ items, item.read? (item.write a) = some (f a)) :
    (list item).read? ((list item).write items) = some (items.map f) := by
  simp only [list]
  rw [List.mapM_map]
  exact mapM_eq_some_map each

@[simp] theorem Lawful.list {item : Shape α} (law : item.Lawful) : (Shape.list item).Lawful := by
  intro items
  have read := list_read fun a (_ : a ∈ items) => law a
  rwa [List.map_id'] at read

theorem Lawful.option {value : Shape α} (law : value.Lawful)
    (notNull : ∀ a, value.write a ≠ .null) : (Shape.option value).Lawful := by
  rintro (_ | a)
  · rfl
  · simp only [Shape.option]
    split
    · next null => exact absurd null (notNull a)
    · rw [law, Option.map_some]

theorem Lawful.pair {first : Shape α} {second : Shape β} (law : first.Lawful)
    (other : second.Lawful) : (Shape.pair first second).Lawful := by
  rintro ⟨a, b⟩
  simp only [Shape.pair]
  rw [law a, other b]
  rfl

theorem Lawful.via {shape : Shape β} {view : α → β} {ofView : β → α} (law : shape.Lawful)
    (inverse : ∀ a, ofView (view a) = a) : (shape.via view ofView).Lawful := by
  intro a
  simp only [Shape.via]
  rw [law, Option.map_some, inverse]

/-! ## Records -/

section Records

variable {shape : Shape α} {name : String} {get : ρ → α} {set : α → ρ → ρ} {f : Field ρ}
  {fields : List (Field ρ)} {given : List (Option Value)} {a : α} {v : Value} {r s : ρ}

@[simp] theorem field_name : (field name shape get set).name = name := rfl

@[simp] theorem requiredField_name : (requiredField name shape get set).name = name := rfl

@[simp] theorem field_write : (field name shape get set).write r = shape.write (get r) := rfl

@[simp] theorem requiredField_write :
    (requiredField name shape get set).write r = shape.write (get r) := rfl

@[simp] theorem readFields_nil : readFields [] [] r = some r := rfl

theorem readFields_given (read : f.read? v r = some s) :
    readFields (f :: fields) (some v :: given) r = readFields fields given s := by
  rw [readFields, read, Option.bind_some]

theorem field_read (read : shape.read? v = some a) :
    (field name shape get set).read? v r = some (set a r) := by
  show (shape.read? v).map _ = _
  rw [read, Option.map_some]

/-- A field that is given is taken over. -/
@[simp] theorem readFields_field (law : shape.Lawful) :
    readFields (field name shape get set :: fields) (some (shape.write a) :: given) r =
      readFields fields given (set a r) :=
  readFields_given (field_read (law a))

@[simp] theorem readFields_requiredField (law : shape.Lawful) :
    readFields (requiredField name shape get set :: fields) (some (shape.write a) :: given) r =
      readFields fields given (set a r) := by
  refine readFields_given ?_
  show (shape.read? (shape.write a)).map _ = _
  rw [law, Option.map_some]

/-- A field that is given is taken over, and one that is not keeps what was there. -/
theorem readFields_unless {names : List String} (read : shape.read? v = some a)
    (kept : ∀ s, set (get s) s = s) :
    readFields (field name shape get set :: fields)
        ((if name ∈ names then none else some v) :: given) r =
      readFields fields given (set (if name ∈ names then get r else a) r) := by
  by_cases missing : name ∈ names
  · rw [if_pos missing, if_pos missing, kept]
    rfl
  · rw [if_neg missing, if_neg missing, readFields_given (field_read read)]

/-- An object of fields gives each of them once, unless its member has been taken out. -/
theorem givenFor_of_mem (distinct : (fields.map Field.name).Nodup) (content : Field ρ → Value)
    (names : List String) (listed : f ∈ fields) :
    givenFor ((fields.map fun g => (g.name, content g)).filter (·.1 ∉ names)) f.name =
      some (if f.name ∈ names then none else some (content f)) := by
  have others {group : List (Field ρ)} (apart : ∀ g ∈ group, g.name ≠ f.name) :
      ((group.map fun g => (g.name, content g)).filter (·.1 ∉ names)).filter
        (·.1 = f.name) = [] := by
    refine List.filter_eq_nil_iff.mpr fun m member => ?_
    obtain ⟨g, there, rfl⟩ := List.mem_map.mp (List.mem_filter.mp member).1
    simpa using apart g there
  obtain ⟨before, after, rfl⟩ := List.append_of_mem listed
  rw [List.map_append, List.map_cons, List.nodup_append, List.nodup_cons] at distinct
  -- the fields in front and behind go by other names, and so their members are passed over
  obtain ⟨-, ⟨later, -⟩, earlier⟩ := distinct
  have front := others fun g member same =>
    earlier _ (List.mem_map_of_mem member) _ List.mem_cons_self same
  have back := others fun g member same =>
    later (same ▸ List.mem_map_of_mem member)
  rw [List.map_append, List.map_cons, List.filter_append, List.filter_cons]
  by_cases missing : f.name ∈ names
  · simp only [givenFor, List.filter_append, front, missing, not_true_eq_false, decide_false,
      Bool.false_eq_true, if_false, back, List.append_nil, if_true]
  · simp only [givenFor, List.filter_append, front, missing, not_false_eq_true, decide_true,
      if_true, List.filter_cons, back, List.nil_append, if_false]

/-- What is read from an object of fields some of whose members have been taken out. -/
theorem record_read (blank : ρ) (distinct : (fields.map Field.name).Nodup)
    (content : Field ρ → Value) (names : List String) :
    (Shape.record blank fields).read?
        ((Value.obj (fields.map fun f => (f.name, content f))).without names) =
      readFields fields
        (fields.map fun f => if f.name ∈ names then none else some (content f)) blank := by
  have given := mapM_eq_some_map fun f listed => givenFor_of_mem distinct content names listed
  simp only [Shape.record, Value.without]
  rw [given]
  rfl

theorem record_write_within (blank : ρ) (name : String) (change : Value → Value) (r : ρ) :
    ((Shape.record blank fields).write r).within name change =
      .obj (fields.map fun f =>
        (f.name, if f.name = name then change (f.write r) else f.write r)) := by
  simp only [Shape.record, Value.within, List.map_map]
  rfl

/-- A record is read as its fields set one after the other. -/
theorem record_read_write (blank : ρ) (distinct : (fields.map Field.name).Nodup) (r : ρ) :
    (Shape.record blank fields).read? ((Shape.record blank fields).write r) =
      readFields fields (fields.map fun f => some (f.write r)) blank := by
  have read := record_read blank distinct (·.write r) []
  simpa [Value.without, Shape.record] using read

theorem lawful_record {blank : ρ} (distinct : (fields.map Field.name).Nodup)
    (complete : ∀ r, readFields fields (fields.map fun f => some (f.write r)) blank = some r) :
    (Shape.record blank fields).Lawful :=
  fun r => (record_read_write blank distinct r).trans (complete r)

end Records

end Shape

end Adventure.Json
