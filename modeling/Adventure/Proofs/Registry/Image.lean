import Adventure.Proofs.MessagePack.Shape
import Adventure.Registry.Image

/-! # Images give back their snapshots

`Snapshot.Fits` bounds the numbers of a snapshot by the fields that hold them: handles of 32 bits
with a sign, counts of 32 bits, indices of 64. The image of such a snapshot is read as the same
snapshot.
-/

namespace Adventure.Registry

open MessagePack

/-- Whether a handle has a field of 32 bits with a sign. -/
def HandleFits (handle : Handle) : Prop := -2 ^ 31 ≤ handle ∧ handle < 2 ^ 31

/-- Whether the index of a saved entity has a field of 64 bits. -/
def SavedTarget.Fits : SavedTarget → Prop
  | .static e => e.index < 2 ^ 64
  | .dynamic _ => True
  | .released => True

/-- Whether the fields of an image hold a saved handle. -/
structure SavedEntry.Fits (s : SavedEntry) : Prop where
  handle : HandleFits s.handle
  typeName : (Text.Utf8.encode s.typeName).length < 2 ^ 32
  target : s.target.Fits
  references : s.references < 2 ^ 32

/-- Whether the fields of an image hold a snapshot. -/
structure Snapshot.Fits (s : Snapshot) : Prop where
  nextHandle : HandleFits s.nextHandle
  length : s.entries.length < 2 ^ 32
  entries : ∀ entry ∈ s.entries, entry.Fits

/-! ## Parts -/

theorem handle_read {handle : Handle} (fits : HandleFits handle) (levels : Nat) :
    handleShape.read? levels (.int handle) = some handle := intWithin_read fits.1 fits.2 levels

theorem handle_storable {handle : Handle} (fits : HandleFits handle) (levels : Nat) :
    (Value.int handle).Storable levels := by
  obtain ⟨low, high⟩ := fits
  exact storable_int (Int.le_trans (by decide) low) (Int.lt_trans high (by decide)) levels

theorem int32_storable (i : Int32) (levels : Nat) :
    (Shape.int32.write i).Storable levels :=
  storable_int (Int.le_trans (by decide) i.le_toInt) (Int.lt_trans i.toInt_lt (by decide)) levels

theorem type_read (type : ScriptType) (levels : Nat) :
    typeShape.read? levels (typeShape.write type) = some type :=
  choice_read (by decide) (by cases type <;> decide) levels

theorem type_storable (type : ScriptType) (levels : Nat) :
    (typeShape.write type).Storable levels :=
  storable_str (by cases type <;> decide) levels

theorem entity_read {e : Entity} (fits : e.index < 2 ^ 64) (levels : Nat) :
    entityShape.read? (levels + 1) (entityShape.write e) = some e := by
  have fields := fields?_record ["ty", "index"] [typeShape.write e.type, .unsigned e.index]
    (by decide) rfl levels
  simp only [List.zip_cons_cons, List.zip_nil_left] at fields
  simp only [entityShape, fields, Option.bind_eq_bind, Option.bind_some, type_read,
    natBelow_read fits, Option.pure_def]

theorem entity_storable {e : Entity} (fits : e.index < 2 ^ 64) (levels : Nat) :
    (entityShape.write e).Storable (levels + 1) := by
  refine storable_record ["ty", "index"] [typeShape.write e.type, .unsigned e.index]
    (by decide) (by decide) ?_
  simp only [List.mem_cons, List.not_mem_nil, or_false, forall_eq_or_imp, forall_eq]
  exact ⟨type_storable e.type levels, by rwa [Value.Storable]⟩

def surfaceFields : List String :=
  ["drawing_color", "width", "height", "high_resolution_coordinates", "linked_bitmap_only",
    "modified"]

theorem surface_read (s : DrawingSurface) (levels : Nat) :
    surfaceShape.read? (levels + 1) (surfaceShape.write s) = some s := by
  have fields := fields?_record surfaceFields
    [Shape.int32.write s.color, Shape.int32.write s.width, Shape.int32.write s.height,
      Shape.int32.write s.highResolutionCoordinates, .bool s.linkedOnly, .bool s.modified]
    (by decide) rfl levels
  simp only [surfaceFields, List.zip_cons_cons, List.zip_nil_left] at fields
  simp only [surfaceShape, fields, Option.bind_eq_bind, Option.bind_some, int32_read,
    Shape.bool, Option.pure_def]

theorem surface_storable (s : DrawingSurface) (levels : Nat) :
    (surfaceShape.write s).Storable (levels + 1) := by
  refine storable_record surfaceFields
    [Shape.int32.write s.color, Shape.int32.write s.width, Shape.int32.write s.height,
      Shape.int32.write s.highResolutionCoordinates, .bool s.linkedOnly, .bool s.modified]
    (by decide) (by decide) ?_
  simp [int32_storable, Value.Storable]

theorem object_read (o : DynamicObject) (levels : Nat) :
    objectShape.read? (levels + 1) (objectShape.write o) = some o := by
  obtain ⟨s⟩ := o
  have found : case? ["DrawingSurface"] (.record [("DrawingSurface", surfaceShape.write s)]) =
      some (0, some (surfaceShape.write s)) :=
    case?_record (List.not_mem_nil) _
  simp only [objectShape, found, surface_read, Option.map_some]

theorem object_storable (o : DynamicObject) (levels : Nat) :
    (objectShape.write o).Storable (levels + 2) := by
  obtain ⟨s⟩ := o
  refine storable_record ["DrawingSurface"] [surfaceShape.write s] (by decide) (by decide) ?_
  simpa using surface_storable s levels

theorem target_read {t : SavedTarget} (fits : t.Fits) (levels : Nat) :
    targetShape.read? (levels + 1) (targetShape.write t) = some t := by
  cases t with
  | static e =>
    have found : case? ["Static", "Dynamic", "Released"]
        (.record [("Static", entityShape.write e)]) = some (0, some (entityShape.write e)) :=
      case?_record (List.not_mem_nil) _
    simp only [targetShape, found, entity_read fits, Option.map_some]
  | dynamic o =>
    have found : case? ["Static", "Dynamic", "Released"]
        (.record [("Dynamic", objectShape.write o)]) = some (1, some (objectShape.write o)) :=
      @case?_record ["Static"] ["Released"] "Dynamic" (by decide) _
    simp only [targetShape, found, object_read, Option.map_some]
  | released =>
    have found : case? ["Static", "Dynamic", "Released"] (.str "Released") = some (2, none) :=
      @case?_str ["Static", "Dynamic"] [] "Released" (by decide)
    simp only [targetShape, found]

theorem target_storable {t : SavedTarget} (fits : t.Fits) (levels : Nat) :
    (targetShape.write t).Storable (levels + 3) := by
  cases t with
  | static e =>
    refine storable_record ["Static"] [entityShape.write e] (by decide) (by decide) ?_
    simpa using entity_storable fits (levels + 1)
  | dynamic o =>
    refine storable_record ["Dynamic"] [objectShape.write o] (by decide) (by decide) ?_
    simpa using object_storable o levels
  | released => exact storable_str (by decide) _

def entryFields : List String := ["handle", "type_name", "ty", "target", "refs"]

theorem entry_read {s : SavedEntry} (fits : s.Fits) (levels : Nat) :
    entryShape.read? (levels + 2) (entryShape.write s) = some s := by
  have fields := fields?_record entryFields
    [.int s.handle, .str s.typeName, typeShape.write s.type, targetShape.write s.target,
      .unsigned s.references]
    (by decide) rfl (levels + 1)
  simp only [entryFields, List.zip_cons_cons, List.zip_nil_left] at fields
  simp only [entryShape, fields, Option.bind_eq_bind, Option.bind_some, handle_read fits.handle,
    text_read, type_read, target_read fits.target, natBelow_read fits.references, Option.pure_def]

theorem entry_storable {s : SavedEntry} (fits : s.Fits) (levels : Nat) :
    (entryShape.write s).Storable (levels + 4) := by
  refine storable_record entryFields
    [.int s.handle, .str s.typeName, typeShape.write s.type, targetShape.write s.target,
      .unsigned s.references]
    (by decide) (by decide) ?_
  have small : s.references < 2 ^ 64 := Nat.lt_trans fits.references (by decide)
  simp only [List.mem_cons, List.not_mem_nil, or_false, forall_eq_or_imp, forall_eq]
  exact ⟨handle_storable fits.handle _, storable_str fits.typeName _, type_storable s.type _,
    target_storable fits.target levels, by rwa [Value.Storable]⟩

/-! ## Snapshots -/

theorem snapshot_read {s : Snapshot} (fits : s.Fits) (levels : Nat) :
    snapshotShape.read? (levels + 4) (snapshotShape.write s) = some s := by
  have fields := fields?_record ["next_handle", "entries"]
    [.int s.nextHandle, (Shape.list entryShape).write s.entries] (by decide) rfl (levels + 3)
  have entries := list_read fun entry listed => entry_read (fits.entries entry listed) levels
  simp only [List.zip_cons_cons, List.zip_nil_left] at fields
  simp only [snapshotShape, fields, Option.bind_eq_bind, Option.bind_some,
    handle_read fits.nextHandle, entries, Option.pure_def]

theorem snapshot_storable {s : Snapshot} (fits : s.Fits) (levels : Nat) :
    (snapshotShape.write s).Storable (levels + 6) := by
  refine storable_record ["next_handle", "entries"]
    [.int s.nextHandle, (Shape.list entryShape).write s.entries] (by decide) (by decide) ?_
  -- the list is one level above its entries
  have entries : ((Shape.list entryShape).write s.entries).Storable (levels + 5) := by
    rw [Shape.list, Value.Storable]
    refine ⟨by simpa using fits.length, ?_⟩
    intro v listed
    obtain ⟨entry, member, rfl⟩ := List.mem_map.mp listed
    exact entry_storable (fits.entries entry member) levels
  simp only [List.mem_cons, List.not_mem_nil, or_false, forall_eq_or_imp, forall_eq]
  exact ⟨handle_storable fits.nextHandle _, entries⟩

theorem ofImage?_toImage {s : Snapshot} (fits : s.Fits) :
    Snapshot.ofImage? s.toImage = some s := by
  -- 1019 levels are left over below the six that a snapshot is deep
  have value := read?_write (snapshot_storable fits 1019)
  have read := snapshot_read fits 1019
  rw [Snapshot.ofImage?, Snapshot.toImage, show maxLevels + maxChoices = 1019 + 6 from rfl, value,
    Option.bind_some]
  exact read

end Adventure.Registry
