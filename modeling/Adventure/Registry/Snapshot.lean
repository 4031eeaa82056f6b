import Adventure.Registry.Basic

/-! # Snapshots of the handle table

A `Snapshot` is the handle table as a save holds it: objects made at run time stand in it
themselves, since their keys mean nothing elsewhere.

* `Registry.snapshot` — the table now.
* `Registry.restore` — another table in place of it. Objects of the old table are disposed of, those
  of the snapshot made anew; symbols stay.
-/

namespace Adventure.Registry

/-- What a handle stands for, as a save holds it. -/
inductive SavedTarget where
  | static (e : Entity)
  | dynamic (o : DynamicObject)
  | released
  deriving DecidableEq, Repr

/-- A handle, as a save holds it. -/
structure SavedEntry where
  handle : Handle
  typeName : String
  type : ScriptType
  target : SavedTarget
  references : Nat
  deriving DecidableEq, Repr

/-- A handle table, as a save holds it. -/
structure Snapshot where
  nextHandle : Handle
  entries : List SavedEntry
  deriving DecidableEq, Repr

/-- A target as a save holds it. What is gone from the world is saved as released. -/
def savedTarget (objects : Arena DynamicObject) : Option Target → SavedTarget
  | some (.static e) => .static e
  | some (.dynamic key) => ((objects.get? key).map .dynamic).getD .released
  | none => .released

/-- The table now. -/
def snapshot (r : Registry) (objects : Arena DynamicObject) : Snapshot where
  nextHandle := r.nextHandle
  entries := r.entries.toList.map fun (handle, e) =>
    { handle, typeName := e.type.typeName, type := e.type
      target := savedTarget objects e.target, references := e.references }

/-- The objects without those that the table holds. -/
def disposeAll (r : Registry) (objects : Arena DynamicObject) : Arena DynamicObject :=
  r.entries.toList.foldl
    (fun objects (_, e) =>
      match e.target with
      | some (.dynamic key) => objects.erase key
      | _ => objects)
    objects

/-- Makes the target of a saved entry. -/
def reviveTarget (objects : Arena DynamicObject) :
    SavedTarget → Option Target × Arena DynamicObject
  | .static e => (some (.static e), objects)
  | .dynamic o => let (key, objects) := objects.insert o; (some (.dynamic key), objects)
  | .released => (none, objects)

/-- Puts a saved entry into the table; an entry with the same handle gives way. -/
def revive (r : Registry) (objects : Arena DynamicObject) (s : SavedEntry) :
    Registry × Arena DynamicObject :=
  let (target, objects) := reviveTarget objects s.target
  ({ r with
      entries := r.entries.insert s.handle
        { type := s.type, target, references := s.references }
      byTarget := match target with
        | some target => ((target, s.type), s.handle) :: r.byTarget
        | none => r.byTarget },
    objects)

/-- The largest handle in the table, zero if it is empty. -/
def highestHandle (r : Registry) : Handle := r.entries.maxKey?.getD 0

/-- The table of a snapshot in place of another. The next handle exceeds all in the table. -/
def restored (r : Registry) (objects : Arena DynamicObject) (s : Snapshot) :
    Registry × Arena DynamicObject :=
  let objects := r.disposeAll objects
  let cleared : Registry := { r with entries := ∅, byTarget := [] }
  let (r, objects) :=
    s.entries.foldl (fun (r, objects) saved => r.revive objects saved) (cleared, objects)
  ({ r with nextHandle := max s.nextHandle (r.highestHandle + 1) }, objects)

/-- Replaces the table by that of a snapshot, unless no handle exceeds those of the snapshot. -/
def restore (r : Registry) (objects : Arena DynamicObject) (s : Snapshot) :
    Except Fault (Registry × Arena DynamicObject) :=
  let (r, objects) := r.restored objects s
  if maxHandle ≤ r.highestHandle then .error .overflow else .ok (r, objects)

end Adventure.Registry
