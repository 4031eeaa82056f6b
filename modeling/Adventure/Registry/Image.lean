import Adventure.MessagePack.Reader
import Adventure.MessagePack.Shape
import Adventure.MessagePack.Writer
import Adventure.Registry.Snapshot

/-! # Save images

The snapshot of a handle table as MessagePack.

* `Snapshot.toImage` — records as maps from the names of their fields.
* `Snapshot.ofImage?` — the snapshot in an image; what follows it is ignored.
-/

namespace Adventure.Registry

open MessagePack

def typeShape : Shape ScriptType := .choice ScriptType.tag ScriptType.all

def handleShape : Shape Int := .intWithin (-2 ^ 31) (2 ^ 31)

def entityShape : Shape Entity where
  write e := .record [("ty", typeShape.write e.type), ("index", .unsigned e.index)]
  read? levels v := do
    let (levels, [type, index]) ← fields? ["ty", "index"] levels v | none
    return {
      type := ← typeShape.read? levels type
      index := ← (Shape.natBelow (2 ^ 64)).read? levels index }

def surfaceShape : Shape DrawingSurface where
  write s := .record [
    ("drawing_color", Shape.int32.write s.color),
    ("width", Shape.int32.write s.width),
    ("height", Shape.int32.write s.height),
    ("high_resolution_coordinates", Shape.int32.write s.highResolutionCoordinates),
    ("linked_bitmap_only", .bool s.linkedOnly),
    ("modified", .bool s.modified)]
  read? levels v := do
    let (levels, [color, width, height, high, linked, modified]) ←
      fields? ["drawing_color", "width", "height", "high_resolution_coordinates",
        "linked_bitmap_only", "modified"] levels v | none
    return {
      color := ← Shape.int32.read? levels color
      width := ← Shape.int32.read? levels width
      height := ← Shape.int32.read? levels height
      highResolutionCoordinates := ← Shape.int32.read? levels high
      linkedOnly := ← Shape.bool.read? levels linked
      modified := ← Shape.bool.read? levels modified }

def objectShape : Shape DynamicObject where
  write
    | .surface s => .record [("DrawingSurface", surfaceShape.write s)]
  read? levels v :=
    match case? ["DrawingSurface"] v with
    | some (_, some content) => (surfaceShape.read? levels content).map .surface
    | _ => none

def targetShape : Shape SavedTarget where
  write
    | .static e => .record [("Static", entityShape.write e)]
    | .dynamic o => .record [("Dynamic", objectShape.write o)]
    | .released => .str "Released"
  read? levels v :=
    match case? ["Static", "Dynamic", "Released"] v with
    | some (0, some content) => (entityShape.read? levels content).map .static
    | some (1, some content) => (objectShape.read? levels content).map .dynamic
    | some (2, none) => some .released
    | some (2, some .nil) => some .released
    | _ => none

def entryShape : Shape SavedEntry where
  write s := .record [
    ("handle", .int s.handle),
    ("type_name", .str s.typeName),
    ("ty", typeShape.write s.type),
    ("target", targetShape.write s.target),
    ("refs", .unsigned s.references)]
  read? levels v := do
    let (levels, [handle, typeName, type, target, references]) ←
      fields? ["handle", "type_name", "ty", "target", "refs"] levels v | none
    return {
      handle := ← handleShape.read? levels handle
      typeName := ← Shape.text.read? levels typeName
      type := ← typeShape.read? levels type
      target := ← targetShape.read? levels target
      references := ← (Shape.natBelow (2 ^ 32)).read? levels references }

def snapshotShape : Shape Snapshot where
  write s := .record [
    ("next_handle", .int s.nextHandle),
    ("entries", (Shape.list entryShape).write s.entries)]
  read? levels v := do
    let (levels, [nextHandle, entries]) ← fields? ["next_handle", "entries"] levels v | none
    return {
      nextHandle := ← handleShape.read? levels nextHandle
      entries := ← (Shape.list entryShape).read? levels entries }

/-- The image of a snapshot. -/
def Snapshot.toImage (s : Snapshot) : Bytes := (snapshotShape.write s).write

/-- Most levels of an image. -/
def maxLevels : Nat := 1023

/-- Most maps of choices one within another: that of a target and that of its object. They stand in
an image beside its levels. -/
def maxChoices : Nat := 2

/-- The snapshot in an image. -/
def Snapshot.ofImage? (bytes : Bytes) : Option Snapshot :=
  (Value.read? (maxLevels + maxChoices) bytes).bind (snapshotShape.read? maxLevels)

end Adventure.Registry
