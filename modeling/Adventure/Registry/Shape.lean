import Adventure.Json.Shape
import Adventure.Registry.Snapshot

/-! # The registry in JSON

Targets, snapshots and symbols in JSON. A value that is one of several cases is an object with the
name of the case as its only member.
-/

namespace Adventure

open Json

def ScriptType.shape : Shape ScriptType := .choice tag all

def Entity.shape : Shape Entity :=
  .record ⟨.audioChannel, 0⟩ [
    requiredField "ty" ScriptType.shape (·.type) (fun x e => { e with type := x }),
    requiredField "index" .index (·.index) (fun x e => { e with index := x })]

def Arena.Key.shape : Shape Arena.Key :=
  .record ⟨0, 0⟩ [
    requiredField "index" .index (·.index) (fun x k => { k with index := x }),
    requiredField "generation" .index (·.generation) (fun x k => { k with generation := x })]

def Target.shape : Shape Target where
  write
    | .static e => .obj [("Static", Entity.shape.write e)]
    | .dynamic key => .obj [("Dynamic", Arena.Key.shape.write key)]
  read? v :=
    match case? v with
    | some ("Static", content) => (Entity.shape.read? content).map .static
    | some ("Dynamic", content) => (Arena.Key.shape.read? content).map .dynamic
    | _ => none

def DrawingSurface.shape : Shape DrawingSurface :=
  .record (.linked 0 0) [
    requiredField "drawing_color" .int32 (·.color) (fun x s => { s with color := x }),
    requiredField "width" .int32 (·.width) (fun x s => { s with width := x }),
    requiredField "height" .int32 (·.height) (fun x s => { s with height := x }),
    requiredField "high_resolution_coordinates" .int32 (·.highResolutionCoordinates)
      (fun x s => { s with highResolutionCoordinates := x }),
    requiredField "linked_bitmap_only" .bool (·.linkedOnly) (fun x s => { s with linkedOnly := x }),
    requiredField "modified" .bool (·.modified) (fun x s => { s with modified := x })]

def DynamicObject.shape : Shape DynamicObject where
  write
    | .surface s => .obj [("DrawingSurface", DrawingSurface.shape.write s)]
  read? v :=
    match case? v with
    | some ("DrawingSurface", content) => (DrawingSurface.shape.read? content).map .surface
    | _ => none

namespace Registry

/-- Released targets are written as the name of their case alone. -/
def SavedTarget.shape : Shape SavedTarget where
  write
    | .static e => .obj [("Static", Entity.shape.write e)]
    | .dynamic o => .obj [("Dynamic", DynamicObject.shape.write o)]
    | .released => .str "Released"
  read? v :=
    match case? v with
    | some ("Static", content) => (Entity.shape.read? content).map .static
    | some ("Dynamic", content) => (DynamicObject.shape.read? content).map .dynamic
    | some ("Released", .null) => some .released
    | _ => none

def SavedEntry.shape : Shape SavedEntry :=
  .record { handle := 0, typeName := "", type := .audioChannel, target := .released,
            references := 0 } [
    requiredField "handle" .integer (·.handle) (fun x e => { e with handle := x }),
    requiredField "type_name" .text (·.typeName) (fun x e => { e with typeName := x }),
    requiredField "ty" ScriptType.shape (·.type) (fun x e => { e with type := x }),
    requiredField "target" SavedTarget.shape (·.target) (fun x e => { e with target := x }),
    requiredField "refs" (.natBelow (2 ^ 32)) (·.references)
      (fun x e => { e with references := x })]

def Snapshot.shape : Shape Snapshot :=
  .record ⟨1, []⟩ [
    requiredField "next_handle" .integer (·.nextHandle) (fun x s => { s with nextHandle := x }),
    requiredField "entries" (.list SavedEntry.shape) (·.entries)
      (fun x s => { s with entries := x })]

/-- How a handle is doing: the state, with the count where there is one. -/
def HandleState.toJson : HandleState → Value
  | .unregistered => .str "unregistered"
  | .registered => .str "registered"
  | .referenced n => .arr [.str "referenced", .nat n]
  | .released => .str "released"

end Registry

/-- The kind of a symbol. -/
def Symbol.kindName : Symbol → String
  | .object _ _ => "object"
  | .entity _ => "static object"
  | .array _ => "array"
  | .function => "function"

/-- What a symbol of its kind stands for. -/
def Symbol.detail : Symbol → Value
  | .object handle type => .arr [.int handle, ScriptType.shape.write type]
  | .entity e => .arr [ScriptType.shape.write e.type, .nat e.index]
  | .array a =>
    .arr [.str a.symbol, ScriptType.shape.write a.type, .nat a.base, .nat a.stride, .nat a.count]
  | .function => .null

/-- Kind and detail of a symbol. -/
def Symbol.toJson (s : Symbol) : Value := .arr [.str s.kindName, s.detail]

end Adventure
