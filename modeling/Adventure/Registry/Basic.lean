import Adventure.Registry.Symbols

/-! # The registry

The registry gives out handles for targets, counts the references that scripts hold, and keeps the
global symbols. Handles count up from 1 and are never given out twice. The registry holds targets
only; the records are in the world. Handles and counts have 32 bits, and a request that would go
beyond them ends the program.

* `register` — the handle of a target under a type, a new one if there is none.
* `addReference`, `release` — the count; an object made at run time goes with its last reference.
  `addReferenceInPlace` and `releaseInPlace` are the calls as they are carried out.
* `resolve`, `state`, `ownership` — what a handle stands for and how it is doing.
* `bindHandle`, `registerAs`, … — global names.
-/

namespace Adventure

open Std (ExtTreeMap)

namespace Registry

/-- Who the object behind a handle belongs to. -/
inductive Ownership where
  /-- The game, for the whole session. -/
  | static
  /-- The scripts that hold references to it. -/
  | dynamic
  deriving DecidableEq, Repr

/-- How a handle is doing. -/
inductive HandleState where
  | unregistered
  | registered
  | referenced (count : Nat)
  | released
  deriving DecidableEq, Repr

/-- What the registry knows about a handle. -/
structure Entry where
  type : ScriptType
  /-- None once the object is gone. -/
  target : Option Target
  references : Nat
  deriving DecidableEq, Repr

end Registry

/-- Handles and global symbols. -/
structure Registry where
  entries : ExtTreeMap Handle Registry.Entry := ∅
  /-- The handle of a target under a type; an earlier pair hides later ones. -/
  byTarget : List ((Target × ScriptType) × Handle) := []
  nextHandle : Handle := 1
  symbols : SymbolTable := ∅

namespace Registry

/-! ## Handles -/

/-- The largest handle there is. -/
def maxHandle : Handle := Int32.maxValue.toInt

/-- The number of handles in the table, those of objects that are gone included. -/
def size (r : Registry) : Nat := r.entries.size

/-- The handles of a type whose objects are there, ascending. -/
def handlesOf (r : Registry) (type : ScriptType) : List Handle :=
  (r.entries.toList.filter fun (_, e) => e.type = type && e.target.isSome).map (·.1)

/-- The number of objects of a type that have a handle. -/
def countOf (r : Registry) (type : ScriptType) : Nat := (r.handlesOf type).length

/-- The handle of a target under a type. -/
def handleFor (r : Registry) (target : Target) (type : ScriptType) : Option Handle :=
  r.byTarget.lookup (target, type)

/-- The handle of a target under a type, and the registry with it. A new handle is the next. -/
def registered (r : Registry) (target : Target) (type : ScriptType) : Handle × Registry :=
  match r.handleFor target type with
  | some handle => (handle, r)
  | none =>
    (r.nextHandle,
      { r with
        entries := r.entries.insert r.nextHandle { type, target := some target, references := 0 }
        byTarget := ((target, type), r.nextHandle) :: r.byTarget
        nextHandle := r.nextHandle + 1 })

/-- The handle of a target under a type, a new one if there is none. No new handle can be given
once the counter stands at the largest. -/
def register (r : Registry) (target : Target) (type : ScriptType) :
    Except Fault (Handle × Registry) :=
  if r.handleFor target type = none ∧ maxHandle ≤ r.nextHandle then .error .overflow
  else .ok (r.registered target type)

/-- A handle with the object it stands for. -/
structure Live where
  target : Target
  type : ScriptType
  references : Nat
  deriving DecidableEq, Repr

/-- What a handle stands for, provided that it is there. -/
def live (r : Registry) (handle : Handle) : Except Fault Live :=
  match r.entries[handle]? with
  | none => .error (.invalidHandle handle)
  | some e =>
    match e.target with
    | none => .error (.staleHandle handle)
    | some target => .ok { target, type := e.type, references := e.references }

/-- Target and type of a handle. -/
def resolve (r : Registry) (handle : Handle) : Except Fault (Target × ScriptType) :=
  (r.live handle).map fun l => (l.target, l.type)

/-- The owner of a target. -/
def ownershipOf : Target → Ownership
  | .static _ => .static
  | .dynamic _ => .dynamic

/-- The owner of the object behind a handle. -/
def ownership (r : Registry) (handle : Handle) : Except Fault Ownership :=
  (r.live handle).map fun l => ownershipOf l.target

/-- How a handle is doing. -/
def state (r : Registry) (handle : Handle) : HandleState :=
  match r.entries[handle]? with
  | none => .unregistered
  | some e =>
    match e.target with
    | none => .released
    | some _ => if e.references = 0 then .registered else .referenced e.references

/-! ## References -/

/-- Replaces the count of a handle that is there. -/
def withReferences (r : Registry) (handle : Handle) (l : Live) (references : Nat) : Registry :=
  { r with
    entries := r.entries.insert handle { type := l.type, target := some l.target, references } }

/-- The largest count of references. -/
def maxReferences : Nat := UInt32.size - 1

/-- Counts one more reference and answers the count. -/
def addReferenceInPlace (handle : Handle) : InPlace Fault Registry Nat := do
  let l ← InPlace.ask (·.live handle)
  if maxReferences ≤ l.references then throw .overflow
  else
    modify (·.withReferences handle l (l.references + 1))
    return l.references + 1

/-- The count with one more reference, and the registry with it. -/
def addReference (r : Registry) (handle : Handle) : Except Fault (Nat × Registry) :=
  (addReferenceInPlace handle).result r

/-- The registry after the object behind a handle is gone. -/
def forget (r : Registry) (handle : Handle) (l : Live) : Registry :=
  { r with
    entries := r.entries.insert handle { type := l.type, target := none, references := 0 }
    byTarget := r.byTarget.filter (·.1 ≠ (l.target, l.type)) }

/-- Counts one reference less. An object made at run time is disposed of with its last reference;
entities of the game stay. -/
def releaseInPlace (handle : Handle) :
    InPlace Fault (Registry × Arena DynamicObject) HandleState := do
  let l ← InPlace.ask (·.1.live handle)
  let references := l.references - 1
  modify fun table => (table.1.withReferences handle l references, table.2)
  match l.target with
  | .static _ => return (← get).1.state handle
  | .dynamic key =>
    if 0 < references then return (← get).1.state handle
    else
      modify fun table => (table.1.forget handle l, table.2)
      modify fun table => (table.1, table.2.erase key)
      return .released

/-- The same from a registry and the objects. -/
def release (r : Registry) (objects : Arena DynamicObject) (handle : Handle) :
    Except Fault (HandleState × Registry × Arena DynamicObject) :=
  (releaseInPlace handle).result (r, objects)

/-! ## Fields -/

/-- The word at a byte offset behind a handle. -/
def readField (r : Registry) (w : World) (handle : Handle) (offset : Int) :
    Except Fault Int32 := do
  let l ← r.live handle
  w.read l.target (.staleHandle handle) offset

/-- Stores a word at a byte offset behind a handle. -/
def writeFieldInPlace (r : Registry) (handle : Handle) (offset : Int) (v : Int32) :
    InPlace Fault World Unit := do
  let l ← InPlace.ask fun _ => r.live handle
  World.writeInPlace l.target (.staleHandle handle) offset v

/-- The world with a word at a byte offset behind a handle replaced. -/
def writeField (r : Registry) (w : World) (handle : Handle) (offset : Int) (v : Int32) :
    Except Fault World :=
  ((r.writeFieldInPlace handle offset v).result w).map (·.2)

/-! ## Global symbols -/

/-- Binds a free name. -/
def bindSymbol (r : Registry) (name : String) (symbol : Symbol) : Except Fault Registry := do
  return { r with symbols := ← r.symbols.bind name symbol }

/-- Binds a free name to a handle. -/
def bindHandle (r : Registry) (name : String) (handle : Handle) : Except Fault Registry := do
  let l ← r.live handle
  r.bindSymbol name (.object handle l.type)

/-- Registers a target under a free name; if the name is taken, nothing is registered. -/
def registerAs (r : Registry) (name : String) (target : Target) (type : ScriptType) :
    Except Fault (Handle × Registry) :=
  if r.symbols.contains name then .error (.duplicateSymbol name)
  else do
    let (handle, r) ← r.register target type
    return (handle, ← r.bindHandle name handle)

/-- Binds a free name to an entity. -/
def bindEntity (r : Registry) (name : String) (e : Entity) : Except Fault Registry :=
  r.bindSymbol name (.entity e)

/-- Binds a free name to a function of the engine. -/
def bindFunction (r : Registry) (name : String) : Except Fault Registry :=
  r.bindSymbol name .function

/-- Binds a free name to an array. -/
def exportArray (r : Registry) (symbol : String) (base : Nat) (type : ScriptType)
    (stride count : Nat) : Except Fault Registry := do
  let a ← StaticArray.make symbol type base stride count
  r.bindSymbol symbol (.array a)

/-- Frees a name. What it stood for stays registered. -/
def unbind (r : Registry) (name : String) : Registry :=
  { r with symbols := r.symbols.unbind name }

end Registry

end Adventure
