import Std.Data.ExtTreeMap
import Adventure.Registry.StaticArray

/-! # Global symbols

The names that scripts can import, with what they stand for. A name is never bound twice.
-/

namespace Adventure

open Std (ExtTreeMap)

/-- What a global name stands for. -/
inductive Symbol where
  /-- An object, through its handle. -/
  | object (handle : Handle) (type : ScriptType)
  /-- An entity, without a handle. -/
  | entity (e : Entity)
  | array (a : StaticArray)
  /-- A function of the engine. -/
  | function
  deriving DecidableEq, Repr

/-- Symbols by name. -/
structure SymbolTable where
  symbols : ExtTreeMap String Symbol := ∅

namespace SymbolTable

open Registry (Fault)

instance : EmptyCollection SymbolTable := ⟨{}⟩

def get? (t : SymbolTable) (name : String) : Option Symbol := t.symbols[name]?

def contains (t : SymbolTable) (name : String) : Bool := (t.get? name).isSome

/-- Binds a name that is free. -/
def bind (t : SymbolTable) (name : String) (symbol : Symbol) : Except Fault SymbolTable :=
  if t.contains name then .error (.duplicateSymbol name)
  else .ok { symbols := t.symbols.insert name symbol }

/-- Frees a name. -/
def unbind (t : SymbolTable) (name : String) : SymbolTable :=
  { symbols := t.symbols.erase name }

/-- What a name stands for. -/
def resolve (t : SymbolTable) (name : String) : Except Fault Symbol :=
  match t.get? name with
  | some symbol => .ok symbol
  | none => .error (.unknownSymbol name)

/-- The array that a name stands for. -/
def array (t : SymbolTable) (name : String) : Except Fault StaticArray :=
  match t.get? name with
  | some (.array a) => .ok a
  | _ => .error (.unknownSymbol name)

def size (t : SymbolTable) : Nat := t.symbols.size

/-- Names and symbols, ascending by name. -/
def toList (t : SymbolTable) : List (String × Symbol) := t.symbols.toList

/-- The arrays, ascending by name. -/
def arrays (t : SymbolTable) : List StaticArray :=
  t.toList.filterMap fun
    | (_, .array a) => some a
    | _ => none

/-- The number of functions. -/
def functionCount (t : SymbolTable) : Nat := t.toList.countP (·.2 = .function)

end SymbolTable

end Adventure
