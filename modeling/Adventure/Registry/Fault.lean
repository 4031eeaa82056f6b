import Adventure.Registry.Target

/-! # What scripts get wrong about objects

Faults of handles, names, arrays and fields.
-/

namespace Adventure.Registry

/-- Why an object could not be reached or changed. -/
inductive Fault where
  /-- The handle was never given out. -/
  | invalidHandle (handle : Handle)
  /-- The object of the handle is gone. -/
  | staleHandle (handle : Handle)
  | invalidOffset (type : ScriptType) (offset : Int)
  | readOnly (type : ScriptType) (offset : Int)
  | duplicateSymbol (name : String)
  | indexOutOfRange (symbol : String) (index : Int) (count : Nat)
  | invalidStride (symbol : String) (stride natural : Nat)
  | unknownSymbol (name : String)
  /-- A number does not fit its bits: the program stops. -/
  | overflow
  deriving DecidableEq, Repr

/-- The wording of a fault. -/
def Fault.message : Fault → String
  | .invalidHandle handle => s!"invalid managed object handle {handle}"
  | .staleHandle handle => s!"managed object handle {handle} refers to a released object"
  | .invalidOffset type offset => s!"{type.typeName}: unsupported variable offset {offset}"
  | .readOnly type offset =>
    s!"{type.typeName}: attempt to write readonly variable at offset {offset}"
  | .duplicateSymbol name => s!"symbol '{name}' is already registered"
  | .indexOutOfRange symbol index count =>
    s!"index {index} out of range for array '{symbol}' of {count} elements"
  | .invalidStride symbol stride natural =>
    s!"array '{symbol}' stride {stride} is smaller than its element size {natural}"
  | .unknownSymbol name => s!"unknown symbol '{name}'"
  | .overflow => "attempt to add with overflow"

end Adventure.Registry
