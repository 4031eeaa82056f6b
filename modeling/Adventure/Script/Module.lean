import Adventure.Json.Shape

/-! # Compiled scripts

What linking sees of a compiled script: the symbols it provides and the symbols it needs.
-/

namespace Adventure.Script

/-- A compiled script. -/
structure Module where
  name : String
  exports : List String := []
  imports : List String := []
  deriving DecidableEq, Repr

namespace Module

open Json

/-- Whether the script provides `symbol`. -/
def exportsSymbol (m : Module) (symbol : String) : Bool := m.exports.contains symbol

/-- The name is required. -/
def shape : Shape Module :=
  .record { name := "" } [
    requiredField "name" .text (·.name) (fun x m => { m with name := x }),
    field "exports" (.list .text) (·.exports) (fun x m => { m with exports := x }),
    field "imports" (.list .text) (·.imports) (fun x m => { m with imports := x })]

end Module

end Adventure.Script
