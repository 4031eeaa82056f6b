import Adventure.Arena
import Adventure.ScriptType

/-! # Targets of handles

Scripts hold handles; a handle stands for a target. A target is an entity of the game, by type and
index, or an object that was made while the game ran, by its key.
-/

namespace Adventure

/-- A number that scripts hold in place of an object. Zero stands for none. -/
abbrev Handle := Int

/-- An entity of the game: its type and its index among those of the type. -/
structure Entity where
  type : ScriptType
  index : Nat
  deriving DecidableEq, Repr

/-- What a handle stands for. -/
inductive Target where
  | static (entity : Entity)
  | dynamic (key : Arena.Key)
  deriving DecidableEq, Repr

/-- Whether the object was made while the game ran. -/
def Target.isDynamic : Target → Bool
  | static _ => false
  | dynamic _ => true

end Adventure
