/-! # Room format revisions

Rooms are stored in one of 23 revisions of a format. Later revisions store more; what a revision
lacks has a historical default.
-/

namespace Adventure.Room

/-- A revision of the room format. -/
structure Version where
  number : Nat
  deriving DecidableEq, Repr

namespace Version

instance : LE Version := ⟨fun v w => v.number ≤ w.number⟩
instance : LT Version := ⟨fun v w => v.number < w.number⟩
instance (v w : Version) : Decidable (v ≤ w) := inferInstanceAs (Decidable (v.number ≤ w.number))
instance (v w : Version) : Decidable (v < w) := inferInstanceAs (Decidable (v.number < w.number))

def v208 : Version := ⟨18⟩
def v240 : Version := ⟨20⟩
def v250b : Version := ⟨23⟩
def v251 : Version := ⟨24⟩
def v255a : Version := ⟨26⟩
def v255b : Version := ⟨27⟩
def v261 : Version := ⟨28⟩
def v262 : Version := ⟨29⟩
def v270 : Version := ⟨30⟩
def v300a : Version := ⟨32⟩
def v303b : Version := ⟨35⟩
def v3508 : Version := ⟨39⟩
def v360 : Version := ⟨40⟩

/-- The revision that is written today. -/
def current : Version := v360

/-- Whether rooms of this revision can be read and written. -/
def isSupported (v : Version) : Bool := v208 ≤ v && v ≤ current

/-- Most hotspots that a room of this revision holds. -/
def maxHotspots (v : Version) : Nat := if v < v262 then 20 else if v < v300a then 30 else 50

/-- Most objects that a room of this revision holds. -/
def maxObjects (v : Version) : Nat := if v < v360 then 40 else 256

end Version

end Adventure.Room
