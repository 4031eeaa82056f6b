import Adventure.Game.Basic

/-! # Loading fonts

Fonts are drawn elsewhere; a session only asks for each font slot of its game to be made available
at a size, and needs all of them.

* `requests?` — what a game asks for.
* `load` — asks in order, up to the first refusal.
* `Directory.find?` — the file for a slot among the files of a directory.
-/

namespace Adventure.Font

/-- A font slot and the size to load it at. -/
structure Request where
  slot : Nat
  size : Nat
  deriving DecidableEq, Repr

/-- What a game asks for, slot after slot. None if it cannot be told at what size: then nothing is
asked for, as the first slot needs the size already. -/
def requests? (g : Game) : Option (List Request) :=
  if g.fonts.isEmpty then some []
  else g.scalesFonts?.map fun scales =>
    g.fonts.mapIdx fun slot font => { slot, size := font.loadSize scales }

/-- Asks for fonts in order. The answer holds what was asked, and the slot that was refused. -/
def load (accepts : Request → Bool) : List Request → List Request × Option Nat
  | [] => ([], none)
  | r :: rest =>
    if accepts r then
      let (asked, refused) := load accepts rest
      (r :: asked, refused)
    else ([r], some r.slot)

/-- The names that the file for a slot may have, the preferred one first. -/
def fileNames (slot : Nat) : List String := [s!"agsfnt{slot}.ttf", s!"agsfnt{slot}.wfn"]

/-- The file for a slot among the files of a directory. -/
def file? (isFile : String → Bool) (slot : Nat) : Option String :=
  (fileNames slot).find? isFile

/-- The requests that a directory can serve, each with its file. -/
def served (isFile : String → Bool) (requests : List Request) : List (Request × String) :=
  requests.filterMap fun r => (file? isFile r.slot).map (r, ·)

end Adventure.Font
