import Adventure.Json.Value
import Adventure.Session.Room
import Adventure.Text.Column

/-! # Summaries

What a session looks like from outside, as data, as JSON, and as lines of text.

* `RoomSummary` — a room, noted when it was entered.
* `Summary.ofSession` — the session now, with the rooms that were entered.
* `Summary.toJson`, `Summary.lines` — the two forms of a summary.
-/

namespace Adventure.Session

open Json

/-- A room that was entered. -/
structure RoomSummary where
  number : Int32
  width : Int32
  height : Int32
  hotspots : Nat
  objects : Nat
  regions : Nat
  boundNames : List String
  hasScript : Bool
  deriving DecidableEq, Repr

/-- The summary of a current room. -/
def RoomSummary.ofRoom (r : CurrentRoom) : RoomSummary where
  number := r.number
  width := r.data.width
  height := r.data.height
  hotspots := r.data.hotspots.length
  objects := r.data.objects.length
  regions := r.data.regions.length
  boundNames := r.boundNames
  hasScript := r.data.script.isSome

/-- A session from outside. -/
structure Summary where
  gameName : String
  resolution : UInt32 × UInt32
  handles : Nat
  /-- The numbers of handles by the names of their types, ascending by name, without zeros. -/
  handlesByType : List (String × Nat)
  symbols : Nat
  arrays : List StaticArray
  functions : Nat
  linkedScripts : List String
  plugins : List String
  rooms : List RoomSummary
  deriving DecidableEq, Repr

namespace Summary

/-- The numbers of handles by type. -/
def handleCounts (r : Registry) : List (String × Nat) :=
  (ScriptType.all.map fun type => (type.typeName, r.countOf type)).filter (0 < ·.2)

/-- The session now. -/
def ofSession (s : Session) (rooms : List RoomSummary) : Summary where
  gameName := s.game.name
  resolution := s.game.resolution
  handles := s.registry.size
  handlesByType := (handleCounts s.registry).mergeSort fun a b => a.1 ≤ b.1
  symbols := s.registry.symbols.size
  arrays := s.registry.symbols.arrays
  functions := s.registry.symbols.functionCount
  linkedScripts := s.scripts.names
  plugins := s.plugins.names
  rooms

/-! ## JSON -/

def arrayJson (a : StaticArray) : Value :=
  .obj [("symbol", .str a.symbol), ("type_name", .str a.type.typeName),
    ("element_stride", .nat a.stride), ("element_count", .nat a.count)]

def roomJson (r : RoomSummary) : Value :=
  .obj [("number", .int r.number.toInt), ("width", .int r.width.toInt),
    ("height", .int r.height.toInt), ("hotspots", .nat r.hotspots), ("objects", .nat r.objects),
    ("regions", .nat r.regions), ("bound_names", .texts r.boundNames),
    ("has_script", .bool r.hasScript)]

/-- The summary in JSON. -/
def toJson (s : Summary) : Value :=
  .obj [
    ("game_name", .str s.gameName),
    ("resolution", .arr [.nat s.resolution.1.toNat, .nat s.resolution.2.toNat]),
    ("handles", .nat s.handles),
    ("handles_by_type", .obj (s.handlesByType.map fun (name, count) => (name, .nat count))),
    ("symbols", .nat s.symbols),
    ("static_arrays", .arr (s.arrays.map arrayJson)),
    ("functions", .nat s.functions),
    ("linked_scripts", .texts s.linkedScripts),
    ("plugins", .texts s.plugins),
    ("rooms", .arr (s.rooms.map roomJson))]

/-! ## Lines -/

/-- Width and height. -/
def sizeText (width height : Int) : String := s!"{width}x{height}"

def countLine : String × Nat → String
  | (name, count) => "  " ++ Text.padRight 24 name ++ " " ++ Text.padLeft 5 (toString count)

def arrayLine (a : StaticArray) : String :=
  "  - " ++ Text.padRight 12 a.symbol ++ " " ++ Text.padRight 12 a.type.typeName ++ " "
    ++ Text.padLeft 4 (toString a.count) ++ " x " ++ Text.padLeft 3 (toString a.stride) ++ " bytes"

/-- A room after a blank line. -/
def roomLines (r : RoomSummary) : List String :=
  ["", s!"Room {r.number.toInt}: {sizeText r.width.toInt r.height.toInt} | hotspots: {r.hotspots}"
    ++ s!" | objects: {r.objects} | regions: {r.regions}"
    ++ if r.hasScript then " | scripted" else ""]
    ++ if r.boundNames.isEmpty then [] else ["  names: " ++ ", ".intercalate r.boundNames]

/-- The summary in lines. Sections without content are left out, save that of arrays. -/
def lines (s : Summary) : List String :=
  [s!"Game: {s.gameName} ({sizeText s.resolution.1.toNat s.resolution.2.toNat})",
    s!"Registered handles: {s.handles} | global symbols: {s.symbols}"
      ++ s!" | engine functions: {s.functions}"]
    ++ s.handlesByType.map countLine
    ++ ["", "Static arrays:"] ++ s.arrays.map arrayLine
    ++ (if s.linkedScripts.isEmpty then []
      else ["", "Linked scripts (in order):"] ++ s.linkedScripts.map ("  - " ++ ·))
    ++ (if s.plugins.isEmpty then [] else ["", "Plugins: " ++ ", ".intercalate s.plugins])
    ++ s.rooms.flatMap roomLines

end Summary

end Adventure.Session
