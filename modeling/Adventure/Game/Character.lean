import Adventure.Json.Shape

/-! # Characters

A character has names, item counts and a block of 39 integers. Scripts address the block by byte
offset: integer `i` lies at offset `4 * i`, in the order of the table of fields.
-/

namespace Adventure.Game

/-- The number of integers in a character's block. -/
abbrev Character.wordCount : Nat := 39

/-- The integer fields of a character in the order of their offsets, with the values of a
character that its author left alone. -/
def Character.fieldTable : Vector (String × Int32) Character.wordCount := #v[
  ("defview", 0), ("talkview", -1), ("view", 0), ("room", 0), ("prevroom", -1),
  ("x", 0), ("y", 0), ("wait", 0), ("flags", 0), ("following", -1),
  ("followinfo", 0), ("idleview", -1), ("idletime", 20), ("idleleft", 20),
  ("transparency", 0), ("baseline", -1), ("activeinv", -1), ("talkcolor", 0),
  ("thinkview", -1), ("blinkview", -1), ("blinkinterval", 140), ("blinktimer", 0),
  ("blinkframe", 0), ("walkspeed_y", 0), ("pic_yoffs", 0), ("z", 0),
  ("walkwait", -1), ("speech_anim_speed", 5), ("idle_anim_speed", 5),
  ("blocking_width", 0), ("blocking_height", 0), ("index_id", 0),
  ("pic_xoffs", 0), ("loop_", 0), ("frame", 0), ("walking", 0),
  ("animating", 0), ("walkspeed", 3), ("animspeed", 5)]

/-- Index of an integer field. -/
abbrev Character.Slot := Fin Character.wordCount

namespace Character.Slot

def previousRoom : Slot := 4
def x : Slot := 5
def blinkInterval : Slot := 20
def blinkTimer : Slot := 21
def pictureYOffset : Slot := 24
def walkWait : Slot := 26
def blockingWidth : Slot := 29
def blockingHeight : Slot := 30
/-- The character's own number, which scripts may not change. -/
def indexId : Slot := 31
def pictureXOffset : Slot := 32
def loop : Slot := 33
def frame : Slot := 34
def walking : Slot := 35
def animating : Slot := 36

end Character.Slot

/-- A character. -/
structure Character where
  name : String := ""
  scriptName : String := ""
  words : Vector Int32 Character.wordCount := Character.fieldTable.map (·.2)
  /-- Item counts by item number. -/
  inventory : List Int32 := []
  deriving DecidableEq

namespace Character

open Json

/-- Changes one integer field. -/
def set (c : Character) (slot : Slot) (value : Int32) : Character :=
  { c with words := c.words.set slot value }

/-- What becomes of the integer fields when a session starts: the character with number `index`
stands still, in no room before its first. -/
def startingValues (index : Nat) : List (Slot × Int32) :=
  [(.walking, 0), (.animating, 0), (.pictureXOffset, 0), (.pictureYOffset, 0),
    (.blinkInterval, 140), (.blinkTimer, 140), (.indexId, Int32.ofNat index),
    (.blockingWidth, 0), (.blockingHeight, 0), (.previousRoom, -1), (.loop, 0), (.frame, 0),
    (.walkWait, -1)]

/-- Resets walking and animation for a new session. -/
def reset (c : Character) (index : Nat) : Character :=
  (startingValues index).foldl (fun c (slot, value) => c.set slot value) c

/-- The field of the JSON record for one integer. -/
def wordField (slot : Slot) : Json.Field Character :=
  field (fieldTable[slot]).1 .int32 (·.words[slot]) (fun x c => c.set slot x)

def shape : Shape Character :=
  .record {} ([
    field "name" .text (·.name) (fun x c => { c with name := x }),
    field "script_name" .text (·.scriptName) (fun x c => { c with scriptName := x })]
    ++ (List.finRange wordCount).map wordField
    ++ [field "inventory" (.list .int32) (·.inventory) (fun x c => { c with inventory := x })])

end Character

end Adventure.Game
