/-! # Types of script objects

Every object that scripts can address has one of thirteen types. Its fields are 32 bit words; word
`i` lies at byte offset `4 * i`.
-/

namespace Adventure

/-- The type of an object that scripts can address. -/
inductive ScriptType where
  | audioChannel
  | audioClip
  | character
  | dialog
  | dialogRendering
  | drawingSurface
  | gui
  | control
  | hotspot
  | inventory
  | mouse
  | object
  | region
  deriving DecidableEq, Repr

namespace ScriptType

def all : List ScriptType :=
  [audioChannel, audioClip, character, dialog, dialogRendering, drawingSurface, gui, control,
    hotspot, inventory, mouse, object, region]

/-- The name in stored data. -/
def tag : ScriptType → String
  | audioChannel => "AudioChannel"
  | audioClip => "AudioClip"
  | character => "Character"
  | dialog => "Dialog"
  | dialogRendering => "DialogOptionsRendering"
  | drawingSurface => "DrawingSurface"
  | gui => "Gui"
  | control => "GuiControl"
  | hotspot => "Hotspot"
  | inventory => "Inventory"
  | mouse => "Mouse"
  | object => "Object"
  | region => "Region"

def ofTag? (tag : String) : Option ScriptType := all.find? (·.tag = tag)

/-- The name that scripts use. -/
def typeName : ScriptType → String
  | gui => "GUI"
  | control => "GUIControl"
  | mouse => "ScriptMouse"
  | other => other.tag

/-- The number of words that scripts can address. -/
def wordCount : ScriptType → Nat
  | character => 39
  | audioClip => 6
  | control => 8
  | dialogRendering => 12
  | drawingSurface => 4
  | audioChannel | dialog | gui | hotspot | inventory | mouse | object | region => 2

/-- The number of bytes that scripts can address. -/
def naturalSize (type : ScriptType) : Nat := 4 * type.wordCount

/-- The words that scripts may read and not write. -/
def readOnlyWords : ScriptType → List Nat
  | character => [31]
  | audioClip => [0, 1, 2]
  | control => []
  | dialogRendering => [10, 11]
  | drawingSurface => [1, 2]
  | mouse => [0, 1]
  | audioChannel | dialog | gui | hotspot | inventory | object | region => [0]

/-- The word at a byte offset. -/
def wordAt? (type : ScriptType) (offset : Int) : Option Nat :=
  if 0 ≤ offset ∧ offset % 4 = 0 ∧ offset / 4 < type.wordCount then some (offset / 4).toNat
  else none

end ScriptType

end Adventure
