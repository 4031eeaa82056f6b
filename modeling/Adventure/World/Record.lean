import Adventure.Game.Basic
import Adventure.InPlace
import Adventure.Registry.Fault

/-! # Records

The record behind an object that scripts can address, seen as a block of words.

* `Record.read`, `Record.write` — a word by its byte offset. Offsets outside the block, or between
  its words, are refused; so are writes to words that scripts may only read.
* `Record.writeInPlace` — a write as it is carried out.
-/

namespace Adventure

/-- The record of an entity that scripts know by its number alone. -/
structure Wrapper where
  id : Int32
  reserved : Int32 := 0
  deriving DecidableEq, Repr

namespace Wrapper

/-- The wrapper of entity `index`. -/
def ofIndex (index : Nat) : Wrapper := { id := Int32.ofNat index }

/-- A slot without an entity. -/
def unbound : Wrapper := { id := -1 }

end Wrapper

/-- State shared with scripts that draw the options of a dialog: position (two words), size (two),
whether there is an alpha channel, position and width of the text box (three), the active option,
whether to paint again, the handle of the surface, and the dialog. -/
structure DialogRendering where
  words : Vector Int32 12 := Vector.replicate 12 0
  deriving DecidableEq

namespace DialogRendering

/-- The handle of the surface to draw on. -/
def surfaceHandle (r : DialogRendering) : Int32 := r.words[10]

def withSurface (r : DialogRendering) (handle : Int32) : DialogRendering :=
  { r with words := r.words.set 10 handle }

end DialogRendering

structure Mouse where
  x : Int32 := 0
  y : Int32 := 0
  deriving DecidableEq, Repr

/-- A surface that scripts draw on. -/
structure DrawingSurface where
  color : Int32
  width : Int32
  height : Int32
  highResolutionCoordinates : Int32
  /-- Whether the pixels belong to something else. -/
  linkedOnly : Bool
  modified : Bool
  deriving DecidableEq, Repr

/-- A surface that draws on pixels of something else. -/
def DrawingSurface.linked (width height : Int32) : DrawingSurface :=
  { color := 15, width, height, highResolutionCoordinates := 0, linkedOnly := true,
    modified := false }

/-- An object that was made while the game ran. -/
inductive DynamicObject where
  | surface (s : DrawingSurface)
  deriving DecidableEq, Repr

def DynamicObject.type : DynamicObject → ScriptType
  | surface _ => .drawingSurface

/-- The record behind an object. -/
inductive Record where
  | wrapper (type : ScriptType) (w : Wrapper)
  | clip (c : Game.AudioClip)
  | character (c : Game.Character)
  | control (c : Game.Control)
  | rendering (r : DialogRendering)
  | mouse (m : Mouse)
  | dynamic (o : DynamicObject)

namespace Record

def type : Record → ScriptType
  | wrapper type _ => type
  | clip _ => .audioClip
  | character _ => .character
  | control _ => .control
  | rendering _ => .dialogRendering
  | mouse _ => .mouse
  | dynamic o => o.type

/-- A truth value as a word. -/
def flagWord (b : Bool) : Int32 := if b then 1 else 0

/-- The words in the order of their offsets. -/
def words : Record → List Int32
  | wrapper _ w => [w.id, w.reserved]
  | clip c =>
    [c.id, c.clipType, c.fileType, c.defaultRepeat, c.defaultPriority, c.defaultVolume]
  | character c => c.words.toList
  | control c =>
    [c.x, c.y, c.width, c.height, c.zOrder, flagWord c.visible, flagWord c.enabled,
      flagWord c.clickable]
  | rendering r => r.words.toList
  | mouse m => [m.x, m.y]
  | dynamic (.surface s) => [s.color, s.width, s.height, s.highResolutionCoordinates]

/-- Stores a word. Flags of controls become true unless the word is zero. -/
def setField (i : Nat) (v : Int32) : Record → Record
  | wrapper type w =>
    wrapper type (match i with
      | 0 => { w with id := v }
      | 1 => { w with reserved := v }
      | _ => w)
  | clip c =>
    clip (match i with
      | 0 => { c with id := v }
      | 1 => { c with clipType := v }
      | 2 => { c with fileType := v }
      | 3 => { c with defaultRepeat := v }
      | 4 => { c with defaultPriority := v }
      | 5 => { c with defaultVolume := v }
      | _ => c)
  | character c => character { c with words := c.words.setIfInBounds i v }
  | control c =>
    control (match i with
      | 0 => { c with x := v }
      | 1 => { c with y := v }
      | 2 => { c with width := v }
      | 3 => { c with height := v }
      | 4 => { c with zOrder := v }
      | 5 => { c with visible := v ≠ 0 }
      | 6 => { c with enabled := v ≠ 0 }
      | 7 => { c with clickable := v ≠ 0 }
      | _ => c)
  | rendering r => rendering { r with words := r.words.setIfInBounds i v }
  | mouse m =>
    mouse (match i with
      | 0 => { m with x := v }
      | 1 => { m with y := v }
      | _ => m)
  | dynamic (.surface s) =>
    dynamic (.surface (match i with
      | 0 => { s with color := v }
      | 1 => { s with width := v }
      | 2 => { s with height := v }
      | 3 => { s with highResolutionCoordinates := v }
      | _ => s))

/-- Surfaces note that they have been changed. -/
def noteChange : Record → Record
  | dynamic (.surface s) => dynamic (.surface { s with modified := true })
  | r => r

/-- Stores a word, as a script does. -/
def setWord (i : Nat) (v : Int32) (r : Record) : Record := (r.setField i v).noteChange

/-- The word at a byte offset. -/
def read (r : Record) (offset : Int) : Except Registry.Fault Int32 :=
  match (r.type.wordAt? offset).bind (r.words[·]?) with
  | some v => .ok v
  | none => .error (.invalidOffset r.type offset)

/-- Stores a word at a byte offset. -/
def writeInPlace (offset : Int) (v : Int32) : InPlace Registry.Fault Record Unit := do
  let type := (← get).type
  match type.wordAt? offset with
  | none => throw (.invalidOffset type offset)
  | some i =>
    if type.readOnlyWords.contains i then throw (.readOnly type offset)
    else
      modify (setField i v)
      modify noteChange

/-- The record with the word at a byte offset replaced. -/
def write (r : Record) (offset : Int) (v : Int32) : Except Registry.Fault Record :=
  ((writeInPlace offset v).result r).map (·.2)

end Record

end Adventure
