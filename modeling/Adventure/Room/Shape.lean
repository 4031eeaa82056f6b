import Adventure.Property.Shape
import Adventure.Room.Basic

/-! # Rooms in JSON

All of a room but its pictures and palettes. What is missing has the value that it has in a blank
room; lists with too many items are refused.

Places, edges and walkable areas are arrays of integers. Custom properties are arrays of pairs, so
that spellings and order of names show.
-/

namespace Adventure

open Json

/-- Texts by name as pairs, ascending by folded name. -/
def PropertyMap.pairsShape : Shape PropertyMap :=
  (Shape.list (.pair .text .text)).via toPairs ofPairs

namespace Room

/-! ## Building blocks -/

/-- A list with a limit. -/
def cappedShape {n : Nat} {α : Type} (item : Shape α) : Shape (Capped n α) where
  write c := (Shape.list item).write c.toList
  read? v := ((Shape.list item).read? v).bind Capped.ofList?

/-- Integers in an array. -/
def wordsShape {α : Type} (words : α → List Int32) (ofWords? : List Int32 → Option α) :
    Shape α where
  write a := (Shape.list .int32).write (words a)
  read? v := ((Shape.list .int32).read? v).bind ofWords?

def Volume.shape : Shape Volume where
  write v := .int v.toInt
  read?
    | .int i => ofInt? i
    | _ => none

def Density.shape : Shape Density where
  write d := .nat d.toNat
  read? v := ((Shape.natBelow 256).read? v).bind ofNat?

/-! ## Parts -/

def Options.shape : Shape Options :=
  .record {} [
    field "startup_music" .int32 (·.startupMusic) (fun x o => { o with startupMusic := x }),
    field "save_load_disabled" .bool (·.saveLoadDisabled)
      (fun x o => { o with saveLoadDisabled := x }),
    field "player_char_off" .bool (·.playerCharacterOff)
      (fun x o => { o with playerCharacterOff := x }),
    field "player_view" .int32 (·.playerView) (fun x o => { o with playerView := x }),
    field "music_volume" Volume.shape (·.musicVolume) (fun x o => { o with musicVolume := x }),
    field "flags" .int32 (·.flags) (fun x o => { o with flags := x })]

def Edges.shape : Shape Edges :=
  wordsShape (fun e => [e.left, e.right, e.top, e.bottom]) fun
    | [left, right, top, bottom] => some { left, right, top, bottom }
    | _ => none

def Point.shape : Shape Point :=
  wordsShape (fun p => [p.x, p.y]) fun
    | [x, y] => some { x, y }
    | _ => none

def Events.shape : Shape Events :=
  .record {} [
    field "module" .text (·.scriptModule) (fun x e => { e with scriptModule := x }),
    field "handlers" (.list .text) (·.handlers) (fun x e => { e with handlers := x })]

def Hotspot.shape : Shape Hotspot :=
  .record {} [
    field "name" .text (·.name) (fun x h => { h with name := x }),
    field "script_name" .text (·.scriptName) (fun x h => { h with scriptName := x }),
    field "properties" PropertyMap.pairsShape (·.properties)
      (fun x h => { h with properties := x }),
    field "events" Events.shape (·.events) (fun x h => { h with events := x }),
    field "walk_to" Point.shape (·.walkTo) (fun x h => { h with walkTo := x })]

def Object.shape : Shape Object :=
  .record {} [
    field "room" .int32 (·.room) (fun x o => { o with room := x }),
    field "x" .int32 (·.x) (fun x o => { o with x }),
    field "y" .int32 (·.y) (fun x o => { o with y := x }),
    field "sprite" .int32 (·.sprite) (fun x o => { o with sprite := x }),
    field "is_on" .bool (·.isOn) (fun x o => { o with isOn := x }),
    field "baseline" .int32 (·.baseline) (fun x o => { o with baseline := x }),
    field "flags" .int32 (·.flags) (fun x o => { o with flags := x }),
    field "name" .text (·.name) (fun x o => { o with name := x }),
    field "script_name" .text (·.scriptName) (fun x o => { o with scriptName := x }),
    field "properties" PropertyMap.pairsShape (·.properties)
      (fun x o => { o with properties := x }),
    field "events" Events.shape (·.events) (fun x o => { o with events := x })]

def Region.shape : Shape Region :=
  .record {} [
    field "light" .int32 (·.light) (fun x r => { r with light := x }),
    field "tint" .int32 (·.tint) (fun x r => { r with tint := x }),
    field "properties" PropertyMap.pairsShape (·.properties)
      (fun x r => { r with properties := x }),
    field "events" Events.shape (·.events) (fun x r => { r with events := x })]

def WalkArea.shape : Shape WalkArea :=
  wordsShape
    (fun a => [a.characterView, a.scalingFar, a.scalingNear, a.playerView, a.top, a.bottom]) fun
    | [characterView, scalingFar, scalingNear, playerView, top, bottom] =>
      some { characterView, scalingFar, scalingNear, playerView, top, bottom }
    | _ => none

def WalkBehind.shape : Shape WalkBehind := Shape.int32.via (·.baseline) (⟨·⟩)

def Message.shape : Shape Message :=
  .record {} [
    field "text" .text (·.text) (fun x m => { m with text := x }),
    field "display_as" .uint8 (·.displayAs) (fun x m => { m with displayAs := x }),
    field "flags" .uint8 (·.flags) (fun x m => { m with flags := x })]

/-! ## Rooms -/

/-- All of a room but its pictures and palettes. -/
def shape : Shape Room :=
  .record {} [
    field "game_id" .int32 (·.gameId) (fun x r => { r with gameId := x }),
    field "mask_resolution" .int32 (·.maskResolution) (fun x r => { r with maskResolution := x }),
    field "width" .int32 (·.width) (fun x r => { r with width := x }),
    field "height" .int32 (·.height) (fun x r => { r with height := x }),
    field "options" Options.shape (·.options) (fun x r => { r with options := x }),
    field "background_bpp" .uint8 (·.backgroundDepth) (fun x r => { r with backgroundDepth := x }),
    field "bg_anim_speed" .int32 (·.animationSpeed) (fun x r => { r with animationSpeed := x }),
    field "edges" Edges.shape (·.edges) (fun x r => { r with edges := x }),
    field "hotspots" (cappedShape Hotspot.shape) (·.hotspots) (fun x r => { r with hotspots := x }),
    field "objects" (.list Object.shape) (·.objects) (fun x r => { r with objects := x }),
    field "regions" (cappedShape Region.shape) (·.regions) (fun x r => { r with regions := x }),
    field "walk_areas" (cappedShape WalkArea.shape) (·.walkAreas)
      (fun x r => { r with walkAreas := x }),
    field "walk_behinds" (cappedShape WalkBehind.shape) (·.walkBehinds)
      (fun x r => { r with walkBehinds := x }),
    field "messages" (cappedShape Message.shape) (·.messages) (fun x r => { r with messages := x }),
    field "properties" PropertyMap.pairsShape (·.properties)
      (fun x r => { r with properties := x }),
    field "events" Events.shape (·.events) (fun x r => { r with events := x }),
    field "script" (.option Script.Module.shape) (·.script) (fun x r => { r with script := x }),
    field "legacy_resolution" Density.shape (·.density) (fun x r => { r with density := x })]

end Room

end Adventure
