import Adventure.Json.Shape

/-! # Interfaces on the screen

A `Gui` is a panel with controls. Panels and controls are drawn in ascending order of their `z`
values; what has the same value is drawn in the order of declaration (`drawOrder`).
-/

namespace Adventure.Game

open Json

/-- The indices of `zs`, ascending by value, equal values in order. -/
def drawOrder (zs : List Int32) : List Nat :=
  (zs.zipIdx.mergeSort fun a b => a.1 ≤ b.1).map (·.2)

/-- When a panel shows up. -/
inductive PopupStyle where
  /-- Always. -/
  | always
  /-- When the mouse moves to the top of the screen. -/
  | mouseY
  /-- On demand; pauses the game. -/
  | modal
  /-- From the start, and also while the game is paused. -/
  | persistent
  deriving DecidableEq, Repr

namespace PopupStyle

def name : PopupStyle → String
  | always => "none"
  | mouseY => "mouse_y"
  | modal => "modal"
  | persistent => "no_auto_remove"

def shape : Shape PopupStyle := .choice name [always, mouseY, modal, persistent]

/-- Whether a panel of this style shows at the start. -/
def initiallyVisible : PopupStyle → Bool
  | always | persistent => true
  | mouseY | modal => false

end PopupStyle

inductive ControlKind where
  | button
  | label
  | invWindow
  | slider
  | textBox
  | listBox
  deriving DecidableEq, Repr

namespace ControlKind

def name : ControlKind → String
  | button => "button"
  | label => "label"
  | invWindow => "inv_window"
  | slider => "slider"
  | textBox => "text_box"
  | listBox => "list_box"

def shape : Shape ControlKind := .choice name [button, label, invWindow, slider, textBox, listBox]

end ControlKind

/-- A control of a panel. -/
structure Control where
  name : String := ""
  kind : ControlKind := .button
  x : Int32 := 0
  y : Int32 := 0
  width : Int32 := 0
  height : Int32 := 0
  zOrder : Int32 := 0
  visible : Bool := true
  enabled : Bool := true
  clickable : Bool := true
  deriving DecidableEq, Repr

def Control.shape : Shape Control :=
  .record {} [
    field "name" .text (·.name) (fun x c => { c with name := x }),
    field "kind" ControlKind.shape (·.kind) (fun x c => { c with kind := x }),
    field "x" .int32 (·.x) (fun x c => { c with x }),
    field "y" .int32 (·.y) (fun x c => { c with y := x }),
    field "width" .int32 (·.width) (fun x c => { c with width := x }),
    field "height" .int32 (·.height) (fun x c => { c with height := x }),
    field "z_order" .int32 (·.zOrder) (fun x c => { c with zOrder := x }),
    field "visible" .bool (·.visible) (fun x c => { c with visible := x }),
    field "enabled" .bool (·.enabled) (fun x c => { c with enabled := x }),
    field "clickable" .bool (·.clickable) (fun x c => { c with clickable := x })]

/-- A panel. -/
structure Gui where
  /-- The name that scripts use. -/
  name : String := ""
  x : Int32 := 0
  y : Int32 := 0
  width : Int32 := 0
  height : Int32 := 0
  popupStyle : PopupStyle := .always
  popupAtMouseY : Int32 := -1
  backgroundColor : Int32 := 8
  transparency : Int32 := 0
  zOrder : Int32 := 0
  clickable : Bool := true
  visible : Bool := true
  controls : List Control := []
  /-- Control indices in the order of drawing; no part of the authored data. -/
  controlDrawOrder : List Nat := []
  deriving DecidableEq, Repr

namespace Gui

/-- Sorts the controls for drawing. -/
def withDrawOrder (g : Gui) : Gui :=
  { g with controlDrawOrder := drawOrder (g.controls.map (·.zOrder)) }

/-- Whether the panel shows at the start. -/
def initiallyVisible (g : Gui) : Bool := g.popupStyle.initiallyVisible

def shape : Shape Gui :=
  .record {} [
    field "name" .text (·.name) (fun x g => { g with name := x }),
    field "x" .int32 (·.x) (fun x g => { g with x }),
    field "y" .int32 (·.y) (fun x g => { g with y := x }),
    field "width" .int32 (·.width) (fun x g => { g with width := x }),
    field "height" .int32 (·.height) (fun x g => { g with height := x }),
    field "popup_style" PopupStyle.shape (·.popupStyle) (fun x g => { g with popupStyle := x }),
    field "popup_at_mouse_y" .int32 (·.popupAtMouseY) (fun x g => { g with popupAtMouseY := x }),
    field "background_color" .int32 (·.backgroundColor)
      (fun x g => { g with backgroundColor := x }),
    field "transparency" .int32 (·.transparency) (fun x g => { g with transparency := x }),
    field "z_order" .int32 (·.zOrder) (fun x g => { g with zOrder := x }),
    field "clickable" .bool (·.clickable) (fun x g => { g with clickable := x }),
    field "visible" .bool (·.visible) (fun x g => { g with visible := x }),
    field "controls" (.list Control.shape) (·.controls) (fun x g => { g with controls := x })]

end Gui

end Adventure.Game
