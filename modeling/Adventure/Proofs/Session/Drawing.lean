import Adventure.Proofs.Game.DrawOrder
import Adventure.Proofs.Session.Demands
import Adventure.Proofs.Session.Registered

/-! # What a start draws

The controls of a panel are sorted while the panels are enrolled, the panels when the state of play
is set up. Neither sort reads what happens in between: labels lose their clicks there, and nothing
else about a panel or control changes.

* `DrawnByDepth` — the orders of drawing of a session, for the panels of a game.
* `start_draws` — a start leaves them so, whatever was registered before.
-/

namespace Adventure

namespace Session

open Game (ByDepth)

variable {g : Game} {s : Session} {b : Bundle} {accepts : Font.Request → Bool} {a : Attempt}

/-! ## Panels after a start -/

/-- A panel as it stands in a game that has been started. -/
def drawnGui (gui : Game.Gui) : Game.Gui := settleGui (Enrolment.readyGui gui)

theorem zOrders_drawnGui (gui : Game.Gui) :
    (drawnGui gui).controls.map (·.zOrder) = gui.controls.map (·.zOrder) := by
  show (gui.controls.map settleControl).map (·.zOrder) = _
  rw [List.map_map]
  refine List.map_congr_left fun c _ => ?_
  show (settleControl c).zOrder = c.zOrder
  unfold settleControl
  split <;> rfl

theorem guis_start (started : s.start b accepts {} = (.ok (), a)) :
    a.session.game.guis = b.game.guis.map drawnGui := by
  obtain ⟨w, x, q, ofGame, ofEngine, world, -⟩ := start_enrols started
  obtain ⟨handle, readied⟩ := Enrolment.readied_ofGame
    (w := World.allocated { game := b.game.upscaled s.config.overrideUpscale })
    (Enrolment.wrapped_allocated _) ofGame
  -- what the engine exports changes no panel
  obtain rfl : x = w := Enrolment.world_takeAll plain_engineExports ofEngine
  have enrolled : x.game.guis = b.game.guis.map Enrolment.readyGui := by
    have same := Game.upscaled_keeps (f := Game.guis) (g := b.game) (fun _ => rfl)
      s.config.overrideUpscale
    rw [readied, ← same]
    rfl
  rw [game, world]
  show x.game.guis.map settleGui = _
  rw [enrolled, List.map_map]
  rfl

/-! ## Orders -/

/-- Whether a session draws the panels of `g`, and the controls of each of them, from the lowest to
the highest. -/
structure DrawnByDepth (g : Game) (s : Session) : Prop where
  count : s.game.guis.length = g.guis.length
  controls : ∀ (i : Nat) (gui : Game.Gui), g.guis[i]? = some gui →
    ∃ panel : Game.Gui, s.game.guis[i]? = some panel ∧
    panel.zOrder = gui.zOrder ∧ panel.controls.map (·.zOrder) = gui.controls.map (·.zOrder) ∧
    ByDepth (gui.controls.map (·.zOrder)) panel.controlDrawOrder
  guis : ByDepth (g.guis.map (·.zOrder)) s.play.guiDrawOrder

/-- A start without plugins leaves panels and controls in the order of drawing. -/
theorem start_draws (started : s.start b accepts {} = (.ok (), a)) :
    a.session.DrawnByDepth b.game := by
  have guis := guis_start started
  obtain ⟨-, -, -, -, -, -, play⟩ := start_enrols started
  refine { count := ?_, controls := fun i gui here => ⟨drawnGui gui, ?_, rfl, ?_, ?_⟩, guis := ?_ }
  · rw [guis, List.length_map]
  · rw [guis, List.getElem?_map, here]
    rfl
  · exact zOrders_drawnGui gui
  · exact Game.byDepth_drawOrder _
  · have depths : a.session.game.guis.map (·.zOrder) = b.game.guis.map (·.zOrder) := by
      rw [guis, List.map_map]
      rfl
    rw [play]
    show ByDepth _ (Game.drawOrder _)
    rw [depths]
    exact Game.byDepth_drawOrder _

/-- A game whose panels and controls overlap, some of them at the same depth. -/
def desk : Bundle :=
  let blotter : Game.Gui := { zOrder := -4, controls := [{ zOrder := 2 }, { zOrder := -1 }] }
  let papers : Game.Gui :=
    { zOrder := 7, controls := [{ zOrder := 1 }, { zOrder := 1, kind := .label }, {}] }
  { game := { fonts := [{}], guis := [papers, blotter, papers] } }

theorem start_desk : ∃ a, (Session.new {}).start desk (fun _ => true) {} = (.ok (), a) :=
  start_succeeds rfl (by decide +kernel) (by decide) rfl (fun _ => rfl) rfl

theorem desk_draws : ∃ a, (Session.new {}).start desk (fun _ => true) {} = (.ok (), a) ∧
    a.session.DrawnByDepth desk.game := by
  obtain ⟨a, started⟩ := start_desk
  exact ⟨a, started, start_draws started⟩

end Session

end Adventure
