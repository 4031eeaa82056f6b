import Adventure.Font
import Adventure.Session.Basic
import Adventure.Session.Enrolment

/-! # Starting a game

A session starts its game in stages. Nothing is allocated before the data of the game has been
checked; everything is enrolled before fonts are loaded and scripts linked; plugins start last. A
stage that fails ends the start. What came before it stays done, and the session has failed.

* `Session.start` — the start. A session starts once.
-/

namespace Adventure.Session

/-- A start in progress: the session so far, and the fonts that it has asked for. -/
structure Attempt where
  session : Session
  asked : List Font.Request := []

/-- A part of the start. -/
abbrev Stage := Attempt → Except StartFault Unit × Attempt

/-- Runs stages up to the first that fails. -/
def runStages : List Stage → Stage
  | [], a => (.ok (), a)
  | stage :: rest, a =>
    match stage a with
    | (.error fault, a) => (.error fault, a)
    | (.ok _, a) => runStages rest a

/-- A stage that cannot fail. -/
def stage (change : Session → Session) : Stage :=
  fun a => (.ok (), { a with session := change a.session })

/-! ## Stages -/

/-- The demands on the data of a game. -/
def checkBundle (c : Config) (b : Bundle) : Except StartFault Unit := do
  if b.game.fonts.isEmpty then throw .noFonts
  if Game.maxAudioClasses < b.game.audioClasses.length then
    throw (.tooManyAudioClasses b.game.audioClasses.length Game.maxAudioClasses)
  if !b.game.characters.isEmpty && b.game.characters.length ≤ b.game.playerCharacter then
    throw (.noPlayerCharacter b.game.playerCharacter b.game.characters.length)
  Plugin.checkInfos b.plugins c.maxPlugins

/-- Refuses bundles that do not meet the demands. -/
def checkStage (b : Bundle) : Stage := fun a => (checkBundle a.session.config b, a)

/-- Takes the game over and makes room for its records. -/
def allocate (b : Bundle) (s : Session) : Session :=
  let game := b.game.upscaled s.config.overrideUpscale
  { s with
    world := World.allocated { game }
    runtime := .forGame game
    oldDialogs := b.oldDialogs
    oldSpeech := b.oldSpeech }

/-- Takes enrolment steps. -/
def enrolStage (steps : Session → List Enrolment) : Stage := fun a =>
  let (result, world, registry) :=
    Enrolment.takeAll (steps a.session) a.session.world a.session.registry
  (result.mapError .registration, { a with session := { a.session with world, registry } })

/-- Notes the handle of the surface for dialog options. -/
def noteSurface (s : Session) : Session :=
  { s with dialogSurface := s.world.rendering.surfaceHandle.toInt }

/-- Asks for the fonts of the game. -/
def fontStage (accepts : Font.Request → Bool) : Stage := fun a =>
  match Font.requests? a.session.game with
  | none => (.error .overflow, a)
  | some requests =>
    let (asked, refused) := Font.load accepts requests
    (match refused with
      | some slot => .error (.noFont slot)
      | none => .ok (),
      { a with asked })

/-- Links the scripts of the game. -/
def scriptStage (b : Bundle) : Stage := fun a =>
  let fresh : Script.Linkage := { timeout := a.session.config.scriptTimeout }
  let (result, scripts) :=
    fresh.bind a.session.registry.symbols b.globalScript b.dialogScript b.scriptModules
  (result.mapError .unlinked, { a with session := { a.session with scripts } })

/-- Labels are not clickable. -/
def settleControl (c : Game.Control) : Game.Control :=
  if c.kind = .label then { c with clickable := false } else c

def settleGui (g : Game.Gui) : Game.Gui := { g with controls := g.controls.map settleControl }

/-- The channels that classes of clips keep for themselves. One channel always stays free. -/
def reservedChannels (g : Game) : Nat :=
  min ((g.audioClasses.map (·.reservedChannels.toInt.toNat)).sum) (Game.soundChannels - 1)

/-- The ending of the names of saved games. -/
def saveSuffix (g : Game) : String :=
  if g.saveExtension.isEmpty then "" else "." ++ g.saveExtension

/-- The state of play at the start of a game. -/
def startingPlay (g : Game) : Play where
  saveSuffix := saveSuffix g
  scoreSound := g.scoreClip
  fadeEffect := g.options.fadeType
  guiDrawOrder := Game.drawOrder (g.guis.map (·.zOrder))
  reservedChannels := reservedChannels g
  playerCharacter := g.playerCharacter

/-- Sets up the state of play. -/
def beginPlay (s : Session) : Session :=
  let game := { s.game with guis := s.game.guis.map settleGui }
  { s with world := { s.world with game }, play := startingPlay game }

/-- Takes over plugins and makes those that the game names. -/
def enlistStage (b : Bundle) (host : Plugin.Host) : Stage := fun a =>
  let (result, plugins) := host.enlistAll b.plugins
  (result, { a with session := { a.session with plugins } })

/-- Starts the plugins. -/
def pluginStage : Stage := fun a =>
  let (result, world, registry) :=
    Plugin.Host.startAll a.session.plugins.loaded a.session.world a.session.registry
  (result, { a with session := { a.session with world, registry } })

/-! ## The start -/

/-- The stages of a start. -/
def stages (b : Bundle) (accepts : Font.Request → Bool) (host : Plugin.Host) : List Stage := [
  checkStage b,
  stage (allocate b),
  enrolStage fun s => Enrolment.ofGame s.game,
  stage noteSurface,
  fontStage accepts,
  enrolStage fun _ => engineExports,
  scriptStage b,
  stage beginPlay,
  enlistStage b host,
  pluginStage]

/-- The phase after a start. -/
def phaseAfter : Except StartFault Unit → Phase
  | .ok _ => .ready
  | .error _ => .failed

/-- Starts the game of a bundle. `accepts` answers for the fonts, `host` knows the plugins. A
session that has been started before stays as it is. -/
def start (s : Session) (b : Bundle) (accepts : Font.Request → Bool) (host : Plugin.Host) :
    Except StartFault Unit × Attempt :=
  if s.phase = .empty then
    let (result, a) := runStages (stages b accepts host) { session := s }
    (result, { a with session := { a.session with phase := phaseAfter result } })
  else (.error .alreadyStarted, { session := s })

end Adventure.Session
