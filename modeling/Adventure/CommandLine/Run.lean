import Adventure.CommandLine.Help
import Adventure.Json.Printer
import Adventure.Session.Start
import Adventure.Session.Summary
import Adventure.Storage

/-! # Running the program

The program starts a bundle, walks through rooms, and reports on the session.

* `run` — what the program prints and how it ends, over any storage.
-/

namespace Adventure.CommandLine

/-- What a run leaves behind. -/
structure Report where
  exitCode : UInt32 := 0
  output : String := ""
  /-- What stands on the error channel. -/
  complaint : String := ""
  deriving DecidableEq, Repr

/-- Why a run ended early. -/
inductive Failure where
  | usage (fault : UsageFault)
  | badConfig
  | unreadBundle (path : String)
  | badBundle (path : String)
  | unstarted (fault : StartFault)
  | unentered (number : Int32) (path : String)
  | unwrittenSummary (path : String)
  deriving DecidableEq, Repr

namespace Failure

/-- What stands on the error channel, without the end of the last line. -/
def message : Failure → String
  | usage fault => fault.message
  | badConfig => "Error: loading engine config"
  | unreadBundle path => "Error: reading game bundle " ++ path
  | badBundle path => "Error: loading game bundle " ++ path
  | unstarted fault => "[ags_engine] " ++ fault.diagnostic
  | unentered number path => s!"Error: entering room {number.toInt} from {path}"
  | unwrittenSummary path => "Error: writing session summary to " ++ path

def exitCode : Failure → UInt32
  | usage _ => 2
  | _ => 1

/-- The report of a run that printed `output` and then failed. -/
def report (f : Failure) (output : String) : Report :=
  { exitCode := f.exitCode, output, complaint := f.message ++ "\n" }

end Failure

/-! ## What the program reads -/

variable {m : Type → Type} [Monad m]

/-- The settings at `path`. Without a file there the defaults apply. -/
def readConfig (storage : Storage m) (path : Option String) : ExceptT Failure m Config := do
  let some path := path | return {}
  match ← storage.read path with
  | .error fault => if fault.isAbsence then return {} else throw .badConfig
  | .ok bytes =>
    unless (Text.Utf8.decode bytes) matches .ok _ do throw .badConfig
    let some config := Config.parse? bytes | throw .badConfig
    return config

/-- The bundle at `path`. -/
def readBundle (storage : Storage m) (path : String) : ExceptT Failure m Bundle := do
  let .ok bytes ← storage.read path | throw (.unreadBundle path)
  let some bundle := Bundle.parse? bytes | throw (.badBundle path)
  return bundle

/-- A path up to and with its last slash. -/
def directoryPart (path : String) : String :=
  String.ofList (path.toList.reverse.dropWhile (· ≠ '/')).reverse

/-- The path of a font file. -/
def Options.fontPath (o : Options) (file : String) : String :=
  match o.fontsDirectory with
  | none => directoryPart o.game ++ file
  | some directory => if directory.endsWith "/" then directory ++ file else directory ++ "/" ++ file

/-- The font slots below `count` that have a file. -/
def fontSlots (storage : Storage m) (o : Options) (count : Nat) : m (List Nat) :=
  (List.range count).filterM fun slot =>
    (Font.fileNames slot).anyM fun file => storage.isFile (o.fontPath file)

/-! ## What the program does -/

/-- Starts the bundle of a session. -/
def startBundle (storage : Storage m) (o : Options) (s : Session) (b : Bundle) :
    ExceptT Failure m Session := do
  let slots : List Nat ← ExceptT.lift (fontSlots storage o b.game.fonts.length)
  match s.start b (fun r => slots.contains r.slot) {} with
  | (.error fault, _) => throw (.unstarted fault)
  | (.ok _, attempt) => return attempt.session

/-- Enters rooms one after the other and notes them. -/
def enterRooms (storage : Storage m) : List (Int32 × String) → Session →
    ExceptT Failure m (Session × List Session.RoomSummary)
  | [], s => return (s, [])
  | (number, path) :: rest, s => do
    match s.enterRoomFile number path (← storage.read path) with
    | (.error _, _) => throw (.unentered number path)
    | (.ok _, s) =>
      let note := s.room.toList.map Session.RoomSummary.ofRoom
      let (s, notes) ← enterRooms storage rest s
      return (s, note ++ notes)

/-- The summary of a session as told. -/
def summarize (storage : Storage m) (o : Options) : ExceptT Failure m Session.Summary := do
  let config ← readConfig storage o.config
  let config :=
    { config with overrideUpscale := config.overrideUpscale || o.overrideUpscale }
  let bundle ← readBundle storage o.game
  let s ← startBundle storage o (Session.new config) bundle
  let (s, rooms) ← enterRooms storage o.rooms s
  return .ofSession s rooms

/-- Lines, each with its end. -/
def unlines (lines : List String) : String := String.join (lines.map (· ++ "\n"))

/-- Puts a summary in place and says so. -/
def saveSummary (storage : Storage m) (summary : Session.Summary) (output path : String) :
    m Report := do
  match ← storage.write path (Text.Utf8.encode summary.toJson.pretty) with
  | .error _ => return (Failure.unwrittenSummary path).report output
  | .ok _ => return { output := output ++ s!"\nSaved session summary to {path}\n" }

/-- Does what the words say. -/
def run (storage : Storage m) (words : List String) : m Report := do
  match Request.parse words with
  | .error fault => return (Failure.usage fault).report ""
  | .ok (.tell topic) => return { output := topic.text }
  | .ok (.start o) =>
    match ← (summarize storage o).run with
    | .error failure => return failure.report ""
    | .ok summary =>
      let output := unlines summary.lines
      match o.summaryFile with
      | none => return { output }
      | some path => saveSummary storage summary output path

end Adventure.CommandLine
