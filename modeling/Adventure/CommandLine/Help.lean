import Adventure.CommandLine.Options
import Adventure.Text.Column

/-! # What the program tells about itself

The page of help and the line of the version.

* `Topic.text` — the text on a topic. The page of help has a row for every option, with the purposes
  in one column.
-/

namespace Adventure.CommandLine

/-- The name that the program goes by. -/
def programName : String := "ags_engine"

/-- What an option is for. -/
def Keyword.purpose : Keyword → String
  | game => "Path to the game bundle JSON"
  | config => "Optional engine config JSON; defaults apply when it does not exist"
  | fontsDirectory =>
    "Directory holding agsfnt*.ttf / agsfnt*.wfn (default: the bundle's directory)"
  | room => "Room to enter after init, as NUMBER=PATH; repeat to enter several in order"
  | overrideUpscale => "Run 320x200 and 320x240 games at double resolution"
  | summaryFile => "Path to write the session summary as JSON"
  | about .help => "Print help"
  | about .version => "Print version"

/-- The ways to write an option. -/
def Keyword.spellings (k : Keyword) : String :=
  match k.short? with
  | some c => s!"-{c}, {k.usage}"
  | none => "    " ++ k.usage

/-- The row of an option, its purpose beginning behind `width` characters. -/
def Keyword.row (width : Nat) (k : Keyword) : String :=
  "  " ++ Text.padRight width k.spellings ++ "  " ++ k.purpose ++ "\n"

/-- The page of help. -/
def helpPage : String :=
  let width := (Keyword.all.map (·.spellings.length)).foldl max 0
  "Initializes an adventure game bundle and walks through its rooms\n\n"
    ++ s!"Usage: {programName} [OPTIONS] {Keyword.game.usage}\n\nOptions:\n"
    ++ String.join (Keyword.all.map (·.row width))

/-- The text on a topic. -/
def Topic.text : Topic → String
  | help => helpPage
  | version => programName ++ " 0.1.0\n"

end Adventure.CommandLine
