import Adventure.Text.Blank
import Adventure.Text.Numeral
import Adventure.Text.Terminal

/-! # Options of the command line

Options are long (`--game PATH` or `--game=PATH`); a value that stands alone does not begin with a
dash. Only `--room` may be repeated. Words are taken one after the other; the value of an option is
looked at when the next option begins or the words end. No word is taken behind an option that asks
for information.

* `Request.parse` — what words ask for, or the first fault.
-/

namespace Adventure.CommandLine

/-- What the program is told to do. -/
structure Options where
  /-- The bundle to start. -/
  game : String
  config : Option String := none
  /-- Where the fonts are; by default beside the bundle. -/
  fontsDirectory : Option String := none
  /-- The rooms to enter, in order, each with its file. -/
  rooms : List (Int32 × String) := []
  overrideUpscale : Bool := false
  /-- Where to put the summary as JSON. -/
  summaryFile : Option String := none
  deriving DecidableEq, Repr

/-- What the program can tell about itself. -/
inductive Topic where
  | help
  | version
  deriving DecidableEq, Repr

/-- What words ask for. -/
inductive Request where
  | start (options : Options)
  | tell (topic : Topic)
  deriving DecidableEq, Repr

/-! ## Keywords -/

/-- The options by name. -/
inductive Keyword where
  | game
  | config
  | fontsDirectory
  | room
  | overrideUpscale
  | summaryFile
  | about (topic : Topic)
  deriving DecidableEq, Repr

namespace Keyword

def all : List Keyword :=
  [game, config, fontsDirectory, room, overrideUpscale, summaryFile, about .help, about .version]

def name : Keyword → String
  | game => "game"
  | config => "config"
  | fontsDirectory => "fonts-dir"
  | room => "room"
  | overrideUpscale => "override-upscale"
  | summaryFile => "summary-json"
  | about .help => "help"
  | about .version => "version"

/-- The character that stands for the option behind a single dash. -/
def short? : Keyword → Option Char
  | about .help => some 'h'
  | about .version => some 'V'
  | _ => none

/-- What messages call the value; none for an option without one. -/
def valueName : Keyword → Option String
  | game => some "GAME"
  | config => some "CONFIG"
  | fontsDirectory => some "FONTS_DIR"
  | room => some "N=PATH"
  | summaryFile => some "SUMMARY_JSON"
  | overrideUpscale | about _ => none

/-- The option as messages show it. -/
def usage (k : Keyword) : String :=
  match k.valueName with
  | some value => "--" ++ k.name ++ " <" ++ value ++ ">"
  | none => "--" ++ k.name

def ofName? (name : String) : Option Keyword := all.find? (·.name = name)

def ofShort? (c : Char) : Option Keyword := all.find? (·.short? = some c)

end Keyword

/-! ## Faults -/

/-- What is wrong with a value of `--room`. -/
inductive RoomFault where
  | noEquals
  | badNumber (number : String) (fault : Text.NumeralFault)
  | noPath
  deriving DecidableEq, Repr

/-- The wording of a fault in `value`. -/
def RoomFault.message (value : String) : RoomFault → String
  | noEquals => s!"expected N=PATH, got '{value}'"
  | badNumber number fault => s!"invalid room number '{number}': {fault.message}"
  | noPath => s!"missing room file path in '{value}'"

/-- What is wrong with the words of a command line. -/
inductive UsageFault where
  /-- The bundle is missing. -/
  | noGame
  | unexpectedWord (word : String)
  | noValue (option : Keyword)
  | repeated (option : Keyword)
  /-- A value for an option without one. -/
  | unexpectedValue (option : Keyword) (value : String)
  | badRoom (value : String) (fault : RoomFault)
  deriving DecidableEq, Repr

/-- What the user wrote, in the style of a mistake. -/
def mistake (s : String) : String := Text.Terminal.styled "33" s

/-- What the user could write, in the style of an example. -/
def sample (s : String) : String := Text.Terminal.styled "1" s

/-- The wording of a fault, for a terminal. -/
def UsageFault.wording : UsageFault → String
  | noGame => "the following required arguments were not provided:"
  | unexpectedWord word => s!"unexpected argument '{mistake word}' found"
  | noValue option =>
    s!"a value is required for '{sample option.usage}' but none was supplied"
  | repeated option => s!"the argument '{sample option.usage}' cannot be used multiple times"
  | unexpectedValue option value =>
    s!"unexpected value '{mistake value}' for '{sample option.usage}' found; no more were expected"
  | badRoom value fault =>
    s!"invalid value '{mistake value}' for '{sample Keyword.room.usage}': {fault.message value}"

/-- The lines about a fault. They name what the user wrote without its control sequences; one that
is left open goes on into the text behind it. -/
def UsageFault.message (fault : UsageFault) : String :=
  let help := sample "--help"
  Text.Terminal.plain s!"error: {fault.wording}\n\nFor more information, try '{help}'."

/-! ## Values -/

/-- What stands before the first equals sign, and what behind it. -/
def splitEquals : List Char → Option (List Char × List Char)
  | [] => none
  | '=' :: rest => some ([], rest)
  | c :: rest => (splitEquals rest).map fun (before, behind) => (c :: before, behind)

/-- Number and file of a room. -/
def parseRoom (value : String) : Except RoomFault (Int32 × String) :=
  match splitEquals value.toList with
  | none => .error .noEquals
  | some (number, path) =>
    match Text.parseInt32 (Text.trim number) with
    | .error fault => .error (.badNumber (String.ofList number) fault)
    | .ok n => if path.isEmpty then .error .noPath else .ok (n, String.ofList path)

/-- What the words have given so far. -/
structure Given where
  game : Option String := none
  config : Option String := none
  fontsDirectory : Option String := none
  rooms : List (Int32 × String) := []
  overrideUpscale : Bool := false
  summaryFile : Option String := none
  topic : Option Topic := none

/-- A path that has not been given before. -/
def onePath (k : Keyword) (before : Option String) (value : String) :
    Except UsageFault (Option String) :=
  if before.isSome then .error (.repeated k)
  else if value.isEmpty then .error (.noValue k)
  else .ok (some value)

namespace Given

/-- Takes the value of an option. -/
def give (g : Given) (k : Keyword) (value : String) : Except UsageFault Given :=
  match k with
  | .game => return { g with game := ← onePath k g.game value }
  | .config => return { g with config := ← onePath k g.config value }
  | .fontsDirectory => return { g with fontsDirectory := ← onePath k g.fontsDirectory value }
  | .summaryFile => return { g with summaryFile := ← onePath k g.summaryFile value }
  | .room =>
    match parseRoom value with
    | .ok room => .ok { g with rooms := g.rooms ++ [room] }
    | .error fault => .error (.badRoom value fault)
  | .overrideUpscale | .about _ => .error (.unexpectedValue k value)

/-- Takes an option without a value. -/
def set (g : Given) (k : Keyword) : Except UsageFault Given :=
  match k with
  | .overrideUpscale =>
    if g.overrideUpscale then .error (.repeated k) else .ok { g with overrideUpscale := true }
  | .about topic => .ok { g with topic := some topic }
  | k => .error (.noValue k)

/-- What is asked for. To start, there has to be a bundle. -/
def request (g : Given) : Except UsageFault Request :=
  match g.topic, g.game with
  | some topic, _ => .ok (.tell topic)
  | none, none => .error .noGame
  | none, some game =>
    .ok <| .start {
      game
      config := g.config
      fontsDirectory := g.fontsDirectory
      rooms := g.rooms
      overrideUpscale := g.overrideUpscale
      summaryFile := g.summaryFile }

end Given

/-! ## Words -/

/-- A word of the command line. -/
inductive Word where
  /-- Two dashes: all words behind are plain. -/
  | divider
  | option (name : String) (value : Option String)
  /-- One dash and more; only the first character behind the dash counts. -/
  | short (c : Char)
  | plain (text : String)
  deriving DecidableEq, Repr

def Word.ofString (text : String) : Word :=
  match text.toList with
  | ['-', '-'] => divider
  | '-' :: '-' :: rest =>
    match splitEquals rest with
    | some (name, value) => option (String.ofList name) (some (String.ofList value))
    | none => option (String.ofList rest) none
  | '-' :: c :: _ => short c
  | _ => plain text

/-- How far the words have been taken: what they gave, and the option that still waits for its value
to be looked at, with the value if there is one. -/
structure Progress where
  given : Given := {}
  waiting : Option (Keyword × Option String) := none

namespace Progress

/-- Looks at the value of the option that waits. -/
def settle (p : Progress) : Except UsageFault Given :=
  match p.waiting with
  | none => .ok p.given
  | some (k, none) => .error (.noValue k)
  | some (k, some value) => p.given.give k value

/-- Begins an option. -/
def begin (p : Progress) (k : Keyword) (value : Option String) : Except UsageFault Progress :=
  match k.valueName, value with
  | none, some value => .error (.unexpectedValue k value)
  | none, none => do return { given := ← (← p.settle).set k }
  | some _, some value => do return { given := ← (← p.settle).give k value }
  | some _, none => do return { given := ← p.settle, waiting := some (k, none) }

/-- Takes a word. -/
def take (p : Progress) : Word → Except UsageFault Progress
  | .divider => .ok p
  | .option name value =>
    match Keyword.ofName? name with
    | some k => p.begin k value
    | none => .error (.unexpectedWord ("--" ++ name))
  | .short c =>
    match Keyword.ofShort? c with
    | some k => p.begin k none
    | none => .error (.unexpectedWord (String.ofList ['-', c]))
  | .plain text =>
    match p.waiting with
    | some (k, none) => .ok { p with waiting := some (k, some text) }
    | _ => .error (.unexpectedWord text)

/-- Takes all words, up to one that asks for information. -/
def takeAll (p : Progress) : List String → Except UsageFault Progress
  | [] => .ok p
  | text :: rest =>
    match Word.ofString text, rest with
    | .divider, [] => .ok p
    | .divider, next :: _ => .error (.unexpectedWord next)
    | word, rest => do
      let p ← p.take word
      if p.given.topic.isSome then return p else p.takeAll rest

end Progress

/-- What words ask for. -/
def Request.parse (words : List String) : Except UsageFault Request := do
  let p ← Progress.takeAll {} words
  (← p.settle).request

end Adventure.CommandLine
