import Adventure.Property
import Adventure.Registry.Fault
import Adventure.Room.Fault
import Adventure.Script.Linkage
import Adventure.Text.Quoted

/-! # What can go wrong in a session

Three families of faults: starting a game, entering a room, and calls of scripts.
-/

namespace Adventure

/-- Why a game could not be started. -/
inductive StartFault where
  | noFonts
  | tooManyAudioClasses (count limit : Nat)
  | tooManyPlugins (count limit : Nat)
  | badPluginName (name : String)
  | noPlayerCharacter (index count : Nat)
  | unlinked (fault : Script.LinkFault)
  | noFont (slot : Nat)
  | pluginFailed (name : String) (reasons : List String)
  | registration (fault : Registry.Fault)
  | alreadyStarted
  /-- A number does not fit its bits: the program stops. -/
  | overflow
  deriving DecidableEq, Repr

namespace StartFault

/-- The wording of a fault. -/
def message : StartFault → String
  | noFonts => "No fonts specified to be used in this game"
  | tooManyAudioClasses _ _ => "Too many audio types for this engine to handle"
  | tooManyPlugins _ _ => "Too many plugins for this engine to handle"
  | badPluginName _ => "Plugin name is invalid"
  | noPlayerCharacter index _ => s!"Player character {index} does not exist"
  | unlinked fault => "Script link failed: " ++ fault.message
  | noFont slot => s!"Unable to load font {slot}, no renderer could load a matching file"
  | pluginFailed name reasons =>
    s!"Plugin '{name}' failed to start: " ++ ": ".intercalate reasons
  | registration fault => "Unable to register game entities: " ++ fault.message
  | alreadyStarted => "Game is already initialized"
  | overflow => "attempt to multiply with overflow"

/-- Whether there is no answer but the end of the program. -/
def isOverflow : StartFault → Bool
  | registration fault => fault = .overflow
  | overflow => true
  | _ => false

/-- The text that the player gets to see. -/
def diagnostic (f : StartFault) : String :=
  match f with
  | tooManyAudioClasses count limit | tooManyPlugins count limit =>
    f.message ++ s!" ({count} declared, limit is {limit})"
  | badPluginName name => f.message ++ s!": '{name}'"
  | noPlayerCharacter _ count => f.message ++ s!" (game has {count} characters)"
  | _ => f.message

end StartFault

/-- A number of 32 bits in hexadecimal; negative numbers stand in two's complement. -/
def hexInt32 (i : Int32) : String := "0x" ++ Text.hexNumber i.toUInt32.toNat

/-- Why a room could not be entered. -/
inductive EnterFault where
  | wrongGame (room game : Int32)
  | badRoom (fault : Room.Fault)
  | unlinked (fault : Script.LinkFault)
  | notReady (number : Int32)
  | registration (fault : Registry.Fault)
  /-- A number does not fit its bits: the program stops. -/
  | overflow
  deriving DecidableEq, Repr

/-- The wording of a fault. -/
def EnterFault.message : EnterFault → String
  | .wrongGame room game =>
    s!"room belongs to game {hexInt32 room}, running game is {hexInt32 game}"
  | .badRoom fault => "failed to decode room: " ++ fault.message
  | .unlinked fault => "Script link failed: " ++ fault.message
  | .notReady number =>
    s!"room {number.toInt} cannot be entered before the game is initialized"
  | .registration fault => "room entity binding failed: " ++ fault.message
  | .overflow => "attempt to multiply with overflow"

/-- Whether there is no answer but the end of the program. -/
def EnterFault.isOverflow : EnterFault → Bool
  | .badRoom fault => fault.isOverflow
  | .registration fault => fault = .overflow
  | .overflow => true
  | _ => false

/-- Why a call of a script failed. -/
inductive ScriptFault where
  | property (fault : Property.Fault)
  | registry (fault : Registry.Fault)
  deriving DecidableEq, Repr

/-- The wording of a fault. -/
def ScriptFault.message : ScriptFault → String
  | .property fault => fault.message
  | .registry fault => fault.message

/-- Whether there is no answer but the end of the program. -/
def ScriptFault.isOverflow : ScriptFault → Bool
  | .property _ => false
  | .registry fault => fault = .overflow

end Adventure
