import Adventure.Game.Bundle
import Adventure.Registry.Basic
import Adventure.Session.Fault

/-! # Plugins

A game names the plugins that it wants. A `Host` knows plugins by key; it makes those that are
wanted, hands them their data, and starts them. Plugins that it does not know are left out.

* `checkInfos` — what a game may ask for at all.
* `Host.enlistAll` — makes plugins, in the order that the game names them.
* `Host.startAll` — starts them.
-/

namespace Adventure

/-- Plugins that have been made may change the world and the registry while they start. -/
structure Plugin where
  name : String
  /-- Takes the data that the plugin left in the game; fails with its reasons, outermost first. -/
  accept : Bytes → Except (List String) Unit
  /-- Starts the plugin. What it has done before it fails stays done. -/
  start : World → Registry → Except (List String) Unit × World × Registry

namespace Plugin

/-- Longest name of a plugin, in bytes. -/
def maxNameSize : Nat := 20

/-- The characters of plugin names. -/
def isNameChar (c : Char) : Bool :=
  ('A' ≤ c && c ≤ 'Z') || ('a' ≤ c && c ≤ 'z') || ('0' ≤ c && c ≤ '9') || c = '_' || c = '.'
    || c = '-'

def isValidName (name : String) : Bool :=
  name.utf8ByteSize ≤ maxNameSize && !name.isEmpty && name.toList.all isNameChar

/-- Refuses too many plugins and names that no plugin has. -/
def checkInfos (infos : List Info) (limit : Nat) : Except StartFault Unit :=
  if limit < infos.length then .error (.tooManyPlugins infos.length limit)
  else match infos.find? fun info => !isValidName info.name with
    | some info => .error (.badPluginName info.name)
    | none => .ok ()

/-- The key of a name: letter case and the ending `.dll` do not count. -/
def key (name : String) : String :=
  let chars := (Text.fold name).toList
  if [ '.', 'd', 'l', 'l'].isSuffixOf chars then String.ofList (chars.take (chars.length - 4))
  else String.ofList chars

/-- Plugins that can be made, and those that have been. -/
structure Host where
  known : Std.ExtTreeMap String Plugin := ∅
  loaded : List Plugin := []

namespace Host

/-- Makes a plugin known under a name. -/
def add (h : Host) (name : String) (p : Plugin) : Host :=
  { h with known := h.known.insert (key name) p }

/-- Makes the plugins that a game names, up to the first that does not take its data. -/
def enlistAll (h : Host) : List Info → Except StartFault Unit × Host
  | [] => (.ok (), h)
  | info :: rest =>
    match h.known[key info.name]? with
    | none => h.enlistAll rest
    | some p =>
      match p.accept info.data with
      | .error reasons => (.error (.pluginFailed info.name reasons), h)
      | .ok _ => { h with loaded := h.loaded ++ [p] }.enlistAll rest

/-- Starts plugins in order, up to the first that fails. -/
def startAll : List Plugin → World → Registry → Except StartFault Unit × World × Registry
  | [], w, r => (.ok (), w, r)
  | p :: rest, w, r =>
    match p.start w r with
    | (.error reasons, w, r) => (.error (.pluginFailed p.name reasons), w, r)
    | (.ok _, w, r) => startAll rest w r

/-- The names of the plugins that have been made. -/
def names (h : Host) : List String := h.loaded.map (·.name)

/-- A listing of known keys and of plugins that have been made. -/
def listing (h : Host) : String :=
  "PluginHost \x7b factories: " ++ Text.quotedList h.known.keys
    ++ ", loaded: " ++ Text.quotedList h.names ++ " \x7d"

end Host

end Plugin

end Adventure
