import Adventure.Bitmap
import Adventure.Json.Printer
import Adventure.Room.Version

/-! # What can be wrong with rooms

All causes for which a room is refused, read, written or resized in vain, with one rendering:
a cause inside something reads as the place, a colon, and the cause.
-/

namespace Adventure.Room

/-- Things that a room file counts. -/
inductive Entry where
  | walkBehind
  | hotspot
  | object
  | region
  | walkArea
  | message
  | frame
  deriving DecidableEq, Repr

def Entry.name : Entry → String
  | walkBehind => "walk-behind"
  | hotspot => "hotspot"
  | object => "object"
  | region => "region"
  | walkArea => "walkable area"
  | message => "message"
  | frame => "background frame"

/-- Places that a cause can lie in. -/
inductive Place where
  | magic
  | text
  | legacyText
  | palette
  | frame (index : Nat)
  | walkBehindMask
  | hotspotMask
  | walkAreaMask
  | regionMask
  | reading (path : String)
  | decoding (path : String)
  | writing (path : String)
  deriving DecidableEq, Repr

def Place.name : Place → String
  | magic => "reading room magic"
  | text => "string is not valid UTF-8"
  | legacyText => "unterminated legacy string"
  | palette => "reading palette"
  | frame index => s!"background frame {index}"
  | walkBehindMask => "walk-behind mask"
  | hotspotMask => "hotspot mask"
  | walkAreaMask => "walkable area mask"
  | regionMask => "region mask"
  | reading path => s!"reading room file {path}"
  | decoding path => s!"decoding room file {path}"
  | writing path => s!"writing room file {path}"

/-- Why a room is refused. -/
inductive Fault where
  /-- The data ends too early. -/
  | endOfData
  | notARoom (magic : Bytes)
  | unsupported (version : Version)
  | countAboveLimit (count limit : Nat) (what : Entry)
  | tooMany (limit : Nat) (what : Entry)
  | textPastEnd (size : Nat)
  | badText (fault : Text.Utf8.Fault)
  | legacyTextTooLong (limit : Nat)
  | badVolume (raw : Int)
  | badDensity (raw : Nat)
  | badFrameCount (count limit : Nat)
  | bitmapPastEnd (width height : UInt32) (depth : UInt8)
  | badBitmap (fault : Bitmap.Fault)
  -- a room that cannot be
  | badMaskResolution (resolution : Int32)
  | tooManyObjects (count limit : Nat)
  | emptySize (width height : Int32)
  | sizeAboveLimit (width height : Int32) (limit : Int)
  | backgroundMismatch (width height : Int32) (backgroundWidth backgroundHeight : UInt32)
  -- a room that cannot be doubled
  | tooLargeToUpscale (width height : Int32)
  | emptyToUpscale (width height : Int32)
  -- a room that a version cannot hold
  | unwritable (version : Version)
  | hotspotsAbove (count : Nat) (version : Version)
  | objectsAbove (count : Nat) (version : Version)
  | notOneFrame (version : Version)
  | unstorableMessage (index : Nat) (version : Version)
  | countTooLarge
  -- storage
  | storage (message : String)
  /-- The cause lies in a certain place. -/
  | within (place : Place) (cause : Fault)
  deriving DecidableEq, Repr

/-- Whether there is no answer but the end of the program. -/
def Fault.isOverflow : Fault → Bool
  | .badBitmap fault => fault = .overflow
  | .within _ cause => cause.isOverflow
  | _ => false

/-- A byte as two hexadecimal digits. -/
def hexByte (b : UInt8) : String :=
  String.ofList [Json.hexDigit (b.toNat / 16), Json.hexDigit (b.toNat % 16)]

/-- The wording of a fault. -/
def Fault.message : Fault → String
  | .endOfData => "failed to fill whole buffer"
  | .notARoom magic =>
    s!"not a room file (magic [" ++ ", ".intercalate (magic.map hexByte) ++ "])"
  | .unsupported version =>
    s!"unsupported room file version {version.number} " ++
    s!"(supported {Version.v208.number}..={Version.current.number})"
  | .countAboveLimit count limit what =>
    s!"room declares {count} {what.name} entries, limit is {limit}"
  | .tooMany limit what => s!"too many {what.name} entries, limit is {limit}"
  | .textPastEnd size => s!"string of {size} bytes runs past the end of the data"
  | .badText fault => fault.message
  | .legacyTextTooLong limit => s!"legacy string exceeds {limit} bytes"
  | .badVolume raw => s!"invalid room music volume {raw}"
  | .badDensity raw => s!"unknown room resolution type {raw}"
  | .badFrameCount count limit =>
    s!"room declares {count} background frames, expected 1..={limit}"
  | .bitmapPastEnd width height depth =>
    s!"bitmap {width.toNat}x{height.toNat}x{depth.toNat} runs past the end of the data"
  | .badBitmap fault => fault.message
  | .badMaskResolution resolution =>
    s!"mask resolution must be at least 1, got {resolution.toInt}"
  | .tooManyObjects count limit => s!"room has {count} objects, limit is {limit}"
  | .emptySize width height => s!"room size {width.toInt}x{height.toInt} is empty"
  | .sizeAboveLimit width height limit =>
    s!"room size {width.toInt}x{height.toInt} exceeds {limit}x{limit}"
  | .backgroundMismatch width height backgroundWidth backgroundHeight =>
    s!"room size {width.toInt}x{height.toInt} does not match its " ++
    s!"{backgroundWidth.toNat}x{backgroundHeight.toNat} background"
  | .tooLargeToUpscale width height =>
    s!"room size {width.toInt}x{height.toInt} is too large to upscale"
  | .emptyToUpscale width height =>
    s!"room size {width.toInt}x{height.toInt} cannot be upscaled"
  | .unwritable version => s!"cannot write room file version {version.number}"
  | .hotspotsAbove count version =>
    s!"room has {count} hotspots, version {version.number} allows {version.maxHotspots}"
  | .objectsAbove count version =>
    s!"room has {count} objects, version {version.number} allows {version.maxObjects}"
  | .notOneFrame version => s!"version {version.number} stores exactly one background frame"
  | .unstorableMessage index version =>
    s!"message {index} cannot be stored in version {version.number}"
  | .countTooLarge =>
    "entry count does not fit u32: out of range integral type conversion attempted"
  | .storage message => message
  | .within place cause => place.name ++ ": " ++ cause.message

end Adventure.Room
