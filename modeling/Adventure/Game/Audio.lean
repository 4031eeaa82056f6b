import Adventure.Json.Shape

/-! # Audio data

Clips and the classes that clips belong to.
-/

namespace Adventure.Game

open Json

/-- A class of clips. -/
structure AudioClass where
  id : Int32 := 0
  reservedChannels : Int32 := 0
  volumeReduction : Int32 := 0
  crossfadeSpeed : Int32 := 0
  deriving DecidableEq, Repr

def AudioClass.shape : Shape AudioClass :=
  .record {} [
    field "id" .int32 (·.id) (fun x c => { c with id := x }),
    field "reserved_channels" .int32 (·.reservedChannels)
      (fun x c => { c with reservedChannels := x }),
    field "volume_reduction_while_speech_playing" .int32 (·.volumeReduction)
      (fun x c => { c with volumeReduction := x }),
    field "crossfade_speed" .int32 (·.crossfadeSpeed) (fun x c => { c with crossfadeSpeed := x })]

/-- An audio clip. -/
structure AudioClip where
  id : Int32 := 0
  scriptName : String := ""
  fileName : String := ""
  bundlingType : Int32 := 0
  clipType : Int32 := 0
  fileType : Int32 := 0
  defaultRepeat : Int32 := 0
  defaultPriority : Int32 := 0
  defaultVolume : Int32 := 0
  deriving DecidableEq, Repr

def AudioClip.shape : Shape AudioClip :=
  .record {} [
    field "id" .int32 (·.id) (fun x c => { c with id := x }),
    field "script_name" .text (·.scriptName) (fun x c => { c with scriptName := x }),
    field "file_name" .text (·.fileName) (fun x c => { c with fileName := x }),
    field "bundling_type" .int32 (·.bundlingType) (fun x c => { c with bundlingType := x }),
    field "clip_type" .int32 (·.clipType) (fun x c => { c with clipType := x }),
    field "file_type" .int32 (·.fileType) (fun x c => { c with fileType := x }),
    field "default_repeat" .int32 (·.defaultRepeat) (fun x c => { c with defaultRepeat := x }),
    field "default_priority" .int32 (·.defaultPriority)
      (fun x c => { c with defaultPriority := x }),
    field "default_volume" .int32 (·.defaultVolume) (fun x c => { c with defaultVolume := x })]

end Adventure.Game
