import Adventure.CommandLine.Run

/-! # The program

The command line over the files of the machine.
-/

namespace Adventure

/-- The fault behind an error of the machine. -/
def Storage.Fault.ofError : IO.Error → Storage.Fault
  | .noFileOrDirectory _ _ _ => notFound
  | .inappropriateType _ code _ => if code = 20 then notADirectory else isADirectory
  | .invalidArgument (some _) 36 _ => nameTooLong
  | error => other (toString error)

/-- The files of the machine. -/
def machineStorage : Storage IO where
  read path := do
    try
      return .ok (← IO.FS.readBinFile path).toList
    catch error => return .error (.ofError error)
  write path content := do
    try
      IO.FS.writeBinFile path (ByteArray.mk content.toArray)
      return .ok ()
    catch error => return .error (.ofError error)
  isFile path := do
    try
      let _ ← IO.FS.readBinFile path
      return true
    catch _ => return false

end Adventure

def main (words : List String) : IO UInt32 := do
  let report ← Adventure.CommandLine.run Adventure.machineStorage words
  IO.print report.output
  IO.eprint report.complaint
  return report.exitCode
