import Adventure.Text.Utf8

/-! # Storage

Files by path, as the rest of the library sees them.

* `Storage m` — what can be done with files; `m` says what it does besides.
* `Directory` — files held in memory, with the storage they make.
-/

namespace Adventure

/-- Why a file could not be had. -/
inductive Storage.Fault where
  | notFound
  | notADirectory
  | isADirectory
  | nameTooLong
  /-- The path has a character that no path has. -/
  | badPath
  | other (message : String)
  deriving DecidableEq, Repr

/-- The wording of a fault. -/
def Storage.Fault.message : Storage.Fault → String
  | .notFound => "No such file or directory (os error 2)"
  | .notADirectory => "Not a directory (os error 20)"
  | .isADirectory => "Is a directory (os error 21)"
  | .nameTooLong => "File name too long (os error 36)"
  | .badPath => "file name contained an unexpected NUL byte"
  | .other message => message

/-- Whether the fault says that nothing is there, rather than that something cannot be read. -/
def Storage.Fault.isAbsence : Storage.Fault → Bool
  | .notFound | .notADirectory | .nameTooLong | .badPath => true
  | .isADirectory | .other _ => false

/-- What can be done with files. -/
structure Storage (m : Type → Type) where
  read : String → m (Except Storage.Fault Bytes)
  write : String → Bytes → m (Except Storage.Fault Unit)
  /-- Whether the path names a file and no directory. -/
  isFile : String → m Bool

/-- Files in memory, by the names on the way from the root to them. -/
structure Directory where
  files : List (List String × Bytes) := []

namespace Directory

/-- The way to the current directory. Its own name is empty, so that no path names it. -/
def here : List String := ["tmp", ""]

/-- The way to the device that is always empty. -/
def nullDevice : List String := ["dev", "null"]

/-- Where a path begins. -/
def start (path : String) : List String := if path.startsWith "/" then [] else here

/-- The names in a path. -/
def names (path : String) : List String := (path.splitOn "/").filter (· ≠ "")

/-- The way that is longer by a name. Two dots lead one up, as far as there is something, and a dot
leads nowhere. -/
def extend (way : List String) (name : String) : List String :=
  if name = "." then way
  else if name = ".." then way.dropLast
  else way ++ [name]

/-- Adds a file, and the directories on the way to it. -/
def add (d : Directory) (path : String) (content : Bytes) : Directory :=
  { d with files := ((names path).foldl extend (start path), content) :: d.files }

/-- The content of the file at the end of a way. -/
def file? (d : Directory) (way : List String) : Option Bytes :=
  if way = nullDevice then some [] else d.files.lookup way

/-- Whether a way leads to a directory. -/
def isDirectory (d : Directory) (way : List String) : Bool :=
  way.isPrefixOf here || way = nullDevice.dropLast
    || d.files.any fun (other, _) => way.isPrefixOf other && way ≠ other

/-- Longest name of a file, in bytes. -/
def maxNameSize : Nat := 255

/-- Longest path, in bytes. -/
def maxPathSize : Nat := 4095

/-- Provided that `way` leads to a directory. -/
def enter (d : Directory) (way : List String) : Except Storage.Fault Unit :=
  if d.isDirectory way then .ok ()
  else .error (if (d.file? way).isSome then .notADirectory else .notFound)

/-- Goes on by one name. -/
def step (d : Directory) (way : List String) (name : String) :
    Except Storage.Fault (List String) := do
  d.enter way
  if maxNameSize < name.utf8ByteSize then throw .nameTooLong
  return extend way name

/-- Refuses what no file can be found by. -/
def checkPath (path : String) : Except Storage.Fault Unit :=
  if path.contains '\x00' then .error .badPath
  else if path.isEmpty then .error .notFound
  else if maxPathSize < path.utf8ByteSize then .error .nameTooLong
  else .ok ()

/-- The content of a file. -/
def read (d : Directory) (path : String) : Except Storage.Fault Bytes := do
  checkPath path
  let way ← (names path).foldlM d.step (start path)
  if d.isDirectory way then throw .isADirectory
  match d.file? way with
  | none => throw .notFound
  | some content =>
    if path.endsWith "/" then throw .notADirectory
    return content

/-- Puts a file in place. A path with a slash at its end is one of a directory, whether there is
one or not. -/
def write (d : Directory) (path : String) (content : Bytes) : Except Storage.Fault Directory := do
  checkPath path
  let parent ← (names path).dropLast.foldlM d.step (start path)
  d.enter parent
  if path.endsWith "/" then throw .isADirectory
  let way ← (names path).getLast?.toList.foldlM d.step parent
  if d.isDirectory way then throw .isADirectory
  if way = nullDevice then return d
  return { d with files := (way, content) :: d.files }

/-- The files seen from the current directory as a storage. -/
def storage : Storage (StateM Directory) where
  read path := do return (← get).read path
  write path content := do
    match (← get).write path content with
    | .ok d => set d; return .ok ()
    | .error fault => return .error fault
  isFile path := do return (← get).read path matches .ok _

end Directory

end Adventure
