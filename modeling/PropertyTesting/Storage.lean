import PropertyTesting.Text.Utf8

/-!
# Storage

Files and directories under a working directory, and what paths lead to. A path is a sequence of
bytes, which need not be text. A path leads nowhere if it is empty, absolute, too long, leaves the
working directory or goes through something that is no directory.
-/

namespace PropertyTesting

/-- A path, as the bytes of it. -/
structure Path where
  bytes : List UInt8
  deriving DecidableEq, Repr

namespace Path

def ofString (s : String) : Path :=
  ⟨Text.encode s⟩

/-- The text of a path, with a replacement character for each of its broken characters. -/
def text (p : Path) : String :=
  Text.decodeLossy p.bytes

end Path

/-- What paths tell of files. A path may lead to a regular file that cannot be read. -/
structure FileView where
  /-- Whether a path leads to a regular file. -/
  isFile : Path → Bool
  /-- The content of what a path leads to, if it can be read. -/
  read? : Path → Option ByteArray

/-- The name of a file or directory. -/
abbrev FileName := List UInt8

/-- What stands at a place in the storage. -/
inductive StorageEntry where
  | file (content : ByteArray)
  | directory

/-- Files and directories by the names on the way to them from the working directory. -/
structure Storage where
  entries : List (List FileName × StorageEntry)

namespace Storage

/-- The greatest number of bytes of a name. -/
def maxNameLength : Nat := 255

/-- The greatest number of bytes of a path. -/
def maxPathLength : Nat := 4095

/-- A working directory with nothing in it. -/
def empty : Storage :=
  ⟨[]⟩

/-- What stands at a place. The working directory itself stands at the empty place. -/
def lookup? (s : Storage) (place : List FileName) : Option StorageEntry :=
  if place.isEmpty then some .directory else s.entries.lookup place

/-- Puts something at a place. -/
def put (s : Storage) (place : List FileName) (entry : StorageEntry) : Storage :=
  ⟨(place, entry) :: s.entries.filter fun e => e.1 ≠ place⟩

/-- Whether a place holds a directory. -/
def isDirectory (s : Storage) (place : List FileName) : Bool :=
  match s.lookup? place with
  | some .directory => true
  | _ => false

/-- Cuts bytes at the slashes. -/
def splitAtSlashes : List UInt8 → List FileName
  | [] => [[]]
  | b :: rest =>
    if b = 0x2F then [] :: splitAtSlashes rest
    else
      match splitAtSlashes rest with
      | [] => [[b]]
      | name :: names => (b :: name) :: names

/-- The name that stands for a directory itself. -/
def selfName : FileName := [0x2E]

/-- The name that stands for the directory around a directory. -/
def parentName : FileName := [0x2E, 0x2E]

/-- Follows names from a place, which must hold a directory as long as there is a name to follow.
Only the last name may lead to nothing. -/
def follow? (s : Storage) (place : List FileName) : List FileName → Option (List FileName)
  | [] => some place
  | name :: rest =>
    if !s.isDirectory place || maxNameLength < name.length then none
    else if name.isEmpty || name = selfName then s.follow? place rest
    else if name = parentName then if place.isEmpty then none else s.follow? place.dropLast rest
    else s.follow? (place ++ [name]) rest

/-- The place that a path leads to. -/
def place? (s : Storage) (p : Path) : Option (List FileName) :=
  if p.bytes.isEmpty || p.bytes.head? = some 0x2F || p.bytes.contains 0
      || maxPathLength < p.bytes.length then none
  else s.follow? [] (splitAtSlashes p.bytes)

/-- The content of the file that a path leads to. -/
def read? (s : Storage) (p : Path) : Option ByteArray := do
  match s.lookup? (← s.place? p) with
  | some (.file content) => some content
  | _ => none

/-- Whether a path leads to a file. -/
def isFile (s : Storage) (p : Path) : Bool :=
  (s.read? p).isSome

/-- What paths tell of the files of a storage. -/
def view (s : Storage) : FileView :=
  ⟨s.isFile, s.read?⟩

/-- Opens the file that a path leads to for writing at its end. A missing file is made. Gives the
place of the file. -/
def openToAppend? (s : Storage) (p : Path) : Option (List FileName × Storage) := do
  let place ← s.place? p
  match s.lookup? place with
  | some (.file _) => some (place, s)
  | some .directory => none
  | none => some (place, s.put place (.file ByteArray.empty))

/-- Writes at the end of the file at a place. -/
def append (s : Storage) (place : List FileName) (bytes : ByteArray) : Storage :=
  match s.lookup? place with
  | some (.file content) => s.put place (.file (content ++ bytes))
  | _ => s

end Storage

end PropertyTesting
