import ProtoTypings.Disk.Path
import ProtoTypings.Text.Utf8

/-!
# Disks

A disk is a finite tree of directories and files without links. Its places are named by the parts of
their absolute paths, and it is given by the list of its places with what stands there; the root,
the place without parts, is a directory on every disk.

A path text is followed part by part from the working directory, or from the root where it begins
with a slash. A part of two dots leads to the enclosing directory of the place reached, so that
`a/..` exists only where the directory `a` does. Whatever is refused is refused for a cause, which
an error message names together with the path.
-/

namespace ProtoTypings

/-! ## Places -/

/-- A place on a disk: the parts of its absolute path. -/
abbrev Place := List Text

/-- The absolute path of a place. -/
def Place.path (place : Place) : Path :=
  ⟨['/'], place⟩

/-- A place and all that enclose it, from the innermost to the root. -/
def Place.chain (place : Place) : List Place :=
  (List.range (place.length + 1)).map fun n => place.take (place.length - n)

/-- Where the parts of a path lead from a place by the path alone: two dots take the last part away,
whatever is on the disk. -/
def Place.resolve (place : Place) (parts : List Text) : Place :=
  parts.foldl
    (fun reached part =>
      if part = ['.'] then reached
      else if part = ['.', '.'] then reached.dropLast
      else reached ++ [part])
    place

/-! ## What a disk holds -/

/-- What stands at a place. -/
inductive Entry where
  | file (bytes : List UInt8)
  | directory
  deriving DecidableEq, Repr

/-- The places of a disk with what stands there. The first mention of a place counts. -/
structure Disk where
  entries : List (Place × Entry) := []
  deriving DecidableEq, Repr

/-- Why the disk refuses a request. -/
inductive Refusal where
  /-- Nothing stands at the place, or at one on the way to it. -/
  | missing
  /-- Something stands where a directory is to be made. -/
  | exists
  /-- The way leads through a file. -/
  | notDirectory
  /-- A directory stands where a file is to be read or written. -/
  | isDirectory
  /-- A part of the path, or the whole of it, is too long. -/
  | nameTooLong
  deriving DecidableEq, Repr

namespace Refusal

/-- The number of a refusal. -/
def number : Refusal → Nat
  | .missing => 2
  | .exists => 17
  | .notDirectory => 20
  | .isDirectory => 21
  | .nameTooLong => 36

/-- The words for a refusal. -/
def message : Refusal → Text
  | .missing => "No such file or directory".toList
  | .exists => "File exists".toList
  | .notDirectory => "Not a directory".toList
  | .isDirectory => "Is a directory".toList
  | .nameTooLong => "File name too long".toList

end Refusal

/-- Why a request to the disk fails. -/
inductive DiskFault where
  /-- The disk refuses it. -/
  | refused (refusal : Refusal) (path : Text)
  /-- The path holds a null character and is not passed on to the disk. -/
  | nullInPath
  deriving DecidableEq, Repr

/-- The message of a failed request. -/
def DiskFault.message : DiskFault → Text
  | .refused refusal path =>
    "[Errno ".toList ++ Nat.toDigits 10 refusal.number ++ "] ".toList ++ refusal.message
      ++ ": ".toList ++ path.quoted
  | .nullInPath => "embedded null byte".toList

/-- Where a path leads. -/
inductive Target where
  /-- To a place where something stands. -/
  | found (place : Place) (entry : Entry)
  /-- To a free place in an existing directory. -/
  | vacant (place : Place)
  deriving DecidableEq, Repr

namespace Disk

/-- The number of bytes that a part of a path may have. -/
def maxPartSize : Nat := 255

/-- The number of bytes that a path may have. -/
def maxPathSize : Nat := 4095

/-- What stands at a place. -/
def lookup? (disk : Disk) (place : Place) : Option Entry :=
  if place = [] then some .directory else disk.entries.lookup place

/-- The disk with an entry put at a place. -/
def put (disk : Disk) (place : Place) (entry : Entry) : Disk :=
  ⟨(place, entry) :: disk.entries.filter (·.1 ≠ place)⟩

theorem lookup?_put_self {disk : Disk} {place : Place} (h : place ≠ []) (entry : Entry) :
    (disk.put place entry).lookup? place = some entry := by
  simp [lookup?, put, h]

theorem lookup?_put_of_ne {disk : Disk} {place other : Place} (h : other ≠ place) (entry : Entry) :
    (disk.put place entry).lookup? other = disk.lookup? other := by
  simp only [lookup?, put, List.lookup_cons, beq_false_of_ne h]
  congr 1
  induction disk.entries with
  | nil => rfl
  | cons e es ih =>
    by_cases he : e.1 = place
    · rw [List.filter_cons_of_neg (by simp [he]), List.lookup_cons,
        beq_false_of_ne fun hoe => h (hoe.trans he)]
      exact ih
    · rw [List.filter_cons_of_pos (by simp [he]), List.lookup_cons, List.lookup_cons]
      split
      · rfl
      · exact ih

/-! ## Following a path -/

/-- Follows the parts of a path from a directory. -/
def follow (disk : Disk) (directory : Place) : List Text → Except Refusal Target
  | [] => .ok (.found directory .directory)
  | part :: later =>
    if part = ['.'] then disk.follow directory later
    else if part = ['.', '.'] then disk.follow directory.dropLast later
    else if maxPartSize < Utf8.size part then .error .nameTooLong
    else
      let place := directory ++ [part]
      match disk.lookup? place with
      | some .directory => disk.follow place later
      | some (.file bytes) =>
        if later = [] then .ok (.found place (.file bytes)) else .error .notDirectory
      | none => if later = [] then .ok (.vacant place) else .error .missing

/-- Where a path text leads from the working directory. -/
def locate (disk : Disk) (workplace : Place) (path : Text) : Except DiskFault Target :=
  if path.contains '\x00' then .error .nullInPath
  else if path = [] then .error (.refused .missing path)
  else if maxPathSize < Utf8.size path then .error (.refused .nameTooLong path)
  else
    let start := if path.head? = some '/' then [] else workplace
    (disk.follow start path.pathParts).mapError (.refused · path)

/-- What stands where a path text leads. A slash at its end asks for a directory. -/
def status (disk : Disk) (workplace : Place) (path : Text) : Except DiskFault Entry := do
  match ← disk.locate workplace path with
  | .found _ .directory => return .directory
  | .found _ (.file bytes) =>
    if path.getLast? = some '/' then throw (.refused .notDirectory path) else return .file bytes
  | .vacant _ => throw (.refused .missing path)

/-- Whether a path leads anywhere. -/
def holds (disk : Disk) (workplace : Place) (path : Text) : Bool :=
  (disk.status workplace path).toBool

/-- Whether a path leads to a directory. -/
def isDirectory (disk : Disk) (workplace : Place) (path : Text) : Bool :=
  match disk.status workplace path with
  | .ok .directory => true
  | _ => false

/-- Whether a path leads to a file. -/
def isFile (disk : Disk) (workplace : Place) (path : Text) : Bool :=
  match disk.status workplace path with
  | .ok (.file _) => true
  | _ => false

/-! ## Files -/

/-- The file at a place. -/
def fileAt? (disk : Disk) (place : Place) : Option (List UInt8) :=
  match disk.follow [] place with
  | .ok (.found _ (.file bytes)) => some bytes
  | _ => none

/-- The bytes of a file. -/
def read (disk : Disk) (workplace : Place) (path : Path) : Except DiskFault (List UInt8) := do
  match ← disk.locate workplace path.text with
  | .found _ (.file bytes) => return bytes
  | .found _ .directory => throw (.refused .isDirectory path.text)
  | .vacant _ => throw (.refused .missing path.text)

/-- The disk after bytes have been written to a file, a new one or in place of what it held. -/
def write (disk : Disk) (workplace : Place) (path : Path) (bytes : List UInt8) :
    Except DiskFault Disk := do
  match ← disk.locate workplace path.text with
  | .found _ .directory => throw (.refused .isDirectory path.text)
  | .found place (.file _) => return disk.put place (.file bytes)
  | .vacant place => return disk.put place (.file bytes)

/-- The files below a directory with what they hold, and the directories below it, by the parts of
their paths from there. -/
def below (disk : Disk) (directory : Place) : List (List Text × Entry) :=
  disk.entries.filterMap fun (place, entry) =>
    if directory.isPrefixOf place ∧ directory.length < place.length then
      some (place.drop directory.length, entry)
    else none

/-- The files that are new after a change of the disk, or hold something else. -/
def changes (before after : Disk) : List (Place × List UInt8) :=
  after.entries.filterMap fun (place, entry) =>
    match entry with
    | .file bytes => if before.lookup? place = some (.file bytes) then none else some (place, bytes)
    | .directory => none

end Disk

end ProtoTypings
