import ProtoTypings.Disk.Basic
import ProtoTypings.Json.Keys

/-!
# Configurations of the formatter

The formatter is configured by a file of one of several names, in the directory it is used from or
in one that encloses it; the nearest directory with a configuration counts. In one directory the
names have an order of preference. A package manifest comes last, and counts only when it is a JSON
object with a key for the formatter; one that cannot be read does not.

The starting directory is found on the path text alone, whatever is on the disk. The places where a
configuration may stand are looked up in turn until there is one. That the disk finds nothing at a
place, or no way there, only sends the search on; that it finds the path too long ends it.
-/

namespace ProtoTypings

/-- The names of configuration files, by preference. -/
def configNames : List Text :=
  [".prettierrc", ".prettierrc.json", ".prettierrc.yaml", ".prettierrc.yml", ".prettierrc.json5",
   ".prettierrc.js", ".prettierrc.cjs", ".prettierrc.toml", "prettier.config.js",
   "prettier.config.cjs"].map String.toList

/-- The name of a package manifest. -/
def manifestName : Text :=
  "package.json".toList

/-- The key of a package manifest that configures the formatter. -/
def manifestKey : Text :=
  "prettier".toList

/-- The places in a directory where a configuration may stand, the preferred ones first. -/
def configPlaces (directory : Place) : List Place :=
  (configNames ++ [manifestName]).map fun name => directory ++ [name]

namespace Disk

/-- Whether the content of a package manifest configures the formatter. -/
def manifestConfigures (bytes : List UInt8) : Bool :=
  match Utf8.decodeFile bytes with
  | .ok text => ((Json.keys? text).getD []).contains manifestKey
  | .error _ => false

/-- Whether a place holds a file that is a configuration. -/
def configures (disk : Disk) (place : Place) : Bool :=
  match disk.fileAt? place with
  | some bytes => place.getLast? ≠ some manifestName || manifestConfigures bytes
  | none => false

/-- Whether a place is not looked up because its path, or a part of it, is too long. -/
def findsTooLong (disk : Disk) (place : Place) : Bool :=
  maxPathSize < Utf8.size place.path.text
    || match disk.follow [] place with
      | .error .nameTooLong => true
      | _ => false

/-- The first configuration among places that are looked up in turn. A place whose path is too long
ends the search, unless a configuration stands before it. -/
def firstConfig? (disk : Disk) : List Place → Except DiskFault (Option Place)
  | [] => .ok none
  | place :: later =>
    if disk.findsTooLong place then .error (.refused .nameTooLong place.path.text)
    else if disk.configures place then .ok (some place)
    else disk.firstConfig? later

theorem firstConfig?_eq_find? {disk : Disk} {places : List Place}
    (h : ∀ place ∈ places, disk.findsTooLong place = false) :
    disk.firstConfig? places = .ok (places.find? disk.configures) := by
  induction places with
  | nil => rfl
  | cons place later ih =>
    rw [firstConfig?, if_neg (by simp [h place List.mem_cons_self]), List.find?_cons,
      ih fun other hother => h other (List.mem_cons_of_mem _ hother)]
    split <;> simp_all

/-- The first configuration in a list of directories. -/
def nearestConfig? (disk : Disk) (directories : List Place) : Except DiskFault (Option Place) :=
  directories.findSomeM? fun directory => disk.firstConfig? (configPlaces directory)

theorem nearestConfig?_eq_findSome? {disk : Disk} {directories : List Place}
    (h : ∀ directory ∈ directories, ∀ place ∈ configPlaces directory,
      disk.findsTooLong place = false) :
    disk.nearestConfig? directories
      = .ok (directories.findSome? fun directory =>
          (configPlaces directory).find? disk.configures) := by
  induction directories with
  | nil => rfl
  | cons directory later ih =>
    have first := firstConfig?_eq_find? (h directory List.mem_cons_self)
    have others := ih fun other hother => h other (List.mem_cons_of_mem _ hother)
    rw [nearestConfig?] at others
    rw [nearestConfig?, List.findSomeM?_cons, first, List.findSome?_cons]
    cases (configPlaces directory).find? disk.configures with
    | none => exact others
    | some place => rfl

/-- The configuration nearest to the directory that a path text stands for; the empty text stands
for the working directory. -/
def configFrom (disk : Disk) (workplace : Place) (directory : Text) :
    Except DiskFault (Option Place) := do
  if directory.contains '\x00' then throw .nullInPath
  let start : Place := if directory.head? = some '/' then [] else workplace
  disk.nearestConfig? (start.resolve directory.pathParts).chain

end Disk

end ProtoTypings
